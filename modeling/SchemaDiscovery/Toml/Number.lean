import SchemaDiscovery.Decimal.Numeral
import SchemaDiscovery.Document.Basic
import SchemaDiscovery.Toml.Scalar
/-!
Numbers of TOML 1.1, and the documents that scalars other than strings are. An integer of more than
64 bits can be passed over; one of more than 128 bits and a number that is too large for binary64
cannot.
-/

namespace SchemaDiscovery.Toml

open Decimal (leastInt64 greatestNat64 leastInt128 greatestNat128)
open Json (hexValue?)

def isDigitRun (isDigit : Char → Bool) : List Char → Bool
  | [] => false
  | [c] => isDigit c
  | c :: '_' :: rest => isDigit c && isDigitRun isDigit rest
  | c :: rest => isDigit c && isDigitRun isDigit rest

def withoutUnderscores (text : List Char) : List Char := text.filter (· != '_')

def numberIn? (base : Nat) (text : List Char) : Option Nat :=
  if isDigitRun (fun c => (hexValue? c).any (· < base)) text then
    some ((withoutUnderscores text).foldl (fun n c => n * base + (hexValue? c).getD 0) 0)
  else none

def dropSign : List Char → List Char
  | '+' :: rest => rest
  | '-' :: rest => rest
  | text => text

def isDecimalInteger (text : List Char) : Bool :=
  text == ['0'] || text.head? != some '0' && isDigitRun Char.isDigit text

def integer? (text : List Char) : Option Int :=
  match text with
  | '0' :: 'x' :: digits => (numberIn? 16 digits).map Int.ofNat
  | '0' :: 'o' :: digits => (numberIn? 8 digits).map Int.ofNat
  | '0' :: 'b' :: digits => (numberIn? 2 digits).map Int.ofNat
  | text =>
    if isDecimalInteger (dropSign text) then
      (numberIn? 10 (dropSign text)).map fun n => if text.head? = some '-' then -n else n
    else none

def isSpecialFloat (text : List Char) : Bool :=
  dropSign text == "inf".toList || dropSign text == "nan".toList

def isDecimalFloat (text : List Char) : Bool :=
  let unsigned := dropSign text
  let isExponent (c : Char) : Bool := c == 'e' || c == 'E'
  let mantissa := unsigned.takeWhile (!isExponent ·)
  let exponent := (unsigned.dropWhile (!isExponent ·)).drop 1
  let whole := mantissa.takeWhile (· != '.')
  let fraction := (mantissa.dropWhile (· != '.')).drop 1
  let hasFraction := mantissa.contains '.'
  let hasExponent := unsigned.any isExponent
  isDecimalInteger whole && (hasFraction || hasExponent) &&
    (!hasFraction || isDigitRun Char.isDigit fraction) &&
    (!hasExponent || isDigitRun Char.isDigit (dropSign exponent))

/-- The document of any number. No descriptor holds one, so that its value is not kept. -/
def someNumber : Document := .scalar (.number (.float (.zero false)))

def documentOfInteger (n : Int) : Document :=
  if leastInt64 ≤ n ∧ n ≤ greatestNat64 then someNumber
  else if leastInt128 ≤ n ∧ n ≤ greatestNat128 then .unreadable
  else .forbidden

def documentOfFloat (text : List Char) : Document :=
  match Decimal.readFloat (withoutUnderscores text) with
  | .ok (.finite _) => someNumber
  | _ => .forbidden

def scalarOf? (text : List Char) : Option Document :=
  if text == "true".toList then some (.scalar (.bool true))
  else if text == "false".toList then some (.scalar (.bool false))
  else
    match integer? text with
    | some n => some (documentOfInteger n)
    | none =>
      if isSpecialFloat text then some someNumber
      else if isDecimalFloat text then some (documentOfFloat text)
      else if isDateTime text then
        some (.object [("$datetime", .scalar (.string (String.ofList text)))])
      else none

end SchemaDiscovery.Toml
