import SchemaDiscovery.Json.Basic
import SchemaDiscovery.Decimal.Numeral
/-!
The tokens of a JSON text. A string that spells a surrogate alone and a number beyond the greatest
one have no value, and their tokens say so. An integer beyond 64 bits, a negative zero, and a number
with a fraction or an exponent is a binary64 number: its leading digits, as many as fit in 64 bits,
scaled by a power of ten with one rounding each.
-/

namespace SchemaDiscovery.Json

open Decimal (Binary64 digitValue digitsValue leastInt64 greatestNat64)

inductive Token
  | beginArray
  | endArray
  | beginObject
  | endObject
  | colon
  | comma
  | string (value : Option String)
  | literal (value : Option Json)

def isSpace (c : Char) : Bool := c == ' ' || c == '\t' || c == '\n' || c == '\r'

def hexValue? (c : Char) : Option Nat :=
  if c.isDigit then some (digitValue c)
  else if 'a' ≤ c ∧ c ≤ 'f' then some (c.toNat - 'a'.toNat + 10)
  else if 'A' ≤ c ∧ c ≤ 'F' then some (c.toNat - 'A'.toNat + 10)
  else none

def spanString : List Char → Option (List Char × List Char)
  | [] => none
  | '"' :: rest => some ([], rest)
  | '\\' :: c :: rest => (spanString rest).map fun (body, after) => ('\\' :: c :: body, after)
  | c :: rest => (spanString rest).map fun (body, after) => (c :: body, after)

def codePoints : List Char → Option (List Nat)
  | [] => some []
  | '\\' :: 'u' :: a :: b :: c :: d :: rest => do
    let unit := ((← hexValue? a) * 16 + (← hexValue? b)) * 256 + (← hexValue? c) * 16 +
      (← hexValue? d)
    return unit :: (← codePoints rest)
  | '\\' :: c :: rest => do
    let point ← match c with
      | '"' => some '"'.toNat
      | '\\' => some '\\'.toNat
      | '/' => some '/'.toNat
      | 'b' => some 8
      | 'f' => some 12
      | 'n' => some 10
      | 'r' => some 13
      | 't' => some 9
      | _ => none
    return point :: (← codePoints rest)
  | c :: rest => if c.toNat < 32 then none else (codePoints rest).map (c.toNat :: ·)

def isHighSurrogate (n : Nat) : Bool := 0xD800 ≤ n && n < 0xDC00

def isLowSurrogate (n : Nat) : Bool := 0xDC00 ≤ n && n < 0xE000

/-- Joins each surrogate pair; a surrogate alone is refused. -/
def joinSurrogates : List Nat → Option (List Char)
  | [] => some []
  | [n] => if isHighSurrogate n || isLowSurrogate n then none else some [Char.ofNat n]
  | n :: m :: rest =>
    if isHighSurrogate n then
      if isLowSurrogate m then
        (joinSurrogates rest).map
          (Char.ofNat (0x10000 + (n - 0xD800) * 0x400 + (m - 0xDC00)) :: ·)
      else none
    else if isLowSurrogate n then none
    else (joinSurrogates (m :: rest)).map (Char.ofNat n :: ·)

def readString (text : List Char) : Option (Option String × List Char) := do
  let (body, rest) ← spanString text
  let points ← codePoints body
  return ((joinSurrogates points).map String.ofList, rest)

/-- Extends a significand by the digits that keep it within 64 bits, and gives the number of digits
left over. -/
def keepLeading : Nat → List Char → Nat × Nat
  | n, [] => (n, 0)
  | n, c :: rest =>
    let next := n * 10 + digitValue c
    if next ≤ greatestNat64 then keepLeading next rest else (n, (c :: rest).length)

/-- `significand * 10 ^ exponent` with one rounding for the significand and one for each power. -/
def scaled? (significand : Nat) (exponent : Int) : Option Binary64 := do
  let x ← Binary64.ofRatio? false significand 1
  let power (n : Nat) := Binary64.ofDecimal? false 1 n
  match exponent with
  | .ofNat e =>
    if x.isZero then some x else if 308 < e then none else x.mul? (← power e)
  | .negSucc e =>
    if e + 1 ≤ 308 then x.div? (← power (e + 1))
    else (← x.div? (← power 308)).div? (← power (min (e + 1 - 308) 308))

def numeralValue? (negative : Bool) (whole : List Char) (decimals : List Char)
    (exponent : Option Int) : Option Number := do
  let sign (x : Binary64) := if negative then x.neg else x
  let n := digitsValue 0 whole
  if decimals.isEmpty ∧ exponent.isNone ∧ n ≤ greatestNat64 then
    if !negative then return .int n
    else if 0 < n ∧ leastInt64 ≤ -(n : Int) then return .int (-n)
    else return .float (sign (← Binary64.ofRatio? false n 1))
  else
    let (leading, dropped) := keepLeading 0 whole
    let (significand, unread) := keepLeading leading decimals
    let places : Int := dropped - (decimals.length - unread : Nat)
    return .float (sign (← scaled? significand (places + exponent.getD 0)))

def splitDigits (text : List Char) : List Char × List Char :=
  (text.takeWhile Char.isDigit, text.dropWhile Char.isDigit)

def readFraction : List Char → Option (List Char × List Char)
  | '.' :: text =>
    let (digits, rest) := splitDigits text
    if digits.isEmpty then none else some (digits, rest)
  | text => some ([], text)

def readExponent (text : List Char) : Option (Option Int × List Char) :=
  match text with
  | c :: text =>
    if c = 'e' ∨ c = 'E' then
      let (negative, text) := match text with
        | '-' :: text => (true, text)
        | '+' :: text => (false, text)
        | text => (false, text)
      let (digits, rest) := splitDigits text
      let n : Int := digitsValue 0 digits
      if digits.isEmpty then none else some (some (if negative then -n else n), rest)
    else some (none, c :: text)
  | [] => some (none, [])

def readUnsigned (negative : Bool) (text : List Char) : Option (Option Number × List Char) := do
  let (whole, rest) := match text with
    | '0' :: rest => (['0'], rest)
    | text => splitDigits text
  if whole.isEmpty then none
  else
    let (decimals, rest) ← readFraction rest
    let (exponent, rest) ← readExponent rest
    return (numeralValue? negative whole decimals exponent, rest)

def readNumber : List Char → Option (Option Number × List Char)
  | '-' :: text => readUnsigned true text
  | text => readUnsigned false text

def readToken : List Char → Option (Token × List Char)
  | '[' :: rest => some (.beginArray, rest)
  | ']' :: rest => some (.endArray, rest)
  | '{' :: rest => some (.beginObject, rest)
  | '}' :: rest => some (.endObject, rest)
  | ':' :: rest => some (.colon, rest)
  | ',' :: rest => some (.comma, rest)
  | '"' :: rest => (readString rest).map fun (s, rest) => (.string s, rest)
  | 'n' :: 'u' :: 'l' :: 'l' :: rest => some (.literal (some .null), rest)
  | 't' :: 'r' :: 'u' :: 'e' :: rest => some (.literal (some (.bool true)), rest)
  | 'f' :: 'a' :: 'l' :: 's' :: 'e' :: rest => some (.literal (some (.bool false)), rest)
  | text => (readNumber text).map fun (n, rest) => (.literal (n.map .number), rest)

/-- The tokens of a text, each of which takes at least one of `limit` characters. -/
def tokensWithin : Nat → List Char → Option (List Token)
  | 0, _ => some []
  | limit + 1, text =>
    match text.dropWhile isSpace with
    | [] => some []
    | text => do
      let (token, rest) ← readToken text
      return token :: (← tokensWithin limit rest)

def tokens (text : List Char) : Option (List Token) := tokensWithin text.length text

end SchemaDiscovery.Json
