import SchemaDiscovery.Decimal.Binary64
import SchemaDiscovery.Decimal.Range
/-!
Reading numbers from text: integers of 64 bits with a sign, and binary64 numbers with their special
values.
-/

namespace SchemaDiscovery.Decimal

inductive NumeralError
  | noDigits
  | invalidDigit
  | tooLarge
  | tooSmall
  | noFloat
  | invalidFloat
  deriving DecidableEq, Repr

def NumeralError.message : NumeralError → String
  | .noDigits => "cannot parse integer from empty string"
  | .invalidDigit => "invalid digit found in string"
  | .tooLarge => "number too large to fit in target type"
  | .tooSmall => "number too small to fit in target type"
  | .noFloat => "cannot parse float from empty string"
  | .invalidFloat => "invalid float literal"

def digitValue (c : Char) : Nat := c.toNat - '0'.toNat

def digitsValue (start : Nat) (digits : List Char) : Nat :=
  digits.foldl (fun n c => n * 10 + digitValue c) start

/-- Reads digits up to a limit; the first offence from the left decides. -/
def readMagnitude (limit : Nat) (exceeded : NumeralError) : Nat → List Char →
    Except NumeralError Nat
  | n, [] => .ok n
  | n, c :: rest =>
    if !c.isDigit then .error .invalidDigit
    else
      let next := n * 10 + digitValue c
      if limit < next then .error exceeded else readMagnitude limit exceeded next rest

def readInt64 : List Char → Except NumeralError Int
  | [] => .error .noDigits
  | ['+'] => .error .invalidDigit
  | ['-'] => .error .invalidDigit
  | '+' :: digits => (readMagnitude greatestInt64.toNat .tooLarge 0 digits).map Int.ofNat
  | '-' :: digits => (readMagnitude leastInt64.natAbs .tooSmall 0 digits).map fun n => -(n : Int)
  | digits => (readMagnitude greatestInt64.toNat .tooLarge 0 digits).map Int.ofNat

inductive Extended
  | finite (value : Binary64)
  | infinite (negative : Bool)
  | notANumber
  deriving DecidableEq, Repr

def readExponent : List Char → Option Int
  | [] => some 0
  | e :: rest =>
    if e ≠ 'e' ∧ e ≠ 'E' then none
    else
      let (negative, digits) := match rest with
        | '-' :: digits => (true, digits)
        | '+' :: digits => (false, digits)
        | digits => (false, digits)
      if digits.isEmpty ∨ !digits.all Char.isDigit then none
      else
        let n : Int := digitsValue 0 digits
        some (if negative then -n else n)

def readDecimal (text : List Char) : Option (Nat × Int) := do
  let whole := text.takeWhile Char.isDigit
  let (decimals, rest) := match text.dropWhile Char.isDigit with
    | '.' :: rest => (rest.takeWhile Char.isDigit, rest.dropWhile Char.isDigit)
    | rest => ([], rest)
  if whole.isEmpty && decimals.isEmpty then none
  else
    let exponent ← readExponent rest
    some (digitsValue (digitsValue 0 whole) decimals, exponent - decimals.length)

def readMagnitude64 (negative : Bool) (text : List Char) : Option Extended :=
  match (String.ofList (text.map Char.toLower)) with
  | "inf" => some (.infinite negative)
  | "infinity" => some (.infinite negative)
  | "nan" => some .notANumber
  | _ => (readDecimal text).map fun (digits, exponent) =>
    match Binary64.ofDecimal? negative digits exponent with
    | some value => .finite value
    | none => .infinite negative

/-- Reads a binary64 number, rounding to the nearest; what is too large reads as infinite. -/
def readFloat : List Char → Except NumeralError Extended
  | [] => .error .noFloat
  | '+' :: text => ((readMagnitude64 false text).map Except.ok).getD (.error .invalidFloat)
  | '-' :: text => ((readMagnitude64 true text).map Except.ok).getD (.error .invalidFloat)
  | text => ((readMagnitude64 false text).map Except.ok).getD (.error .invalidFloat)

end SchemaDiscovery.Decimal
