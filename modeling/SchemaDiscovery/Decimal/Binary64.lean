/-!
Finite binary64 numbers in exact integer arithmetic: rounding a ratio to the nearest number with a
half going to the even neighbour, and products and quotients rounded the same way.
-/

namespace SchemaDiscovery.Decimal

/-- The number `± significand * 2 ^ exponent`. The significand has 53 bits, or fewer at the least
exponent. -/
structure Binary64 where
  negative : Bool
  significand : Nat
  exponent : Int
  deriving DecidableEq, Repr

/-- The quotient rounded to an integer, a half to the even neighbour. -/
def divRoundEven (num den : Nat) : Nat :=
  let floor := num / den
  let rest := num % den
  if 2 * rest < den then floor
  else if den < 2 * rest then floor + 1
  else floor + floor % 2

namespace Binary64

def leastExponent : Int := -1074

def greatestExponent : Int := 971

def leastNormal : Nat := 4503599627370496

def zero (negative : Bool) : Binary64 := ⟨negative, 0, leastExponent⟩

def isZero (x : Binary64) : Bool := x.significand == 0

def neg (x : Binary64) : Binary64 := { x with negative := !x.negative }

/-- `num / den` over `2 ^ exponent`, as a numerator and a denominator. -/
def scaled (num den : Nat) (exponent : Int) : Nat × Nat :=
  match exponent with
  | .ofNat e => (num, den * Nat.pow 2 e)
  | .negSucc e => (num * Nat.pow 2 (e + 1), den)

/-- The exponent at which `num / den` has a significand of 53 bits, no less than the least one. -/
def exponentOf (num den : Nat) : Int :=
  let guess : Int := (num.log2 : Int) - (den.log2 : Int) - 52
  let (n, d) := scaled num den guess
  max leastExponent (if n < leastNormal * d then guess - 1 else guess)

/-- The number nearest to `± num / den`; `none` beyond the greatest number. -/
def ofRatio? (negative : Bool) (num den : Nat) : Option Binary64 :=
  if num = 0 then some (zero negative)
  else
    let exponent := exponentOf num den
    let (n, d) := scaled num den exponent
    let significand := divRoundEven n d
    let x : Binary64 :=
      if significand = 2 * leastNormal then ⟨negative, leastNormal, exponent + 1⟩
      else ⟨negative, significand, exponent⟩
    if x.exponent ≤ greatestExponent then some x else none

def ratio (x : Binary64) : Nat × Nat :=
  match x.exponent with
  | .ofNat e => (x.significand * Nat.pow 2 e, 1)
  | .negSucc e => (x.significand, Nat.pow 2 (e + 1))

def mul? (x y : Binary64) : Option Binary64 :=
  ofRatio? (x.negative != y.negative) (x.ratio.1 * y.ratio.1) (x.ratio.2 * y.ratio.2)

def div? (x y : Binary64) : Option Binary64 :=
  ofRatio? (x.negative != y.negative) (x.ratio.1 * y.ratio.2) (x.ratio.2 * y.ratio.1)

def ofInt? (n : Int) : Option Binary64 := ofRatio? (n < 0) n.natAbs 1

/-- The number nearest to `± digits * 10 ^ exponent`; `none` beyond the greatest number. Exponents
that leave the range whatever the digits are settled without a power. -/
def ofDecimal? (negative : Bool) (digits : Nat) (exponent : Int) : Option Binary64 :=
  let places : Int := (Nat.toDigits 10 digits).length + exponent
  if digits = 0 ∨ places < -400 then some (zero negative)
  else if 400 < places then none
  else
    match exponent with
    | .ofNat e => ofRatio? negative (digits * Nat.pow 10 e) 1
    | .negSucc e => ofRatio? negative digits (Nat.pow 10 (e + 1))

example : ofDecimal? false 1 (-1) = some ⟨false, 7205759403792794, -56⟩ := by decide +kernel

example : ofDecimal? false 5 (-324) = some ⟨false, 1, -1074⟩ := by decide +kernel

example : ofDecimal? false 18 308 = none := by decide +kernel

end Binary64

end SchemaDiscovery.Decimal
