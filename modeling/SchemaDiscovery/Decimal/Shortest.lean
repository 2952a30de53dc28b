import SchemaDiscovery.Decimal.Binary64
/-!
The text of a binary64 number: the fewest digits that read back as the number, and of those the
nearest.
-/

namespace SchemaDiscovery.Decimal

structure Scaled where
  digits : Nat
  exponent : Int
  deriving DecidableEq, Repr

def Scaled.stripped : Nat → Scaled → Scaled
  | 0, d => d
  | n + 1, d =>
    if d.digits ≠ 0 ∧ d.digits % 10 = 0 then Scaled.stripped n ⟨d.digits / 10, d.exponent + 1⟩
    else d

/-- The magnitudes that round to a number, in units of a quarter of its last place. -/
structure Interval where
  low : Nat
  value : Nat
  high : Nat
  closed : Bool
  unit : Int

def Binary64.interval (x : Binary64) : Interval :=
  let v := 4 * x.significand
  let atPower := x.significand = Binary64.leastNormal ∧ Binary64.leastExponent < x.exponent
  ⟨if atPower then v - 1 else v - 2, v, v + 2, x.significand % 2 == 0, x.exponent - 2⟩

/-- The value of `n` units over the decimal grid `10 ^ exponent`, as a numerator and a
denominator. -/
def onGrid (n : Nat) (unit exponent : Int) : Nat × Nat :=
  let (num, den) := match unit with
    | .ofNat u => (n * Nat.pow 2 u, 1)
    | .negSucc u => (n, Nat.pow 2 (u + 1))
  match exponent with
  | .ofNat e => (num, den * Nat.pow 10 e)
  | .negSucc e => (num * Nat.pow 10 (e + 1), den)

/-- The point of the grid `10 ^ exponent` in the interval that is nearest to the value, a tie going
to the even point. -/
def Interval.pointOnGrid? (i : Interval) (exponent : Int) : Option Nat :=
  let (value, den) := onGrid i.value i.unit exponent
  let (low, _) := onGrid i.low i.unit exponent
  let (high, _) := onGrid i.high i.unit exponent
  let inside (point : Nat) : Bool :=
    if i.closed then low ≤ point * den && point * den ≤ high
    else low < point * den && point * den < high
  let below := value / den
  let nearest := divRoundEven value den
  let other := if nearest = below then below + 1 else below
  if inside nearest then some nearest
  else if inside other then some other
  else none

def leadingExponent (num den : Nat) : Int :=
  let guess : Int := (Nat.toDigits 10 num).length - (Nat.toDigits 10 den).length
  let (n, d) := match guess with
    | .ofNat e => (num, den * Nat.pow 10 e)
    | .negSucc e => (num * Nat.pow 10 (e + 1), den)
  if n < d then guess - 1 else guess

/-- The decimal with the fewest digits that rounds to the number. Seventeen digits always do. -/
def Binary64.shortest (x : Binary64) : Scaled :=
  if x.isZero then ⟨0, 0⟩
  else
    let lead := leadingExponent x.ratio.1 x.ratio.2
    let found := (List.range 17).findSome? fun (n : Nat) =>
      (x.interval.pointOnGrid? (lead - n)).map fun digits => Scaled.mk digits (lead - n)
    (found.getD ⟨0, 0⟩).stripped 17

/-- Positional notation for a leading digit from the fifth decimal place to the sixteenth integer
place, with at least one decimal; any other number in scientific notation with a signed exponent. -/
def Scaled.render (d : Scaled) : String :=
  let digits := Nat.toDigits 10 d.digits
  let lead : Int := d.exponent + digits.length - 1
  if d.digits = 0 then "0.0"
  else if 0 ≤ lead ∧ lead < 16 then
    let whole := lead.toNat + 1
    let decimals := digits.drop whole
    String.ofList ((digits.take whole).rightpad whole '0' ++ ['.'] ++
      (if decimals.isEmpty then ['0'] else decimals))
  else if -5 ≤ lead ∧ lead < 0 then
    String.ofList (['0', '.'] ++ List.replicate (-lead - 1).toNat '0' ++ digits)
  else
    let mantissa := match digits with
      | [] => []
      | [c] => [c]
      | c :: rest => c :: '.' :: rest
    String.ofList (mantissa ++ ['e', if lead < 0 then '-' else '+'] ++
      Nat.toDigits 10 lead.natAbs)

def Binary64.render (x : Binary64) : String :=
  (if x.negative then "-" else "") ++ x.shortest.render

example : (Binary64.ofDecimal? false 1 23).map Binary64.render = some "1e+23" := by decide +kernel

example : (Binary64.ofDecimal? true 30000000000000004 (-17)).map Binary64.render
    = some "-0.30000000000000004" := by decide +kernel

example : (Binary64.ofDecimal? false 1 15).map Binary64.render = some "1000000000000000.0" := by
  decide +kernel

example : (Binary64.ofDecimal? false 5 (-324)).map Binary64.render = some "5e-324" := by
  decide +kernel

end SchemaDiscovery.Decimal
