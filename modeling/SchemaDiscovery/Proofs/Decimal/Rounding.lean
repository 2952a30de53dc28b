import Mathlib.Algebra.Order.Ring.Rat
import Mathlib.Tactic.Positivity
import Mathlib.Tactic.Ring
import SchemaDiscovery.Decimal.Binary64
/-!
Integers as binary64 numbers. Main statement: the number nearest to an integer is that integer rounded to 53
significant bits, and there is one unless this reaches `2 ^ 1024`.
-/

namespace SchemaDiscovery.Decimal

/-- The distance of the integers around a number that have 53 significant bits. -/
def spacing (n : Nat) : Nat := 2 ^ (n.log2 - 52)

/-- The nearest integer of 53 significant bits, a half going to the even one. -/
def rounded (n : Nat) : Nat := divRoundEven n (spacing n) * spacing n

theorem spacing_pos (n : Nat) : 0 < spacing n := Nat.two_pow_pos _

theorem log2_mul_two_pow {n : Nat} (positive : 0 < n) (k : Nat) : (n * 2 ^ k).log2 = n.log2 + k := by
  rw [Nat.log2_eq_iff (Nat.mul_pos positive (Nat.two_pow_pos k)).ne']
  constructor
  · rw [Nat.pow_add]
    exact Nat.mul_le_mul_right _ (Nat.log2_self_le positive.ne')
  · rw [Nat.add_right_comm, Nat.pow_add]
    exact Nat.mul_lt_mul_of_pos_right Nat.lt_log2_self (Nat.two_pow_pos k)

theorem divRoundEven_mul_right (n d : Nat) {k : Nat} (positive : 0 < k) :
    divRoundEven (n * k) (d * k) = divRoundEven n d := by
  have below : 2 * (n % d * k) < d * k ↔ 2 * (n % d) < d := by
    rw [← Nat.mul_assoc]
    exact Nat.mul_lt_mul_right positive
  have above : d * k < 2 * (n % d * k) ↔ d < 2 * (n % d) := by
    rw [← Nat.mul_assoc]
    exact Nat.mul_lt_mul_right positive
  unfold divRoundEven
  simp only [Nat.mul_div_mul_right _ _ positive, Nat.mul_mod_mul_right, below, above]

theorem divRoundEven_mul (n : Nat) {d : Nat} (positive : 0 < d) : divRoundEven (n * d) d = n := by
  simp [divRoundEven, Nat.mul_div_cancel _ positive, positive]

theorem divRoundEven_bounds (n d : Nat) : n / d ≤ divRoundEven n d ∧ divRoundEven n d ≤ n / d + 1 := by
  unfold divRoundEven
  dsimp only
  split_ifs <;> omega

theorem rounded_of_small {n : Nat} (small : n < 2 ^ 53) : rounded n = n := by
  have unit : spacing n = 1 := by
    have bits : n.log2 ≤ 52 := by
      by_cases zero : n = 0
      · simp [zero]
      · have := (Nat.log2_lt zero).2 small
        omega
    rw [spacing, Nat.sub_eq_zero_of_le bits, Nat.pow_zero]
  have whole := divRoundEven_mul n (d := 1) Nat.one_pos
  rw [Nat.mul_one] at whole
  rw [rounded, unit, whole, Nat.mul_one]

theorem divRoundEven_spacing {n : Nat} (large : 52 ≤ n.log2) :
    2 ^ 52 ≤ divRoundEven n (spacing n) ∧ divRoundEven n (spacing n) ≤ 2 ^ 53 := by
  have positive : n ≠ 0 := by
    rintro rfl
    simp at large
  have split : 2 ^ n.log2 = 2 ^ 52 * spacing n := by
    rw [spacing, ← Nat.pow_add]
    congr 1
    omega
  have least : 2 ^ 52 ≤ n / spacing n := by
    rw [Nat.le_div_iff_mul_le (spacing_pos n), ← split]
    exact Nat.log2_self_le positive
  have greatest : n / spacing n < 2 ^ 53 := by
    have below : n < 2 ^ n.log2 * 2 := Nat.lt_log2_self
    rw [Nat.div_lt_iff_lt_mul (spacing_pos n)]
    calc n
      _ < 2 ^ 52 * spacing n * 2 := split ▸ below
      _ = 2 ^ 53 * spacing n := by ring
  have bounds := divRoundEven_bounds n (spacing n)
  omega

theorem rounded_le (n : Nat) : rounded n ≤ n + n / 2 ^ 52 := by
  by_cases small : n < 2 ^ 53
  · rw [rounded_of_small small]
    exact Nat.le_add_right n _
  · have positive : n ≠ 0 := by omega
    have large : 52 ≤ n.log2 := by
      rw [Nat.le_log2 positive]
      omega
    have unit : spacing n ≤ n / 2 ^ 52 := by
      rw [Nat.le_div_iff_mul_le (by decide), spacing, ← Nat.pow_add, Nat.sub_add_cancel large]
      exact Nat.log2_self_le positive
    calc rounded n
      _ ≤ (n / spacing n + 1) * spacing n := Nat.mul_le_mul_right _ (divRoundEven_bounds n _).2
      _ = n / spacing n * spacing n + spacing n := Nat.succ_mul _ _
      _ ≤ n + n / 2 ^ 52 := Nat.add_le_add (Nat.div_mul_le_self n _) unit

theorem rounded_pos {n : Nat} (positive : 0 < n) : 0 < rounded n := by
  by_cases small : n < 2 ^ 53
  · rwa [rounded_of_small small]
  · have large : 52 ≤ n.log2 := by
      rw [Nat.le_log2 positive.ne']
      omega
    exact Nat.mul_pos (Nat.lt_of_lt_of_le (by decide) (divRoundEven_spacing large).1) (spacing_pos n)

theorem rounded_mul_two_pow {significand : Nat} (least : 2 ^ 52 ≤ significand)
    (greatest : significand < 2 ^ 53) (e : Nat) :
    rounded (significand * 2 ^ e) = significand * 2 ^ e := by
  have positive : 0 < significand := Nat.lt_of_lt_of_le (by decide) least
  have bits : significand.log2 = 52 := (Nat.log2_eq_iff positive.ne').2 ⟨least, greatest⟩
  have unit : spacing (significand * 2 ^ e) = 2 ^ e := by
    rw [spacing, log2_mul_two_pow positive, bits, Nat.add_sub_cancel_left]
  rw [rounded, unit, divRoundEven_mul _ (Nat.two_pow_pos e)]

theorem rounded_rounded (n : Nat) : rounded (rounded n) = rounded n := by
  by_cases small : n < 2 ^ 53
  · rw [rounded_of_small small, rounded_of_small small]
  · have large : 52 ≤ n.log2 := by
      rw [Nat.le_log2 (by omega)]
      omega
    obtain ⟨least, greatest⟩ := divRoundEven_spacing large
    obtain ⟨e, unit⟩ : ∃ e, spacing n = 2 ^ e := ⟨_, rfl⟩
    have whole : rounded n = divRoundEven n (spacing n) * 2 ^ e := congrArg _ unit
    rw [whole]
    by_cases full : divRoundEven n (spacing n) = 2 ^ 53
    · have carry : 2 ^ 53 * 2 ^ e = 2 ^ 52 * 2 ^ (e + 1) := by ring
      rw [full, carry]
      exact rounded_mul_two_pow (Nat.le_refl _) (by decide) (e + 1)
    · exact rounded_mul_two_pow least (by omega) e

theorem mul_two_pow_lt_iff {significand : Nat} (least : 2 ^ 52 ≤ significand)
    (greatest : significand < 2 ^ 53) (e top : Nat) :
    significand * 2 ^ e < 2 ^ (53 + top) ↔ e ≤ top := by
  constructor
  · intro bound
    have below : 2 ^ (52 + e) < 2 ^ (53 + top) := by
      calc 2 ^ (52 + e)
        _ = 2 ^ 52 * 2 ^ e := Nat.pow_add 2 52 e
        _ ≤ significand * 2 ^ e := Nat.mul_le_mul_right _ least
        _ < 2 ^ (53 + top) := bound
    have := (Nat.pow_lt_pow_iff_right (by decide)).1 below
    omega
  · intro bound
    calc significand * 2 ^ e
      _ < 2 ^ 53 * 2 ^ e := Nat.mul_lt_mul_of_pos_right greatest (Nat.two_pow_pos e)
      _ ≤ 2 ^ 53 * 2 ^ top := Nat.mul_le_mul_left _ (Nat.pow_le_pow_right (by decide) bound)
      _ = 2 ^ (53 + top) := (Nat.pow_add 2 53 top).symm

theorem lt_two_pow_add {n : Nat} (few : n < 2 ^ 53) (top : Nat) : n < 2 ^ (53 + top) := by
  calc n
    _ < 2 ^ 53 := few
    _ ≤ 2 ^ (53 + top) := Nat.pow_le_pow_right (by decide) (Nat.le_add_right 53 top)

namespace Binary64

/-- The number is an integer of that magnitude. -/
def HasMagnitude (x : Binary64) (n : Nat) : Prop := x.ratio.1 = n * x.ratio.2

theorem hasMagnitude_zero (negative : Bool) : (zero negative).HasMagnitude 0 :=
  (Nat.zero_mul _).symm

theorem exists_denominator (x : Binary64) : ∃ k, x.ratio.2 = 2 ^ k := by
  unfold ratio
  split
  · exact ⟨0, rfl⟩
  · exact ⟨_, rfl⟩

variable {n : Nat}

theorem exponentOf_mul_two_pow (positive : 0 < n) (k : Nat) :
    exponentOf (n * 2 ^ k) (2 ^ k) = (n.log2 : Int) - 52 := by
  have guess : ((n * 2 ^ k).log2 : Int) - ((2 ^ k).log2 : Int) - 52 = (n.log2 : Int) - 52 := by
    rw [log2_mul_two_pow positive, Nat.log2_two_pow]
    omega
  have first : leastNormal * (scaled (n * 2 ^ k) (2 ^ k) ((n.log2 : Int) - 52)).2 ≤
      (scaled (n * 2 ^ k) (2 ^ k) ((n.log2 : Int) - 52)).1 := by
    have least := Nat.log2_self_le positive.ne'
    have normal : leastNormal = 2 ^ 52 := rfl
    cases shape : (n.log2 : Int) - 52 with
    | ofNat e =>
      have log : n.log2 = 52 + e := by
        have same : (n.log2 : Int) - 52 = e := shape
        omega
      rw [log] at least
      show leastNormal * (2 ^ k * 2 ^ e) ≤ n * 2 ^ k
      calc leastNormal * (2 ^ k * 2 ^ e)
        _ = 2 ^ (52 + e) * 2 ^ k := by rw [normal]; ring
        _ ≤ n * 2 ^ k := Nat.mul_le_mul_right _ least
    | negSucc e =>
      have log : n.log2 + (e + 1) = 52 := by omega
      show leastNormal * 2 ^ k ≤ n * 2 ^ k * 2 ^ (e + 1)
      calc leastNormal * 2 ^ k
        _ = 2 ^ n.log2 * 2 ^ (e + 1) * 2 ^ k := by rw [normal, ← Nat.pow_add 2 n.log2, log]
        _ ≤ n * 2 ^ (e + 1) * 2 ^ k :=
          Nat.mul_le_mul_right _ (Nat.mul_le_mul_right _ least)
        _ = n * 2 ^ k * 2 ^ (e + 1) := Nat.mul_right_comm _ _ _
  unfold exponentOf
  rw [guess]
  show max leastExponent (if (scaled (n * 2 ^ k) (2 ^ k) ((n.log2 : Int) - 52)).1 <
    leastNormal * (scaled (n * 2 ^ k) (2 ^ k) ((n.log2 : Int) - 52)).2 then _ else _) = _
  rw [if_neg (Nat.not_lt.2 first), leastExponent]
  omega

def carried (negative : Bool) (significand : Nat) (exponent : Int) : Binary64 :=
  if significand = 2 * leastNormal then ⟨negative, leastNormal, exponent + 1⟩
  else ⟨negative, significand, exponent⟩

theorem ofRatio_of_ne_zero (negative : Bool) {num : Nat} (present : num ≠ 0) (den : Nat) :
    ofRatio? negative num den =
      let parts := scaled num den (exponentOf num den)
      let x := carried negative (divRoundEven parts.1 parts.2) (exponentOf num den)
      if x.exponent ≤ greatestExponent then some x else none := by
  rw [ofRatio?, if_neg present]
  rfl

@[simp]
theorem negative_carried (negative : Bool) (significand : Nat) (exponent : Int) :
    (carried negative significand exponent).negative = negative := by
  unfold carried
  split <;> rfl

theorem carried_ofNat (negative : Bool) {significand : Nat} (least : 2 ^ 52 ≤ significand)
    (greatest : significand ≤ 2 ^ 53) (e : Nat) :
    (carried negative significand (.ofNat e)).HasMagnitude (significand * 2 ^ e) ∧
      ((carried negative significand (.ofNat e)).exponent ≤ greatestExponent ↔
        significand * 2 ^ e < 2 ^ 1024) := by
  have top : 1024 = 53 + 971 := rfl
  have carry : 2 * leastNormal = 2 ^ 53 := rfl
  rw [top, carried, carry]
  by_cases full : significand = 2 ^ 53
  · have same : significand * 2 ^ e = 2 ^ 52 * 2 ^ (e + 1) := by
      rw [full]
      ring
    rw [if_pos full, same, mul_two_pow_lt_iff (Nat.le_refl _) (by decide)]
    refine ⟨(Nat.mul_one _).symm, ?_⟩
    show (Int.ofNat (e + 1) ≤ 971 ↔ e + 1 ≤ 971)
    exact Int.ofNat_le
  · rw [if_neg full, mul_two_pow_lt_iff least (by omega)]
    refine ⟨(Nat.mul_one _).symm, ?_⟩
    show (Int.ofNat e ≤ 971 ↔ e ≤ 971)
    exact Int.ofNat_le

theorem ofRatio_mul_two_pow (negative : Bool) (positive : 0 < n) (k : Nat) :
    ∃ x : Binary64, x.negative = negative ∧ x.HasMagnitude (rounded n) ∧
      ofRatio? negative (n * 2 ^ k) (2 ^ k) = if rounded n < 2 ^ 1024 then some x else none := by
  have present : n * 2 ^ k ≠ 0 := (Nat.mul_pos positive (Nat.two_pow_pos k)).ne'
  rw [ofRatio_of_ne_zero negative present, exponentOf_mul_two_pow positive]
  cases shape : (n.log2 : Int) - 52 with
  | ofNat e =>
    -- From 53 bits on the quotient by the spacing is rounded, and may carry.
    have log : n.log2 = 52 + e := by
      have same : (n.log2 : Int) - 52 = e := shape
      omega
    have unit : spacing n = 2 ^ e := by rw [spacing, log, Nat.add_sub_cancel_left]
    have quotient : divRoundEven (n * 2 ^ k) (2 ^ k * Nat.pow 2 e) = divRoundEven n (spacing n) := by
      rw [unit, Nat.mul_comm (2 ^ k)]
      exact divRoundEven_mul_right _ _ (Nat.two_pow_pos k)
    have whole : rounded n = divRoundEven n (spacing n) * 2 ^ e := congrArg _ unit
    obtain ⟨least, greatest⟩ := divRoundEven_spacing (n := n) (by omega)
    obtain ⟨magnitude, bound⟩ := carried_ofNat negative least greatest e
    rw [whole]
    refine ⟨_, negative_carried _ _ _, magnitude, ?_⟩
    dsimp only [scaled]
    rw [quotient]
    exact if_congr bound rfl rfl
  | negSucc e =>
    -- With fewer bits the number is moved up to 53 and nothing is rounded.
    have log : n.log2 + (e + 1) = 52 := by omega
    have small : n * 2 ^ (e + 1) < 2 ^ 53 := by
      calc n * 2 ^ (e + 1)
        _ < 2 ^ (n.log2 + 1) * 2 ^ (e + 1) :=
          Nat.mul_lt_mul_of_pos_right Nat.lt_log2_self (Nat.two_pow_pos _)
        _ = 2 ^ 53 := by rw [← Nat.pow_add]; congr 1; omega
    have few : n < 2 ^ 53 := Nat.lt_of_le_of_lt (Nat.le_mul_of_pos_right n (Nat.two_pow_pos _)) small
    have bound : n < 2 ^ 1024 := by
      have top : 1024 = 53 + 971 := rfl
      rw [top]
      exact lt_two_pow_add few 971
    have quotient : divRoundEven (n * 2 ^ k * Nat.pow 2 (e + 1)) (2 ^ k) = n * 2 ^ (e + 1) := by
      rw [Nat.mul_right_comm]
      exact divRoundEven_mul _ (Nat.two_pow_pos k)
    rw [rounded_of_small few]
    refine ⟨⟨negative, n * 2 ^ (e + 1), .negSucc e⟩, rfl, rfl, ?_⟩
    dsimp only [scaled]
    have full : n * 2 ^ (e + 1) ≠ 2 * leastNormal := small.ne
    rw [quotient, carried, if_neg full, if_pos bound]
    exact if_pos (Int.le_trans (Int.negSucc_lt_zero e).le (by decide))

theorem HasMagnitude.ratio_eq {x : Binary64} (magnitude : x.HasMagnitude n) :
    ∃ k, x.ratio = (n * 2 ^ k, 2 ^ k) := by
  obtain ⟨k, den⟩ := x.exists_denominator
  refine ⟨k, Prod.ext ?_ den⟩
  rw [magnitude, den]

theorem HasMagnitude.neg {x : Binary64} (magnitude : x.HasMagnitude n) : x.neg.HasMagnitude n :=
  magnitude

theorem HasMagnitude.isZero_eq_false {x : Binary64} (magnitude : x.HasMagnitude n)
    (positive : 0 < n) : x.isZero = false := by
  obtain ⟨k, ratio⟩ := magnitude.ratio_eq
  rw [isZero, beq_eq_false_iff_ne]
  intro none
  have nothing : x.ratio.1 = 0 := by
    unfold Binary64.ratio
    rw [none]
    split
    · exact Nat.zero_mul _
    · rfl
  rw [ratio] at nothing
  exact (Nat.mul_pos positive (Nat.two_pow_pos k)).ne' nothing

theorem mul_of_magnitudes {x y : Binary64} {m : Nat} (first : x.HasMagnitude n) (second : y.HasMagnitude m)
    (positive : 0 < n * m) : ∃ z : Binary64, z.negative = (x.negative != y.negative) ∧
      z.HasMagnitude (rounded (n * m)) ∧
      x.mul? y = if rounded (n * m) < 2 ^ 1024 then some z else none := by
  obtain ⟨j, ratio⟩ := first.ratio_eq
  obtain ⟨k, ratio'⟩ := second.ratio_eq
  have product : n * 2 ^ j * (m * 2 ^ k) = n * m * 2 ^ (j + k) := by ring
  rw [mul?, ratio, ratio', product, ← Nat.pow_add]
  exact ofRatio_mul_two_pow _ positive (j + k)

theorem ofRatio_one (negative : Bool) (positive : 0 < n) : ∃ x : Binary64, x.negative = negative ∧
    x.HasMagnitude (rounded n) ∧
      ofRatio? negative n 1 = if rounded n < 2 ^ 1024 then some x else none := by
  have whole := ofRatio_mul_two_pow negative positive 0
  rwa [Nat.pow_zero, Nat.mul_one] at whole

def value (x : Binary64) : ℚ := (if x.negative then -1 else 1) * x.significand * 2 ^ x.exponent

theorem value_eq_ratio (x : Binary64) :
    x.value = (if x.negative then -1 else 1) * (x.ratio.1 / x.ratio.2 : ℚ) := by
  obtain ⟨negative, significand, exponent⟩ := x
  cases exponent with
  | ofNat e => simp [value, ratio]
  | negSucc e => simp [value, ratio, div_eq_mul_inv]

theorem HasMagnitude.value {x : Binary64} (magnitude : x.HasMagnitude n) :
    x.value = if x.negative then -(n : ℚ) else n := by
  obtain ⟨k, den⟩ := x.exists_denominator
  have nonzero : (x.ratio.2 : ℚ) ≠ 0 := by
    rw [den]
    positivity
  rw [value_eq_ratio, magnitude, Nat.cast_mul, mul_div_assoc, div_self nonzero, mul_one]
  split <;> simp

end Binary64

end SchemaDiscovery.Decimal
