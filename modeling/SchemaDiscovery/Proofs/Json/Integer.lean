import Mathlib.Order.Nat
import SchemaDiscovery.Proofs.Decimal.Rounding
import SchemaDiscovery.Proofs.Json.Numeral
/-!
Integers of any length in JSON. Main statement: an integer of 64 bits is read as it is, and any other one as
its leading digits times a power of ten, each of them and their product rounded to 53 significant bits.
-/

namespace SchemaDiscovery

namespace Decimal

theorem exists_fits (n : Nat) : ∃ dropped, n / 10 ^ dropped ≤ greatestNat64 := by
  refine ⟨n, ?_⟩
  rw [Nat.div_eq_of_lt (Nat.lt_pow_self (by decide))]
  exact Nat.zero_le _

/-- How many digits have to be left off the end for the others to fit in 64 bits. -/
def overhang (n : Nat) : Nat := Nat.find (exists_fits n)

/-- The leading digits that fit in 64 bits times a power of ten, with one rounding for each of the two and
one for their product. -/
def approximated (n : Nat) : Nat :=
  rounded (rounded (n / 10 ^ overhang n) * rounded (10 ^ overhang n))

theorem overhang_eq_iff {n dropped : Nat} : overhang n = dropped ↔
    n / 10 ^ dropped ≤ greatestNat64 ∧ ∀ fewer < dropped, greatestNat64 < n / 10 ^ fewer := by
  rw [overhang, Nat.find_eq_iff]
  simp only [Nat.not_le]

theorem div_overhang_le (n : Nat) : n / 10 ^ overhang n ≤ greatestNat64 :=
  Nat.find_spec (exists_fits n)

theorem overhang_le {n dropped : Nat} (fits : n / 10 ^ dropped ≤ greatestNat64) :
    overhang n ≤ dropped :=
  Nat.find_min' (exists_fits n) fits

theorem overhang_of_fits {n : Nat} (fits : n ≤ greatestNat64) : overhang n = 0 := by
  rw [overhang_eq_iff, Nat.pow_zero, Nat.div_one]
  exact ⟨fits, nofun⟩

theorem div_overhang_pos {n : Nat} (positive : 0 < n) : 0 < n / 10 ^ overhang n := by
  obtain ⟨-, more⟩ := overhang_eq_iff.1 (Eq.refl (overhang n))
  cases dropped : overhang n with
  | zero => simpa using positive
  | succ fewer =>
    have long : greatestNat64 < n / 10 ^ fewer := more fewer (by omega)
    have least : 10 ≤ greatestNat64 := by decide
    rw [Nat.pow_succ, ← Nat.div_div_eq_div_mul]
    omega

theorem approximated_of_fits {n : Nat} (fits : n ≤ greatestNat64) : approximated n = rounded n := by
  rw [approximated, overhang_of_fits fits, Nat.pow_zero, Nat.div_one,
    rounded_of_small (n := 1) (by decide), Nat.mul_one, rounded_rounded]

theorem digitsValue_bounds {digits : List Char} (each : ∀ d ∈ digits, d.isDigit = true) (start : Nat) :
    start * 10 ^ digits.length ≤ digitsValue start digits ∧
      digitsValue start digits < (start + 1) * 10 ^ digits.length := by
  induction digits generalizing start with
  | nil => simp [digitsValue]
  | cons c digits ih =>
    obtain ⟨digit, later⟩ := List.forall_mem_cons.1 each
    have small : digitValue c ≤ 9 := by
      have range : 48 ≤ c.toNat ∧ c.toNat ≤ 57 := Char.isDigit_iff_toNat.1 digit
      have zero : '0'.toNat = 48 := rfl
      rw [digitValue, zero]
      omega
    obtain ⟨least, greatest⟩ := ih later (start * 10 + digitValue c)
    have total : digitsValue start (c :: digits) =
        digitsValue (start * 10 + digitValue c) digits := rfl
    rw [total, List.length_cons, Nat.pow_succ]
    constructor
    · calc start * (10 ^ digits.length * 10)
        _ = start * 10 * 10 ^ digits.length := by ring
        _ ≤ (start * 10 + digitValue c) * 10 ^ digits.length :=
          Nat.mul_le_mul_right _ (Nat.le_add_right _ _)
        _ ≤ digitsValue (start * 10 + digitValue c) digits := least
    · calc digitsValue (start * 10 + digitValue c) digits
        _ < (start * 10 + digitValue c + 1) * 10 ^ digits.length := greatest
        _ ≤ (start * 10 + 10) * 10 ^ digits.length := Nat.mul_le_mul_right _ (by omega)
        _ = (start + 1) * (10 ^ digits.length * 10) := by ring

theorem rounded_lt {n most limit : Nat} (least : n ≤ most) (room : most + most / 2 ^ 52 < limit) :
    rounded n < limit := by
  calc rounded n
    _ ≤ n + n / 2 ^ 52 := rounded_le n
    _ ≤ most + most / 2 ^ 52 := Nat.add_le_add least (Nat.div_le_div_right least)
    _ < limit := room

theorem rounded_lt_of_fits {n : Nat} (fits : n ≤ greatestNat64) : rounded n < 2 ^ 1024 :=
  rounded_lt fits (by decide +kernel)

theorem rounded_ten_lt {places : Nat} (few : places ≤ 308) : rounded (10 ^ places) < 2 ^ 1024 :=
  rounded_lt (Nat.pow_le_pow_right (by decide) few) (by decide +kernel)

theorem ofDecimal_ten {places : Nat} (few : places ≤ 308) :
    Binary64.ofDecimal? false 1 places = Binary64.ofRatio? false (10 ^ places) 1 := by
  have digits : (Nat.toDigits 10 1).length = 1 := rfl
  unfold Binary64.ofDecimal?
  dsimp only
  rw [digits, if_neg (by omega), if_neg (by omega), Nat.one_mul]
  rfl

end Decimal

namespace Json

open Decimal

theorem keepLeading_eq {start : Nat} {digits : List Char} (fits : start ≤ greatestNat64)
    (each : ∀ d ∈ digits, d.isDigit = true) : keepLeading start digits =
      (digitsValue start digits / 10 ^ overhang (digitsValue start digits),
        overhang (digitsValue start digits)) := by
  fun_induction keepLeading start digits with
  | case1 start =>
    have none : overhang (digitsValue start []) = 0 := overhang_of_fits fits
    rw [none, Nat.pow_zero, Nat.div_one]
    rfl
  | case2 start c digits next within ih => exact ih within (List.forall_mem_cons.1 each).2
  | case3 start c digits next beyond =>
    obtain ⟨least, greatest⟩ := digitsValue_bounds each start
    obtain ⟨nextLeast, -⟩ := digitsValue_bounds (List.forall_mem_cons.1 each).2 next
    have total : digitsValue start (c :: digits) = digitsValue next digits := rfl
    have kept : digitsValue start (c :: digits) / 10 ^ (c :: digits).length = start :=
      Nat.div_eq_of_lt_le least greatest
    have last : overhang (digitsValue start (c :: digits)) = (c :: digits).length := by
      rw [overhang_eq_iff, kept]
      refine ⟨fits, fun fewer less => ?_⟩
      -- the digit that does not fit any more would have to be kept
      have few : fewer ≤ digits.length := Nat.lt_succ_iff.1 less
      calc greatestNat64
        _ < next := Nat.lt_of_not_le beyond
        _ ≤ digitsValue start (c :: digits) / 10 ^ fewer := by
          rw [Nat.le_div_iff_mul_le (Nat.pow_pos (by decide)), total]
          exact (Nat.mul_le_mul_left _ (Nat.pow_le_pow_right (by decide) few)).trans nextLeast
    rw [last, kept]

theorem scaled_ofNat {significand : Nat} (positive : 0 < significand)
    (fits : significand ≤ greatestNat64) (places : Nat) :
    ∃ x : Binary64, x.negative = false ∧
      x.HasMagnitude (rounded (rounded significand * rounded (10 ^ places))) ∧
      scaled? significand places =
        if places ≤ 308 ∧ rounded (rounded significand * rounded (10 ^ places)) < 2 ^ 1024 then some x
        else none := by
  obtain ⟨x, unsigned, magnitude, first⟩ := Binary64.ofRatio_one false positive
  obtain ⟨y, unsigned', magnitude', second⟩ :=
    Binary64.ofRatio_one false (n := 10 ^ places) (Nat.pow_pos (by decide))
  obtain ⟨z, sign, product, third⟩ := Binary64.mul_of_magnitudes magnitude magnitude'
    (Nat.mul_pos (rounded_pos positive) (rounded_pos (Nat.pow_pos (by decide))))
  rw [if_pos (rounded_lt_of_fits fits)] at first
  have zero : x.isZero = false := magnitude.isZero_eq_false (rounded_pos positive)
  refine ⟨z, by rw [sign, unsigned, unsigned']; rfl, product, ?_⟩
  have opened : scaled? significand places =
      if 308 < places then none
      else (Binary64.ofDecimal? false 1 places).bind x.mul? := by
    rw [scaled?, first]
    show (if x.isZero = true then _ else if 308 < places then _ else _) = _
    rw [zero, if_neg Bool.false_ne_true]
    rfl
  rw [opened]
  by_cases few : places ≤ 308
  · rw [if_neg (Nat.not_lt.2 few), ofDecimal_ten few, second, if_pos (rounded_ten_lt few)]
    simp only [few, true_and]
    exact third
  · rw [if_pos (Nat.lt_of_not_le few), if_neg fun both => few both.1]

def IsShort (negative : Bool) (n : Nat) : Prop :=
  negative = false ∧ n ≤ greatestNat64 ∨ negative = true ∧ 0 < n ∧ leastInt64 ≤ -(n : Int)

theorem numeralValue_long {negative : Bool} {whole : List Char} (each : ∀ d ∈ whole, d.isDigit = true)
    (long : ¬ IsShort negative (digitsValue 0 whole)) :
    ∃ x : Binary64, x.negative = negative ∧ x.HasMagnitude (approximated (digitsValue 0 whole)) ∧
      numeralValue? negative whole [] none =
        if overhang (digitsValue 0 whole) ≤ 308 ∧ approximated (digitsValue 0 whole) < 2 ^ 1024 then
          some (.float x)
        else none := by
  have kept : keepLeading 0 whole = _ := keepLeading_eq (Nat.zero_le _) each
  have fitting := div_overhang_le (digitsValue 0 whole)
  unfold numeralValue?
  rw [kept]
  dsimp only
  generalize digitsValue 0 whole = n at long fitting ⊢
  by_cases fits : n ≤ greatestNat64
  -- too small for 64 bits with a sign, though its digits fit in 64 bits
  · have signed : negative = true := by
      cases negative with
      | true => rfl
      | false => exact absurd (.inl ⟨rfl, fits⟩) long
    have large : ¬ (0 < n ∧ leastInt64 ≤ -(n : Int)) := fun range => long (.inr ⟨signed, range⟩)
    rw [if_pos ⟨rfl, rfl, fits⟩, signed, Bool.not_true, if_neg Bool.false_ne_true, if_neg large,
      approximated_of_fits fits, overhang_of_fits fits]
    have room := rounded_lt_of_fits fits
    simp only [room, Nat.zero_le, and_self, if_true]
    rcases Nat.eq_zero_or_pos n with rfl | positive
    · rw [rounded_of_small (n := 0) (by decide)]
      exact ⟨.zero true, rfl, Binary64.hasMagnitude_zero true, rfl⟩
    · obtain ⟨x, unsigned, magnitude, made⟩ := Binary64.ofRatio_one false positive
      rw [if_pos room] at made
      refine ⟨x.neg, ?_, magnitude.neg, ?_⟩
      · rw [Binary64.neg, unsigned]
        rfl
      · rw [made]
        rfl
  -- its digits do not fit in 64 bits: the leading ones are scaled by the rest
  · have positive : 0 < n := Nat.lt_of_le_of_lt (Nat.zero_le _) (Nat.lt_of_not_le fits)
    obtain ⟨x, unsigned, magnitude, made⟩ :=
      scaled_ofNat (div_overhang_pos positive) fitting (overhang n)
    refine ⟨if negative then x.neg else x, ?_, ?_, ?_⟩
    · cases negative with
      | true =>
        rw [if_pos rfl, Binary64.neg, unsigned]
        rfl
      | false => exact unsigned
    · cases negative with
      | true => exact magnitude.neg
      | false => exact magnitude
    · have places : (overhang n : Int) - (([] : List Char).length - 0 : Nat) + 0 = overhang n := by
        simp
      rw [if_neg fun short => fits short.2.2]
      dsimp only [keepLeading, Option.getD]
      rw [places, made]
      unfold approximated
      split <;> rfl

end Json

end SchemaDiscovery
