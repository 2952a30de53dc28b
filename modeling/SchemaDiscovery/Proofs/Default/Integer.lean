import Mathlib.Tactic.NormNum
import SchemaDiscovery.Proofs.Default.Agreement
import SchemaDiscovery.Proofs.Json.Integer
/-!
Default values that are integers of any length. Main statement: a target for integers takes those that have
64 bits in JSON, each as it is, and no other one; a target for decimal numbers takes longer ones too, but
keeps only those that are left as they are by the rounding to 53 significant bits.
-/

namespace SchemaDiscovery

open Decimal (Binary64 approximated digitsValue greatestNat64 leastInt64 overhang rounded)

/-- A decimal integer as it is written: digits after an optional minus sign. -/
structure IntegerNumeral where
  negative : Bool
  whole : List Char
  isWhole : Constant.IsWhole whole

namespace IntegerNumeral

def toNumeral (integer : IntegerNumeral) : Json.Numeral where
  negative := integer.negative
  whole := integer.whole
  decimals := []
  exponent := none
  tail := []
  isWhole := integer.isWhole
  isTail := .nil

def text (integer : IntegerNumeral) : String := .ofList integer.toNumeral.text

def magnitude (integer : IntegerNumeral) : Nat := integer.toNumeral.magnitude

def value (integer : IntegerNumeral) : Int :=
  if integer.negative then -(integer.magnitude : Int) else integer.magnitude

/-- The value as it is after the rounding to 53 significant bits. -/
def nearest (integer : IntegerNumeral) : Int :=
  if integer.negative then -(approximated integer.magnitude : Int) else approximated integer.magnitude

/-- The integer has 64 bits as a number of JSON. -/
def IsShort (integer : IntegerNumeral) : Prop := Json.IsShort integer.negative integer.magnitude

/-- The rounding to 53 significant bits leaves the integer as it is, and it is not too large for that. -/
def IsRound (integer : IntegerNumeral) : Prop :=
  approximated integer.magnitude = integer.magnitude ∧ integer.magnitude < 2 ^ 1024

variable {integer : IntegerNumeral}

theorem readNumber?_text (integer : IntegerNumeral) :
    Json.readNumber? (Text.trim integer.text.toList) =
      Json.numeralValue? integer.negative integer.whole [] none := by
  have trimmed : Text.trim integer.text.toList = integer.toNumeral.text := by
    rw [text, String.toList_ofList]
    have kept : Text.trim ([] ++ (integer.toNumeral.text ++ [])) = integer.toNumeral.text :=
      Text.trim_append nofun nofun integer.toNumeral.isTrimmed_text
    rwa [List.nil_append, List.append_nil] at kept
  have read : Json.readNumber integer.toNumeral.text =
      some (Json.numeralValue? integer.negative integer.whole [] none, []) := by
    rw [Json.Numeral.readNumber_text]
    exact (congrArg _ (List.append_nil _)).trans
      (Json.Numeral.readUnsigned_whole integer.negative integer.isWhole)
  rw [trimmed, Json.readNumber?, read]

theorem numeralValue_int {n : Int} : Json.numeralValue? integer.negative integer.whole [] none =
    some (.int n) ↔ integer.IsShort ∧ n = integer.value := by
  have magnitude : digitsValue 0 integer.whole = integer.magnitude := rfl
  rw [Json.numeralValue_int, magnitude, IsShort, Json.IsShort, value]
  cases integer.negative with
  | true => simp [and_assoc]
  | false => simp

theorem isDigit_whole (integer : IntegerNumeral) : ∀ d ∈ integer.whole, d.isDigit = true := by
  obtain ⟨c, digits, whole, digit, each⟩ := integer.toNumeral.whole_cons
  have same : integer.whole = c :: digits := whole
  rw [same]
  exact List.forall_mem_cons.2 ⟨digit, each⟩

theorem IsRound.overhang_le (round : integer.IsRound) : overhang integer.magnitude ≤ 308 := by
  refine Decimal.overhang_le ?_
  calc integer.magnitude / 10 ^ 308
    _ ≤ 2 ^ 1024 / 10 ^ 308 := Nat.div_le_div_right round.2.le
    _ ≤ greatestNat64 := by decide +kernel

end IntegerNumeral

/-- The literal is a number with the value of the integer. -/
def Literal.Denotes (literal : Literal) (n : Int) : Prop :=
  match literal with
  | .number (.int m) => m = n
  | .number (.float x) => x.value = n
  | _ => False

namespace IntegerNumeral

variable {integer : IntegerNumeral}

theorem nearest_eq_value : integer.nearest = integer.value ↔
    approximated integer.magnitude = integer.magnitude := by
  rw [nearest, value]
  cases integer.negative with
  | true => simp
  | false => simp

theorem exists_nearest (long : ¬ integer.IsShort) :
    ∃ x : Binary64, x.value = integer.nearest ∧
      Json.numeralValue? integer.negative integer.whole [] none =
        if overhang integer.magnitude ≤ 308 ∧ approximated integer.magnitude < 2 ^ 1024 then
          some (.float x)
        else none := by
  obtain ⟨x, negative, magnitude, read⟩ := Json.numeralValue_long integer.isDigit_whole long
  refine ⟨x, ?_, read⟩
  have same : digitsValue 0 integer.whole = integer.magnitude := rfl
  rw [magnitude.value, negative, nearest, same]
  cases integer.negative with
  | true => simp
  | false => simp

theorem denotes_iff (long : ¬ integer.IsShort) :
    (∃ k, Json.numeralValue? integer.negative integer.whole [] none = some k ∧
      (Literal.number k).Denotes integer.value) ↔ integer.IsRound := by
  obtain ⟨x, nearest, read⟩ := exists_nearest long
  have denotes : (Literal.number (.float x)).Denotes integer.value ↔
      approximated integer.magnitude = integer.magnitude := by
    rw [← nearest_eq_value, Literal.Denotes, nearest]
    exact Int.cast_inj
  rw [read]
  constructor
  · rintro ⟨k, made, exact⟩
    split at made
    · next room =>
      cases made
      have kept := denotes.1 exact
      exact ⟨kept, kept ▸ room.2⟩
    · cases made
  · intro round
    have room : approximated integer.magnitude < 2 ^ 1024 := round.1.symm ▸ round.2
    rw [if_pos ⟨round.overhang_le, room⟩]
    exact ⟨.float x, rfl, denotes.2 round.1⟩

theorem denotes_nearest {k : Json.Number} (long : ¬ integer.IsShort)
    (read : Json.numeralValue? integer.negative integer.whole [] none = some k) :
    (Literal.number k).Denotes integer.nearest := by
  obtain ⟨x, nearest, made⟩ := exists_nearest long
  rw [made] at read
  split at read
  · cases read
    exact nearest
  · cases read

end IntegerNumeral

theorem scalarOfText_decimal {text : String} {literal : Literal} :
    scalarOfText .bigDecimal text = .ok literal ↔
      ∃ k, Json.readNumber? (Text.trim text.toList) = some k ∧ literal = .number k := by
  rw [scalarOfText]
  rcases Json.readNumber? (Text.trim text.toList) with _ | k <;> simp [eq_comm]

namespace Catalog

variable {catalog : Catalog} {counted measured : TypeUse} {primitive primitive' : Bool}

theorem literalOfText_decimal (decimal : catalog.classify measured = .ok (.scalar .bigDecimal primitive))
    (integer : IntegerNumeral) (literal : Literal) :
    catalog.literalOfText integer.text measured = .ok literal ↔
      ∃ k, Json.numeralValue? integer.negative integer.whole [] none = some k ∧ literal = .number k := by
  rw [literalOfText_scalar decimal, scalarOfText_decimal, integer.readNumber?_text]

/-- In the place of an integer those that have 64 bits are kept and the others refused. In the place of a
decimal number a longer one is kept if it is round, and otherwise refused or rounded. -/
theorem integers_kept_iff (whole : catalog.classify counted = .ok (.scalar .bigInteger primitive))
    (decimal : catalog.classify measured = .ok (.scalar .bigDecimal primitive'))
    (integer : IntegerNumeral) :
    (∀ literal, catalog.literalOfText integer.text counted = .ok literal ↔
      integer.IsShort ∧ literal = .number (.int integer.value)) ∧
    ((∃ literal, catalog.literalOfText integer.text measured = .ok literal ∧
      literal.Denotes integer.value) ↔ integer.IsShort ∨ integer.IsRound) ∧
    (¬ integer.IsShort → ∀ literal, catalog.literalOfText integer.text measured = .ok literal →
      literal.Denotes integer.nearest) := by
  have opened := literalOfText_decimal decimal integer
  refine ⟨fun literal => ?_, ?_, fun long literal given => ?_⟩
  · rw [literalOfText_scalar whole, scalarOfText_integer, integer.readNumber?_text]
    simp only [IntegerNumeral.numeralValue_int, and_assoc, exists_and_left, exists_eq_left]
  · have reduced : (∃ literal, catalog.literalOfText integer.text measured = .ok literal ∧
        literal.Denotes integer.value) ↔
        ∃ k, Json.numeralValue? integer.negative integer.whole [] none = some k ∧
          (Literal.number k).Denotes integer.value := by
      simp only [opened]
      constructor
      · rintro ⟨_, ⟨k, read, rfl⟩, denotes⟩
        exact ⟨k, read, denotes⟩
      · rintro ⟨k, read, denotes⟩
        exact ⟨_, ⟨k, read, rfl⟩, denotes⟩
    rw [reduced]
    by_cases short : integer.IsShort
    · have read := IntegerNumeral.numeralValue_int.2 ⟨short, rfl⟩
      exact iff_of_true ⟨_, read, rfl⟩ (.inl short)
    · rw [IntegerNumeral.denotes_iff short, or_iff_right short]
  · obtain ⟨k, read, rfl⟩ := (opened literal).1 given
    exact IntegerNumeral.denotes_nearest long read

def count : TypeUse := .atom (.boxed .bigInteger) []

def amount : TypeUse := .atom (.boxed .bigDecimal) []

def round : IntegerNumeral where
  negative := false
  whole := "100000000000000000000".toList
  isWhole := .digits (by decide) rfl (List.all_eq_true.1 rfl)

theorem integers_kept_iff_round : round.text = "100000000000000000000" ∧
    (∀ literal, empty.literalOfText round.text count ≠ .ok literal) ∧
    ∃ literal, empty.literalOfText round.text amount = .ok literal ∧ literal.Denotes (10 ^ 20) := by
  have magnitude : round.magnitude = 10 ^ 20 := rfl
  have long : ¬ round.IsShort := by
    rintro (⟨-, fits⟩ | ⟨signed, -⟩)
    · rw [magnitude] at fits
      exact absurd fits (by decide)
    · cases signed
  have dropped : overhang (10 ^ 20) = 1 := Decimal.overhang_eq_iff.2 ⟨by decide, by decide⟩
  have isRound : round.IsRound := by
    rw [IntegerNumeral.IsRound, magnitude, approximated, dropped]
    constructor
    · decide +kernel
    · decide +kernel
  have counts : empty.classify count = .ok (.scalar .bigInteger false) := rfl
  have measures : empty.classify amount = .ok (.scalar .bigDecimal false) := rfl
  obtain ⟨whole, decimal, -⟩ := integers_kept_iff counts measures round
  refine ⟨rfl, fun literal given => ?_, ?_⟩
  · exact long ((whole literal).1 given).1
  · exact decimal.2 (.inr isRound)

def odd : IntegerNumeral where
  negative := false
  whole := "18446744073709551617".toList
  isWhole := .digits (by decide) rfl (List.all_eq_true.1 rfl)

def signedZero : IntegerNumeral := ⟨true, ['0'], .zero⟩

theorem integers_not_kept : odd.text = "18446744073709551617" ∧ signedZero.text = "-0" ∧
    (∀ literal, empty.literalOfText odd.text count ≠ .ok literal) ∧
    (∀ literal, empty.literalOfText signedZero.text count ≠ .ok literal) ∧
    (∃ literal, empty.literalOfText odd.text amount = .ok literal) ∧
    ∀ literal, empty.literalOfText odd.text amount = .ok literal → ¬ literal.Denotes odd.value := by
  have whole : empty.classify count = .ok (.scalar .bigInteger false) := rfl
  have decimal : empty.classify amount = .ok (.scalar .bigDecimal false) := rfl
  have read : Json.readNumber? (Text.trim odd.text.toList) = some (.float ⟨false, 2 ^ 52, 12⟩) := by
    decide +kernel
  have read' : Json.readNumber? (Text.trim signedZero.text.toList) = some (.float (.zero true)) := by
    decide +kernel
  refine ⟨rfl, rfl, fun literal given => ?_, fun literal given => ?_,
    ⟨.number (.float ⟨false, 2 ^ 52, 12⟩), ?_⟩, fun literal given => ?_⟩
  · rw [literalOfText_scalar whole, scalarOfText_integer, read] at given
    obtain ⟨n, same, -⟩ := given
    cases same
  · rw [literalOfText_scalar whole, scalarOfText_integer, read'] at given
    obtain ⟨n, same, -⟩ := given
    cases same
  · exact (literalOfText_scalar decimal).2 (scalarOfText_decimal.2 ⟨_, read, rfl⟩)
  · rw [literalOfText_scalar decimal, scalarOfText_decimal, read] at given
    obtain ⟨_, same, rfl⟩ := given
    cases same
    have value : odd.value = 2 ^ 64 + 1 := rfl
    rw [Literal.Denotes, value]
    norm_num [Binary64.value]

end Catalog

end SchemaDiscovery
