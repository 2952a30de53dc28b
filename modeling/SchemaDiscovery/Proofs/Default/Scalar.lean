import Mathlib.Algebra.Ring.Int.Defs
import SchemaDiscovery.DefaultValue
import SchemaDiscovery.Proofs.Json.Sized
import SchemaDiscovery.Proofs.Outcome
/-!
Scalars in default values. Main statement: a scalar kind takes exactly the JSON values that stand for a
value of the kind, and makes of each the literal of the same value.
-/

namespace SchemaDiscovery

open Decimal (Binary64 leastInt64 greatestInt64 greatestNat64)

namespace Decimal.Binary64

theorem exponentOf_le (num den : Nat) :
    exponentOf num den ≤ max leastExponent ((num.log2 : Int) - (den.log2 : Int) - 52) := by
  unfold exponentOf
  dsimp only
  split <;> omega

theorem exists_ofInt {n : Int} (least : leastInt64 ≤ n) (greatest : n ≤ greatestNat64) :
    ∃ x, ofInt? n = some x := by
  unfold ofInt? ofRatio?
  by_cases zero : n.natAbs = 0
  · exact ⟨_, if_pos zero⟩
  rw [if_neg zero]
  have small : n.natAbs.log2 < 64 := by
    rw [Nat.log2_lt zero]
    unfold leastInt64 at least
    unfold greatestNat64 at greatest
    omega
  have bound : exponentOf n.natAbs 1 ≤ 12 := by
    have one : Nat.log2 1 = 0 := by decide
    have general := exponentOf_le n.natAbs 1
    rw [one, leastExponent] at general
    omega
  dsimp only
  refine ⟨_, if_pos ?_⟩
  unfold greatestExponent
  split
  · show exponentOf n.natAbs 1 + 1 ≤ 971
    omega
  · show exponentOf n.natAbs 1 ≤ 971
    omega

end Decimal.Binary64

namespace Json

def IsSigned (bits : Nat) (json : Json) : Prop :=
  ∃ n : Int, json = .number (.int n) ∧ -2 ^ (bits - 1) ≤ n ∧ n < 2 ^ (bits - 1)

/-- The value is a number, and the literal is the binary number nearest to it. -/
def IsRoundedBy (json : Json) (literal : Literal) : Prop :=
  ∃ n x, json = .number n ∧ n.toBinary64? = some x ∧ literal = .number (.float x)

end Json

namespace ValueKind

def Accepts (kind : ValueKind) (json : Json) : Prop :=
  match kind with
  | .int => json.IsSigned 32
  | .short => json.IsSigned 16
  | .byte => json.IsSigned 8
  | .long => json.IsSigned 64
  | .float => ∃ n, json = .number n
  | .double => ∃ n, json = .number n
  | .bigDecimal => ∃ n, json = .number n
  | .bigInteger => ∃ n, json = .number (.int n)
  | .boolean => ∃ b, json = .bool b
  | .char => ∃ c, json = .string (String.singleton c)
  | .string => ∃ s, json = .string s
  | .date => ∃ s, json = .string s
  | .dateTime => ∃ s, json = .string s
  | .timestamp => ∃ s, json = .string s

/-- The literal is the same value; a kind of binary numbers takes the nearest one. -/
def Mirrors (kind : ValueKind) (json : Json) (literal : Literal) : Prop :=
  match kind with
  | .float => json.IsRoundedBy literal
  | .double => json.IsRoundedBy literal
  | _ => literal = .ofJson json

theorem integerLiteral_ok {kind : ValueKind} {n : Int} {literal : Literal} :
    kind.integerLiteral n = .ok literal ↔ kind.admits n ∧ literal = .number (.int n) := by
  unfold integerLiteral
  split
  · next admitted => simp [admitted, eq_comm]
  · next refused => simp [refused]

end ValueKind

theorem charLiteral_ok {text : String} {literal : Literal} :
    charLiteral text = .ok literal ↔ (∃ c, text = String.singleton c) ∧ literal = .string text := by
  have single (c : Char) : text = String.singleton c ↔ text.toList = [c] := by
    rw [← String.toList_inj, String.toList_singleton]
  simp only [single]
  unfold charLiteral
  split
  · next c spelled => simp [spelled, eq_comm]
  · next other =>
    constructor
    · exact nofun
    · rintro ⟨⟨c, spelled⟩, -⟩
      exact (other c spelled).elim

theorem integer_ok {kind : ValueKind} {bits : Nat} {json : Json} {literal : Literal}
    (range : ∀ n, kind.admits n ∧ leastInt64 ≤ n ∧ n ≤ greatestInt64 ↔
      -2 ^ (bits - 1) ≤ n ∧ n < 2 ^ (bits - 1)) :
    (match json.number?.bind Json.Number.toInt64? with
      | some n => kind.integerLiteral n
      | none => .error (.expected .integer)) = Except.ok literal ↔
    json.IsSigned bits ∧ literal = .ofJson json := by
  constructor
  · intro given
    split at given
    · next n read =>
      obtain ⟨number, present, within⟩ := Option.bind_eq_some_iff.1 read
      obtain ⟨admitted, rfl⟩ := ValueKind.integerLiteral_ok.1 given
      cases json with
      | number value =>
        cases present
        cases number with
        | int m =>
          rw [Json.Number.toInt64?, Option.ite_none_right_eq_some] at within
          obtain ⟨within, same⟩ := within
          cases same
          exact ⟨⟨n, rfl, (range n).1 ⟨admitted, within⟩⟩, rfl⟩
        | float x => cases within
      | _ => cases present
    · cases given
  · rintro ⟨⟨n, rfl, within⟩, rfl⟩
    obtain ⟨admitted, wide⟩ := (range n).2 within
    have read : (Json.number (.int n)).number?.bind Json.Number.toInt64? = some n := if_pos wide
    rw [read]
    exact ValueKind.integerLiteral_ok.2 ⟨admitted, rfl⟩

theorem float_ok {json : Json} {literal : Literal} :
    (match json.number?.bind Json.Number.toBinary64? with
      | some x => .ok (.number (.float x))
      | none => .error (.expected .number)) = (Except.ok literal : Except DefaultFault Literal) ↔
    (∃ n, json = .number n) ∧ json.IsRoundedBy literal := by
  constructor
  · intro given
    split at given
    · next x read =>
      obtain ⟨n, present, rounded⟩ := Option.bind_eq_some_iff.1 read
      cases given
      cases json with
      | number value =>
        cases present
        exact ⟨⟨n, rfl⟩, n, x, rfl, rounded, rfl⟩
      | _ => cases present
    · cases given
  · rintro ⟨-, n, x, rfl, rounded, rfl⟩
    have read : (Json.number n).number?.bind Json.Number.toBinary64? = some x := rounded
    rw [read]

theorem text_ok {json : Json} {literal : Literal} :
    (match json with
      | .string s => .ok (.string s)
      | _ => .error (.expected .text)) = (Except.ok literal : Except DefaultFault Literal) ↔
    (∃ s, json = .string s) ∧ literal = .ofJson json := by
  cases json <;> simp [Literal.ofJson, eq_comm]

theorem scalarOfJson_ok {kind : ValueKind} {json : Json} {literal : Literal} :
    scalarOfJson kind json = .ok literal ↔ kind.Accepts json ∧ kind.Mirrors json literal := by
  have least : leastInt64 = -2 ^ 63 := by decide
  have greatest : greatestInt64 = 2 ^ 63 - 1 := by decide
  cases kind with
  | int => exact integer_ok fun n => by simp [ValueKind.admits]; omega
  | short => exact integer_ok fun n => by simp [ValueKind.admits]; omega
  | byte => exact integer_ok fun n => by simp [ValueKind.admits]; omega
  | long => exact integer_ok fun n => by simp [ValueKind.admits]; omega
  | float => exact float_ok
  | double => exact float_ok
  | bigDecimal =>
    cases json <;> simp [scalarOfJson, ValueKind.Accepts, ValueKind.Mirrors, Literal.ofJson, eq_comm]
  | bigInteger =>
    rcases json with _ | _ | (_ | _) | _ | _ | _ <;>
      simp [scalarOfJson, ValueKind.Accepts, ValueKind.Mirrors, Literal.ofJson, eq_comm]
  | boolean =>
    cases json <;> simp [scalarOfJson, ValueKind.Accepts, ValueKind.Mirrors, Literal.ofJson, eq_comm]
  | char =>
    cases json <;>
      simp [scalarOfJson, ValueKind.Accepts, ValueKind.Mirrors, Literal.ofJson, charLiteral_ok]
  | string => exact text_ok
  | date => exact text_ok
  | dateTime => exact text_ok
  | timestamp => exact text_ok

theorem ValueKind.exists_mirrors {kind : ValueKind} {json : Json} (accepts : kind.Accepts json)
    (sized : json.Sized) : ∃ literal, kind.Mirrors json literal := by
  have rounded (number : ∃ n, json = .number n) : ∃ literal, json.IsRoundedBy literal := by
    obtain ⟨n, rfl⟩ := number
    cases sized with
    | int least greatest =>
      obtain ⟨x, nearest⟩ := Decimal.Binary64.exists_ofInt least greatest
      exact ⟨_, _, x, rfl, nearest, rfl⟩
    | float x => exact ⟨_, _, x, rfl, rfl, rfl⟩
  cases kind with
  | float => exact rounded accepts
  | double => exact rounded accepts
  | _ => exact ⟨_, rfl⟩

def Literal.isScalar : Literal → Bool
  | .number _ => true
  | .bool _ => true
  | .string _ => true
  | _ => false

theorem isScalar_scalarOfJson {kind : ValueKind} {json : Json} {literal : Literal}
    (made : scalarOfJson kind json = .ok literal) : literal.isScalar = true := by
  obtain ⟨accepted, same⟩ := scalarOfJson_ok.1 made
  cases kind with
  | float | double =>
    obtain ⟨_, _, -, -, rfl⟩ := same
    rfl
  | int | short | byte | long =>
    obtain ⟨_, rfl, -⟩ := accepted
    cases same
    rfl
  | _ =>
    obtain ⟨_, rfl⟩ := accepted
    cases same
    rfl

theorem isScalar_integerLiteral {kind : ValueKind} {n : Int} {literal : Literal}
    (made : kind.integerLiteral n = .ok literal) : literal.isScalar = true := by
  obtain ⟨-, rfl⟩ := ValueKind.integerLiteral_ok.1 made
  rfl

theorem isScalar_floatLiteral {value : Decimal.Extended} {literal : Literal}
    (made : floatLiteral value = .ok literal) : literal.isScalar = true := by
  cases value <;> cases made
  rfl

theorem isScalar_scalarOfText {kind : ValueKind} {text : String} {literal : Literal}
    (made : scalarOfText kind text = .ok literal) : literal.isScalar = true := by
  unfold scalarOfText at made
  cases kind with
  | int | short | byte | long =>
    obtain ⟨n, -, made⟩ := bind_eq_ok.1 made
    exact isScalar_integerLiteral made
  | float | double =>
    obtain ⟨x, -, made⟩ := bind_eq_ok.1 made
    exact isScalar_floatLiteral made
  | bigDecimal =>
    dsimp only at made
    split at made
    · cases made
      rfl
    · cases made
  | bigInteger =>
    dsimp only at made
    split at made
    · cases made
      rfl
    · cases made
    · cases made
  | boolean =>
    dsimp only at made
    split at made
    · cases made
      rfl
    · split at made
      · cases made
        rfl
      · cases made
  | char =>
    obtain ⟨-, rfl⟩ := charLiteral_ok.1 made
    rfl
  | _ =>
    cases made
    rfl

end SchemaDiscovery
