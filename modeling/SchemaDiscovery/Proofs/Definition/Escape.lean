import Mathlib.Data.List.Basic
import SchemaDiscovery.Definition.Literal
import SchemaDiscovery.Proofs.Definition.Constant
/-!
Printed strings. Main statement: a string is read back with each character as its escape spells it, which
is the character itself but for control characters that are escaped by decimal digits.
-/

namespace SchemaDiscovery

namespace Literal

/-- The character that the escape of a character spells. The decimal digits of a control character are
read as hexadecimal ones. -/
def echo (c : Char) : Char :=
  if Text.isControl c = true ∧ c ≠ '\r' ∧ c ≠ '\n' ∧ c ≠ '\t' then
    Char.ofNat (Nat.ofDigitChars 16 (Nat.toDigits 10 c.toNat) 0)
  else c

/-- The character is spelled by its own escape. -/
def Survives (c : Char) : Prop := Text.isControl c = true → c.toNat ≤ 10 ∨ c = '\r'

instance (c : Char) : Decidable (Survives c) := inferInstanceAs (Decidable (_ → _ ∨ _))

theorem of_isControl {P : Char → Prop} (each : ∀ n < 160, P (Char.ofNat n)) {c : Char}
    (control : Text.isControl c = true) : P c := by
  have small : c.toNat < 160 := by
    simp only [Text.isControl, Bool.or_eq_true, Bool.and_eq_true, decide_eq_true_eq] at control
    omega
  have here := each c.toNat small
  rwa [Char.ofNat_toNat] at here

theorem echo_eq_self_iff {c : Char} : echo c = c ↔ Survives c := by
  by_cases control : Text.isControl c = true
  · exact of_isControl (P := fun c => echo c = c ↔ Survives c) (by decide +kernel) control
  · have kept : echo c = c := if_neg fun special => control special.1
    exact iff_of_true kept fun special => absurd special control

def fourDigits? : List Char → Option Nat
  | [a, b, c, d] => Constant.hexPoint? a b c d
  | _ => none

theorem fourDigits_escape {c : Char} (control : Text.isControl c = true) :
    fourDigits? ((Nat.toDigits 10 c.toNat).leftpad 4 '0') =
      some (Nat.ofDigitChars 16 (Nat.toDigits 10 c.toNat) 0) ∧
    (Char.ofNat (Nat.ofDigitChars 16 (Nat.toDigits 10 c.toNat) 0)).toNat =
      Nat.ofDigitChars 16 (Nat.toDigits 10 c.toNat) 0 :=
  of_isControl (P := fun c => fourDigits? ((Nat.toDigits 10 c.toNat).leftpad 4 '0') =
      some (Nat.ofDigitChars 16 (Nat.toDigits 10 c.toNat) 0) ∧
    (Char.ofNat (Nat.ofDigitChars 16 (Nat.toDigits 10 c.toNat) 0)).toNat =
      Nat.ofDigitChars 16 (Nat.toDigits 10 c.toNat) 0) (by decide +kernel) control

theorem readPoints_fourDigits {digits : List Char} {n : Nat} (four : fourDigits? digits = some n)
    (rest : List Char) : Constant.readPoints ('\\' :: 'u' :: (digits ++ rest)) =
      (Constant.readPoints rest).map fun (points, after) => (n :: points, after) := by
  unfold fourDigits? at four
  split at four
  · simp only [List.cons_append, List.nil_append, Constant.readPoints, four]
    cases Constant.readPoints rest <;> rfl
  · cases four

theorem readPoints_letter {c : Char} {n : Nat} (known : Constant.escaped? c = some n)
    (rest : List Char) : Constant.readPoints ('\\' :: c :: rest) =
      (Constant.readPoints rest).map fun (points, after) => (n :: points, after) := by
  rw [Constant.readPoints.eq_def]
  split
  case h_1 same => cases same
  case h_2 same => cases same
  case h_3 same =>
    cases same
    cases known
  case h_4 same =>
    cases same
    rw [known]
    cases Constant.readPoints rest <;> rfl
  case h_5 escape same =>
    cases same
    exact absurd rfl (escape c rest rfl)

theorem readPoints_plain {c : Char} (quoteless : c ≠ '"') (straight : c ≠ '\\')
    (within : Constant.isLineEnd c = false) (rest : List Char) : Constant.readPoints (c :: rest) =
      (Constant.readPoints rest).map fun (points, after) => (c.toNat :: points, after) := by
  rw [Constant.readPoints.eq_def]
  split
  case h_1 same => cases same
  case h_2 same =>
    cases same
    exact absurd rfl quoteless
  case h_3 same =>
    cases same
    exact absurd rfl straight
  case h_4 same =>
    cases same
    exact absurd rfl straight
  case h_5 same =>
    cases same
    rw [within]
    rfl

theorem readPoints_escapedChar (c : Char) (rest : List Char) :
    Constant.readPoints (escapedChar c ++ rest) =
      (Constant.readPoints rest).map fun (points, after) => ((echo c).toNat :: points, after) := by
  unfold escapedChar
  split_ifs with carriage line tab quote backslash control
  · subst carriage
    exact readPoints_letter rfl rest
  · subst line
    exact readPoints_letter rfl rest
  · subst tab
    exact readPoints_letter rfl rest
  · subst quote
    exact readPoints_letter rfl rest
  · subst backslash
    exact readPoints_letter rfl rest
  · obtain ⟨four, valid⟩ := fourDigits_escape control
    rw [echo, if_pos ⟨control, carriage, line, tab⟩, valid]
    exact readPoints_fourDigits four rest
  · rw [echo, if_neg fun special => control special.1]
    exact readPoints_plain quote backslash (by simp [Constant.isLineEnd, line, carriage]) rest

theorem joinSurrogates_toNat (text : List Char) :
    Json.joinSurrogates (text.map Char.toNat) = some text := by
  have proper (c : Char) : Json.isHighSurrogate c.toNat = false ∧ Json.isLowSurrogate c.toNat = false := by
    have valid : c.toNat < 0xD800 ∨ 0xDFFF < c.toNat ∧ c.toNat < 0x110000 := c.valid
    simp only [Json.isHighSurrogate, Json.isLowSurrogate, Bool.and_eq_false_iff,
      decide_eq_false_iff_not]
    omega
  induction text with
  | nil => rfl
  | cons c text ih =>
    obtain ⟨high, low⟩ := proper c
    cases text with
    | nil => simp [Json.joinSurrogates, high, low]
    | cons d text =>
      rw [List.map_cons, List.map_cons, Json.joinSurrogates, high, low, ← List.map_cons, ih]
      simp

theorem readString_render (s : String) (rest : List Char) :
    Constant.readString (s.toList.flatMap escapedChar ++ '"' :: rest) =
      some (.string (String.ofList (s.toList.map echo)), rest) := by
  have points : ∀ text : List Char, Constant.readPoints (text.flatMap escapedChar ++ '"' :: rest) =
      some ((text.map echo).map Char.toNat, rest) := by
    intro text
    induction text with
    | nil => rfl
    | cons c text ih =>
      rw [List.flatMap_cons, List.append_assoc, readPoints_escapedChar, ih]
      rfl
  rw [Constant.readString, points]
  show (Json.joinSurrogates ((s.toList.map echo).map Char.toNat)).bind _ = _
  rw [joinSurrogates_toNat]
  rfl

theorem escapedChar_cons (c : Char) : ∃ d text, escapedChar c = d :: text ∧ d ≠ '"' := by
  unfold escapedChar
  split_ifs with carriage line tab quote backslash control
  · exact ⟨_, _, rfl, by decide⟩
  · exact ⟨_, _, rfl, by decide⟩
  · exact ⟨_, _, rfl, by decide⟩
  · exact ⟨_, _, rfl, by decide⟩
  · exact ⟨_, _, rfl, by decide⟩
  · exact ⟨_, _, rfl, by decide⟩
  · exact ⟨_, _, rfl, quote⟩

theorem readToken_renderString (s : String) {rest : List Char} (ends : rest.head? ≠ some '"') :
    Constant.readToken (renderString s ++ rest) =
      some (.string (String.ofList (s.toList.map echo)), rest) := by
  have body := readString_render s rest
  have whole : renderString s ++ rest = '"' :: (s.toList.flatMap escapedChar ++ '"' :: rest) := by
    simp [renderString]
  rw [whole]
  unfold Constant.readToken
  split
  case h_7 same =>
    cases spelled : s.toList with
    | nil =>
      rw [spelled] at same
      cases same
      exact absurd rfl ends
    | cons c text =>
      obtain ⟨d, _, first, other⟩ := escapedChar_cons c
      rw [spelled, List.flatMap_cons, first] at same
      exact absurd (List.cons.inj (List.cons.inj same).2).1 other
  case h_8 same =>
    cases same
    exact body
  case h_9 quoteless same =>
    cases same
    exact absurd rfl quoteless
  all_goals
    next same => cases same

end Literal

end SchemaDiscovery
