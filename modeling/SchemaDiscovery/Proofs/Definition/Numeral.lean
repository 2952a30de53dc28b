import Mathlib.Data.List.Basic
import SchemaDiscovery.Json.Printer
import SchemaDiscovery.Proofs.Definition.Constant
/-!
Printed numbers. Main statement: a number is read back as it was printed, wherever a numeral may end.
-/

namespace SchemaDiscovery

open Decimal (digitValue digitsValue Scaled Binary64)

theorem toDigits_cons (n : Nat) : ∃ c digits, Nat.toDigits 10 n = c :: digits ∧
    (n ≠ 0 → c ≠ '0') ∧ c.isDigit = true ∧ ∀ d ∈ digits, d.isDigit = true := by
  have each : ∀ d ∈ Nat.toDigits 10 n, d.isDigit = true := fun d member =>
    Nat.isDigit_of_mem_toDigits (by decide) (by decide) member
  have first : n ≠ 0 → ∀ c ∈ (Nat.toDigits 10 n).head?, c ≠ '0' := by
    clear each
    induction n using Nat.strongRecOn with
    | ind n ih =>
      intro positive c head
      by_cases small : n < 10
      · rw [Nat.toDigits_of_lt_base small] at head
        cases head
        rintro same
        have value := Nat.toNat_digitChar_of_lt_ten small
        rw [same] at value
        exact positive (Nat.add_left_cancel (n := 48) value.symm)
      · rw [Nat.toDigits_of_base_le (by decide) (by omega),
          List.head?_append_of_ne_nil _ Nat.toDigits_ne_nil] at head
        exact ih (n / 10) (by omega) (by omega) c head
  cases digits : Nat.toDigits 10 n with
  | nil => exact absurd digits Nat.toDigits_ne_nil
  | cons c rest =>
    rw [digits] at each first
    obtain ⟨here, later⟩ := List.forall_mem_cons.1 each
    exact ⟨c, rest, rfl, fun positive => first positive c rfl, here, later⟩

theorem digitsValue_toDigits (n : Nat) : digitsValue 0 (Nat.toDigits 10 n) = n := by
  have same : ∀ (digits : List Char) (start : Nat),
      digitsValue start digits = Nat.ofDigitChars 10 digits start := by
    intro digits
    induction digits with
    | nil => exact fun _ => rfl
    | cons c digits ih =>
      intro start
      rw [digitsValue, List.foldl_cons, Nat.ofDigitChars, List.foldl_cons, Nat.mul_comm start]
      exact ih _
  rw [same, Nat.ofDigitChars_toDigits (by decide) (by decide)]

theorem span_append {p : Char → Bool} {run rest : List Char} (each : ∀ c ∈ run, p c = true)
    (stops : ∀ c ∈ rest.head?, p c = false) :
    (run ++ rest).takeWhile p = run ∧ (run ++ rest).dropWhile p = rest := by
  rw [List.takeWhile_append_of_pos each, List.dropWhile_append_of_pos each]
  cases rest with
  | nil => exact ⟨List.append_nil run, rfl⟩
  | cons c rest =>
    have other : ¬ p c = true := by
      rw [stops c rfl]
      exact Bool.false_ne_true
    rw [List.takeWhile_cons_of_neg other, List.dropWhile_cons_of_neg other, List.append_nil]
    exact ⟨rfl, rfl⟩

theorem isNameStart_of_isDigit {c : Char} (digit : c.isDigit = true) : isNameStart c = false := by
  have range : 48 ≤ c.toNat ∧ c.toNat ≤ 57 := Char.isDigit_iff_toNat.1 digit
  have each : ∀ n < 58, 48 ≤ n → isNameStart (Char.ofNat n) = false := by decide
  have here := each c.toNat (by omega) range.1
  rwa [Char.ofNat_toNat] at here

namespace Constant

def separators : List Char :=
  ['[', ']', '\x7b', '\x7d', ':', '"', '#', ',', ' ', '\t', '\n', '\r', '\uFEFF']

theorem readToken_plain {c : Char} (plain : c ∉ separators) (rest : List Char) :
    readToken (c :: rest) =
      if isNameStart c then some (readName c rest) else readNumeral (c :: rest) := by
  unfold readToken
  split
  case h_1 same => cases same
  case h_9 same =>
    cases same
    rfl
  all_goals
    next same =>
      cases same
      exact absurd (by decide) plain

def EndsDigits (text : List Char) : Prop := ∀ c ∈ text.head?, c.isDigit = false

theorem splitDigits_append {digits rest : List Char} (each : ∀ d ∈ digits, d.isDigit = true)
    (ends : EndsDigits rest) : Json.splitDigits (digits ++ rest) = (digits, rest) := by
  obtain ⟨taken, dropped⟩ := span_append each ends
  rw [Json.splitDigits, taken, dropped]

inductive IsWhole : List Char → Prop
  | zero : IsWhole ['0']
  | digits {c : Char} {digits : List Char} (first : c ≠ '0') (digit : c.isDigit = true)
    (each : ∀ d ∈ digits, d.isDigit = true) : IsWhole (c :: digits)

inductive IsFraction : List Char → Prop
  | none : IsFraction []
  | some {digits : List Char} (present : digits ≠ []) (each : ∀ d ∈ digits, d.isDigit = true) :
    IsFraction ('.' :: digits)

inductive IsExponent : List Char → Prop
  | none : IsExponent []
  | some {sign : Char} {digits : List Char} (signed : sign = '-' ∨ sign = '+') (present : digits ≠ [])
    (each : ∀ d ∈ digits, d.isDigit = true) : IsExponent ('e' :: sign :: digits)

variable {sign whole fraction exponent rest : List Char}

theorem readSign_append (signed : sign = [] ∨ sign = ['-']) (shape : IsWhole whole) :
    readSign (sign ++ (whole ++ rest)) = (sign, whole ++ rest) := by
  rcases signed with rfl | rfl
  · cases shape with
    | zero => rfl
    | @digits c digits first digit each =>
      rw [List.nil_append, List.cons_append]
      unfold readSign
      split
      · next same =>
        cases same
        cases digit
      · rfl
  · rfl

theorem readWhole_append (shape : IsWhole whole) (ends : EndsDigits rest) :
    readWhole (whole ++ rest) = (whole, rest) := by
  cases shape with
  | zero => rfl
  | @digits c digits first digit each =>
    have split := splitDigits_append (List.forall_mem_cons.2 ⟨digit, each⟩) ends
    rw [List.cons_append] at split ⊢
    unfold readWhole
    split
    · next same =>
      cases same
      exact absurd rfl first
    · exact split

theorem readFraction_append (shape : IsFraction fraction) (ends : EndsDigits rest)
    (pointless : rest.head? ≠ some '.') : readFraction (fraction ++ rest) = (fraction, rest) := by
  cases shape with
  | none =>
    rw [List.nil_append]
    unfold readFraction
    split
    · exact absurd rfl pointless
    · rfl
  | @some digits present each =>
    rw [List.cons_append, readFraction]
    simp only [splitDigits_append each ends, List.isEmpty_iff, present, if_false]

theorem readExponent_append (shape : IsExponent exponent) (ends : EndsDigits rest)
    (letterless : rest.head? ≠ some 'e' ∧ rest.head? ≠ some 'E') :
    readExponent (exponent ++ rest) = (exponent, rest) := by
  cases shape with
  | none =>
    cases rest with
    | nil => rfl
    | cons c rest =>
      have other : (c == 'e' || c == 'E') = false := by
        simpa using letterless
      simp [readExponent, other]
  | @some sign digits signed present each =>
    have split := splitDigits_append each ends
    rcases signed with rfl | rfl
    · simp [readExponent, readExponentSign, split, present]
    · simp [readExponent, readExponentSign, split, present]

theorem endsDigits_append_exponent (shape : IsExponent exponent) (ends : EndsDigits rest) :
    EndsDigits (exponent ++ rest) := by
  cases shape with
  | none => exact ends
  | some signed present each =>
    intro c head
    cases head
    rfl

theorem endsDigits_append_fraction (shape : IsFraction fraction) (ends : EndsDigits rest) :
    EndsDigits (fraction ++ rest) := by
  cases shape with
  | none => exact ends
  | some present each =>
    intro c head
    cases head
    rfl

end Constant

structure Numeral where
  sign : List Char
  whole : List Char
  fraction : List Char
  exponent : List Char
  signed : sign = [] ∨ sign = ['-']
  isWhole : Constant.IsWhole whole
  isFraction : Constant.IsFraction fraction
  isExponent : Constant.IsExponent exponent

namespace Numeral

open Constant

variable {rest : List Char}

def text (numeral : Numeral) : List Char :=
  numeral.sign ++ (numeral.whole ++ (numeral.fraction ++ numeral.exponent))

def token (numeral : Numeral) : Token :=
  if numeral.fraction.isEmpty && numeral.exponent.isEmpty then
    .int (if numeral.sign.isEmpty then digitsValue 0 numeral.whole
      else -digitsValue 0 numeral.whole)
  else .float numeral.text

theorem read (numeral : Numeral) (ends : endsNumeral rest = true) :
    readNumeral (numeral.text ++ rest) = some (numeral.token, rest) := by
  obtain ⟨sign, whole, fraction, exponent, signed, isWhole, isFraction, isExponent⟩ := numeral
  have stops : ∀ c ∈ rest.head?, isNameChar c = false ∧ c ≠ '.' := by
    simpa [endsNumeral, Option.all_eq_true] using ends
  have digitless : EndsDigits rest := by
    intro c head
    have other := (stops c head).1
    simp only [isNameChar, Char.isAlphanum, Bool.or_eq_false_iff] at other
    exact other.1.2
  have pointless : (exponent ++ rest).head? ≠ some '.' := by
    cases isExponent with
    | none => exact fun head => (stops '.' head).2 rfl
    | some signed present each => exact nofun
  have letterless : rest.head? ≠ some 'e' ∧ rest.head? ≠ some 'E' :=
    ⟨fun head => absurd (stops _ head).1 (by decide), fun head => absurd (stops _ head).1 (by decide)⟩
  have afterFraction := endsDigits_append_exponent isExponent digitless
  have afterWhole := endsDigits_append_fraction isFraction afterFraction
  have present : whole.isEmpty = false := by cases isWhole <;> rfl
  simp only [text, token, List.append_assoc]
  rw [readNumeral, readSign_append signed isWhole]
  simp only [readWhole_append isWhole afterWhole, readFraction_append isFraction afterFraction pointless,
    readExponent_append isExponent digitless letterless, present, ends, Bool.not_true, Bool.or_self,
    Bool.false_eq_true, if_false, List.append_assoc]
  split
  · rfl
  · rfl

theorem text_cons (numeral : Numeral) : ∃ c text, numeral.text = c :: text ∧ c ∉ separators ∧
    isNameStart c = false := by
  have begins {c : Char} (digit : c.isDigit = true) : c ∉ separators ∧ isNameStart c = false := by
    refine ⟨fun member => ?_, isNameStart_of_isDigit digit⟩
    have other : (separators.all fun d => !d.isDigit) = true := by decide
    have here := List.all_eq_true.1 other c member
    rw [digit] at here
    cases here
  obtain ⟨sign, whole, fraction, exponent, signed, isWhole, isFraction, isExponent⟩ := numeral
  rcases signed with rfl | rfl
  · cases isWhole with
    | zero => exact ⟨_, _, rfl, begins rfl⟩
    | digits first digit each => exact ⟨_, _, rfl, begins digit⟩
  · exact ⟨_, _, rfl, by decide, by decide⟩

theorem readToken (numeral : Numeral) (ends : endsNumeral rest = true) :
    Constant.readToken (numeral.text ++ rest) = some (numeral.token, rest) := by
  have whole := numeral.read ends
  obtain ⟨c, text, same, plain, nameless⟩ := numeral.text_cons
  rw [same, List.cons_append] at whole ⊢
  rw [readToken_plain plain, nameless]
  exact whole

end Numeral

theorem exists_numeral_int (n : Int) : ∃ numeral : Numeral,
    numeral.text = (toString n).toList ∧ numeral.token = .int n := by
  have shape (m : Nat) : Constant.IsWhole (Nat.toDigits 10 m) := by
    by_cases zero : m = 0
    · rw [zero]
      exact .zero
    · obtain ⟨c, digits, same, first, digit, each⟩ := toDigits_cons m
      rw [same]
      exact .digits (first zero) digit each
  rw [Int.toString_eq_repr, Int.repr_eq_if]
  split
  · next positive =>
    refine ⟨⟨[], Nat.toDigits 10 n.toNat, [], [], .inl rfl, shape _, .none, .none⟩, ?_, ?_⟩
    · rw [Nat.repr_eq_ofList_toDigits, String.toList_ofList]
      simp [Numeral.text]
    · rw [Numeral.token, digitsValue_toDigits]
      exact congrArg Constant.Token.int (Int.toNat_of_nonneg positive)
  · next negative =>
    refine ⟨⟨['-'], Nat.toDigits 10 (-n).toNat, [], [], .inr rfl, shape _, .none, .none⟩, ?_, ?_⟩
    · rw [Nat.repr_eq_ofList_toDigits, String.toList_append, String.toList_ofList]
      simp [Numeral.text]
    · rw [Numeral.token, digitsValue_toDigits]
      refine congrArg Constant.Token.int ?_
      show -((-n).toNat : Int) = n
      omega

section

variable {c : Char} {digits : List Char}

theorem isWhole_rightpad (first : c ≠ '0') (digit : c.isDigit = true)
    (each : ∀ d ∈ digits, d.isDigit = true) (n : Nat) :
    Constant.IsWhole (((c :: digits).take (n + 1)).rightpad (n + 1) '0') := by
  rw [List.take_succ_cons, List.rightpad, List.cons_append]
  refine .digits first digit fun d member => ?_
  rcases List.mem_append.1 member with kept | filled
  · exact each d (List.mem_of_mem_take kept)
  · rw [List.eq_of_mem_replicate filled]
    rfl

theorem isFraction_rest (each : ∀ d ∈ digits, d.isDigit = true) :
    Constant.IsFraction ('.' :: if digits.isEmpty then ['0'] else digits) := by
  cases digits with
  | nil => exact .some (List.cons_ne_nil _ _) (List.forall_mem_singleton.2 rfl)
  | cons d digits => exact .some (List.cons_ne_nil d digits) each

theorem isFraction_replicate (digit : c.isDigit = true) (each : ∀ d ∈ digits, d.isDigit = true)
    (n : Nat) : Constant.IsFraction ('.' :: (List.replicate n '0' ++ c :: digits)) := by
  have all : ∀ d ∈ c :: digits, d.isDigit = true := List.forall_mem_cons.2 ⟨digit, each⟩
  refine .some (List.append_ne_nil_of_right_ne_nil _ (List.cons_ne_nil c digits)) fun d member => ?_
  rcases List.mem_append.1 member with filled | kept
  · rw [List.eq_of_mem_replicate filled]
    rfl
  · exact all d kept

theorem isExponent_toDigits (n : Int) : Constant.IsExponent
    ('e' :: (if n < 0 then '-' else '+') :: Nat.toDigits 10 n.natAbs) := by
  refine .some ?_ Nat.toDigits_ne_nil fun d member =>
    Nat.isDigit_of_mem_toDigits (by decide) (by decide) member
  split
  · exact .inl rfl
  · exact .inr rfl

end

theorem exists_parts (d : Scaled) : ∃ whole fraction exponent,
    d.render.toList = whole ++ (fraction ++ exponent) ∧ Constant.IsWhole whole ∧
      Constant.IsFraction fraction ∧ Constant.IsExponent exponent ∧
      (fraction.isEmpty && exponent.isEmpty) = false := by
  obtain ⟨c, digits, same, first, digit, each⟩ := toDigits_cons d.digits
  have all : ∀ e ∈ c :: digits, e.isDigit = true := List.forall_mem_cons.2 ⟨digit, each⟩
  unfold Scaled.render
  dsimp only
  rw [same]
  generalize d.exponent + ((c :: digits).length : Int) - 1 = lead
  split
  · have fraction : Constant.IsFraction ['.', '0'] :=
      .some (List.cons_ne_nil _ _) (List.forall_mem_singleton.2 rfl)
    exact ⟨['0'], ['.', '0'], [], by decide, .zero, fraction, .none, rfl⟩
  · next positive =>
    have leading := first positive
    split
    · have rest := isFraction_rest fun e member => all e (List.mem_of_mem_drop (i := lead.toNat + 1) member)
      refine ⟨_, _, [], ?_, isWhole_rightpad leading digit each lead.toNat, rest, .none, rfl⟩
      rw [String.toList_ofList, List.append_nil, List.append_assoc]
      rfl
    · split
      · refine ⟨['0'], _, [], ?_, .zero, isFraction_replicate digit each (-lead - 1).toNat, .none, rfl⟩
        rw [String.toList_ofList, List.append_nil, List.append_assoc]
        rfl
      · rw [String.toList_ofList, List.append_assoc]
        cases digits with
        | nil =>
          exact ⟨[c], [], _, rfl, .digits leading digit nofun, .none, isExponent_toDigits lead, rfl⟩
        | cons second digits =>
          exact ⟨[c], '.' :: second :: digits, _, rfl, .digits leading digit nofun,
            .some (List.cons_ne_nil second digits) each, isExponent_toDigits lead, rfl⟩

theorem exists_numeral_float (x : Binary64) : ∃ numeral : Numeral,
    numeral.text = x.render.toList ∧ numeral.token = .float x.render.toList := by
  obtain ⟨whole, fraction, exponent, same, isWhole, isFraction, isExponent, long⟩ :=
    exists_parts x.shortest
  have signed : x.render.toList = (if x.negative then ['-'] else []) ++ x.shortest.render.toList := by
    rw [Binary64.render, String.toList_append]
    cases x.negative <;> rfl
  refine ⟨⟨if x.negative then ['-'] else [], whole, fraction, exponent, ?_, isWhole, isFraction,
    isExponent⟩, ?_, ?_⟩
  · cases x.negative
    · exact .inl rfl
    · exact .inr rfl
  · rw [signed, same]
    rfl
  · rw [Numeral.token, long, signed, same]
    rfl

end SchemaDiscovery
