import SchemaDiscovery.Json.Reader
import SchemaDiscovery.Proofs.Definition.Numeral
import SchemaDiscovery.Proofs.Outcome
/-!
Numerals of JSON. Main statement: a numeral that is read as an integer of 64 bits is read as the same
integer wherever integers are read, and the other way round but for a negative zero, which JSON keeps
apart from zero.
-/

namespace SchemaDiscovery.Json

open Decimal (digitValue digitsValue readInt64 readMagnitude greatestInt64 greatestNat64 leastInt64
  NumeralError)

section

variable {text rest digits decimals whole : List Char} {exponent : Option Int}

theorem le_digitsValue (start : Nat) (digits : List Char) : start ≤ digitsValue start digits := by
  induction digits generalizing start with
  | nil => exact Nat.le_refl start
  | cons c digits ih =>
    calc start
      _ ≤ start * 10 + digitValue c := by omega
      _ ≤ digitsValue start (c :: digits) := ih _

theorem digitsValue_pos (shape : Constant.IsWhole whole) (other : whole ≠ ['0']) :
    0 < digitsValue 0 whole := by
  cases shape with
  | zero => exact absurd rfl other
  | @digits c digits first digit each =>
    have range := Char.isDigit_iff_toNat.1 digit
    have positive : 0 < digitValue c := by
      have different : c.toNat ≠ '0'.toNat := fun same => first (Char.toNat_inj.1 same)
      have zero : '0'.toNat = 48 := rfl
      rw [digitValue, zero]
      omega
    calc 0
      _ < 0 * 10 + digitValue c := by omega
      _ ≤ digitsValue 0 (c :: digits) := le_digitsValue _ _

theorem readMagnitude_ok {limit start n : Nat} {exceeded : NumeralError} (within : start ≤ limit) :
    readMagnitude limit exceeded start digits = .ok n ↔
      (∀ d ∈ digits, d.isDigit = true) ∧ digitsValue start digits ≤ limit ∧
        n = digitsValue start digits := by
  induction digits generalizing start with
  | nil =>
    constructor
    · intro read
      cases read
      exact ⟨nofun, within, rfl⟩
    · rintro ⟨-, -, rfl⟩
      rfl
  | cons c digits ih =>
    have total : digitsValue start (c :: digits) =
        digitsValue (start * 10 + digitValue c) digits := rfl
    have grows := le_digitsValue (start * 10 + digitValue c) digits
    rw [readMagnitude, List.forall_mem_cons, total]
    by_cases digit : c.isDigit = true
    · by_cases exceeds : limit < start * 10 + digitValue c
      · simp only [digit, exceeds, Bool.not_true, Bool.false_eq_true, if_true, if_false, true_and]
        refine ⟨nofun, fun ⟨_, bound, _⟩ => ?_⟩
        omega
      · simp only [digit, exceeds, Bool.not_true, Bool.false_eq_true, if_false, true_and]
        exact ih (by omega)
    · simp [digit]

/-- What follows the whole part of a numeral. Where there is something, it begins with a point or a
letter and ends with a digit. -/
inductive IsTail : List Char → Option Int → List Char → Prop
  | nil : IsTail [] none []
  | cons {decimals tail : List Char} {exponent : Option Int} {c d : Char}
    (present : decimals ≠ [] ∨ exponent ≠ none) (first : c.isDigit = false)
    (last : (c :: tail).getLast? = some d) (digit : d.isDigit = true) :
    IsTail decimals exponent (c :: tail)

theorem IsTail.of_digits {c : Char} {between : List Char} (present : decimals ≠ [] ∨ exponent ≠ none)
    (first : c.isDigit = false) (filled : digits ≠ []) (each : ∀ d ∈ digits, d.isDigit = true) :
    IsTail decimals exponent (c :: (between ++ digits)) := by
  have last : (c :: (between ++ digits)).getLast? = some (digits.getLast filled) := by
    rw [← List.cons_append, List.getLast?_append_of_ne_nil _ filled,
      List.getLast?_eq_some_getLast filled]
  exact .cons present first last (each _ (List.getLast_mem filled))

theorem isDigit_takeWhile (text : List Char) : ∀ d ∈ text.takeWhile Char.isDigit, d.isDigit = true :=
  List.all_eq_true.1 List.all_takeWhile

theorem readFraction_some (read : readFraction text = some (decimals, rest)) :
    ∃ part, text = part ++ rest ∧ IsTail decimals none part := by
  unfold readFraction at read
  split at read
  · next text =>
    dsimp only [splitDigits] at read
    split at read
    · cases read
    · next present =>
      cases read
      have filled : text.takeWhile Char.isDigit ≠ [] := by simpa using present
      refine ⟨'.' :: ([] ++ text.takeWhile Char.isDigit), ?_, ?_⟩
      · rw [List.nil_append, List.cons_append, List.takeWhile_append_dropWhile]
      · exact .of_digits (.inl filled) rfl filled (isDigit_takeWhile text)
  · cases read
    exact ⟨[], rfl, .nil⟩

theorem exponent_some {letter : Char} {n : Int} (sign : List Char)
    (letterless : letter.isDigit = false)
    (read : (if (text.takeWhile Char.isDigit).isEmpty then none
      else some (some n, text.dropWhile Char.isDigit)) = some (exponent, rest)) :
    ∃ part, letter :: (sign ++ text) = part ++ rest ∧ IsTail [] exponent part := by
  split at read
  · cases read
  · next present =>
    cases read
    have filled : text.takeWhile Char.isDigit ≠ [] := by simpa using present
    refine ⟨letter :: (sign ++ text.takeWhile Char.isDigit), ?_, ?_⟩
    · rw [List.cons_append, List.append_assoc, List.takeWhile_append_dropWhile]
    · exact .of_digits (.inr (Option.some_ne_none _)) letterless filled (isDigit_takeWhile text)

theorem readExponent_some (read : readExponent text = some (exponent, rest)) :
    ∃ part, text = part ++ rest ∧ IsTail [] exponent part := by
  unfold readExponent at read
  split at read
  · next c text =>
    split at read
    · next letter =>
      have letterless : c.isDigit = false := by
        rcases letter with rfl | rfl
        · rfl
        · rfl
      split at read
      next negative after signed =>
      split at signed
      · cases signed
        exact exponent_some ['-'] letterless read
      · cases signed
        exact exponent_some ['+'] letterless read
      · cases signed
        exact exponent_some [] letterless read
    · cases read
      exact ⟨[], rfl, .nil⟩
  · cases read
    exact ⟨[], rfl, .nil⟩

theorem IsTail.append {fraction part : List Char} (first : IsTail decimals none fraction)
    (second : IsTail [] exponent part) : IsTail decimals exponent (fraction ++ part) := by
  cases first with
  | nil => exact second
  | @cons _ fraction _ c d present first last digit =>
    have filled : decimals ≠ [] := present.resolve_right (absurd rfl)
    cases second with
    | nil =>
      rw [List.append_nil]
      exact .cons (.inl filled) first last digit
    | @cons _ part _ c' d' _ _ last digit =>
      have last : (c :: (fraction ++ c' :: part)).getLast? = some d' := by
        rw [← List.cons_append, List.getLast?_append_of_ne_nil _ (List.cons_ne_nil c' part), last]
      exact .cons (.inl filled) first last digit

theorem IsTail.eq_nil_or {tail : List Char} (shape : IsTail decimals exponent tail) :
    tail = [] ∨ ∃ c rest d, tail = c :: rest ∧ c.isDigit = false ∧ tail.getLast? = some d ∧
      d.isDigit = true := by
  cases shape with
  | nil => exact .inl rfl
  | cons present first last digit => exact .inr ⟨_, _, _, rfl, first, last, digit⟩

theorem whole_of_split (split : (match text with
      | '0' :: rest => (['0'], rest)
      | text => splitDigits text) = (whole, rest)) :
    text = whole ++ rest ∧ (whole.isEmpty = false → Constant.IsWhole whole) := by
  split at split
  · cases split
    exact ⟨rfl, fun _ => .zero⟩
  · next other =>
    cases split
    have joined : text.takeWhile Char.isDigit ++ text.dropWhile Char.isDigit = text :=
      List.takeWhile_append_dropWhile
    have each := isDigit_takeWhile text
    refine ⟨joined.symm, fun filled => ?_⟩
    cases digits : text.takeWhile Char.isDigit with
    | nil =>
      rw [digits] at filled
      cases filled
    | cons c digits' =>
      rw [digits] at each joined
      obtain ⟨digit, each⟩ := List.forall_mem_cons.1 each
      refine .digits ?_ digit each
      rintro rfl
      exact other _ joined.symm

end

theorem numeralValue_int {n : Int} {negative : Bool} {whole decimals : List Char} {exponent : Option Int} :
    numeralValue? negative whole decimals exponent = some (.int n) ↔
      (decimals = [] ∧ exponent = none) ∧
        (negative = false ∧ digitsValue 0 whole ≤ greatestNat64 ∧ n = digitsValue 0 whole ∨
          negative = true ∧ 0 < digitsValue 0 whole ∧ leastInt64 ≤ -(digitsValue 0 whole : Int) ∧
            n = -digitsValue 0 whole) := by
  unfold numeralValue?
  dsimp only
  generalize digitsValue 0 whole = m
  constructor
  · intro value
    split at value
    · next plain =>
      obtain ⟨decimalless, unscaled, bound⟩ := plain
      refine ⟨⟨List.isEmpty_iff.1 decimalless, Option.isNone_iff_eq_none.1 unscaled⟩, ?_⟩
      split at value
      · next positive =>
        cases value
        exact .inl ⟨by simpa using positive, bound, rfl⟩
      · next signed =>
        split at value
        · next small =>
          cases value
          exact .inr ⟨by simpa using signed, small.1, small.2, rfl⟩
        · obtain ⟨x, -, same⟩ := Option.bind_eq_some_iff.1 value
          cases same
    · obtain ⟨x, -, same⟩ := Option.bind_eq_some_iff.1 value
      cases same
  · rintro ⟨⟨rfl, rfl⟩, ⟨rfl, bound, rfl⟩ | ⟨rfl, positive, least, rfl⟩⟩
    · rw [if_pos ⟨rfl, rfl, bound⟩]
      rfl
    · have bound : m ≤ greatestNat64 := by
        unfold leastInt64 at least
        unfold greatestNat64
        omega
      rw [if_pos ⟨rfl, rfl, bound⟩, Bool.not_true, if_neg Bool.false_ne_true, if_pos ⟨positive, least⟩]
      rfl

theorem readInt64_digits {c : Char} {digits : List Char} {n : Int} (digit : c.isDigit = true) :
    readInt64 (c :: digits) = .ok n ↔ (∀ d ∈ c :: digits, d.isDigit = true) ∧
      digitsValue 0 (c :: digits) ≤ greatestInt64.toNat ∧ n = digitsValue 0 (c :: digits) := by
  have unsigned : readInt64 (c :: digits) =
      (readMagnitude greatestInt64.toNat .tooLarge 0 (c :: digits)).map Int.ofNat := by
    unfold readInt64
    split
    case h_1 same => cases same
    case h_6 => rfl
    all_goals
      next same =>
        cases same
        cases digit
  rw [unsigned, map_eq_ok]
  simp only [readMagnitude_ok (Nat.zero_le _)]
  constructor
  · rintro ⟨_, ⟨each, bound, rfl⟩, rfl⟩
    exact ⟨each, bound, rfl⟩
  · rintro ⟨each, bound, rfl⟩
    exact ⟨_, ⟨each, bound, rfl⟩, rfl⟩

theorem readInt64_minus {digits : List Char} {n : Int} (filled : digits ≠ []) :
    readInt64 ('-' :: digits) = .ok n ↔ (∀ d ∈ digits, d.isDigit = true) ∧
      digitsValue 0 digits ≤ leastInt64.natAbs ∧ n = -digitsValue 0 digits := by
  have signed : readInt64 ('-' :: digits) =
      (readMagnitude leastInt64.natAbs .tooSmall 0 digits).map fun n => -(n : Int) := by
    obtain ⟨c, digits, rfl⟩ := List.exists_cons_of_ne_nil filled
    rfl
  rw [signed, map_eq_ok]
  simp only [bind_eq_ok, readMagnitude_ok (Nat.zero_le _)]
  constructor
  · rintro ⟨_, ⟨_, ⟨each, bound, rfl⟩, same⟩, rfl⟩
    cases same
    exact ⟨each, bound, rfl⟩
  · rintro ⟨each, bound, rfl⟩
    exact ⟨_, ⟨_, ⟨each, bound, rfl⟩, rfl⟩, rfl⟩

structure Numeral where
  negative : Bool
  whole : List Char
  decimals : List Char
  exponent : Option Int
  tail : List Char
  isWhole : Constant.IsWhole whole
  isTail : IsTail decimals exponent tail

namespace Numeral

variable {numeral other : Numeral}

def sign (numeral : Numeral) : List Char := if numeral.negative then ['-'] else []

def text (numeral : Numeral) : List Char := numeral.sign ++ (numeral.whole ++ numeral.tail)

def value (numeral : Numeral) : Option Number :=
  numeralValue? numeral.negative numeral.whole numeral.decimals numeral.exponent

end Numeral

variable {text rest : List Char} {value : Option Number}

theorem exists_unsigned {negative : Bool} (read : readUnsigned negative text = some (value, rest)) :
    ∃ numeral : Numeral, numeral.negative = negative ∧ numeral.value = value ∧
      text = numeral.whole ++ (numeral.tail ++ rest) := by
  unfold readUnsigned at read
  split at read
  next whole afterWhole split =>
  obtain ⟨same, isWhole⟩ := whole_of_split split
  split at read
  · cases read
  · next present =>
    simp only [Option.bind_eq_bind, Option.bind_eq_some_iff, Prod.exists] at read
    obtain ⟨decimals, afterFraction, fraction, exponent, afterExponent, scale, made⟩ := read
    cases made
    obtain ⟨first, same₁, isFraction⟩ := readFraction_some fraction
    obtain ⟨second, same₂, isExponent⟩ := readExponent_some scale
    refine ⟨⟨negative, whole, decimals, exponent, first ++ second, isWhole ?_,
      isFraction.append isExponent⟩, rfl, rfl, ?_⟩
    · simpa using present
    · rw [same, same₁, same₂, List.append_assoc]

theorem exists_numeral (read : readNumber text = some (value, rest)) :
    ∃ numeral : Numeral, text = numeral.text ++ rest ∧ numeral.value = value := by
  unfold readNumber at read
  split at read
  · obtain ⟨numeral, negative, made, same⟩ := exists_unsigned read
    refine ⟨numeral, ?_, made⟩
    rw [same, Numeral.text, Numeral.sign, negative]
    simp
  · obtain ⟨numeral, negative, made, same⟩ := exists_unsigned read
    refine ⟨numeral, ?_, made⟩
    rw [same, Numeral.text, Numeral.sign, negative]
    simp

namespace Numeral

variable {numeral other : Numeral} {n : Int}

def magnitude (numeral : Numeral) : Nat := digitsValue 0 numeral.whole

theorem whole_cons (numeral : Numeral) : ∃ c digits, numeral.whole = c :: digits ∧
    c.isDigit = true ∧ ∀ d ∈ digits, d.isDigit = true := by
  obtain ⟨negative, whole, decimals, exponent, tail, isWhole, isTail⟩ := numeral
  cases isWhole with
  | zero => exact ⟨_, _, rfl, rfl, nofun⟩
  | digits first digit each => exact ⟨_, _, rfl, digit, each⟩

theorem isDigit_iff (numeral : Numeral) :
    (∀ d ∈ numeral.whole ++ numeral.tail, d.isDigit = true) ↔ numeral.tail = [] := by
  obtain ⟨c, digits, whole, digit, each⟩ := numeral.whole_cons
  rcases numeral.isTail.eq_nil_or with none | ⟨c', rest, _, some, first, -, -⟩
  · simpa [none, whole, digit] using each
  · simp only [some, List.cons_ne_nil, iff_false]
    intro all
    have digit := all c' (List.mem_append_right _ List.mem_cons_self)
    rw [first] at digit
    cases digit

theorem tail_eq_nil_iff (numeral : Numeral) :
    numeral.tail = [] ↔ numeral.decimals = [] ∧ numeral.exponent = none := by
  obtain ⟨negative, whole, decimals, exponent, tail, isWhole, isTail⟩ := numeral
  cases isTail with
  | nil => simp
  | cons present first last digit =>
    simp only [List.cons_ne_nil, false_iff, not_and_or]
    exact present

theorem value_eq_int_iff : numeral.value = some (.int n) ↔ numeral.tail = [] ∧
    (numeral.negative = false ∧ numeral.magnitude ≤ greatestNat64 ∧ n = numeral.magnitude ∨
      numeral.negative = true ∧ 0 < numeral.magnitude ∧ leastInt64 ≤ -(numeral.magnitude : Int) ∧
        n = -numeral.magnitude) := by
  rw [tail_eq_nil_iff, value, numeralValue_int]
  rfl

theorem readInt64_ok : readInt64 numeral.text = .ok n ↔ numeral.tail = [] ∧
    (numeral.negative = false ∧ numeral.magnitude ≤ greatestInt64.toNat ∧ n = numeral.magnitude ∨
      numeral.negative = true ∧ numeral.magnitude ≤ leastInt64.natAbs ∧
        n = -numeral.magnitude) := by
  rw [← isDigit_iff]
  obtain ⟨c, digits, whole, digit, -⟩ := numeral.whole_cons
  have magnitude (each : ∀ d ∈ numeral.whole ++ numeral.tail, d.isDigit = true) :
      numeral.magnitude = digitsValue 0 (numeral.whole ++ numeral.tail) := by
    rw [numeral.isDigit_iff.1 each, List.append_nil]
    rfl
  rw [text, sign]
  cases negative : numeral.negative with
  | false =>
    rw [if_neg Bool.false_ne_true, List.nil_append]
    have read : readInt64 (c :: (digits ++ numeral.tail)) = .ok n ↔ _ := readInt64_digits digit
    rw [← List.cons_append, ← whole] at read
    rw [read]
    constructor
    · rintro ⟨each, bound, rfl⟩
      exact ⟨each, .inl ⟨rfl, magnitude each ▸ bound, by rw [magnitude each]⟩⟩
    · rintro ⟨each, ⟨-, bound, rfl⟩ | ⟨signed, -⟩⟩
      · exact ⟨each, magnitude each ▸ bound, by rw [magnitude each]⟩
      · cases signed
  | true =>
    have filled : numeral.whole ++ numeral.tail ≠ [] := by
      rw [whole]
      exact List.cons_ne_nil c _
    rw [if_pos rfl, List.singleton_append, readInt64_minus filled]
    constructor
    · rintro ⟨each, bound, rfl⟩
      exact ⟨each, .inr ⟨rfl, magnitude each ▸ bound, by rw [magnitude each]⟩⟩
    · rintro ⟨each, ⟨unsigned, -⟩ | ⟨-, bound, rfl⟩⟩
      · cases unsigned
      · exact ⟨each, magnitude each ▸ bound, by rw [magnitude each]⟩

theorem toInt64_int {n m : Int} : (Number.int m).toInt64? = some n ↔
    (leastInt64 ≤ n ∧ n ≤ greatestInt64) ∧ m = n := by
  rw [Number.toInt64?, Option.ite_none_right_eq_some, Option.some_inj]
  constructor
  · rintro ⟨range, rfl⟩
    exact ⟨range, rfl⟩
  · rintro ⟨range, rfl⟩
    exact ⟨range, rfl⟩

/-- As integers of 64 bits with a sign a numeral is read alike from text and from JSON, but for a negative
zero, which is no integer in JSON. -/
theorem readInt64_iff : readInt64 numeral.text = .ok n ↔
    (∃ k, numeral.value = some k ∧ k.toInt64? = some n) ∨ numeral.text = ['-', '0'] ∧ n = 0 := by
  have least : leastInt64 = -9223372036854775808 := rfl
  have greatest : greatestInt64 = 9223372036854775807 := rfl
  have widest : greatestNat64 = 18446744073709551615 := rfl
  constructor
  · intro read
    obtain ⟨none, ⟨unsigned, bound, rfl⟩ | ⟨signed, bound, rfl⟩⟩ := readInt64_ok.1 read
    · refine .inl ⟨.int numeral.magnitude, value_eq_int_iff.2 ⟨none, .inl ⟨unsigned, ?_, rfl⟩⟩,
        toInt64_int.2 ⟨⟨?_, ?_⟩, rfl⟩⟩ <;> omega
    · by_cases positive : 0 < numeral.magnitude
      · refine .inl ⟨.int (-numeral.magnitude),
          value_eq_int_iff.2 ⟨none, .inr ⟨signed, positive, ?_, rfl⟩⟩,
          toInt64_int.2 ⟨⟨?_, ?_⟩, rfl⟩⟩ <;> omega
      · have whole : numeral.whole = ['0'] := by
          by_contra other
          exact positive (digitsValue_pos numeral.isWhole other)
        refine .inr ⟨?_, by omega⟩
        rw [text, sign, whole, none, if_pos signed]
        rfl
  · rintro (⟨k, value, sized⟩ | ⟨zero, rfl⟩)
    · cases k with
      | float x => cases sized
      | int m =>
        obtain ⟨range, rfl⟩ := toInt64_int.1 sized
        obtain ⟨none, ⟨unsigned, bound, rfl⟩ | ⟨signed, positive, bound, rfl⟩⟩ :=
          value_eq_int_iff.1 value
        · exact readInt64_ok.2 ⟨none, .inl ⟨unsigned, by omega, rfl⟩⟩
        · exact readInt64_ok.2 ⟨none, .inr ⟨signed, by omega, rfl⟩⟩
    · rw [zero]
      rfl

theorem text_inj (same : numeral.text = other.text) : numeral.negative = other.negative ∧
    numeral.whole ++ numeral.tail = other.whole ++ other.tail := by
  obtain ⟨c, digits, whole, digit, -⟩ := numeral.whole_cons
  obtain ⟨c', digits', whole', digit', -⟩ := other.whole_cons
  rw [text, text, sign, sign] at same
  cases negative : numeral.negative with
  | false =>
    cases negative' : other.negative with
    | false => exact ⟨rfl, by simpa [negative, negative'] using same⟩
    | true =>
      have head := congrArg List.head? same
      rw [negative, negative', whole] at head
      obtain rfl : c = '-' := Option.some.inj head
      cases digit
  | true =>
    cases negative' : other.negative with
    | false =>
      have head := congrArg List.head? same
      rw [negative, negative', whole'] at head
      obtain rfl : '-' = c' := Option.some.inj head
      cases digit'
    | true => exact ⟨rfl, by simpa [negative, negative'] using same⟩

theorem value_of_text_eq (same : numeral.text = other.text) (int : other.value = some (.int n)) :
    numeral.value = some (.int n) := by
  obtain ⟨negative, digits⟩ := text_inj same
  obtain ⟨none, cases⟩ := value_eq_int_iff.1 int
  have each := other.isDigit_iff.2 none
  rw [← digits] at each
  have none' := numeral.isDigit_iff.1 each
  rw [none, none', List.append_nil, List.append_nil] at digits
  refine value_eq_int_iff.2 ⟨none', ?_⟩
  rwa [negative, magnitude, digits]

theorem readUnsigned_whole {whole : List Char} (negative : Bool) (shape : Constant.IsWhole whole) :
    readUnsigned negative whole = some (numeralValue? negative whole [] none, []) := by
  cases shape with
  | zero => rfl
  | @digits c digits first digit each =>
    have ends : Constant.EndsDigits [] := nofun
    have split := Constant.splitDigits_append (List.forall_mem_cons.2 ⟨digit, each⟩) ends
    rw [List.append_nil] at split
    unfold readUnsigned
    split
    next whole rest parts =>
    split at parts
    · next same =>
      cases same
      exact absurd rfl first
    · rw [split] at parts
      cases parts
      rfl

theorem readNumber_text (numeral : Numeral) : readNumber numeral.text =
    readUnsigned numeral.negative (numeral.whole ++ numeral.tail) := by
  obtain ⟨c, digits, whole, digit, -⟩ := numeral.whole_cons
  rw [text, sign, whole]
  cases numeral.negative with
  | false =>
    rw [if_neg Bool.false_ne_true, List.nil_append]
    unfold readNumber
    split
    · next same =>
      cases same
      cases digit
    · rfl
  | true => rfl

theorem readNumber_int_iff : readNumber? numeral.text = some (.int n) ↔
    numeral.value = some (.int n) := by
  constructor
  · intro read
    unfold readNumber? at read
    split at read
    · next k number =>
      obtain ⟨other, same, value⟩ := exists_numeral number
      rw [List.append_nil] at same
      exact value_of_text_eq same (value.trans read)
    · cases read
  · intro int
    obtain ⟨none, -⟩ := value_eq_int_iff.1 int
    obtain ⟨plain, unscaled⟩ := numeral.tail_eq_nil_iff.1 none
    rw [value, plain, unscaled] at int
    have number : readNumber numeral.text = some (some (.int n), []) := by
      rw [readNumber_text, none, List.append_nil, readUnsigned_whole _ numeral.isWhole, int]
    rw [readNumber?, number]

theorem exists_last (numeral : Numeral) : ∃ d, numeral.text.getLast? = some d ∧ d.isDigit = true := by
  obtain ⟨c, digits, whole, digit, each⟩ := numeral.whole_cons
  have filled : numeral.whole ≠ [] := by
    rw [whole]
    exact List.cons_ne_nil c digits
  rcases numeral.isTail.eq_nil_or with none | ⟨c', rest, d, some, -, last, digit⟩
  · refine ⟨numeral.whole.getLast filled, ?_, ?_⟩
    · rw [text, none, List.append_nil, List.getLast?_append_of_ne_nil _ filled,
        List.getLast?_eq_some_getLast filled]
    · exact numeral.isDigit_iff.2 none _ (List.mem_append_left _ (List.getLast_mem filled))
  · refine ⟨d, ?_, digit⟩
    have longer : numeral.tail ≠ [] := by
      rw [some]
      exact List.cons_ne_nil c' rest
    rw [text, List.getLast?_append_of_ne_nil _ (List.append_ne_nil_of_left_ne_nil filled _),
      List.getLast?_append_of_ne_nil _ longer, last]

theorem exists_first (numeral : Numeral) :
    ∃ c rest, numeral.text = c :: rest ∧ (c = '-' ∨ c.isDigit = true) := by
  obtain ⟨c, digits, whole, digit, -⟩ := numeral.whole_cons
  rw [text, sign, whole]
  cases numeral.negative with
  | false => exact ⟨c, _, rfl, .inr digit⟩
  | true => exact ⟨'-', _, rfl, .inl rfl⟩

end Numeral

end SchemaDiscovery.Json
