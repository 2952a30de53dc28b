import SchemaDiscovery.Descriptor.Tag
import Mathlib.Data.List.Basic
/-!
The words of a text. Main statements: the words are the maximal runs of word characters; a pattern of word
characters stands between two boundaries when it is one of the words, and this is what the search looks
for; a tag forbids null when one of the words in its name does.
-/

namespace SchemaDiscovery

namespace Text

def endsWithWordChar (text : List Char) : Bool := text.getLast?.any isWordChar

/-- A word character stands on one side of the place between two parts of a text and none on the
other. -/
def IsBoundary (before after : List Char) : Prop :=
  endsWithWordChar before ≠ beginsWithWordChar after

def OccursBounded (pattern text : List Char) : Prop :=
  ∃ before after, text = before ++ pattern ++ after ∧
    IsBoundary before (pattern ++ after) ∧ IsBoundary (before ++ pattern) after

/-- The word is a run of word characters in the text, as long as it can be. -/
structure IsWord (word text : List Char) : Prop where
  nonempty : word ≠ []
  wordChars : ∀ c ∈ word, isWordChar c = true
  maximal : ∃ before after, text = before ++ word ++ after ∧
    endsWithWordChar before = false ∧ beginsWithWordChar after = false

variable {word text before after pattern : List Char} {c separator : Char}

theorem endsWithWordChar_concat (text : List Char) (c : Char) :
    endsWithWordChar (text ++ [c]) = isWordChar c := by
  simp [endsWithWordChar]

theorem beginsWithWordChar_append (nonempty : text ≠ []) (after : List Char) :
    beginsWithWordChar (text ++ after) = beginsWithWordChar text := by
  cases text with
  | nil => exact absurd rfl nonempty
  | cons c text => rfl

theorem endsWithWordChar_append (before : List Char) (nonempty : text ≠ []) :
    endsWithWordChar (before ++ text) = endsWithWordChar text := by
  rw [endsWithWordChar, List.getLast?_append_of_ne_nil before nonempty, endsWithWordChar]

theorem beginsWithWordChar_append_separator (apart : isWordChar separator = false)
    (before after : List Char) :
    beginsWithWordChar (before ++ separator :: after) = beginsWithWordChar before := by
  cases before with
  | nil => exact apart
  | cons c before => rfl

theorem endsWithWordChar_separator_append (apart : isWordChar separator = false)
    (before after : List Char) :
    endsWithWordChar (before ++ separator :: after) = endsWithWordChar after := by
  rcases List.eq_nil_or_concat after with rfl | ⟨after, c, rfl⟩
  · rw [endsWithWordChar_concat, apart]
    rfl
  · rw [List.concat_eq_append, ← List.cons_append, ← List.append_assoc, endsWithWordChar_concat,
      endsWithWordChar_concat]

theorem words_cons (wordChar : isWordChar c = true) (text : List Char) : words (c :: text) =
    match text, words text with
    | next :: _, run :: runs => if isWordChar next then (c :: run) :: runs else [c] :: run :: runs
    | _, runs => [c] :: runs := by
  rw [words.eq_def]
  exact if_pos wordChar

theorem words_separator (apart : isWordChar separator = false) (text : List Char) :
    words (separator :: text) = words text := by
  rw [words.eq_def]
  exact if_neg (Bool.eq_false_iff.1 apart)

theorem words_alone (wordChar : isWordChar c = true) (alone : beginsWithWordChar text = false) :
    words (c :: text) = [c] :: words text := by
  rw [words_cons wordChar]
  split
  · next next _ run runs found =>
    have apart : isWordChar next = false := alone
    rw [found, if_neg (Bool.eq_false_iff.1 apart)]
  · rfl

theorem words_longer (wordChar : isWordChar c = true) (more : beginsWithWordChar text = true) :
    ∃ word rest, words text = word :: rest ∧ words (c :: text) = (c :: word) :: rest := by
  induction text generalizing c with
  | nil => cases more
  | cons next text ih =>
    have joined : isWordChar next = true := more
    have begun : ∃ word rest, words (next :: text) = word :: rest := by
      by_cases further : beginsWithWordChar text = true
      · obtain ⟨word, rest, -, found⟩ := ih joined further
        exact ⟨_, _, found⟩
      · exact ⟨_, _, words_alone joined (Bool.eq_false_iff.2 further)⟩
    obtain ⟨word, rest, found⟩ := begun
    refine ⟨word, rest, found, ?_⟩
    rw [words_cons wordChar, found]
    exact if_pos joined

theorem words_of_wordChars (nonempty : text ≠ []) (wordChars : ∀ c ∈ text, isWordChar c = true) :
    words text = [text] := by
  induction text with
  | nil => exact absurd rfl nonempty
  | cons c text ih =>
    have first : isWordChar c = true := wordChars c List.mem_cons_self
    cases text with
    | nil => exact words_alone first rfl
    | cons next text =>
      have others : ∀ c ∈ next :: text, isWordChar c = true :=
        fun c member => wordChars c (List.mem_cons_of_mem _ member)
      have more : beginsWithWordChar (next :: text) = true := others next List.mem_cons_self
      obtain ⟨word, rest, found, longer⟩ := words_longer first more
      rw [ih (List.cons_ne_nil _ _) others] at found
      obtain ⟨rfl, rfl⟩ := List.cons_eq_cons.1 found
      exact longer

theorem words_append_separator (apart : isWordChar separator = false) (before after : List Char) :
    words (before ++ separator :: after) = words before ++ words after := by
  induction before with
  | nil => exact words_separator apart after
  | cons c before ih =>
    have same := beginsWithWordChar_append_separator apart before after
    rw [List.cons_append]
    by_cases wordChar : isWordChar c = true
    · by_cases more : beginsWithWordChar before = true
      · obtain ⟨word, rest, found, longer⟩ := words_longer wordChar more
        obtain ⟨word', rest', found', longer'⟩ := words_longer wordChar (same.trans more)
        rw [ih, found, List.cons_append] at found'
        obtain ⟨rfl, rfl⟩ := List.cons_eq_cons.1 found'
        rw [longer', longer, List.cons_append]
      · have alone := Bool.eq_false_iff.2 more
        rw [words_alone wordChar (same.trans alone), words_alone wordChar alone, ih,
          List.cons_append]
    · have other := Bool.eq_false_iff.2 wordChar
      rw [words_separator other, words_separator other, ih]

theorem words_append (ended : endsWithWordChar before = false) (after : List Char) :
    words (before ++ after) = words before ++ words after := by
  rcases List.eq_nil_or_concat before with rfl | ⟨before, separator, rfl⟩
  · rfl
  · rw [List.concat_eq_append, endsWithWordChar_concat] at ended
    rw [List.concat_eq_append, List.append_assoc, List.singleton_append,
      words_append_separator ended, words_append_separator ended before [], words,
      List.append_nil]

/-! ### Maximal runs -/

theorem IsWord.append_separator (isWord : IsWord word before) (apart : isWordChar separator = false)
    (after : List Char) : IsWord word (before ++ separator :: after) := by
  obtain ⟨left, right, rfl, ended, begun⟩ := isWord.maximal
  refine ⟨isWord.nonempty, isWord.wordChars, left, right ++ separator :: after, ?_, ended, ?_⟩
  · rw [List.append_assoc]
  · rw [beginsWithWordChar_append_separator apart, begun]

theorem IsWord.separator_append (isWord : IsWord word after) (apart : isWordChar separator = false)
    (before : List Char) : IsWord word (before ++ separator :: after) := by
  obtain ⟨left, right, rfl, ended, begun⟩ := isWord.maximal
  refine ⟨isWord.nonempty, isWord.wordChars, before ++ separator :: left, right, ?_, ?_, begun⟩
  · rw [List.append_assoc, List.append_assoc, List.append_assoc, List.cons_append]
  · rw [endsWithWordChar_separator_append apart, ended]

theorem isWord_of_mem_words {text : List Char} (member : word ∈ words text) : IsWord word text := by
  by_cases wordChars : ∀ c ∈ text, isWordChar c = true
  · have nonempty : text ≠ [] := by
      rintro rfl
      cases member
    rw [words_of_wordChars nonempty wordChars, List.mem_singleton] at member
    subst member
    exact ⟨nonempty, wordChars, [], [], (List.append_nil _).symm, rfl, rfl⟩
  · -- Each part beside a separator is shorter than the text.
    push Not at wordChars
    obtain ⟨separator, present, apart⟩ := wordChars
    obtain ⟨before, after, parts⟩ := List.append_of_mem present
    have apart : isWordChar separator = false := Bool.eq_false_iff.2 apart
    rw [parts, words_append_separator apart, List.mem_append] at member
    rw [parts]
    rcases member with earlier | later
    · exact (isWord_of_mem_words earlier).append_separator apart after
    · exact (isWord_of_mem_words later).separator_append apart before
termination_by text.length
decreasing_by all_goals simp only [parts, List.length_append, List.length_cons]; omega

theorem IsWord.mem_words (isWord : IsWord word text) : word ∈ words text := by
  obtain ⟨before, after, rfl, ended, begun⟩ := isWord.maximal
  have single : words word = [word] := words_of_wordChars isWord.nonempty isWord.wordChars
  rw [List.append_assoc, words_append ended, List.mem_append]
  right
  cases after with
  | nil => rw [List.append_nil, single, List.mem_singleton]
  | cons separator after =>
    rw [words_append_separator begun, single]
    exact List.mem_cons_self

theorem mem_words_iff : word ∈ words text ↔ IsWord word text :=
  ⟨isWord_of_mem_words, IsWord.mem_words⟩

theorem isWord_iff_maximal (nonempty : pattern ≠ [])
    (wordChars : ∀ c ∈ pattern, isWordChar c = true) :
    IsWord pattern text ↔ ∃ before after, text = before ++ pattern ++ after ∧
      endsWithWordChar before = false ∧ beginsWithWordChar after = false :=
  ⟨IsWord.maximal, fun maximal => ⟨nonempty, wordChars, maximal⟩⟩

theorem isWord_append_separator (apart : isWordChar separator = false) :
    IsWord word (before ++ separator :: after) ↔ IsWord word before ∨ IsWord word after := by
  rw [← mem_words_iff, words_append_separator apart, List.mem_append, mem_words_iff, mem_words_iff]

/-! ### The search -/

theorem occursWholeAfter_iff (nonempty : pattern ≠ []) (earlier text : List Char) :
    occursWholeAfter pattern (endsWithWordChar earlier) text = true ↔
      ∃ before after, text = before ++ pattern ++ after ∧
        endsWithWordChar (earlier ++ before) = false ∧ beginsWithWordChar after = false := by
  -- What the search has passed is put into the statement, as it decides on the boundary in front.
  induction text generalizing earlier with
  | nil =>
    refine ⟨nofun, ?_⟩
    rintro ⟨before, after, parts, -⟩
    simp [nonempty] at parts
  | cons c text ih =>
    have passed := ih (earlier ++ [c])
    rw [endsWithWordChar_concat] at passed
    rw [occursWholeAfter, Bool.or_eq_true, passed]
    constructor
    · rintro (here | ⟨before, after, rfl, ended, begun⟩)
      · simp only [Bool.and_eq_true, Bool.not_eq_true', List.isPrefixOf_iff_prefix] at here
        obtain ⟨⟨ended, after, parts⟩, begun⟩ := here
        rw [← parts, List.drop_left] at begun
        exact ⟨[], after, parts.symm, by rw [List.append_nil, ended], begun⟩
      · rw [List.append_assoc, List.singleton_append] at ended
        exact ⟨c :: before, after, rfl, ended, begun⟩
    · rintro ⟨before, after, parts, ended, begun⟩
      cases before with
      | nil =>
        left
        rw [List.append_nil] at ended
        rw [List.nil_append] at parts
        rw [parts, List.drop_left, ended, begun]
        simp
      | cons first before =>
        obtain ⟨rfl, rfl⟩ := List.cons_eq_cons.1 parts
        right
        refine ⟨before, after, rfl, ?_, begun⟩
        rw [List.append_assoc, List.singleton_append, ended]

theorem occursWhole_iff (nonempty : pattern ≠ []) (wordChars : ∀ c ∈ pattern, isWordChar c = true) :
    occursWhole pattern text = true ↔ IsWord pattern text := by
  rw [isWord_iff_maximal nonempty wordChars]
  exact occursWholeAfter_iff nonempty [] text

theorem occursBounded_iff (nonempty : pattern ≠ []) (wordChars : ∀ c ∈ pattern, isWordChar c = true) :
    OccursBounded pattern text ↔ IsWord pattern text := by
  have begun : beginsWithWordChar pattern = true := by
    cases pattern with
    | nil => exact absurd rfl nonempty
    | cons c pattern => exact wordChars c List.mem_cons_self
  have ended : endsWithWordChar pattern = true := by
    rcases List.eq_nil_or_concat pattern with rfl | ⟨front, c, rfl⟩
    · exact absurd rfl nonempty
    · rw [List.concat_eq_append, endsWithWordChar_concat]
      exact wordChars c (by simp)
  have bounded : ∀ before after, IsBoundary before (pattern ++ after) ∧
      IsBoundary (before ++ pattern) after ↔
        endsWithWordChar before = false ∧ beginsWithWordChar after = false := by
    intro before after
    rw [IsBoundary, IsBoundary, beginsWithWordChar_append nonempty,
      endsWithWordChar_append before nonempty, begun, ended]
    exact and_congr Bool.eq_false_iff.symm (ne_comm.trans Bool.eq_false_iff.symm)
  rw [isWord_iff_maximal nonempty wordChars]
  simp only [OccursBounded, bounded]

end Text

namespace Tag

theorem notNull_wordChars : ∀ c ∈ "NotNull".toList, Text.isWordChar c = true := by
  rw [← List.all_eq_true]
  decide

theorem nonNull_wordChars : ∀ c ∈ "NonNull".toList, Text.isWordChar c = true := by
  rw [← List.all_eq_true]
  decide

theorem isNotNull_iff (tag : Tag) : tag.isNotNull = true ↔
    Text.IsWord "NotNull".toList tag.label.toList ∨
      Text.IsWord "NonNull".toList tag.label.toList := by
  rw [isNotNull, Bool.or_eq_true, Text.occursWhole_iff (by simp) notNull_wordChars,
    Text.occursWhole_iff (by simp) nonNull_wordChars]

/-- A tag forbids null when a maximal run of word characters in its name is one of the two customary
names, that is, when one of these occurs in it between two boundaries. Where a separator divides the name,
one of the two parts must forbid null by itself. -/
theorem isNotNull_words :
    (∀ tag : Tag,
      (tag.isNotNull = true ↔ ∃ word, Text.IsWord word tag.label.toList ∧
        (word = "NotNull".toList ∨ word = "NonNull".toList)) ∧
      (tag.isNotNull = true ↔ Text.OccursBounded "NotNull".toList tag.label.toList ∨
        Text.OccursBounded "NonNull".toList tag.label.toList)) ∧
    ∀ (tag left right : Tag) (separator : Char), Text.isWordChar separator = false →
      tag.label = left.label ++ separator.toString ++ right.label →
      (tag.isNotNull = true ↔ left.isNotNull = true ∨ right.isNotNull = true) := by
  refine ⟨fun tag => ⟨?_, ?_⟩, ?_⟩
  · rw [isNotNull_iff]
    constructor
    · rintro (isWord | isWord)
      · exact ⟨_, isWord, .inl rfl⟩
      · exact ⟨_, isWord, .inr rfl⟩
    · rintro ⟨word, isWord, rfl | rfl⟩
      · exact .inl isWord
      · exact .inr isWord
  · rw [isNotNull_iff, Text.occursBounded_iff (by simp) notNull_wordChars,
      Text.occursBounded_iff (by simp) nonNull_wordChars]
  · intro tag left right separator apart parts
    have named : tag.label.toList = left.label.toList ++ separator :: right.label.toList := by
      rw [parts, Char.toString, String.toList_append, String.toList_append, String.toList_singleton,
        List.append_assoc, List.singleton_append]
    rw [isNotNull_iff, isNotNull_iff, isNotNull_iff, named, Text.isWord_append_separator apart,
      Text.isWord_append_separator apart, or_or_or_comm]

theorem isNotNull_words_annotated :
    Text.isWordChar '@' = false ∧
      (marker "NotNullable @NonNull()").label =
        (marker "NotNullable ").label ++ '@'.toString ++ (marker "NonNull()").label ∧
      (marker "NotNullable ").isNotNull = false ∧
      ((marker "NotNullable @NonNull()").isNotNull = true ↔
        (marker "NotNullable ").isNotNull = true ∨ (marker "NonNull()").isNotNull = true) := by
  have apart : Text.isWordChar '@' = false := by decide
  have parts : (marker "NotNullable @NonNull()").label =
      (marker "NotNullable ").label ++ '@'.toString ++ (marker "NonNull()").label := by decide
  exact ⟨apart, parts, by decide, isNotNull_words.2 _ _ _ '@' apart parts⟩

end Tag

end SchemaDiscovery
