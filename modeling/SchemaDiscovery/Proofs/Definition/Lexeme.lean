import SchemaDiscovery.Proofs.Definition.Printing
/-!
Lexemes of schema text. Main statement: texts that spell lexemes spell them one after the other where they
are put together, as long as no name runs on into the next one.
-/

namespace SchemaDiscovery

/-- A punctuator, a name, or a token that is a value of its own. -/
inductive Lexeme
  | punctuator (c : Char)
  | name (name : String)
  | value (token : Constant.Token)

namespace Lexeme

def punctuators : List Char :=
  ['!', '$', '&', '(', ')', ':', '=', '@', '[', ']', '\x7b', '|', '\x7d']

def ofToken : Constant.Token → Lexeme
  | .name called => .name called
  | token => .value token

/-- The lexemes of a text, each of which takes at least one of `limit` characters. Blanks, line ends, commas
and comments are passed over. -/
def within : Nat → List Char → Option (List Lexeme)
  | _, [] => some []
  | 0, _ :: _ => none
  | limit + 1, c :: rest =>
    if Constant.isIgnored c then within limit rest
    else if c = '#' then within limit (rest.dropWhile (!Constant.isLineEnd ·))
    else if c ∈ punctuators then (within limit rest).map (.punctuator c :: ·)
    else do
      let (token, after) ← Constant.readToken (c :: rest)
      return ofToken token :: (← within limit after)

def ofText? (text : List Char) : Option (List Lexeme) := within text.length text

variable {text rest : List Char} {lexemes later : List Lexeme} {c : Char}

/-- The text has the lexemes, whatever limit fits it. -/
def Lexes (text : List Char) (lexemes : List Lexeme) : Prop :=
  ∀ limit, text.length ≤ limit → within limit text = some lexemes

def IsDelimited (text : List Char) : Prop := ∀ c ∈ text.head?, isNameChar c = false

/-- Before a text that no name runs on into, the text stands for the lexemes. -/
def Spells (text : List Char) (lexemes : List Lexeme) : Prop :=
  ∀ rest later, IsDelimited rest → Lexes rest later → Lexes (text ++ rest) (lexemes ++ later)

theorem isDelimited_nil : IsDelimited [] := nofun

theorem isDelimited_cons (other : isNameChar c = false) : IsDelimited (c :: text) := by
  intro d head
  cases head
  exact other

theorem IsDelimited.append (first : IsDelimited text) (second : IsDelimited rest) :
    IsDelimited (text ++ rest) := by
  cases text with
  | nil => exact second
  | cons c text => exact isDelimited_cons (first c rfl)

theorem lexes_nil : Lexes [] [] := by
  intro limit _
  cases limit <;> rfl

theorem lexes_ignored (ignored : Constant.isIgnored c = true) (later : Lexes text lexemes) :
    Lexes (c :: text) lexemes := by
  intro limit enough
  cases limit with
  | zero => cases enough
  | succ limit =>
    rw [within, if_pos ignored]
    exact later limit (Nat.le_of_succ_le_succ enough)

theorem lexes_punctuator (listed : c ∈ punctuators) (later : Lexes text lexemes) :
    Lexes (c :: text) (.punctuator c :: lexemes) := by
  have each : (punctuators.all fun c => !Constant.isIgnored c && c != '#') = true := by decide
  have kept := List.all_eq_true.1 each c listed
  simp only [Bool.and_eq_true, Bool.not_eq_true', bne_iff_ne] at kept
  intro limit enough
  cases limit with
  | zero => cases enough
  | succ limit =>
    rw [within, kept.1, if_neg Bool.false_ne_true, if_neg kept.2, if_pos listed,
      later limit (Nat.le_of_succ_le_succ enough)]
    rfl

theorem lexes_name {name : String} (legal : isLegalName name = true) (ends : IsDelimited rest)
    (later : Lexes rest lexemes) : Lexes (name.toList ++ rest) (.name name :: lexemes) := by
  obtain ⟨c, text, same, start, plain, read⟩ := Constant.readToken_name legal ends
  have kept := Constant.kept_of_plain plain
  have other : c ∉ punctuators := by
    intro listed
    have each : (punctuators.all fun c => !isNameStart c) = true := by decide
    have here := List.all_eq_true.1 each c listed
    rw [start] at here
    cases here
  rw [same, List.cons_append]
  intro limit enough
  cases limit with
  | zero => cases enough
  | succ limit =>
    have fits : rest.length ≤ limit := by
      rw [List.length_cons, List.length_append] at enough
      omega
    rw [within, kept.1, if_neg Bool.false_ne_true, if_neg kept.2, if_neg other, read]
    show (within limit rest).bind _ = _
    rw [later limit fits]
    rfl

theorem spells_nil : Spells [] [] := fun _ _ _ later => later

theorem spells_name {name : String} (legal : isLegalName name = true) :
    Spells name.toList [.name name] := fun _ _ ends later => lexes_name legal ends later

theorem Spells.ignored (spelled : Spells text lexemes) (ignored : Constant.isIgnored c = true) :
    Spells (c :: text) lexemes :=
  fun rest later ends following => lexes_ignored ignored (spelled rest later ends following)

theorem Spells.punctuator (spelled : Spells text lexemes) (listed : c ∈ punctuators) :
    Spells (c :: text) (.punctuator c :: lexemes) :=
  fun rest later ends following => lexes_punctuator listed (spelled rest later ends following)

/-- The text stands for the lexemes, and no name before it runs on into it. -/
structure Stands (text : List Char) (lexemes : List Lexeme) : Prop where
  spells : Spells text lexemes
  delimited : IsDelimited text

theorem Spells.append {text' : List Char} {lexemes' : List Lexeme} (first : Spells text lexemes)
    (second : Stands text' lexemes') : Spells (text ++ text') (lexemes ++ lexemes') := by
  intro rest later delimited following
  rw [List.append_assoc, List.append_assoc]
  exact first _ _ (second.delimited.append delimited) (second.spells rest later delimited following)

theorem Stands.append {text' : List Char} {lexemes' : List Lexeme} (first : Stands text lexemes)
    (second : Stands text' lexemes') : Stands (text ++ text') (lexemes ++ lexemes') where
  spells := first.spells.append second
  delimited := first.delimited.append second.delimited

theorem stands_nil : Stands [] [] := ⟨spells_nil, isDelimited_nil⟩

theorem Spells.blank (spelled : Spells text lexemes) (ignored : Constant.isIgnored c = true) :
    Stands (c :: text) lexemes where
  spells := spelled.ignored ignored
  delimited := by
    refine isDelimited_cons ?_
    simp only [Constant.isIgnored, Json.isSpace, Bool.or_eq_true, beq_iff_eq] at ignored
    rcases ignored with ((((rfl | rfl) | rfl) | rfl) | rfl) | rfl <;> decide

theorem Spells.mark (spelled : Spells text lexemes) (listed : c ∈ punctuators) :
    Stands (c :: text) (.punctuator c :: lexemes) where
  spells := spelled.punctuator listed
  delimited := by
    have each : (punctuators.all fun c => !isNameChar c) = true := by decide
    have other := List.all_eq_true.1 each c listed
    exact isDelimited_cons (by simpa using other)

section

variable {α : Type} {write : α → List Char} {shows : α → List Lexeme} {items : List α}

theorem stands_flatten (each : ∀ item ∈ items, Stands (write item) (shows item)) :
    Stands (items.map write).flatten (items.flatMap shows) := by
  induction items with
  | nil => exact stands_nil
  | cons item items ih =>
    obtain ⟨here, others⟩ := List.forall_mem_cons.1 each
    rw [List.map_cons, List.flatten_cons, List.flatMap_cons]
    exact here.append (ih others)

theorem spells_intercalate (separator : List Char) (between : List Lexeme) {first : α}
    (separates : ∀ text lexemes, Spells text lexemes → Stands (separator ++ text) (between ++ lexemes))
    (each : ∀ item ∈ first :: items, Spells (write item) (shows item)) :
    Spells (separator.intercalate ((first :: items).map write))
      (shows first ++ items.flatMap fun item => between ++ shows item) := by
  induction items generalizing first with
  | nil =>
    have single : separator.intercalate ([first].map write) = write first := by
      simp [List.intercalate]
    rw [single, List.flatMap_nil, List.append_nil]
    exact each first (List.mem_singleton_self first)
  | cons next items ih =>
    obtain ⟨here, others⟩ := List.forall_mem_cons.1 each
    have split : separator.intercalate ((first :: next :: items).map write) =
        write first ++ (separator ++ separator.intercalate ((next :: items).map write)) := by
      simp [List.intercalate_cons_cons]
    rw [split, List.flatMap_cons, List.append_assoc]
    exact here.append (separates _ _ (ih others))

end

theorem Spells.ofText (spelled : Spells text lexemes) : ofText? text = some lexemes := by
  have whole := spelled [] [] isDelimited_nil lexes_nil
  rw [List.append_nil, List.append_nil] at whole
  exact whole text.length (Nat.le_refl _)

end Lexeme

end SchemaDiscovery
