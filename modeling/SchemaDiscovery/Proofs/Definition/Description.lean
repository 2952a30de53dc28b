import SchemaDiscovery.Definition.Render
import SchemaDiscovery.Proofs.Definition.Escape
/-!
Descriptions and their ends. Main statements: a description on one line is read back as the text it was
made from, whatever follows it, and a block description ends at the quotes on its last line, whatever
quotes and backslashes its text has.
-/

namespace SchemaDiscovery

open Constant (hexPoint? isLineEnd readPoints spanBlock)

/-! ### On one line -/

def letterEscape? : Char → Option Char
  | '"' => some '"'
  | '\\' => some '\\'
  | 'n' => some '\n'
  | 'r' => some '\r'
  | 't' => some '\t'
  | _ => none

def charOfPoint? (point : Nat) : Option Char :=
  if point.isValidChar then some (Char.ofNat point) else none

def quotedChars : List Char → Option (List Char × List Char)
  | [] => none
  | '"' :: rest => some ([], rest)
  | '\\' :: 'u' :: a :: b :: c :: d :: rest => do
    let point ← hexPoint? a b c d
    let char ← charOfPoint? point
    let (chars, after) ← quotedChars rest
    return (char :: chars, after)
  | '\\' :: c :: rest => do
    let char ← letterEscape? c
    let (chars, after) ← quotedChars rest
    return (char :: chars, after)
  | c :: rest =>
    if isLineEnd c then none
    else (quotedChars rest).map fun (chars, after) => (c :: chars, after)

def readQuoted : List Char → Option (String × List Char)
  | '"' :: text => (quotedChars text).map fun (chars, after) => (String.ofList chars, after)
  | _ => none

section

variable {c char : Char} {digits text rest : List Char} {point : Nat}

theorem quotedChars_fourDigits (four : Literal.fourDigits? digits = some point)
    (valid : charOfPoint? point = some char) (rest : List Char) :
    quotedChars ('\\' :: 'u' :: (digits ++ rest)) =
      (quotedChars rest).map fun (chars, after) => (char :: chars, after) := by
  unfold Literal.fourDigits? at four
  split at four
  · simp only [List.cons_append, List.nil_append, quotedChars, four, Option.bind_eq_bind,
      Option.bind_some, valid]
    cases quotedChars rest <;> rfl
  · cases four

theorem quotedChars_letter (known : letterEscape? c = some char) (rest : List Char) :
    quotedChars ('\\' :: c :: rest) =
      (quotedChars rest).map fun (chars, after) => (char :: chars, after) := by
  have other : c ≠ 'u' := by
    rintro rfl
    cases known
  rw [quotedChars.eq_4 _ _ (fun _ _ _ _ _ same _ => other same), known]
  cases quotedChars rest <;> rfl

theorem quotedChars_plain (quoteless : c ≠ '"') (straight : c ≠ '\\')
    (within : isLineEnd c = false) (rest : List Char) :
    quotedChars (c :: rest) =
      (quotedChars rest).map fun (chars, after) => (c :: chars, after) := by
  rw [quotedChars.eq_5 _ _ quoteless (fun _ _ _ _ _ same _ => straight same)
    (fun _ _ same _ => straight same), within]
  rfl

theorem fourDigits_escapeDigits (control : Text.isControl c = true) :
    Literal.fourDigits? (Json.escapeDigits c.toNat) = some c.toNat ∧
      charOfPoint? c.toNat = some c :=
  Literal.of_isControl (P := fun c => Literal.fourDigits? (Json.escapeDigits c.toNat) = some c.toNat ∧
    charOfPoint? c.toNat = some c) (by decide +kernel) control

theorem quotedChars_quotedDescriptionChar (c : Char) (rest : List Char) :
    quotedChars (quotedDescriptionChar c ++ rest) =
      (quotedChars rest).map fun (chars, after) => (c :: chars, after) := by
  unfold quotedDescriptionChar
  split_ifs with carriage line tab backslash quote control
  · subst carriage
    exact quotedChars_letter rfl rest
  · subst line
    exact quotedChars_letter rfl rest
  · subst tab
    exact quotedChars_letter rfl rest
  · subst backslash
    exact quotedChars_letter rfl rest
  · subst quote
    exact quotedChars_letter rfl rest
  · obtain ⟨four, valid⟩ := fourDigits_escapeDigits control
    exact quotedChars_fourDigits four valid rest
  · exact quotedChars_plain quote backslash (by simp [isLineEnd, line, carriage]) rest

theorem quotedChars_description (text rest : List Char) :
    quotedChars (text.flatMap quotedDescriptionChar ++ '"' :: rest) = some (text, rest) := by
  induction text with
  | nil => rfl
  | cons c text ih =>
    rw [List.flatMap_cons, List.append_assoc, quotedChars_quotedDescriptionChar, ih]
    rfl

theorem readQuoted_quotedDescription (s : String) (rest : List Char) :
    readQuoted (quotedDescription s ++ rest) = some (s, rest) := by
  have whole : quotedDescription s ++ rest =
      '"' :: (s.toList.flatMap quotedDescriptionChar ++ '"' :: rest) := by
    simp [quotedDescription]
  rw [whole, readQuoted, quotedChars_description]
  simp

theorem toNat_of_charOfPoint (valid : charOfPoint? point = some char) : char.toNat = point := by
  rw [charOfPoint?, Option.ite_none_right_eq_some] at valid
  obtain ⟨valid, same⟩ := valid
  cases same
  calc (Char.ofNat point).toNat
    _ = (Char.ofNatAux point valid).toNat := congrArg Char.toNat (dif_pos valid)
    _ = point := rfl

theorem escaped_of_letterEscape (known : letterEscape? c = some char) :
    Constant.escaped? c = some char.toNat := by
  unfold letterEscape? at known
  split at known
  all_goals
    cases known
  all_goals rfl

theorem readPoints_of_quotedChars {chars : List Char} (read : quotedChars text = some (chars, rest)) :
    readPoints text = some (chars.map Char.toNat, rest) := by
  fun_induction quotedChars text generalizing chars with
  | case1 => cases read
  | case2 rest =>
    cases read
    rfl
  | case3 a b c d text ih =>
    simp only [Option.bind_eq_bind, Option.bind_eq_some_iff, Prod.exists] at read
    obtain ⟨point, hex, char, valid, chars, after, later, made⟩ := read
    cases made
    rw [readPoints, hex, ih later, List.map_cons, toNat_of_charOfPoint valid]
    rfl
  | case4 c text more ih =>
    simp only [Option.bind_eq_bind, Option.bind_eq_some_iff, Prod.exists] at read
    obtain ⟨char, known, chars, after, later, made⟩ := read
    cases made
    rw [Literal.readPoints_letter (escaped_of_letterEscape known), ih later]
    rfl
  | case5 c text => cases read
  | case6 c text quoteless unit letter within ih =>
    obtain ⟨⟨chars, after⟩, later, made⟩ := Option.map_eq_some_iff.1 read
    cases made
    rw [readPoints.eq_5 _ _ quoteless unit letter, if_neg within, ih later]
    rfl

theorem readToken_of_readQuoted {s : String} (read : readQuoted text = some (s, rest))
    (single : ¬ tripleQuotes <+: text) : Constant.readToken text = some (.string s, rest) := by
  cases text with
  | nil => cases read
  | cons c text =>
    by_cases quote : c = '"'
    · subst quote
      obtain ⟨⟨chars, after⟩, inner, made⟩ := Option.map_eq_some_iff.1 read
      cases made
      have pair : ∀ later, text = '"' :: '"' :: later → False := by
        rintro later rfl
        exact single ⟨later, rfl⟩
      rw [Constant.readToken.eq_8 _ pair, Constant.readString, readPoints_of_quotedChars inner]
      simp [Literal.joinSurrogates_toNat]
    · simp [readQuoted, quote] at read

end

theorem quotedDescriptionChar_cons (c : Char) :
    ∃ d text, quotedDescriptionChar c = d :: text ∧ d ≠ '"' := by
  unfold quotedDescriptionChar
  split_ifs with carriage line tab backslash quote control
  · exact ⟨_, _, rfl, by decide⟩
  · exact ⟨_, _, rfl, by decide⟩
  · exact ⟨_, _, rfl, by decide⟩
  · exact ⟨_, _, rfl, by decide⟩
  · exact ⟨_, _, rfl, by decide⟩
  · exact ⟨_, _, rfl, by decide⟩
  · exact ⟨_, _, rfl, quote⟩

theorem not_triple_quotedDescription {s : String} {rest : List Char}
    (apart : s = "" → rest.head? ≠ some '"') : ¬ tripleQuotes <+: quotedDescription s ++ rest := by
  rintro ⟨later, same⟩
  cases spelled : s.toList with
  | nil =>
    have empty : s = "" := String.toList_eq_nil_iff.1 spelled
    simp only [quotedDescription, spelled, tripleQuotes, List.flatMap_nil, List.cons_append,
      List.nil_append, List.cons.injEq, true_and] at same
    rw [← same] at apart
    exact apart empty rfl
  | cons c text =>
    obtain ⟨d, more, first, other⟩ := quotedDescriptionChar_cons c
    simp only [quotedDescription, spelled, tripleQuotes, List.flatMap_cons, first, List.cons_append,
      List.cons.injEq, true_and] at same
    exact other same.1.symm

/-- A description on one line is read back as its text, up to its own closing quote, whatever follows it;
so different texts have different descriptions. As a token of schema text it is that string too, except
that three quotes open a block where an empty description stands before a quote. -/
theorem quotedDescription_reads_back (s : String) (rest : List Char) :
    readQuoted (quotedDescription s ++ rest) = some (s, rest) ∧
      (∀ t, quotedDescription s = quotedDescription t → s = t) ∧
      ((s = "" → rest.head? ≠ some '"') →
        Constant.readToken (quotedDescription s ++ rest) = some (.string s, rest)) := by
  have read := readQuoted_quotedDescription s rest
  refine ⟨read, ?_, ?_⟩
  · intro t same
    rw [same, readQuoted_quotedDescription] at read
    cases read
    rfl
  · intro apart
    exact readToken_of_readQuoted read (not_triple_quotedDescription apart)

/-! ### In a block -/

section

variable {c d : Char} {line text rest indent : List Char}

theorem escapeTripleQuotes_quote (other : d ≠ '"')
    (same : escapeTripleQuotes line ++ d :: rest = '"' :: text) :
    ∃ later, line = '"' :: later ∧ text = escapeTripleQuotes later ++ d :: rest := by
  fun_cases escapeTripleQuotes line with
  | case1 later =>
    rw [escapeTripleQuotes] at same
    cases same
  | case2 c later single =>
    rw [escapeTripleQuotes.eq_2 _ _ single] at same
    cases same
    exact ⟨later, rfl, rfl⟩
  | case3 =>
    cases same
    exact absurd rfl other

theorem not_triple_escapeTripleQuotes (other : d ≠ '"') (line rest : List Char) :
    ¬ tripleQuotes <+: escapeTripleQuotes line ++ d :: rest := by
  rintro ⟨after, same⟩
  obtain ⟨second, rfl, same₁⟩ := escapeTripleQuotes_quote other same.symm
  obtain ⟨third, rfl, same₂⟩ := escapeTripleQuotes_quote other same₁.symm
  obtain ⟨last, rfl, -⟩ := escapeTripleQuotes_quote other same₂.symm
  rw [escapeTripleQuotes] at same
  cases same

theorem escapeTripleQuotes_eq_nil : escapeTripleQuotes line = [] ↔ line = [] := by
  fun_cases escapeTripleQuotes line <;> simp

theorem spanBlock_plain (opens : ¬ tripleQuotes <+: c :: text)
    (escapes : ¬ '\\' :: tripleQuotes <+: c :: text) :
    spanBlock (c :: text) = (spanBlock text).map fun (body, after) => (c :: body, after) := by
  apply Constant.spanBlock.eq_4
  · rintro later rfl rfl
    exact opens ⟨later, rfl⟩
  · rintro later rfl rfl
    exact escapes ⟨later, rfl⟩

/-- In a block the written text is read as the shown one, whatever follows it. -/
def ShownAs (written shown : List Char) : Prop :=
  ∀ rest, spanBlock (written ++ rest) = (spanBlock rest).map fun (body, after) => (shown ++ body, after)

theorem shownAs_nil : ShownAs [] [] := by
  intro rest
  simp

theorem ShownAs.append {written shown later laterShown : List Char} (first : ShownAs written shown)
    (second : ShownAs later laterShown) : ShownAs (written ++ later) (shown ++ laterShown) := by
  intro rest
  rw [List.append_assoc, first, second, Option.map_map]
  simp [Function.comp_def]

theorem shownAs_flatMap {α : Type} {write shows : α → List Char} {items : List α}
    (each : ∀ item ∈ items, ShownAs (write item) (shows item)) :
    ShownAs (items.flatMap write) (items.flatMap shows) := by
  induction items with
  | nil => exact shownAs_nil
  | cons item items ih =>
    obtain ⟨here, later⟩ := List.forall_mem_cons.1 each
    exact here.append (ih later)

theorem shownAs_plain (plain : ∀ c ∈ text, c ≠ '"' ∧ c ≠ '\\') : ShownAs text text := by
  intro rest
  induction text with
  | nil => simp
  | cons c text ih =>
    obtain ⟨⟨quoteless, straight⟩, later⟩ := List.forall_mem_cons.1 plain
    rw [List.cons_append, spanBlock_plain, ih later, Option.map_map]
    · rfl
    · exact fun opens => quoteless (List.cons_prefix_cons.1 opens).1.symm
    · exact fun escapes => straight (List.cons_prefix_cons.1 escapes).1.symm

theorem shownAs_escapeTripleQuotes (quoteless : d ≠ '"') (straight : d ≠ '\\') (line : List Char) :
    ShownAs (escapeTripleQuotes line ++ [d]) (line ++ [d]) := by
  have last : ShownAs [d] [d] := shownAs_plain (List.forall_mem_singleton.2 ⟨quoteless, straight⟩)
  intro rest
  rw [List.append_assoc, List.singleton_append]
  fun_induction escapeTripleQuotes line with
  | case1 line ih =>
    simp only [List.cons_append, spanBlock, ih, Option.map_map]
    rfl
  | case2 c line single ih =>
    -- The character behind the line matters: a quote there could complete three in a row.
    have whole := not_triple_escapeTripleQuotes quoteless (c :: line) rest
    have later := not_triple_escapeTripleQuotes quoteless line rest
    rw [escapeTripleQuotes.eq_2 _ _ single, List.cons_append] at whole
    rw [List.cons_append, spanBlock_plain whole, ih, Option.map_map]
    · rfl
    · exact fun escapes => later (List.cons_prefix_cons.1 escapes).2
  | case3 => exact last rest

def shownLine (indent line : List Char) : List Char :=
  match Text.dropFinalBlanks line with
  | [] => ['\n']
  | kept => indent ++ kept ++ ['\n']

theorem shownAs_descriptionLine (plain : ∀ c ∈ indent, c ≠ '"' ∧ c ≠ '\\') (line : List Char) :
    ShownAs (descriptionLine indent line) (shownLine indent line) := by
  have feed : '\n' ≠ '"' ∧ '\n' ≠ '\\' := by decide
  unfold descriptionLine shownLine
  split
  · next empty =>
    rw [escapeTripleQuotes_eq_nil.1 empty]
    exact shownAs_plain (List.forall_mem_singleton.2 feed)
  · next written present =>
    split
    · next empty =>
      rw [empty] at present
      exact absurd rfl present
    · next kept _ =>
      rw [List.append_assoc, List.append_assoc]
      exact (shownAs_plain plain).append (shownAs_escapeTripleQuotes feed.1 feed.2 _)

theorem getLast_descriptionLine (indent line : List Char) :
    (descriptionLine indent line).getLast? = some '\n' := by
  unfold descriptionLine
  split
  · rfl
  · exact List.getLast?_concat

def blockContents (indent : List Char) (text : String) : List Char :=
  '\n' :: (Text.lines text.toList).flatMap (shownLine indent) ++ indent

end

/-- A block description ends where it is meant to. From its opening quotes on, the first three quotes in a
row that no backslash stands before are those on its last line, and up to there the reader finds the lines
of the text. -/
theorem blockDescription_ends {indent : List Char} (plain : ∀ c ∈ indent, c ≠ '"' ∧ c ≠ '\\')
    (text : String) : ∃ lines : List Char, (∀ c ∈ lines.getLast?, c = '\n') ∧
      blockDescription indent text = indent ++ (tripleQuotes ++
        ('\n' :: lines ++ (indent ++ (tripleQuotes ++ ['\n'])))) ∧
      ∀ rest, spanBlock ('\n' :: lines ++ (indent ++ (tripleQuotes ++ '\n' :: rest))) =
        some (blockContents indent text, '\n' :: rest) := by
  refine ⟨(Text.lines text.toList).flatMap (descriptionLine indent), ?_, ?_, ?_⟩
  · intro c last
    rw [List.getLast?_flatMap] at last
    obtain ⟨line, -, ends⟩ := List.exists_of_findSome?_eq_some last
    rw [getLast_descriptionLine] at ends
    exact (Option.some.inj ends).symm
  · simp [blockDescription]
  · intro rest
    have feed : ShownAs ['\n'] ['\n'] :=
      shownAs_plain (List.forall_mem_singleton.2 (by decide))
    have each : ∀ line ∈ Text.lines text.toList,
        ShownAs (descriptionLine indent line) (shownLine indent line) :=
      fun line _ => shownAs_descriptionLine plain line
    have whole := (feed.append (shownAs_flatMap each)).append (shownAs_plain plain)
    have close : spanBlock (tripleQuotes ++ '\n' :: rest) = some ([], '\n' :: rest) := rfl
    have read := whole (tripleQuotes ++ '\n' :: rest)
    rw [close] at read
    simpa [blockContents] using read

def fenced : String := "A \"\"\"\"row\"\"\"\"\" of quotes\n\\\"\"\" \n\"\""

theorem blockDescription_ends_fenced : (∀ c ∈ indentation, c ≠ '"' ∧ c ≠ '\\') ∧
    ∃ lines : List Char, (∀ c ∈ lines.getLast?, c = '\n') ∧
      blockDescription indentation fenced = indentation ++ (tripleQuotes ++
        ('\n' :: lines ++ (indentation ++ (tripleQuotes ++ ['\n'])))) ∧
      ∀ rest, spanBlock ('\n' :: lines ++ (indentation ++ (tripleQuotes ++ '\n' :: rest))) =
        some ("\n    A \"\"\"\"row\"\"\"\"\" of quotes\n    \\\"\"\"\n    \"\"\n    ".toList,
          '\n' :: rest) := by
  have plain : ∀ c ∈ indentation, c ≠ '"' ∧ c ≠ '\\' := by simp [indentation]
  have contents : blockContents indentation fenced =
      "\n    A \"\"\"\"row\"\"\"\"\" of quotes\n    \\\"\"\"\n    \"\"\n    ".toList := by
    decide +kernel
  rw [← contents]
  exact ⟨plain, blockDescription_ends plain fenced⟩

end SchemaDiscovery
