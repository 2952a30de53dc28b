import SchemaDiscovery.Proofs.Definition.Escape
import SchemaDiscovery.Proofs.Definition.Numeral
/-!
Printed literals and the constants that are read from them. Main statement: a literal is read back as the
constant of its own structure exactly if its names are legal and no control character in its strings is
lost to an escape.
-/

namespace SchemaDiscovery

namespace Literal

@[elab_as_elim]
theorem parts_induction {motive : Literal → Prop} (null : motive .null)
    (number : ∀ n, motive (.number n)) (bool : ∀ b, motive (.bool b)) (string : ∀ s, motive (.string s))
    (enum : ∀ name, motive (.enum name))
    (list : ∀ items, (∀ item ∈ items, motive item) → motive (.list items))
    (object : ∀ members, (∀ member ∈ members, motive member.2) → motive (.object members)) :
    ∀ literal, motive literal :=
  @Literal.rec motive (fun items => ∀ item ∈ items, motive item)
    (fun members => ∀ member ∈ members, motive member.2) (fun member => motive member.2)
    null number bool string enum list object nofun
    (fun _ _ first rest => List.forall_mem_cons.2 ⟨first, rest⟩) nofun
    (fun _ _ first rest => List.forall_mem_cons.2 ⟨first, rest⟩) (fun _ _ value => value)

mutual

/-- The constant of the same structure, where each character of a string is put through a map. -/
def constant (spell : Char → Char) : Literal → Constant
  | .null => .null
  | .number (.int n) => .int n
  | .number (.float x) => .float x.render.toList
  | .bool b => .bool b
  | .string s => .string (String.ofList (s.toList.map spell))
  | .enum name => .enum name
  | .list items => .list (constantItems spell items)
  | .object members => .object (constantMembers spell members)

def constantItems (spell : Char → Char) : List Literal → List Constant
  | [] => []
  | item :: items => item.constant spell :: constantItems spell items

def constantMembers (spell : Char → Char) : List (String × Literal) → List (String × Constant)
  | [] => []
  | (key, value) :: members => (key, value.constant spell) :: constantMembers spell members

end

theorem constantItems_eq_map (spell : Char → Char) (items : List Literal) :
    constantItems spell items = items.map (·.constant spell) := by
  induction items with
  | nil => rfl
  | cons item items ih => rw [constantItems, ih, List.map_cons]

theorem constantMembers_eq_map (spell : Char → Char) (members : List (String × Literal)) :
    constantMembers spell members = members.map fun member => (member.1, member.2.constant spell) := by
  induction members with
  | nil => rfl
  | cons member members ih => rw [constantMembers, ih, List.map_cons]

theorem renderItems_eq_map (items : List Literal) : renderItems items = items.map render := by
  induction items with
  | nil => rfl
  | cons item items ih => rw [renderItems, ih, List.map_cons]

theorem renderMembers_eq_map (members : List (String × Literal)) : renderMembers members =
    members.map fun member => member.1.toList ++ ':' :: ' ' :: member.2.render := by
  induction members with
  | nil => rfl
  | cons member members ih => rw [renderMembers, ih, List.map_cons]

mutual

def strings : Literal → List String
  | .string s => [s]
  | .list items => stringsOfItems items
  | .object members => stringsOfMembers members
  | _ => []

def stringsOfItems : List Literal → List String
  | [] => []
  | item :: items => item.strings ++ stringsOfItems items

def stringsOfMembers : List (String × Literal) → List String
  | [] => []
  | (_, value) :: members => value.strings ++ stringsOfMembers members

end

theorem stringsOfItems_eq_flatMap (items : List Literal) :
    stringsOfItems items = items.flatMap strings := by
  induction items with
  | nil => rfl
  | cons item items ih => rw [stringsOfItems, ih, List.flatMap_cons]

theorem stringsOfMembers_eq_flatMap (members : List (String × Literal)) :
    stringsOfMembers members = members.flatMap (·.2.strings) := by
  induction members with
  | nil => rfl
  | cons member members ih => rw [stringsOfMembers, ih, List.flatMap_cons]

def IsPlain (literal : Literal) : Prop := ∀ s ∈ literal.strings, ∀ c ∈ s.toList, Survives c

instance (literal : Literal) : Decidable literal.IsPlain :=
  decidable_of_iff ((literal.strings.all fun s => s.toList.all fun c => decide (Survives c)) = true)
    (by simp only [List.all_eq_true, decide_eq_true_eq, IsPlain])

theorem constant_echo_iff {literal : Literal} :
    literal.constant echo = literal.constant id ↔ literal.IsPlain := by
  induction literal using parts_induction with
  | number n => cases n <;> exact iff_of_true rfl nofun
  | string s =>
    simp only [constant, Constant.string.injEq, String.ofList_inj, List.map_inj_left, id_eq,
      echo_eq_self_iff, IsPlain, strings, List.forall_mem_singleton]
  | list items same =>
    simp only [constant, Constant.list.injEq, constantItems_eq_map, List.map_inj_left, IsPlain,
      strings, stringsOfItems_eq_flatMap, List.forall_mem_flatMap]
    exact forall_congr' fun item => imp_congr_right (same item)
  | object members same =>
    simp only [constant, Constant.object.injEq, constantMembers_eq_map, List.map_inj_left,
      Prod.mk.injEq, true_and, IsPlain, strings, stringsOfMembers_eq_flatMap,
      List.forall_mem_flatMap]
    exact forall_congr' fun member => imp_congr_right (same member)
  | _ => exact iff_of_true rfl nofun

theorem isLegal_constant {literal : Literal} {spell : Char → Char} (other : Char → Char)
    (legal : (literal.constant spell).IsLegal) : (literal.constant other).IsLegal := by
  induction literal using parts_induction with
  | null => exact .null
  | number n => cases n <;> exact legal
  | bool b => exact .bool b
  | string s => exact .string _
  | enum name => exact legal
  | list items ih =>
    rw [constant, constantItems_eq_map] at legal ⊢
    cases legal with
    | list each =>
      refine .list fun item member => ?_
      obtain ⟨part, listed, rfl⟩ := List.mem_map.1 member
      exact ih part listed (each _ (List.mem_map_of_mem listed))
  | object members ih =>
    rw [constant, constantMembers_eq_map] at legal ⊢
    cases legal with
    | object keys each =>
      rw [List.forall_mem_map] at keys each
      refine .object ?_ ?_
      · rw [List.forall_mem_map]
        exact keys
      · rw [List.forall_mem_map]
        exact fun member listed => ih member listed (each member listed)

end Literal

namespace Constant

variable {progress after : Progress} {stack : List Frame} {text rest : List Char} {c : Char}
  {result : Option Progress}

/-- Reading the text from there on comes out so, whatever limit fits the text. -/
def Reads (progress : Progress) (text : List Char) (result : Option Progress) : Prop :=
  ∀ limit, text.length ≤ limit → readOn limit progress text = result

theorem reads_nil : Reads progress [] (some progress) := by
  intro limit _
  cases limit <;> rfl

theorem reads_ignored (ignored : isIgnored c = true) (later : Reads progress text result) :
    Reads progress (c :: text) result := by
  intro limit enough
  cases limit with
  | zero => cases enough
  | succ limit =>
    rw [readOn, if_pos ignored]
    exact later limit (Nat.le_of_succ_le_succ enough)

theorem reads_token {token : Token} (read : readToken (c :: text) = some (token, rest))
    (shorter : rest.length ≤ text.length) (kept : isIgnored c = false ∧ c ≠ '#')
    (stepped : progress.step token = some after) (later : Reads after rest result) :
    Reads progress (c :: text) result := by
  intro limit enough
  cases limit with
  | zero => cases enough
  | succ limit =>
    rw [readOn, kept.1, if_neg Bool.false_ne_true, if_neg kept.2, read]
    show (progress.step token).bind (readOn limit · rest) = result
    rw [stepped]
    exact later limit (Nat.le_trans shorter (Nat.le_of_succ_le_succ enough))

theorem reads_punctuation {token : Token} (read : ∀ rest, readToken (c :: rest) = some (token, rest))
    (kept : isIgnored c = false ∧ c ≠ '#') (stepped : progress.step token = some after)
    (later : Reads after rest result) : Reads progress (c :: rest) result :=
  reads_token (read rest) (Nat.le_refl _) kept stepped later

theorem kept_of_plain (plain : c ∉ separators) : isIgnored c = false ∧ c ≠ '#' := by
  simp only [separators, List.mem_cons, not_or] at plain
  simp [isIgnored, Json.isSpace, plain]

/-- The text ends a numeral or a name, and an empty string before it is no block string. -/
def Ends (text : List Char) : Prop :=
  ∀ c ∈ text.head?, isNameChar c = false ∧ c ≠ '.' ∧ c ≠ '"'

theorem ends_nil : Ends [] := nofun

theorem ends_cons (ends : isNameChar c = false ∧ c ≠ '.' ∧ c ≠ '"') : Ends (c :: text) := by
  intro d head
  cases head
  exact ends

theorem Ends.numeral (ends : Ends rest) : endsNumeral rest = true := by
  cases rest with
  | nil => rfl
  | cons c rest =>
    obtain ⟨nameless, pointless, -⟩ := ends c rfl
    simp [endsNumeral, nameless, pointless]

theorem reads_numeral (numeral : Numeral) (ends : Ends rest)
    (stepped : progress.step numeral.token = some after) (later : Reads after rest result) :
    Reads progress (numeral.text ++ rest) result := by
  have read := numeral.readToken ends.numeral
  obtain ⟨c, text, same, plain, -⟩ := numeral.text_cons
  rw [same, List.cons_append] at read ⊢
  exact reads_token read (by simp) (kept_of_plain plain) stepped later

theorem readToken_name {name : String} (legal : isLegalName name = true)
    (ends : ∀ c ∈ rest.head?, isNameChar c = false) : ∃ c text, name.toList = c :: text ∧
      isNameStart c = true ∧ c ∉ separators ∧ readToken (c :: (text ++ rest)) = some (.name name, rest) := by
  cases spelled : name.toList with
  | nil =>
    rw [isLegalName, spelled] at legal
    cases legal
  | cons c text =>
    rw [isLegalName, spelled, isLegalNameText, Bool.and_eq_true, List.all_eq_true] at legal
    obtain ⟨taken, dropped⟩ := span_append legal.2 ends
    have plain : c ∉ separators := by
      intro member
      have other : (separators.all fun d => !isNameStart d) = true := by decide
      have here := List.all_eq_true.1 other c member
      rw [legal.1] at here
      cases here
    refine ⟨c, text, rfl, legal.1, plain, ?_⟩
    rw [readToken_plain plain, if_pos legal.1, readName, taken, dropped, ← spelled,
      String.ofList_toList]

theorem reads_name {name : String} (legal : isLegalName name = true) (ends : Ends rest)
    (stepped : progress.step (.name name) = some after) (later : Reads after rest result) :
    Reads progress (name.toList ++ rest) result := by
  obtain ⟨c, text, same, -, plain, read⟩ := readToken_name legal fun d head => (ends d head).1
  rw [same, List.cons_append]
  exact reads_token read (by simp) (kept_of_plain plain) stepped later

theorem reads_string (s : String) (ends : Ends rest)
    (stepped : progress.step (.string (String.ofList (s.toList.map Literal.echo))) = some after)
    (later : Reads after rest result) : Reads progress (Literal.renderString s ++ rest) result := by
  have read := Literal.readToken_renderString s fun head => (ends _ head).2.2 rfl
  have whole : Literal.renderString s ++ rest =
      '"' :: (s.toList.flatMap Literal.escapedChar ++ '"' :: rest) := by
    simp [Literal.renderString]
  rw [whole] at read ⊢
  refine reads_token read ?_ (by decide) stepped later
  simp only [List.length_append, List.length_cons]
  omega

/-! ### Values -/

def Token.value? : Token → Option Constant
  | .name called => some (ofName called)
  | .int n => some (.int n)
  | .float numeral => some (.float numeral)
  | .string s => some (.string s)
  | _ => none

theorem step_value {token : Token} {constant : Constant} (stands : token.value? = some constant)
    (delivered : deliver constant stack = some after) :
    (Progress.within stack).step token = some after := by
  cases token <;> cases stands
  all_goals
    rcases stack with _ | ⟨_ | _ | _ | _, stack⟩
    · exact delivered
    · exact delivered
    · cases delivered
    · cases delivered
    · exact delivered

theorem step_beginList : (Progress.within stack).step .beginList =
    some (.within (.list [] :: stack)) := by
  rcases stack with _ | ⟨_ | _ | _ | _, stack⟩ <;> rfl

theorem step_beginObject : (Progress.within stack).step .beginObject =
    some (.within (.object [] :: stack)) := by
  rcases stack with _ | ⟨_ | _ | _ | _, stack⟩ <;> rfl

theorem reads_commaSeparated {α β : Type} (write : α → List Char) (state : β → Progress)
    (add : β → α → β) {items : List α}
    (each : ∀ item ∈ items, ∀ held rest, Ends rest → Reads (state (add held item)) rest result →
      Reads (state held) (write item ++ rest) result) (ends : Ends rest) (held : β)
    (later : Reads (state (items.foldl add held)) rest result) :
    Reads (state held) (Literal.commaSeparated (items.map write) ++ rest) result := by
  induction items generalizing held with
  | nil => exact later
  | cons item items ih =>
    obtain ⟨here, others⟩ := List.forall_mem_cons.1 each
    cases items with
    | nil =>
      have single : Literal.commaSeparated ([item].map write) = write item := by
        simp [Literal.commaSeparated, List.intercalate]
      rw [single]
      exact here held rest ends later
    | cons next items =>
      have split : Literal.commaSeparated ((item :: next :: items).map write) ++ rest =
          write item ++ (',' :: ' ' ::
            (Literal.commaSeparated ((next :: items).map write) ++ rest)) := by
        simp [Literal.commaSeparated, List.intercalate_cons_cons]
      rw [split]
      refine here held _ (ends_cons (by decide)) (reads_ignored rfl (reads_ignored rfl ?_))
      exact ih others _ later

/-- A printed literal is read and handed on as the constant that its escapes spell. -/
def Handed (literal : Literal) : Prop :=
  (literal.constant Literal.echo).IsLegal → ∀ (stack : List Frame) (after : Progress)
    (rest : List Char) (result : Option Progress), Ends rest →
      deliver (literal.constant Literal.echo) stack = some after → Reads after rest result →
        Reads (.within stack) (literal.render ++ rest) result

theorem handed_number (n : Json.Number) : Handed (.number n) := by
  intro legal stack after rest result ends delivered later
  cases n with
  | int n =>
    obtain ⟨numeral, text, token⟩ := exists_numeral_int n
    show Reads _ ((toString n).toList ++ rest) result
    rw [← text]
    refine reads_numeral numeral ends (step_value ?_ delivered) later
    rw [token]
    rfl
  | float x =>
    obtain ⟨numeral, text, token⟩ := exists_numeral_float x
    show Reads _ (x.render.toList ++ rest) result
    rw [← text]
    refine reads_numeral numeral ends (step_value ?_ delivered) later
    rw [token]
    rfl

theorem handed_list {items : List Literal} (each : ∀ item ∈ items, Handed item) :
    Handed (.list items) := by
  intro legal stack after rest result ends delivered later
  rw [Literal.constant, Literal.constantItems_eq_map] at legal delivered
  cases legal with
  | list legal =>
    have whole : (Literal.list items).render ++ rest =
        '[' :: (Literal.commaSeparated (items.map Literal.render) ++ ']' :: rest) := by
      simp [Literal.render, Literal.renderItems_eq_map]
    have held : items.foldl (fun held item => item.constant Literal.echo :: held) [] =
        (items.map (·.constant Literal.echo)).reverse := by
      simp
    rw [whole]
    refine reads_punctuation (fun _ => rfl) (by decide) step_beginList ?_
    refine reads_commaSeparated Literal.render (fun held => .within (.list held :: stack))
      (fun held item => item.constant Literal.echo :: held) ?_ (ends_cons (by decide)) [] ?_
    · intro item member held rest ends later
      refine each item member (legal _ (List.mem_map_of_mem member)) _ _ _ _ ends ?_ later
      rfl
    · rw [held]
      refine reads_punctuation (fun _ => rfl) (by decide) ?_ later
      show deliver (.list _) stack = some after
      rw [List.reverse_reverse]
      exact delivered

theorem handed_object {members : List (String × Literal)} (each : ∀ member ∈ members, Handed member.2) :
    Handed (.object members) := by
  intro legal stack after rest result ends delivered later
  rw [Literal.constant, Literal.constantMembers_eq_map] at legal delivered
  cases legal with
  | object keys legal =>
    have whole : (Literal.object members).render ++ rest =
        '\x7b' :: (Literal.commaSeparated (members.map fun member =>
          member.1.toList ++ ':' :: ' ' :: member.2.render) ++ '\x7d' :: rest) := by
      simp [Literal.render, Literal.renderMembers_eq_map]
    -- The open object holds its members in reverse.
    have held : members.foldl (fun held member =>
        (member.1, member.2.constant Literal.echo) :: held) [] =
        (members.map fun member => (member.1, member.2.constant Literal.echo)).reverse := by
      simp
    rw [whole]
    refine reads_punctuation (fun _ => rfl) (by decide) step_beginObject ?_
    refine reads_commaSeparated _ (fun held => .within (.object held :: stack))
      (fun held member => (member.1, member.2.constant Literal.echo) :: held) ?_
      (ends_cons (by decide)) [] ?_
    · intro member listed held rest ends later
      have present := List.mem_map_of_mem (f := fun member : String × Literal =>
        (member.1, member.2.constant Literal.echo)) listed
      rw [List.append_assoc]
      refine reads_name (keys _ present) (ends_cons (by decide)) rfl ?_
      refine reads_punctuation (fun _ => rfl) (by decide) rfl (reads_ignored rfl ?_)
      refine each member listed (legal _ present) _ _ _ _ ends ?_ later
      rfl
    · rw [held]
      refine reads_punctuation (fun _ => rfl) (by decide) ?_ later
      show deliver (.object _) stack = some after
      rw [List.reverse_reverse]
      exact delivered

theorem handed (literal : Literal) : Handed literal := by
  induction literal using Literal.parts_induction with
  | null =>
    intro legal stack after rest result ends delivered later
    have named : isLegalName "null" = true := by decide
    exact reads_name named ends (step_value rfl delivered) later
  | number n => exact handed_number n
  | bool b =>
    intro legal stack after rest result ends delivered later
    have named : isLegalName "true" = true ∧ isLegalName "false" = true := by decide
    cases b with
    | false => exact reads_name named.2 ends (step_value rfl delivered) later
    | true => exact reads_name named.1 ends (step_value rfl delivered) later
  | string s =>
    intro legal stack after rest result ends delivered later
    exact reads_string s ends (step_value rfl delivered) later
  | enum name =>
    intro legal stack after rest result ends delivered later
    cases legal with
    | enum named free =>
      exact reads_name named ends (step_value (congrArg some (ofName_of_free free)) delivered) later
  | list items each => exact handed_list each
  | object members each => exact handed_object each

theorem read_render {literal : Literal} (legal : (literal.constant Literal.echo).IsLegal) :
    read? literal.render = some (literal.constant Literal.echo) := by
  have reads := handed literal legal [] _ [] _ ends_nil rfl reads_nil
  rw [List.append_nil] at reads
  rw [read?, reads _ (Nat.le_refl _)]
  rfl

theorem read_render_iff {literal : Literal} : read? literal.render = some (literal.constant id) ↔
    (literal.constant id).IsLegal ∧ literal.IsPlain := by
  constructor
  · intro same
    have legal := isLegal_of_read same
    rw [read_render (Literal.isLegal_constant Literal.echo legal), Option.some_inj] at same
    exact ⟨legal, Literal.constant_echo_iff.1 same⟩
  · rintro ⟨legal, plain⟩
    rw [read_render (Literal.isLegal_constant Literal.echo legal), Literal.constant_echo_iff.2 plain]

end Constant

end SchemaDiscovery
