import SchemaDiscovery.Proofs.Json.Numeral
import SchemaDiscovery.Text.Blank
/-!
How JSON text spells a value. Main statement: a text that is read as null, a truth value or a number is,
blanks apart, the one token of that value, and a text that is read as a string, an array or an object begins
with a quote or a bracket.
-/

namespace SchemaDiscovery

namespace Text

variable {lead body trail rest : List Char} {c : Char}

theorem dropBlanks_append (before : ∀ c ∈ lead, isBlank c = true)
    (first : ∀ c ∈ body.head?, isBlank c = false) : dropBlanks (lead ++ body) = body :=
  (span_append before first).2

/-- There is no blank at the ends of the text, and something between them. -/
structure IsTrimmed (body : List Char) : Prop where
  filled : body ≠ []
  first : ∀ c ∈ body.head?, isBlank c = false
  last : ∀ c ∈ body.getLast?, isBlank c = false

theorem isTrimmed_of_ends {d : Char} (head : body.head? = some c)
    (tail : body.getLast? = some d) (first : isBlank c = false) (last : isBlank d = false) :
    IsTrimmed body where
  filled := by
    rintro rfl
    cases head
  first := by
    intro e same
    cases head.symm.trans same
    exact first
  last := by
    intro e same
    cases tail.symm.trans same
    exact last

theorem trim_append (before : ∀ c ∈ lead, isBlank c = true) (after : ∀ c ∈ trail, isBlank c = true)
    (trimmed : IsTrimmed body) : trim (lead ++ (body ++ trail)) = body := by
  have begins : ∀ c ∈ (body ++ trail).head?, isBlank c = false := by
    rw [List.head?_append_of_ne_nil _ trimmed.filled]
    exact trimmed.first
  have ends : ∀ c ∈ body.reverse.head?, isBlank c = false := by
    rw [List.head?_reverse]
    exact trimmed.last
  have after' : ∀ c ∈ trail.reverse, isBlank c = true := by
    intro c member
    exact after c (List.mem_reverse.1 member)
  rw [trim, dropBlanks_append before begins, dropFinalBlanks, List.reverse_append,
    dropBlanks_append after' ends, List.reverse_reverse]

theorem exists_trim_cons (before : ∀ c ∈ lead, isBlank c = true) (first : isBlank c = false)
    (rest : List Char) : ∃ kept, trim (lead ++ c :: rest) = c :: kept := by
  have begins : ∀ d ∈ (c :: rest).head?, isBlank d = false := by
    intro d head
    cases head
    exact first
  rw [trim, dropBlanks_append before begins, dropFinalBlanks, List.reverse_cons, dropBlanks,
    List.dropWhile_append, List.dropWhile_cons_of_neg (by simp [first])]
  split
  · exact ⟨[], rfl⟩
  · exact ⟨_, List.reverse_append⟩

theorem isBlank_of_isDigit (digit : c.isDigit = true) : isBlank c = false := by
  have range : 48 ≤ c.toNat ∧ c.toNat ≤ 57 := Char.isDigit_iff_toNat.1 digit
  have each : ∀ n < 58, 48 ≤ n → isBlank (Char.ofNat n) = false := by decide
  have here := each c.toNat (by omega) range.1
  rwa [Char.ofNat_toNat] at here

theorem isBlank_of_isSpace (space : Json.isSpace c = true) : isBlank c = true := by
  simp only [Json.isSpace, Bool.or_eq_true, beq_iff_eq] at space
  rcases space with ((rfl | rfl) | rfl) | rfl <;> decide

end Text

namespace Json

def isMarked : Json → Bool
  | .string _ => true
  | .array _ => true
  | .object _ => true
  | _ => false

/-- The text spells the value, with no blanks around it. -/
inductive Spelled : List Char → Json → Prop
  | null : Spelled ['n', 'u', 'l', 'l'] .null
  | yes : Spelled ['t', 'r', 'u', 'e'] (.bool true)
  | no : Spelled ['f', 'a', 'l', 's', 'e'] (.bool false)
  | number {numeral : Numeral} {n : Number} (value : numeral.value = some n) :
    Spelled numeral.text (.number n)
  | marked {mark : Char} {tree : Json} (rest : List Char) (mem : mark ∈ ['[', '\x7b', '"'])
    (other : tree.isMarked = true) : Spelled (mark :: rest) tree

def Token.Takes (token : Token) (text rest : List Char) : Prop :=
  match token with
  | .beginArray => text = '[' :: rest
  | .beginObject => text = '\x7b' :: rest
  | .string _ => ∃ body, text = '"' :: body
  | .literal value => ∃ body, text = body ++ rest ∧
      (∀ tree, value = some tree → tree.isMarked = false ∧ Spelled body tree)
  | _ => True

theorem takes_of_readToken {text rest : List Char} {token : Token}
    (read : readToken text = some (token, rest)) : token.Takes text rest := by
  unfold readToken at read
  split at read
  case h_7 body =>
    obtain ⟨_, -, same⟩ := Option.map_eq_some_iff.1 read
    cases same
    exact ⟨body, rfl⟩
  case h_8 =>
    cases read
    refine ⟨['n', 'u', 'l', 'l'], rfl, fun tree same => ?_⟩
    cases same
    exact ⟨rfl, .null⟩
  case h_9 =>
    cases read
    refine ⟨['t', 'r', 'u', 'e'], rfl, fun tree same => ?_⟩
    cases same
    exact ⟨rfl, .yes⟩
  case h_10 =>
    cases read
    refine ⟨['f', 'a', 'l', 's', 'e'], rfl, fun tree same => ?_⟩
    cases same
    exact ⟨rfl, .no⟩
  case h_11 =>
    obtain ⟨⟨n, after⟩, number, same⟩ := Option.map_eq_some_iff.1 read
    cases same
    obtain ⟨numeral, whole, value⟩ := exists_numeral number
    refine ⟨numeral.text, whole, fun tree same => ?_⟩
    obtain ⟨n, rfl, rfl⟩ := Option.map_eq_some_iff.1 same
    exact ⟨rfl, .number value⟩
  all_goals
    cases read
    trivial

theorem Numeral.isTrimmed_text (numeral : Numeral) : Text.IsTrimmed numeral.text := by
  obtain ⟨c, rest, begins, first⟩ := numeral.exists_first
  obtain ⟨d, last, digit⟩ := numeral.exists_last
  have head : numeral.text.head? = some c := by
    rw [begins]
    rfl
  refine Text.isTrimmed_of_ends head last ?_ (Text.isBlank_of_isDigit digit)
  rcases first with rfl | digit
  · rfl
  · exact Text.isBlank_of_isDigit digit

theorem Spelled.isTrimmed {body : List Char} {tree : Json} (spelled : Spelled body tree)
    (plain : tree.isMarked = false) : Text.IsTrimmed body := by
  cases spelled with
  | null => exact Text.isTrimmed_of_ends rfl rfl rfl rfl
  | yes => exact Text.isTrimmed_of_ends rfl rfl rfl rfl
  | no => exact Text.isTrimmed_of_ends rfl rfl rfl rfl
  | @number numeral n value => exact numeral.isTrimmed_text
  | marked rest mark other =>
    rw [plain] at other
    cases other

theorem tokensWithin_cons {limit : Nat} {text : List Char} {token : Token} {tokens : List Token}
    (read : tokensWithin limit text = some (token :: tokens)) : ∃ lead here rest,
      text = lead ++ here ∧ (∀ c ∈ lead, Text.isBlank c = true) ∧
      readToken here = some (token, rest) ∧ tokensWithin (limit - 1) rest = some tokens := by
  cases limit with
  | zero => cases read
  | succ limit =>
    unfold tokensWithin at read
    split at read
    · cases read
    · next here after =>
      obtain ⟨⟨first, rest⟩, taken, read⟩ := Option.bind_eq_some_iff.1 read
      obtain ⟨others, later, same⟩ := Option.bind_eq_some_iff.1 read
      cases same
      refine ⟨text.takeWhile isSpace, text.dropWhile isSpace, rest,
        List.takeWhile_append_dropWhile.symm, fun c member => ?_, taken, later⟩
      exact Text.isBlank_of_isSpace (List.all_eq_true.1 List.all_takeWhile c member)

theorem isBlank_of_tokensWithin {limit : Nat} {text : List Char}
    (read : tokensWithin limit text = some []) (enough : text.length ≤ limit) :
    ∀ c ∈ text, Text.isBlank c = true := by
  cases limit with
  | zero =>
    rw [List.length_eq_zero_iff.1 (Nat.le_zero.1 enough)]
    exact nofun
  | succ limit =>
    unfold tokensWithin at read
    split at read
    · next none =>
      have whole : text.takeWhile isSpace ++ text.dropWhile isSpace = text :=
        List.takeWhile_append_dropWhile
      rw [none, List.append_nil] at whole
      rw [← whole]
      intro c member
      exact Text.isBlank_of_isSpace (List.all_eq_true.1 List.all_takeWhile c member)
    · obtain ⟨⟨first, rest⟩, taken, read⟩ := Option.bind_eq_some_iff.1 read
      obtain ⟨others, later, same⟩ := Option.bind_eq_some_iff.1 read
      cases same

/-- An array or object is still open, or what is complete is marked. -/
def Progress.Encloses : Progress → Prop
  | .within _ stack => stack ≠ []
  | .complete document => ∀ tree, document.json? = some tree → tree.isMarked = true

variable {document : Document} {stack : List Frame}

theorem encloses_deliver (marked : ∀ tree, document.json? = some tree → tree.isMarked = true) :
    (Progress.deliver document stack).Encloses := by
  cases stack with
  | nil => exact marked
  | cons frame stack => cases frame <;> exact List.cons_ne_nil _ _

theorem encloses_deliver_inside (inside : stack ≠ []) : (Progress.deliver document stack).Encloses := by
  cases stack with
  | nil => exact absurd rfl inside
  | cons frame stack => cases frame <;> exact List.cons_ne_nil _ _

theorem encloses_close (marked : ∀ tree, document.json? = some tree → tree.isMarked = true) :
    (close document stack).Encloses := by
  unfold close
  split
  · exact encloses_deliver marked
  · exact encloses_deliver nofun

theorem marked_array (items : List Document) :
    ∀ tree, (Document.array items).json? = some tree → tree.isMarked = true := by
  intro tree same
  obtain ⟨trees, -, rfl⟩ := Option.map_eq_some_iff.1 same
  rfl

theorem marked_closedObject (members : List (Option String × Document)) :
    ∀ tree, (closedObject members).json? = some tree → tree.isMarked = true := by
  intro tree same
  unfold closedObject at same
  split at same
  · obtain ⟨trees, -, rfl⟩ := Option.map_eq_some_iff.1 same
    rfl
  · cases same

theorem encloses_beginValue {token : Token} {after : Progress} (inside : stack ≠ [])
    (begun : beginValue stack token = some after) : after.Encloses := by
  cases token with
  | literal json =>
    cases begun
    exact encloses_deliver_inside inside
  | string s =>
    cases begun
    exact encloses_deliver_inside inside
  | beginArray =>
    cases begun
    exact List.cons_ne_nil _ _
  | beginObject =>
    cases begun
    exact List.cons_ne_nil _ _
  | _ => cases begun

theorem encloses_step {before after : Progress} {token : Token} (encloses : before.Encloses)
    (stepped : before.step token = some after) : after.Encloses := by
  unfold Progress.step at stepped
  split at stepped
  case h_1 => cases stepped
  case h_2 =>
    cases stepped
    exact encloses_close (marked_array [])
  case h_3 => exact encloses_beginValue encloses stepped
  case h_4 => exact encloses_beginValue encloses stepped
  case h_5 =>
    cases stepped
    exact encloses_close (marked_closedObject [])
  case h_8 =>
    cases stepped
    exact encloses
  case h_10 =>
    cases stepped
    exact encloses_close (marked_array _)
  case h_12 =>
    cases stepped
    exact encloses_close (marked_closedObject _)
  case h_13 => cases stepped
  all_goals
    cases stepped
    exact List.cons_ne_nil _ _

theorem encloses_foldlM {tokens : List Token} {before after : Progress} (encloses : before.Encloses)
    (run : tokens.foldlM Progress.step before = some after) : after.Encloses := by
  induction tokens generalizing before with
  | nil =>
    cases run
    exact encloses
  | cons token tokens ih =>
    rw [List.foldlM_cons] at run
    obtain ⟨between, first, rest⟩ := Option.bind_eq_some_iff.1 run
    exact ih (encloses_step encloses first) rest

theorem complete_of_foldlM {tokens : List Token} {after : Progress}
    (run : tokens.foldlM Progress.step (.complete document) = some after) :
    tokens = [] ∧ after = .complete document := by
  cases tokens with
  | nil =>
    cases run
    exact ⟨rfl, rfl⟩
  | cons token tokens =>
    rw [List.foldlM_cons] at run
    obtain ⟨between, first, -⟩ := Option.bind_eq_some_iff.1 run
    cases first

theorem spelled_of_read {text : String} {tree : Json} (read : read? text = some tree) :
    Spelled (Text.trim text.toList) tree := by
  obtain ⟨document, within, made⟩ := Option.bind_eq_some_iff.1 read
  obtain ⟨tokens, split, run⟩ := Option.bind_eq_some_iff.1 within
  obtain ⟨after, folded, complete⟩ := Option.bind_eq_some_iff.1 run
  cases after with
  | within expected stack => cases complete
  | complete document =>
    cases complete
    cases tokens with
    | nil => cases folded
    | cons token tokens =>
      obtain ⟨lead, here, rest, whole, before, taken, later⟩ := tokensWithin_cons split
      have takes := takes_of_readToken taken
      rw [List.foldlM_cons] at folded
      obtain ⟨between, first, remaining⟩ := Option.bind_eq_some_iff.1 folded
      rw [whole]
      -- What begins with a mark of its own is told by that mark, whatever the text holds further on.
      have opening {mark : Char} {body : List Char} (begins : here = mark :: body)
          (mem : mark ∈ ['[', '\x7b', '"']) (other : tree.isMarked = true) :
          Spelled (Text.trim (lead ++ here)) tree := by
        have visible : Text.isBlank mark = false := by
          have each : (['[', '\x7b', '"'].all fun mark => !Text.isBlank mark) = true := by decide
          simpa using List.all_eq_true.1 each mark mem
        obtain ⟨kept, same⟩ := Text.exists_trim_cons before visible body
        rw [begins, same]
        exact .marked kept mem other
      cases token with
      | beginArray =>
        cases first
        have inside : (Progress.within .firstItem [.array []]).Encloses := List.cons_ne_nil _ _
        exact opening takes (by decide) (encloses_foldlM inside remaining tree made)
      | beginObject =>
        cases first
        have inside : (Progress.within .firstKey [.object []]).Encloses := List.cons_ne_nil _ _
        exact opening takes (by decide) (encloses_foldlM inside remaining tree made)
      | string s =>
        cases first
        obtain ⟨body, begins⟩ := takes
        obtain ⟨-, same⟩ := complete_of_foldlM remaining
        cases same
        cases s with
        | none => cases made
        | some s =>
          cases made
          exact opening begins (by decide) rfl
      | literal value =>
        cases first
        obtain ⟨rfl, same⟩ := complete_of_foldlM remaining
        cases same
        obtain ⟨body, begins, spells⟩ := takes
        cases value with
        | none => cases made
        | some json =>
          cases made
          obtain ⟨plain, spelled⟩ := spells tree rfl
          have trimmed := spelled.isTrimmed plain
          have length : text.toList.length = lead.length + (body.length + rest.length) := by
            rw [whole, begins, List.length_append, List.length_append]
          have after : ∀ c ∈ rest, Text.isBlank c = true := by
            have positive := List.length_pos_iff.2 trimmed.filled
            exact isBlank_of_tokensWithin later (by omega)
          rw [begins, Text.trim_append before after trimmed]
          exact spelled
      | _ => cases first

end Json

end SchemaDiscovery
