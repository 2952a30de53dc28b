import SchemaDiscovery.Json.Reader
/-!
The range of the integers in a JSON tree. Main statement: a tree that is read from text holds integers
of 64 bits only.
-/

namespace SchemaDiscovery

open Decimal (Binary64 leastInt64 greatestNat64)

namespace Json

@[elab_as_elim]
theorem parts_induction {motive : Json → Prop} (null : motive .null) (bool : ∀ b, motive (.bool b))
    (number : ∀ n, motive (.number n)) (string : ∀ s, motive (.string s))
    (array : ∀ items, (∀ item ∈ items, motive item) → motive (.array items))
    (object : ∀ members, (∀ member ∈ members, motive member.2) → motive (.object members)) :
    ∀ json, motive json :=
  @Json.rec motive (fun items => ∀ item ∈ items, motive item)
    (fun members => ∀ member ∈ members, motive member.2) (fun member => motive member.2)
    null bool number string array object nofun
    (fun _ _ first rest => List.forall_mem_cons.2 ⟨first, rest⟩) nofun
    (fun _ _ first rest => List.forall_mem_cons.2 ⟨first, rest⟩) (fun _ _ value => value)

/-- Each integer in the tree has 64 bits, signed or unsigned. -/
inductive Sized : Json → Prop
  | null : Sized .null
  | bool (b : Bool) : Sized (.bool b)
  | int {n : Int} (least : leastInt64 ≤ n) (greatest : n ≤ greatestNat64) :
    Sized (.number (.int n))
  | float (x : Binary64) : Sized (.number (.float x))
  | string (s : String) : Sized (.string s)
  | array {items : List Json} (each : ∀ item ∈ items, Sized item) : Sized (.array items)
  | object {members : List Member} (each : ∀ member ∈ members, Sized member.2) :
    Sized (.object members)

theorem sized_of_numeralValue {negative : Bool} {whole decimals : List Char} {exponent : Option Int}
    {n : Number} (value : numeralValue? negative whole decimals exponent = some n) :
    (Json.number n).Sized := by
  unfold numeralValue? at value
  dsimp only at value
  split at value
  · next plain =>
    obtain ⟨-, -, bound⟩ := plain
    split at value
    · cases value
      exact .int (by unfold leastInt64; omega) (by exact_mod_cast bound)
    · split at value
      · next small =>
        cases value
        exact .int small.2 (by unfold greatestNat64; omega)
      · obtain ⟨x, -, same⟩ := Option.bind_eq_some_iff.1 value
        cases same
        exact .float _
  · obtain ⟨x, -, same⟩ := Option.bind_eq_some_iff.1 value
    cases same
    exact .float _

def Token.IsSized : Token → Prop
  | .literal (some json) => json.Sized
  | _ => True

theorem sized_of_parts {negative : Bool} {whole text rest : List Char} {n : Number}
    (read : (if whole.isEmpty then none
      else do
        let (decimals, rest) ← readFraction text
        let (exponent, rest) ← readExponent rest
        return (numeralValue? negative whole decimals exponent, rest)) = some (some n, rest)) :
    (Json.number n).Sized := by
  split at read
  · cases read
  · obtain ⟨⟨decimals, afterDecimals⟩, -, read⟩ := Option.bind_eq_some_iff.1 read
    obtain ⟨⟨exponent, afterExponent⟩, -, same⟩ := Option.bind_eq_some_iff.1 read
    have value := congrArg Prod.fst (Option.some_inj.1 same)
    exact sized_of_numeralValue value

theorem sized_of_readUnsigned {negative : Bool} {text rest : List Char} {n : Number}
    (read : readUnsigned negative text = some (some n, rest)) : (Json.number n).Sized := by
  unfold readUnsigned at read
  split at read
  exact sized_of_parts read

theorem isSized_of_readToken {text rest : List Char} {token : Token}
    (read : readToken text = some (token, rest)) : token.IsSized := by
  unfold readToken at read
  split at read
  case h_11 =>
    obtain ⟨⟨n, after⟩, number, same⟩ := Option.map_eq_some_iff.1 read
    cases same
    cases n with
    | none => trivial
    | some n =>
      unfold readNumber at number
      split at number
      · exact sized_of_readUnsigned number
      · exact sized_of_readUnsigned number
  case h_7 =>
    obtain ⟨_, -, same⟩ := Option.map_eq_some_iff.1 read
    cases same
    trivial
  case h_8 =>
    cases read
    exact .null
  case h_9 =>
    cases read
    exact .bool true
  case h_10 =>
    cases read
    exact .bool false
  all_goals
    cases read
    trivial

theorem isSized_of_tokensWithin {limit : Nat} {text : List Char} {tokens : List Token}
    (read : tokensWithin limit text = some tokens) : ∀ token ∈ tokens, token.IsSized := by
  induction limit generalizing text tokens with
  | zero =>
    cases read
    exact nofun
  | succ limit ih =>
    unfold tokensWithin at read
    split at read
    · cases read
      exact nofun
    · obtain ⟨⟨token, rest⟩, first, read⟩ := Option.bind_eq_some_iff.1 read
      obtain ⟨others, later, same⟩ := Option.bind_eq_some_iff.1 read
      cases same
      intro other member
      rcases List.mem_cons.1 member with rfl | member
      · exact isSized_of_readToken first
      · exact ih later other member

end Json

namespace Document

def IsSized (document : Document) : Prop :=
  ∀ json, document.json? = some json → json.Sized

theorem isSized_unreadable : IsSized .unreadable := nofun

theorem sized_of_itemTrees {items : List Document} {trees : List Json}
    (each : ∀ item ∈ items, item.IsSized) (made : itemTrees? items = some trees) :
    ∀ tree ∈ trees, tree.Sized := by
  induction items generalizing trees with
  | nil =>
    cases made
    exact nofun
  | cons item items ih =>
    obtain ⟨here, later⟩ := List.forall_mem_cons.1 each
    obtain ⟨tree, first, rest⟩ := Option.bind_eq_some_iff.1 made
    obtain ⟨others, remaining, same⟩ := Option.bind_eq_some_iff.1 rest
    cases same
    exact List.forall_mem_cons.2 ⟨here tree first, ih later remaining⟩

theorem sized_of_memberTrees {members : List Member} {trees : List Json.Member}
    (each : ∀ member ∈ members, member.2.IsSized) (made : memberTrees? members = some trees) :
    ∀ tree ∈ trees, tree.2.Sized := by
  induction members generalizing trees with
  | nil =>
    cases made
    exact nofun
  | cons member members ih =>
    obtain ⟨here, later⟩ := List.forall_mem_cons.1 each
    obtain ⟨tree, first, rest⟩ := Option.bind_eq_some_iff.1 made
    obtain ⟨others, remaining, same⟩ := Option.bind_eq_some_iff.1 rest
    cases same
    exact List.forall_mem_cons.2 ⟨here tree first, ih later remaining⟩

theorem isSized_array {items : List Document} (each : ∀ item ∈ items, item.IsSized) :
    IsSized (.array items) := by
  intro json made
  obtain ⟨trees, read, rfl⟩ := Option.map_eq_some_iff.1 made
  exact .array (sized_of_itemTrees each read)

theorem isSized_object {members : List Member} (each : ∀ member ∈ members, member.2.IsSized) :
    IsSized (.object members) := by
  intro json made
  obtain ⟨trees, read, rfl⟩ := Option.map_eq_some_iff.1 made
  exact .object (sized_of_memberTrees each read)

end Document

namespace Json

def Frame.IsSized : Frame → Prop
  | .array items => ∀ item ∈ items, item.IsSized
  | .object members => ∀ member ∈ members, member.2.IsSized
  | .member members _ => ∀ member ∈ members, member.2.IsSized

def Progress.IsSized : Progress → Prop
  | .within _ stack => ∀ frame ∈ stack, frame.IsSized
  | .complete document => document.IsSized

variable {document : Document} {stack : List Frame}

theorem isSized_deliver (sized : document.IsSized) (open_ : ∀ frame ∈ stack, frame.IsSized) :
    (Progress.deliver document stack).IsSized := by
  cases stack with
  | nil => exact sized
  | cons frame stack =>
    obtain ⟨inner, outer⟩ := List.forall_mem_cons.1 open_
    cases frame with
    | array items => exact List.forall_mem_cons.2 ⟨List.forall_mem_cons.2 ⟨sized, inner⟩, outer⟩
    | object members => exact open_
    | member members key =>
      exact List.forall_mem_cons.2 ⟨List.forall_mem_cons.2 ⟨sized, inner⟩, outer⟩

theorem isSized_close (sized : document.IsSized) (open_ : ∀ frame ∈ stack, frame.IsSized) :
    (close document stack).IsSized := by
  unfold close
  split
  · exact isSized_deliver sized open_
  · exact isSized_deliver Document.isSized_unreadable open_

theorem isSized_closedObject {members : List (Option String × Document)}
    (each : ∀ member ∈ members, member.2.IsSized) : (closedObject members).IsSized := by
  have values : ∀ kept : List Document.Member,
      (members.mapM fun member => member.1.map (·, member.2)) = some kept →
        ∀ member ∈ kept, member.2.IsSized := by
    induction members with
    | nil =>
      intro kept keys
      cases keys
      exact nofun
    | cons member members ih =>
      intro kept keys
      obtain ⟨here, later⟩ := List.forall_mem_cons.1 each
      rw [List.mapM_cons] at keys
      obtain ⟨named, first, rest⟩ := Option.bind_eq_some_iff.1 keys
      obtain ⟨key, -, rfl⟩ := Option.map_eq_some_iff.1 first
      obtain ⟨others, remaining, same⟩ := Option.bind_eq_some_iff.1 rest
      cases same
      exact List.forall_mem_cons.2 ⟨here, ih later others remaining⟩
  unfold closedObject
  split
  · next kept keys => exact Document.isSized_object (values kept keys)
  · exact Document.isSized_unreadable

theorem isSized_beginValue {token : Token} {after : Progress} (open_ : ∀ frame ∈ stack, frame.IsSized)
    (sized : token.IsSized) (begun : beginValue stack token = some after) : after.IsSized := by
  cases token with
  | literal json =>
    cases begun
    refine isSized_deliver ?_ open_
    cases json with
    | none => exact Document.isSized_unreadable
    | some json =>
      intro tree same
      cases same
      exact sized
  | string s =>
    cases begun
    refine isSized_deliver ?_ open_
    cases s with
    | none => exact Document.isSized_unreadable
    | some s =>
      intro tree same
      cases same
      exact .string s
  | beginArray =>
    cases begun
    exact List.forall_mem_cons.2 ⟨nofun, open_⟩
  | beginObject =>
    cases begun
    exact List.forall_mem_cons.2 ⟨nofun, open_⟩
  | _ => cases begun

theorem isSized_step {before after : Progress} {token : Token} (sized : before.IsSized)
    (read : token.IsSized) (stepped : before.step token = some after) : after.IsSized := by
  unfold Progress.step at stepped
  split at stepped
  case h_1 => cases stepped
  case h_2 =>
    cases stepped
    exact isSized_close (Document.isSized_array nofun) (List.forall_mem_cons.1 sized).2
  case h_3 => exact isSized_beginValue sized read stepped
  case h_4 => exact isSized_beginValue sized read stepped
  case h_5 =>
    cases stepped
    exact isSized_close (Document.isSized_object nofun) (List.forall_mem_cons.1 sized).2
  case h_8 =>
    cases stepped
    exact sized
  case h_10 =>
    cases stepped
    obtain ⟨inner, outer⟩ := List.forall_mem_cons.1 sized
    refine isSized_close (Document.isSized_array fun item member => ?_) outer
    exact inner item (List.mem_reverse.1 member)
  case h_12 =>
    cases stepped
    obtain ⟨inner, outer⟩ := List.forall_mem_cons.1 sized
    refine isSized_close (isSized_closedObject fun member listed => ?_) outer
    exact inner member (List.mem_reverse.1 listed)
  case h_13 => cases stepped
  all_goals
    cases stepped
    obtain ⟨inner, outer⟩ := List.forall_mem_cons.1 sized
    exact List.forall_mem_cons.2 ⟨inner, outer⟩

theorem isSized_foldlM {tokens : List Token} {before after : Progress} (sized : before.IsSized)
    (read : ∀ token ∈ tokens, token.IsSized)
    (run : tokens.foldlM Progress.step before = some after) : after.IsSized := by
  induction tokens generalizing before with
  | nil =>
    cases run
    exact sized
  | cons token tokens ih =>
    rw [List.foldlM_cons] at run
    obtain ⟨here, later⟩ := List.forall_mem_cons.1 read
    obtain ⟨between, first, rest⟩ := Option.bind_eq_some_iff.1 run
    exact ih (isSized_step sized here first) later rest

theorem sized_of_read {text : String} {json : Json} (read : read? text = some json) :
    json.Sized := by
  obtain ⟨document, within, tree⟩ := Option.bind_eq_some_iff.1 read
  obtain ⟨tokens, split, run⟩ := Option.bind_eq_some_iff.1 within
  obtain ⟨after, folded, complete⟩ := Option.bind_eq_some_iff.1 run
  have start : (Progress.within .value []).IsSized := nofun
  have finish := isSized_foldlM start (isSized_of_tokensWithin split) folded
  cases after with
  | complete document =>
    cases complete
    exact finish json tree
  | within expected stack => cases complete

end Json

end SchemaDiscovery
