import Mathlib.Data.List.Forall2
import SchemaDiscovery.Proofs.Catalog.Classification
import SchemaDiscovery.Proofs.Default.Scalar
/-!
Values that conform to a type. Main statement: a JSON value becomes a literal exactly if it conforms to
the type of its place, and then the literal mirrors it part by part.
-/

namespace SchemaDiscovery

theorem exists_of_forall₂ {α β : Type} {R : α → β → Prop} {xs : List α} {ys : List β} {x : α}
    (all : List.Forall₂ R xs ys) (member : x ∈ xs) : ∃ y ∈ ys, R x y := by
  induction all with
  | nil => cases member
  | cons first rest ih =>
    rcases List.mem_cons.1 member with rfl | later
    · exact ⟨_, List.mem_cons_self, first⟩
    · obtain ⟨y, present, related⟩ := ih later
      exact ⟨y, List.mem_cons_of_mem _ present, related⟩

theorem exists_forall₂ {α β : Type} {R : α → β → Prop} {xs : List α}
    (each : ∀ x ∈ xs, ∃ y, R x y) : ∃ ys, List.Forall₂ R xs ys := by
  induction xs with
  | nil => exact ⟨[], .nil⟩
  | cons x xs ih =>
    obtain ⟨y, first⟩ := each x List.mem_cons_self
    obtain ⟨ys, rest⟩ := ih fun x member => each x (List.mem_cons_of_mem _ member)
    exact ⟨y :: ys, .cons first rest⟩

namespace Catalog

/-- The JSON value fits a place of the type. -/
inductive Conforms (catalog : Catalog) : TypeUse → Json → Prop
  | null {target : TypeUse} (boxed : target.isPrimitive = false)
    (untagged : hasNotNull target.tags = false) : Conforms catalog target .null
  | scalar {target : TypeUse} {kind : ValueKind} {json : Json}
    (spelled : target.valueKind? = some kind) (accepted : kind.Accepts json) :
    Conforms catalog target json
  | enum {key : TypeKey} {tags : List Tag} {type : TypeDescriptor} {members : List String}
    {member : String} (found : catalog.lookup? key = some type)
    (closed : type.members? = some members) (listed : member ∈ members) :
    Conforms catalog (.atom (.named key) tags) (.string member)
  | list {element : TypeUse} {tags : List Tag} {items : List Json}
    (each : ∀ item ∈ items, Conforms catalog element item) :
    Conforms catalog (.generic .list [element] tags) (.array items)
  | object {key : TypeKey} {tags : List Tag} {type : TypeDescriptor} {members : List Json.Member}
    (found : catalog.lookup? key = some type) (isObject : type.isEnum = false)
    (known : ∀ member ∈ members, ∃ field ∈ catalog.inputFieldsOf type, field.name = member.1)
    (each : ∀ member ∈ members, ∀ field,
      (catalog.inputFieldsOf type).find? (·.name = member.1) = some field →
        Conforms catalog field.type member.2) :
    Conforms catalog (.atom (.named key) tags) (.object members)
  | map {args : List TypeUse} {tags : List Tag} {json : Json} (present : json ≠ .null) :
    Conforms catalog (.generic .map args tags) json

/-- The literal has the parts of the JSON value, in the same order and under the same keys. -/
inductive Mirrors (catalog : Catalog) : TypeUse → Json → Literal → Prop
  | null {target : TypeUse} : Mirrors catalog target .null .null
  | scalar {target : TypeUse} {kind : ValueKind} {json : Json} {literal : Literal}
    (spelled : target.valueKind? = some kind) (same : kind.Mirrors json literal) :
    Mirrors catalog target json literal
  | enum {key : TypeKey} {tags : List Tag} {type : TypeDescriptor} {member : String}
    (found : catalog.lookup? key = some type) (closed : type.isEnum = true) :
    Mirrors catalog (.atom (.named key) tags) (.string member) (.enum member)
  | list {element : TypeUse} {tags : List Tag} {items : List Json} {literals : List Literal}
    (count : items.length = literals.length)
    (each : ∀ pair ∈ items.zip literals, Mirrors catalog element pair.1 pair.2) :
    Mirrors catalog (.generic .list [element] tags) (.array items) (.list literals)
  | object {key : TypeKey} {tags : List Tag} {type : TypeDescriptor} {members : List Json.Member}
    {literals : List (String × Literal)} (found : catalog.lookup? key = some type)
    (isObject : type.isEnum = false) (keys : members.map Prod.fst = literals.map Prod.fst)
    (each : ∀ pair ∈ members.zip literals, ∀ field,
      (catalog.inputFieldsOf type).find? (·.name = pair.1.1) = some field →
        Mirrors catalog field.type pair.1.2 pair.2.2) :
    Mirrors catalog (.atom (.named key) tags) (.object members) (.object literals)
  | map {args : List TypeUse} {tags : List Tag} {json : Json} :
    Mirrors catalog (.generic .map args tags) json (.ofJson json)

variable {catalog : Catalog} {text : String} {target : TypeUse} {json : Json} {literal : Literal}

theorem enumLiteral_ok {type : TypeDescriptor} {member : String} :
    enumLiteral type member = .ok literal ↔
      (∃ members, type.members? = some members ∧ member ∈ members) ∧ literal = .enum member := by
  unfold enumLiteral
  cases type.members? with
  | none => simp
  | some members => by_cases listed : member ∈ members <;> simp [listed, eq_comm]

theorem literalOfJson_null :
    catalog.literalOfJson text target .null = .ok literal ↔
      target.forbidsNull = false ∧ literal = .null := by
  unfold literalOfJson
  cases target.forbidsNull <;> simp [eq_comm]

theorem literalsOfItems_ok {items : List Json} {literals : List Literal} :
    catalog.literalsOfItems text target items = .ok literals ↔
      List.Forall₂ (fun item literal => catalog.literalOfJson text target item = .ok literal)
        items literals := by
  induction items generalizing literals with
  | nil => simp [literalsOfItems, eq_comm]
  | cons item items ih =>
    simp only [literalsOfItems, bind_eq_ok, List.forall₂_cons_left_iff, pure, Except.pure]
    constructor
    · rintro ⟨literal, first, rest, others, same⟩
      cases same
      exact ⟨literal, rest, first, ih.1 others, rfl⟩
    · rintro ⟨literal, rest, first, others, rfl⟩
      exact ⟨literal, first, rest, ih.2 others, rfl⟩

theorem literalsOfMembers_ok {type : TypeDescriptor} {fields : List InputField}
    {members : List Json.Member} {literals : List (String × Literal)} :
    catalog.literalsOfMembers text type fields members = .ok literals ↔
      List.Forall₂ (fun member literal => member.1 = literal.1 ∧
        ∃ field, fields.find? (·.name = member.1) = some field ∧
          catalog.literalOfJson text field.type member.2 = .ok literal.2) members literals := by
  induction members generalizing literals with
  | nil => simp [literalsOfMembers, eq_comm]
  | cons member members ih =>
    obtain ⟨key, value⟩ := member
    rw [literalsOfMembers, List.forall₂_cons_left_iff]
    cases found : fields.find? (·.name = key) with
    | none => simp
    | some field =>
      simp only [bind_eq_ok, pure, Except.pure]
      constructor
      · rintro ⟨literal, first, rest, others, same⟩
        cases same
        exact ⟨(key, literal), rest, ⟨rfl, field, rfl, first⟩, ih.1 others, rfl⟩
      · rintro ⟨⟨_, literal⟩, rest, ⟨rfl, _, same, first⟩, others, rfl⟩
        cases same
        exact ⟨literal, first, rest, ih.2 others, rfl⟩

theorem literalOfJson_induction {motive : TypeUse → Json → Literal → Prop}
    (null : ∀ {target}, target.forbidsNull = false → motive target .null .null)
    (leaf : ∀ {target classification json literal}, catalog.Spells target classification →
      json ≠ .null → leafLiteral text target classification json = .ok literal →
        motive target json literal)
    (list : ∀ {element tags items literals}, List.Forall₂ (motive element) items literals →
      motive (.generic .list [element] tags) (.array items) (.list literals))
    (object : ∀ {key tags type members literals}, catalog.lookup? key = some type →
      type.isEnum = false →
      List.Forall₂ (fun member literal => member.1 = literal.1 ∧ ∃ field,
        (catalog.inputFieldsOf type).find? (·.name = member.1) = some field ∧
          motive field.type member.2 literal.2) members literals →
      motive (.atom (.named key) tags) (.object members) (.object literals))
    (made : catalog.literalOfJson text target json = .ok literal) : motive target json literal := by
  induction json using Json.parts_induction generalizing target literal with
  | null =>
    obtain ⟨allowed, rfl⟩ := literalOfJson_null.1 made
    exact null allowed
  | array items ih =>
    obtain ⟨classification, classified, rest⟩ := bind_eq_ok.1 made
    have spells := classify_iff.1 classified
    split at rest
    · obtain ⟨tags, rfl⟩ := spells
      obtain ⟨literals, parts, same⟩ := bind_eq_ok.1 rest
      cases same
      obtain ⟨count, each⟩ := List.forall₂_iff_zip.1 (literalsOfItems_ok.1 parts)
      refine list (List.forall₂_iff_zip.2 ⟨count, fun paired => ?_⟩)
      exact ih _ (List.of_mem_zip paired).1 (each paired)
    · exact leaf spells nofun rest
  | object members ih =>
    obtain ⟨classification, classified, rest⟩ := bind_eq_ok.1 made
    have spells := classify_iff.1 classified
    split at rest
    · obtain ⟨key, tags, rfl, found, isObject⟩ := spells
      obtain ⟨literals, parts, same⟩ := bind_eq_ok.1 rest
      cases same
      obtain ⟨count, each⟩ := List.forall₂_iff_zip.1 (literalsOfMembers_ok.1 parts)
      refine object found isObject (List.forall₂_iff_zip.2 ⟨count, fun paired => ?_⟩)
      obtain ⟨named, field, chosen, given⟩ := each paired
      exact ⟨named, field, chosen, ih _ (List.of_mem_zip paired).1 given⟩
    · exact leaf spells nofun rest
  | _ =>
    obtain ⟨classification, classified, given⟩ := bind_eq_ok.1 made
    exact leaf (classify_iff.1 classified) nofun given

def Judges (catalog : Catalog) (target : TypeUse) (json : Json) (literal : Literal) : Prop :=
  catalog.Conforms target json ∧ catalog.Mirrors target json literal

theorem judges_null (allowed : target.forbidsNull = false) : catalog.Judges target .null .null := by
  obtain ⟨boxed, untagged⟩ := Bool.or_eq_false_iff.1 allowed
  exact ⟨.null boxed untagged, .null⟩

theorem judges_leaf {classification : Classification}
    (spells : catalog.Spells target classification) (present : json ≠ .null)
    (given : leafLiteral text target classification json = .ok literal) :
    catalog.Judges target json literal := by
  cases classification with
  | scalar kind primitive =>
    obtain ⟨spelled, -⟩ := spells
    obtain ⟨accepted, same⟩ := scalarOfJson_ok.1 (mapError_eq_ok.1 given)
    exact ⟨.scalar spelled accepted, .scalar spelled same⟩
  | enum type =>
    obtain ⟨key, tags, rfl, found, closed⟩ := spells
    cases json with
    | string member =>
      obtain ⟨⟨members, declared, listed⟩, rfl⟩ := enumLiteral_ok.1 given
      exact ⟨.enum found declared listed, .enum found closed⟩
    | _ => cases given
  | map =>
    obtain ⟨args, tags, rfl⟩ := spells
    cases given
    exact ⟨.map present, .map⟩
  | _ => cases given

theorem judges_list {element : TypeUse} {tags : List Tag} {items : List Json} {literals : List Literal}
    (all : List.Forall₂ (catalog.Judges element) items literals) :
    catalog.Judges (.generic .list [element] tags) (.array items) (.list literals) := by
  obtain ⟨count, each⟩ := List.forall₂_iff_zip.1 all
  constructor
  · refine .list fun item member => ?_
    obtain ⟨literal, -, conforms, -⟩ := exists_of_forall₂ all member
    exact conforms
  · exact .list count fun pair paired => (each paired).2

theorem judges_object {key : TypeKey} {tags : List Tag} {type : TypeDescriptor}
    {members : List Json.Member} {literals : List (String × Literal)}
    (found : catalog.lookup? key = some type) (isObject : type.isEnum = false)
    (all : List.Forall₂ (fun member literal => member.1 = literal.1 ∧ ∃ field,
      (catalog.inputFieldsOf type).find? (·.name = member.1) = some field ∧
        catalog.Judges field.type member.2 literal.2) members literals) :
    catalog.Judges (.atom (.named key) tags) (.object members) (.object literals) := by
  obtain ⟨-, each⟩ := List.forall₂_iff_zip.1 all
  have keys : members.map Prod.fst = literals.map Prod.fst := by
    rw [← List.forall₂_eq_eq_eq, List.forall₂_map_left_iff, List.forall₂_map_right_iff]
    exact all.imp fun _ _ part => part.1
  constructor
  · refine .object found isObject (fun member listed => ?_) fun member listed field chosen => ?_
    · obtain ⟨_, -, -, field, chosen, -⟩ := exists_of_forall₂ all listed
      exact ⟨field, List.mem_of_find?_eq_some chosen, by simpa using List.find?_some chosen⟩
    · obtain ⟨_, -, -, other, same, conforms, -⟩ := exists_of_forall₂ all listed
      cases chosen.symm.trans same
      exact conforms
  · refine .object found isObject keys fun pair paired field chosen => ?_
    obtain ⟨-, other, same, -, mirrors⟩ := each paired
    cases chosen.symm.trans same
    exact mirrors

theorem judges_of_literalOfJson (made : catalog.literalOfJson text target json = .ok literal) :
    catalog.Judges target json literal :=
  literalOfJson_induction (motive := catalog.Judges) judges_null judges_leaf judges_list judges_object
    made

theorem literalOfText_ok (made : catalog.literalOfText text target = .ok literal) :
    (∃ kind primitive, catalog.classify target = .ok (.scalar kind primitive) ∧
      scalarOfText kind text = .ok literal) ∨
    (∃ type, catalog.classify target = .ok (.enum type) ∧ enumLiteral type text = .ok literal) ∨
    (catalog.classify target = .ok .map ∧ ∃ json, literal = .ofJson json) ∨
    literal ≠ .null ∧ ∃ json, catalog.literalOfJson text target json = .ok literal := by
  obtain ⟨classification, classified, rest⟩ := bind_eq_ok.1 made
  cases classification with
  | scalar kind primitive => exact .inl ⟨kind, primitive, classified, mapError_eq_ok.1 rest⟩
  | enum type => exact .inr (.inl ⟨type, classified, rest⟩)
  | map =>
    obtain ⟨json, -, same⟩ := bind_eq_ok.1 rest
    cases same
    exact .inr (.inr (.inl ⟨classified, json, rfl⟩))
  | list element =>
    obtain ⟨json, -, parts⟩ := bind_eq_ok.1 rest
    split at parts
    · next items =>
      refine .inr (.inr (.inr ⟨?_, .array items, parts⟩))
      obtain ⟨_, again, inside⟩ := bind_eq_ok.1 parts
      cases classified.symm.trans again
      obtain ⟨literals, -, same⟩ := bind_eq_ok.1 inside
      cases same
      exact nofun
    · cases parts
  | named type =>
    obtain ⟨json, -, parts⟩ := bind_eq_ok.1 rest
    split at parts
    · next members =>
      refine .inr (.inr (.inr ⟨?_, .object members, bind_eq_ok.2 ⟨_, classified, parts⟩⟩))
      obtain ⟨literals, -, same⟩ := bind_eq_ok.1 parts
      cases same
      exact nofun
    · cases parts
  | asyncWrapper element => cases rest
  | publisher element => cases rest

theorem classify_of_valueKind {kind : ValueKind} (spelled : target.valueKind? = some kind) :
    catalog.classify target = .ok (.scalar kind target.isPrimitive) :=
  classify_iff.2 ⟨spelled, rfl⟩

theorem literalOfJson_leaf {classification : Classification}
    (classified : catalog.classify target = .ok classification) (present : json ≠ .null)
    (leaf : leafLiteral text target classification json = .ok literal) :
    catalog.literalOfJson text target json = .ok literal := by
  cases json with
  | null => exact absurd rfl present
  | bool b => exact bind_eq_ok.2 ⟨_, classified, leaf⟩
  | number n => exact bind_eq_ok.2 ⟨_, classified, leaf⟩
  | string s => exact bind_eq_ok.2 ⟨_, classified, leaf⟩
  | array items =>
    refine bind_eq_ok.2 ⟨_, classified, ?_⟩
    cases classification with
    | list element => cases leaf
    | _ => exact leaf
  | object members =>
    refine bind_eq_ok.2 ⟨_, classified, ?_⟩
    cases classification with
    | named type => cases leaf
    | _ => exact leaf

theorem exists_literal (conforms : catalog.Conforms target json) (sized : json.Sized) :
    ∃ literal, catalog.literalOfJson text target json = .ok literal := by
  induction conforms with
  | null boxed untagged =>
    exact ⟨.null, literalOfJson_null.2 ⟨Bool.or_eq_false_iff.2 ⟨boxed, untagged⟩, rfl⟩⟩
  | @scalar target kind json spelled accepted =>
    obtain ⟨literal, same⟩ := ValueKind.exists_mirrors accepted sized
    have made := scalarOfJson_ok.2 ⟨accepted, same⟩
    refine ⟨literal, literalOfJson_leaf (classify_of_valueKind spelled) ?_ (mapError_eq_ok.2 made)⟩
    -- No scalar takes null.
    rintro rfl
    cases kind <;> cases made
  | @enum key tags type members member found closed listed =>
    have isEnum : type.isEnum = true := by
      rw [TypeDescriptor.isEnum, closed]
      rfl
    have classified : catalog.classify (.atom (.named key) tags) = .ok (.enum type) :=
      classify_iff.2 ⟨key, tags, rfl, found, isEnum⟩
    have made := enumLiteral_ok.2 ⟨⟨members, closed, listed⟩, rfl⟩
    exact ⟨.enum member, literalOfJson_leaf classified nofun made⟩
  | @list element tags items each ih =>
    cases sized with
    | array parts =>
      obtain ⟨literals, made⟩ := exists_forall₂ fun item member => ih item member (parts item member)
      exact ⟨.list literals, bind_eq_ok.2 ⟨.list element, rfl,
        bind_eq_ok.2 ⟨literals, literalsOfItems_ok.2 made, rfl⟩⟩⟩
  | @object key tags type members found isObject known each ih =>
    cases sized with
    | object parts =>
      have classified : catalog.classify (.atom (.named key) tags) = .ok (.named type) :=
        classify_iff.2 ⟨key, tags, rfl, found, isObject⟩
      have some : ∀ member ∈ members, ∃ literal : String × Literal, member.1 = literal.1 ∧
          ∃ field, (catalog.inputFieldsOf type).find? (·.name = member.1) = some field ∧
            catalog.literalOfJson text field.type member.2 = .ok literal.2 := by
        intro member listed
        obtain ⟨other, present, named⟩ := known member listed
        obtain ⟨field, chosen⟩ := Option.isSome_iff_exists.1
          (List.find?_isSome (p := (·.name = member.1)).2 ⟨other, present, decide_eq_true named⟩)
        obtain ⟨literal, made⟩ := ih member listed field chosen (parts member listed)
        exact ⟨(member.1, literal), rfl, field, chosen, made⟩
      obtain ⟨literals, made⟩ := exists_forall₂ some
      exact ⟨.object literals, bind_eq_ok.2 ⟨.named type, classified,
        bind_eq_ok.2 ⟨literals, literalsOfMembers_ok.2 made, rfl⟩⟩⟩
  | @map args tags json present =>
    have classified : catalog.classify (.generic .map args tags) = .ok .map := rfl
    exact ⟨.ofJson json, literalOfJson_leaf classified present rfl⟩

/-- A JSON value becomes a literal exactly if it conforms to the type of its place, and then the literal
mirrors it. -/
theorem literalOfJson_accepts (sized : json.Sized) :
    ((∃ literal, catalog.literalOfJson text target json = .ok literal) ↔
      catalog.Conforms target json) ∧
    ∀ literal, catalog.literalOfJson text target json = .ok literal →
      catalog.Mirrors target json literal := by
  refine ⟨⟨?_, fun conforms => exists_literal conforms sized⟩, fun literal given => ?_⟩
  · rintro ⟨literal, given⟩
    exact (judges_of_literalOfJson given).1
  · exact (judges_of_literalOfJson given).2

def setter (name : String) (type : TypeUse) : Method where
  name := name
  params := [⟨"value", type, []⟩]

def grove : Catalog :=
  .ofTypes [{
    key := ⟨"grove::Branch"⟩
    methods := [
      setter "setTwigs" (.generic .list [.atom (.named ⟨"grove::Branch"⟩) [.notNull]] []),
      setter "setLeaves" (.atom (.primitive .byte) []),
      setter "setAge" (.atom (.boxed .double) [])] }]

def branch : TypeUse := .atom (.named ⟨"grove::Branch"⟩) []

def grown : String := "\x7b\"twigs\": [\x7b\"leaves\": 127\x7d, \x7b\"twigs\": []\x7d], \"age\": 40\x7d"

def overgrown : String := "\x7b\"twigs\": [\x7b\"age\": null\x7d, \x7b\"leaves\": 128\x7d]\x7d"

theorem literalOfJson_accepts_grown :
    (∃ json, Json.read? grown = some json ∧ json.Sized ∧ grove.Conforms branch json ∧
      ∃ literal, grove.literalOfJson grown branch json = .ok literal ∧
        grove.Mirrors branch json literal) ∧
    ∃ json, Json.read? overgrown = some json ∧ json.Sized ∧ ¬ grove.Conforms branch json := by
  have observed : (Json.read? grown).map (fun json =>
      (grove.literalOfJson grown branch json).toOption.isSome) = some true := by
    decide +kernel
  have refused : (Json.read? overgrown).map (fun json =>
      (grove.literalOfJson overgrown branch json).toOption.isSome) = some false := by
    decide +kernel
  obtain ⟨json, read, made⟩ := Option.map_eq_some_iff.1 observed
  obtain ⟨other, again, failed⟩ := Option.map_eq_some_iff.1 refused
  constructor
  · cases given : grove.literalOfJson grown branch json with
    | error e =>
      rw [given] at made
      cases made
    | ok literal =>
      obtain ⟨accepts, mirrors⟩ := literalOfJson_accepts (Json.sized_of_read read)
      exact ⟨json, read, Json.sized_of_read read, accepts.1 ⟨literal, given⟩, literal, given,
        mirrors literal given⟩
  · refine ⟨other, again, Json.sized_of_read again, fun conforms => ?_⟩
    obtain ⟨accepts, -⟩ := literalOfJson_accepts (Json.sized_of_read again)
    obtain ⟨literal, given⟩ := accepts.2 conforms
    rw [given] at failed
    cases failed

end Catalog

end SchemaDiscovery
