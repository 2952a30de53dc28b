import SchemaDiscovery.Metadata.Storage
import SchemaDiscovery.Proofs.Catalog.Lineage
import Mathlib.Data.Nat.Notation
/-!
Where the metadata of an accessor comes from. Main statements: the storage field behind an accessor is the
first of its name in the nearest type up the chain of parents that has one; nullability and exclusion hold
when any place asks for them, and of everything else the accessor's own tags have the first word.
-/

namespace SchemaDiscovery

namespace Catalog

/-- The type stands so many parents above the owner. Under the owner's key stands the owner itself, as it
does in the catalog that it comes from. -/
inductive Rises (catalog : Catalog) (owner : TypeDescriptor) : ℕ → TypeDescriptor → Prop
  | start : Rises catalog owner 0 owner
  | next {height : ℕ} {type parent : TypeDescriptor} {reference : Supertype}
      (below : Rises catalog owner height type) (refers : type.parent = some reference)
      (found : (catalog.insert owner).lookup? reference.key = some parent) :
      Rises catalog owner (height + 1) parent

/-- The field is the first of its name in a type up the chain of parents, and no type nearer to the owner
has a field of that name. -/
def NearestField (catalog : Catalog) (owner : TypeDescriptor) (name : String)
    (field : StorageField) : Prop :=
  ∃ height type, catalog.Rises owner height type ∧ type.fields.find? (·.name = name) = some field ∧
    ∀ lower < height, ∀ nearer, catalog.Rises owner lower nearer →
      ∀ other ∈ nearer.fields, other.name ≠ name

variable {catalog : Catalog} {owner type other parent : TypeDescriptor} {reference : Supertype}
  {unvisited : List TypeDescriptor} {height : ℕ} {name : String} {field : StorageField}

theorem Rises.unique (first : catalog.Rises owner height type)
    (second : catalog.Rises owner height other) : type = other := by
  induction first generalizing other with
  | start =>
    cases second
    rfl
  | next _ refers found ih =>
    cases second with
    | next below refers' found' =>
      obtain rfl := ih below
      rw [refers, Option.some_inj] at refers'
      subst refers'
      rw [found, Option.some_inj] at found'
      exact found'

theorem find_fields_eq_none_iff :
    type.fields.find? (·.name = name) = none ↔ ∀ other ∈ type.fields, other.name ≠ name := by
  simp

theorem NearestField.unique {other : StorageField} (first : catalog.NearestField owner name field)
    (second : catalog.NearestField owner name other) : field = other := by
  obtain ⟨height, type, rises, found, nothing⟩ := first
  obtain ⟨height', type', rises', found', nothing'⟩ := second
  rcases Nat.lt_trichotomy height height' with lower | rfl | lower
  · rw [find_fields_eq_none_iff.2 (nothing' height lower type rises)] at found
    cases found
  · rw [rises.unique rises', found', Option.some_inj] at found
    exact found.symm
  · rw [find_fields_eq_none_iff.2 (nothing height' lower type' rises')] at found'
    cases found'

theorem parentChain_begins (unvisited : List TypeDescriptor) (type : TypeDescriptor) :
    ∃ rest, SchemaDiscovery.parentChain unvisited type = type :: rest := by
  rw [SchemaDiscovery.parentChain]
  split <;> exact ⟨_, rfl⟩

theorem self_mem_parentChain (unvisited : List TypeDescriptor) (type : TypeDescriptor) :
    type ∈ SchemaDiscovery.parentChain unvisited type := by
  obtain ⟨rest, begins⟩ := parentChain_begins unvisited type
  rw [begins]
  exact List.mem_cons_self

theorem rises_of_getElem {index : ℕ} (rises : catalog.Rises owner height type)
    (left : ∀ key parent, unvisited.find? (·.key = key) = some parent →
      (catalog.insert owner).lookup? key = some parent)
    (present : (SchemaDiscovery.parentChain unvisited type)[index]? = some other) :
    catalog.Rises owner (height + index) other := by
  induction index generalizing unvisited type height with
  | zero =>
    obtain ⟨rest, begins⟩ := parentChain_begins unvisited type
    rw [begins, List.getElem?_cons_zero, Option.some_inj] at present
    exact present ▸ rises
  | succ index ih =>
    rw [SchemaDiscovery.parentChain] at present
    split at present
    · cases present
    · next parent found =>
      obtain ⟨reference, refers, hit⟩ := Option.bind_eq_some_iff.1 found
      have above : catalog.Rises owner (height + 1) parent := rises.next refers (left _ _ hit)
      rw [Nat.add_comm index, ← Nat.add_assoc]
      refine ih above ?_ present
      -- What is left further up was left before.
      intro key next hit
      rw [find_withoutKey] at hit
      split at hit
      · cases hit
      · exact left _ _ hit

theorem parentChain_closed (member : other ∈ SchemaDiscovery.parentChain unvisited type)
    (refers : other.parent = some reference)
    (left : unvisited.find? (·.key = reference.key) = some parent) :
    parent ∈ SchemaDiscovery.parentChain unvisited type := by
  fun_induction SchemaDiscovery.parentChain unvisited type with
  | case1 unvisited type stuck =>
    rw [List.mem_singleton] at member
    subst member
    rw [refers, Option.bind_some, left] at stuck
    cases stuck
  | case2 unvisited type next found ih =>
    obtain ⟨first, refersFirst, hit⟩ := Option.bind_eq_some_iff.1 found
    have named : next.key = first.key := by simpa using List.find?_some hit
    have nextPresent := self_mem_parentChain (withoutKey next.key unvisited) next
    refine List.mem_cons_of_mem _ ?_
    rcases List.mem_cons.1 member with rfl | member
    · rw [refersFirst, Option.some_inj] at refers
      subst refers
      rw [hit, Option.some_inj] at left
      exact left ▸ nextPresent
    · -- Further up only the next type is left no more, and that one is in the chain.
      by_cases same : reference.key = next.key
      · rw [same, named, hit, Option.some_inj] at left
        exact left ▸ nextPresent
      · exact ih member (by rw [find_withoutKey, if_neg same, left])

theorem find_withoutKey_iff {key : TypeKey} :
    (withoutKey owner.key catalog.types).find? (·.key = key) = some parent ↔
      key ≠ owner.key ∧ (catalog.insert owner).lookup? key = some parent := by
  rw [find_withoutKey, lookup_insert]
  by_cases same : key = owner.key
  · simp [same]
  · rw [if_neg same, if_neg (Ne.symm same)]
    exact (and_iff_right same).symm

theorem Rises.mem_parentChain (rises : catalog.Rises owner height type) :
    type ∈ catalog.parentChain owner := by
  induction rises with
  | start => exact self_mem_parentChain _ owner
  | @next _ _ _ reference _ refers found ih =>
    by_cases same : reference.key = owner.key
    · rw [lookup_insert, if_pos same.symm, Option.some_inj] at found
      exact found ▸ self_mem_parentChain _ owner
    · exact parentChain_closed ih refers (find_withoutKey_iff.2 ⟨same, found⟩)

theorem rises_of_parentChain {index : ℕ}
    (present : (catalog.parentChain owner)[index]? = some type) :
    catalog.Rises owner index type := by
  rw [← Nat.zero_add index]
  exact rises_of_getElem .start (fun _ _ left => (find_withoutKey_iff.1 left).2) present

theorem nearestField_of_found {kind : TypeKind}
    (found : (Storage.ofOwner catalog owner kind).field? name = some field) :
    catalog.NearestField owner name field := by
  rw [Storage.field?, Storage.ofOwner, List.find?_flatMap, List.findSome?_eq_some_iff] at found
  obtain ⟨nearer, type, further, parts, found, nothing⟩ := found
  refine ⟨nearer.length, type, rises_of_parentChain ?_, found, fun lower below other rises => ?_⟩
  · rw [parts]
    simp
  · have present : (catalog.parentChain owner)[lower]? = some nearer[lower] := by
      rw [parts, List.getElem?_append_left below, List.getElem?_eq_getElem below]
    rw [rises.unique (rises_of_parentChain present)]
    exact find_fields_eq_none_iff.1 (nothing _ (List.getElem_mem below))

theorem find_ofOwner_iff {kind : TypeKind} :
    (Storage.ofOwner catalog owner kind).field? name = some field ↔
      catalog.NearestField owner name field := by
  refine ⟨nearestField_of_found, fun nearest => ?_⟩
  have present : ((Storage.ofOwner catalog owner kind).field? name).isSome := by
    obtain ⟨height, type, rises, found, -⟩ := nearest
    have stored : field ∈ type.fields := List.mem_of_find?_eq_some found
    have named : field.name = name := by simpa using List.find?_some found
    rw [Storage.field?, List.find?_isSome]
    exact ⟨field, List.mem_flatMap.2 ⟨type, rises.mem_parentChain, stored⟩, decide_eq_true named⟩
  obtain ⟨other, found⟩ := Option.isSome_iff_exists.1 present
  rw [found, (nearestField_of_found found).unique nearest]

end Catalog

inductive TypeDescriptor.LeavesOut (type : TypeDescriptor) (name : String) : TypeKind → Prop
  | input {override : Option String} {names : List String}
      (tagged : .inputType override names ∈ type.tags) (listed : name ∈ names) :
      LeavesOut type name .input
  | object {override : Option String} {names : List String}
      (tagged : .typeName override names ∈ type.tags) (listed : name ∈ names) :
      LeavesOut type name .object
  | interface {override : Option String} {names : List String}
      (tagged : .typeName override names ∈ type.tags) (listed : name ∈ names) :
      LeavesOut type name .interface

theorem TypeDescriptor.mem_ignoredNames_iff {type : TypeDescriptor} {kind : TypeKind}
    {name : String} : name ∈ type.ignoredNames kind ↔ type.LeavesOut name kind := by
  rw [ignoredNames, List.mem_flatMap]
  constructor
  · rintro ⟨tag, tagged, listed⟩
    cases tag with
    | inputType override names =>
      cases kind with
      | input => exact .input tagged listed
      | _ => cases listed
    | typeName override names =>
      cases kind with
      | object => exact .object tagged listed
      | interface => exact .interface tagged listed
      | _ => cases listed
    | _ => cases listed
  · rintro (⟨tagged, listed⟩ | ⟨tagged, listed⟩ | ⟨tagged, listed⟩) <;>
      exact ⟨_, tagged, listed⟩

namespace Metadata

/-- The first tag of its sort in the place has this value. -/
def FirstOf {α : Type} (sort : α → Tag) (tags : List Tag) (value : α) : Prop :=
  ∃ before after, tags = before ++ sort value :: after ∧ ∀ other, sort other ∉ before

/-- A deprecation has the reason of the first tag for it; an empty one is none. -/
def FirstDeprecation (tags : List Tag) (deprecation : Deprecation) : Prop :=
  ∃ reason, FirstOf .deprecated tags reason ∧
    ⟨reason.filter fun text => !text.isEmpty⟩ = deprecation

/-- A null default goes before every text for a default in its place. -/
def FirstDefault (tags : List Tag) : DefaultSpec → Prop
  | .null => .defaultNull ∈ tags
  | .text value => .defaultNull ∉ tags ∧ FirstOf .default tags value

/-- The value is that of the accessor's own tags, or that of the tags behind it where the own ones have
none. -/
def Prevails {α : Type} (gives : List Tag → α → Prop) (own behind : List Tag) (value : α) : Prop :=
  gives own value ∨ (∀ other, ¬ gives own other) ∧ gives behind value

/-- The metadata is what the accessor's own tags and those behind it say, for a field that its type may
leave out. -/
structure Gathers (metadata : Metadata) (own behind : List Tag) (leftOut : Prop) : Prop where
  notNull : metadata.notNull = true ↔ ∃ tag ∈ own ++ behind, tag.isNotNull = true
  ignored : metadata.ignored = true ↔ .ignore ∈ own ++ behind ∨ leftOut
  description : ∀ text, metadata.description = some text ↔
    Prevails (FirstOf .description) own behind text
  deprecated : ∀ deprecation, metadata.deprecated = some deprecation ↔
    Prevails FirstDeprecation own behind deprecation
  nameOverride : ∀ name, metadata.nameOverride = some name ↔
    Prevails (FirstOf .rename) own behind name
  roles : ∀ roles, metadata.roles = some roles ↔ Prevails (FirstOf .secured) own behind roles
  default : ∀ spec, metadata.default = some spec ↔ Prevails FirstDefault own behind spec

variable {α β : Type}

theorem findSome_eq_some_iff {sort : β → Tag} {content : β → α} {read : Tag → Option α}
    (reads : ∀ tag value, read tag = some value ↔ ∃ raw, sort raw = tag ∧ content raw = value)
    (tags : List Tag) (value : α) :
    tags.findSome? read = some value ↔ ∃ raw, FirstOf sort tags raw ∧ content raw = value := by
  have silent : ∀ before : List Tag,
      (∀ tag ∈ before, read tag = none) ↔ ∀ other, sort other ∉ before := by
    intro before
    simp only [Option.eq_none_iff_forall_ne_some, ne_eq, reads]
    constructor
    · intro nothing other member
      exact nothing _ member _ ⟨other, rfl, rfl⟩
    · rintro absent _ member value ⟨other, rfl, -⟩
      exact absent other member
  rw [List.findSome?_eq_some_iff]
  constructor
  · rintro ⟨before, tag, after, rfl, given, nothing⟩
    obtain ⟨raw, rfl, same⟩ := (reads _ _).1 given
    exact ⟨raw, ⟨before, after, rfl, (silent before).1 nothing⟩, same⟩
  · rintro ⟨raw, ⟨before, after, rfl, absent⟩, same⟩
    exact ⟨before, sort raw, after, rfl, (reads _ _).2 ⟨raw, rfl, same⟩, (silent before).2 absent⟩

theorem findSome_eq_some_iff_firstOf {sort : α → Tag} {read : Tag → Option α}
    (reads : ∀ tag value, read tag = some value ↔ sort value = tag) (tags : List Tag) (value : α) :
    tags.findSome? read = some value ↔ FirstOf sort tags value := by
  have itself : ∀ tag value, read tag = some value ↔ ∃ raw, sort raw = tag ∧ id raw = value := by
    simp [reads]
  simpa using findSome_eq_some_iff itself tags value

theorem description_reads (tag : Tag) (text : String) :
    description? tag = some text ↔ .description text = tag := by
  cases tag <;> simp [description?, eq_comm]

theorem rename_reads (tag : Tag) (name : String) :
    rename? tag = some name ↔ .rename name = tag := by
  cases tag <;> simp [rename?, eq_comm]

theorem roles_reads (tag : Tag) (roles : List String) :
    roles? tag = some roles ↔ .secured roles = tag := by
  cases tag <;> simp [roles?, eq_comm]

theorem deprecation_reads (tag : Tag) (deprecation : Deprecation) :
    deprecation? tag = some deprecation ↔ ∃ reason, .deprecated reason = tag ∧
      ⟨reason.filter fun text => !text.isEmpty⟩ = deprecation := by
  cases tag <;> simp [deprecation?]

theorem defaultText_reads (tag : Tag) (spec : DefaultSpec) :
    defaultText? tag = some spec ↔ ∃ text, .default text = tag ∧ .text text = spec := by
  cases tag <;> simp [defaultText?]

theorem default_eq_some_iff (tags : List Tag) (spec : DefaultSpec) :
    default? tags = some spec ↔ FirstDefault tags spec := by
  have texts := findSome_eq_some_iff defaultText_reads tags
  by_cases null : .defaultNull ∈ tags
  · rw [default?, if_pos (List.contains_iff_mem.2 null)]
    cases spec <;> simp [FirstDefault, null]
  · rw [default?, if_neg (fun has => null (List.contains_iff_mem.1 has)), texts]
    cases spec <;> simp [FirstDefault, null]

theorem or_eq_some_iff {gives : List Tag → α → Prop} {read : List Tag → Option α}
    (reads : ∀ tags value, read tags = some value ↔ gives tags value) (own behind : List Tag)
    (value : α) : (read own).or (read behind) = some value ↔ Prevails gives own behind value := by
  rw [Option.or_eq_some_iff, Option.eq_none_iff_forall_ne_some, Prevails]
  simp only [ne_eq, reads]

theorem gathers_or (own behind : List Tag) (leftOut : Bool) :
    Gathers ((ofTags own).or
        { ofTags behind with ignored := (ofTags behind).ignored || leftOut })
      own behind (leftOut = true) where
  notNull := by
    rw [← List.any_eq_true, List.any_append]
    exact Iff.rfl
  ignored := by
    have places : (own.contains .ignore || (behind.contains .ignore || leftOut)) = true ↔
        .ignore ∈ own ++ behind ∨ leftOut = true := by
      simp [or_assoc]
    exact places
  description := or_eq_some_iff (findSome_eq_some_iff_firstOf description_reads) own behind
  deprecated := or_eq_some_iff (findSome_eq_some_iff deprecation_reads) own behind
  nameOverride := or_eq_some_iff (findSome_eq_some_iff_firstOf rename_reads) own behind
  roles := or_eq_some_iff (findSome_eq_some_iff_firstOf roles_reads) own behind
  default := or_eq_some_iff default_eq_some_iff own behind

end Metadata

namespace Storage

def tagsOf (field : Option StorageField) : List Tag :=
  field.elim [] fun field => field.tags ++ field.type.tags

theorem metadata_eq (storage : Storage) (name : String) :
    storage.metadata name =
      { Metadata.ofTags (tagsOf (storage.field? name)) with
        ignored := (Metadata.ofTags (tagsOf (storage.field? name))).ignored ||
          storage.isIgnored name } := by
  rw [metadata]
  cases storage.field? name <;> rfl

/-- What accessors are tagged with goes before what the storage field is tagged with. The field is the
nearest one up the chain of parents; nullability and exclusion hold when a tag of either asks for them,
and an accessor is also excluded where its type leaves out the name in this role. -/
theorem metadata_gathered (catalog : Catalog) (owner : TypeDescriptor) (kind : TypeKind)
    (method : Method) (name : String) :
    let storage := Storage.ofOwner catalog owner kind
    (∀ field, storage.field? name = some field ↔ catalog.NearestField owner name field) ∧
    (storage.methodMetadata method name).Gathers method.tags (tagsOf (storage.field? name))
      (owner.LeavesOut name kind) ∧
    (storage.setterMetadata method name).Gathers (method.tags ++ method.params.flatMap (·.tags))
      (tagsOf (storage.field? name)) (owner.LeavesOut name kind) := by
  have leavesOut : (Storage.ofOwner catalog owner kind).isIgnored name = true ↔
      owner.LeavesOut name kind := by
    rw [isIgnored, List.contains_iff_mem]
    exact TypeDescriptor.mem_ignoredNames_iff
  refine ⟨fun field => Catalog.find_ofOwner_iff, ?_, ?_⟩
  · rw [methodMetadata, metadata_eq, ← propext leavesOut]
    exact Metadata.gathers_or _ _ _
  · rw [setterMetadata, metadata_eq, ← propext leavesOut]
    exact Metadata.gathers_or _ _ _

example :
    let text : TypeUse := .atom (.boxed .string) [.notNull]
    let car : TypeDescriptor := { key := ⟨"Car"⟩, parent := some ⟨⟨"Vehicle"⟩, []⟩ }
    let vehicle : TypeDescriptor := {
      key := ⟨"Vehicle"⟩
      parent := some ⟨⟨"Car"⟩, []⟩
      fields := [⟨"model", text, [.default "T", .rename "make"]⟩, ⟨"model", text, [.ignore]⟩] }
    (Storage.ofOwner (.ofTypes [car, vehicle]) car .object).methodMetadata
        { name := "getModel", tags := [.defaultNull] } "model" =
      { notNull := true, nameOverride := some "make", default := some .null } := by
  decide +kernel

end Storage

end SchemaDiscovery
