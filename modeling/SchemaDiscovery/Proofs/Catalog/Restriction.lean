import SchemaDiscovery.Catalog.Implementations
import SchemaDiscovery.Proofs.Catalog.Classification
import SchemaDiscovery.Proofs.Catalog.Mention
/-!
A catalog cut down to some of its keys. Main statement: where the types that are left mention no key that
was taken away, and no implementation was, each question about such types has the answer that it had.
-/

namespace SchemaDiscovery

namespace Catalog

def restrict (catalog : Catalog) (shown : TypeKey → Bool) : Catalog :=
  ⟨catalog.types.filter fun type => shown type.key⟩

/-- The shown types mention shown keys only, and the implementations are among them. -/
structure Confined (catalog : Catalog) (shown : TypeKey → Bool) : Prop where
  mentions : ∀ type ∈ (catalog.restrict shown).types, ∀ key ∈ type.mentions, shown key
  candidates : ∀ type ∈ catalog.types, type.hasImplementationTag → shown type.key

end Catalog

variable {shown : TypeKey → Bool}

theorem find_shown (types : List TypeDescriptor) {key : TypeKey} (visible : shown key) :
    (types.filter fun type => shown type.key).find? (·.key = key) = types.find? (·.key = key) := by
  rw [List.find?_filter]
  refine congrArg (types.find? ·) (funext fun type => ?_)
  by_cases same : type.key = key <;> simp [same, visible]

theorem withoutKey_shown (key : TypeKey) (types : List TypeDescriptor) :
    withoutKey key (types.filter fun type => shown type.key) =
      (withoutKey key types).filter fun type => shown type.key := by
  rw [withoutKey, withoutKey, List.filter_filter, List.filter_filter]
  simp only [Bool.and_comm]

theorem nextUnvisited_shown (unvisited : List TypeDescriptor) {queue : List Supertype}
    (visible : ∀ reference ∈ queue, shown reference.key) :
    nextUnvisited? (unvisited.filter fun type => shown type.key) queue =
      nextUnvisited? unvisited queue := by
  induction queue with
  | nil => rfl
  | cons reference queue ih =>
    obtain ⟨here, later⟩ := List.forall_mem_cons.1 visible
    rw [nextUnvisited?, nextUnvisited?, find_shown unvisited here, ih later]

def Ancestor.mentions (ancestor : Ancestor) : List TypeKey :=
  ancestor.type.mentions ++ ancestor.bindings.mentions

theorem Ancestor.mentions_supertypes (ancestor : Ancestor) :
    ancestor.supertypes.flatMap (·.mentions) ⊆ ancestor.mentions := by
  intro key member
  obtain ⟨_, refers, mentioned⟩ := List.mem_flatMap.1 member
  obtain ⟨supertype, present, rfl⟩ := List.mem_map.1 refers
  have declared : supertype.mentions ⊆ ancestor.type.mentions := by
    intro other here
    refine List.mem_append_left _ (List.mem_append_left _ ?_)
    exact List.mem_flatMap.2 ⟨supertype, present, here⟩
  rcases List.mem_cons.1 mentioned with rfl | argument
  · exact List.mem_append_left _ (declared List.mem_cons_self)
  · rcases List.mem_append.1 (Bindings.mentions_applyAll _ _ argument) with own | put
    · exact List.mem_append_left _ (declared (List.mem_cons_of_mem _ own))
    · exact List.mem_append_right _ put

theorem visit_shown {unvisited : List TypeDescriptor} {queue : List Supertype}
    (confined : ∀ type ∈ unvisited, shown type.key → ∀ key ∈ type.mentions, shown key)
    (visible : ∀ key ∈ queue.flatMap (·.mentions), shown key) :
    visit (unvisited.filter fun type => shown type.key) queue = visit unvisited queue ∧
      ∀ ancestor ∈ visit unvisited queue,
        shown ancestor.type.key ∧ ∀ key ∈ ancestor.mentions, shown key := by
  have keys {queue : List Supertype} (visible : ∀ key ∈ queue.flatMap (·.mentions), shown key) :
      ∀ reference ∈ queue, shown reference.key := by
    intro reference present
    exact visible _ (List.mem_flatMap.2 ⟨reference, present, List.mem_cons_self⟩)
  fun_induction visit unvisited queue with
  | case1 unvisited queue stuck =>
    rw [visit, nextUnvisited_shown unvisited (keys visible), stuck]
    exact ⟨rfl, List.forall_mem_nil _⟩
  | case2 unvisited queue reference type rest found ancestor ih =>
    obtain ⟨-, queued, kept, -⟩ := nextUnvisited_some found
    obtain ⟨present, named⟩ := nextUnvisited_mem found
    have own : shown type.key := by
      rw [named]
      exact keys visible reference queued
    have within : ∀ key ∈ ancestor.mentions, shown key := by
      intro key member
      rcases List.mem_append.1 member with declared | bound
      · exact confined type present own key declared
      · refine visible key (List.mem_flatMap.2 ⟨reference, queued, ?_⟩)
        exact List.mem_cons_of_mem _ (Bindings.mentions_bind _ _ bound)
    have further : ∀ key ∈ (rest ++ ancestor.supertypes).flatMap (·.mentions), shown key := by
      intro key member
      rw [List.flatMap_append] at member
      rcases List.mem_append.1 member with waiting | refers
      · obtain ⟨other, later, mentioned⟩ := List.mem_flatMap.1 waiting
        exact visible key (List.mem_flatMap.2 ⟨other, kept later, mentioned⟩)
      · exact within key (ancestor.mentions_supertypes refers)
    obtain ⟨same, each⟩ := ih (fun other left => confined other (List.mem_filter.1 left).1) further
    constructor
    · rw [visit, nextUnvisited_shown unvisited (keys visible), found]
      simp only
      rw [withoutKey_shown, same]
    · intro other visited
      rcases List.mem_cons.1 visited with rfl | visited
      · exact ⟨own, within⟩
      · exact each other visited

namespace Catalog

variable {catalog : Catalog} {type : TypeDescriptor} {key : TypeKey}

theorem lookup_restrict (catalog : Catalog) (visible : shown key) :
    (catalog.restrict shown).lookup? key = catalog.lookup? key :=
  find_shown catalog.types visible

theorem require_restrict (catalog : Catalog) (visible : shown key) :
    (catalog.restrict shown).require key = catalog.require key := by
  rw [require, require, lookup_restrict catalog visible]

theorem mem_restrict_of_lookup (visible : shown key) (found : catalog.lookup? key = some type) :
    type ∈ (catalog.restrict shown).types := by
  rw [← lookup_restrict catalog visible] at found
  exact mem_of_lookup found

theorem shown_of_mem_restrict (present : type ∈ (catalog.restrict shown).types) :
    shown type.key :=
  (List.mem_filter.1 present).2

namespace Confined

theorem candidates_restrict (confined : catalog.Confined shown) :
    (catalog.restrict shown).candidates = catalog.candidates := by
  rw [Catalog.candidates, restrict, List.filter_filter, Catalog.candidates]
  congr 1
  refine List.filter_congr fun type present => ?_
  by_cases tagged : type.hasImplementationTag
  · simp [confined.candidates type present tagged]
  · simp [tagged]

variable (confined : catalog.Confined shown) (present : type ∈ (catalog.restrict shown).types)

include confined present

theorem ancestors_shown :
    (catalog.restrict shown).ancestors type = catalog.ancestors type ∧
      ∀ ancestor ∈ catalog.ancestors type,
        shown ancestor.type.key ∧ ∀ key ∈ ancestor.mentions, shown key := by
  rw [ancestors, restrict, withoutKey_shown]
  refine visit_shown ?_ ?_
  · intro other left visible
    have known : other ∈ catalog.types := (List.mem_filter.1 left).1
    exact confined.mentions other (List.mem_filter.2 ⟨known, visible⟩)
  · intro key refers
    have mentioned := (Ancestor.mk type []).mentions_supertypes refers
    rcases List.mem_append.1 mentioned with declared | bound
    · exact confined.mentions type present key declared
    · cases bound

theorem lineage_restrict : (catalog.restrict shown).lineage type = catalog.lineage type := by
  rw [lineage, (confined.ancestors_shown present).1, lineage]

theorem lineage_shown : ∀ ancestor ∈ catalog.lineage type, ∀ key ∈ ancestor.mentions, shown key := by
  intro ancestor member key mentioned
  rcases List.mem_cons.1 member with rfl | member
  · rcases List.mem_append.1 mentioned with declared | bound
    · exact confined.mentions type present key declared
    · cases bound
  · exact ((confined.ancestors_shown present).2 ancestor member).2 key mentioned

theorem implementedInterface_restrict :
    (catalog.restrict shown).implementedInterface? type = catalog.implementedInterface? type := by
  rw [implementedInterface?, (confined.ancestors_shown present).1, implementedInterface?]

theorem implementedInterface_shown {interface : TypeDescriptor}
    (declared : catalog.implementedInterface? type = some interface) : shown interface.key := by
  rw [implementedInterface?, Option.ite_none_right_eq_some] at declared
  obtain ⟨ancestor, found, rfl⟩ := Option.map_eq_some_iff.1 declared.2
  exact ((confined.ancestors_shown present).2 ancestor (List.mem_of_find?_eq_some found)).1

theorem methodsOf_restrict (filter : Method → Bool) :
    (catalog.restrict shown).methodsOf type filter = catalog.methodsOf type filter := by
  rw [methodsOf, declarations, confined.lineage_restrict present, methodsOf, declarations]

theorem methodsOf_shown {filter : Method → Bool} :
    ∀ collected ∈ catalog.methodsOf type filter, ∀ key ∈ collected.method.mentions, shown key := by
  intro collected member key mentioned
  obtain ⟨declaration, kept, rfl⟩ := List.mem_map.1 member
  have declared := firstDeclarations_subset _ _ (List.mem_filter.1 kept).1
  obtain ⟨ancestor, descends, own⟩ := List.mem_flatMap.1 declared
  obtain ⟨method, listed, rfl⟩ := List.mem_map.1 own
  refine confined.lineage_shown present ancestor descends key ?_
  rcases List.mem_append.1 (Bindings.mentions_applyToMethod _ _ mentioned) with here | put
  · refine List.mem_append_left _ (List.mem_append_right _ ?_)
    exact List.mem_flatMap.2 ⟨method, listed, here⟩
  · exact List.mem_append_right _ put

end Confined

theorem parentChain_shown {unvisited : List TypeDescriptor}
    (confined : ∀ type ∈ unvisited, shown type.key → ∀ key ∈ type.mentions, shown key)
    (visible : ∀ key ∈ type.mentions, shown key) :
    SchemaDiscovery.parentChain (unvisited.filter fun type => shown type.key) type =
      SchemaDiscovery.parentChain unvisited type := by
  have sought {unvisited : List TypeDescriptor} {type : TypeDescriptor}
      (visible : ∀ key ∈ type.mentions, shown key) :
      (type.parent.bind fun parent =>
        (unvisited.filter fun type => shown type.key).find? (·.key = parent.key)) =
      type.parent.bind fun parent => unvisited.find? (·.key = parent.key) := by
    cases parent : type.parent with
    | none => rfl
    | some supertype =>
      refine find_shown unvisited (visible _ ?_)
      simp [TypeDescriptor.mentions, TypeDescriptor.supertypes, parent, Supertype.mentions]
  fun_induction SchemaDiscovery.parentChain unvisited type with
  | case1 unvisited type stuck =>
    rw [SchemaDiscovery.parentChain, sought visible, stuck]
  | case2 unvisited type parent found ih =>
    obtain ⟨supertype, refers, hit⟩ := Option.bind_eq_some_iff.1 found
    have named : parent.key = supertype.key := by simpa using List.find?_some hit
    have own : shown parent.key := by
      rw [named]
      apply visible
      simp [TypeDescriptor.mentions, TypeDescriptor.supertypes, refers, Supertype.mentions]
    have rest := ih (fun other left => confined other (List.mem_filter.1 left).1)
      (confined parent (List.mem_of_find?_eq_some hit) own)
    rw [SchemaDiscovery.parentChain, sought visible, found]
    simp only
    rw [withoutKey_shown, rest]

namespace Confined

section

variable (confined : catalog.Confined shown) (present : type ∈ (catalog.restrict shown).types)

include confined present

theorem ofOwner_restrict (kind : TypeKind) :
    Storage.ofOwner (catalog.restrict shown) type kind = Storage.ofOwner catalog type kind := by
  have chain : (catalog.restrict shown).parentChain type = catalog.parentChain type := by
    rw [Catalog.parentChain, restrict, withoutKey_shown]
    refine parentChain_shown ?_ (confined.mentions type present)
    intro other left visible
    have known : other ∈ catalog.types := (List.mem_filter.1 left).1
    exact confined.mentions other (List.mem_filter.2 ⟨known, visible⟩)
  rw [Storage.ofOwner, chain, Storage.ofOwner]

theorem inputFieldsOf_restrict :
    (catalog.restrict shown).inputFieldsOf type = catalog.inputFieldsOf type := by
  rw [inputFieldsOf, confined.methodsOf_restrict present, confined.ofOwner_restrict present,
    inputFieldsOf]

theorem inputFieldsOf_shown :
    ∀ field ∈ catalog.inputFieldsOf type, ∀ key ∈ field.type.mentions, shown key := by
  intro field member key mentioned
  obtain ⟨collected, listed, made⟩ := List.mem_filterMap.1 member
  simp only [Storage.inputField?, Option.bind_eq_bind, Option.bind_eq_some_iff,
    Option.ite_none_left_eq_some, Option.pure_def, Option.some.injEq] at made
  obtain ⟨name, -, -, param, first, rfl⟩ := made
  refine confined.methodsOf_shown present collected listed key (List.mem_append_left _ ?_)
  exact List.mem_flatMap.2 ⟨param, List.mem_of_mem_head? first, mentioned⟩

end

variable (confined : catalog.Confined shown)

include confined

theorem isSubtype_restrict (visible : shown key) (target : TypeKey) :
    (catalog.restrict shown).isSubtype key target = catalog.isSubtype key target := by
  rw [isSubtype, lookup_restrict catalog visible, isSubtype]
  cases found : catalog.lookup? key with
  | none => rfl
  | some type =>
    simp only [confined.lineage_restrict (mem_restrict_of_lookup visible found)]

theorem candidate_shown (member : key ∈ catalog.candidates) : shown key := by
  obtain ⟨type, kept, rfl⟩ := List.mem_map.1 member
  obtain ⟨known, tagged⟩ := List.mem_filter.1 kept
  exact confined.candidates type known tagged

theorem implementationsOf_restrict (config : Config) (interface : TypeDescriptor) :
    (catalog.restrict shown).implementationsOf config interface =
      catalog.implementationsOf config interface := by
  rw [implementationsOf, candidatesWithin, confined.candidates_restrict, implementationsOf,
    candidatesWithin, implementers, implementers]
  refine List.filter_congr fun key member => ?_
  rw [confined.isSubtype_restrict (confined.candidate_shown (List.mem_filter.1 member).1)]

theorem implementationsOf_shown {config : Config} {interface : TypeDescriptor}
    (scanned : key ∈ catalog.implementationsOf config interface) : shown key :=
  confined.candidate_shown (List.mem_filter.1 (List.mem_filter.1 scanned).1).1

end Confined

theorem classify_restrict (catalog : Catalog) {use : TypeUse}
    (visible : ∀ key ∈ use.mentions, shown key) :
    (catalog.restrict shown).classify use = catalog.classify use := by
  unfold classify
  split <;> try rfl
  rw [require_restrict catalog (visible _ (List.mem_singleton.2 rfl))]

theorem mem_restrict_of_classify {use : TypeUse} {classification : Classification}
    (visible : ∀ key ∈ use.mentions, shown key)
    (classified : catalog.classify use = .ok classification)
    (names : classification = .enum type ∨ classification = .named type) :
    type ∈ (catalog.restrict shown).types := by
  have spells := spells_of_classify classified
  have known : ∃ key tags, use = .atom (.named key) tags ∧ catalog.lookup? key = some type := by
    rcases names with rfl | rfl
    · obtain ⟨key, tags, same, found, -⟩ := spells
      exact ⟨key, tags, same, found⟩
    · obtain ⟨key, tags, same, found, -⟩ := spells
      exact ⟨key, tags, same, found⟩
  obtain ⟨key, tags, rfl, found⟩ := known
  exact mem_restrict_of_lookup (visible key (List.mem_singleton.2 rfl)) found

end Catalog

theorem ElementOf.mentions_subset {element use : TypeUse} (part : ElementOf element use) :
    element.mentions ⊆ use.mentions := by
  cases part
  simp [TypeUse.mentions, TypeUse.mentionsAll]

end SchemaDiscovery
