import SchemaDiscovery.Methods.Inherited
/-!
What a lineage holds. Main statements: a lineage is closed under supertypes and holds nothing that a
chain of them does not lead to, so the lineage of a type holds those of the types in it, and every
method name that they declare.
-/

namespace SchemaDiscovery

theorem find_withoutKey (key other : TypeKey) (types : List TypeDescriptor) :
    (withoutKey key types).find? (·.key = other) =
      if other = key then none else types.find? (·.key = other) := by
  induction types with
  | nil => simp [withoutKey]
  | cons type types ih =>
    rw [withoutKey] at ih ⊢
    by_cases dropped : type.key = key
    · rw [List.filter_cons_of_neg (by simp [dropped]), ih, List.find?_cons]
      by_cases same : other = key
      · simp [same]
      · have : ¬ type.key = other := fun here => same (here.symm.trans dropped)
        simp [same, this]
    · rw [List.filter_cons_of_pos (by simp [dropped]), List.find?_cons, List.find?_cons, ih]
      by_cases here : type.key = other
      · have : ¬ other = key := fun same => dropped (here.trans same)
        simp [here, this]
      · simp [here]

theorem nextUnvisited_some {unvisited : List TypeDescriptor} {queue rest : List Supertype}
    {reference : Supertype} {type : TypeDescriptor}
    (found : nextUnvisited? unvisited queue = some (reference, type, rest)) :
    unvisited.find? (·.key = type.key) = some type ∧ reference ∈ queue ∧ rest ⊆ queue ∧
      ∀ other ∈ queue, (unvisited.find? (·.key = other.key)).isSome →
        other.key = type.key ∨ other ∈ rest := by
  induction queue with
  | nil => cases found
  | cons head queue ih =>
    rw [nextUnvisited?] at found
    split at found
    · next hit =>
      cases found
      have named : type.key = reference.key := by simpa using List.find?_some hit
      refine ⟨by rw [named, hit], List.mem_cons_self, List.subset_cons_self _ _, ?_⟩
      intro other member _
      rcases List.mem_cons.1 member with rfl | member
      · exact .inl named.symm
      · exact .inr member
    · next miss =>
      obtain ⟨hit, present, kept, others⟩ := ih found
      refine ⟨hit, List.mem_cons_of_mem _ present, List.subset_cons_of_subset _ kept, ?_⟩
      intro other member some
      rcases List.mem_cons.1 member with rfl | member
      · rw [miss] at some
        cases some
      · exact others other member some

theorem nextUnvisited_none {unvisited : List TypeDescriptor} {queue : List Supertype}
    (stuck : nextUnvisited? unvisited queue = none) :
    ∀ other ∈ queue, unvisited.find? (·.key = other.key) = none := by
  induction queue with
  | nil => exact nofun
  | cons head queue ih =>
    rw [nextUnvisited?] at stuck
    split at stuck
    · cases stuck
    · next miss =>
      intro other member
      rcases List.mem_cons.1 member with rfl | member
      · exact miss
      · exact ih stuck other member

@[simp] theorem Ancestor.keys_supertypes (ancestor : Ancestor) :
    ancestor.supertypes.map (·.key) = ancestor.type.supertypes.map (·.key) := by
  simp [Ancestor.supertypes]

theorem visit_closed {unvisited : List TypeDescriptor} {queue : List Supertype} {key : TypeKey}
    {type : TypeDescriptor} (present : unvisited.find? (·.key = key) = some type)
    (named : key ∈ queue.map (·.key) ∨
      ∃ ancestor ∈ visit unvisited queue, key ∈ ancestor.type.supertypes.map (·.key)) :
    ∃ ancestor ∈ visit unvisited queue, ancestor.type = type := by
  fun_induction visit unvisited queue with
  | case1 unvisited queue stuck =>
    rcases named with waiting | ⟨_, visited, _⟩
    · obtain ⟨other, member, rfl⟩ := List.mem_map.1 waiting
      rw [nextUnvisited_none stuck other member] at present
      cases present
    · cases visited
  | case2 unvisited queue reference next rest found ancestor ih =>
    obtain ⟨hit, -, -, others⟩ := nextUnvisited_some found
    by_cases same : key = next.key
    · subst same
      rw [hit] at present
      exact ⟨ancestor, List.mem_cons_self, Option.some_inj.1 present⟩
    · have later : (withoutKey next.key unvisited).find? (·.key = key) = some type := by
        rw [find_withoutKey, if_neg same, present]
      -- A key that the new ancestor refers to waits behind those that waited already.
      have waiting : key ∈ (rest ++ ancestor.supertypes).map (·.key) ∨
          ∃ other ∈ visit (withoutKey next.key unvisited) (rest ++ ancestor.supertypes),
            key ∈ other.type.supertypes.map (·.key) := by
        rcases named with queued | ⟨other, visited, refers⟩
        · obtain ⟨other, member, rfl⟩ := List.mem_map.1 queued
          have further := (others other member (by rw [present]; rfl)).resolve_left same
          exact .inl (List.mem_map_of_mem (List.mem_append_left _ further))
        · rcases List.mem_cons.1 visited with rfl | visited
          · rw [List.map_append, Ancestor.keys_supertypes]
            exact .inl (List.mem_append_right _ refers)
          · exact .inr ⟨other, visited, refers⟩
      obtain ⟨other, visited, reached⟩ := ih later waiting
      exact ⟨other, List.mem_cons_of_mem _ visited, reached⟩

theorem visit_sound (property : TypeDescriptor → Prop) {unvisited : List TypeDescriptor}
    {queue : List Supertype}
    (supertypes : ∀ type, property type → ∀ key ∈ type.supertypes.map (·.key), ∀ next,
      unvisited.find? (·.key = key) = some next → property next)
    (start : ∀ key ∈ queue.map (·.key), ∀ next,
      unvisited.find? (·.key = key) = some next → property next) :
    ∀ ancestor ∈ visit unvisited queue, property ancestor.type := by
  fun_induction visit unvisited queue with
  | case1 => exact nofun
  | case2 unvisited queue reference next rest found ancestor ih =>
    obtain ⟨hit, present, kept, -⟩ := nextUnvisited_some found
    have named := (nextUnvisited_mem found).2
    have holds : property next :=
      start next.key (by rw [named]; exact List.mem_map_of_mem present) next hit
    have fewer {key : TypeKey} {type : TypeDescriptor}
        (left : (withoutKey next.key unvisited).find? (·.key = key) = some type) :
        unvisited.find? (·.key = key) = some type := by
      rw [find_withoutKey] at left
      split at left
      · cases left
      · exact left
    intro other visited
    rcases List.mem_cons.1 visited with rfl | visited
    · exact holds
    · refine ih ?_ ?_ other visited
      · intro type known key refers further left
        exact supertypes type known key refers further (fewer left)
      · intro key queued further left
        rw [List.map_append, Ancestor.keys_supertypes] at queued
        rcases List.mem_append.1 queued with waiting | refers
        · exact start key (List.map_subset _ kept waiting) further (fewer left)
        · exact supertypes next holds key refers further (fewer left)

namespace Catalog

variable {catalog : Catalog} {type other : TypeDescriptor}

/-- The types of a lineage. -/
def Descends (catalog : Catalog) (type other : TypeDescriptor) : Prop :=
  ∃ ancestor ∈ catalog.lineage type, ancestor.type = other

theorem descends_refl (catalog : Catalog) (type : TypeDescriptor) : catalog.Descends type type :=
  ⟨⟨type, []⟩, List.mem_cons_self, rfl⟩

theorem descends_supertype {key : TypeKey} {next : TypeDescriptor}
    (present : catalog.lookup? type.key = some type) (descends : catalog.Descends type other)
    (refers : key ∈ other.supertypes.map (·.key)) (found : catalog.lookup? key = some next) :
    catalog.Descends type next := by
  by_cases same : key = type.key
  · rw [same, present] at found
    cases found
    exact catalog.descends_refl type
  · have left : (withoutKey type.key catalog.types).find? (·.key = key) = some next := by
      rw [find_withoutKey, if_neg same]
      exact found
    have named : key ∈ (Ancestor.mk type []).supertypes.map (·.key) ∨
        ∃ ancestor ∈ catalog.ancestors type, key ∈ ancestor.type.supertypes.map (·.key) := by
      obtain ⟨ancestor, member, rfl⟩ := descends
      rcases List.mem_cons.1 member with rfl | member
      · rw [Ancestor.keys_supertypes]
        exact .inl refers
      · exact .inr ⟨ancestor, member, refers⟩
    obtain ⟨ancestor, visited, rfl⟩ := visit_closed left named
    exact ⟨ancestor, List.mem_cons_of_mem _ visited, rfl⟩

theorem holds_of_descends (property : TypeDescriptor → Prop)
    (supertypes : ∀ type, property type → ∀ key ∈ type.supertypes.map (·.key), ∀ next,
      catalog.lookup? key = some next → property next)
    (start : property type) (descends : catalog.Descends type other) : property other := by
  have kept {key : TypeKey} {next : TypeDescriptor}
      (left : (withoutKey type.key catalog.types).find? (·.key = key) = some next) :
      catalog.lookup? key = some next := by
    rw [find_withoutKey] at left
    split at left
    · cases left
    · exact left
  obtain ⟨ancestor, member, rfl⟩ := descends
  rcases List.mem_cons.1 member with rfl | member
  · exact start
  · refine visit_sound property ?_ ?_ ancestor member
    · exact fun type known key refers next left => supertypes type known key refers next (kept left)
    · intro key queued next left
      rw [Ancestor.keys_supertypes] at queued
      exact supertypes type start key queued next (kept left)

theorem lookup_of_descends (present : catalog.lookup? type.key = some type)
    (descends : catalog.Descends type other) : catalog.lookup? other.key = some other := by
  refine holds_of_descends (fun type => catalog.lookup? type.key = some type) ?_ present descends
  intro type _ key _ next found
  rw [key_of_lookup found, found]

theorem descends_of_isSubtype {target : TypeDescriptor}
    (present : catalog.lookup? type.key = some type)
    (known : catalog.lookup? target.key = some target)
    (assignable : catalog.isSubtype type.key target.key) : catalog.Descends type target := by
  rw [isSubtype, Bool.or_eq_true, decide_eq_true_iff, present] at assignable
  rcases assignable with same | chain
  · rw [same, known] at present
    cases present
    exact catalog.descends_refl _
  · obtain ⟨ancestor, member, refers⟩ := List.any_eq_true.1 chain
    obtain ⟨supertype, there, same⟩ := List.any_eq_true.1 refers
    refine descends_supertype present ⟨ancestor, member, rfl⟩ ?_ known
    exact List.mem_map.2 ⟨supertype, there, by simpa using same⟩

theorem implementedInterface_some {interface : TypeDescriptor}
    (implemented : catalog.implementedInterface? type = some interface) :
    catalog.Descends type interface ∧ interface.hasInterfaceTag = true := by
  rw [implementedInterface?, Option.ite_none_right_eq_some] at implemented
  obtain ⟨ancestor, found, rfl⟩ := Option.map_eq_some_iff.1 implemented.2
  exact ⟨⟨ancestor, List.mem_cons_of_mem _ (List.mem_of_find?_eq_some found), rfl⟩,
    by simpa using List.find?_some found⟩

/-- The nearest declaration of each method name of a type. -/
def nearest (catalog : Catalog) (type : TypeDescriptor) : List Declaration :=
  firstDeclarations [] (catalog.declarations type)

end Catalog

theorem firstDeclarations_subset (seen : List String) (declarations : List Declaration) :
    firstDeclarations seen declarations ⊆ declarations := by
  induction declarations generalizing seen with
  | nil => exact List.nil_subset _
  | cons declaration declarations ih =>
    rw [firstDeclarations]
    split
    · exact List.subset_cons_of_subset _ (ih seen)
    · exact List.cons_subset_cons _ (ih _)

theorem exists_firstDeclaration {seen : List String} {declarations : List Declaration}
    {declaration : Declaration} (member : declaration ∈ declarations)
    (fresh : declaration.method.name ∉ seen) :
    ∃ first ∈ firstDeclarations seen declarations,
      first.method.name = declaration.method.name := by
  induction declarations generalizing seen with
  | nil => cases member
  | cons head declarations ih =>
    rw [firstDeclarations]
    split
    · next known =>
      rcases List.mem_cons.1 member with rfl | member
      · exact absurd (by simpa using known) fresh
      · exact ih member fresh
    · by_cases same : declaration.method.name = head.method.name
      · exact ⟨head, List.mem_cons_self, same.symm⟩
      · rcases List.mem_cons.1 member with rfl | member
        · exact absurd rfl same
        · obtain ⟨first, present, named⟩ := ih member
            (show declaration.method.name ∉ head.method.name :: seen by simp [same, fresh])
          exact ⟨first, List.mem_cons_of_mem _ present, named⟩

namespace Catalog

variable {catalog : Catalog} {type other : TypeDescriptor}

theorem mem_declarations {declaration : Declaration} :
    declaration ∈ catalog.declarations type ↔
      declaration.ancestor ∈ catalog.lineage type ∧
        declaration.method ∈ declaration.ancestor.type.methods := by
  rw [declarations, List.mem_flatMap]
  constructor
  · rintro ⟨ancestor, member, here⟩
    obtain ⟨method, declared, rfl⟩ := List.mem_map.1 here
    exact ⟨member, declared⟩
  · rintro ⟨member, declared⟩
    exact ⟨declaration.ancestor, member, List.mem_map_of_mem declared⟩

end Catalog

end SchemaDiscovery
