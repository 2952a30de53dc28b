import SchemaDiscovery.Proofs.Schema.Inheritance
/-!
The dictionary of implementations. Main statement: apart from the root types it has an entry for just those
objects whose full definition names an interface, in the order of these definitions, and each entry gives
a type of the catalog that goes by the name.
-/

namespace SchemaDiscovery

structure Definition.Implements (object : Definition) (name : String) : Prop where
  full : object.fullName? .object = some name
  names : object.implements ≠ []

namespace Discovery

variable {start finish : Discovery} {name : String} {type : Option TypeDescriptor}
  {implements : Option String} {fields : List BoundField} {definition : Option Definition}

inductive Lists (start : Discovery) (type : Option TypeDescriptor) (name : String)
    (definitions : List Definition) (finish : Discovery) : Prop
  | kept (same : finish.implementations = start.implementations)
    (defined : start.definedObjects <:+ finish.definedObjects)
    (plain : type = none ∨ ∀ object ∈ definitions, ∀ found, ¬ object.Implements found)
  | added {source : TypeDescriptor} {object : Definition} (typed : type = some source)
    (one : definitions = [object]) (implements : object.Implements name)
    (fresh : name ∉ start.definedObjects)
    (listed : finish.implementations =
      Ordered.put Prod.fst (name, source.key) start.implementations)
    (defined : finish.definedObjects = name :: start.definedObjects)

theorem not_implements_of_plain {object : Definition} (plain : object.implements = []) :
    ∀ other ∈ [object], ∀ found, ¬ other.Implements found := by
  intro other member found implements
  rw [List.mem_singleton.1 member] at implements
  exact implements.names plain

theorem defineObject_lists
    (defined : start.defineObject name type implements fields = (definition, finish)) :
    start.Lists type name definition.toList finish := by
  unfold defineObject at defined
  simp only [List.contains_iff_mem] at defined
  split at defined
  · -- An extension names no interface.
    split at defined
    · cases defined
      exact .kept rfl (List.suffix_refl _) (.inr fun _ member => absurd member List.not_mem_nil)
    · cases defined
      exact .kept rfl (List.suffix_refl _) (.inr (not_implements_of_plain rfl))
  · next fresh =>
    cases defined
    cases type with
    | none => exact .kept (by cases implements <;> rfl) (List.suffix_cons _ _) (.inl rfl)
    | some source =>
      cases implements with
      | none => exact .kept rfl (List.suffix_cons _ _) (.inr (not_implements_of_plain rfl))
      | some interface => exact .added rfl rfl ⟨rfl, List.cons_ne_nil _ _⟩ fresh rfl rfl

end Discovery

namespace Domain

variable {domain : Domain} {resolvers : List Resolver} {schema : Schema} {turn : Turn}
  {start finish : Discovery} {definitions : List Definition} {name : String}

def ObjectOf (domain : Domain) (name : String) (key : TypeKey) : Prop :=
  ∃ type, domain.catalog.lookup? key = some type ∧ type.kindWhen .object = .ok .object ∧
    type.schemaName .object = name

/-- What a step of the build does to the dictionary of implementations: an object is entered when it is
defined with an interface, unless it is a root type. -/
inductive Enters (domain : Domain) (turn : Turn) (start : Discovery)
    (definitions : List Definition) (finish : Discovery) : Prop
  | nothing (same : finish.implementations = start.implementations)
    (defined : start.definedObjects <:+ finish.definedObjects)
    (plain : ∀ object ∈ definitions, ∀ name, object.Implements name →
      turn.rootName? = some name)
  | object {name : String} {key : TypeKey} {object : Definition} (one : definitions = [object])
    (implements : object.Implements name) (source : domain.ObjectOf name key)
    (fresh : name ∉ start.definedObjects)
    (listed : finish.implementations = Ordered.put Prod.fst (name, key) start.implementations)
    (defined : finish.definedObjects = name :: start.definedObjects)

theorem Enters.of_lists {registry : Registry} {type : TypeDescriptor}
    (lists : { start with registry }.Lists (some type) name definitions finish)
    (source : domain.ObjectOf name type.key) :
    domain.Enters turn start definitions finish := by
  cases lists with
  | kept same defined plain =>
    exact .nothing same defined fun object member found implements =>
      absurd implements (plain.resolve_left nofun object member found)
  | added typed one implements fresh listed defined =>
    cases typed
    exact .object one implements source fresh listed defined

theorem Enters.of_other {definition : Definition} (kind : TypeKind) (different : kind ≠ .object)
    (same : finish.implementations = start.implementations)
    (defined : finish.definedObjects = start.definedObjects)
    (typed : definition.fullName? kind = some name) :
    domain.Enters turn start [definition] finish := by
  refine .nothing same (defined ▸ List.suffix_refl _) fun object member found implements => ?_
  rw [List.mem_singleton.1 member] at implements
  have other := Definition.fullName_other typed different.symm
  rw [implements.full] at other
  cases other

theorem Step.enters (step : domain.Step turn start definitions finish)
    (consistent : domain.Consistent start.registry) :
    domain.Enters turn start definitions finish := by
  cases step with
  | root role contributed defined =>
    have implements := Discovery.defineObject_implements defined
    cases Discovery.defineObject_lists defined with
    | kept same grown plain =>
      refine .nothing same grown fun object member found full => ?_
      rw [(implements object member found full.full).1]
      exact role
    | added typed => cases typed
  | @extension _ source name type _ _ found _ _ _ role discovered kind contributed present defined =>
    refine .of_lists (Discovery.defineObject_lists defined) ?_
    obtain ⟨⟨type', kind', known, chosen, named, recorded⟩, -⟩ := discover_ok discovered
    rw [kind] at recorded
    cases recorded
    rw [present] at known
    cases known
    rw [Catalog.key_of_lookup present]
    exact ⟨type, present, chosen, named.symm⟩
  | resolvedInterface role discovered kind contributed first present declared defined =>
    obtain ⟨-, rfl, rfl⟩ := Discovery.defineInterface_ok defined
    exact .of_other .interface nofun rfl rfl rfl
  | @object entry type _ _ opened _ _ _ popped kind present declared defined =>
    refine .of_lists (Discovery.defineObject_lists defined) ?_
    obtain ⟨rest, -, found, -⟩ := Registry.pop_some popped
    obtain ⟨type', known, chosen, named⟩ := consistent.sourced entry (Registry.find_mem found)
    rw [present] at known
    cases known
    rw [kind] at chosen named
    rw [Catalog.key_of_lookup present]
    exact ⟨type, present, chosen, named⟩
  | interface popped kind present declared defined =>
    obtain ⟨-, rfl, rfl⟩ := Discovery.defineInterface_ok defined
    exact .of_other .interface nofun rfl rfl rfl
  | builtInterface popped kind built resolved =>
    exact .nothing rfl (List.suffix_refl _) nofun
  | input popped kind present given =>
    exact .of_other .input nofun rfl rfl rfl
  | enum popped kind present =>
    exact .of_other .enum nofun rfl rfl rfl

/-- The dictionary so far belongs to the definitions so far. -/
structure Listed (domain : Domain) (taken : List Turn) (discovery : Discovery)
    (definitions : List Definition) : Prop where
  ordered : (discovery.implementations.map Prod.fst).Sublist discovery.definedObjects.reverse
  sourced : ∀ entry ∈ discovery.implementations, domain.ObjectOf entry.1 entry.2
  implementing : ∀ name ∈ discovery.implementations.map Prod.fst,
    ∃ object ∈ definitions, object.Implements name
  entered : ∀ object ∈ definitions, ∀ name, object.Implements name →
    name ∉ taken.filterMap Turn.rootName? → name ∈ discovery.implementations.map Prod.fst

theorem listed_nil : domain.Listed [] {} [] where
  ordered := .slnil
  sourced := nofun
  implementing := nofun
  entered := nofun

section

variable {taken : List Turn} {before : List Definition}

theorem not_rooted_of_concat (never : name ∉ (taken ++ [turn]).filterMap Turn.rootName?) :
    name ∉ taken.filterMap Turn.rootName? ∧ turn.rootName? ≠ some name := by
  simpa using never

theorem Listed.keep (listed : domain.Listed taken start before)
    (same : finish.implementations = start.implementations)
    (defined : start.definedObjects <:+ finish.definedObjects)
    (plain : ∀ object ∈ definitions, ∀ name, object.Implements name →
      turn.rootName? = some name) :
    domain.Listed (taken ++ [turn]) finish (before ++ definitions) := by
  refine ⟨?_, ?_, ?_, ?_⟩
  · obtain ⟨more, grown⟩ := defined
    rw [same, ← grown, List.reverse_append]
    exact listed.ordered.trans (List.sublist_append_left _ _)
  · rw [same]
    exact listed.sourced
  · intro name member
    rw [same] at member
    obtain ⟨object, there, implements⟩ := listed.implementing name member
    exact ⟨object, List.mem_append_left _ there, implements⟩
  · intro object member name implements never
    obtain ⟨earlier, now⟩ := not_rooted_of_concat never
    rw [same]
    rcases List.mem_append.1 member with there | here
    · exact listed.entered object there name implements earlier
    · exact absurd (plain object here name implements) now

theorem Listed.enter {key : TypeKey} {object : Definition}
    (listed : domain.Listed taken start before) (implements : object.Implements name)
    (source : domain.ObjectOf name key) (fresh : name ∉ start.definedObjects)
    (entered : finish.implementations = Ordered.put Prod.fst (name, key) start.implementations)
    (defined : finish.definedObjects = name :: start.definedObjects) :
    domain.Listed (taken ++ [turn]) finish (before ++ [object]) := by
  have absent : name ∉ start.implementations.map Prod.fst := fun member =>
    fresh (List.mem_reverse.1 (listed.ordered.subset member))
  have keys : finish.implementations.map Prod.fst =
      start.implementations.map Prod.fst ++ [name] := by
    rw [entered, Ordered.keys_put, if_neg absent]
  refine ⟨?_, ?_, ?_, ?_⟩
  · rw [keys, defined, List.reverse_cons]
    exact listed.ordered.append_right _
  · intro entry member
    rw [entered] at member
    rcases Ordered.mem_put member with rfl | earlier
    · exact source
    · exact listed.sourced entry earlier
  · intro other member
    rw [keys] at member
    rcases List.mem_append.1 member with earlier | now
    · obtain ⟨object, there, implements⟩ := listed.implementing other earlier
      exact ⟨object, List.mem_append_left _ there, implements⟩
    · rw [List.mem_singleton.1 now]
      exact ⟨object, List.mem_append_right _ List.mem_cons_self, implements⟩
  · intro other member found full never
    rw [keys]
    rcases List.mem_append.1 member with earlier | now
    · exact List.mem_append_left _
        (listed.entered other earlier found full (not_rooted_of_concat never).1)
    · rw [List.mem_singleton.1 now] at full
      have same : found = name := Option.some_inj.1 (full.full.symm.trans implements.full)
      rw [same]
      exact List.mem_append_right _ List.mem_cons_self

theorem Listed.step (listed : domain.Listed taken start before)
    (enters : domain.Enters turn start definitions finish) :
    domain.Listed (taken ++ [turn]) finish (before ++ definitions) := by
  cases enters with
  | nothing same defined plain => exact listed.keep same defined plain
  | object one implements source fresh entered defined =>
    rw [one]
    exact listed.enter implements source fresh entered defined

end

theorem Run.listed {turns taken : List Turn} {before : List Definition}
    (run : domain.Run turns start definitions finish)
    (consistent : domain.Consistent start.registry) (listed : domain.Listed taken start before) :
    domain.Listed (taken ++ turns) finish (before ++ definitions) :=
  (run.preserves
    (fun taken discovery definitions =>
      domain.Consistent discovery.registry ∧ domain.Listed taken discovery definitions)
    (fun holds step => ⟨step.consistent holds.1, holds.2.step (step.enters holds.1)⟩) taken
    ⟨consistent, listed⟩).2

theorem not_implements_declaration {definition : Definition}
    (member : definition ∈ domain.directiveDefinitions ++ domain.scalarDeclarations) :
    ¬ definition.Implements name := by
  intro implements
  have listed : name ∈ (domain.directiveDefinitions ++ domain.scalarDeclarations).filterMap
      (Definition.fullName? .object) :=
    List.mem_filterMap.2 ⟨definition, member, implements.full⟩
  rw [fullName_declarations] at listed
  cases listed

/-- The dictionary of implementations has a name, other than that of a root type, just when the one full
definition of the object names an interface. It gives for each name a type of the catalog that is an object
of that name, and it lists the names in the order of the full definitions. -/
theorem implementations_listed (built : domain.build resolvers = .ok schema) :
    (∀ name, (∀ resolver ∈ resolvers, resolver.role.rootName? ≠ some name) →
      (name ∈ schema.implementations.map Prod.fst ↔
        ∃ object ∈ schema.definitions, object.Implements name)) ∧
    (∀ entry ∈ schema.implementations, domain.ObjectOf entry.1 entry.2) ∧
    (schema.implementations.map Prod.fst).Sublist
      (schema.definitions.filterMap (Definition.fullName? .object)) ∧
    (schema.definitions.filterMap (Definition.fullName? .object)).Nodup := by
  have whole := built_of_build built
  have names := whole.output .object
  have distinct := whole.distinct .object
  obtain ⟨entries, definitions, run, rfl⟩ := whole.run
  have listed := run.listed consistent_empty listed_nil
  rw [List.nil_append, List.nil_append] at listed
  refine ⟨fun name unrooted => ⟨fun member => ?_, ?_⟩, listed.sourced, ?_, ?_⟩
  · obtain ⟨object, there, implements⟩ := listed.implementing name member
    exact ⟨object, List.mem_append_right _ there, implements⟩
  · rintro ⟨object, member, implements⟩
    have emitted := (List.mem_append.1 member).resolve_left fun declared =>
      not_implements_declaration declared implements
    refine listed.entered object emitted name implements ?_
    rw [rootName_turns, List.mem_filterMap]
    rintro ⟨resolver, among, root⟩
    exact unrooted resolver among root
  · rw [names]
    exact listed.ordered
  · rw [names, List.nodup_reverse]
    exact distinct

def dock : Domain where
  catalog := .ofTypes [vessel,
    { key := ⟨"harbour::Crane"⟩, methods := [textGetter "getReach"] },
    { key := ⟨"harbour::Tug"⟩, interfaces := [⟨⟨"harbour::Vessel"⟩, []⟩]
      tags := [.implementation none], methods := [textGetter "getName"] },
    { key := ⟨"harbour::Ship"⟩, interfaces := [⟨⟨"harbour::Vessel"⟩, []⟩]
      tags := [.implementation none], methods := [textGetter "getName"] }]

/-- The resolver of the ships defines them before the tugs are found. -/
def dockMasters : List Resolver :=
  [asking [("crane", "harbour::Crane"), ("flagship", "harbour::Vessel")],
    { name := "Crewing", role := .extension ⟨"harbour::Ship"⟩
      methods := [textOf "captain" "harbour::Ship"] }]

theorem implementations_listed_dock : ∃ schema, dock.build dockMasters = .ok schema ∧
    schema.implementations.map Prod.fst = ["Ship", "Tug"] ∧
    schema.definitions.filterMap (Definition.fullName? .object) =
      ["Query", "Ship", "Crane", "Tug"] ∧
    (∀ name, (∀ resolver ∈ dockMasters, resolver.role.rootName? ≠ some name) →
      (name ∈ schema.implementations.map Prod.fst ↔
        ∃ object ∈ schema.definitions, object.Implements name)) ∧
    (∀ entry ∈ schema.implementations, dock.ObjectOf entry.1 entry.2) ∧
    (schema.implementations.map Prod.fst).Sublist
      (schema.definitions.filterMap (Definition.fullName? .object)) ∧
    (schema.definitions.filterMap (Definition.fullName? .object)).Nodup := by
  have observed : (dock.build dockMasters).toOption.map (fun schema =>
      (schema.implementations.map Prod.fst,
        schema.definitions.filterMap (Definition.fullName? .object))) =
      some (["Ship", "Tug"], ["Query", "Ship", "Crane", "Tug"]) := by
    decide +kernel
  obtain ⟨schema, built, seen⟩ := build_observed observed
  obtain ⟨listed, defined⟩ := Prod.mk.inj seen
  exact ⟨schema, built, listed, defined, implementations_listed built⟩

end Domain

end SchemaDiscovery
