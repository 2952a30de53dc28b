import SchemaDiscovery.Proofs.Build.Completion
/-!
What is remembered of the emitted definitions. Main statements: each step works on one name in one
role and defines it in full unless that was done before; after a build the names defined in a role
are the recorded ones of that kind, and for objects the root types.
-/

namespace SchemaDiscovery

def Registry.emittedOf (registry : Registry) (kind : TypeKind) : List String :=
  registry.emitted.filter (registry.kindOf? · = some kind)

/-- The names that are defined in full in a role, the latest first. -/
def Discovery.defined (discovery : Discovery) : TypeKind → List String
  | .object => discovery.definedObjects
  | .interface => discovery.builtInterfaces
  | .input => discovery.registry.emittedOf .input
  | .enum => discovery.registry.emittedOf .enum

def Turn.rootName? : Turn → Option String
  | .resolver source => source.role.rootName?
  | .entry _ => none

def Turn.emits (kind : TypeKind) : Turn → List String
  | .resolver _ => []
  | .entry popped => if popped.kind = kind then [popped.name] else []

namespace Registry

variable {before after : Registry}

theorem emittedOf_of_grows (sound : before.Sound) (grows : before.Grows after)
    (same : after.emitted = before.emitted) (kind : TypeKind) :
    after.emittedOf kind = before.emittedOf kind := by
  unfold emittedOf
  rw [same]
  refine List.filter_congr fun name member => ?_
  have recorded := sound.recorded name (List.mem_append_left _ member)
  rw [← kindOf_isSome] at recorded
  obtain ⟨known, found⟩ := Option.isSome_iff_exists.1 recorded
  rw [found, grows.kindOf found]

theorem emittedOf_of_pop {entry : DiscoveredType} (popped : before.pop? = some (entry, after))
    (kind : TypeKind) :
    after.emittedOf kind =
      (if entry.kind = kind then [entry.name] else []) ++ before.emittedOf kind := by
  have recorded := kindOf_of_pop popped
  have kept (name : String) : after.kindOf? name = before.kindOf? name := by
    rw [kindOf?, kindOf?, find?, find?, entries_pop popped]
  have emitted : after.emitted = entry.name :: before.emitted := by
    obtain ⟨rest, -, -, rfl⟩ := pop_some popped
    rfl
  simp only [emittedOf, emitted, List.filter_cons, kept] at recorded ⊢
  by_cases same : entry.kind = kind <;> simp [recorded, same]

theorem not_mem_emitted_of_pop {entry : DiscoveredType} (sound : before.Sound)
    (popped : before.pop? = some (entry, after)) : entry.name ∉ before.emitted := by
  obtain ⟨rest, waiting, -, -⟩ := pop_some popped
  have distinct := sound.handled
  rw [Registry.handled, waiting] at distinct
  intro member
  exact (List.nodup_append.1 distinct).2.2 _ member _ List.mem_cons_self rfl

end Registry

def Discovery.adds (discovery : Discovery) (name : String) (kind other : TypeKind) :
    List String :=
  if other = kind ∧ name ∉ discovery.defined kind then [name] else []

theorem Discovery.adds_known {discovery : Discovery} {name : String} {kind : TypeKind}
    (known : name ∈ discovery.defined kind) (other : TypeKind) :
    discovery.adds name kind other = [] :=
  if_neg fun both => both.2 known

theorem Discovery.adds_fresh {discovery : Discovery} {name : String} {kind : TypeKind}
    (fresh : name ∉ discovery.defined kind) (other : TypeKind) :
    discovery.adds name kind other = if other = kind then [name] else [] := by
  simp [adds, fresh]

theorem Discovery.mem_adds {discovery : Discovery} {name found : String} {kind other : TypeKind} :
    found ∈ discovery.adds name kind other ↔
      other = kind ∧ found = name ∧ name ∉ discovery.defined kind := by
  unfold adds
  split
  · next fresh => simp [fresh]
  · next before =>
    have absent : ¬ (other = kind ∧ found = name ∧ name ∉ discovery.defined kind) :=
      fun all => before ⟨all.1, all.2.2⟩
    simp [absent]

theorem Discovery.defineObject_full {start finish : Discovery} {name : String}
    {type : Option TypeDescriptor} {implements : Option String} {fields : List BoundField}
    {definition : Option Definition}
    (defined : start.defineObject name type implements fields = (definition, finish)) :
    (∀ other, definition.toList.filterMap (Definition.fullName? other) =
      start.adds name .object other) ∧
    finish.definedObjects = start.adds name .object .object ++ start.definedObjects := by
  cases defineObject_defines defined with
  | full implementations fresh =>
    have added : ∀ other, start.adds name .object other =
        if other = .object then [name] else [] := adds_fresh fresh
    refine ⟨fun other => ?_, by rw [added]; rfl⟩
    rw [added]
    exact Definition.fullNames_type rfl rfl other
  | nothing known none =>
    have nothing : ∀ other, start.adds name .object other = [] := adds_known known
    exact ⟨fun other => (nothing other).symm, by rw [nothing]; rfl⟩
  | extension known some =>
    have nothing : ∀ other, start.adds name .object other = [] := adds_known known
    exact ⟨fun other => (nothing other).symm, by rw [nothing]; rfl⟩

/-- What a step does to the names defined in full. -/
structure Works (turn : Turn) (start : Discovery) (definitions : List Definition)
    (finish : Discovery) (name : String) (kind : TypeKind) : Prop where
  output : ∀ other, definitions.filterMap (Definition.fullName? other) =
    start.adds name kind other
  defined : ∀ other, finish.defined other = start.adds name kind other ++ start.defined other
  known : finish.registry.kindOf? name = some kind ∨
    kind = .object ∧ turn.rootName? = some name
  root : ∀ root, turn.rootName? = some root → root = name ∧ kind = .object
  emitted : finish.registry.emitted = start.registry.emitted ∨
    finish.registry.emitted = name :: start.registry.emitted ∧
      finish.registry.kindOf? name = some kind

namespace Works

variable {turn : Turn} {start finish : Discovery} {definitions : List Definition} {name : String}
  {kind : TypeKind}

theorem mem (works : Works turn start definitions finish name kind) : name ∈ finish.defined kind := by
  rw [works.defined]
  by_cases before : name ∈ start.defined kind
  · exact List.mem_append_right _ before
  · rw [Discovery.adds_fresh before, if_pos rfl]
    exact List.mem_append_left _ List.mem_cons_self

theorem kept (works : Works turn start definitions finish name kind) (other : TypeKind) :
    start.defined other ⊆ finish.defined other := by
  rw [works.defined]
  exact List.subset_append_right _ _

end Works

theorem Discovery.defined_of {start finish : Discovery} {name : String} {kind : TypeKind}
    (objects : finish.definedObjects = start.adds name kind .object ++ start.definedObjects)
    (interfaces :
      finish.builtInterfaces = start.adds name kind .interface ++ start.builtInterfaces)
    (emitted : ∀ other, other = .input ∨ other = .enum →
      finish.registry.emittedOf other =
        start.adds name kind other ++ start.registry.emittedOf other) (other : TypeKind) :
    finish.defined other = start.adds name kind other ++ start.defined other := by
  cases other with
  | object => exact objects
  | interface => exact interfaces
  | input => exact emitted .input (.inl rfl)
  | enum => exact emitted .enum (.inr rfl)

namespace Domain

variable {domain : Domain} {turn : Turn} {start finish : Discovery}
  {definitions : List Definition}

theorem Step.emittedOf (step : domain.Step turn start definitions finish)
    (sound : start.registry.Sound) (other : TypeKind) :
    finish.registry.emittedOf other =
      turn.emits other ++ start.registry.emittedOf other := by
  obtain ⟨opened, opens, reaches, -⟩ := step.opens
  cases turn with
  | resolver source =>
    obtain rfl : opened = start.registry := opens
    exact Registry.emittedOf_of_grows sound reaches.grows reaches.emitted other
  | entry popped =>
    rw [Registry.emittedOf_of_grows (Registry.sound_pop opens sound) reaches.grows reaches.emitted,
      Registry.emittedOf_of_pop opens, Turn.emits]

theorem Step.works_object_resolver {resolver : Resolver} {name : String}
    {registry : Registry} {type : Option TypeDescriptor} {implements : Option String}
    {fields : List BoundField} {definition : Option Definition}
    (step : domain.Step (.resolver resolver) start definition.toList finish)
    (sound : start.registry.Sound)
    (defined : { start with registry }.defineObject name type implements fields =
      (definition, finish))
    (known : finish.registry.kindOf? name = some .object ∨ resolver.role.rootName? = some name)
    (root : ∀ root, resolver.role.rootName? = some root → root = name) :
    Works (.resolver resolver) start definition.toList finish name .object := by
  obtain ⟨output, objects⟩ := Discovery.defineObject_full defined
  have interfaces := Discovery.defineObject_interfaces defined
  refine ⟨output, Discovery.defined_of objects ?_ ?_, ?_, ?_, .inl step.emitted_resolver⟩
  · exact interfaces
  · rintro other (rfl | rfl) <;> exact step.emittedOf sound _
  · exact known.imp_right fun named => ⟨rfl, named⟩
  · exact fun other named => ⟨root other named, rfl⟩

theorem Step.works_interface {name : String} {type : TypeDescriptor} {fields : List BoundField}
    {definition : Definition} {opened : Discovery}
    (defined : opened.defineInterface name type fields = .ok (definition, finish))
    (objects : opened.definedObjects = start.definedObjects)
    (interfaces : opened.builtInterfaces = start.builtInterfaces)
    (emittedOf : ∀ other, other = .input ∨ other = .enum →
      finish.registry.emittedOf other = start.registry.emittedOf other)
    (known : finish.registry.kindOf? name = some .interface)
    (emitted : finish.registry.emitted = start.registry.emitted ∨
      finish.registry.emitted = name :: start.registry.emitted)
    (unrooted : turn.rootName? = none) :
    Works turn start [definition] finish name .interface := by
  obtain ⟨fresh, same, rfl⟩ := Discovery.defineInterface_ok defined
  rw [interfaces] at fresh
  have added : ∀ other, start.adds name .interface other =
      if other = .interface then [name] else [] := Discovery.adds_fresh fresh
  refine ⟨fun other => ?_, Discovery.defined_of ?_ ?_ ?_, .inl known, ?_, ?_⟩
  · rw [added, same]
    exact Definition.fullNames_type rfl rfl other
  · exact objects
  · rw [added, interfaces]
    rfl
  · rintro other (rfl | rfl) <;> exact emittedOf _ (by simp)
  · intro root named
    rw [unrooted] at named
    cases named
  · exact emitted.imp_right fun more => ⟨more, known⟩

theorem Step.adds_emitted {entry : DiscoveredType} {opened : Registry} (kind : TypeKind)
    (sound : start.registry.Sound) (popped : start.registry.pop? = some (entry, opened))
    (kept : start.defined kind = start.registry.emittedOf kind) (other : TypeKind) :
    start.adds entry.name kind other = if other = kind then [entry.name] else [] := by
  have fresh : entry.name ∉ start.defined kind := by
    rw [kept]
    exact fun member =>
      Registry.not_mem_emitted_of_pop sound popped (List.mem_of_mem_filter member)
  exact Discovery.adds_fresh fresh other

theorem Step.works_queued {entry : DiscoveredType} {opened : Registry} {kind : TypeKind}
    {definition : TypeDefinition}
    (step : domain.Step (.entry entry) start [.type definition] finish)
    (sound : start.registry.Sound) (popped : start.registry.pop? = some (entry, opened))
    (role : entry.kind = kind) (queued : kind = .input ∨ kind = .enum)
    (objects : finish.definedObjects = start.definedObjects)
    (interfaces : finish.builtInterfaces = start.builtInterfaces)
    (complete : definition.isExtension = false) (shape : definition.body.kind? = some kind)
    (named : definition.name = entry.name) :
    Works (.entry entry) start [.type definition] finish entry.name kind := by
  obtain ⟨emitted, known⟩ := step.emitted_entry
  rw [role] at known
  have kept : start.defined kind = start.registry.emittedOf kind := by
    rcases queued with rfl | rfl <;> rfl
  have adds := Step.adds_emitted kind sound popped kept
  have unlisted : .object ≠ kind ∧ .interface ≠ kind := by
    rcases queued with rfl | rfl <;> decide
  refine ⟨fun other => ?_, Discovery.defined_of ?_ ?_ fun other _ => ?_, .inl known, nofun,
    .inr ⟨emitted, known⟩⟩
  · rw [adds, ← named]
    exact Definition.fullNames_type complete shape other
  · rw [adds, if_neg unlisted.1, objects]
    rfl
  · rw [adds, if_neg unlisted.2, interfaces]
    rfl
  · rw [step.emittedOf sound, Turn.emits, role, adds]
    simp only [eq_comm]

theorem Step.works (step : domain.Step turn start definitions finish)
    (sound : start.registry.Sound) : ∃ name kind, Works turn start definitions finish name kind := by
  have whole := step
  cases step with
  | @root resolver name _ _ _ _ _ role contributed defined =>
    refine ⟨name, .object, whole.works_object_resolver sound defined (.inr role) ?_⟩
    intro other named
    exact Option.some_inj.1 (named.symm.trans role)
  | @extension resolver source name _ _ _ _ _ _ _ role discovered kind contributed present defined =>
    have known : finish.registry.kindOf? name = some .object := by
      rw [Discovery.defineObject_registry defined]
      exact ((orderly_contributedFields _).reaches_of_gives contributed).grows.kindOf kind
    refine ⟨name, .object, whole.works_object_resolver sound defined (.inl known) ?_⟩
    intro other named
    rw [role] at named
    cases named
  | @resolvedInterface resolver source name _ _ _ _ _ _ _ _ _ role discovered kind contributed first
      present declared defined =>
    have known : finish.registry.kindOf? name = some .interface := by
      obtain ⟨-, -, rfl⟩ := Discovery.defineInterface_ok defined
      exact ((orderly_declaredFields _ _).reaches_of_gives declared).grows.kindOf
        (((orderly_contributedFields _).reaches_of_gives contributed).grows.kindOf kind)
    refine ⟨name, .interface, Step.works_interface defined rfl rfl ?_ known
      (.inl whole.emitted_resolver) ?_⟩
    · exact fun other _ => whole.emittedOf sound other
    · rw [Turn.rootName?, role]
      rfl
  | @object entry _ _ _ _ _ _ _ popped kind present declared defined =>
    obtain ⟨output, objects⟩ := Discovery.defineObject_full defined
    have interfaces := Discovery.defineObject_interfaces defined
    obtain ⟨emitted, known⟩ := whole.emitted_entry
    rw [kind] at known
    refine ⟨entry.name, .object, output, Discovery.defined_of objects interfaces ?_, .inl known,
      nofun, .inr ⟨emitted, known⟩⟩
    rintro other (rfl | rfl) <;> rw [whole.emittedOf sound, Turn.emits, kind] <;> rfl
  | @interface entry _ _ _ _ _ _ _ popped kind present declared defined =>
    obtain ⟨emitted, known⟩ := whole.emitted_entry
    rw [kind] at known
    refine ⟨entry.name, .interface, Step.works_interface defined rfl rfl ?_ known (.inr emitted)
      rfl⟩
    rintro other (rfl | rfl) <;> rw [whole.emittedOf sound, Turn.emits, kind] <;> rfl
  | @builtInterface entry _ _ popped kind built resolved =>
    obtain ⟨emitted, known⟩ := whole.emitted_entry
    rw [kind] at known
    -- Its resolver has defined it, so that the turn adds no name.
    have nothing : ∀ other, start.adds entry.name .interface other = [] :=
      Discovery.adds_known built
    refine ⟨entry.name, .interface, fun other => (nothing other).symm, fun other => ?_, .inl known,
      nofun, .inr ⟨emitted, known⟩⟩
    refine Discovery.defined_of ?_ ?_ ?_ other
    · rw [nothing]
      rfl
    · rw [nothing]
      rfl
    · rintro other (rfl | rfl) <;> rw [whole.emittedOf sound, Turn.emits, kind, nothing] <;> rfl
  | @input entry type _ _ _ values popped kind present given =>
    exact ⟨entry.name, .input, whole.works_queued sound popped kind (.inl rfl) rfl rfl rfl rfl rfl⟩
  | @enum entry type _ _ popped kind present =>
    exact ⟨entry.name, .enum, whole.works_queued sound popped kind (.inr rfl) rfl rfl rfl rfl rfl⟩

/-- How the names defined in full, the registry and the turns taken so far belong together. -/
structure Recorded (taken : List Turn) (discovery : Discovery) (definitions : List Definition) :
    Prop where
  output : ∀ kind, definitions.filterMap (Definition.fullName? kind) =
    (discovery.defined kind).reverse
  distinct : ∀ kind, (discovery.defined kind).Nodup
  known : ∀ kind, ∀ name ∈ discovery.defined kind,
    discovery.registry.kindOf? name = some kind ∨
      kind = .object ∧ name ∈ taken.filterMap Turn.rootName?
  emitted : ∀ name ∈ discovery.registry.emitted, ∀ kind,
    discovery.registry.kindOf? name = some kind → name ∈ discovery.defined kind
  rooted : ∀ name ∈ taken.filterMap Turn.rootName?, name ∈ discovery.definedObjects

theorem recorded_nil : Recorded [] {} [] where
  output := fun kind => by cases kind <;> rfl
  distinct := fun kind => by cases kind <;> exact .nil
  known := fun kind name member => by cases kind <;> cases member
  emitted := nofun
  rooted := nofun

theorem Step.recorded {taken : List Turn} {before : List Definition}
    (step : domain.Step turn start definitions finish) (sound : start.registry.Sound)
    (recorded : Recorded taken start before) :
    Recorded (taken ++ [turn]) finish (before ++ definitions) := by
  obtain ⟨name, kind, works⟩ := step.works sound
  have roots : ∀ root, root ∈ (taken ++ [turn]).filterMap Turn.rootName? ↔
      root ∈ taken.filterMap Turn.rootName? ∨ turn.rootName? = some root := by
    simp
  refine ⟨fun other => ?_, fun other => ?_, fun other found member => ?_,
    fun found member other known => ?_, fun root member => ?_⟩
  · have single : (start.adds name kind other).reverse = start.adds name kind other := by
      unfold Discovery.adds
      split <;> rfl
    rw [List.filterMap_append, recorded.output, works.output, works.defined, List.reverse_append,
      single]
  · rw [works.defined]
    unfold Discovery.adds
    split
    · next fresh =>
      rw [← fresh.1] at fresh
      exact (recorded.distinct other).cons fresh.2
    · exact recorded.distinct other
  · rw [works.defined, List.mem_append] at member
    rcases member with here | before
    · obtain ⟨rfl, rfl, -⟩ := Discovery.mem_adds.1 here
      rw [roots]
      exact works.known.imp_right fun root => ⟨root.1, .inr root.2⟩
    · rw [roots]
      exact (recorded.known other found before).imp step.grows.kindOf
        fun root => ⟨root.1, .inl root.2⟩
  -- A name that was emitted before had its kind by then.
  · have old : found ∈ start.registry.emitted → found ∈ finish.defined other := by
      intro before
      have present := sound.recorded found (List.mem_append_left _ before)
      rw [← Registry.kindOf_isSome] at present
      obtain ⟨first, kept⟩ := Option.isSome_iff_exists.1 present
      rw [step.grows.kindOf kept] at known
      cases known
      exact works.kept _ (recorded.emitted found before _ kept)
    rcases works.emitted with same | ⟨same, this⟩
    · rw [same] at member
      exact old member
    · rw [same] at member
      rcases List.mem_cons.1 member with rfl | before
      · rw [this] at known
        cases known
        exact works.mem
      · exact old before
  · rcases (roots root).1 member with before | here
    · exact works.kept .object (recorded.rooted root before)
    · obtain ⟨rfl, rfl⟩ := works.root root here
      exact works.mem

theorem Run.recorded {turns : List Turn} (run : domain.Run turns start definitions finish)
    {taken : List Turn} {before : List Definition} (consistent : domain.Consistent start.registry)
    (recorded : Recorded taken start before) :
    Recorded (taken ++ turns) finish (before ++ definitions) :=
  (run.preserves
    (fun taken discovery definitions =>
      domain.Consistent discovery.registry ∧ Recorded taken discovery definitions)
    (fun holds step => ⟨step.consistent holds.1, step.recorded holds.1.sound holds.2⟩) taken
    ⟨consistent, recorded⟩).2

theorem rootName_turns (resolvers : List Resolver) (entries : List DiscoveredType) :
    (resolvers.map Turn.resolver ++ entries.map Turn.entry).filterMap Turn.rootName? =
      resolvers.filterMap (·.role.rootName?) := by
  have unrooted : (entries.map Turn.entry).filterMap Turn.rootName? = [] := by
    simp [List.filterMap_eq_nil_iff, Turn.rootName?]
  rw [List.filterMap_append, unrooted, List.append_nil, List.filterMap_map]
  rfl

namespace Built

variable {resolvers : List Resolver} {schema : Schema}

theorem recorded (built : domain.Built resolvers schema) : ∃ taken definitions,
    taken.filterMap Turn.rootName? = resolvers.filterMap (·.role.rootName?) ∧
    schema.definitions =
      domain.directiveDefinitions ++ domain.scalarDeclarations ++ definitions ∧
    Recorded taken (domain.finalDiscovery resolvers) definitions := by
  obtain ⟨entries, definitions, run, rfl⟩ := built.run
  exact ⟨_, definitions, rootName_turns resolvers entries, rfl,
    run.recorded consistent_empty recorded_nil⟩

theorem output (built : domain.Built resolvers schema) (kind : TypeKind) :
    schema.definitions.filterMap (Definition.fullName? kind) =
      ((domain.finalDiscovery resolvers).defined kind).reverse := by
  obtain ⟨taken, definitions, -, same, recorded⟩ := built.recorded
  rw [same, List.filterMap_append, fullName_declarations, List.nil_append, recorded.output]

theorem distinct (built : domain.Built resolvers schema) (kind : TypeKind) :
    ((domain.finalDiscovery resolvers).defined kind).Nodup := by
  obtain ⟨taken, definitions, -, -, recorded⟩ := built.recorded
  exact recorded.distinct kind

theorem emitted_of_recorded (built : domain.Built resolvers schema) {name : String}
    {kind : TypeKind}
    (found : (domain.finalDiscovery resolvers).registry.kindOf? name = some kind) :
    name ∈ (domain.finalDiscovery resolvers).registry.emitted := by
  obtain ⟨entry, present, -⟩ := Option.map_eq_some_iff.1 found
  have done := built.consistent.settled entry (Registry.find_mem present) _
    (enqueue_mem_errandsOf entry)
  rw [Registry.find_some_name present] at done
  have handled : name ∈ (domain.finalDiscovery resolvers).registry.handled := done
  rw [Registry.handled, built.drained, List.append_nil] at handled
  exact handled

theorem mem_defined (built : domain.Built resolvers schema) (name : String) (kind : TypeKind) :
    name ∈ (domain.finalDiscovery resolvers).defined kind ↔
      (domain.finalDiscovery resolvers).registry.kindOf? name = some kind ∨
        kind = .object ∧ ∃ resolver ∈ resolvers, resolver.role.rootName? = some name := by
  obtain ⟨taken, definitions, roots, -, recorded⟩ := built.recorded
  have rooted : (∃ resolver ∈ resolvers, resolver.role.rootName? = some name) ↔
      name ∈ taken.filterMap Turn.rootName? := by
    rw [roots, List.mem_filterMap]
  rw [rooted]
  constructor
  · exact recorded.known kind name
  · rintro (found | ⟨rfl, root⟩)
    · exact recorded.emitted name (built.emitted_of_recorded found) kind found
    · exact recorded.rooted name root

theorem defined_iff (built : domain.Built resolvers schema) {name : String} {kind : TypeKind} :
    (∃ definition ∈ schema.definitions, definition.fullName? kind = some name) ↔
      (domain.finalDiscovery resolvers).registry.kindOf? name = some kind ∨
        kind = .object ∧ ∃ resolver ∈ resolvers, resolver.role.rootName? = some name := by
  rw [← built.mem_defined, ← List.mem_reverse, ← built.output, List.mem_filterMap]

end Built

end Domain

end SchemaDiscovery
