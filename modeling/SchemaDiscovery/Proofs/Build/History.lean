import SchemaDiscovery.Proofs.Build.Record
/-!
Looking back on a run. Main statements: each recorded type has had its turn in a build, what comes
after the resolvers keeps the fields that they add to interfaces, and a full object names an
interface only if its entry in the registry does.
-/

namespace SchemaDiscovery

def Registry.Links (registry : Registry) (name interface : String) : Prop :=
  ∃ entry, registry.find? name = some entry ∧ entry.implements = some interface

theorem Registry.Links.of_grows {before after : Registry} {name interface : String}
    (links : before.Links name interface) (grows : before.Grows after) :
    after.Links name interface := by
  obtain ⟨entry, found, implemented⟩ := links
  obtain ⟨link, kept⟩ := grows.kept name entry found
  exact ⟨_, kept, by simp [implemented]⟩

theorem Registry.links_of_bind {registry : Registry} {name interface : String}
    (implemented : (registry.find? name).bind (·.implements) = some interface) :
    registry.Links name interface :=
  Option.bind_eq_some_iff.1 implemented

namespace Domain

variable {domain : Domain} {turn : Turn} {start finish : Discovery}
  {definitions : List Definition}

theorem Run.split {left right : List Turn}
    (run : domain.Run (left ++ right) start definitions finish) :
    ∃ between first later, domain.Run left start first between ∧
      domain.Run right between later finish ∧ definitions = first ++ later := by
  induction left generalizing start definitions with
  | nil => exact ⟨start, [], definitions, .nil, run, rfl⟩
  | cons turn left ih =>
    cases run with
    | cons step rest =>
      obtain ⟨between, first, later, before, after, rfl⟩ := ih rest
      exact ⟨between, _, later, .cons step before, after, (List.append_assoc _ _ _).symm⟩

theorem Run.emission {turns : List Turn} {name : String}
    (run : domain.Run turns start definitions finish)
    (emitted : name ∈ finish.registry.emitted) (fresh : name ∉ start.registry.emitted) :
    ∃ left entry right before first between after later,
      turns = left ++ .entry entry :: right ∧ entry.name = name ∧
      domain.Run left start first before ∧ domain.Step (.entry entry) before between after ∧
      domain.Run right after later finish ∧ definitions = first ++ (between ++ later) := by
  induction run with
  | nil => exact absurd emitted fresh
  | @cons turn turns start between finish first later step rest ih =>
    by_cases here : name ∈ between.registry.emitted
    · cases turn with
      | resolver source =>
        rw [step.emitted_resolver] at here
        exact absurd here fresh
      | entry popped =>
        rw [step.emitted_entry.1] at here
        have named := (List.mem_cons.1 here).resolve_right fresh
        exact ⟨[], popped, turns, start, [], first, between, later, rfl, named.symm, .nil, step,
          rest, rfl⟩
    · obtain ⟨left, entry, right, before, early, middle, after, late, rfl, named, prior, emission,
        further, rfl⟩ := ih emitted here
      exact ⟨turn :: left, entry, right, before, first ++ early, middle, after, late, rfl, named,
        .cons step prior, emission, further, (List.append_assoc _ _ _).symm⟩

theorem Run.emitted_resolvers {resolvers : List Resolver}
    (run : domain.Run (resolvers.map Turn.resolver) start definitions finish) :
    finish.registry.emitted = start.registry.emitted := by
  induction resolvers generalizing start definitions with
  | nil =>
    cases run
    rfl
  | cons resolver resolvers ih =>
    cases run with
    | cons step rest => rw [ih rest, step.emitted_resolver]

theorem Run.emitted_entries {entries : List DiscoveredType}
    (run : domain.Run (entries.map Turn.entry) start definitions finish) :
    finish.registry.emitted = (entries.map (·.name)).reverse ++ start.registry.emitted := by
  induction entries generalizing start definitions with
  | nil =>
    cases run
    rfl
  | cons entry entries ih =>
    cases run with
    | cons step rest =>
      rw [ih rest, step.emitted_entry.1, List.map_cons, List.reverse_cons, List.append_assoc,
        List.singleton_append]

theorem Step.extras_entry {entry : DiscoveredType}
    (step : domain.Step (.entry entry) start definitions finish) :
    finish.interfaceExtras = start.interfaceExtras := by
  cases step with
  | object popped kind present declared defined =>
    have kept := Discovery.defineObject_extras defined
    exact kept
  | interface popped kind present declared defined =>
    obtain ⟨-, -, rfl⟩ := Discovery.defineInterface_ok defined
    rfl
  | builtInterface popped kind built resolved => rfl
  | input popped kind present given => rfl
  | enum popped kind present => rfl

theorem Run.extras_entries {entries : List DiscoveredType}
    (run : domain.Run (entries.map Turn.entry) start definitions finish) :
    finish.interfaceExtras = start.interfaceExtras := by
  induction entries generalizing start definitions with
  | nil =>
    cases run
    rfl
  | cons entry entries ih =>
    cases run with
    | cons step rest => rw [ih rest, step.extras_entry]

theorem Step.adds_of_full {name : String} {kind : TypeKind} {definition : Definition}
    (step : domain.Step turn start definitions finish) (sound : start.registry.Sound)
    (member : definition ∈ definitions) (full : definition.fullName? kind = some name) :
    name ∉ start.defined kind ∧ name ∈ finish.defined kind := by
  obtain ⟨target, role, works⟩ := step.works sound
  have output : name ∈ start.adds target role kind := by
    rw [← works.output]
    exact List.mem_filterMap.2 ⟨definition, member, full⟩
  constructor
  · obtain ⟨rfl, rfl, fresh⟩ := Discovery.mem_adds.1 output
    exact fresh
  · rw [works.defined]
    exact List.mem_append_left _ output

theorem Run.fresh_of_full {turns : List Turn} {name : String} {kind : TypeKind}
    (run : domain.Run turns start definitions finish)
    (consistent : domain.Consistent start.registry) :
    ∀ definition ∈ definitions, definition.fullName? kind = some name →
      name ∉ start.defined kind := by
  induction run with
  | nil => exact nofun
  | cons step rest ih =>
    obtain ⟨_, _, works⟩ := step.works consistent.sound
    intro definition member full
    rcases List.mem_append.1 member with here | there
    · exact (step.adds_of_full consistent.sound here full).1
    · exact fun before =>
        ih (step.consistent consistent) definition there full (works.kept kind before)

theorem Step.links (step : domain.Step turn start definitions finish) :
    ∀ definition ∈ definitions, ∀ name, definition.fullName? .object = some name →
      ∀ interface ∈ definition.implements, finish.registry.Links name interface := by
  intro definition member name full interface implemented
  cases step with
  | root role contributed defined =>
    obtain ⟨rfl, same⟩ := Discovery.defineObject_implements defined definition member name full
    rw [Discovery.defineObject_registry defined]
    rw [same, Option.mem_toList] at implemented
    exact Registry.links_of_bind implemented
  | extension role discovered kind contributed present defined =>
    obtain ⟨rfl, same⟩ := Discovery.defineObject_implements defined definition member name full
    rw [Discovery.defineObject_registry defined]
    rw [same, Option.mem_toList] at implemented
    exact Registry.links_of_bind implemented
  | resolvedInterface role discovered kind contributed first present declared defined =>
    obtain ⟨-, rfl, -⟩ := Discovery.defineInterface_ok defined
    rw [List.mem_singleton.1 member] at full
    cases full
  | object popped kind present declared defined =>
    obtain ⟨rfl, same⟩ := Discovery.defineObject_implements defined definition member name full
    rw [Discovery.defineObject_registry defined]
    rw [same, Option.mem_toList] at implemented
    obtain ⟨rest, -, found, -⟩ := Registry.pop_some popped
    exact (Registry.Links.of_grows ⟨_, found, implemented⟩ (Registry.grows_pop popped)).of_grows
      ((orderly_declaredFields _ _).reaches_of_gives declared).grows
  | interface popped kind present declared defined =>
    obtain ⟨-, rfl, -⟩ := Discovery.defineInterface_ok defined
    rw [List.mem_singleton.1 member] at full
    cases full
  | builtInterface popped kind built resolved => cases member
  | input popped kind present given =>
    rw [List.mem_singleton.1 member] at full
    cases full
  | enum popped kind present =>
    rw [List.mem_singleton.1 member] at full
    cases full

theorem Run.links {turns : List Turn} (run : domain.Run turns start definitions finish) :
    ∀ definition ∈ definitions, ∀ name, definition.fullName? .object = some name →
      ∀ interface ∈ definition.implements, finish.registry.Links name interface := by
  induction run with
  | nil => exact nofun
  | cons step rest ih =>
    intro definition member name full interface implemented
    rcases List.mem_append.1 member with here | there
    · exact (step.links definition here name full interface implemented).of_grows rest.grows
    · exact ih definition there name full interface implemented

variable {resolvers : List Resolver} {schema : Schema}

theorem emitted_of_full {emitted : List Definition} {definition : Definition} {kind : TypeKind}
    {name : String}
    (member : definition ∈ domain.directiveDefinitions ++ domain.scalarDeclarations ++ emitted)
    (full : definition.fullName? kind = some name) : definition ∈ emitted := by
  refine (List.mem_append.1 member).resolve_left fun early => ?_
  rw [List.filterMap_eq_nil_iff.1 (fullName_declarations kind) definition early] at full
  cases full

structure Emission (domain : Domain) (resolvers : List Resolver) (schema : Schema)
    (entry : DiscoveredType) (before : Discovery) (definitions : List Definition)
    (after : Discovery) : Prop where
  step : domain.Step (.entry entry) before definitions after
  runs : ∃ turns entries first later, domain.Run turns {} first before ∧
    domain.Run (List.map Turn.entry entries) after later (domain.finalDiscovery resolvers) ∧
    schema.definitions = domain.directiveDefinitions ++ domain.scalarDeclarations ++
      (first ++ (definitions ++ later))

theorem Built.emission (built : domain.Built resolvers schema) {name : String} {kind : TypeKind}
    (recorded : (domain.finalDiscovery resolvers).registry.kindOf? name = some kind) :
    ∃ entry before definitions after, entry.name = name ∧ entry.kind = kind ∧
      domain.Emission resolvers schema entry before definitions after := by
  have emitted := built.emitted_of_recorded recorded
  obtain ⟨entries, definitions, run, same⟩ := built.run
  have whole : schema.definitions =
      domain.directiveDefinitions ++ domain.scalarDeclarations ++ definitions :=
    congrArg Schema.definitions same
  obtain ⟨between, first, later, resolved, queued, rfl⟩ := run.split
  have fresh : name ∉ between.registry.emitted := by
    rw [resolved.emitted_resolvers]
    exact List.not_mem_nil
  obtain ⟨left, entry, right, before, early, middle, after, late, turns, rfl, prior, step, rest,
    rfl⟩ := queued.emission emitted fresh
  obtain ⟨_, tail, -, -, cut⟩ := List.map_eq_append_iff.1 turns
  obtain ⟨_, others, -, -, rfl⟩ := List.map_eq_cons_iff.1 cut
  have final := rest.grows.kindOf step.emitted_entry.2
  rw [recorded] at final
  refine ⟨entry, before, middle, after, rfl, (Option.some_inj.1 final).symm, step, _, others,
    first ++ early, late, resolved.append prior, rest, ?_⟩
  rw [whole, List.append_assoc first]

end Domain

end SchemaDiscovery
