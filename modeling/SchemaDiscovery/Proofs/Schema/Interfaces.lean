import SchemaDiscovery.Proofs.Build.Failure
import SchemaDiscovery.Proofs.Schema.Contribution
import SchemaDiscovery.Proofs.Schema.Identity
import SchemaDiscovery.Proofs.Schema.Inheritance
/-!
Interfaces that are defined once. Main statement: an interface is defined by its resolver or by its
turn in the queue and never by both, so no build fails for want of that; two resolvers for one
interface are refused.
-/

namespace SchemaDiscovery

/-- An interface that is built has a resolver, or has had its turn in the queue. -/
def Discovery.Guarded (discovery : Discovery) : Prop :=
  ∀ name ∈ discovery.builtInterfaces,
    (discovery.resolverOf? name).isSome ∨ name ∈ discovery.registry.emitted

theorem Discovery.guarded_empty : Discovery.Guarded {} := nofun

namespace Domain

variable {domain : Domain} {resolvers : List Resolver} {turn : Turn} {start finish : Discovery}
  {definitions : List Definition}

theorem Step.emitted_subset (step : domain.Step turn start definitions finish) :
    start.registry.emitted ⊆ finish.registry.emitted := by
  cases turn with
  | resolver resolver =>
    rw [step.emitted_resolver]
    exact List.Subset.refl _
  | entry entry =>
    rw [step.emitted_entry.1]
    exact List.subset_cons_self _ _

theorem guarded_of_kept (guarded : start.Guarded)
    (built : finish.builtInterfaces = start.builtInterfaces)
    (resolved : finish.interfaceResolvers = start.interfaceResolvers)
    (emitted : start.registry.emitted ⊆ finish.registry.emitted) : finish.Guarded := by
  intro name member
  rw [built] at member
  rw [Discovery.resolverOf?, resolved]
  exact (guarded name member).imp_right fun before => emitted before

theorem guarded_of_defineObject {name : String} {type : Option TypeDescriptor}
    {implements : Option String} {fields : List BoundField} {definition : Option Definition}
    {registry : Registry} (guarded : start.Guarded)
    (defined : { start with registry }.defineObject name type implements fields =
      (definition, finish))
    (emitted : start.registry.emitted ⊆ finish.registry.emitted) : finish.Guarded := by
  have built := Discovery.defineObject_interfaces defined
  have resolved := Discovery.defineObject_resolvers defined
  exact guarded_of_kept guarded built resolved emitted

theorem Step.guarded (step : domain.Step turn start definitions finish)
    (guarded : start.Guarded) : finish.Guarded := by
  have whole := step
  have emitted := step.emitted_subset
  cases step with
  | root role contributed defined => exact guarded_of_defineObject guarded defined emitted
  | extension role discovered kind contributed present defined =>
    exact guarded_of_defineObject guarded defined emitted
  | @resolvedInterface resolver source name _ _ _ _ _ _ _ _ _ role discovered kind contributed
      first present declared defined =>
    obtain ⟨-, -, rfl⟩ := Discovery.defineInterface_ok defined
    intro other member
    by_cases same : name = other
    · simp [Discovery.resolverOf?, Discovery.recordBindings, same]
    · have before := (List.mem_cons.1 member).resolve_left (Ne.symm same)
      simpa [Discovery.resolverOf?, Discovery.recordBindings, same] using
        (guarded other before).imp_right fun had => emitted had
  | object popped kind present declared defined =>
    exact guarded_of_defineObject guarded defined emitted
  | @interface entry _ _ _ _ _ _ _ popped kind present declared defined =>
    have turned := whole.emitted_entry.1
    obtain ⟨-, -, rfl⟩ := Discovery.defineInterface_ok defined
    intro other member
    rcases List.mem_cons.1 member with rfl | before
    · rw [turned]
      exact .inr List.mem_cons_self
    · exact (guarded other before).imp_right fun had => emitted had
  | builtInterface popped kind built resolved => exact guarded_of_kept guarded rfl rfl emitted
  | input popped kind present given => exact guarded_of_kept guarded rfl rfl emitted
  | enum popped kind present => exact guarded_of_kept guarded rfl rfl emitted

theorem Run.guarded {turns : List Turn} (run : domain.Run turns start definitions finish)
    (guarded : start.Guarded) : finish.Guarded := by
  induction run with
  | nil => exact guarded
  | cons step _ ih => exact ih (step.guarded guarded)

theorem duplicate_of_defineInterface {name other : String} {type : TypeDescriptor}
    {fields : List BoundField}
    (failed : Fails (defineInterface name type fields) start (.duplicateInterface other)) :
    other = name ∧ name ∈ start.builtInterfaces := by
  simp only [defineInterface, fails_bind, fails_get, gives_get, fails_liftM, fails_set, fails_pure,
    and_false, exists_false, or_false, false_or] at failed
  obtain ⟨_, _, ⟨rfl, rfl⟩, failed⟩ := failed
  unfold Discovery.defineInterface at failed
  dsimp only at failed
  split at failed
  · next built =>
    cases failed
    exact ⟨rfl, by simpa using built⟩
  · cases failed

theorem duplicate_of_defineResolvedInterface {name other : String} {source : TypeKey}
    {resolver : Resolver} {extras : List BoundField}
    (failed : Fails (domain.defineResolvedInterface name source resolver extras) start
      (.duplicateInterface other)) :
    name ∈ start.builtInterfaces ∧ start.resolverOf? name = none := by
  simp only [defineResolvedInterface, fails_bind, fails_get, gives_get, false_or] at failed
  obtain ⟨_, _, ⟨rfl, rfl⟩, failed⟩ := failed
  split at failed
  · simp at failed
  · next free =>
    simp only [fails_bind, fails_modify, gives_modify, fails_liftM, gives_liftM, gives_build,
      false_or] at failed
    obtain ⟨_, _, rfl, unknown | ⟨type, _, ⟨present, rfl⟩, undeclared |
      ⟨own, _, ⟨registry, declared, rfl⟩, _, _, rfl, refused⟩⟩⟩ := failed
    · cases domain.catalog.require_failure source _ unknown
    · exact absurd undeclared (not_concernsTypes_of_build (failsOnTypes_declaredFields ..) rfl)
    · obtain ⟨-, built⟩ := duplicate_of_defineInterface refused
      exact ⟨built, Option.eq_none_iff_forall_ne_some.2 free⟩

theorem resolverTarget_spares {resolver : Resolver} {other : String} :
    ¬ Fails (domain.resolverTarget resolver) start (.duplicateInterface other) := by
  intro failed
  unfold resolverTarget at failed
  cases role : resolver.role with
  | extension source =>
    simp only [role, fails_bind, fails_build, fails_mk, fails_get, gives_get, false_or] at failed
    rcases failed with undiscovered | ⟨name, opened, -, _, _, ⟨rfl, rfl⟩, refused⟩
    · cases domain.discover_failure _ source .object _ undiscovered
    · split at refused
      · exact (fails_pure.1 refused).elim
      · cases fails_throw.1 refused
  | _ =>
    rw [role] at failed
    exact (fails_pure.1 failed).elim

@[simp] theorem fails_defineObject {name : String} {type : Option TypeDescriptor}
    {implements : Option String} {fields : List BoundField} {e : SchemaError} :
    Fails (defineObject name type implements fields) start e ↔ False :=
  fails_modifyGet

theorem duplicate_of_addResolver {resolver : Resolver} {other : String}
    (failed : Fails (domain.addResolver resolver) start (.duplicateInterface other)) :
    ∃ name ∈ start.builtInterfaces, start.resolverOf? name = none := by
  unfold addResolver at failed
  rcases fails_bind.1 failed with targeting | ⟨⟨name, kind⟩, opened, target, adding⟩
  · exact absurd targeting resolverTarget_spares
  have kept : opened.builtInterfaces = start.builtInterfaces ∧
      opened.interfaceResolvers = start.interfaceResolvers := by
    rcases resolverTarget_ok target with ⟨-, -, rfl⟩ | ⟨_, found, -, -, rfl, -, -⟩ <;>
      exact ⟨rfl, rfl⟩
  rcases fails_bind.1 adding with contributing | ⟨fields, _, contributed, defining⟩
  · exact absurd contributing (not_concernsTypes_of_build (failsOnTypes_contributedFields _) rfl)
  obtain ⟨registry, -, rfl⟩ := gives_build.1 contributed
  split at defining
  · simp only [fails_bind, fails_pure, and_false, exists_false, or_false] at defining
    obtain ⟨built, free⟩ := duplicate_of_defineResolvedInterface defining
    rw [Discovery.resolverOf?] at free
    exact ⟨name, kept.1 ▸ built, by rw [Discovery.resolverOf?, ← kept.2, free]⟩
  · have required (source : TypeKey) :
        domain.catalog.require source ≠ .error (.duplicateInterface other) :=
      fun unknown => nomatch domain.catalog.require_failure source _ unknown
    cases source : resolver.role.source? <;> simp [source, fails_bind, required] at defining

theorem duplicate_of_defineDiscovered {entry : DiscoveredType} {other : String}
    (failed : Fails (domain.defineDiscovered entry) start (.duplicateInterface other)) :
    entry.name ∈ start.builtInterfaces ∧ start.resolverOf? entry.name = none := by
  unfold defineDiscovered at failed
  rcases fails_bind.1 failed with unknown | ⟨type, _, required, defining⟩
  · cases domain.catalog.require_failure entry.source _ (fails_liftM.1 unknown)
  obtain ⟨-, rfl⟩ := gives_liftM.1 required
  cases kind : entry.kind with
  | object =>
    simp only [kind, fails_bind, fails_get, fails_defineObject, and_false, exists_false, or_false]
      at defining
    exact absurd defining (not_concernsTypes_of_build (failsOnTypes_declaredFields ..) rfl)
  | interface =>
    simp only [kind, fails_bind, fails_get, gives_get, false_or] at defining
    obtain ⟨_, _, ⟨rfl, rfl⟩, defining⟩ := defining
    split at defining
    · exact (fails_pure.1 defining).elim
    · next unbuilt =>
      simp only [fails_bind, fails_pure, gives_build, and_false, exists_false, or_false] at defining
      rcases defining with undeclared | ⟨own, _, ⟨registry, -, rfl⟩, refused⟩
      · exact absurd undeclared (not_concernsTypes_of_build (failsOnTypes_declaredFields ..) rfl)
      · obtain ⟨-, built⟩ := duplicate_of_defineInterface refused
        exact ⟨built, by simpa [built] using unbuilt⟩
  | input =>
    simp only [kind, fails_bind, fails_pure, and_false, exists_false, or_false] at defining
    exact absurd defining (not_concernsTypes_of_build (failsOnTypes_inputValues ..) rfl)
  | enum =>
    rw [kind] at defining
    exact (fails_pure.1 defining).elim

theorem not_breaks_duplicate (name : String) :
    ¬ domain.Breaks resolvers (.duplicateInterface name) := by
  intro breaks
  cases breaks with
  | resolver listed before fails =>
    obtain ⟨interface, built, free⟩ := duplicate_of_addResolver fails
    rcases before.guarded Discovery.guarded_empty interface built with resolved | emitted
    · exact Option.isSome_iff_ne_none.1 resolved free
    · rw [before.emitted_resolvers] at emitted
      cases emitted
  | entry resolved before popped fails =>
    obtain ⟨built, free⟩ := duplicate_of_defineDiscovered fails
    have run := resolved.append before
    have sound := (run.consistent consistent_empty).sound
    rcases run.guarded Discovery.guarded_empty _ built with some | emitted
    · exact Option.isSome_iff_ne_none.1 some free
    · exact Registry.not_mem_emitted_of_pop sound popped emitted

theorem Step.free_of_targets {resolver : Resolver} {name : String}
    (step : domain.Step (.resolver resolver) start definitions finish)
    (targets : domain.Targets resolver .interface name) : start.resolverOf? name = none := by
  have target := target_of_targets targets
  cases step with
  | root role contributed defined =>
    rw [target_of_targets (.root role rfl)] at target
    cases target
  | extension role discovered recorded contributed present defined =>
    rw [target_of_targets (targets_of_discover role discovered recorded)] at target
    cases target
  | resolvedInterface role discovered recorded contributed first present declared defined =>
    rw [target_of_targets (targets_of_discover role discovered recorded)] at target
    cases target
    exact first

theorem Equipped.resolved_of_targets {resolver : Resolver} {name : String}
    (equipped : domain.Equipped resolvers start) (listed : resolver ∈ resolvers)
    (targets : domain.Targets resolver .interface name) : (start.resolverOf? name).isSome := by
  rw [equipped.resolved, interfaceResolver?, List.find?_isSome]
  exact ⟨resolver, listed, by simp [target_of_targets targets]⟩

theorem not_built_twice {left middle right : List Resolver} {first second : Resolver}
    {name : String} (listed : resolvers = left ++ first :: middle ++ second :: right)
    (one : domain.Targets first .interface name) (other : domain.Targets second .interface name)
    (schema : Schema) : domain.build resolvers ≠ .ok schema := by
  intro built
  obtain ⟨entries, definitions, run, -⟩ := (built_of_build built).run
  rw [listed, List.map_append, List.append_assoc] at run
  obtain ⟨between, _, _, before, after, -⟩ := run.split
  -- After the turn of the first resolver the interface has one, which the second must not find.
  have equipped := (before.yields_resolvers equipped_empty).2
  cases after with
  | cons step rest =>
    have resolved := equipped.resolved_of_targets (by simp) one
    exact Option.isSome_iff_ne_none.1 resolved (step.free_of_targets other)

theorem typed_of_fullName {definition : Definition} {kind : TypeKind} {name : String}
    (full : definition.fullName? kind = some name) : definition.typed? = some (kind, name) := by
  cases definition with
  | type definition =>
    rw [Definition.fullName?, Option.ite_none_right_eq_some] at full
    obtain ⟨⟨-, shape⟩, same⟩ := full
    simp [Definition.typed?, shape, Option.some_inj.1 same]
  | _ => cases full

theorem Built.typed_iff {schema : Schema} (built : domain.Built resolvers schema)
    {definition : Definition} (member : definition ∈ schema.definitions) {kind : TypeKind}
    {name : String} (other : kind ≠ .object) :
    definition.typed? = some (kind, name) ↔ definition.fullName? kind = some name := by
  refine ⟨fun typed => ?_, typed_of_fullName⟩
  obtain ⟨entries, definitions, run, rfl⟩ := built.run
  rcases List.mem_append.1 member with declared | emitted
  · rw [(declarations_untyped definition declared).1] at typed
    cases typed
  · obtain ⟨_, _, again, full, -⟩ :=
      run.comes Turn.among_of_mem keepsExtras_empty definition emitted
    cases typed.symm.trans again
    exact full other

theorem Built.one_definition {schema : Schema} (built : domain.Built resolvers schema)
    {kind : TypeKind} {name : String} (other : kind ≠ .object)
    (recorded : (domain.finalDiscovery resolvers).registry.kindOf? name = some kind) :
    schema.definitions.countP (·.typed? = some (kind, name)) = 1 := by
  have defined : name ∈ (domain.finalDiscovery resolvers).defined kind :=
    (built.mem_defined name kind).2 (.inl recorded)
  have single : (schema.definitions.filterMap (Definition.fullName? kind)).count name = 1 := by
    rw [built.output, List.count_reverse]
    exact List.count_eq_one_of_mem (built.distinct kind) defined
  rw [← single, List.count_filterMap]
  apply List.countP_congr
  intro definition member
  simpa using built.typed_iff member other

/-- No build defines an interface twice or tries to: one that its resolver has built is passed over
in the queue, one of the queue comes once, and of two resolvers for one interface the second is
refused. -/
theorem interfaces_defined_once (domain : Domain) (resolvers : List Resolver) :
    (∀ name, domain.build resolvers ≠ .error (.duplicateInterface name)) ∧
    (∀ left first middle second right name,
      resolvers = left ++ first :: middle ++ second :: right →
      domain.Targets first .interface name → domain.Targets second .interface name →
      ∀ schema, domain.build resolvers ≠ .ok schema) ∧
    (∀ schema, domain.build resolvers = .ok schema → ∀ name,
      (domain.finalDiscovery resolvers).registry.kindOf? name = some .interface →
      schema.definitions.countP (·.typed? = some (.interface, name)) = 1) := by
  refine ⟨?spared, ?refused, ?once⟩
  case spared =>
    intro name failed
    rcases breaks_of_build failed with ⟨objection, -, config⟩ | breaks
    · cases config
    · exact not_breaks_duplicate name breaks
  case refused =>
    intro left first middle second right name listed one other
    exact not_built_twice listed one other
  case once =>
    intro schema built name recorded
    exact (built_of_build built).one_definition nofun recorded

def anchorage : Domain where
  catalog := .ofTypes [vessel,
    { key := ⟨"harbour::Buoy"⟩, form := .isInterface, tags := [.interface none]
      methods := [textGetter "getLight"] }]

def pilots : List Resolver :=
  [asking [("vessel", "harbour::Vessel"), ("buoy", "harbour::Buoy")], records]

theorem interfaces_defined_once_anchorage :
    (∃ schema, anchorage.build pilots = .ok schema ∧
      schema.definitions.countP (·.typed? = some (.interface, "Vessel")) = 1 ∧
      schema.definitions.countP (·.typed? = some (.interface, "Buoy")) = 1) ∧
    ∀ schema, anchorage.build (pilots ++ [records]) ≠ .ok schema := by
  constructor
  · have observed : (anchorage.build pilots).toOption.map (fun _ => true) = some true := by
      decide +kernel
    obtain ⟨schema, built, -⟩ := build_observed observed
    obtain ⟨-, -, once⟩ := interfaces_defined_once anchorage pilots
    exact ⟨schema, built, once schema built "Vessel" (by decide +kernel),
      once schema built "Buoy" (by decide +kernel)⟩
  · have present : anchorage.catalog.lookup? vessel.key = some vessel := by decide +kernel
    have targets : anchorage.Targets records .interface "Vessel" :=
      .source rfl present (by decide +kernel) (by decide +kernel)
    obtain ⟨-, refused, -⟩ := interfaces_defined_once anchorage (pilots ++ [records])
    exact refused [pilots.head (by decide)] records [] records [] "Vessel" rfl targets targets

end Domain

end SchemaDiscovery
