import SchemaDiscovery.Proofs.Discovery.Outline
import SchemaDiscovery.Proofs.Schema.Bindings
/-!
What the turns of a build contribute to the fields of types. Main statement: the fields of a built schema
and its bindings are those of the contributions, one after the other. A contribution follows from the
catalog, the resolvers and, for a type from the queue, what is recorded of it when its turn comes.
-/

namespace SchemaDiscovery

/-- Fields for a type of the schema, in the order in which they are made. -/
structure Contribution where
  type : String
  fields : List Outline
  deriving DecidableEq, Repr

/-- Of the fields of one name the last is shown, in the place of the first. -/
def Contribution.shown (contribution : Contribution) : List (String × Outline) :=
  (Ordered.ofList (·.name) contribution.fields).map (contribution.type, ·)

namespace Domain

def target? (domain : Domain) (resolver : Resolver) : Option (TypeKind × String) :=
  match resolver.role.source? with
  | none => resolver.role.rootName?.map (.object, ·)
  | some source => do
    let type ← domain.catalog.lookup? source
    let kind ← (type.kindWhen .object).toOption
    return (kind, type.schemaName kind)

def interfaceResolver? (domain : Domain) (resolvers : List Resolver) (interface : String) :
    Option Resolver :=
  resolvers.find? fun resolver => domain.target? resolver = some (.interface, interface)

def declaredOutlines (domain : Domain) (source : TypeKey) (kind : TypeKind) : List Outline :=
  (domain.catalog.lookup? source).elim [] (domain.catalog.outlines · kind)

def extraOutlines (domain : Domain) (resolvers : List Resolver) (interface : String) :
    List Outline :=
  (domain.interfaceResolver? resolvers interface).elim [] (·.outlines)

/-- What a resolver contributes. The resolver of an interface brings the interface's own fields. -/
def resolverContribution? (domain : Domain) (resolver : Resolver) : Option Contribution :=
  match domain.target? resolver, resolver.role.source? with
  | some (.interface, name), some source =>
    some ⟨name, domain.declaredOutlines source .interface ++ resolver.outlines⟩
  | some (_, name), _ => some ⟨name, resolver.outlines⟩
  | none, _ => none

/-- What a type from the queue contributes. An object also has the fields that are added to its
interface, and an interface with a resolver comes with it. -/
def entryContribution? (domain : Domain) (resolvers : List Resolver) (entry : DiscoveredType) :
    Option Contribution :=
  match entry.kind with
  | .object => some ⟨entry.name, domain.declaredOutlines entry.source .object ++
      entry.implements.elim [] (domain.extraOutlines resolvers)⟩
  | .interface =>
    if (domain.interfaceResolver? resolvers entry.name).isSome then none
    else some ⟨entry.name, domain.declaredOutlines entry.source .interface⟩
  | .input => none
  | .enum => none

/-- The types that draining takes from the queue, each as it is recorded at that time. -/
def takenFrom (domain : Domain) : Nat → Discovery → List DiscoveredType
  | 0, _ => []
  | limit + 1, start =>
    match start.registry.pop? with
    | none => []
    | some (entry, opened) =>
      entry :: domain.takenFrom limit
        ((domain.defineDiscovered entry).run.run { start with registry := opened }).run.2

def taken (domain : Domain) (resolvers : List Resolver) : List DiscoveredType :=
  domain.takenFrom domain.catalog.possibleNames.length
    ((resolvers.mapM domain.addResolver).run.run {}).run.2

def contributions (domain : Domain) (resolvers : List Resolver) : List Contribution :=
  resolvers.filterMap domain.resolverContribution? ++
    (domain.taken resolvers).filterMap (domain.entryContribution? resolvers)

end Domain

structure Discovery.Yields (start : Discovery) (definitions : List Definition) (finish : Discovery)
    (shown : List (String × Outline)) : Prop where
  sites : (definitions.flatMap Definition.sites).map (fun site => (site.1, site.2.outline)) = shown
  bindings : finish.bindings.map (fun binding => (binding.parentType, binding.field)) =
    start.bindings.map (fun binding => (binding.parentType, binding.field)) ++
      shown.map fun site => (site.1, site.2.name)

namespace Discovery

variable {start between finish : Discovery} {definitions first later : List Definition}

theorem Yields.append {left right : List (String × Outline)}
    (yields : start.Yields first between left) (rest : between.Yields later finish right) :
    start.Yields (first ++ later) finish (left ++ right) where
  sites := by rw [List.flatMap_append, List.map_append, yields.sites, rest.sites]
  bindings := by rw [rest.bindings, yields.bindings, List.map_append, List.append_assoc]

theorem Shows.yields {kind : TypeKind} {name : String} {fields : List BoundField}
    (shows : start.Shows definitions finish kind name fields) :
    start.Yields definitions finish ((outlinesOf fields).map (name, ·)) where
  sites := by
    rw [shows.sites, List.map_map, outlinesOf, List.map_map]
    rfl
  bindings := by
    rw [shows.bindings, List.map_append, List.map_map, outlinesOf, List.map_map, List.map_map]
    rfl

variable {opened : Discovery} {name : String} {fields : List BoundField}

theorem yields_of_defineObject {type : Option TypeDescriptor} {implements : Option String}
    {definition : Option Definition}
    (defined : opened.defineObject name type implements fields = (definition, finish))
    (same : opened.bindings = start.bindings) :
    start.Yields definition.toList finish (Contribution.mk name (outlinesOf fields)).shown := by
  have yields := (shows_of_defineObject defined same).yields
  rwa [outlinesOf_distinctFields] at yields

theorem yields_of_defineInterface {type : TypeDescriptor} {definition : Definition}
    (defined : opened.defineInterface name type fields = .ok (definition, finish))
    (same : opened.bindings = start.bindings) :
    start.Yields [definition] finish (Contribution.mk name (outlinesOf fields)).shown := by
  have yields := (shows_of_defineInterface defined same).yields
  rwa [outlinesOf_distinctFields] at yields

theorem yields_nothing (none : definitions.flatMap Definition.sites = [])
    (same : finish.bindings = start.bindings) : start.Yields definitions finish [] where
  sites := by rw [none, List.map_nil]
  bindings := by rw [same, List.map_nil, List.append_nil]

end Discovery

namespace Domain

variable {domain : Domain} {resolvers : List Resolver} {resolver : Resolver} {kind : TypeKind}
  {name : String} {start finish : Discovery} {definitions : List Definition}

theorem target_of_targets (targets : domain.Targets resolver kind name) :
    domain.target? resolver = some (kind, name) := by
  cases targets with
  | root role object =>
    have unsourced : resolver.role.source? = none := by
      cases shape : resolver.role <;> simp_all [ResolverRole.rootName?, ResolverRole.source?]
    rw [target?, unsourced, object]
    simp only [role, Option.map_some]
  | source role present discovered named =>
    rw [target?, role]
    simp [ResolverRole.source?, present, discovered, named, Except.toOption]

theorem declaredOutlines_of_lookup {source : TypeKey} {type : TypeDescriptor}
    (present : domain.catalog.lookup? source = some type) (kind : TypeKind) :
    domain.declaredOutlines source kind = domain.catalog.outlines type kind := by
  rw [declaredOutlines, present]
  rfl

theorem outlinesOf_append (first second : List BoundField) :
    outlinesOf (first ++ second) = outlinesOf first ++ outlinesOf second :=
  List.map_append

theorem Step.yields_resolver (step : domain.Step (.resolver resolver) start definitions finish) :
    ∃ contribution, domain.resolverContribution? resolver = some contribution ∧
      start.Yields definitions finish contribution.shown := by
  cases step with
  | root role contributed defined =>
    refine ⟨_, ?_, Discovery.yields_of_defineObject defined rfl⟩
    rw [resolverContribution?, target_of_targets (.root role rfl),
      outlines_of_contributedFields contributed]
  | extension role discovered recorded contributed present defined =>
    refine ⟨_, ?_, Discovery.yields_of_defineObject defined rfl⟩
    rw [resolverContribution?, target_of_targets (targets_of_discover role discovered recorded),
      outlines_of_contributedFields contributed]
  | resolvedInterface role discovered recorded contributed first present declared defined =>
    refine ⟨_, ?_, Discovery.yields_of_defineInterface defined rfl⟩
    rw [resolverContribution?, target_of_targets (targets_of_discover role discovered recorded), role,
      outlinesOf_append, outlines_of_declaredFields declared,
      outlines_of_contributedFields contributed]
    simp only [ResolverRole.source?, declaredOutlines_of_lookup present]

/-- What is remembered of the resolvers that had their turns: the fields they add to interfaces, and that
these interfaces are built. -/
structure Equipped (domain : Domain) (resolvers : List Resolver) (discovery : Discovery) : Prop where
  extras : ∀ interface, outlinesOf (discovery.extrasOf interface) =
    domain.extraOutlines resolvers interface
  resolved : ∀ interface, (discovery.resolverOf? interface).isSome =
    (domain.interfaceResolver? resolvers interface).isSome
  built : ∀ interface, (discovery.resolverOf? interface).isSome →
    interface ∈ discovery.builtInterfaces

theorem equipped_empty : domain.Equipped [] {} where
  extras := fun _ => rfl
  resolved := fun _ => rfl
  built := nofun

theorem interfaceResolver_concat (resolvers : List Resolver) (resolver : Resolver)
    (interface : String) :
    domain.interfaceResolver? (resolvers ++ [resolver]) interface =
      (domain.interfaceResolver? resolvers interface).or
        (if domain.target? resolver = some (.interface, interface) then some resolver else none) := by
  rw [interfaceResolver?, List.find?_append, interfaceResolver?]
  congr 1
  by_cases own : domain.target? resolver = some (.interface, interface) <;> simp [own]

theorem Equipped.of_eq (equipped : domain.Equipped resolvers start)
    (extras : finish.interfaceExtras = start.interfaceExtras)
    (resolved : finish.interfaceResolvers = start.interfaceResolvers)
    (built : start.builtInterfaces ⊆ finish.builtInterfaces) : domain.Equipped resolvers finish where
  extras := by
    intro interface
    rw [Discovery.extrasOf, extras]
    exact equipped.extras interface
  resolved := by
    intro interface
    rw [Discovery.resolverOf?, resolved]
    exact equipped.resolved interface
  built := by
    intro interface some
    rw [Discovery.resolverOf?, resolved] at some
    exact built (equipped.built interface some)

theorem Equipped.concat_object (equipped : domain.Equipped resolvers start)
    (object : domain.target? resolver = some (.object, name)) :
    domain.Equipped (resolvers ++ [resolver]) start := by
  have same (interface : String) : domain.interfaceResolver? (resolvers ++ [resolver]) interface =
      domain.interfaceResolver? resolvers interface := by
    rw [interfaceResolver_concat, object, if_neg nofun, Option.or_none]
  constructor
  · intro interface
    rw [extraOutlines, same]
    exact equipped.extras interface
  · intro interface
    rw [same]
    exact equipped.resolved interface
  · exact equipped.built

theorem Equipped.defineObject {registry : Registry} {type : Option TypeDescriptor}
    {implements : Option String} {fields : List BoundField} {definition : Option Definition}
    (equipped : domain.Equipped resolvers start)
    (defined : { start with registry }.defineObject name type implements fields =
      (definition, finish)) : domain.Equipped resolvers finish := by
  have opened : domain.Equipped resolvers { start with registry } :=
    equipped.of_eq rfl rfl (List.Subset.refl _)
  refine opened.of_eq (Discovery.defineObject_extras defined) ?_ ?_
  · cases Discovery.defineObject_defines defined <;> rfl
  · rw [Discovery.defineObject_interfaces defined]
    exact List.Subset.refl _

theorem Step.equipped_resolver (step : domain.Step (.resolver resolver) start definitions finish)
    (equipped : domain.Equipped resolvers start) :
    domain.Equipped (resolvers ++ [resolver]) finish := by
  cases step with
  | root role contributed defined =>
    have object : domain.target? resolver = some (.object, _) :=
      target_of_targets (.root role rfl)
    exact (equipped.concat_object object).defineObject defined
  | extension role discovered recorded contributed present defined =>
    have object := target_of_targets (targets_of_discover role discovered recorded)
    exact (equipped.concat_object object).defineObject defined
  | @resolvedInterface _ _ name _ _ _ _ _ _ extras _ _ role discovered recorded contributed first
      present declared defined =>
    have target := target_of_targets (targets_of_discover role discovered recorded)
    obtain ⟨-, -, rfl⟩ := Discovery.defineInterface_ok defined
    -- A second resolver for the interface would have been refused.
    have free : domain.interfaceResolver? resolvers name = none := by
      rw [← Option.not_isSome_iff_eq_none, ← equipped.resolved, first]
      exact nofun
    have own : domain.interfaceResolver? (resolvers ++ [resolver]) name = some resolver := by
      rw [interfaceResolver_concat, free, if_pos target, Option.none_or]
    have other {interface : String} (different : name ≠ interface) :
        domain.interfaceResolver? (resolvers ++ [resolver]) interface =
          domain.interfaceResolver? resolvers interface := by
      rw [interfaceResolver_concat, target, if_neg (by simpa using different), Option.or_none]
    constructor
    · intro interface
      by_cases same : name = interface
      · subst same
        rw [extraOutlines, own]
        simpa [Discovery.extrasOf, Discovery.recordBindings] using
          outlines_of_contributedFields contributed
      · rw [extraOutlines, other same, ← extraOutlines, ← equipped.extras]
        simp [Discovery.extrasOf, Discovery.recordBindings, same]
    · intro interface
      by_cases same : name = interface
      · subst same
        simp [own, Discovery.resolverOf?, Discovery.recordBindings]
      · rw [other same, ← equipped.resolved]
        simp [Discovery.resolverOf?, Discovery.recordBindings, same]
    · intro interface resolved
      by_cases same : name = interface
      · subst same
        exact List.mem_cons_self
      · refine List.mem_cons_of_mem _ (equipped.built interface ?_)
        simpa [Discovery.resolverOf?, Discovery.recordBindings, same] using resolved

theorem Step.equipped_entry {entry : DiscoveredType}
    (step : domain.Step (.entry entry) start definitions finish)
    (equipped : domain.Equipped resolvers start) : domain.Equipped resolvers finish := by
  cases step with
  | object popped object present declared defined =>
    exact equipped.defineObject defined
  | interface popped interface present declared defined =>
    obtain ⟨-, -, rfl⟩ := Discovery.defineInterface_ok defined
    exact equipped.of_eq rfl rfl (List.subset_cons_self _ _)
  | builtInterface => exact equipped.of_eq rfl rfl (List.Subset.refl _)
  | input => exact equipped.of_eq rfl rfl (List.Subset.refl _)
  | enum => exact equipped.of_eq rfl rfl (List.Subset.refl _)

theorem Step.yields_entry {entry : DiscoveredType}
    (step : domain.Step (.entry entry) start definitions finish)
    (equipped : domain.Equipped resolvers start) :
    start.Yields definitions finish
      ((domain.entryContribution? resolvers entry).toList.flatMap (·.shown)) := by
  cases step with
  | @object _ _ _ _ _ _ own _ popped object present declared defined =>
    have yields : start.Yields _ finish _ := Discovery.yields_of_defineObject defined rfl
    have extra : outlinesOf (entry.implements.elim [] start.extrasOf) =
        entry.implements.elim [] (domain.extraOutlines resolvers) := by
      cases entry.implements with
      | none => rfl
      | some interface => exact equipped.extras interface
    rw [outlinesOf_append, outlines_of_declaredFields declared, extra] at yields
    rw [entryContribution?, object, declaredOutlines_of_lookup present]
    simpa using yields
  | interface popped interface present declared defined =>
    have yields : start.Yields _ finish _ := Discovery.yields_of_defineInterface defined rfl
    obtain ⟨fresh, -, -⟩ := Discovery.defineInterface_ok defined
    -- An interface with a resolver was built in the turn of that resolver.
    have unresolved : ¬ (domain.interfaceResolver? resolvers entry.name).isSome := by
      rw [← equipped.resolved]
      exact fun resolved => fresh (equipped.built entry.name resolved)
    rw [outlines_of_declaredFields declared] at yields
    rw [entryContribution?, interface, declaredOutlines_of_lookup present .interface]
    simpa [unresolved] using yields
  | builtInterface popped interface built resolved =>
    rw [entryContribution?, interface]
    simp only [← equipped.resolved, resolved, if_true]
    exact Discovery.yields_nothing rfl rfl
  | input popped input present given =>
    rw [entryContribution?, input]
    exact Discovery.yields_nothing rfl rfl
  | enum popped enum present =>
    rw [entryContribution?, enum]
    exact Discovery.yields_nothing rfl rfl

theorem Run.yields_resolvers {taken : List Resolver}
    (run : domain.Run (resolvers.map Turn.resolver) start definitions finish)
    (equipped : domain.Equipped taken start) :
    start.Yields definitions finish
        ((resolvers.filterMap domain.resolverContribution?).flatMap (·.shown)) ∧
      domain.Equipped (taken ++ resolvers) finish := by
  induction resolvers generalizing taken start definitions with
  | nil =>
    cases run
    rw [List.append_nil]
    exact ⟨Discovery.yields_nothing rfl rfl, equipped⟩
  | cons resolver resolvers ih =>
    cases run with
    | cons step rest =>
      obtain ⟨contribution, same, first⟩ := step.yields_resolver
      obtain ⟨later, ready⟩ := ih rest (step.equipped_resolver equipped)
      rw [List.filterMap_cons_some same, List.flatMap_cons]
      rw [List.append_assoc, List.singleton_append] at ready
      exact ⟨first.append later, ready⟩

theorem Run.yields_entries {entries : List DiscoveredType}
    (run : domain.Run (entries.map Turn.entry) start definitions finish)
    (equipped : domain.Equipped resolvers start) :
    start.Yields definitions finish
      ((entries.filterMap (domain.entryContribution? resolvers)).flatMap (·.shown)) := by
  induction entries generalizing start definitions with
  | nil =>
    cases run
    exact Discovery.yields_nothing rfl rfl
  | cons entry entries ih =>
    cases run with
    | cons step rest =>
      have whole := (step.yields_entry equipped).append (ih rest (step.equipped_entry equipped))
      rw [List.filterMap_cons]
      cases contribution : domain.entryContribution? resolvers entry with
      | none => simpa [contribution] using whole
      | some given => simpa [contribution] using whole

theorem takenFrom_stop (stuck : start.registry.pop? = none) (limit : Nat) :
    domain.takenFrom (limit + 1) start = [] := by
  simp only [takenFrom, stuck]

theorem takenFrom_pop {entry : DiscoveredType} {opened : Registry}
    (popped : start.registry.pop? = some (entry, opened)) (limit : Nat) :
    domain.takenFrom (limit + 1) start = entry :: domain.takenFrom limit
      ((domain.defineDiscovered entry).run.run { start with registry := opened }).run.2 := by
  simp only [takenFrom, popped]

theorem drain_takes {limit : Nat} (given : Gives (domain.drain limit) start definitions finish) :
    domain.Run ((domain.takenFrom limit start).map Turn.entry) start definitions finish := by
  induction limit generalizing start definitions with
  | zero =>
    simp only [drain, gives_pure] at given
    obtain ⟨rfl, rfl⟩ := given
    exact .nil
  | succ limit ih =>
    simp only [drain, gives_bind, gives_get] at given
    obtain ⟨_, start, ⟨rfl, rfl⟩, drained⟩ := given
    split at drained
    · next stuck =>
      obtain ⟨rfl, rfl⟩ := gives_pure.1 drained
      rw [takenFrom_stop stuck]
      exact .nil
    · next entry opened popped =>
      simp only [gives_bind, gives_modify, gives_pure] at drained
      obtain ⟨_, _, rfl, definition, between, defined, later, _, rest, rfl, rfl⟩ := drained
      have after : ((domain.defineDiscovered entry).run.run { start with registry := opened }).run.2 =
          between := congrArg Prod.snd defined
      rw [takenFrom_pop popped, after]
      exact .cons (step_of_defineDiscovered popped defined) (ih rest)

theorem run_of_build {schema : Schema} (built : domain.build resolvers = .ok schema) :
    ∃ definitions, domain.Run
        (resolvers.map Turn.resolver ++ (domain.taken resolvers).map Turn.entry) {} definitions
        (domain.finalDiscovery resolvers) ∧
      schema = (domain.finalDiscovery resolvers).finish
        (domain.directiveDefinitions ++ domain.scalarDeclarations ++ definitions) := by
  obtain ⟨definitions, given, rfl⟩ := gives_of_build built
  refine ⟨definitions, ?_, rfl⟩
  simp only [emitAll, gives_bind, gives_pure] at given
  obtain ⟨resolved, between, added, queued, _, drained, rfl, same⟩ := given
  have after : ((resolvers.mapM domain.addResolver).run.run {}).run.2 = between :=
    congrArg Prod.snd added
  rw [same, taken, after]
  exact (mapM_addResolver_ok added).append (drain_takes drained)

/-- The fields of a schema, and its bindings, are those of the contributions. -/
theorem shown_of_build {schema : Schema} (built : domain.build resolvers = .ok schema) :
    schema.sites.map (fun site => (site.1, site.2.outline)) =
      (domain.contributions resolvers).flatMap (·.shown) ∧
    schema.bindings.map (fun binding => (binding.parentType, binding.field)) =
      ((domain.contributions resolvers).flatMap (·.shown)).map fun site => (site.1, site.2.name) := by
  obtain ⟨definitions, run, rfl⟩ := run_of_build built
  obtain ⟨between, resolved, queued, early, late, rfl⟩ := run.split
  obtain ⟨first, equipped⟩ := early.yields_resolvers equipped_empty
  rw [List.nil_append] at equipped
  have yields := first.append (late.yields_entries equipped)
  have declarations : (domain.directiveDefinitions ++ domain.scalarDeclarations).flatMap
      Definition.sites = [] :=
    List.flatMap_eq_nil_iff.2 fun definition member => (fields_declarations definition member).2
  rw [contributions, List.flatMap_append]
  constructor
  · rw [Schema.sites, Discovery.finish, List.flatMap_append, declarations, List.nil_append]
    exact yields.sites
  · exact yields.bindings

theorem emitted_of_build {schema : Schema} (built : domain.build resolvers = .ok schema) :
    (domain.finalDiscovery resolvers).registry.emitted =
      ((domain.taken resolvers).map (·.name)).reverse := by
  obtain ⟨definitions, run, -⟩ := run_of_build built
  obtain ⟨between, resolved, queued, early, late, -⟩ := run.split
  rw [late.emitted_entries, early.emitted_resolvers]
  exact List.append_nil _

theorem nodup_taken {schema : Schema} (built : domain.build resolvers = .ok schema) :
    ((domain.taken resolvers).map (·.name)).Nodup := by
  have distinct := (built_of_build built).consistent.sound.handled.of_append_left
  rw [emitted_of_build built] at distinct
  exact List.nodup_reverse.1 distinct

theorem mem_taken {schema : Schema} (built : domain.build resolvers = .ok schema) {name : String} :
    name ∈ (domain.taken resolvers).map (·.name) ↔
      ∃ kind, (domain.finalDiscovery resolvers).registry.kindOf? name = some kind := by
  have whole := built_of_build built
  rw [← List.mem_reverse, ← emitted_of_build built, ← Option.isSome_iff_exists, Registry.kindOf_isSome]
  constructor
  · intro emitted
    exact whole.consistent.sound.recorded name (List.mem_append_left _ emitted)
  · intro recorded
    rw [← Registry.kindOf_isSome] at recorded
    obtain ⟨kind, found⟩ := Option.isSome_iff_exists.1 recorded
    exact whole.emitted_of_recorded found

end Domain

end SchemaDiscovery
