import SchemaDiscovery.Schema
import SchemaDiscovery.Proofs.Discovery.Orderly
/-!
A successful build as a sequence of steps: one for each resolver, then one for each type from the
queue. Main statements: every successful turn of the build is one of eight steps, and what each step
preserves holds at the end of the build.
-/

namespace SchemaDiscovery

/-- What a step of the build takes up. -/
inductive Turn
  | resolver (resolver : Resolver)
  | entry (entry : DiscoveredType)

namespace Domain

/-- The steps of a build: the discovery before, the definitions emitted, the discovery after. -/
inductive Step (domain : Domain) : Turn → Discovery → List Definition → Discovery → Prop
  | root {resolver : Resolver} {name : String} {start finish : Discovery} {registry : Registry}
    {fields : List BoundField} {definition : Option Definition}
    (role : resolver.role.rootName? = some name)
    (contributed : Gives (domain.contributedFields resolver) start.registry fields registry)
    (defined : { start with registry }.defineObject name none
      ((registry.find? name).bind (·.implements)) fields = (definition, finish)) :
    Step domain (.resolver resolver) start definition.toList finish
  | extension {resolver : Resolver} {source : TypeKey} {name : String} {type : TypeDescriptor}
    {start finish : Discovery} {found registry : Registry} {fields : List BoundField}
    {definition : Option Definition}
    (role : resolver.role = .extension source)
    (discovered : domain.discover start.registry source .object = (.ok name, found))
    (kind : found.kindOf? name = some .object)
    (contributed : Gives (domain.contributedFields resolver) found fields registry)
    (present : domain.catalog.lookup? source = some type)
    (defined : { start with registry }.defineObject name (some type)
      ((registry.find? name).bind (·.implements)) fields = (definition, finish)) :
    Step domain (.resolver resolver) start definition.toList finish
  | resolvedInterface {resolver : Resolver} {source : TypeKey} {name : String}
    {type : TypeDescriptor} {start finish : Discovery} {found between registry : Registry}
    {extras own : List BoundField} {definition : Definition}
    (role : resolver.role = .extension source)
    (discovered : domain.discover start.registry source .object = (.ok name, found))
    (kind : found.kindOf? name = some .interface)
    (contributed : Gives (domain.contributedFields resolver) found extras between)
    (first : start.resolverOf? name = none)
    (present : domain.catalog.lookup? source = some type)
    (declared : Gives (domain.declaredFields type .interface) between own registry)
    (defined : { start with
        registry
        interfaceResolvers := (name, resolver.name) :: start.interfaceResolvers
        interfaceExtras := (name, extras) :: start.interfaceExtras }.defineInterface
      name type (own ++ extras) = .ok (definition, finish)) :
    Step domain (.resolver resolver) start [definition] finish
  | object {entry : DiscoveredType} {type : TypeDescriptor} {start finish : Discovery}
    {opened registry : Registry} {own : List BoundField} {definition : Option Definition}
    (popped : start.registry.pop? = some (entry, opened))
    (kind : entry.kind = .object)
    (present : domain.catalog.lookup? entry.source = some type)
    (declared : Gives (domain.declaredFields type .object) opened own registry)
    (defined : { start with registry }.defineObject entry.name (some type) entry.implements
      (own ++ entry.implements.elim [] start.extrasOf) = (definition, finish)) :
    Step domain (.entry entry) start definition.toList finish
  | interface {entry : DiscoveredType} {type : TypeDescriptor} {start finish : Discovery}
    {opened registry : Registry} {own : List BoundField} {definition : Definition}
    (popped : start.registry.pop? = some (entry, opened))
    (kind : entry.kind = .interface)
    (present : domain.catalog.lookup? entry.source = some type)
    (declared : Gives (domain.declaredFields type .interface) opened own registry)
    (defined : { start with registry }.defineInterface entry.name type own =
      .ok (definition, finish)) :
    Step domain (.entry entry) start [definition] finish
  | builtInterface {entry : DiscoveredType} {start : Discovery} {opened : Registry}
    (popped : start.registry.pop? = some (entry, opened))
    (kind : entry.kind = .interface)
    (built : entry.name ∈ start.builtInterfaces)
    (resolved : (start.resolverOf? entry.name).isSome) :
    Step domain (.entry entry) start [] { start with registry := opened }
  | input {entry : DiscoveredType} {type : TypeDescriptor} {start : Discovery}
    {opened registry : Registry} {values : List InputValue}
    (popped : start.registry.pop? = some (entry, opened))
    (kind : entry.kind = .input)
    (present : domain.catalog.lookup? entry.source = some type)
    (given : Gives (domain.inputValues entry.name type) opened values registry) :
    Step domain (.entry entry) start [inputDefinition entry.name type values]
      { start with registry }
  | enum {entry : DiscoveredType} {type : TypeDescriptor} {start : Discovery} {opened : Registry}
    (popped : start.registry.pop? = some (entry, opened))
    (kind : entry.kind = .enum)
    (present : domain.catalog.lookup? entry.source = some type) :
    Step domain (.entry entry) start [enumDefinition entry.name type]
      { start with registry := opened }

variable {domain : Domain}

theorem require_ok {catalog : Catalog} {key : TypeKey} {type : TypeDescriptor} :
    catalog.require key = .ok type ↔ catalog.lookup? key = some type := by
  unfold Catalog.require
  cases catalog.lookup? key <;> simp

theorem resolverTarget_ok {resolver : Resolver} {name : String} {kind : TypeKind}
    {start opened : Discovery}
    (target : Gives (domain.resolverTarget resolver) start (name, kind) opened) :
    (resolver.role.rootName? = some name ∧ kind = .object ∧ opened = start) ∨
    ∃ source found, resolver.role = .extension source ∧
      domain.discover start.registry source .object = (.ok name, found) ∧
      opened = { start with registry := found } ∧ found.kindOf? name = some kind ∧
      (kind = .object ∨ kind = .interface) := by
  unfold resolverTarget at target
  cases role : resolver.role with
  | query =>
    simp only [role, gives_pure, Prod.mk.injEq] at target
    obtain ⟨⟨rfl, rfl⟩, rfl⟩ := target
    exact .inl ⟨rfl, rfl, rfl⟩
  | mutation =>
    simp only [role, gives_pure, Prod.mk.injEq] at target
    obtain ⟨⟨rfl, rfl⟩, rfl⟩ := target
    exact .inl ⟨rfl, rfl, rfl⟩
  | subscription =>
    simp only [role, gives_pure, Prod.mk.injEq] at target
    obtain ⟨⟨rfl, rfl⟩, rfl⟩ := target
    exact .inl ⟨rfl, rfl, rfl⟩
  | extension source =>
    simp only [role, gives_bind, gives_build, gives_get, gives_mk] at target
    obtain ⟨name', _, ⟨found, discovered, rfl⟩, _, _, ⟨rfl, rfl⟩, decided⟩ := target
    have reached : domain.discover start.registry source .object = (.ok name', found) := discovered
    obtain ⟨⟨type, kind', -, -, -, recorded⟩, -⟩ := discover_ok reached
    have known : ((found.find? name').map (·.kind)).getD .object = kind' := by
      rw [show (found.find? name').map (·.kind) = some kind' from recorded, Option.getD_some]
    simp only [known] at decided
    split at decided
    · next allowed =>
      simp only [gives_pure, Prod.mk.injEq] at decided
      obtain ⟨⟨rfl, rfl⟩, rfl⟩ := decided
      exact .inr ⟨source, found, rfl, reached, rfl, recorded, allowed⟩
    · exact (gives_throw.1 decided).elim

theorem defineResolvedInterface_ok {name : String} {source : TypeKey} {resolver : Resolver}
    {extras : List BoundField} {start finish : Discovery} {definition : Definition}
    (given : Gives (domain.defineResolvedInterface name source resolver extras) start definition
      finish) :
    start.resolverOf? name = none ∧ ∃ type own registry,
      domain.catalog.lookup? source = some type ∧
      Gives (domain.declaredFields type .interface) start.registry own registry ∧
      { start with
        registry
        interfaceResolvers := (name, resolver.name) :: start.interfaceResolvers
        interfaceExtras := (name, extras) :: start.interfaceExtras }.defineInterface
          name type (own ++ extras) = .ok (definition, finish) := by
  unfold defineResolvedInterface defineInterface at given
  simp only [gives_bind, gives_get] at given
  obtain ⟨_, _, ⟨rfl, rfl⟩, given⟩ := given
  split at given
  · simp only [gives_bind, gives_throw, false_and, exists_false] at given
  · next free =>
    simp only [gives_bind, gives_modify, gives_liftM, gives_build, gives_get, gives_set, gives_pure,
      require_ok] at given
    obtain ⟨_, _, rfl, type, _, ⟨present, rfl⟩, own, _, ⟨registry, declared, rfl⟩, _, _, rfl, _, _,
      ⟨rfl, rfl⟩, ⟨definition', finish'⟩, _, ⟨defined, rfl⟩, _, _, rfl, rfl, rfl⟩ := given
    exact ⟨Option.eq_none_iff_forall_ne_some.2 free, type, own, registry, present, declared, defined⟩

theorem step_of_addResolver {resolver : Resolver} {start finish : Discovery}
    {definitions : List Definition}
    (given : Gives (domain.addResolver resolver) start definitions finish) :
    domain.Step (.resolver resolver) start definitions finish := by
  unfold addResolver at given
  simp only [gives_bind, gives_build] at given
  obtain ⟨⟨name, kind⟩, opened, target, fields, _, ⟨registry, contributed, rfl⟩, given⟩ := given
  rcases resolverTarget_ok target with ⟨role, rfl, rfl⟩ |
    ⟨source, found, role, discovered, rfl, recorded, rfl | rfl⟩
  · have unsourced : resolver.role.source? = none := by
      cases shape : resolver.role <;> simp_all [ResolverRole.rootName?, ResolverRole.source?]
    simp only [unsourced, defineObject, gives_bind, gives_pure, gives_get, gives_modifyGet] at given
    obtain ⟨_, _, ⟨rfl, rfl⟩, _, _, ⟨rfl, rfl⟩, definition, _, defined, rfl, rfl⟩ := given
    exact .root role contributed defined
  · have sourced : resolver.role.source? = some source := by rw [role]; rfl
    simp only [sourced, defineObject, gives_bind, gives_pure, gives_get, gives_modifyGet, gives_map,
      gives_liftM, require_ok] at given
    obtain ⟨_, _, ⟨type, ⟨present, rfl⟩, rfl⟩, _, _, ⟨rfl, rfl⟩, definition, _, defined, rfl, rfl⟩ :=
      given
    exact .extension role discovered recorded contributed present defined
  · have sourced : resolver.role.source? = some source := by rw [role]; rfl
    simp only [sourced, gives_bind, gives_pure] at given
    obtain ⟨definition, _, given, rfl, rfl⟩ := given
    obtain ⟨free, type, own, _, present, declared, defined⟩ := defineResolvedInterface_ok given
    exact .resolvedInterface role discovered recorded contributed free present declared defined

theorem defineInterface_gives {name : String} {type : TypeDescriptor} {fields : List BoundField}
    {start finish : Discovery} {definition : Definition} :
    Gives (defineInterface name type fields) start definition finish ↔
      start.defineInterface name type fields = .ok (definition, finish) := by
  unfold defineInterface
  simp only [gives_bind, gives_get, gives_liftM, gives_set, gives_pure]
  constructor
  · rintro ⟨_, _, ⟨rfl, rfl⟩, ⟨_, _⟩, _, ⟨defined, rfl⟩, _, _, rfl, rfl, rfl⟩
    exact defined
  · intro defined
    exact ⟨_, _, ⟨rfl, rfl⟩, _, _, ⟨defined, rfl⟩, ⟨⟩, _, rfl, rfl, rfl⟩

theorem step_of_defineDiscovered {entry : DiscoveredType} {start finish : Discovery}
    {opened : Registry} {definition : Option Definition}
    (popped : start.registry.pop? = some (entry, opened))
    (given : Gives (domain.defineDiscovered entry) { start with registry := opened } definition
      finish) :
    domain.Step (.entry entry) start definition.toList finish := by
  unfold defineDiscovered at given
  simp only [gives_bind, gives_liftM, require_ok] at given
  obtain ⟨type, _, ⟨present, rfl⟩, given⟩ := given
  cases kind : entry.kind with
  | object =>
    simp only [kind, defineObject, gives_bind, gives_build, gives_get, gives_modifyGet] at given
    obtain ⟨own, _, ⟨registry, declared, rfl⟩, _, _, ⟨rfl, rfl⟩, defined⟩ := given
    exact .object popped kind present declared defined
  | interface =>
    simp only [kind, gives_bind, gives_get] at given
    obtain ⟨_, _, ⟨rfl, rfl⟩, given⟩ := given
    split at given
    · next built =>
      simp only [Bool.and_eq_true, List.contains_iff_mem] at built
      obtain ⟨rfl, rfl⟩ := gives_pure.1 given
      exact .builtInterface popped kind built.1 built.2
    · simp only [gives_bind, gives_build, gives_pure, defineInterface_gives] at given
      obtain ⟨own, _, ⟨registry, declared, rfl⟩, definition, _, defined, rfl, rfl⟩ := given
      exact .interface popped kind present declared defined
  | input =>
    simp only [kind, gives_bind, gives_build, gives_pure] at given
    obtain ⟨values, _, ⟨registry, given, rfl⟩, rfl, rfl⟩ := given
    exact .input popped kind present given
  | enum =>
    simp only [kind, gives_pure] at given
    obtain ⟨rfl, rfl⟩ := given
    exact .enum popped kind present

/-- The steps of a build one after the other, with the definitions in the order they came. -/
inductive Run (domain : Domain) : List Turn → Discovery → List Definition → Discovery → Prop
  | nil {start : Discovery} : Run domain [] start [] start
  | cons {turn : Turn} {turns : List Turn} {start between finish : Discovery}
    {first later : List Definition} (step : domain.Step turn start first between)
    (rest : Run domain turns between later finish) :
    Run domain (turn :: turns) start (first ++ later) finish

theorem Run.append {left right : List Turn} {start between finish : Discovery}
    {first later : List Definition} (run : domain.Run left start first between)
    (rest : domain.Run right between later finish) :
    domain.Run (left ++ right) start (first ++ later) finish := by
  induction run with
  | nil => exact rest
  | cons step _ ih =>
    rw [List.append_assoc]
    exact .cons step (ih rest)

theorem Run.preserves (invariant : List Turn → Discovery → List Definition → Prop)
    (each : ∀ {taken turn start emitted definitions finish}, invariant taken start emitted →
      domain.Step turn start definitions finish →
      invariant (taken ++ [turn]) finish (emitted ++ definitions))
    {turns : List Turn} {start finish : Discovery} {definitions : List Definition}
    (run : domain.Run turns start definitions finish) (taken : List Turn)
    {emitted : List Definition} (holds : invariant taken start emitted) :
    invariant (taken ++ turns) finish (emitted ++ definitions) := by
  induction run generalizing taken emitted with
  | nil => simpa using holds
  | cons step _ ih =>
    have further := ih (taken ++ [_]) (each holds step)
    simpa only [List.append_assoc, List.singleton_append] using further

end Domain

end SchemaDiscovery
