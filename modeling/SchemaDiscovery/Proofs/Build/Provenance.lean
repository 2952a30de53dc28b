import SchemaDiscovery.Proofs.Build.History
import SchemaDiscovery.Proofs.Discovery.Signature
/-!
Where the fields of definitions come from. Main statement: each step shows the fields of one name, the
same in its definitions and in the bindings, and each of them is made from a signature that a type of
that name declares or that a resolver adds to it.
-/

namespace SchemaDiscovery

namespace Definition

def typed? : Definition → Option (TypeKind × String)
  | .type definition => definition.body.kind?.map (·, definition.name)
  | _ => none

def sites : Definition → List (String × FieldDefinition)
  | .type definition => (Definition.type definition).fields.map (definition.name, ·)
  | _ => []

end Definition

/-- The fields are shown under the name, by the emitted definitions as by the new bindings. -/
structure Discovery.Shows (start : Discovery) (definitions : List Definition) (finish : Discovery)
    (kind : TypeKind) (name : String) (fields : List BoundField) : Prop where
  bindings : finish.bindings = start.bindings ++ fields.map (·.bind name)
  sites : definitions.flatMap Definition.sites = fields.map fun field => (name, field.definition)
  distinct : (fields.map (·.definition.name)).Nodup
  typed : ∀ definition ∈ definitions, definition.typed? = some (kind, name)
  full : kind ≠ .object → ∀ definition ∈ definitions, definition.fullName? kind = some name
  fields : ∀ definition ∈ definitions, definition.fields = fields.map (·.definition)

def Turn.Among (resolvers : List Resolver) : Turn → Prop
  | .resolver source => source ∈ resolvers
  | .entry _ => True

theorem Turn.among_of_mem {resolvers : List Resolver} {entries : List DiscoveredType} :
    ∀ turn ∈ resolvers.map Turn.resolver ++ entries.map Turn.entry, turn.Among resolvers := by
  intro turn member
  rcases List.mem_append.1 member with resolving | emitting
  · obtain ⟨resolver, listed, rfl⟩ := List.mem_map.1 resolving
    exact listed
  · obtain ⟨entry, -, rfl⟩ := List.mem_map.1 emitting
    trivial

namespace Discovery

variable {start opened finish : Discovery} {name : String}

theorem nodup_names_distinctFields (fields : List BoundField) :
    ((distinctFields fields).map (·.definition.name)).Nodup :=
  Ordered.nodup_keys_ofList _ fields

theorem shows_type {definition : TypeDefinition} {kind : TypeKind} {fields : List BoundField}
    (shape : definition.body.kind? = some kind)
    (complete : kind ≠ .object → definition.isExtension = false)
    (listed : (Definition.type definition).fields = fields.map (·.definition))
    (distinct : (fields.map (·.definition.name)).Nodup)
    (bound : finish.bindings = start.bindings ++ fields.map (·.bind definition.name)) :
    start.Shows [.type definition] finish kind definition.name fields where
  bindings := bound
  sites := by
    rw [List.flatMap_singleton]
    show (Definition.type definition).fields.map _ = _
    rw [listed, List.map_map]
    rfl
  distinct := distinct
  typed := by
    intro found member
    rw [List.mem_singleton.1 member, Definition.typed?, shape]
    rfl
  full := by
    intro different found member
    rw [List.mem_singleton.1 member, Definition.fullName_type (complete different) shape, if_pos rfl]
  fields := by
    intro found member
    rw [List.mem_singleton.1 member, listed]

theorem shows_nothing {kind : TypeKind} (same : finish.bindings = start.bindings) :
    start.Shows [] finish kind name [] where
  bindings := same.trans (List.append_nil _).symm
  sites := rfl
  distinct := .nil
  typed := nofun
  full := nofun
  fields := nofun

theorem shows_of_defineObject {type : Option TypeDescriptor} {implements : Option String}
    {fields : List BoundField} {definition : Option Definition}
    (defined : opened.defineObject name type implements fields = (definition, finish))
    (same : opened.bindings = start.bindings) :
    start.Shows definition.toList finish .object name (distinctFields fields) := by
  have distinct := nodup_names_distinctFields fields
  cases defineObject_defines defined with
  | full implementations fresh =>
    exact shows_type rfl (fun _ => rfl) rfl distinct (congrArg (· ++ _) same)
  | nothing known none =>
    rw [none]
    exact shows_nothing same
  | extension known some =>
    exact shows_type rfl (absurd rfl) rfl distinct (congrArg (· ++ _) same)

theorem shows_of_defineInterface {type : TypeDescriptor} {fields : List BoundField}
    {definition : Definition}
    (defined : opened.defineInterface name type fields = .ok (definition, finish))
    (same : opened.bindings = start.bindings) :
    start.Shows [definition] finish .interface name (distinctFields fields) := by
  have distinct := nodup_names_distinctFields fields
  obtain ⟨-, rfl, rfl⟩ := defineInterface_ok defined
  exact shows_type rfl (fun _ => rfl) rfl distinct (congrArg (· ++ _) same)

end Discovery

namespace Domain

variable {domain : Domain} {resolvers : List Resolver} {registry before after : Registry}
  {kind : TypeKind} {name : String} {turn : Turn} {start finish : Discovery}
  {definitions : List Definition}

/-- The resolver adds fields to the type of that name: a root type, or what the source of the resolver
is discovered as. -/
inductive Targets (domain : Domain) (resolver : Resolver) (kind : TypeKind) (name : String) : Prop
  | root (role : resolver.role.rootName? = some name) (object : kind = .object)
  | source {source : TypeKey} {type : TypeDescriptor} (role : resolver.role = .extension source)
    (present : domain.catalog.lookup? source = some type)
    (discovered : type.kindWhen .object = .ok kind) (named : type.schemaName kind = name)

/-- The type is the one that a build takes for the name in the role: it is recorded under the name, or
a resolver for it adds fields under the name. -/
inductive Bears (domain : Domain) (resolvers : List Resolver) (registry : Registry)
    (kind : TypeKind) (name : String) (type : TypeDescriptor) : Prop
  | recorded {entry : DiscoveredType} (found : registry.find? name = some entry)
    (role : entry.kind = kind) (present : domain.catalog.lookup? entry.source = some type)
  | extended {resolver : Resolver} {source : TypeKey} (member : resolver ∈ resolvers)
    (role : resolver.role = .extension source)
    (present : domain.catalog.lookup? source = some type)
    (discovered : type.kindWhen .object = .ok kind) (named : type.schemaName kind = name)

inductive Adds (domain : Domain) (resolvers : List Resolver) (registry : Registry)
    (kind : TypeKind) (name : String) (signature : Signature) : Prop
  | contributed {resolver : Resolver} (listed : resolver ∈ resolvers)
    (targets : domain.Targets resolver kind name) (member : signature ∈ resolver.signatures)
  | inherited {resolver : Resolver} {interface : String} (listed : resolver ∈ resolvers)
    (targets : domain.Targets resolver .interface interface)
    (links : registry.Links name interface) (member : signature ∈ resolver.signatures)

/-- Where the fields of a name come from: a type that bears the name declares them, or a resolver adds
them. -/
inductive Offers (domain : Domain) (resolvers : List Resolver) (registry : Registry)
    (kind : TypeKind) (name : String) (signature : Signature) : Prop
  | declared {type : TypeDescriptor} (bears : domain.Bears resolvers registry kind name type)
    (member : signature ∈ domain.catalog.signatures type kind)
  | added (adds : domain.Adds resolvers registry kind name signature)

def Comes (domain : Domain) (resolvers : List Resolver) (registry : Registry) (kind : TypeKind)
    (name : String) (field : BoundField) : Prop :=
  ∃ signature, domain.Offers resolvers registry kind name signature ∧
    domain.Makes registry signature field

/-- The fields that are kept for the implementations of an interface are made from signatures of its
resolver. -/
def KeepsExtras (domain : Domain) (resolvers : List Resolver) (discovery : Discovery) : Prop :=
  ∀ interface, ∀ field ∈ discovery.extrasOf interface, ∃ resolver ∈ resolvers,
    domain.Targets resolver .interface interface ∧
    ∃ signature ∈ resolver.signatures, domain.Makes discovery.registry signature field

theorem Bears.of_grows {type : TypeDescriptor}
    (bears : domain.Bears resolvers before kind name type) (grows : before.Grows after) :
    domain.Bears resolvers after kind name type := by
  cases bears with
  | recorded found role present =>
    obtain ⟨link, kept⟩ := grows.kept _ _ found
    exact .recorded kept role present
  | extended member role present discovered named =>
    exact .extended member role present discovered named

theorem Adds.of_grows {signature : Signature}
    (adds : domain.Adds resolvers before kind name signature) (grows : before.Grows after) :
    domain.Adds resolvers after kind name signature := by
  cases adds with
  | contributed listed targets member => exact .contributed listed targets member
  | inherited listed targets links member =>
    exact .inherited listed targets (links.of_grows grows) member

theorem Offers.of_grows {signature : Signature}
    (offers : domain.Offers resolvers before kind name signature) (grows : before.Grows after) :
    domain.Offers resolvers after kind name signature := by
  cases offers with
  | declared bears member => exact .declared (bears.of_grows grows) member
  | added adds => exact .added (adds.of_grows grows)

theorem Comes.of_grows {field : BoundField} (comes : domain.Comes resolvers before kind name field)
    (grows : before.Grows after) : domain.Comes resolvers after kind name field := by
  obtain ⟨signature, offers, makes⟩ := comes
  exact ⟨signature, offers.of_grows grows, makes.of_grows grows⟩

theorem KeepsExtras.of_grows (keeps : domain.KeepsExtras resolvers start)
    (grows : start.registry.Grows finish.registry)
    (same : finish.interfaceExtras = start.interfaceExtras) :
    domain.KeepsExtras resolvers finish := by
  intro interface field member
  rw [Discovery.extrasOf, same] at member
  obtain ⟨resolver, listed, targets, signature, offered, makes⟩ := keeps interface field member
  exact ⟨resolver, listed, targets, signature, offered, makes.of_grows grows⟩

theorem targets_of_discover {resolver : Resolver} {source : TypeKey}
    (role : resolver.role = .extension source)
    (discovered : domain.discover before source .object = (.ok name, after))
    (recorded : after.kindOf? name = some kind) : domain.Targets resolver kind name := by
  obtain ⟨⟨type, kind', present, chosen, named, known⟩, -⟩ := discover_ok discovered
  rw [recorded] at known
  cases known
  exact .source role present chosen named.symm

theorem bears_of_discover {resolver : Resolver} {source : TypeKey} {type : TypeDescriptor}
    (listed : resolver ∈ resolvers) (role : resolver.role = .extension source)
    (present : domain.catalog.lookup? source = some type)
    (discovered : domain.discover before source .object = (.ok name, after))
    (recorded : after.kindOf? name = some kind) :
    domain.Bears resolvers registry kind name type := by
  obtain ⟨⟨found, kind', known, chosen, named, kept⟩, -⟩ := discover_ok discovered
  rw [recorded] at kept
  cases kept
  rw [present] at known
  cases known
  exact .extended listed role present chosen named.symm

theorem bears_of_pop {entry : DiscoveredType} {type : TypeDescriptor}
    (popped : before.pop? = some (entry, after))
    (present : domain.catalog.lookup? entry.source = some type) :
    domain.Bears resolvers before entry.kind entry.name type := by
  obtain ⟨rest, -, found, -⟩ := Registry.pop_some popped
  exact .recorded found rfl present

theorem keepsExtras_empty : domain.KeepsExtras resolvers {} := nofun

theorem Step.keepsExtras (step : domain.Step turn start definitions finish)
    (among : turn.Among resolvers)
    (keeps : domain.KeepsExtras resolvers start) : domain.KeepsExtras resolvers finish := by
  have grows := step.grows
  cases turn with
  | entry entry => exact keeps.of_grows grows step.extras_entry
  | resolver resolver =>
    cases step with
    | root role contributed defined =>
      have same := Discovery.defineObject_extras defined
      exact keeps.of_grows grows same
    | extension role discovered kind contributed present defined =>
      have same := Discovery.defineObject_extras defined
      exact keeps.of_grows grows same
    | @resolvedInterface _ source name type _ _ found between registry extras own _ role discovered
        recorded contributed first present declared defined =>
      obtain ⟨-, -, rfl⟩ := Discovery.defineInterface_ok defined
      have further := ((orderly_declaredFields _ _).reaches_of_gives declared).grows
      intro interface field member
      by_cases same : name = interface
      · subst same
        have added : field ∈ extras := by
          simpa [Discovery.extrasOf, Discovery.recordBindings] using member
        obtain ⟨signature, offered, makes⟩ :=
          makes_of_contributedFields contributed field added
        exact ⟨resolver, among, targets_of_discover role discovered recorded,
          signature, offered, makes.of_grows further⟩
      · have kept : field ∈ start.extrasOf interface := by
          simpa [Discovery.extrasOf, Discovery.recordBindings, same] using member
        obtain ⟨other, listed, targets, signature, offered, makes⟩ := keeps interface field kept
        exact ⟨other, listed, targets, signature, offered, makes.of_grows grows⟩

theorem Step.shows (step : domain.Step turn start definitions finish)
    (among : turn.Among resolvers)
    (keeps : domain.KeepsExtras resolvers start) :
    ∃ kind name fields, start.Shows definitions finish kind name fields ∧
      ∀ field ∈ fields, domain.Comes resolvers finish.registry kind name field := by
  have whole := step.grows
  cases step with
  | @root resolver name _ _ _ fields _ role contributed defined =>
    refine ⟨.object, name, _, Discovery.shows_of_defineObject defined rfl, fun field member => ?_⟩
    obtain ⟨signature, offered, makes⟩ :=
      makes_of_contributedFields contributed field (Ordered.mem_ofList member)
    rw [Discovery.defineObject_registry defined]
    exact ⟨signature, .added (.contributed among (.root role rfl) offered), makes⟩
  | @extension resolver source name _ _ _ _ _ _ _ role discovered recorded contributed present
      defined =>
    refine ⟨.object, name, _, Discovery.shows_of_defineObject defined rfl, fun field member => ?_⟩
    obtain ⟨signature, offered, makes⟩ :=
      makes_of_contributedFields contributed field (Ordered.mem_ofList member)
    rw [Discovery.defineObject_registry defined]
    exact ⟨signature, .added (.contributed among
      (targets_of_discover role discovered recorded) offered), makes⟩
  | @resolvedInterface resolver source name type _ _ _ _ _ extras own _ role discovered recorded
      contributed first present declared defined =>
    refine ⟨.interface, name, _, Discovery.shows_of_defineInterface defined rfl, fun field member => ?_⟩
    have further := ((orderly_declaredFields _ _).reaches_of_gives declared).grows
    obtain ⟨-, -, rfl⟩ := Discovery.defineInterface_ok defined
    rcases List.mem_append.1 (Ordered.mem_ofList member) with mine | added
    · obtain ⟨signature, offered, makes⟩ := makes_of_declaredFields declared field mine
      exact ⟨signature, .declared (bears_of_discover among role present discovered
        recorded) offered, makes⟩
    · obtain ⟨signature, offered, makes⟩ := makes_of_contributedFields contributed field added
      exact ⟨signature, .added (.contributed among
        (targets_of_discover role discovered recorded) offered), makes.of_grows further⟩
  | @object entry type _ _ _ _ own _ popped object present declared defined =>
    refine ⟨.object, entry.name, _, Discovery.shows_of_defineObject defined rfl,
      fun field member => ?_⟩
    have bears : domain.Bears resolvers finish.registry entry.kind entry.name type :=
      (bears_of_pop popped present).of_grows whole
    rw [object] at bears
    rcases List.mem_append.1 (Ordered.mem_ofList member) with mine | extra
    · obtain ⟨signature, offered, makes⟩ := makes_of_declaredFields declared field mine
      rw [Discovery.defineObject_registry defined] at bears ⊢
      exact ⟨signature, .declared bears offered, makes⟩
    · cases linked : entry.implements with
      | none =>
        rw [linked] at extra
        cases extra
      | some interface =>
        rw [linked] at extra
        obtain ⟨resolver, listed, targets, signature, offered, makes⟩ :=
          keeps interface field extra
        obtain ⟨rest, -, found, -⟩ := Registry.pop_some popped
        have links : start.registry.Links entry.name interface := ⟨entry, found, linked⟩
        exact ⟨signature, .added (.inherited listed targets (links.of_grows whole) offered),
          makes.of_grows whole⟩
  | @interface entry type _ _ _ _ own _ popped interface present declared defined =>
    refine ⟨.interface, entry.name, _, Discovery.shows_of_defineInterface defined rfl,
      fun field member => ?_⟩
    have bears : domain.Bears resolvers finish.registry entry.kind entry.name type :=
      (bears_of_pop popped present).of_grows whole
    rw [interface] at bears
    obtain ⟨signature, offered, makes⟩ :=
      makes_of_declaredFields declared field (Ordered.mem_ofList member)
    obtain ⟨-, -, rfl⟩ := Discovery.defineInterface_ok defined
    exact ⟨signature, .declared bears offered, makes⟩
  | @builtInterface entry _ _ popped kind built resolved =>
    exact ⟨.interface, entry.name, [], Discovery.shows_nothing rfl, nofun⟩
  | @input entry type _ _ _ values popped kind present given =>
    exact ⟨.input, entry.name, [],
      Discovery.shows_type rfl (fun _ => rfl) rfl .nil (List.append_nil _).symm, nofun⟩
  | @enum entry type _ _ popped kind present =>
    exact ⟨.enum, entry.name, [],
      Discovery.shows_type rfl (fun _ => rfl) rfl .nil (List.append_nil _).symm, nofun⟩

theorem Run.comes {turns : List Turn} (run : domain.Run turns start definitions finish)
    (among : ∀ turn ∈ turns, turn.Among resolvers)
    (keeps : domain.KeepsExtras resolvers start) :
    ∀ definition ∈ definitions, ∃ kind name, definition.typed? = some (kind, name) ∧
      (kind ≠ .object → definition.fullName? kind = some name) ∧
      ∀ shown ∈ definition.fields, ∃ field, field.definition = shown ∧
        domain.Comes resolvers finish.registry kind name field := by
  induction run with
  | nil => exact nofun
  | cons step rest ih =>
    have first := among _ List.mem_cons_self
    intro definition member
    rcases List.mem_append.1 member with emitted | emitted
    · obtain ⟨kind, name, fields, shows, comes⟩ := step.shows first keeps
      refine ⟨kind, name, shows.typed definition emitted,
        fun different => shows.full different definition emitted, fun shown present => ?_⟩
      rw [shows.fields definition emitted] at present
      obtain ⟨field, kept, rfl⟩ := List.mem_map.1 present
      exact ⟨field, rfl, (comes field kept).of_grows rest.grows⟩
    · exact ih (fun turn later => among turn (List.mem_cons_of_mem _ later))
        (step.keepsExtras first keeps) definition emitted

end Domain

end SchemaDiscovery
