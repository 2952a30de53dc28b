import SchemaDiscovery.Proofs.Build.Moments
import SchemaDiscovery.Proofs.Build.Provenance
import SchemaDiscovery.Proofs.Discovery.Adoption
import SchemaDiscovery.Proofs.Discovery.Demand
/-!
How recorded types came to be recorded. Main statement: at the end of a build each recorded object has
arrived because the build called for it, and each interface of an object was brought along by a type that
the build called for and registered under the name of the object.
-/

namespace SchemaDiscovery

theorem TypeDescriptor.requested_of_object {type : TypeDescriptor} {requested : TypeKind}
    (role : type.kindWhen requested = .ok .object) : requested = .object := by
  unfold TypeDescriptor.kindWhen at role
  split at role
  · cases role
  · split at role
    · split at role <;> cases role
    · exact Except.ok.inj role

namespace Domain

variable {domain : Domain} {asked : TypeKey → Prop} {registry before after : Registry}
  {name interface : String} {key : TypeKey} {type : TypeDescriptor} {link : Option String}

/-- The name was first recorded for the type of the key, which was sent on with the link. -/
inductive Arrives (domain : Domain) (name : String) (key : TypeKey) (link : Option String) :
    Registry → Prop
  | first {before after : Registry} {requested : TypeKind} {finding : Finding}
    (occurs : domain.Occurs before)
    (warranted : domain.Warranted before (.discover key requested link))
    (examined : domain.examine key requested link = .ok finding)
    (named : finding.entry.name = name)
    (registered : before.register finding.entry = .ok (.new finding.entry, after)) :
    Arrives domain name key link after
  | later {before after : Registry} (arrives : Arrives domain name key link before)
    (operates : domain.Operates before after) : Arrives domain name key link after

/-- The type of the key was registered under the name, be it new or known, and was sent on with the
link. -/
inductive Joins (domain : Domain) (name : String) (key : TypeKey) (link : Option String) :
    Registry → Prop
  | now {before after : Registry} {requested : TypeKind} {finding : Finding}
    {registration : Registration} (occurs : domain.Occurs before)
    (warranted : domain.Warranted before (.discover key requested link))
    (examined : domain.examine key requested link = .ok finding)
    (named : finding.entry.name = name)
    (registered : before.register finding.entry = .ok (registration, after)) :
    Joins domain name key link after
  | later {before after : Registry} (joins : Joins domain name key link before)
    (operates : domain.Operates before after) : Joins domain name key link after

theorem Arrives.find (arrives : domain.Arrives name key link registry) :
    ∃ requested finding more, domain.examine key requested link = .ok finding ∧
      registry.find? name =
        some { finding.entry with implements := finding.entry.implements.or more } := by
  induction arrives with
  | @first _ _ requested finding occurs warranted examined named registered =>
    obtain ⟨absent, found⟩ := Registry.find_register_new registered name
    refine ⟨requested, finding, none, examined, ?_⟩
    rw [named] at absent
    rw [found, absent, if_pos named, Option.none_or, Option.or_none]
  | later arrives operates ih =>
    obtain ⟨requested, finding, more, examined, found⟩ := ih
    obtain ⟨further, kept⟩ := operates.grows.kept _ _ found
    refine ⟨requested, finding, more.or further, examined, ?_⟩
    simpa only [Option.or_assoc] using kept

/-- A type of the name was called for and registered under it, with the interface that it was sent on with
or else its nearest. -/
structure Brings (domain : Domain) (asked : TypeKey → Prop) (registry : Registry) (name : String)
    (type : TypeDescriptor) (link : Option String) (interface : String) : Prop where
  present : domain.catalog.lookup? type.key = some type
  role : type.kindWhen .object = .ok .object
  named : type.schemaName .object = name
  joins : domain.Joins name type.key link registry
  calls : domain.Calls asked registry type.key link
  gives : link.or ((domain.catalog.implementedInterface? type).map (·.schemaName .interface)) =
    some interface

theorem Brings.later (brings : domain.Brings asked before name type link interface)
    (operates : domain.Operates before after) :
    domain.Brings asked after name type link interface :=
  { brings with
    joins := brings.joins.later operates
    calls := brings.calls.of_grows operates.grows }

/-- The registry is that of some moment, and tells how its objects and their interfaces came about. -/
structure Traced (domain : Domain) (asked : TypeKey → Prop) (registry : Registry) : Prop where
  occurs : domain.Occurs registry
  arrived : ∀ entry ∈ registry.entries, ∃ link,
    domain.Arrives entry.name entry.source link registry ∧
      (entry.kind = .object → domain.Calls asked registry entry.source link)
  linked : Relates (fun registry kind name interface => kind = .object →
    ∃ type link, domain.Brings asked registry name type link interface) registry

namespace Traced

theorem empty : domain.Traced asked .empty where
  occurs := .refl
  arrived := nofun
  linked := nofun

theorem of_entries (traced : domain.Traced asked before) (operates : domain.Operates before after)
    (same : after.entries = before.entries) : domain.Traced asked after where
  occurs := traced.occurs.tail operates
  arrived := by
    intro entry member
    rw [same] at member
    obtain ⟨link, arrives, calls⟩ := traced.arrived entry member
    exact ⟨link, arrives.later operates, fun object => (calls object).of_grows operates.grows⟩
  linked := by
    refine relates_of_entries same (fun brings object => ?_) traced.linked
    obtain ⟨type, link, brings⟩ := brings object
    exact ⟨type, link, brings.later operates⟩

theorem register {requested : TypeKind} {finding : Finding} {registration : Registration}
    (traced : domain.Traced asked before)
    (warranted : domain.Warranted before (.discover key requested link))
    (justified : domain.Justified asked before (.discover key requested link))
    (examined : domain.examine key requested link = .ok finding)
    (registered : before.register finding.entry = .ok (registration, after)) :
    domain.Traced asked after := by
  have operates : domain.Operates before after := .register examined registered
  obtain ⟨kind, found, role, declared, same⟩ := examine_ok examined
  have calls : kind = .object → domain.Calls asked after key link := by
    rintro rfl
    exact (justified (TypeDescriptor.requested_of_object role)).of_grows operates.grows
  refine ⟨traced.occurs.tail operates, ?arrived, ?linked⟩
  case arrived =>
    intro entry member
    -- A known entry has arrived before; a new one arrives with this registration.
    rcases Registry.mem_entries_register registered member with
      ⟨earlier, listed, _, rfl⟩ | ⟨rfl, rfl⟩
    · obtain ⟨link, arrives, calls⟩ := traced.arrived earlier listed
      exact ⟨link, arrives.later operates, fun object => (calls object).of_grows operates.grows⟩
    · have source : finding.entry.source = key := by rw [same]
      have shape : finding.entry.kind = kind := by rw [same]
      rw [source, shape]
      exact ⟨link, .first traced.occurs warranted examined rfl registered, calls⟩
  case linked =>
    refine relates_register registered (fun brings object => ?_) (fun interface given object => ?_)
      traced.linked
    · obtain ⟨type, link, brings⟩ := brings object
      exact ⟨type, link, brings.later operates⟩
    · have own : finding.type.key = key := Catalog.key_of_lookup found
      have joins : domain.Joins finding.entry.name finding.type.key link after :=
        .now traced.occurs (own ▸ warranted) (own ▸ examined) rfl registered
      rw [same] at given object joins ⊢
      cases object
      rw [declared, if_pos rfl] at given
      exact ⟨finding.type, link, own ▸ found, TypeDescriptor.kindWhen_kindWhen role, rfl, joins,
        own ▸ calls rfl, given⟩

end Traced

theorem run_traced (traced : domain.Traced asked registry) (agenda : List Errand)
    (warranted : ∀ errand ∈ agenda, domain.Warranted registry errand)
    (justified : ∀ errand ∈ agenda, domain.Justified asked registry errand) :
    domain.Traced asked (domain.run registry agenda).2 := by
  fun_induction domain.run registry agenda with
  | case1 => exact traced
  | case2 registry name rest ih =>
    have grows := Registry.grows_enqueue registry name
    exact ih (traced.of_entries (.enqueue name) (Registry.entries_enqueue ..))
      (warranted_rest warranted grows) (justified_rest justified grows)
  | case3 => exact traced
  | case4 _ _ _ _ _ _ _ _ _ recorded =>
    rw [Registry.record_rejected recorded]
    exact traced
  | case5 registry key requested implements rest finding examined entry after recorded ih =>
    have registered := Registry.register_ok_iff.2 recorded
    have grows := Registry.grows_register registered
    exact ih (traced.register (warranted _ List.mem_cons_self) (justified _ List.mem_cons_self) examined
        registered)
      (warranted_rest warranted grows) (justified_rest justified grows)
  | case6 registry key requested implements rest finding examined entry after recorded ih =>
    have registered := Registry.register_ok_iff.2 recorded
    exact ih (traced.register (warranted _ List.mem_cons_self) (justified _ List.mem_cons_self) examined
        registered)
      (warranted_further examined registered warranted)
      (justified_further examined (warranted _ List.mem_cons_self) registered justified)

theorem Traced.discover {direction : Direction} (traced : domain.Traced asked before)
    (asks : direction = .output → asked key)
    (discovered : domain.discover before key direction.kind = (.ok name, after)) :
    domain.Traced asked after := by
  have justified : ∀ errand ∈ [Errand.discover key direction.kind none],
      domain.Justified asked before errand := by
    intro errand member
    rw [List.mem_singleton.1 member]
    intro object
    cases direction with
    | output => exact .asked (asks rfl)
    | input => cases object
  have reached := run_traced traced _ (warranted_unlinked direction.kind_ne_interface) justified
  unfold Domain.discover at discovered
  split at discovered
  · cases discovered
  · have same : (domain.run before [.discover key direction.kind none]).2 = after :=
      congrArg Prod.snd discovered
    exact same ▸ reached

theorem Seeks.traced (seeks : domain.Seeks asked before after) (traced : domain.Traced asked before) :
    domain.Traced asked after := by
  induction seeks with
  | refl => exact traced
  | discover asks discovered _ ih => exact ih (traced.discover asks discovered)

/-! ### Builds -/

variable {resolvers : List Resolver} {schema : Schema} {turn : Turn} {start finish : Discovery}
  {definitions : List Definition}

/-- The build asks for the type in output: a resolver extends it, or a field was made whose result names
it. -/
inductive Asked (domain : Domain) (resolvers : List Resolver) (registry : Registry) (key : TypeKey) :
    Prop
  | source {resolver : Resolver} (listed : resolver ∈ resolvers)
    (role : resolver.role = .extension key)
  | field {kind : TypeKind} {name : String} {signature : Signature}
    (offers : domain.Offers resolvers registry kind name signature)
    (yields : domain.Yields registry signature key)

theorem Asked.of_grows (asked : domain.Asked resolvers before key) (grows : before.Grows after) :
    domain.Asked resolvers after key := by
  cases asked with
  | source listed role => exact .source listed role
  | field offers yields => exact .field (offers.of_grows grows) (yields.of_grows grows)

theorem Step.seeks (step : domain.Step turn start definitions finish)
    (among : turn.Among resolvers)
    (asks : ∀ key, domain.Asked resolvers finish.registry key → asked key) :
    ∃ opened, turn.Opens start.registry opened ∧ domain.Seeks asked opened finish.registry := by
  have whole := step.grows
  cases step with
  | root role contributed defined =>
    rw [Discovery.defineObject_registry defined] at asks ⊢
    exact ⟨_, rfl, seeks_contributedFields contributed fun signature member key yields =>
      asks key (.field (.added (.contributed among (.root role rfl) member)) yields)⟩
  | extension role discovered kind contributed present defined =>
    rw [Discovery.defineObject_registry defined] at asks ⊢
    have targets := targets_of_discover role discovered kind
    exact ⟨_, rfl, .discover (fun (_ : Direction.output = .output) => asks _ (.source among role))
      discovered
      (seeks_contributedFields contributed fun signature member key yields =>
        asks key (.field (.added (.contributed among targets member)) yields))⟩
  | resolvedInterface role discovered kind contributed first present declared defined =>
    obtain ⟨-, -, rfl⟩ := Discovery.defineInterface_ok defined
    have targets := targets_of_discover role discovered kind
    -- What its resolver adds is made before the fields of the interface itself.
    have further := ((orderly_declaredFields _ _).reaches_of_gives declared).grows
    have extras := seeks_contributedFields contributed fun signature member key yields =>
      asks key (.field (.added (.contributed among targets member)) (yields.of_grows further))
    have own := seeks_declaredFields declared fun signature member key yields =>
      asks key (.field (.declared (bears_of_discover among role present discovered kind) member) yields)
    exact ⟨_, rfl, .discover (fun (_ : Direction.output = .output) => asks _ (.source among role))
      discovered (extras.trans own)⟩
  | object popped kind present declared defined =>
    have bears : domain.Bears resolvers _ _ _ _ := (bears_of_pop popped present).of_grows whole
    rw [Discovery.defineObject_registry defined] at asks bears ⊢
    rw [kind] at bears
    exact ⟨_, popped, seeks_declaredFields declared fun signature member key yields =>
      asks key (.field (.declared bears member) yields)⟩
  | interface popped kind present declared defined =>
    have bears : domain.Bears resolvers _ _ _ _ := (bears_of_pop popped present).of_grows whole
    obtain ⟨-, -, rfl⟩ := Discovery.defineInterface_ok defined
    rw [kind] at bears
    exact ⟨_, popped, seeks_declaredFields declared fun signature member key yields =>
      asks key (.field (.declared bears member) yields)⟩
  | builtInterface popped kind built resolved => exact ⟨_, popped, .refl⟩
  | input popped kind present given => exact ⟨_, popped, seeks_inputValues given⟩
  | enum popped kind present => exact ⟨_, popped, .refl⟩

theorem Step.traced (step : domain.Step turn start definitions finish)
    (among : turn.Among resolvers)
    (asks : ∀ key, domain.Asked resolvers finish.registry key → asked key)
    (traced : domain.Traced asked start.registry) : domain.Traced asked finish.registry := by
  obtain ⟨opened, opens, seeks⟩ := step.seeks among asks
  refine seeks.traced ?_
  cases turn with
  | resolver resolver =>
    cases opens
    exact traced
  | entry entry => exact traced.of_entries (.pop opens) (Registry.entries_pop opens)

theorem Run.traced {turns : List Turn} (run : domain.Run turns start definitions finish)
    (among : ∀ turn ∈ turns, turn.Among resolvers)
    (asks : ∀ key, domain.Asked resolvers finish.registry key → asked key)
    (traced : domain.Traced asked start.registry) : domain.Traced asked finish.registry := by
  induction run with
  | nil => exact traced
  | cons step rest ih =>
    have first := step.traced (among _ List.mem_cons_self)
      (fun key asked => asks key (asked.of_grows rest.grows)) traced
    exact ih (fun turn later => among turn (List.mem_cons_of_mem _ later)) asks first

theorem Built.traced (built : domain.Built resolvers schema) :
    domain.Traced (domain.Asked resolvers (domain.finalDiscovery resolvers).registry)
      (domain.finalDiscovery resolvers).registry := by
  obtain ⟨entries, definitions, run, -⟩ := built.run
  exact run.traced Turn.among_of_mem (fun _ asked => asked) .empty

end Domain

end SchemaDiscovery
