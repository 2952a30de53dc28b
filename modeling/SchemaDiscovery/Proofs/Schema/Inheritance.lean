import SchemaDiscovery.Proofs.Build.Provenance
import SchemaDiscovery.Proofs.Schema.Conformance
import Mathlib.Data.List.Pairwise
/-!
Fields that resolvers add to interfaces. Main statement: the objects that name the interface have these
fields too, just as the interface shows them.
-/

namespace SchemaDiscovery

def Resolver.fieldNames (resolver : Resolver) : List String :=
  resolver.signatures.filterMap fun signature => signature.storage.fieldName? signature.method

theorem mem_distinctFields_append {own extras : List BoundField} {field : BoundField}
    (named : field.definition.name ∈ extras.map (·.definition.name)) :
    field ∈ distinctFields (own ++ extras) ↔ field ∈ distinctFields extras :=
  Ordered.mem_ofList_append named

namespace Domain

variable {domain : Domain} {resolvers : List Resolver} {schema : Schema} {resolver : Resolver}
  {name : String} {start finish : Discovery} {definitions : List Definition}

theorem names_of_contributedFields {before after : Registry} {fields : List BoundField}
    (given : Gives (domain.contributedFields resolver) before fields after) :
    fields.map (·.definition.name) = resolver.fieldNames := by
  rw [names_of_fields given, Resolver.fieldNames, Resolver.signatures, List.filterMap_map,
    List.filterMap_map]
  rfl

/-- The interface is shown with the fields of its resolver, which are kept for its implementations. -/
structure ShowsInterface (resolver : Resolver) (name : String) (finish : Discovery)
    (interface : Definition) : Prop where
  full : interface.fullName? .interface = some name
  fields : ∃ own, interface.fields =
    (distinctFields (own ++ finish.extrasOf name)).map (·.definition)
  names : (finish.extrasOf name).map (·.definition.name) = resolver.fieldNames

theorem Step.showsInterface (step : domain.Step (.resolver resolver) start definitions finish)
    {source : TypeKey} {type : TypeDescriptor} (role : resolver.role = .extension source)
    (present : domain.catalog.lookup? source = some type)
    (discovered : type.kindWhen .object = .ok .interface) :
    type.schemaName .interface ∈ finish.builtInterfaces ∧ ∃ interface ∈ definitions,
      ShowsInterface resolver (type.schemaName .interface) finish interface := by
  -- The source has one kind and one name, whatever the registry held before.
  have target {before found : Registry} {name : String}
      (outcome : domain.discover before source .object = (.ok name, found)) :
      name = type.schemaName .interface ∧ found.kindOf? name = some .interface := by
    obtain ⟨⟨known, kind, again, chosen, named, recorded⟩, -⟩ := discover_ok outcome
    rw [present] at again
    cases again
    rw [discovered] at chosen
    cases chosen
    exact ⟨named, recorded⟩
  cases step with
  | root rooted =>
    rw [role] at rooted
    cases rooted
  | extension same outcome object =>
    rw [role] at same
    cases same
    rw [(target outcome).2] at object
    cases object
  | @resolvedInterface _ _ name _ _ _ _ _ _ extras own _ same outcome interface contributed first
      stored declared defined =>
    rw [role] at same
    cases same
    obtain ⟨rfl, -⟩ := target outcome
    obtain ⟨-, rfl, rfl⟩ := Discovery.defineInterface_ok defined
    refine ⟨List.mem_cons_self, _, List.mem_singleton.2 rfl, rfl, ⟨own, ?_⟩, ?_⟩
    · simp [Discovery.extrasOf, Discovery.recordBindings, Definition.fields]
    · simpa [Discovery.extrasOf, Discovery.recordBindings] using
        names_of_contributedFields contributed

theorem Built.showsInterface (built : domain.Built resolvers schema) (listed : resolver ∈ resolvers)
    {source : TypeKey} {type : TypeDescriptor} (role : resolver.role = .extension source)
    (present : domain.catalog.lookup? source = some type)
    (discovered : type.kindWhen .object = .ok .interface) :
    ∃ interface ∈ schema.definitions, ShowsInterface resolver (type.schemaName .interface)
      (domain.finalDiscovery resolvers) interface := by
  obtain ⟨entries, definitions, run, same⟩ := built.run
  have whole : schema.definitions =
      domain.directiveDefinitions ++ domain.scalarDeclarations ++ definitions :=
    congrArg Schema.definitions same
  obtain ⟨earlier, later, cut⟩ := List.append_of_mem listed
  have turns : resolvers.map Turn.resolver ++ entries.map Turn.entry =
      earlier.map Turn.resolver ++
        .resolver resolver :: (later.map Turn.resolver ++ entries.map Turn.entry) := by
    rw [cut]
    simp
  rw [turns] at run
  obtain ⟨before, first, rest, prior, following, rfl⟩ := run.split
  cases following with
  | cons step remaining =>
    have consistent := step.consistent (prior.consistent consistent_empty)
    obtain ⟨fixed, interface, member, shows⟩ := step.showsInterface role present discovered
    have kept := remaining.extras_kept consistent fixed
    refine ⟨interface, ?_, shows.full, ?_, ?_⟩
    · rw [whole]
      exact List.mem_append_right _ (List.mem_append_right _ (List.mem_append_left _ member))
    · rw [kept]
      exact shows.fields
    · rw [kept]
      exact shows.names

theorem Built.eq_of_full (built : domain.Built resolvers schema) {kind : TypeKind}
    {left right : Definition} (first : left ∈ schema.definitions)
    (second : right ∈ schema.definitions) (here : left.fullName? kind = some name)
    (there : right.fullName? kind = some name) : left = right := by
  have distinct : (schema.definitions.filterMap (Definition.fullName? kind)).Nodup := by
    rw [built.output, List.nodup_reverse]
    exact built.distinct kind
  have apart := List.pairwise_filterMap.1 distinct
  have symmetric : Std.Symm fun one other : Definition => ∀ called ∈ one.fullName? kind,
      ∀ called' ∈ other.fullName? kind, called ≠ called' :=
    ⟨fun _ _ differ called some called' some' same =>
      differ called' some' called some same.symm⟩
  by_contra different
  exact apart.forall first second different name here name there rfl

/-- The fields that a resolver adds to an interface are in the one definition of the interface, and
just so in each object that names the interface, other than a root type. -/
theorem interface_fields_inherited (built : domain.build resolvers = .ok schema)
    (listed : resolver ∈ resolvers) {source : TypeKey} {type : TypeDescriptor}
    (role : resolver.role = .extension source)
    (present : domain.catalog.lookup? source = some type)
    (discovered : type.kindWhen .object = .ok .interface) :
    ∃ interface ∈ schema.definitions,
      interface.fullName? .interface = some (type.schemaName .interface) ∧
      (∀ other ∈ schema.definitions,
        other.fullName? .interface = some (type.schemaName .interface) → other = interface) ∧
      (∀ name ∈ resolver.fieldNames, name ∈ interface.fields.map (·.name)) ∧
      ∀ field ∈ interface.fields, field.name ∈ resolver.fieldNames →
        ∀ object ∈ schema.definitions, ∀ name, object.fullName? .object = some name →
          (∀ other ∈ resolvers, other.role.rootName? ≠ some name) →
          type.schemaName .interface ∈ object.implements →
          ∃ part ∈ schema.definitions, part.isObjectOf name ∧ field ∈ part.fields := by
  have whole := built_of_build built
  obtain ⟨interface, member, shows⟩ := whole.showsInterface listed role present discovered
  obtain ⟨own, fields⟩ := shows.fields
  refine ⟨interface, member, shows.full,
    fun other among same => whole.eq_of_full among member same shows.full, ?_, ?_⟩
  · intro name named
    rw [← shows.names] at named
    rw [fields, List.map_map]
    refine mem_names_distinctFields.2 ?_
    rw [List.map_append]
    exact List.mem_append_right _ named
  · intro field shown named object among name full unrooted implements
    have recorded : (domain.finalDiscovery resolvers).registry.kindOf? name = some .object := by
      refine (whole.defined_iff.1 ⟨object, among, full⟩).resolve_right ?_
      rintro ⟨-, other, root, called⟩
      exact unrooted other root called
    obtain ⟨_, _, declared, extras, -, -, -, turn, added⟩ := whole.object_turn recorded
    have same := added object among full _ implements
    rw [fields] at shown
    obtain ⟨bound, kept, rfl⟩ := List.mem_map.1 shown
    rw [← shows.names, ← same] at named
    rw [← same, mem_distinctFields_append named] at kept
    exact turn bound ((mem_distinctFields_append named).2 kept)

def textOf (name source : String) : Method where
  name := name
  params := [⟨"object", .atom (.named ⟨source⟩) [], []⟩]
  returns := some (.atom (.boxed .string) [])

def vessel : TypeDescriptor where
  key := ⟨"harbour::Vessel"⟩
  form := .isInterface
  tags := [.interface none]
  methods := [textGetter "getFlag"]

def harbour : Domain where
  catalog := .ofTypes [vessel,
    { key := ⟨"harbour::Ship"⟩, interfaces := [⟨⟨"harbour::Vessel"⟩, []⟩]
      tags := [.implementation none], methods := [textGetter "getName"] }]

def records : Resolver where
  name := "Records"
  role := .extension ⟨"harbour::Vessel"⟩
  methods := [textOf "owner" "harbour::Vessel", textOf "flag" "harbour::Vessel"]

def harbourMasters : List Resolver :=
  [{ name := "Crewing", role := .extension ⟨"harbour::Ship"⟩
     methods := [textOf "captain" "harbour::Ship"] },
    records]

theorem interface_fields_inherited_harbour : ∃ schema,
    harbour.build harbourMasters = .ok schema ∧
    (∃ object ∈ schema.definitions, object.fullName? .object = some "Ship" ∧
      "Vessel" ∈ object.implements) ∧
    records.fieldNames = ["owner", "flag"] ∧
    ∃ interface ∈ schema.definitions,
      interface.fullName? .interface = some (vessel.schemaName .interface) ∧
      (∀ other ∈ schema.definitions,
        other.fullName? .interface = some (vessel.schemaName .interface) → other = interface) ∧
      (∀ name ∈ records.fieldNames, name ∈ interface.fields.map (·.name)) ∧
      ∀ field ∈ interface.fields, field.name ∈ records.fieldNames →
        ∀ object ∈ schema.definitions, ∀ name, object.fullName? .object = some name →
          (∀ other ∈ harbourMasters, other.role.rootName? ≠ some name) →
          vessel.schemaName .interface ∈ object.implements →
          ∃ part ∈ schema.definitions, part.isObjectOf name ∧ field ∈ part.fields := by
  have observed : (harbour.build harbourMasters).toOption.map (fun schema =>
      schema.definitions.any fun object =>
        object.fullName? .object = some "Ship" ∧ "Vessel" ∈ object.implements) = some true := by
    decide +kernel
  obtain ⟨schema, built, seen⟩ := build_observed observed
  obtain ⟨object, present, shape⟩ := List.any_eq_true.1 seen
  refine ⟨schema, built, ⟨object, present, of_decide_eq_true shape⟩, by decide +kernel, ?_⟩
  refine interface_fields_inherited built ?_ rfl ?_ ?_
  · decide +kernel
  · decide +kernel
  · decide +kernel

end Domain

end SchemaDiscovery
