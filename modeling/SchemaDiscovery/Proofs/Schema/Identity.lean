import SchemaDiscovery.Proofs.Build.Depiction
import SchemaDiscovery.Proofs.Schema.Conformance
/-!
The types behind references. Main statement: a reference goes by the name of the type that its
signature names, and the definitions of this name are built from a type that bears it. They are built
from the named type where no other type bears the name; of two types that do, one may be lost.
-/

namespace SchemaDiscovery

/-- What the definition of a type refers to. -/
def Definition.references : Definition → List (Direction × TypeRef)
  | .type definition =>
    (Definition.type definition).fields.flatMap (·.references) ++
      (Definition.type definition).ownValues.map (.input, ·.type)
  | _ => []

theorem Definition.input_of_ownValues {definition : TypeDefinition} {kind : TypeKind} {name : String}
    {value : InputValue} (typed : (Definition.type definition).typed? = some (kind, name))
    (member : value ∈ (Definition.type definition).ownValues) : kind = .input := by
  obtain ⟨name, isExtension, description, directives, body⟩ := definition
  cases body with
  | input values =>
    cases typed
    rfl
  | _ => cases member

theorem Definition.mem_references_of_field {definition : Definition} {kind : TypeKind} {name : String}
    {field : FieldDefinition} (typed : definition.typed? = some (kind, name))
    (member : field ∈ definition.fields) : (.output, field.type) ∈ definition.references := by
  cases definition with
  | type definition =>
    exact List.mem_append_left _ (List.mem_flatMap.2 ⟨field, member, List.mem_cons_self⟩)
  | _ => cases typed

namespace Domain

variable {domain : Domain} {resolvers : List Resolver} {registry : Registry} {schema : Schema}
  {kind : TypeKind} {name : String} {definition : Definition} {direction : Direction}
  {use : TypeUse} {reference : TypeRef} {key : TypeKey}

/-- The definition refers to a type because of the use, which is part of a signature offered for one of
its fields, or of an input field of a type that bears its name. -/
inductive Refers (domain : Domain) (resolvers : List Resolver) (registry : Registry)
    (definition : Definition) : Direction → TypeUse → TypeRef → Prop
  | field {kind : TypeKind} {name : String} {signature : Signature} {field : BoundField}
    {direction : Direction} {use : TypeUse} {reference : TypeRef}
    (typed : definition.typed? = some (kind, name)) (shown : field.definition ∈ definition.fields)
    (offers : domain.Offers resolvers registry kind name signature)
    (makes : domain.Makes registry signature field)
    (part : (direction, use, reference) ∈ signature.uses field.definition) :
    Refers domain resolvers registry definition direction use reference
  | value {name : String} {type : TypeDescriptor} {field : InputField} {value : InputValue}
    (full : definition.fullName? .input = some name)
    (bears : domain.Bears resolvers registry .input name type)
    (listed : field ∈ domain.catalog.inputFieldsOf type) (shown : value ∈ definition.ownValues)
    (makes : domain.MakesValue registry field value) :
    Refers domain resolvers registry definition .input field.type value.type

theorem Refers.denotes
    (refers : domain.Refers resolvers registry definition direction use reference)
    (names : use.Names key) : domain.Denotes registry direction key reference.base := by
  cases refers with
  | field typed shown offers makes part => exact makes.denotes part names
  | value full bears listed shown makes => exact makes.denotes names

/-- The definitions of the name in the role are built from the owners. Their fields are also those that
resolvers add for the name, and the full definition of a root type is that of its resolvers. -/
structure Portrays (domain : Domain) (resolvers : List Resolver) (registry : Registry)
    (schema : Schema) (kind : TypeKind) (name : String) (owners : TypeDescriptor → Prop) :
    Prop where
  full : ∀ definition ∈ schema.definitions, definition.fullName? kind = some name →
    (kind = .object ∧ ∃ resolver ∈ resolvers, resolver.role.rootName? = some name) ∨
      ∃ owner, owners owner ∧ domain.Depicts registry owner name definition kind
  fields : ∀ definition ∈ schema.definitions, definition.typed? = some (kind, name) →
    ∀ shown ∈ definition.fields, ∃ signature field, field.definition = shown ∧
      domain.Makes registry signature field ∧
      ((∃ owner, owners owner ∧ signature ∈ domain.catalog.signatures owner kind) ∨
        domain.Adds resolvers registry kind name signature)
  sources : ∀ resolver ∈ resolvers, ∀ source owner, resolver.role = .extension source →
    domain.catalog.lookup? source = some owner → owner.kindWhen .object = .ok kind →
    owner.schemaName kind = name → owners owner
  object : kind = .object → ∃ owner, owners owner ∧
    ∀ field ∈ domain.catalog.fieldNames owner .object, schema.HasField name field

theorem Portrays.imp {owners others : TypeDescriptor → Prop}
    (portrays : domain.Portrays resolvers registry schema kind name owners)
    (each : ∀ owner, owners owner → others owner) :
    domain.Portrays resolvers registry schema kind name others where
  full := by
    intro definition member full
    rcases portrays.full definition member full with root | ⟨owner, owns, depicts⟩
    · exact .inl root
    · exact .inr ⟨owner, each owner owns, depicts⟩
  fields := by
    intro definition member typed shown present
    obtain ⟨signature, field, same, makes, ⟨owner, owns, declared⟩ | added⟩ :=
      portrays.fields definition member typed shown present
    · exact ⟨signature, field, same, makes, .inl ⟨owner, each owner owns, declared⟩⟩
    · exact ⟨signature, field, same, makes, .inr added⟩
  sources := fun resolver listed source owner role present discovered named =>
    each owner (portrays.sources resolver listed source owner role present discovered named)
  object := by
    intro object
    obtain ⟨owner, owns, shown⟩ := portrays.object object
    exact ⟨owner, each owner owns, shown⟩

/-- In the output the name stands for the type in the role. Other types may bear the name too, and an
object may implement an interface because of one of them. -/
structure Represents (domain : Domain) (resolvers : List Resolver) (registry : Registry)
    (schema : Schema) (kind : TypeKind) (name : String) (type : TypeDescriptor) : Prop where
  recorded : registry.kindOf? name = some kind
  defined : ∃ definition ∈ schema.definitions, definition.fullName? kind = some name
  bearers : ∀ other, domain.Bears resolvers registry kind name other →
    domain.catalog.Discoverable kind name other
  built : domain.Portrays resolvers registry schema kind name
    (domain.Bears resolvers registry kind name)
  sole : (∀ other, domain.Bears resolvers registry kind name other → other = type) →
    domain.Portrays resolvers registry schema kind name (· = type)
  linked : kind = .object → ∀ definition ∈ schema.definitions,
    definition.fullName? .object = some name → ∀ interface ∈ definition.implements,
      ∃ other, domain.catalog.Discoverable .object name other ∧
        domain.Implements registry other .object interface

theorem declarations_untyped : ∀ definition ∈ domain.directiveDefinitions ++
    domain.scalarDeclarations, definition.typed? = none ∧ definition.references = [] := by
  intro definition member
  rcases declaration_cases member with rfl | ⟨name, rfl⟩
  · exact ⟨rfl, rfl⟩
  · exact ⟨rfl, rfl⟩

theorem Bears.discoverable {type : TypeDescriptor}
    (bears : domain.Bears resolvers registry kind name type)
    (sourced : ∀ entry ∈ registry.entries, domain.Sourced entry) :
    domain.catalog.Discoverable kind name type := by
  cases bears with
  | recorded found role present =>
    obtain ⟨source, known, discovered, named⟩ := sourced _ (Registry.find_mem found)
    rw [present] at known
    cases known
    rw [role] at discovered named
    exact ⟨Catalog.mem_of_lookup present, discovered,
      named.trans (Registry.find_some_name found)⟩
  | extended listed role present discovered named =>
    exact ⟨Catalog.mem_of_lookup present, TypeDescriptor.kindWhen_kindWhen discovered, named⟩

theorem Built.offered (built : domain.Built resolvers schema) (member : definition ∈ schema.definitions)
    (typed : definition.typed? = some (kind, name)) :
    ∀ shown ∈ definition.fields, ∃ field, field.definition = shown ∧
      domain.Comes resolvers (domain.finalDiscovery resolvers).registry kind name field := by
  obtain ⟨entries, definitions, run, rfl⟩ := built.run
  rcases List.mem_append.1 member with declared | emitted
  · rw [(declarations_untyped definition declared).1] at typed
    cases typed
  · obtain ⟨_, _, again, -, comes⟩ := run.comes Turn.among_of_mem keepsExtras_empty definition emitted
    cases typed.symm.trans again
    exact comes

theorem Built.ownValue (built : domain.Built resolvers schema)
    (member : definition ∈ schema.definitions) (typed : definition.typed? = some (kind, name))
    {value : InputValue} (own : value ∈ definition.ownValues) :
    definition.fullName? .input = some name ∧
      ∃ type, domain.Bears resolvers (domain.finalDiscovery resolvers).registry .input name type ∧
        ∃ field ∈ domain.catalog.inputFieldsOf type,
          domain.MakesValue (domain.finalDiscovery resolvers).registry field value := by
  obtain ⟨entries, definitions, run, rfl⟩ := built.run
  have emitted : definition ∈ definitions := by
    refine (List.mem_append.1 member).resolve_left fun declared => ?_
    rw [(declarations_untyped definition declared).1] at typed
    cases typed
  obtain ⟨_, _, again, full, -⟩ := run.comes Turn.among_of_mem keepsExtras_empty definition emitted
  cases typed.symm.trans again
  cases definition with
  | type body =>
    obtain rfl := Definition.input_of_ownValues typed own
    have complete := full (by decide)
    rcases run.depicts Turn.among_of_mem _ emitted _ _ complete with
      ⟨object, -⟩ | ⟨type, bears, values, given, made⟩
    · cases object
    · rw [given, ← List.map_snd_zip (Nat.le_of_eq made.length_eq.symm)] at own
      obtain ⟨⟨field, _⟩, paired, rfl⟩ := List.mem_map.1 own
      exact ⟨complete, type, bears, field, (List.of_mem_zip paired).1,
        (List.forall₂_iff_zip.1 made).2 paired⟩
  | _ => cases typed

theorem Built.refers (built : domain.Built resolvers schema) (member : definition ∈ schema.definitions)
    (referred : (direction, reference) ∈ definition.references) :
    ∃ use, domain.Refers resolvers (domain.finalDiscovery resolvers).registry definition direction use
      reference := by
  have typed : ∃ kind name, definition.typed? = some (kind, name) := by
    obtain ⟨entries, definitions, run, rfl⟩ := built.run
    rcases List.mem_append.1 member with declared | emitted
    · rw [(declarations_untyped definition declared).2] at referred
      cases referred
    · obtain ⟨kind, name, typed, -⟩ :=
        run.comes Turn.among_of_mem keepsExtras_empty definition emitted
      exact ⟨kind, name, typed⟩
  obtain ⟨kind, name, typed⟩ := typed
  cases definition with
  | schema => cases referred
  | directive => cases referred
  | type body =>
    rcases List.mem_append.1 referred with inField | inValue
    · obtain ⟨shown, present, mentioned⟩ := List.mem_flatMap.1 inField
      obtain ⟨field, rfl, signature, offers, makes⟩ := built.offered member typed shown present
      rw [← makes.references] at mentioned
      obtain ⟨⟨_, use, _⟩, part, same⟩ := List.mem_map.1 mentioned
      cases same
      exact ⟨use, .field typed present offers makes part⟩
    · obtain ⟨value, present, same⟩ := List.mem_map.1 inValue
      cases same
      obtain ⟨complete, type, bears, field, listed, makes⟩ := built.ownValue member typed present
      exact ⟨field.type, .value complete bears listed present makes⟩

theorem Built.portrays (built : domain.Built resolvers schema)
    (recorded : (domain.finalDiscovery resolvers).registry.kindOf? name = some kind) :
    domain.Portrays resolvers (domain.finalDiscovery resolvers).registry schema kind name
      (domain.Bears resolvers (domain.finalDiscovery resolvers).registry kind name) where
  full := by
    obtain ⟨entries, definitions, run, rfl⟩ := built.run
    intro definition member full
    exact run.depicts Turn.among_of_mem definition (emitted_of_full member full) kind name full
  fields := by
    intro definition member typed shown present
    obtain ⟨field, same, signature, offers, makes⟩ := built.offered member typed shown present
    cases offers with
    | declared bears declares => exact ⟨signature, field, same, makes, .inl ⟨_, bears, declares⟩⟩
    | added adds => exact ⟨signature, field, same, makes, .inr adds⟩
  sources := fun resolver listed source owner role present discovered named =>
    .extended listed role present discovered named
  object := by
    rintro rfl
    obtain ⟨entry, type, found, present, shown, -⟩ := built.object_fields recorded
    rw [Registry.kindOf_of_find found] at recorded
    exact ⟨type, .recorded found (Option.some_inj.1 recorded) present, shown⟩

theorem Built.represents (built : domain.Built resolvers schema)
    (recorded : (domain.finalDiscovery resolvers).registry.kindOf? name = some kind)
    (type : TypeDescriptor) :
    domain.Represents resolvers (domain.finalDiscovery resolvers).registry schema kind name type where
  recorded := recorded
  defined := built.defined_iff.2 (.inl recorded)
  bearers := fun other bears => bears.discoverable built.consistent.sourced
  built := built.portrays recorded
  sole := fun alone => (built.portrays recorded).imp alone
  linked := by
    rintro rfl definition member full interface implements
    obtain ⟨entries, definitions, run, rfl⟩ := built.run
    obtain ⟨entry, found, names⟩ := run.links definition (emitted_of_full member full) name full
      interface implements
    obtain ⟨other, known, discovered, named, linked⟩ :=
      built.consistent.linked entry (Registry.find_mem found) interface names
    rw [Registry.kindOf_of_find found] at recorded
    rw [Option.some_inj.1 recorded] at discovered named linked
    rw [Registry.find_some_name found] at named
    exact ⟨other, ⟨Catalog.mem_of_lookup known, discovered, named⟩, linked⟩

/-- Each reference is made from a use in a signature. If the use names a type, then the reference goes by
the name of this type in the role that it takes on, and the name stands for it in the output. -/
theorem references_represent (built : domain.build resolvers = .ok schema)
    (member : definition ∈ schema.definitions)
    (referred : (direction, reference) ∈ definition.references) :
    (∃ use, domain.Refers resolvers (domain.finalDiscovery resolvers).registry definition direction use
      reference) ∧
    ∀ use, domain.Refers resolvers (domain.finalDiscovery resolvers).registry definition direction use
        reference →
      ∀ key, use.Names key → ∃ type kind, domain.catalog.lookup? key = some type ∧
        type.kindWhen direction.kind = .ok kind ∧ type.schemaName kind = reference.base ∧
        domain.Represents resolvers (domain.finalDiscovery resolvers).registry schema kind
          reference.base type := by
  have whole := built_of_build built
  refine ⟨whole.refers member referred, fun use refers key names => ?_⟩
  obtain ⟨type, kind, present, chosen, named, recorded⟩ := refers.denotes names
  exact ⟨type, kind, present, chosen, named, whole.represents recorded type⟩

theorem refers_of_asking {questions : List (String × String)} {question : String}
    (built : domain.Built [asking questions] schema) {query : Definition}
    (member : query ∈ schema.definitions) (typed : query.typed? = some (.object, "Query"))
    {shown : FieldDefinition} (present : shown ∈ query.fields) (named : shown.name = question)
    (unborne : ∀ type ∈ domain.catalog.types, ¬ domain.catalog.Discoverable .object "Query" type)
    (returns : ∀ signature ∈ (asking questions).signatures,
      signature.storage.fieldName? signature.method = some question →
        signature.method.returns = some use) :
    domain.Refers [asking questions] (domain.finalDiscovery [asking questions]).registry query
      .output use shown.type := by
  obtain ⟨field, rfl, signature, offers, makes⟩ := built.offered member typed shown present
  have listed : signature ∈ (asking questions).signatures := by
    cases offers with
    | declared bears =>
      have discoverable := bears.discoverable built.consistent.sourced
      exact absurd discoverable (unborne _ discoverable.1)
    | added adds =>
      cases adds with
      | contributed among targets member =>
        rw [List.mem_singleton.1 among] at member
        exact member
      | inherited among targets =>
        rw [List.mem_singleton.1 among] at targets
        cases targets with
        | root role object => cases object
        | source role => cases role
  refine .field typed present offers makes (List.mem_append_left _ ?_)
  rw [returns signature listed (named ▸ makes.named)]
  exact List.mem_singleton.2 rfl

def ship : TypeDescriptor where
  key := ⟨"port::Ship"⟩
  methods := [textGetter "getName"]

def shipyard : Domain where
  catalog := .ofTypes [{ key := ⟨"river::Ship"⟩, methods := [textGetter "getHull"] }, ship]

def berth : List (String × String) := [("ship", "port::Ship")]

def mooring : List (String × String) := [("barge", "river::Ship"), ("ship", "port::Ship")]

theorem lookup_ship : shipyard.catalog.lookup? ship.key = some ship := by
  decide +kernel

theorem kindWhen_ship : ship.kindWhen .object = .ok .object := by
  decide +kernel

theorem references_represent_shipyard : ∃ schema, shipyard.build [asking berth] = .ok schema ∧
    ∃ query ∈ schema.definitions, ∃ reference, (.output, reference) ∈ query.references ∧
      shipyard.Refers [asking berth] (shipyard.finalDiscovery [asking berth]).registry query .output
        (.atom (.named ship.key) []) reference ∧
      reference.base = "Ship" ∧
      shipyard.Portrays [asking berth] (shipyard.finalDiscovery [asking berth]).registry schema
        .object "Ship" (· = ship) := by
  have observed : (shipyard.build [asking berth]).toOption.map (fun schema =>
      schema.definitions.any fun query => query.typed? = some (.object, "Query") ∧
        query.fields.any (·.name = "ship")) = some true := by
    decide +kernel
  obtain ⟨schema, built, seen⟩ := build_observed observed
  obtain ⟨query, member, shape⟩ := List.any_eq_true.1 seen
  obtain ⟨typed, asked⟩ := of_decide_eq_true shape
  obtain ⟨shown, present, named⟩ := List.any_eq_true.1 asked
  have refers : shipyard.Refers [asking berth] (shipyard.finalDiscovery [asking berth]).registry
      query .output (.atom (.named ship.key) []) shown.type :=
    refers_of_asking (built_of_build built) member typed present (of_decide_eq_true named)
      (by decide +kernel) (by decide +kernel)
  have referred : (.output, shown.type) ∈ query.references :=
    Definition.mem_references_of_field typed present
  obtain ⟨-, each⟩ := references_represent built member referred
  obtain ⟨type, kind, known, chosen, base, represents⟩ := each _ refers ship.key (.atom [])
  cases lookup_ship.symm.trans known
  cases kindWhen_ship.symm.trans chosen
  rw [← base] at represents
  refine ⟨schema, built, query, member, shown.type, referred, refers, base.symm,
    represents.sole fun other bears => ?_⟩
  cases bears with
  | @recorded entry found role stored =>
    have source : ((shipyard.finalDiscovery [asking berth]).registry.find? "Ship").map (·.source) =
        some ship.key := by
      decide +kernel
    have called : ship.schemaName .object = "Ship" := by
      decide +kernel
    rw [called] at found
    rw [found] at source
    have owned : entry.source = ship.key := Option.some_inj.1 source
    rw [owned, lookup_ship] at stored
    exact (Option.some_inj.1 stored).symm
  | extended listed role =>
    rw [List.mem_singleton.1 listed] at role
    cases role

/-- Each reference to a type is to a name that stands for this type and for no other. -/
def Faithful (domain : Domain) (resolvers : List Resolver) (schema : Schema) : Prop :=
  ∀ definition ∈ schema.definitions, ∀ direction use reference,
    domain.Refers resolvers (domain.finalDiscovery resolvers).registry definition direction use
        reference →
      ∀ key, use.Names key → ∃ type kind, domain.catalog.lookup? key = some type ∧
        type.kindWhen direction.kind = .ok kind ∧ type.schemaName kind = reference.base ∧
        domain.Portrays resolvers (domain.finalDiscovery resolvers).registry schema kind
          reference.base (· = type)

/-- Two types are referred to by one name, and one of them is lost. -/
theorem references_not_faithful : ∃ schema, shipyard.build [asking mooring] = .ok schema ∧
    (∀ question ∈ mooring, ∃ query ∈ schema.definitions, ∃ reference,
      shipyard.Refers [asking mooring] (shipyard.finalDiscovery [asking mooring]).registry query
        .output (.atom (.named ⟨question.2⟩) []) reference ∧ reference.base = "Ship") ∧
    ¬ shipyard.Faithful [asking mooring] schema := by
  have observed : (shipyard.build [asking mooring]).toOption.map (fun schema =>
      (mooring.all fun question => schema.definitions.any fun query =>
        query.typed? = some (.object, "Query") ∧ query.fields.any fun shown =>
          shown.name = question.1 ∧ shown.type.base = "Ship",
        decide (schema.HasField "Ship" "name"))) = some (true, false) := by
    decide +kernel
  obtain ⟨schema, built, seen⟩ := build_observed observed
  have lost := of_decide_eq_false (congrArg Prod.snd seen)
  have asked : ∀ question ∈ mooring, ∃ query ∈ schema.definitions, ∃ reference,
      shipyard.Refers [asking mooring] (shipyard.finalDiscovery [asking mooring]).registry query
        .output (.atom (.named ⟨question.2⟩) []) reference ∧ reference.base = "Ship" := by
    intro question mentioned
    have found := List.all_eq_true.1 (congrArg Prod.fst seen) question mentioned
    obtain ⟨query, member, shape⟩ := List.any_eq_true.1 found
    obtain ⟨typed, inField⟩ := of_decide_eq_true shape
    obtain ⟨shown, present, same⟩ := List.any_eq_true.1 inField
    obtain ⟨named, base⟩ := of_decide_eq_true same
    have returns : ∀ question ∈ mooring, ∀ signature ∈ (asking mooring).signatures,
        signature.storage.fieldName? signature.method = some question.1 →
          signature.method.returns = some (.atom (.named ⟨question.2⟩) []) := by
      decide +kernel
    exact ⟨query, member, shown.type, refers_of_asking (built_of_build built) member typed present
      named (by decide +kernel) (returns question mentioned), base⟩
  refine ⟨schema, built, asked, fun faithful => lost ?_⟩
  obtain ⟨query, member, reference, refers, base⟩ := asked ("ship", "port::Ship") (by decide)
  obtain ⟨type, kind, known, chosen, -, portrays⟩ :=
    faithful query member _ _ _ refers ship.key (.atom [])
  cases lookup_ship.symm.trans known
  cases kindWhen_ship.symm.trans chosen
  obtain ⟨owner, rfl, shows⟩ := portrays.object rfl
  rw [← base]
  exact shows "name" (by decide +kernel)

end Domain

end SchemaDiscovery
