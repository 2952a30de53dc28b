import SchemaDiscovery.Proofs.Build.Record
import SchemaDiscovery.Proofs.Discovery.References
/-!
The schema is closed under references. Main statement: every type that a field, an argument or an
input field of a built schema names is built in or has a definition in the same schema, of a sort
that can stand there.
-/

namespace SchemaDiscovery

def TypeBody.Suits : Direction → TypeBody → Prop
  | _, .scalar => True
  | _, .enum _ => True
  | .output, .object _ _ => True
  | .output, .interface _ _ => True
  | .input, .input _ => True
  | _, _ => False

theorem TypeBody.suits_of_kind {body : TypeBody} {kind : TypeKind} {direction : Direction}
    (shape : body.kind? = some kind) (admitted : direction.Admits kind) :
    body.Suits direction := by
  cases body <;> cases shape <;> cases direction <;> simp_all [Suits, Direction.Admits]

namespace Definition

/-- The definition defines the name in full, as something that can be named in the direction. -/
def Supplies (direction : Direction) (name : String) : Definition → Prop
  | .type definition =>
    definition.name = name ∧ definition.isExtension = false ∧ definition.body.Suits direction
  | _ => False

theorem supplies_of_fullName {direction : Direction} {name : String} {kind : TypeKind}
    {definition : Definition} (full : definition.fullName? kind = some name)
    (admitted : direction.Admits kind) : definition.Supplies direction name := by
  cases definition with
  | type definition =>
    rw [fullName?, Option.ite_none_right_eq_some] at full
    obtain ⟨⟨complete, shape⟩, named⟩ := full
    refine ⟨Option.some_inj.1 named, complete, ?_⟩
    exact TypeBody.suits_of_kind shape admitted
  | _ => cases full

end Definition

namespace Domain

variable {domain : Domain} {turn : Turn} {start finish : Discovery} {registry : Registry}
  {definitions : List Definition}

theorem ResolvesFields.distinct {fields : List BoundField}
    (resolves : domain.ResolvesFields registry (fields.map (·.definition))) :
    domain.ResolvesFields registry ((distinctFields fields).map (·.definition)) := by
  intro definition member
  obtain ⟨field, kept, rfl⟩ := List.mem_map.1 member
  exact resolves _ (List.mem_map_of_mem (Ordered.mem_ofList kept))

theorem ResolvesFields.append {left right : List FieldDefinition}
    (first : domain.ResolvesFields registry left) (second : domain.ResolvesFields registry right) :
    domain.ResolvesFields registry (left ++ right) := by
  intro definition member
  exact (List.mem_append.1 member).elim (first definition) (second definition)

structure ResolvesDefinition (domain : Domain) (registry : Registry) (definition : Definition) :
    Prop where
  fields : domain.ResolvesFields registry definition.fields
  values : domain.ResolvesValues registry definition.ownValues

def ResolvesExtras (domain : Domain) (discovery : Discovery) : Prop :=
  ∀ name, domain.ResolvesFields discovery.registry
    ((discovery.extrasOf name).map (·.definition))

theorem ResolvesDefinition.of_grows {before after : Registry} {definition : Definition}
    (resolves : domain.ResolvesDefinition before definition) (grows : before.Grows after) :
    domain.ResolvesDefinition after definition :=
  ⟨resolves.fields.of_grows grows, resolves.values.of_grows grows⟩

theorem ResolvesExtras.of_grows (resolves : domain.ResolvesExtras start)
    (grows : start.registry.Grows finish.registry)
    (same : finish.interfaceExtras = start.interfaceExtras) : domain.ResolvesExtras finish := by
  intro name
  have kept : finish.extrasOf name = start.extrasOf name := by
    unfold Discovery.extrasOf
    rw [same]
  rw [kept]
  exact (resolves name).of_grows grows

theorem ResolvesExtras.of_option (resolves : domain.ResolvesExtras start)
    (interface : Option String) :
    domain.ResolvesFields start.registry
      ((interface.elim [] start.extrasOf).map (·.definition)) := by
  cases interface with
  | none => exact nofun
  | some name => exact resolves name

theorem resolves_of_defineObject {opened : Discovery} {name : String}
    {type : Option TypeDescriptor} {implements : Option String} {fields : List BoundField}
    {definition : Option Definition}
    (defined : opened.defineObject name type implements fields = (definition, finish))
    (resolves : domain.ResolvesFields opened.registry (fields.map (·.definition))) :
    ∀ found ∈ definition.toList, domain.ResolvesDefinition finish.registry found := by
  intro found member
  rw [Discovery.defineObject_registry defined]
  obtain ⟨-, same, none⟩ := Discovery.defineObject_fields defined found member
  constructor
  · rw [same]
    exact resolves.distinct
  · rw [none]
    exact nofun

theorem resolves_of_defineInterface {opened : Discovery} {name : String}
    {type : TypeDescriptor} {fields : List BoundField} {definition : Definition}
    (defined : opened.defineInterface name type fields = .ok (definition, finish))
    (resolves : domain.ResolvesFields opened.registry (fields.map (·.definition))) :
    ∀ found ∈ [definition], domain.ResolvesDefinition finish.registry found := by
  intro found member
  obtain ⟨-, same, rfl⟩ := Discovery.defineInterface_ok defined
  rw [List.mem_singleton.1 member, same]
  exact ⟨resolves.distinct, nofun⟩

theorem Step.resolves (step : domain.Step turn start definitions finish)
    (extras : domain.ResolvesExtras start) :
    (∀ definition ∈ definitions, domain.ResolvesDefinition finish.registry definition) ∧
      domain.ResolvesExtras finish := by
  have grows := step.grows
  cases step with
  | root role contributed defined =>
    have kept := Discovery.defineObject_extras defined
    exact ⟨resolves_of_defineObject defined (resolves_fields contributed),
      extras.of_grows grows kept⟩
  | extension role discovered kind contributed present defined =>
    have kept := Discovery.defineObject_extras defined
    exact ⟨resolves_of_defineObject defined (resolves_fields contributed),
      extras.of_grows grows kept⟩
  | @resolvedInterface _ _ name _ _ _ _ between registry added own _ role discovered kind contributed
      first present declared defined =>
    have further := ((orderly_declaredFields _ _).reaches_of_gives declared).grows
    have addedResolve := (resolves_fields contributed).of_grows further
    constructor
    · refine resolves_of_defineInterface defined ?_
      rw [List.map_append]
      exact (resolves_fields declared).append addedResolve
    · obtain ⟨-, -, rfl⟩ := Discovery.defineInterface_ok defined
      intro other
      by_cases same : name = other
      · simpa [Discovery.extrasOf, Discovery.recordBindings, same] using addedResolve
      · have kept := (extras other).of_grows grows
        simpa [Discovery.extrasOf, Discovery.recordBindings, same] using kept
  | object popped kind present declared defined =>
    have kept := Discovery.defineObject_extras defined
    refine ⟨resolves_of_defineObject defined ?_, extras.of_grows grows kept⟩
    rw [List.map_append]
    rw [Discovery.defineObject_registry defined] at grows
    exact (resolves_fields declared).append ((extras.of_option _).of_grows grows)
  | interface popped kind present declared defined =>
    refine ⟨resolves_of_defineInterface defined (resolves_fields declared), ?_⟩
    obtain ⟨-, -, rfl⟩ := Discovery.defineInterface_ok defined
    exact extras.of_grows grows rfl
  | builtInterface popped kind built resolved => exact ⟨nofun, extras.of_grows grows rfl⟩
  | input popped kind present given =>
    refine ⟨fun definition member => ?_, extras.of_grows grows rfl⟩
    rw [List.mem_singleton.1 member]
    exact ⟨nofun, resolves_inputValues given⟩
  | enum popped kind present =>
    refine ⟨fun definition member => ?_, extras.of_grows grows rfl⟩
    rw [List.mem_singleton.1 member]
    exact ⟨nofun, nofun⟩

theorem Run.resolves {turns : List Turn} (run : domain.Run turns start definitions finish)
    (extras : domain.ResolvesExtras start) :
    ∀ definition ∈ definitions, domain.ResolvesDefinition finish.registry definition := by
  induction run with
  | nil => exact nofun
  | cons step rest ih =>
    obtain ⟨resolves, later⟩ := step.resolves extras
    intro definition member
    rcases List.mem_append.1 member with here | there
    · exact (resolves definition here).of_grows rest.grows
    · exact ih later definition there

variable {resolvers : List Resolver} {schema : Schema}

theorem Built.resolves (built : domain.Built resolvers schema) :
    ∀ definition ∈ schema.definitions,
      domain.ResolvesDefinition (domain.finalDiscovery resolvers).registry definition := by
  obtain ⟨entries, definitions, run, rfl⟩ := built.run
  intro definition member
  rcases List.mem_append.1 member with declaration | emitted
  · rcases declaration_cases declaration with rfl | ⟨name, rfl⟩
    · refine ⟨nofun, fun value passed => .inl ?_⟩
      rw [List.mem_singleton.1 passed]
      rfl
    · exact ⟨nofun, nofun⟩
  · exact run.resolves (fun _ => nofun) definition emitted

theorem Built.supplies (built : domain.Built resolvers schema)
    (declared : domain.config.declareScalars = true) {direction : Direction} {name : String}
    (resolves : domain.Resolves (domain.finalDiscovery resolvers).registry direction name) :
    isBuiltinScalar name ∨ ∃ other ∈ schema.definitions, other.Supplies direction name := by
  rcases resolves with builtin | custom | ⟨kind, recorded, admitted⟩
  · exact .inl builtin
  · obtain ⟨entries, definitions, -, rfl⟩ := built.run
    refine .inr ⟨scalarDefinition name, List.mem_append_left _ (List.mem_append_right _ ?_), ?_⟩
    · rw [scalarDeclarations, if_pos declared]
      exact List.mem_map_of_mem custom
    · cases direction <;> exact ⟨rfl, rfl, trivial⟩
  · obtain ⟨other, present, full⟩ := built.defined_iff.2 (.inl recorded)
    exact .inr ⟨other, present, Definition.supplies_of_fullName full admitted⟩

/-- Every type that is named in a built schema is built in or defined there, as something that can
be named in that place. -/
theorem references_supplied (declared : domain.config.declareScalars = true)
    (built : domain.build resolvers = .ok schema) :
    (∀ definition ∈ schema.definitions, ∀ field ∈ definition.fields,
      isBuiltinScalar field.type.base ∨
        ∃ other ∈ schema.definitions, other.Supplies .output field.type.base) ∧
    (∀ definition ∈ schema.definitions, ∀ value ∈ definition.inputValues,
      isBuiltinScalar value.type.base ∨
        ∃ other ∈ schema.definitions, other.Supplies .input value.type.base) := by
  have whole := built_of_build built
  constructor
  · intro definition member field present
    exact whole.supplies declared ((whole.resolves definition member).fields field present).1
  · intro definition member value present
    have resolves := whole.resolves definition member
    rcases List.mem_append.1 present with own | argument
    · exact whole.supplies declared (resolves.values value own)
    · obtain ⟨field, here, passed⟩ := List.mem_flatMap.1 argument
      exact whole.supplies declared ((resolves.fields field here).2 value passed)

def gazetteer : Domain where
  catalog := .ofTypes [
    { key := ⟨"atlas::Place"⟩, form := .isInterface, tags := [.interface none]
      methods := [{ name := "rating", returns := some (.atom (.named ⟨"atlas::Rating"⟩) []) }] },
    { key := ⟨"atlas::Town"⟩, interfaces := [⟨⟨"atlas::Place"⟩, []⟩]
      tags := [.implementation none] },
    { key := ⟨"atlas::Rating"⟩, form := .isEnum ["LOW", "HIGH"] },
    { key := ⟨"atlas::Area"⟩
      methods := [{
        name := "setSize", params := [⟨"size", .atom (.primitive .long) [], []⟩] }] }]

def placesIn : Resolver where
  name := "Places"
  role := .query
  methods := [{
    name := "placesIn"
    params := [⟨"area", .atom (.named ⟨"atlas::Area"⟩) [], []⟩, ⟨"context", .atom .context [], []⟩]
    returns := some (.generic .list [.atom (.named ⟨"atlas::Place"⟩) []] []) }]

theorem references_supplied_gazetteer : ∃ schema, gazetteer.build [placesIn] = .ok schema ∧
    schema.definitions.flatMap (·.fields.map (·.type.base)) = ["Place", "Rating", "Rating"] ∧
    (schema.definitions.flatMap fun definition =>
      definition.inputValues.map fun value => (value.name, value.type.base)) =
        [("roles", "String"), ("area", "Area"), ("size", "Long")] ∧
    (∀ definition ∈ schema.definitions, ∀ field ∈ definition.fields,
      isBuiltinScalar field.type.base ∨
        ∃ other ∈ schema.definitions, other.Supplies .output field.type.base) ∧
    (∀ definition ∈ schema.definitions, ∀ value ∈ definition.inputValues,
      isBuiltinScalar value.type.base ∨
        ∃ other ∈ schema.definitions, other.Supplies .input value.type.base) := by
  have observed : (gazetteer.build [placesIn]).toOption.map (fun schema =>
      (schema.definitions.flatMap (·.fields.map (·.type.base)),
        schema.definitions.flatMap fun definition =>
          definition.inputValues.map fun value => (value.name, value.type.base))) =
        some (["Place", "Rating", "Rating"],
          [("roles", "String"), ("area", "Area"), ("size", "Long")]) := by
    decide +kernel
  obtain ⟨schema, built, seen⟩ := build_observed observed
  exact ⟨schema, built, congrArg Prod.fst seen, congrArg Prod.snd seen,
    references_supplied rfl built⟩

end Domain

end SchemaDiscovery
