import SchemaDiscovery.Proofs.Build.Provenance
import SchemaDiscovery.Proofs.Discovery.Denotation
import SchemaDiscovery.Proofs.Discovery.FieldNames
/-!
What full definitions give of the types they are made from. Main statement: each full definition that a
build emits depicts a type that bears its name, unless it is that of a root type.
-/

namespace SchemaDiscovery

namespace Domain

variable {domain : Domain} {resolvers : List Resolver} {registry before after : Registry}
  {type : TypeDescriptor} {name : String} {turn : Turn} {start finish : Discovery}
  {definitions : List Definition}

def Inputs (domain : Domain) (registry : Registry) (type : TypeDescriptor) (name : String)
    (definition : Definition) : Prop :=
  ∃ values, definition = inputDefinition name type values ∧
    List.Forall₂ (domain.MakesValue registry) (domain.catalog.inputFieldsOf type) values

/-- The full definition gives what the type has in the role. Only the fields of an object may come
later, in an extension. -/
def Depicts (domain : Domain) (registry : Registry) (type : TypeDescriptor) (name : String)
    (definition : Definition) : TypeKind → Prop
  | .object => definition.description? = type.description?
  | .interface => definition.description? = type.description? ∧
      domain.catalog.fieldNames type .interface ⊆ definition.fields.map (·.name)
  | .input => domain.Inputs registry type name definition
  | .enum => definition = enumDefinition name type

theorem Depicts.of_grows {definition : Definition} {kind : TypeKind}
    (depicts : domain.Depicts before type name definition kind) (grows : before.Grows after) :
    domain.Depicts after type name definition kind := by
  cases kind with
  | object => exact depicts
  | interface => exact depicts
  | input =>
    obtain ⟨values, same, made⟩ := depicts
    exact ⟨values, same, made.imp fun _ _ makes => makes.of_grows grows⟩
  | enum => exact depicts

end Domain

namespace Discovery

variable {start finish : Discovery} {name other : String} {kind : TypeKind}
  {fields : List BoundField}

theorem defineObject_described {type : Option TypeDescriptor} {implements : Option String}
    {definition : Option Definition}
    (defined : start.defineObject name type implements fields = (definition, finish)) :
    ∀ found ∈ definition.toList, found.fullName? kind = some other →
      kind = .object ∧ name = other ∧ found.description? = type.bind (·.description?) := by
  intro found member full
  cases defineObject_defines defined with
  | full implementations fresh =>
    rw [List.mem_singleton.1 member] at full ⊢
    obtain ⟨object, named⟩ := Definition.eq_of_fullName_type rfl rfl full
    exact ⟨object, named, rfl⟩
  | nothing known none => cases member
  | extension known some =>
    rw [List.mem_singleton.1 member] at full
    cases full

theorem defineInterface_described {type : TypeDescriptor} {definition : Definition}
    (defined : start.defineInterface name type fields = .ok (definition, finish))
    (full : definition.fullName? kind = some other) :
    kind = .interface ∧ name = other ∧ definition.description? = type.description? ∧
      fields.map (·.definition.name) ⊆ definition.fields.map (·.name) := by
  obtain ⟨-, rfl, -⟩ := defineInterface_ok defined
  obtain ⟨interface, named⟩ := Definition.eq_of_fullName_type rfl rfl full
  refine ⟨interface, named, rfl, fun field member => ?_⟩
  show field ∈ ((distinctFields fields).map (·.definition)).map (·.name)
  rw [List.map_map]
  exact mem_names_distinctFields.2 member

end Discovery

namespace Domain

variable {domain : Domain} {resolvers : List Resolver} {turn : Turn} {start finish : Discovery}
  {definitions : List Definition}

theorem Step.depicts (step : domain.Step turn start definitions finish)
    (among : turn.Among resolvers) :
    ∀ definition ∈ definitions, ∀ kind name, definition.fullName? kind = some name →
      (kind = .object ∧ turn.rootName? = some name) ∨
      ∃ type, domain.Bears resolvers finish.registry kind name type ∧
        domain.Depicts finish.registry type name definition kind := by
  intro definition member kind name full
  have whole := step.grows
  have recorded {entry : DiscoveredType} {opened : Registry} {type : TypeDescriptor}
      (popped : start.registry.pop? = some (entry, opened))
      (present : domain.catalog.lookup? entry.source = some type) :
      domain.Bears resolvers finish.registry entry.kind entry.name type :=
    (bears_of_pop popped present).of_grows whole
  cases step with
  | root role contributed defined =>
    obtain ⟨rfl, rfl, -⟩ := Discovery.defineObject_described defined definition member full
    exact .inl ⟨rfl, role⟩
  | @extension _ _ _ type _ _ _ _ _ _ role discovered object contributed present defined =>
    obtain ⟨rfl, rfl, described⟩ :=
      Discovery.defineObject_described defined definition member full
    exact .inr ⟨type, bears_of_discover among role present discovered object, described⟩
  | @resolvedInterface _ _ _ type _ _ _ _ _ extras own _ role discovered interface contributed first
      present declared defined =>
    rw [List.mem_singleton.1 member] at full ⊢
    obtain ⟨rfl, rfl, described, fields⟩ := Discovery.defineInterface_described defined full
    refine .inr ⟨type, bears_of_discover among role present discovered interface, described,
      fun field declares => fields ?_⟩
    rw [List.map_append, names_of_declaredFields declared]
    exact List.mem_append_left _ declares
  | @object entry type _ _ _ _ _ _ popped object present declared defined =>
    obtain ⟨rfl, rfl, described⟩ :=
      Discovery.defineObject_described defined definition member full
    have bears := recorded popped present
    rw [object] at bears
    exact .inr ⟨type, bears, described⟩
  | @interface entry type _ _ _ _ own _ popped interface present declared defined =>
    rw [List.mem_singleton.1 member] at full ⊢
    obtain ⟨rfl, rfl, described, fields⟩ := Discovery.defineInterface_described defined full
    have bears := recorded popped present
    rw [interface] at bears
    refine .inr ⟨type, bears, described, fun field declares => fields ?_⟩
    rw [names_of_declaredFields declared]
    exact declares
  | builtInterface popped kind built resolved => cases member
  | @input entry type _ _ _ values popped input present given =>
    rw [List.mem_singleton.1 member] at full ⊢
    obtain ⟨rfl, rfl⟩ := Definition.eq_of_fullName_type rfl rfl full
    have bears := recorded popped present
    rw [input] at bears
    exact .inr ⟨type, bears, values, rfl, makesValues_of_inputValues given⟩
  | @enum entry type _ _ popped enum present =>
    rw [List.mem_singleton.1 member] at full ⊢
    obtain ⟨rfl, rfl⟩ := Definition.eq_of_fullName_type rfl rfl full
    have bears := recorded popped present
    rw [enum] at bears
    exact .inr ⟨type, bears, rfl⟩

theorem Run.depicts {turns : List Turn} (run : domain.Run turns start definitions finish)
    (among : ∀ turn ∈ turns, turn.Among resolvers) :
    ∀ definition ∈ definitions, ∀ kind name, definition.fullName? kind = some name →
      (kind = .object ∧ ∃ resolver ∈ resolvers, resolver.role.rootName? = some name) ∨
      ∃ type, domain.Bears resolvers finish.registry kind name type ∧
        domain.Depicts finish.registry type name definition kind := by
  induction run with
  | nil => exact nofun
  | @cons turn turns start between finish first later step rest ih =>
    have here := among turn List.mem_cons_self
    intro definition member kind name full
    rcases List.mem_append.1 member with emitted | emitted
    · rcases step.depicts here definition emitted kind name full with
        ⟨object, root⟩ | ⟨type, bears, depicts⟩
      · cases turn with
        | resolver resolver => exact .inl ⟨object, resolver, here, root⟩
        | entry entry => cases root
      · exact .inr ⟨type, bears.of_grows rest.grows, depicts.of_grows rest.grows⟩
    · exact ih (fun turn later => among turn (List.mem_cons_of_mem _ later)) definition emitted
        kind name full

end Domain

end SchemaDiscovery
