import SchemaDiscovery.Schema
import SchemaDiscovery.Proofs.Definition.Parts
/-!
What is emitted for a name. Main statement: an object is defined in full the first time, and later it
is extended when it gets more fields; what else the emission of a definition changes follows from
this.
-/

namespace SchemaDiscovery

namespace Discovery

variable {start finish : Discovery} {name : String} {type : Option TypeDescriptor}
  {implements : Option String} {fields : List BoundField} {definition : Option Definition}

inductive DefinesObject (start : Discovery) (name : String) (type : Option TypeDescriptor)
    (implements : Option String) (fields : List BoundField) :
    Option Definition → Discovery → Prop
  | full (implementations : List (String × TypeKey)) (fresh : name ∉ start.definedObjects) :
    DefinesObject start name type implements fields
      (some (.type {
        name
        description := type.bind (·.description?)
        body := .object implements.toList ((distinctFields fields).map (·.definition)) }))
      { start.recordBindings name (distinctFields fields) with
        definedObjects := name :: start.definedObjects
        implementations }
  | nothing (known : name ∈ start.definedObjects) (none : distinctFields fields = []) :
    DefinesObject start name type implements fields .none start
  | extension (known : name ∈ start.definedObjects) (some : distinctFields fields ≠ []) :
    DefinesObject start name type implements fields
      (.some (.type {
        name
        isExtension := true
        body := .object [] ((distinctFields fields).map (·.definition)) }))
      (start.recordBindings name (distinctFields fields))

theorem defineObject_defines
    (defined : start.defineObject name type implements fields = (definition, finish)) :
    start.DefinesObject name type implements fields definition finish := by
  unfold defineObject at defined
  simp only [List.contains_iff_mem, List.isEmpty_iff] at defined
  split at defined
  · next known =>
    split at defined
    · next none =>
      cases defined
      exact .nothing known none
    · next some =>
      cases defined
      exact .extension known some
  · next fresh =>
    cases defined
    exact .full _ fresh

theorem defineObject_registry
    (defined : start.defineObject name type implements fields = (definition, finish)) :
    finish.registry = start.registry := by
  cases defineObject_defines defined <;> rfl

theorem defineObject_extras
    (defined : start.defineObject name type implements fields = (definition, finish)) :
    finish.interfaceExtras = start.interfaceExtras := by
  cases defineObject_defines defined <;> rfl

theorem defineObject_resolvers
    (defined : start.defineObject name type implements fields = (definition, finish)) :
    finish.interfaceResolvers = start.interfaceResolvers := by
  cases defineObject_defines defined <;> rfl

theorem defineObject_interfaces
    (defined : start.defineObject name type implements fields = (definition, finish)) :
    finish.builtInterfaces = start.builtInterfaces := by
  cases defineObject_defines defined <;> rfl

theorem mem_definedObjects
    (defined : start.defineObject name type implements fields = (definition, finish)) :
    name ∈ finish.definedObjects := by
  cases defineObject_defines defined with
  | full implementations fresh => exact List.mem_cons_self
  | nothing known none => exact known
  | extension known some => exact known

theorem defineObject_implements
    (defined : start.defineObject name type implements fields = (definition, finish)) :
    ∀ found ∈ definition.toList, ∀ other, found.fullName? .object = some other →
      other = name ∧ found.implements = implements.toList := by
  intro found member other full
  cases defineObject_defines defined with
  | full implementations fresh =>
    rw [List.mem_singleton.1 member, Definition.fullName_type rfl rfl] at full
    rw [List.mem_singleton.1 member]
    exact ⟨(Option.some_inj.1 full).symm, rfl⟩
  | nothing known none => cases member
  | extension known some =>
    rw [List.mem_singleton.1 member] at full
    cases full

theorem defineObject_fields
    (defined : start.defineObject name type implements fields = (definition, finish)) :
    ∀ found ∈ definition.toList, found.isObjectOf name ∧
      found.fields = (distinctFields fields).map (·.definition) ∧ found.ownValues = [] := by
  intro found member
  cases defineObject_defines defined with
  | full implementations fresh =>
    rw [List.mem_singleton.1 member]
    exact ⟨decide_eq_true rfl, rfl, rfl⟩
  | nothing known none => cases member
  | extension known some =>
    rw [List.mem_singleton.1 member]
    exact ⟨decide_eq_true rfl, rfl, rfl⟩

theorem defineInterface_ok {type : TypeDescriptor} {definition : Definition}
    (defined : start.defineInterface name type fields = .ok (definition, finish)) :
    name ∉ start.builtInterfaces ∧
      definition = .type {
        name
        description := type.description?
        body := .interface [] ((distinctFields fields).map (·.definition)) } ∧
      finish = { start.recordBindings name (distinctFields fields) with
        builtInterfaces := name :: start.builtInterfaces } := by
  unfold defineInterface at defined
  dsimp only at defined
  split at defined
  · cases defined
  · next free =>
    cases defined
    exact ⟨by simpa using free, rfl, rfl⟩

end Discovery

theorem mem_names_distinctFields {fields : List BoundField} {name : String} :
    name ∈ (distinctFields fields).map (·.definition.name) ↔
      name ∈ fields.map (·.definition.name) :=
  Ordered.mem_keys_ofList

namespace Domain

variable {domain : Domain}

theorem declaration_cases {definition : Definition}
    (member : definition ∈ domain.directiveDefinitions ++ domain.scalarDeclarations) :
    definition = .directive securedDefinition ∨ ∃ name, definition = scalarDefinition name := by
  rcases List.mem_append.1 member with directive | scalar
  · unfold directiveDefinitions at directive
    split at directive
    · exact .inl (List.mem_singleton.1 directive)
    · cases directive
  · unfold scalarDeclarations scalarDefinitions at scalar
    split at scalar
    · obtain ⟨name, -, same⟩ := List.mem_map.1 scalar
      exact .inr ⟨name, same.symm⟩
    · cases scalar

theorem fullName_declarations (kind : TypeKind) :
    (domain.directiveDefinitions ++ domain.scalarDeclarations).filterMap
      (Definition.fullName? kind) = [] := by
  rw [List.filterMap_eq_nil_iff]
  intro definition member
  rcases declaration_cases member with rfl | ⟨name, rfl⟩
  · rfl
  · simp [scalarDefinition, Definition.fullName?, TypeBody.kind?]

theorem isObjectOf_declarations (name : String) :
    (domain.directiveDefinitions ++ domain.scalarDeclarations).filter (·.isObjectOf name) = [] := by
  rw [List.filter_eq_nil_iff]
  intro definition member
  rcases declaration_cases member with rfl | ⟨scalar, rfl⟩
  · exact nofun
  · exact nofun

end Domain

end SchemaDiscovery
