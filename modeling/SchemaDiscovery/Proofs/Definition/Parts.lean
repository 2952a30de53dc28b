import SchemaDiscovery.Definition.Basic
import SchemaDiscovery.Descriptor.Type
/-!
Parts of a definition: the kind and the name that it gives to a type, its fields, the values that are
passed in and the interfaces that it names.
-/

namespace SchemaDiscovery

def TypeRef.base : TypeRef → String
  | .named name _ => name
  | .list element _ => element.base

@[simp] theorem TypeRef.base_markIf (nonNull : Bool) (type : TypeRef) :
    (type.markIf nonNull).base = type.base := by
  cases type <;> rfl

/-- The kind of type that a body defines, if it is one of a discovered type. -/
def TypeBody.kind? : TypeBody → Option TypeKind
  | .object _ _ => some .object
  | .interface _ _ => some .interface
  | .enum _ => some .enum
  | .input _ => some .input
  | .scalar => none
  | .union _ => none

namespace Definition

/-- The name that a definition gives in full to a type of the kind. -/
def fullName? (kind : TypeKind) : Definition → Option String
  | .type definition =>
    if definition.isExtension = false ∧ definition.body.kind? = some kind then
      some definition.name
    else none
  | _ => none

def isObjectOf (name : String) : Definition → Bool
  | .type definition =>
    match definition.body with
    | .object _ _ => definition.name = name
    | _ => false
  | _ => false

def fields : Definition → List FieldDefinition
  | .type { body := .object _ fields, .. } => fields
  | .type { body := .interface _ fields, .. } => fields
  | _ => []

/-- The fields of an input type and the arguments of a directive. -/
def ownValues : Definition → List InputValue
  | .type { body := .input values, .. } => values
  | .directive definition => definition.arguments
  | _ => []

/-- The values that are passed in: those of the definition and the arguments of its fields. -/
def inputValues (definition : Definition) : List InputValue :=
  definition.ownValues ++ definition.fields.flatMap (·.arguments)

def enumValues : Definition → List EnumValue
  | .type { body := .enum values, .. } => values
  | _ => []

def description? : Definition → Option String
  | .schema _ => none
  | .directive definition => definition.description
  | .type definition => definition.description

def implements : Definition → List String
  | .type { body := .object implements _, .. } => implements
  | _ => []

theorem fullName_type {definition : TypeDefinition} {kind : TypeKind}
    (full : definition.isExtension = false) (shape : definition.body.kind? = some kind)
    (other : TypeKind) :
    (Definition.type definition).fullName? other =
      if other = kind then some definition.name else none := by
  by_cases same : other = kind
  · simp [fullName?, full, shape, same]
  · simp [fullName?, full, shape, same, Ne.symm same]

theorem fullNames_type {definition : TypeDefinition} {kind : TypeKind}
    (full : definition.isExtension = false) (shape : definition.body.kind? = some kind)
    (other : TypeKind) :
    [Definition.type definition].filterMap (fullName? other) =
      if other = kind then [definition.name] else [] := by
  have named := fullName_type full shape other
  by_cases same : other = kind
  · rw [if_pos same] at named ⊢
    rw [List.filterMap_cons_some named]
    rfl
  · rw [if_neg same] at named ⊢
    rw [List.filterMap_cons_none named]
    rfl

theorem eq_of_fullName_type {definition : TypeDefinition} {kind other : TypeKind} {name : String}
    (full : definition.isExtension = false) (shape : definition.body.kind? = some kind)
    (named : (Definition.type definition).fullName? other = some name) :
    other = kind ∧ definition.name = name := by
  rw [fullName_type full shape, Option.ite_none_right_eq_some] at named
  exact ⟨named.1, Option.some_inj.1 named.2⟩

theorem fullName_other {definition : Definition} {kind other : TypeKind} {name : String}
    (full : definition.fullName? kind = some name) (different : other ≠ kind) :
    definition.fullName? other = none := by
  cases definition with
  | type definition =>
    rw [fullName?, Option.ite_none_right_eq_some] at full
    simp [fullName?, full.1.2, Ne.symm different]
  | _ => rfl

end Definition

end SchemaDiscovery
