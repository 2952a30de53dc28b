import SchemaDiscovery.Definition.Literal
/-!
Type-system definitions of a GraphQL schema.
-/

namespace SchemaDiscovery

inductive TypeRef
  | named (name : String) (nonNull : Bool)
  | list (element : TypeRef) (nonNull : Bool)
  deriving DecidableEq, Repr

namespace TypeRef

def nullable (name : String) : TypeRef := .named name false

def markIf (nonNull : Bool) : TypeRef → TypeRef
  | .named name marked => .named name (marked || nonNull)
  | .list element marked => .list element (marked || nonNull)

def isList : TypeRef → Bool
  | .named _ _ => false
  | .list _ _ => true

end TypeRef

structure DirectiveUse where
  name : String
  arguments : List (String × Literal) := []
  deriving Repr

/-- An argument or a field of an input type. -/
structure InputValue where
  name : String
  type : TypeRef
  description : Option String := none
  default : Option Literal := none
  directives : List DirectiveUse := []
  deriving Repr

structure FieldDefinition where
  name : String
  type : TypeRef
  description : Option String := none
  arguments : List InputValue := []
  directives : List DirectiveUse := []
  deriving Repr

structure EnumValue where
  name : String
  description : Option String := none
  directives : List DirectiveUse := []
  deriving Repr

inductive TypeBody
  | scalar
  | object (implements : List String) (fields : List FieldDefinition)
  | interface (implements : List String) (fields : List FieldDefinition)
  | union (members : List String)
  | enum (values : List EnumValue)
  | input (fields : List InputValue)
  deriving Repr

structure TypeDefinition where
  name : String
  isExtension : Bool := false
  description : Option String := none
  directives : List DirectiveUse := []
  body : TypeBody
  deriving Repr

structure SchemaDefinition where
  isExtension : Bool := false
  directives : List DirectiveUse := []
  query : Option String := none
  mutation : Option String := none
  subscription : Option String := none
  deriving Repr

inductive DirectiveLocation
  | query
  | mutation
  | subscription
  | field
  | fragmentDefinition
  | fragmentSpread
  | inlineFragment
  | schema
  | scalar
  | object
  | fieldDefinition
  | argumentDefinition
  | interface
  | union
  | enum
  | enumValue
  | inputObject
  | inputFieldDefinition
  | variableDefinition
  deriving DecidableEq, Repr

structure DirectiveDefinition where
  name : String
  description : Option String := none
  arguments : List InputValue := []
  isRepeatable : Bool := false
  locations : List DirectiveLocation := []
  deriving Repr

inductive Definition
  | schema (definition : SchemaDefinition)
  | directive (definition : DirectiveDefinition)
  | type (definition : TypeDefinition)
  deriving Repr

namespace Definition

def keyword : Definition → String
  | .schema _ => "schema"
  | .directive _ => "directive"
  | .type definition =>
    if definition.isExtension then "extend type"
    else
      match definition.body with
      | .scalar => "scalar"
      | .object _ _ => "type"
      | .interface _ _ => "interface"
      | .union _ => "union"
      | .enum _ => "enum"
      | .input _ => "input"

def counts (definitions : List Definition) : List (String × Nat) :=
  let keywords := definitions.map keyword
  keywords.eraseDups.map fun keyword => (keyword, keywords.count keyword)

end Definition

end SchemaDiscovery
