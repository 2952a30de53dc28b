import SchemaDiscovery.DefaultValue
import SchemaDiscovery.Definition.Directive
import SchemaDiscovery.Descriptor.Resolver
import SchemaDiscovery.Discovery.Conversion
/-!
Fields, arguments and input values made from methods and parameters.
-/

namespace SchemaDiscovery

structure BoundField where
  definition : FieldDefinition
  source : String
  method : String
  shape : FieldShape
  deriving Repr

namespace Domain

def defaultLiteral (domain : Domain) (metadata : Metadata) (target : TypeUse) :
    Except SchemaError (Option Literal) :=
  match metadata.default with
  | none => .ok none
  | some spec => (domain.catalog.literalOfSpec spec target).map some

def inputValue (domain : Domain) (name context : String) (metadata : Metadata) (use : TypeUse) :
    Discovering InputValue := do
  let type ← domain.typeRef .input context metadata.notNull use
  let default ← domain.defaultLiteral metadata use
  return {
    name, type, default
    description := metadata.description
    directives := metadata.inputDirectives }

def argument (domain : Domain) (context : String) (param : Parameter) :
    Discovering InputValue :=
  let metadata := param.metadata
  let name := metadata.nameOverride.getD param.name
  domain.inputValue name (context ++ "(" ++ name ++ ")") metadata param.type

/-- The parameters that become arguments: all but an execution context at the end and, when it is
bound to the source object, the first. -/
def argumentParameters (method : Method) (skipFirst : Bool) : List Parameter :=
  let params := match method.params.getLast? with
    | some last => if last.type.isContext then method.params.dropLast else method.params
    | none => []
  if skipFirst then params.tail else params

/-- The field that a method stands for, unless it is ignored or returns nothing. -/
def field? (domain : Domain) (storage : Storage) (source : String) (skipFirst : Bool)
    (method : Method) : Discovering (Option BoundField) := do
  let accessed := outputName method.name
  let metadata := storage.methodMetadata method accessed
  match metadata.ignored, method.returns with
  | false, some returns =>
    let context := source ++ "." ++ method.name
    let (type, shape) ← domain.fieldType context metadata.notNull returns
    let arguments ← (argumentParameters method skipFirst).mapM (domain.argument context)
    return some {
      source, shape
      method := method.name
      definition := {
        type, arguments
        name := metadata.nameOverride.getD accessed
        description := metadata.description
        directives := metadata.fieldDirectives } }
  | _, _ => return none

def fields (domain : Domain) (storage : Storage) (skipFirst : Bool)
    (methods : List (String × Method)) : Discovering (List BoundField) := do
  return (← methods.mapM fun (source, method) =>
    domain.field? storage source skipFirst method).filterMap id

def declaredFields (domain : Domain) (type : TypeDescriptor) (kind : TypeKind) :
    Discovering (List BoundField) :=
  domain.fields (Storage.ofOwner domain.catalog type kind) false
    ((domain.catalog.methodsOf type Method.isOutput).map fun collected =>
      (collected.declaredIn.path, collected.method))

def takesSource (source : TypeKey) (method : Method) : Bool :=
  method.params.head?.any fun param => param.type.key? = some source

/-- The fields that a resolver adds. One for a source type adds only those of its methods whose first
parameter takes the source object. -/
def contributedFields (domain : Domain) (resolver : Resolver) : Discovering (List BoundField) :=
  let source := resolver.role.source?
  let methods := (resolver.methods.filter Method.isOutput).filter fun method =>
    source.all (takesSource · method)
  domain.fields .detached source.isSome (methods.map fun method => (resolver.name, method))

def inputValues (domain : Domain) (name : String) (type : TypeDescriptor) :
    Discovering (List InputValue) := do
  let values ← (domain.catalog.inputFieldsOf type).mapM fun field =>
    domain.inputValue field.name (name ++ "." ++ field.name) field.metadata field.type
  if values.isEmpty then throw (.noInputFields type.key) else return values

end Domain

end SchemaDiscovery
