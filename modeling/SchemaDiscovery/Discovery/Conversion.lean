import SchemaDiscovery.Definition.Basic
import SchemaDiscovery.Classification
import SchemaDiscovery.Discovery.Agenda
/-!
Type references of the schema made from uses of types. The types that a use mentions are discovered
on the way.
-/

namespace SchemaDiscovery

/-- A step of discovery: it may fail, and keeps the registry as far as it came. -/
abbrev Discovering := ExceptT SchemaError (StateM Registry)

/-- Whether a use stands for a result or for a value that is passed in. -/
inductive Direction
  | output
  | input
  deriving DecidableEq, Repr

def Direction.kind : Direction → TypeKind
  | .output => .object
  | .input => .input

inductive FieldShape
  | plain
  | list
  | stream
  deriving DecidableEq, Repr

def FieldShape.of (isStream : Bool) (type : TypeRef) : FieldShape :=
  if isStream then .stream else if type.isList then .list else .plain

namespace Domain

def reference (domain : Domain) (type : TypeDescriptor) (direction : Direction) :
    Discovering TypeRef :=
  ExceptT.mk fun registry =>
    let (outcome, after) := domain.discover registry type.key direction.kind
    (outcome.map TypeRef.nullable, after)

/-- The reference for a use, non-null when asked for or tagged so. A publisher is seen through in
output; any other wrapper inside a type is refused. -/
def typeRef (domain : Domain) (direction : Direction) (context : String) (nonNull : Bool)
    (use : TypeUse) : Discovering TypeRef :=
  let nonNull := nonNull || hasNotNull use.tags
  match _classified : domain.catalog.classify use with
  | .error e => throw e
  | .ok (.scalar kind primitive) =>
    return (TypeRef.named kind.scalar primitive).markIf nonNull
  | .ok .map => return .named domain.config.jsonScalar nonNull
  | .ok (.enum type) => return (← domain.reference type direction).markIf nonNull
  | .ok (.named type) => return (← domain.reference type direction).markIf nonNull
  | .ok (.list element) =>
    return .list (← domain.typeRef direction context false element) nonNull
  | .ok (.publisher element) =>
    match direction with
    | .output => domain.typeRef .output context nonNull element
    | .input => throw (.wrapperInInput use.display context)
  | .ok (.asyncWrapper _) =>
    match direction with
    | .output => throw (.nestedWrapper use.display context)
    | .input => throw (.wrapperInInput use.display context)
termination_by sizeOf use
decreasing_by all_goals exact (elementOf_of_classify _classified rfl).sizeOf_lt

/-- The reference and the shape of a field. One future or optional around the type is taken off. -/
def fieldType (domain : Domain) (context : String) (nonNull : Bool) (use : TypeUse) :
    Discovering (TypeRef × FieldShape) := do
  let inner := (← domain.catalog.classify use).unwrapped use
  let isStream := (← domain.catalog.classify inner).isPublisher
  let nonNull := nonNull || hasNotNull use.tags || isStream && hasNotNull inner.tags
  let type ← domain.typeRef .output context nonNull inner
  return (type, FieldShape.of isStream type)

end Domain

end SchemaDiscovery
