import SchemaDiscovery.Catalog.Implementations
/-!
The kind and the name with which a type enters the schema.
-/

namespace SchemaDiscovery

namespace TypeDescriptor

/-- The kind a type is discovered with when it is asked for as another. An enum stays an enum, and a
type with an interface tag an interface, which is no input type. -/
def kindWhen (type : TypeDescriptor) (requested : TypeKind) : Except SchemaError TypeKind :=
  if type.isEnum then .ok .enum
  else if type.hasInterfaceTag then
    if requested = .input then .error (.interfaceAsInput type.key) else .ok .interface
  else .ok requested

def inputName? : Tag → Option String
  | .inputType name _ => name.filter (!·.isEmpty)
  | _ => none

def interfaceName? : Tag → Option String
  | .interface name => name.filter (!·.isEmpty)
  | _ => none

def ownName? : Tag → Option String
  | .typeName name _ => name.filter (!·.isEmpty)
  | _ => none

def implementationName? : Tag → Option String
  | .implementation name => name.filter (!·.isEmpty)
  | _ => none

def tagName? (type : TypeDescriptor) : TypeKind → Option String
  | .input => type.tags.findSome? inputName?
  | .interface => type.tags.findSome? interfaceName?
  | .object => (type.tags.findSome? ownName?).or (type.tags.findSome? implementationName?)
  | .enum => (type.tags.findSome? ownName?).or (type.tags.findSome? implementationName?)

/-- The name of the type in a role, by default the last segment of its key. -/
def schemaName (type : TypeDescriptor) (kind : TypeKind) : String :=
  (type.tagName? kind).getD type.key.simpleName

end TypeDescriptor

namespace Catalog

/-- The names that the types can be given in the four roles. -/
def possibleNames (catalog : Catalog) : List String :=
  catalog.types.flatMap fun type =>
    [TypeKind.object, .input, .enum, .interface].map type.schemaName

theorem schemaName_mem_possibleNames {catalog : Catalog} {type : TypeDescriptor}
    (present : type ∈ catalog.types) (kind : TypeKind) :
    type.schemaName kind ∈ catalog.possibleNames := by
  refine List.mem_flatMap.2 ⟨type, present, List.mem_map_of_mem ?_⟩
  cases kind <;> simp

end Catalog

end SchemaDiscovery
