import SchemaDiscovery.Descriptor.Resolver
/-!
Descriptors put together part by part: each step adds one part at the end of its list, or replaces
the one that there can be.
-/

namespace SchemaDiscovery

namespace TypeUse

def primitive (kind : ValueKind) : TypeUse := .atom (.primitive kind) []

def boxed (kind : ValueKind) : TypeUse := .atom (.boxed kind) []

def named (key : TypeKey) : TypeUse := .atom (.named key) []

def param (name : String) : TypeUse := .atom (.param name) []

def list (element : TypeUse) : TypeUse := .generic .list [element] []

def withTag (use : TypeUse) (tag : Tag) : TypeUse := use.addTags [tag]

def notNull (use : TypeUse) : TypeUse := use.withTag .notNull

def bare : TypeUse → TypeUse
  | .atom type _ => .atom type []
  | .generic shape args _ => .generic shape args []

end TypeUse

namespace Method

def returning (method : Method) (type : TypeUse) : Method := { method with returns := some type }

def withParam (method : Method) (param : Parameter) : Method :=
  { method with params := method.params ++ [param] }

def withTag (method : Method) (tag : Tag) : Method := { method with tags := method.tags ++ [tag] }

def hidden (method : Method) : Method := { method with visibility := .isPrivate }

def static (method : Method) : Method := { method with isStatic := true }

end Method

namespace Resolver

def withMethod (resolver : Resolver) (method : Method) : Resolver :=
  { resolver with methods := resolver.methods ++ [method] }

end Resolver

namespace TypeDescriptor

def withTypeParam (type : TypeDescriptor) (name : String) : TypeDescriptor :=
  { type with typeParams := type.typeParams ++ [name] }

/-- A type has one parent, the last one given. -/
def extending (type : TypeDescriptor) (parent : Supertype) : TypeDescriptor :=
  { type with parent := some parent }

def implementing (type : TypeDescriptor) (interface : Supertype) : TypeDescriptor :=
  { type with interfaces := type.interfaces ++ [interface] }

def withTag (type : TypeDescriptor) (tag : Tag) : TypeDescriptor :=
  { type with tags := type.tags ++ [tag] }

def withField (type : TypeDescriptor) (field : StorageField) : TypeDescriptor :=
  { type with fields := type.fields ++ [field] }

def withMethod (type : TypeDescriptor) (method : Method) : TypeDescriptor :=
  { type with methods := type.methods ++ [method] }

end TypeDescriptor

end SchemaDiscovery
