import SchemaDiscovery.Methods.Accessor
import SchemaDiscovery.Descriptor.Type
/-!
Which methods become output fields and which become input values.
-/

namespace SchemaDiscovery

namespace Method

/-- Methods that every object has for reasons of its own. -/
def identityNames : List String :=
  ["getClass", "equals", "hashCode", "toString", "clone", "notify", "notifyAll", "wait",
    "finalize", "compareTo"]

def isExposed (method : Method) : Bool :=
  method.isPublic && !method.isStatic && !identityNames.contains method.name &&
    !method.tags.contains .ignore && !method.tags.contains .batchLoader

def isSetter (method : Method) : Bool :=
  method.returns.isNone && (inputName? method.name).isSome

/-- An output method returns a value and neither takes nor returns the universal type. -/
def isOutput (method : Method) : Bool :=
  method.isExposed && !method.isSetter && !method.params.any (·.type.isAny) &&
    method.returns.any fun use => !use.isAny

/-- An input method is a setter of one value that is not of the universal type. -/
def isInput (method : Method) : Bool :=
  method.isExposed && method.isSetter &&
    match method.params with
    | [param] => !param.type.isAny
    | _ => false

end Method

end SchemaDiscovery
