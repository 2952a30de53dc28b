import SchemaDiscovery.Descriptor.Type
import SchemaDiscovery.Ordered
/-!
Type arguments put in place of the type variables they are bound to. The tags on the use of a
variable come after those of its argument.
-/

namespace SchemaDiscovery

abbrev Bindings := List (String × TypeUse)

namespace Bindings

/-- Binds variables to arguments by position, as far as both go; of two variables with one name the
later counts. -/
def bind (params : List String) (args : List TypeUse) : Bindings :=
  Ordered.ofList Prod.fst (params.zip args)

def argument? (bindings : Bindings) (name : String) : Option TypeUse :=
  (bindings.find? (·.1 = name)).map Prod.snd

mutual

def apply (bindings : Bindings) : TypeUse → TypeUse
  | .atom (.param name) tags =>
    match bindings.argument? name with
    | some argument => argument.addTags tags
    | none => .atom (.param name) tags
  | .atom type tags => .atom type tags
  | .generic shape args tags => .generic shape (applyAll bindings args) tags

def applyAll (bindings : Bindings) : List TypeUse → List TypeUse
  | [] => []
  | use :: uses => apply bindings use :: applyAll bindings uses

end

def applyToMethod (bindings : Bindings) (method : Method) : Method :=
  { method with
    params := method.params.map fun param => { param with type := bindings.apply param.type }
    returns := method.returns.map bindings.apply }

end Bindings

end SchemaDiscovery
