import SchemaDiscovery.Catalog.Lineage
import SchemaDiscovery.Methods.Eligibility
import SchemaDiscovery.Metadata.Storage
/-!
The methods a type has, its own and inherited. The nearest declaration of a name decides, and hides
the others even when it is filtered out itself.
-/

namespace SchemaDiscovery

structure TypeMethod where
  method : Method
  declaredIn : TypeKey
  deriving DecidableEq, Repr

structure Declaration where
  ancestor : Ancestor
  method : Method
  deriving DecidableEq, Repr

def Declaration.resolve (declaration : Declaration) : TypeMethod :=
  ⟨declaration.ancestor.bindings.applyToMethod declaration.method, declaration.ancestor.type.key⟩

def firstDeclarations (seen : List String) : List Declaration → List Declaration
  | [] => []
  | declaration :: declarations =>
    if seen.contains declaration.method.name then firstDeclarations seen declarations
    else declaration :: firstDeclarations (declaration.method.name :: seen) declarations

namespace Catalog

def declarations (catalog : Catalog) (type : TypeDescriptor) : List Declaration :=
  (catalog.lineage type).flatMap fun ancestor => ancestor.type.methods.map (⟨ancestor, ·⟩)

def methodsOf (catalog : Catalog) (type : TypeDescriptor) (filter : Method → Bool) :
    List TypeMethod :=
  ((firstDeclarations [] (catalog.declarations type)).filter (filter ·.method)).map (·.resolve)

end Catalog

structure InputField where
  name : String
  type : TypeUse
  method : TypeMethod
  metadata : Metadata
  deriving DecidableEq, Repr

def Storage.inputField? (storage : Storage) (collected : TypeMethod) : Option InputField := do
  let name ← inputName? collected.method.name
  let metadata := storage.setterMetadata collected.method name
  if metadata.ignored then none
  else
    let param ← collected.method.params.head?
    return ⟨metadata.nameOverride.getD name, param.type, collected, metadata⟩

def Catalog.inputFieldsOf (catalog : Catalog) (type : TypeDescriptor) : List InputField :=
  (catalog.methodsOf type Method.isInput).filterMap
    (Storage.ofOwner catalog type .input).inputField?

end SchemaDiscovery
