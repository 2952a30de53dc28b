import SchemaDiscovery.Definition.Render
import SchemaDiscovery.Definition.Scalar
import SchemaDiscovery.Discovery.Emission
/-!
Building a schema from a domain and its resolvers.
-/

namespace SchemaDiscovery

structure Schema where
  definitions : List Definition := []
  implementations : List (String × TypeKey) := []
  bindings : List FieldBinding := []
  deriving Repr

namespace Schema

def text (schema : Schema) : String := renderSchema schema.definitions

def bindingsFor (schema : Schema) (typeName : String) : List FieldBinding :=
  schema.bindings.filter (·.parentType = typeName)

def binding? (schema : Schema) (typeName field : String) : Option FieldBinding :=
  schema.bindings.find? fun binding => binding.parentType = typeName && binding.field = field

def streamingFields (schema : Schema) : List FieldBinding :=
  schema.bindings.filter (·.shape = .stream)

end Schema

def Discovery.finish (discovery : Discovery) (definitions : List Definition) : Schema :=
  ⟨definitions, discovery.implementations, discovery.bindings⟩

namespace Domain

def directiveDefinitions (domain : Domain) : List Definition :=
  if domain.config.securedDirective then [.directive securedDefinition] else []

def scalarDeclarations (domain : Domain) : List Definition :=
  if domain.config.declareScalars then scalarDefinitions domain.config.jsonScalar else []

def emitAll (domain : Domain) (resolvers : List Resolver) : Building (List Definition) := do
  let resolved ← resolvers.mapM domain.addResolver
  return resolved.flatten ++ (← domain.defineQueued)

def build (domain : Domain) (resolvers : List Resolver) : Except SchemaError Schema := do
  if let some objection := domain.config.objection? then throw (.config objection)
  let (outcome, discovery) := (domain.emitAll resolvers).run {}
  return discovery.finish
    (domain.directiveDefinitions ++ domain.scalarDeclarations ++ (← outcome))

end Domain

end SchemaDiscovery
