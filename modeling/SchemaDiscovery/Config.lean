import SchemaDiscovery.Name
import SchemaDiscovery.Text.Blank
import SchemaDiscovery.Text.Quoted
/-!
Options of schema generation.
-/

namespace SchemaDiscovery

structure Config where
  declareScalars : Bool := true
  securedDirective : Bool := true
  jsonScalar : String := "JSON"
  implementationScope : Option String := none
  deriving DecidableEq, Repr

inductive ConfigError
  | jsonScalar (name : String)
  | emptyScope
  deriving DecidableEq, Repr

def ConfigError.message : ConfigError → String
  | .jsonScalar name =>
    "schema.json_scalar must be a valid GraphQL name, got " ++ Text.quoted name
  | .emptyScope => "schema.implementation_scope must not be empty"

namespace Config

def objection? (config : Config) : Option ConfigError :=
  if !isLegalName config.jsonScalar then some (.jsonScalar config.jsonScalar)
  else if config.implementationScope.any fun scope => (Text.trim scope.toList).isEmpty then
    some .emptyScope
  else none

/-- The scope in which implementations of an interface are sought: the configured one, else the
interface's own module. -/
def scopeFor (config : Config) (modulePath : Option String) : Option String :=
  config.implementationScope.or modulePath

end Config

end SchemaDiscovery
