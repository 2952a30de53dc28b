import SchemaDiscovery.Definition.Basic
import SchemaDiscovery.Classification
/-!
Declarations of the scalars that are not built in, the JSON scalar among them.
-/

namespace SchemaDiscovery

def scalarDescription? : String → Option String
  | "Long" => some "64-bit signed integer"
  | "Short" => some "16-bit signed integer"
  | "Byte" => some "8-bit signed integer"
  | "Char" => some "Single character"
  | "BigDecimal" => some "Arbitrary-precision decimal number"
  | "BigInteger" => some "Arbitrary-precision integer"
  | "Date" => some "Calendar date"
  | "DateTime" => some "Date and time of day"
  | "Timestamp" => some "Point in time"
  | _ => none

/-- The scalars of the value kinds, then the JSON scalar, each once and no built-in one. -/
def customScalars (jsonScalar : String) : List String :=
  ((ValueKind.all.map ValueKind.scalar ++ [jsonScalar]).filter fun name =>
    !isBuiltinScalar name).eraseDups

def scalarDefinition (name : String) : Definition :=
  .type { name, description := scalarDescription? name, body := .scalar }

def scalarDefinitions (jsonScalar : String) : List Definition :=
  (customScalars jsonScalar).map scalarDefinition

end SchemaDiscovery
