import SchemaDiscovery.Descriptor.Decoding
import SchemaDiscovery.Document.Layout
import SchemaDiscovery.Error
import SchemaDiscovery.Json.Reader
import SchemaDiscovery.Toml.Reader
/-!
Manifests and options read from documents. Members that a type, a method, a parameter and the like
do not know are passed over. Uses of types, tags and forms are read as wholes, and so are the
members of a resolver, among which those of its role lie.
-/

namespace SchemaDiscovery

def DocumentFormat.read? : DocumentFormat → String → Option Document
  | .json => Json.readDocument?
  | .toml => Toml.read?

namespace Layout

def parameter : Layout := plain Parameter.fieldNames

def storageField : Layout := plain StorageField.fieldNames

def supertype : Layout := plain Supertype.fieldNames

def method : Layout := record Method.fieldNames fun
  | "visibility" => bareName
  | "params" => listOf parameter
  | _ => whole

def typeDescriptor : Layout := record TypeDescriptor.fieldNames fun
  | "parent" => supertype
  | "interfaces" => listOf supertype
  | "fields" => listOf storageField
  | "methods" => listOf method
  | _ => whole

def resolver : Layout := openRecord fun
  | "methods" => listOf method
  | _ => whole

def manifest : Layout := record Manifest.fieldNames fun
  | "types" => listOf typeDescriptor
  | "resolvers" => listOf resolver
  | _ => whole

def config : Layout := plain Config.fieldNames

end Layout

def Manifest.read (format : DocumentFormat) (text : String) : Except SchemaError Manifest :=
  match format.read? text with
  | none => .error (.manifest (match format with
    | .json => .notJson
    | .toml => .notToml))
  | some document =>
    match (Layout.manifest format document).bind Manifest.decode with
    | none => .error (.manifest .notAManifest)
    | some manifest => .ok manifest

def Config.read? (format : DocumentFormat) (text : String) : Option Config := do
  let document ← format.read? text
  let tree ← Layout.config format document
  Config.decode tree

end SchemaDiscovery
