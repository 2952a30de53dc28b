import SchemaDiscovery.Descriptor.Type
import SchemaDiscovery.Decimal.Numeral
import SchemaDiscovery.Decimal.Shortest
import SchemaDiscovery.Config
/-!
Failures of schema discovery. Each one ends the step that met it and names what it concerns.
-/

namespace SchemaDiscovery

inductive Expectation
  | integer
  | number
  | truthValue
  | character
  | text
  | memberName
  | array
  | object
  deriving DecidableEq, Repr

def Expectation.message : Expectation → String
  | .integer => "expected an integer"
  | .number => "expected a number"
  | .truthValue => "expected true or false"
  | .character => "expected exactly one character"
  | .text => "expected a string"
  | .memberName => "expected an enum member name"
  | .array => "expected a JSON array"
  | .object => "expected a JSON object"

inductive DefaultFault
  | malformed
  | numeral (error : Decimal.NumeralError)
  | outOfRange (value : Int) (kind : ValueKind)
  | infinite (negative : Bool)
  | notANumber
  | expected (what : Expectation)
  | nullNotAllowed
  deriving DecidableEq, Repr

def DefaultFault.message : DefaultFault → String
  | .malformed => "<json error>"
  | .numeral error => error.message
  | .outOfRange value kind => toString value ++ " is out of range for " ++ kind.label
  | .infinite negative => (if negative then "-inf" else "inf") ++ " is not a finite number"
  | .notANumber => "NaN is not a finite number"
  | .expected what => what.message
  | .nullNotAllowed => "null is not allowed here"

inductive ManifestFault
  | notJson
  | notToml
  | notAManifest
  deriving DecidableEq, Repr

def ManifestFault.message : ManifestFault → String
  | .notJson => "the text is not JSON"
  | .notToml => "the text is not TOML"
  | .notAManifest => "the document is not a manifest"

inductive SchemaError
  | unknownType (key : TypeKey)
  | unresolvable (type : Atom)
  | argumentCount (shape : Shape) (count : Nat) (type : String)
  | unsupportedShape (shape : Shape) (type : String)
  | nestedWrapper (type : String) (context : String)
  | wrapperInInput (type : String) (context : String)
  | interfaceAsInput (key : TypeKey)
  | kindConflict (name : String) (previous requested : TypeKind)
  | duplicateInterface (name : String)
  | conflictingInterfaceResolvers (interface first second : String)
  | invalidResolver (resolver : String) (source : TypeKey) (kind : TypeKind)
  | noInputFields (key : TypeKey)
  | invalidDefault (target value : String) (fault : DefaultFault)
  | unknownDefaultField (target : TypeKey) (field : String)
  | unknownEnumMember (target : TypeKey) (value : String)
  | manifest (fault : ManifestFault)
  | config (error : ConfigError)
  | initializing
  | buildFailed (message : String)
  deriving DecidableEq, Repr

def Atom.objection : Atom → String
  | .param _ => "type variable is not bound to an actual type"
  | .any => "the universal root type has no schema shape"
  | .rawMap => "map without type arguments"
  | .rawCollection => "collection without type arguments"
  | .context => "execution context is only allowed as the trailing parameter"
  | .primitive _ => ""
  | .boxed _ => ""
  | .named _ => ""

namespace SchemaError

def message : SchemaError → String
  | .unknownType key => "Type " ++ key.path ++ " is not present in the type catalog"
  | .unresolvable type => "Can't resolve type " ++ type.display ++ ": " ++ type.objection
  | .argumentCount shape count type =>
    unsupported shape.label (toString count ++ " type arguments in " ++ type)
  | .unsupportedShape shape type => unsupported shape.label type
  | .nestedWrapper type context => unsupported type ("nested wrapper in " ++ context)
  | .wrapperInInput type context =>
    "Wrapper type " ++ type ++ " can't be used as input (in " ++ context ++ ")"
  | .interfaceAsInput key => "Input type can't be interface: " ++ key.path
  | .kindConflict name previous requested =>
    "Type " ++ name ++ " was already discovered with different type kind " ++ previous.label ++
      " (previous) != " ++ requested.label ++ " (new)"
  | .duplicateInterface name => "Interface " ++ name ++ " can't be defined more than once"
  | .conflictingInterfaceResolvers interface first second =>
    "Interface " ++ interface ++ " has more than one resolver: " ++ first ++ " and " ++ second
  | .invalidResolver resolver source kind =>
    "Invalid resolver " ++ resolver ++ ": source type " ++ source.path ++ " is discovered as " ++
      kind.label
  | .noInputFields key => "No fields were discovered for input type " ++ key.path
  | .invalidDefault target value fault =>
    "Default value " ++ Text.quoted value ++ " is invalid for " ++ target ++ ": " ++ fault.message
  | .unknownDefaultField target field =>
    "Default value for " ++ target.path ++ " references unknown field " ++ field
  | .unknownEnumMember target value =>
    "Default value " ++ value ++ " is not a member of enum " ++ target.path
  | .manifest fault => "Invalid type manifest: " ++ fault.message
  | .config error => "Invalid schema configuration: " ++ error.message
  | .initializing => "Schema is being built, please retry"
  | .buildFailed message => "Failed to build schema: " ++ message
where
  unsupported (shape context : String) : String :=
    "Parameterized type " ++ shape ++ " is not supported (in " ++ context ++ ")"

def isRetryable : SchemaError → Bool
  | .initializing => true
  | _ => false

end SchemaError

end SchemaDiscovery
