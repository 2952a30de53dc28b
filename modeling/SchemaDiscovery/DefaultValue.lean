import SchemaDiscovery.Classification
import SchemaDiscovery.Definition.Literal
import SchemaDiscovery.Json.Reader
import SchemaDiscovery.Methods.Inherited
import SchemaDiscovery.Text.Blank
/-!
Default values. The text of a scalar follows the scalar's own grammar, that of an enum names a
member, and that of a list, a map or an input type is JSON whose parts fit the parts of the type.
-/

namespace SchemaDiscovery

open Decimal (readInt64 readFloat Extended)

namespace ValueKind

def admits (kind : ValueKind) (n : Int) : Bool :=
  match kind with
  | .int => -2147483648 ≤ n && n ≤ 2147483647
  | .short => -32768 ≤ n && n ≤ 32767
  | .byte => -128 ≤ n && n ≤ 127
  | _ => true

def integerLiteral (kind : ValueKind) (n : Int) : Except DefaultFault Literal :=
  if kind.admits n then .ok (.number (.int n)) else .error (.outOfRange n kind)

end ValueKind

def floatLiteral : Extended → Except DefaultFault Literal
  | .finite x => .ok (.number (.float x))
  | .infinite negative => .error (.infinite negative)
  | .notANumber => .error .notANumber

def charLiteral (text : String) : Except DefaultFault Literal :=
  match text.toList with
  | [_] => .ok (.string text)
  | _ => .error (.expected .character)

def scalarOfText (kind : ValueKind) (text : String) : Except DefaultFault Literal :=
  let trimmed := Text.trim text.toList
  let integer : Except DefaultFault Literal := do
    kind.integerLiteral (← (readInt64 trimmed).mapError .numeral)
  let float : Except DefaultFault Literal := do
    floatLiteral (← (readFloat trimmed).mapError .numeral)
  let string : Except DefaultFault Literal := .ok (.string text)
  match kind with
  | .int => integer
  | .short => integer
  | .long => integer
  | .byte => integer
  | .float => float
  | .double => float
  | .bigDecimal =>
    match Json.readNumber? trimmed with
    | some n => .ok (.number n)
    | none => .error .malformed
  | .bigInteger =>
    match Json.readNumber? trimmed with
    | some (.int n) => .ok (.number (.int n))
    | some (.float _) => .error (.expected .integer)
    | none => .error .malformed
  | .boolean =>
    if trimmed = "true".toList then .ok (.bool true)
    else if trimmed = "false".toList then .ok (.bool false)
    else .error (.expected .truthValue)
  | .char => charLiteral text
  | .string => string
  | .date => string
  | .dateTime => string
  | .timestamp => string

def scalarOfJson (kind : ValueKind) (json : Json) : Except DefaultFault Literal :=
  let integer : Except DefaultFault Literal :=
    match json.number?.bind Json.Number.toInt64? with
    | some n => kind.integerLiteral n
    | none => .error (.expected .integer)
  let float : Except DefaultFault Literal :=
    match json.number?.bind Json.Number.toBinary64? with
    | some x => .ok (.number (.float x))
    | none => .error (.expected .number)
  let string : Except DefaultFault Literal :=
    match json with
    | .string s => .ok (.string s)
    | _ => .error (.expected .text)
  match kind with
  | .int => integer
  | .short => integer
  | .long => integer
  | .byte => integer
  | .float => float
  | .double => float
  | .bigDecimal =>
    match json with
    | .number n => .ok (.number n)
    | _ => .error (.expected .number)
  | .bigInteger =>
    match json with
    | .number (.int n) => .ok (.number (.int n))
    | _ => .error (.expected .integer)
  | .boolean =>
    match json with
    | .bool b => .ok (.bool b)
    | _ => .error (.expected .truthValue)
  | .char =>
    match json with
    | .string s => charLiteral s
    | _ => .error (.expected .text)
  | .string => string
  | .date => string
  | .dateTime => string
  | .timestamp => string

def enumLiteral (type : TypeDescriptor) (member : String) : Except SchemaError Literal :=
  if type.members?.any (·.contains member) then .ok (.enum member)
  else .error (.unknownEnumMember type.key member)

namespace TypeUse

def invalidDefault (target : TypeUse) (text : String) (fault : DefaultFault) : SchemaError :=
  .invalidDefault target.display text fault

def wrapperDefault (target : TypeUse) : SchemaError :=
  .wrapperInInput target.display "default value"

/-- Whether null is no value of the type inside a default value. -/
def forbidsNull (target : TypeUse) : Bool := target.isPrimitive || hasNotNull target.tags

end TypeUse

/-- The literal for a value without parts of its own; `text` is the whole default value. -/
def leafLiteral (text : String) (target : TypeUse) (classification : Classification)
    (json : Json) : Except SchemaError Literal :=
  match classification with
  | .scalar kind _ => (scalarOfJson kind json).mapError (target.invalidDefault text)
  | .enum type =>
    match json with
    | .string member => enumLiteral type member
    | _ => .error (target.invalidDefault text (.expected .memberName))
  | .list _ => .error (target.invalidDefault text (.expected .array))
  | .named _ => .error (target.invalidDefault text (.expected .object))
  | .map => .ok (.ofJson json)
  | .asyncWrapper _ => .error target.wrapperDefault
  | .publisher _ => .error target.wrapperDefault

namespace Catalog

mutual

def literalOfJson (catalog : Catalog) (text : String) (target : TypeUse) :
    Json → Except SchemaError Literal
  | .null =>
    if target.forbidsNull then .error (target.invalidDefault text .nullNotAllowed) else .ok .null
  | .array items => do
    match ← catalog.classify target with
    | .list element => return .list (← literalsOfItems catalog text element items)
    | classification => leafLiteral text target classification (.array items)
  | .object members => do
    match ← catalog.classify target with
    | .named type =>
      return .object (← literalsOfMembers catalog text type (catalog.inputFieldsOf type) members)
    | classification => leafLiteral text target classification (.object members)
  | .bool b => do leafLiteral text target (← catalog.classify target) (.bool b)
  | .number n => do leafLiteral text target (← catalog.classify target) (.number n)
  | .string s => do leafLiteral text target (← catalog.classify target) (.string s)

def literalsOfItems (catalog : Catalog) (text : String) (element : TypeUse) :
    List Json → Except SchemaError (List Literal)
  | [] => .ok []
  | item :: items => do
    let literal ← literalOfJson catalog text element item
    return literal :: (← literalsOfItems catalog text element items)

def literalsOfMembers (catalog : Catalog) (text : String) (type : TypeDescriptor)
    (fields : List InputField) : List Json.Member → Except SchemaError (List (String × Literal))
  | [] => .ok []
  | (key, value) :: members => do
    match fields.find? (·.name = key) with
    | none => .error (.unknownDefaultField type.key key)
    | some field =>
      let literal ← literalOfJson catalog text field.type value
      return (key, literal) :: (← literalsOfMembers catalog text type fields members)

end

def literalOfText (catalog : Catalog) (text : String) (target : TypeUse) :
    Except SchemaError Literal := do
  let invalid := target.invalidDefault text
  let json : Except SchemaError Json :=
    match Json.read? text with
    | some json => .ok json.distinct
    | none => .error (invalid .malformed)
  match ← catalog.classify target with
  | .scalar kind _ => (scalarOfText kind text).mapError invalid
  | .enum type => enumLiteral type text
  | .list _ =>
    match ← json with
    | .array items => catalog.literalOfJson text target (.array items)
    | _ => .error (invalid (.expected .array))
  | .named type =>
    match ← json with
    | .object members =>
      return .object (← catalog.literalsOfMembers text type (catalog.inputFieldsOf type) members)
    | _ => .error (invalid (.expected .object))
  | .map => return .ofJson (← json)
  | .asyncWrapper _ => .error target.wrapperDefault
  | .publisher _ => .error target.wrapperDefault

def literalOfSpec (catalog : Catalog) (spec : DefaultSpec) (target : TypeUse) :
    Except SchemaError Literal :=
  match spec with
  | .null => .ok .null
  | .text text => catalog.literalOfText text target

end Catalog

end SchemaDiscovery
