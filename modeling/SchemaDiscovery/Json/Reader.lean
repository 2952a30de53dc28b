import SchemaDiscovery.Document.Basic
import SchemaDiscovery.Json.Token
/-!
Reading JSON text. The tokens drive a stack of the arrays and objects that are still open. What lies
more than 127 deep can be passed over but not be read.
-/

namespace SchemaDiscovery.Json

/-- An open array or object with what it holds so far, in reverse; `member` is an object whose
last key still waits for its value. A key that spells a surrogate alone is `none`. -/
inductive Frame
  | array (items : List Document)
  | object (members : List (Option String × Document))
  | member (members : List (Option String × Document)) (key : Option String)

inductive Expected
  | value
  | firstItem
  | key
  | firstKey
  | colon
  | separator

inductive Progress
  | within (expected : Expected) (stack : List Frame)
  | complete (document : Document)

def depthLimit : Nat := 127

def Progress.deliver (document : Document) : List Frame → Progress
  | .array items :: stack => .within .separator (.array (document :: items) :: stack)
  | .member members key :: stack =>
    .within .separator (.object ((key, document) :: members) :: stack)
  | stack@(.object _ :: _) => .within .separator stack
  | [] => .complete document

def closedObject (members : List (Option String × Document)) : Document :=
  match members.mapM fun (key, value) => key.map (·, value) with
  | some members => .object members
  | none => .unreadable

def close (document : Document) (stack : List Frame) : Progress :=
  .deliver (if (stack.drop (depthLimit - 1)).isEmpty then document else .unreadable) stack

def scalarOf : Option Json → Document
  | some json => .scalar json
  | none => .unreadable

def beginValue (stack : List Frame) : Token → Option Progress
  | .literal json => some (.deliver (scalarOf json) stack)
  | .string s => some (.deliver (scalarOf (s.map .string)) stack)
  | .beginArray => some (.within .firstItem (.array [] :: stack))
  | .beginObject => some (.within .firstKey (.object [] :: stack))
  | _ => none

def Progress.step : Progress → Token → Option Progress
  | .complete _, _ => none
  | .within .firstItem (.array _ :: stack), .endArray => some (close (.array []) stack)
  | .within .firstItem stack, token => beginValue stack token
  | .within .value stack, token => beginValue stack token
  | .within .firstKey (.object _ :: stack), .endObject => some (close (.object []) stack)
  | .within .firstKey (.object members :: stack), .string key =>
    some (.within .colon (.member members key :: stack))
  | .within .key (.object members :: stack), .string key =>
    some (.within .colon (.member members key :: stack))
  | .within .colon stack, .colon => some (.within .value stack)
  | .within .separator (.array items :: stack), .comma =>
    some (.within .value (.array items :: stack))
  | .within .separator (.array items :: stack), .endArray =>
    some (close (.array items.reverse) stack)
  | .within .separator (.object members :: stack), .comma =>
    some (.within .key (.object members :: stack))
  | .within .separator (.object members :: stack), .endObject =>
    some (close (closedObject members.reverse) stack)
  | _, _ => none

def readDocument? (text : String) : Option Document := do
  match ← (← tokens text.toList).foldlM Progress.step (.within .value []) with
  | .complete document => some document
  | .within _ _ => none

def read? (text : String) : Option Json := (readDocument? text).bind Document.json?

def readNumber? (text : List Char) : Option Number :=
  match readNumber text with
  | some (n, []) => n
  | _ => none

end SchemaDiscovery.Json
