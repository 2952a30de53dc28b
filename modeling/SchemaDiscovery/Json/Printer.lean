import SchemaDiscovery.Json.Basic
import SchemaDiscovery.Decimal.Shortest
/-!
Writing JSON text, on one line or one item to a line with two blanks for each level.
-/

namespace SchemaDiscovery.Json

def escapeDigits (n : Nat) : List Char := (Nat.toDigits 16 n).leftpad 4 '0'

def escapedChar (c : Char) : List Char :=
  if c = '"' then ['\\', '"']
  else if c = '\\' then ['\\', '\\']
  else if c = '\n' then ['\\', 'n']
  else if c = '\r' then ['\\', 'r']
  else if c = '\t' then ['\\', 't']
  else if c = '\x08' then ['\\', 'b']
  else if c = '\x0c' then ['\\', 'f']
  else if c.toNat < 32 then ['\\', 'u'] ++ escapeDigits c.toNat
  else [c]

def renderString (s : String) : String :=
  String.ofList ('"' :: s.toList.flatMap escapedChar ++ ['"'])

def Number.render : Number → String
  | .int n => toString n
  | .float x => x.render

mutual

def render : Json → String
  | .null => "null"
  | .bool b => if b then "true" else "false"
  | .number n => n.render
  | .string s => renderString s
  | .array items => "[" ++ ",".intercalate (renderItems items) ++ "]"
  | .object members => "\x7b" ++ ",".intercalate (renderMembers members) ++ "\x7d"

def renderItems : List Json → List String
  | [] => []
  | item :: items => item.render :: renderItems items

def renderMembers : List Member → List String
  | [] => []
  | (key, value) :: members => (renderString key ++ ":" ++ value.render) :: renderMembers members

end

def block (left right indent : String) (items : List String) : String :=
  if items.isEmpty then left ++ right
  else
    left ++ "\n" ++ ",\n".intercalate (items.map fun item => indent ++ "  " ++ item) ++ "\n" ++
      indent ++ right

mutual

def renderLines (indent : String) : Json → String
  | .array items => block "[" "]" indent (linesOfItems (indent ++ "  ") items)
  | .object members => block "\x7b" "\x7d" indent (linesOfMembers (indent ++ "  ") members)
  | .null => "null"
  | .bool b => if b then "true" else "false"
  | .number n => n.render
  | .string s => renderString s

def linesOfItems (indent : String) : List Json → List String
  | [] => []
  | item :: items => item.renderLines indent :: linesOfItems indent items

def linesOfMembers (indent : String) : List Member → List String
  | [] => []
  | (key, value) :: members =>
    (renderString key ++ ": " ++ value.renderLines indent) :: linesOfMembers indent members

end

end SchemaDiscovery.Json
