import SchemaDiscovery.Json.Printer
import SchemaDiscovery.Text.Control
/-!
Constant values in schema text.
-/

namespace SchemaDiscovery

inductive Literal
  | null
  | number (value : Json.Number)
  | bool (value : Bool)
  | string (value : String)
  | enum (name : String)
  | list (items : List Literal)
  | object (members : List (String × Literal))
  deriving Repr

namespace Literal

mutual

def ofJson : Json → Literal
  | .null => .null
  | .bool b => .bool b
  | .number n => .number n
  | .string s => .string s
  | .array items => .list (ofJsonItems items)
  | .object members => .object (ofJsonMembers members)

def ofJsonItems : List Json → List Literal
  | [] => []
  | item :: items => ofJson item :: ofJsonItems items

def ofJsonMembers : List Json.Member → List (String × Literal)
  | [] => []
  | (key, value) :: members => (key, ofJson value) :: ofJsonMembers members

end

/-- A control character is written by its code point in decimal, in at least four digits. -/
def escapedChar (c : Char) : List Char :=
  if c = '\r' then ['\\', 'r']
  else if c = '\n' then ['\\', 'n']
  else if c = '\t' then ['\\', 't']
  else if c = '"' then ['\\', '"']
  else if c = '\\' then ['\\', '\\']
  else if Text.isControl c then ['\\', 'u'] ++ (Nat.toDigits 10 c.toNat).leftpad 4 '0'
  else [c]

def renderString (s : String) : List Char := '"' :: s.toList.flatMap escapedChar ++ ['"']

def commaSeparated (items : List (List Char)) : List Char := [',', ' '].intercalate items

mutual

def render : Literal → List Char
  | .null => "null".toList
  | .number n => n.render.toList
  | .bool b => (if b then "true" else "false").toList
  | .string s => renderString s
  | .enum name => name.toList
  | .list items => '[' :: commaSeparated (renderItems items) ++ [']']
  | .object members => '\x7b' :: commaSeparated (renderMembers members) ++ ['\x7d']

def renderItems : List Literal → List (List Char)
  | [] => []
  | item :: items => item.render :: renderItems items

def renderMembers : List (String × Literal) → List (List Char)
  | [] => []
  | (key, value) :: members =>
    (key.toList ++ ':' :: ' ' :: value.render) :: renderMembers members

end

end Literal

end SchemaDiscovery
