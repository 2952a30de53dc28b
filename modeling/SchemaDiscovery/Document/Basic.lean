import SchemaDiscovery.Json.Basic
/-!
Documents as they stand in their text. A document may hold parts that no JSON tree holds; such a
part does no harm where a reader passes over it.
-/

namespace SchemaDiscovery

inductive DocumentFormat
  | json
  | toml
  deriving DecidableEq, Repr

inductive Document
  | scalar (json : Json)
  /-- A value that can be passed over but not be read. -/
  | unreadable
  /-- A value that can neither be read nor be passed over. -/
  | forbidden
  | array (items : List Document)
  | object (members : List (String × Document))
  deriving Repr

namespace Document

abbrev Member := String × Document

mutual

def json? : Document → Option Json
  | .scalar json => some json
  | .unreadable => none
  | .forbidden => none
  | .array items => (itemTrees? items).map .array
  | .object members => (memberTrees? members).map .object

def itemTrees? : List Document → Option (List Json)
  | [] => some []
  | item :: items => do
    let tree ← item.json?
    let trees ← itemTrees? items
    return tree :: trees

def memberTrees? : List Member → Option (List Json.Member)
  | [] => some []
  | (key, value) :: members => do
    let tree ← value.json?
    let trees ← memberTrees? members
    return (key, tree) :: trees

end

mutual

def isPassable : Document → Bool
  | .forbidden => false
  | .array items => arePassable items
  | .object members => valuesArePassable members
  | _ => true

def arePassable : List Document → Bool
  | [] => true
  | item :: items => item.isPassable && arePassable items

def valuesArePassable : List Member → Bool
  | [] => true
  | (_, value) :: members => value.isPassable && valuesArePassable members

end

end Document

end SchemaDiscovery
