import SchemaDiscovery.Decimal.Binary64
import SchemaDiscovery.Decimal.Range
import SchemaDiscovery.Ordered
/-!
JSON trees. The members of an object keep their order, and a tree as read may repeat a key;
`Json.distinct` keeps of each key the last value, at the place of the first.
-/

namespace SchemaDiscovery

open Decimal (Binary64 leastInt64 greatestInt64)

namespace Json

/-- An integer of 64 bits, signed or unsigned, or else a binary64 number. -/
inductive Number
  | int (value : Int)
  | float (value : Binary64)
  deriving DecidableEq, Repr

def Number.isFloat : Number → Bool
  | .int _ => false
  | .float _ => true

def Number.toInt64? : Number → Option Int
  | .int n => if leastInt64 ≤ n ∧ n ≤ greatestInt64 then some n else none
  | .float _ => none

def Number.toBinary64? : Number → Option Binary64
  | .int n => Binary64.ofInt? n
  | .float x => some x

end Json

inductive Json
  | null
  | bool (value : Bool)
  | number (value : Json.Number)
  | string (value : String)
  | array (items : List Json)
  | object (members : List (String × Json))
  deriving Repr

namespace Json

abbrev Member := String × Json

def isNull : Json → Bool
  | .null => true
  | _ => false

def string? : Json → Option String
  | .string s => some s
  | _ => none

def bool? : Json → Option Bool
  | .bool b => some b
  | _ => none

def array? : Json → Option (List Json)
  | .array items => some items
  | _ => none

def object? : Json → Option (List Member)
  | .object members => some members
  | _ => none

def number? : Json → Option Number
  | .number n => some n
  | _ => none

def field? (members : List Member) (key : String) : Option Json :=
  (members.find? (·.1 = key)).map Prod.snd

def get? (json : Json) (key : String) : Option Json :=
  json.object?.bind (field? · key)

mutual

/-- The tree in which every object keeps one member for each key. -/
def distinct : Json → Json
  | .array items => .array (distinctItems items)
  | .object members => .object (Ordered.ofList Prod.fst (distinctMembers members))
  | json => json

def distinctItems : List Json → List Json
  | [] => []
  | item :: items => item.distinct :: distinctItems items

def distinctMembers : List Member → List Member
  | [] => []
  | (key, value) :: members => (key, value.distinct) :: distinctMembers members

end

end Json

end SchemaDiscovery
