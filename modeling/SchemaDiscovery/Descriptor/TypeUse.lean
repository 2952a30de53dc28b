import SchemaDiscovery.Descriptor.TypeKey
import SchemaDiscovery.Descriptor.Tag
/-!
Uses of types in signatures: an atom or a parameterized shape, with the tags on that use.
-/

namespace SchemaDiscovery

inductive ValueKind
  | int
  | short
  | long
  | byte
  | char
  | float
  | double
  | boolean
  | string
  | bigDecimal
  | bigInteger
  | date
  | dateTime
  | timestamp
  deriving DecidableEq, Repr

/-- The kinds in the order in which their scalars are declared. -/
def ValueKind.all : List ValueKind :=
  [.int, .short, .long, .byte, .char, .float, .double, .boolean, .string, .bigDecimal,
    .bigInteger, .date, .dateTime, .timestamp]

def ValueKind.label : ValueKind → String
  | .int => "Int"
  | .short => "Short"
  | .long => "Long"
  | .byte => "Byte"
  | .char => "Char"
  | .float => "Float"
  | .double => "Double"
  | .boolean => "Boolean"
  | .string => "String"
  | .bigDecimal => "BigDecimal"
  | .bigInteger => "BigInteger"
  | .date => "Date"
  | .dateTime => "DateTime"
  | .timestamp => "Timestamp"

inductive Shape
  | list
  | map
  | future
  | optional
  | publisher
  | other (name : String)
  deriving DecidableEq, Repr

def Shape.label : Shape → String
  | .list => "List"
  | .map => "Map"
  | .future => "Future"
  | .optional => "Optional"
  | .publisher => "Publisher"
  | .other name => name

/-- A type without arguments: a value in its primitive or boxed spelling, a structural type, a type
variable, or one of the types that have no schema form. -/
inductive Atom
  | primitive (kind : ValueKind)
  | boxed (kind : ValueKind)
  | named (key : TypeKey)
  | param (name : String)
  | any
  | rawMap
  | rawCollection
  | context
  deriving DecidableEq, Repr

def Atom.display : Atom → String
  | .primitive kind => kind.label
  | .boxed kind => kind.label
  | .named key => key.path
  | .param name => name
  | .any => "Any"
  | .rawMap => "Map"
  | .rawCollection => "Collection"
  | .context => "Context"

inductive TypeUse
  | atom (type : Atom) (tags : List Tag)
  | generic (shape : Shape) (args : List TypeUse) (tags : List Tag)
  deriving Repr

namespace TypeUse

def tags : TypeUse → List Tag
  | .atom _ tags => tags
  | .generic _ _ tags => tags

def addTags (more : List Tag) : TypeUse → TypeUse
  | .atom type tags => .atom type (tags ++ more)
  | .generic shape args tags => .generic shape args (tags ++ more)

def isAny : TypeUse → Bool
  | .atom .any _ => true
  | _ => false

def isContext : TypeUse → Bool
  | .atom .context _ => true
  | _ => false

def isPrimitive : TypeUse → Bool
  | .atom (.primitive _) _ => true
  | _ => false

def key? : TypeUse → Option TypeKey
  | .atom (.named key) _ => some key
  | _ => none

mutual

def display : TypeUse → String
  | .atom type _ => type.display
  | .generic shape args _ => shape.label ++ "<" ++ ", ".intercalate (displayAll args) ++ ">"

def displayAll : List TypeUse → List String
  | [] => []
  | use :: uses => use.display :: displayAll uses

end

mutual

def decEq : (x y : TypeUse) → Decidable (x = y)
  | .atom a s, .atom b t =>
    if h : a = b ∧ s = t then isTrue (by rw [h.1, h.2])
    else isFalse fun e => h (by injection e with h₁ h₂; exact ⟨h₁, h₂⟩)
  | .generic a xs s, .generic b ys t =>
    match decEqAll xs ys with
    | isTrue same =>
      if h : a = b ∧ s = t then isTrue (by rw [h.1, h.2, same])
      else isFalse fun e => h (by injection e with h₁ _ h₃; exact ⟨h₁, h₃⟩)
    | isFalse different => isFalse fun e => different (by injection e)
  | .atom _ _, .generic _ _ _ => isFalse fun e => nomatch e
  | .generic _ _ _, .atom _ _ => isFalse fun e => nomatch e

def decEqAll : (xs ys : List TypeUse) → Decidable (xs = ys)
  | [], [] => isTrue rfl
  | x :: xs, y :: ys =>
    match decEq x y, decEqAll xs ys with
    | isTrue h, isTrue hs => isTrue (by rw [h, hs])
    | isFalse h, _ => isFalse fun e => h (List.cons.inj e).1
    | _, isFalse hs => isFalse fun e => hs (List.cons.inj e).2
  | [], _ :: _ => isFalse fun e => nomatch e
  | _ :: _, [] => isFalse fun e => nomatch e

end

instance : DecidableEq TypeUse := decEq

end TypeUse

end SchemaDiscovery
