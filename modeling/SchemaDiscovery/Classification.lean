import SchemaDiscovery.Catalog.Basic
/-!
Classification of a use of a type by the schema form it takes.
-/

namespace SchemaDiscovery

def ValueKind.scalar : ValueKind → String
  | .float => "Float"
  | .double => "Float"
  | kind => kind.label

def builtinScalars : List String := ["ID", "String", "Int", "Float", "Boolean"]

def isBuiltinScalar (name : String) : Bool := builtinScalars.contains name

inductive Classification
  | scalar (kind : ValueKind) (nonNull : Bool)
  | enum (type : TypeDescriptor)
  | list (element : TypeUse)
  | map
  | asyncWrapper (element : TypeUse)
  | publisher (element : TypeUse)
  | named (type : TypeDescriptor)
  deriving DecidableEq, Repr

namespace Catalog

def classify (catalog : Catalog) : TypeUse → Except SchemaError Classification
  | .atom (.primitive kind) _ => .ok (.scalar kind true)
  | .atom (.boxed kind) _ => .ok (.scalar kind false)
  | .atom (.named key) _ => do
    let type ← catalog.require key
    return if type.isEnum then .enum type else .named type
  | .atom type _ => .error (.unresolvable type)
  | .generic .map _ _ => .ok .map
  | .generic .list [element] _ => .ok (.list element)
  | .generic .future [element] _ => .ok (.asyncWrapper element)
  | .generic .optional [element] _ => .ok (.asyncWrapper element)
  | .generic .publisher [element] _ => .ok (.publisher element)
  | .generic shape [element] tags =>
    .error (.unsupportedShape shape (TypeUse.generic shape [element] tags).display)
  | .generic shape args tags =>
    .error (.argumentCount shape args.length (TypeUse.generic shape args tags).display)

end Catalog

def Classification.unwrapped (classification : Classification) (use : TypeUse) : TypeUse :=
  match classification with
  | .asyncWrapper element => element
  | _ => use

def Classification.isPublisher : Classification → Bool
  | .publisher _ => true
  | _ => false

/-- The use whose schema form the form of a wrapper or a list is made from. -/
def Classification.element? : Classification → Option TypeUse
  | .list element => some element
  | .asyncWrapper element => some element
  | .publisher element => some element
  | _ => none

/-- The one argument of a parameterized type. -/
inductive ElementOf : TypeUse → TypeUse → Prop
  | mk (shape : Shape) (element : TypeUse) (tags : List Tag) :
    ElementOf element (.generic shape [element] tags)

theorem ElementOf.sizeOf_lt {element use : TypeUse} (part : ElementOf element use) :
    sizeOf element < sizeOf use := by
  cases part
  simp only [TypeUse.generic.sizeOf_spec, List.cons.sizeOf_spec, List.nil.sizeOf_spec]
  omega

theorem elementOf_of_classify {catalog : Catalog} {use element : TypeUse}
    {classification : Classification} (h : catalog.classify use = .ok classification)
    (has : classification.element? = some element) : ElementOf element use := by
  unfold Catalog.classify at h
  split at h
  · cases h; cases has
  · cases h; cases has
  · next key _ =>
    cases found : catalog.require key with
    | error e => rw [found] at h; cases h
    | ok type =>
      rw [found] at h
      cases h
      split at has <;> cases has
  · cases h
  · cases h; cases has
  · cases h; cases has; constructor
  · cases h; cases has; constructor
  · cases h; cases has; constructor
  · cases h; cases has; constructor
  · cases h
  · cases h

end SchemaDiscovery
