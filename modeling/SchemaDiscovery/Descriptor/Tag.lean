import SchemaDiscovery.Text.Word
/-!
Metadata tags on types, fields, methods, parameters and uses of types.
-/

namespace SchemaDiscovery

inductive Tag
  | notNull
  | marker (name : String)
  | description (text : String)
  | deprecated (reason : Option String)
  | ignore
  | rename (name : String)
  | typeName (name : Option String) (ignored : List String)
  | inputType (name : Option String) (ignored : List String)
  | interface (name : Option String)
  | implementation (name : Option String)
  | secured (roles : List String)
  | default (value : String)
  | defaultNull
  | batchLoader
  deriving DecidableEq, Repr

namespace Tag

def label : Tag → String
  | .notNull => "NotNull"
  | .marker name => name
  | .description _ => "Description"
  | .deprecated _ => "Deprecated"
  | .ignore => "Ignore"
  | .rename _ => "Rename"
  | .typeName _ _ => "TypeName"
  | .inputType _ _ => "InputType"
  | .interface _ => "Interface"
  | .implementation _ => "Implementation"
  | .secured _ => "Secured"
  | .default _ => "Default"
  | .defaultNull => "DefaultNull"
  | .batchLoader => "BatchLoader"

/-- A tag forbids null when its name has one of the two customary names as a whole word. -/
def isNotNull (tag : Tag) : Bool :=
  Text.occursWhole "NotNull".toList tag.label.toList ||
    Text.occursWhole "NonNull".toList tag.label.toList

def isInterface : Tag → Bool
  | .interface _ => true
  | _ => false

def isImplementation : Tag → Bool
  | .implementation _ => true
  | _ => false

end Tag

def hasNotNull (tags : List Tag) : Bool := tags.any Tag.isNotNull

end SchemaDiscovery
