import SchemaDiscovery.Descriptor.Type
/-!
Metadata gathered from tags. The first tag of each sort counts; nullability and exclusion hold when
any tag asks for them.
-/

namespace SchemaDiscovery

structure Deprecation where
  reason : Option String
  deriving DecidableEq, Repr

inductive DefaultSpec
  | null
  | text (text : String)
  deriving DecidableEq, Repr

structure Metadata where
  notNull : Bool := false
  description : Option String := none
  deprecated : Option Deprecation := none
  ignored : Bool := false
  nameOverride : Option String := none
  roles : Option (List String) := none
  default : Option DefaultSpec := none
  deriving DecidableEq, Repr

namespace Metadata

def deprecation? : Tag → Option Deprecation
  | .deprecated reason => some ⟨reason.filter fun text => !text.isEmpty⟩
  | _ => none

def description? : Tag → Option String
  | .description text => some text
  | _ => none

def rename? : Tag → Option String
  | .rename name => some name
  | _ => none

def roles? : Tag → Option (List String)
  | .secured roles => some roles
  | _ => none

def defaultText? : Tag → Option DefaultSpec
  | .default value => some (.text value)
  | _ => none

/-- A tag for a null default beats every default text of its place. -/
def default? (tags : List Tag) : Option DefaultSpec :=
  if tags.contains .defaultNull then some .null else tags.findSome? defaultText?

def ofTags (tags : List Tag) : Metadata where
  notNull := hasNotNull tags
  description := tags.findSome? description?
  deprecated := tags.findSome? deprecation?
  ignored := tags.contains .ignore
  nameOverride := tags.findSome? rename?
  roles := tags.findSome? roles?
  default := default? tags

def or (first second : Metadata) : Metadata where
  notNull := first.notNull || second.notNull
  description := first.description.or second.description
  deprecated := first.deprecated.or second.deprecated
  ignored := first.ignored || second.ignored
  nameOverride := first.nameOverride.or second.nameOverride
  roles := first.roles.or second.roles
  default := first.default.or second.default

end Metadata

end SchemaDiscovery
