import SchemaDiscovery.Metadata.Basic
import SchemaDiscovery.Catalog.Lineage
/-!
Metadata of accessors. The tags on a method come before those on the storage field of the same name,
which is sought in the type and then in its parents.
-/

namespace SchemaDiscovery

/-- The type and its parents in the catalog, nearest first, up to the first that repeats. -/
def parentChain (unvisited : List TypeDescriptor) (type : TypeDescriptor) : List TypeDescriptor :=
  match _found : type.parent.bind fun parent => unvisited.find? (·.key = parent.key) with
  | none => [type]
  | some parent => type :: parentChain (withoutKey parent.key unvisited) parent
termination_by unvisited.length
decreasing_by
  obtain ⟨_, _, found⟩ := Option.bind_eq_some_iff.1 _found
  exact length_withoutKey_lt (List.mem_of_find?_eq_some found)

def Catalog.parentChain (catalog : Catalog) (type : TypeDescriptor) : List TypeDescriptor :=
  SchemaDiscovery.parentChain (withoutKey type.key catalog.types) type

def TypeDescriptor.ignoredNames (type : TypeDescriptor) (kind : TypeKind) : List String :=
  type.tags.flatMap fun
    | .inputType _ ignored => if kind = .input then ignored else []
    | .typeName _ ignored => if kind = .object ∨ kind = .interface then ignored else []
    | _ => []

/-- What a type says about its fields besides their methods. -/
structure Storage where
  fields : List StorageField := []
  ignored : List String := []
  deriving DecidableEq, Repr

namespace Storage

/-- For methods without an owner. -/
def detached : Storage := {}

def ofOwner (catalog : Catalog) (owner : TypeDescriptor) (kind : TypeKind) : Storage where
  fields := (catalog.parentChain owner).flatMap (·.fields)
  ignored := owner.ignoredNames kind

def field? (storage : Storage) (name : String) : Option StorageField :=
  storage.fields.find? (·.name = name)

def isIgnored (storage : Storage) (name : String) : Bool := storage.ignored.contains name

def metadata (storage : Storage) (name : String) : Metadata :=
  let tags := match storage.field? name with
    | some field => field.tags ++ field.type.tags
    | none => []
  let tagged := Metadata.ofTags tags
  { tagged with ignored := tagged.ignored || storage.isIgnored name }

def methodMetadata (storage : Storage) (method : Method) (name : String) : Metadata :=
  (Metadata.ofTags method.tags).or (storage.metadata name)

/-- A setter is tagged on its parameters too. -/
def setterMetadata (storage : Storage) (method : Method) (name : String) : Metadata :=
  (Metadata.ofTags (method.tags ++ method.params.flatMap (·.tags))).or (storage.metadata name)

end Storage

def Parameter.metadata (param : Parameter) : Metadata := Metadata.ofTags param.tags

end SchemaDiscovery
