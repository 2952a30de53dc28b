import SchemaDiscovery.Descriptor.Encoding
/-!
Descriptors read from JSON trees. A record is an object that repeats none of its own fields, other
members being passed over, or the array of its fields in order, of which the last may be missing.
A choice is a record whose first field names the alternative.
-/

namespace SchemaDiscovery

namespace Json

def record? (names : List String) : Json → Option (List Member)
  | .object members =>
    if names.all fun name => members.countP (·.1 = name) ≤ 1 then
      some (members.filter fun member => names.contains member.1)
    else none
  | .array items => if items.length ≤ names.length then some (names.zip items) else none
  | _ => none

def required {α : Type} (fields : List Member) (name : String) (decode : Json → Option α) :
    Option α :=
  (field? fields name).bind decode

def optional {α : Type} (fields : List Member) (name : String) (absent : α)
    (decode : Json → Option α) : Option α :=
  match field? fields name with
  | some json => decode json
  | none => some absent

def nullable {α : Type} (decode : Json → Option α) : Json → Option (Option α)
  | .null => some none
  | json => (decode json).map some

def list? {α : Type} (decode : Json → Option α) (json : Json) : Option (List α) :=
  json.array?.bind (·.mapM decode)

def strings? : Json → Option (List String) := list? string?

/-- The alternative that a value names. An alternative inside a flattened record may also be given
by its index. -/
def alternative? (names : List String) (byIndex : Bool) : Json → Option String
  | .string name => if names.contains name then some name else none
  | .number (.int n) => if byIndex ∧ 0 ≤ n then names[n.toNat]? else none
  | _ => none

def choice? (tag : String) (names : List String) (byIndex : Bool) : Json → Option (String × Json)
  | .object members =>
    match members.filter (·.1 = tag) with
    | [(_, value)] =>
      (alternative? names byIndex value).map fun name =>
        (name, .object (members.filter (·.1 ≠ tag)))
    | _ => none
  | .array (value :: items) =>
    (alternative? names byIndex value).map fun name => (name, .array items)
  | _ => none

/-- A bare name: a string, or an object whose only member has that name and an empty value. Inside a
flattened record an empty object is an empty value too. -/
def bareName? (flattened : Bool) : Json → Option String
  | .string name => some name
  | .object [(name, .null)] => some name
  | .object [(name, .object [])] => if flattened then some name else none
  | _ => none

end Json

open Json

def ValueKind.decode (json : Json) : Option ValueKind := do
  let name ← bareName? true json
  ValueKind.all.find? (·.spelling = name)

def Shape.decode : Json → Option Shape
  | .object [("other", .string name)] => some (.other name)
  | json => do
    match ← bareName? true json with
    | "list" => some .list
    | "map" => some .map
    | "future" => some .future
    | "optional" => some .optional
    | "publisher" => some .publisher
    | _ => none

def Tag.alternatives : List String :=
  ["not_null", "marker", "description", "deprecated", "ignore", "rename", "type_name",
    "input_type", "interface", "implementation", "secured", "default", "default_null",
    "batch_loader"]

def Tag.decode (byIndex : Bool) (json : Json) : Option Tag := do
  let (name, rest) ← choice? "tag" Tag.alternatives byIndex json
  let text (field : String) (make : String → Tag) : Option Tag := do
    return make (← required (← record? [field] rest) field string?)
  let named (make : Option String → Tag) : Option Tag := do
    return make (← optional (← record? ["name"] rest) "name" none (nullable string?))
  let listing (make : Option String → List String → Tag) : Option Tag := do
    let fields ← record? ["name", "ignore"] rest
    return make (← optional fields "name" none (nullable string?))
      (← optional fields "ignore" [] strings?)
  let plain (tag : Tag) : Option Tag := do
    discard (record? [] rest)
    return tag
  match name with
  | "not_null" => plain .notNull
  | "marker" => text "name" .marker
  | "description" => text "text" .description
  | "deprecated" => do
    return .deprecated (← optional (← record? ["reason"] rest) "reason" none (nullable string?))
  | "ignore" => plain .ignore
  | "rename" => text "name" .rename
  | "type_name" => listing .typeName
  | "input_type" => listing .inputType
  | "interface" => named .interface
  | "implementation" => named .implementation
  | "secured" => do
    return .secured (← required (← record? ["roles"] rest) "roles" strings?)
  | "default" => text "value" .default
  | "default_null" => plain .defaultNull
  | "batch_loader" => plain .batchLoader
  | _ => none

/-- The tags of a use of a type; those of a type argument may be given by index. -/
def tags? (byIndex : Bool) (fields : List Member) : Option (List Tag) :=
  optional fields "tags" [] (list? (Tag.decode byIndex))

def Atom.alternatives : List String :=
  ["primitive", "boxed", "named", "generic", "param", "any", "raw_map", "raw_collection",
    "context"]

/-- A use of a type from its members and its type arguments, which count for a generic type only. -/
def TypeUse.assemble (nested : Bool) (members : List Member) (args : Option (List TypeUse)) :
    Option TypeUse := do
  let tags ← tags? nested (← record? ["tags"] (.object members))
  let (name, rest) ← choice? "type" Atom.alternatives true
    (.object (members.filter (·.1 ≠ "tags")))
  let kind (make : ValueKind → Atom) : Option TypeUse := do
    return .atom (make (← required (← record? ["kind"] rest) "kind" ValueKind.decode)) tags
  match name with
  | "primitive" => kind .primitive
  | "boxed" => kind .boxed
  | "named" => do
    return .atom (.named ⟨← required (← record? ["key"] rest) "key" string?⟩) tags
  | "generic" => do
    let fields ← record? ["shape", "args"] rest
    let shape ← required fields "shape" Shape.decode
    return .generic shape (← args) tags
  | "param" => do
    return .atom (.param (← required (← record? ["name"] rest) "name" string?)) tags
  | "any" => some (.atom .any tags)
  | "raw_map" => some (.atom .rawMap tags)
  | "raw_collection" => some (.atom .rawCollection tags)
  | "context" => some (.atom .context tags)
  | _ => none

mutual

/-- A use of a type; `nested` tells of a type argument. -/
def TypeUse.decodeAt (nested : Bool) : Json → Option TypeUse
  | .object members => TypeUse.assemble nested members (typeArgs? members)
  | _ => none

def typeArgs? : List Member → Option (List TypeUse)
  | [] => none
  | (key, .array items) :: members => if key = "args" then uses? items else typeArgs? members
  | (key, _) :: members => if key = "args" then none else typeArgs? members

def uses? : List Json → Option (List TypeUse)
  | [] => some []
  | item :: items => do
    let use ← TypeUse.decodeAt true item
    let uses ← uses? items
    return use :: uses

end

def TypeUse.decode : Json → Option TypeUse := TypeUse.decodeAt false

def ownTags? (fields : List Member) : Option (List Tag) := tags? false fields

def Parameter.fieldNames : List String := ["name", "ty", "tags"]

def Parameter.decode (json : Json) : Option Parameter := do
  let fields ← record? Parameter.fieldNames json
  let name ← required fields "name" string?
  let type ← required fields "ty" TypeUse.decode
  let tags ← ownTags? fields
  return { name, type, tags }

def StorageField.fieldNames : List String := ["name", "ty", "tags"]

def StorageField.decode (json : Json) : Option StorageField := do
  let fields ← record? StorageField.fieldNames json
  let name ← required fields "name" string?
  let type ← required fields "ty" TypeUse.decode
  let tags ← ownTags? fields
  return { name, type, tags }

def Visibility.decode (json : Json) : Option Visibility := do
  match ← bareName? false json with
  | "public" => some .isPublic
  | "private" => some .isPrivate
  | _ => none

def Method.fieldNames : List String :=
  ["name", "visibility", "is_static", "params", "returns", "tags"]

def Method.decode (json : Json) : Option Method := do
  let fields ← record? Method.fieldNames json
  let name ← required fields "name" string?
  let visibility ← optional fields "visibility" .isPublic Visibility.decode
  let isStatic ← optional fields "is_static" false bool?
  let params ← optional fields "params" [] (list? Parameter.decode)
  let returns ← optional fields "returns" none (nullable TypeUse.decode)
  let tags ← ownTags? fields
  return { name, visibility, isStatic, params, returns, tags }

def Supertype.fieldNames : List String := ["key", "args"]

def Supertype.decode (json : Json) : Option Supertype := do
  let fields ← record? Supertype.fieldNames json
  let key ← required fields "key" string?
  let args ← optional fields "args" [] (list? TypeUse.decode)
  return { key := ⟨key⟩, args }

def TypeForm.decode (json : Json) : Option TypeForm := do
  let (name, rest) ← choice? "kind" ["class", "interface", "enum"] false json
  match name with
  | "class" => do
    discard (record? [] rest)
    return .isClass
  | "interface" => do
    discard (record? [] rest)
    return .isInterface
  | _ => do
    return .isEnum (← required (← record? ["members"] rest) "members" strings?)

def TypeDescriptor.fieldNames : List String :=
  ["key", "form", "type_params", "parent", "interfaces", "tags", "fields", "methods"]

def TypeDescriptor.decode (json : Json) : Option TypeDescriptor := do
  let fields ← record? TypeDescriptor.fieldNames json
  let key ← required fields "key" string?
  let form ← optional fields "form" .isClass TypeForm.decode
  let typeParams ← optional fields "type_params" [] strings?
  let parent ← optional fields "parent" none (nullable Supertype.decode)
  let interfaces ← optional fields "interfaces" [] (list? Supertype.decode)
  let tags ← ownTags? fields
  let storage ← optional fields "fields" [] (list? StorageField.decode)
  let methods ← optional fields "methods" [] (list? Method.decode)
  return { key := ⟨key⟩, form, typeParams, parent, interfaces, tags, fields := storage, methods }

def ResolverRole.decode (members : List Member) : Option ResolverRole := do
  let (name, rest) ← choice? "role" ["query", "mutation", "subscription", "type_extension"] true
    (.object members)
  match name with
  | "query" => some .query
  | "mutation" => some .mutation
  | "subscription" => some .subscription
  | _ => do
    return .extension ⟨← required (← record? ["source"] rest) "source" string?⟩

def Resolver.decode (json : Json) : Option Resolver := do
  let members ← json.object?
  let fields ← record? ["name", "methods"] json
  let name ← required fields "name" string?
  let role ← ResolverRole.decode (members.filter fun member => member.1 ∉ ["name", "methods"])
  let methods ← optional fields "methods" [] (list? Method.decode)
  return { name, role, methods }

def Manifest.fieldNames : List String := ["types", "resolvers"]

def Manifest.decode (json : Json) : Option Manifest := do
  let fields ← record? Manifest.fieldNames json
  let types ← optional fields "types" [] (list? TypeDescriptor.decode)
  let resolvers ← optional fields "resolvers" [] (list? Resolver.decode)
  return { types, resolvers }

def Config.fieldNames : List String :=
  ["declare_scalars", "secured_directive", "json_scalar", "implementation_scope"]

def Config.decode (json : Json) : Option Config := do
  let fields ← record? Config.fieldNames json
  let declareScalars ← optional fields "declare_scalars" true bool?
  let securedDirective ← optional fields "secured_directive" true bool?
  let jsonScalar ← optional fields "json_scalar" "JSON" string?
  let implementationScope ← optional fields "implementation_scope" none (nullable string?)
  return { declareScalars, securedDirective, jsonScalar, implementationScope }

def TypeKind.decode (json : Json) : Option TypeKind := do
  let name ← bareName? false json
  [TypeKind.object, .input, .enum, .interface].find? (·.label = name)

end SchemaDiscovery
