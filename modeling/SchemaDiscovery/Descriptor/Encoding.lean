import SchemaDiscovery.Json.Basic
import SchemaDiscovery.Descriptor.Resolver
import SchemaDiscovery.Config
/-!
Descriptors as JSON trees. A list that may be left out is left out when it is empty; every other
field is written, an absent option as null.
-/

namespace SchemaDiscovery

namespace Json

def ofStrings (texts : List String) : Json := .array (texts.map .string)

def ofOption {α : Type} (encode : α → Json) : Option α → Json
  | some x => encode x
  | none => .null

def ofOptionalString : Option String → Json := ofOption .string

def listMember {α : Type} (key : String) (encode : α → Json) (items : List α) : List Member :=
  if items.isEmpty then [] else [(key, .array (items.map encode))]

end Json

open Json

namespace ValueKind

def spelling : ValueKind → String
  | .int => "int"
  | .short => "short"
  | .long => "long"
  | .byte => "byte"
  | .char => "char"
  | .float => "float"
  | .double => "double"
  | .boolean => "boolean"
  | .string => "string"
  | .bigDecimal => "big_decimal"
  | .bigInteger => "big_integer"
  | .date => "date"
  | .dateTime => "date_time"
  | .timestamp => "timestamp"

end ValueKind

def Shape.encode : Shape → Json
  | .list => .string "list"
  | .map => .string "map"
  | .future => .string "future"
  | .optional => .string "optional"
  | .publisher => .string "publisher"
  | .other name => .object [("other", .string name)]

def Tag.encode : Tag → Json
  | .notNull => .object [("tag", .string "not_null")]
  | .marker name => .object [("tag", .string "marker"), ("name", .string name)]
  | .description text => .object [("tag", .string "description"), ("text", .string text)]
  | .deprecated reason =>
    .object [("tag", .string "deprecated"), ("reason", ofOptionalString reason)]
  | .ignore => .object [("tag", .string "ignore")]
  | .rename name => .object [("tag", .string "rename"), ("name", .string name)]
  | .typeName name ignored =>
    .object [("tag", .string "type_name"), ("name", ofOptionalString name),
      ("ignore", ofStrings ignored)]
  | .inputType name ignored =>
    .object [("tag", .string "input_type"), ("name", ofOptionalString name),
      ("ignore", ofStrings ignored)]
  | .interface name => .object [("tag", .string "interface"), ("name", ofOptionalString name)]
  | .implementation name =>
    .object [("tag", .string "implementation"), ("name", ofOptionalString name)]
  | .secured roles => .object [("tag", .string "secured"), ("roles", ofStrings roles)]
  | .default value => .object [("tag", .string "default"), ("value", .string value)]
  | .defaultNull => .object [("tag", .string "default_null")]
  | .batchLoader => .object [("tag", .string "batch_loader")]

def tagsMember (tags : List Tag) : List Member := listMember "tags" Tag.encode tags

def Atom.encode : Atom → List Member
  | .primitive kind => [("type", .string "primitive"), ("kind", .string kind.spelling)]
  | .boxed kind => [("type", .string "boxed"), ("kind", .string kind.spelling)]
  | .named key => [("type", .string "named"), ("key", .string key.path)]
  | .param name => [("type", .string "param"), ("name", .string name)]
  | .any => [("type", .string "any")]
  | .rawMap => [("type", .string "raw_map")]
  | .rawCollection => [("type", .string "raw_collection")]
  | .context => [("type", .string "context")]

mutual

def TypeUse.encode : TypeUse → Json
  | .atom type tags => .object (type.encode ++ tagsMember tags)
  | .generic shape args tags =>
    .object ([("type", .string "generic"), ("shape", shape.encode),
      ("args", .array (encodeUses args))] ++ tagsMember tags)

def encodeUses : List TypeUse → List Json
  | [] => []
  | use :: uses => use.encode :: encodeUses uses

end

def Parameter.encode (param : Parameter) : Json :=
  .object ([("name", .string param.name), ("ty", param.type.encode)] ++ tagsMember param.tags)

def StorageField.encode (field : StorageField) : Json :=
  .object ([("name", .string field.name), ("ty", field.type.encode)] ++ tagsMember field.tags)

def Visibility.encode : Visibility → Json
  | .isPublic => .string "public"
  | .isPrivate => .string "private"

def Method.encode (method : Method) : Json :=
  .object ([("name", .string method.name), ("visibility", method.visibility.encode),
    ("is_static", .bool method.isStatic), ("params", .array (method.params.map Parameter.encode)),
    ("returns", ofOption TypeUse.encode method.returns)] ++ tagsMember method.tags)

def Supertype.encode (supertype : Supertype) : Json :=
  .object (("key", .string supertype.key.path) :: listMember "args" TypeUse.encode supertype.args)

def TypeForm.encode : TypeForm → Json
  | .isClass => .object [("kind", .string "class")]
  | .isInterface => .object [("kind", .string "interface")]
  | .isEnum members => .object [("kind", .string "enum"), ("members", ofStrings members)]

def TypeDescriptor.encode (type : TypeDescriptor) : Json :=
  .object ([("key", .string type.key.path), ("form", type.form.encode)] ++
    listMember "type_params" .string type.typeParams ++
    [("parent", ofOption Supertype.encode type.parent)] ++
    listMember "interfaces" Supertype.encode type.interfaces ++
    tagsMember type.tags ++
    listMember "fields" StorageField.encode type.fields ++
    listMember "methods" Method.encode type.methods)

def ResolverRole.encode : ResolverRole → List Member
  | .query => [("role", .string "query")]
  | .mutation => [("role", .string "mutation")]
  | .subscription => [("role", .string "subscription")]
  | .extension source => [("role", .string "type_extension"), ("source", .string source.path)]

def Resolver.encode (resolver : Resolver) : Json :=
  .object ([("name", .string resolver.name)] ++ resolver.role.encode ++
    [("methods", .array (resolver.methods.map Method.encode))])

def Manifest.encode (manifest : Manifest) : Json :=
  .object [("types", .array (manifest.types.map TypeDescriptor.encode)),
    ("resolvers", .array (manifest.resolvers.map Resolver.encode))]

def Config.encode (config : Config) : Json :=
  .object [("declare_scalars", .bool config.declareScalars),
    ("secured_directive", .bool config.securedDirective),
    ("json_scalar", .string config.jsonScalar),
    ("implementation_scope", ofOptionalString config.implementationScope)]

end SchemaDiscovery
