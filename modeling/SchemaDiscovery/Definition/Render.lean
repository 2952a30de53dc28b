import SchemaDiscovery.Definition.Basic
import SchemaDiscovery.Text.Blank
/-!
Schema text of definitions, in the order given and with an empty line between them. A type without
fields has no braces.
-/

namespace SchemaDiscovery

def indentation : List Char := List.replicate 4 ' '

/-- A control character is written by its code point in hexadecimal, in at least four digits. -/
def quotedDescriptionChar (c : Char) : List Char :=
  if c = '\r' then ['\\', 'r']
  else if c = '\n' then ['\\', 'n']
  else if c = '\t' then ['\\', 't']
  else if c = '\\' then ['\\', '\\']
  else if c = '"' then ['\\', '"']
  else if Text.isControl c then ['\\', 'u'] ++ Json.escapeDigits c.toNat
  else [c]

def quotedDescription (text : String) : List Char :=
  '"' :: text.toList.flatMap quotedDescriptionChar ++ ['"']

def escapeTripleQuotes : List Char → List Char
  | '"' :: '"' :: '"' :: rest => '\\' :: '"' :: '"' :: '"' :: escapeTripleQuotes rest
  | c :: rest => c :: escapeTripleQuotes rest
  | [] => []

def descriptionLine (indent line : List Char) : List Char :=
  match escapeTripleQuotes (Text.dropFinalBlanks line) with
  | [] => ['\n']
  | text => indent ++ text ++ ['\n']

def tripleQuotes : List Char := ['"', '"', '"']

/-- A description on lines of its own, between lines of three quotes. -/
def blockDescription (indent : List Char) (text : String) : List Char :=
  indent ++ tripleQuotes ++ ['\n'] ++
    (Text.lines text.toList).flatMap (descriptionLine indent) ++
    indent ++ tripleQuotes ++ ['\n']

def renderDescription (indent : List Char) (description : Option String) : List Char :=
  description.elim [] (blockDescription indent)

def TypeRef.render : TypeRef → List Char
  | .named name nonNull => name.toList ++ if nonNull then ['!'] else []
  | .list element nonNull => '[' :: element.render ++ (']' :: if nonNull then ['!'] else [])

def DirectiveUse.render (directive : DirectiveUse) : List Char :=
  let arguments := directive.arguments.map fun (name, value) =>
    name.toList ++ ':' :: ' ' :: value.render
  ' ' :: '@' :: directive.name.toList ++
    if arguments.isEmpty then [] else '(' :: Literal.commaSeparated arguments ++ [')']

def renderDirectives (directives : List DirectiveUse) : List Char :=
  directives.flatMap DirectiveUse.render

def InputValue.render (value : InputValue) : List Char :=
  value.name.toList ++ ':' :: ' ' :: value.type.render ++
    value.default.elim [] (fun literal => ' ' :: '=' :: ' ' :: literal.render) ++
    renderDirectives value.directives

def InputValue.renderArgument (value : InputValue) : List Char :=
  value.description.elim [] (fun text => quotedDescription text ++ [' ']) ++ value.render

def renderArguments (arguments : List InputValue) : List Char :=
  if arguments.isEmpty then []
  else '(' :: Literal.commaSeparated (arguments.map InputValue.renderArgument) ++ [')']

def FieldDefinition.render (field : FieldDefinition) : List Char :=
  renderDescription indentation field.description ++ indentation ++ field.name.toList ++
    renderArguments field.arguments ++ ':' :: ' ' :: field.type.render ++
    renderDirectives field.directives ++ ['\n']

def InputValue.renderLine (value : InputValue) : List Char :=
  renderDescription indentation value.description ++ indentation ++ value.render ++ ['\n']

def EnumValue.render (value : EnumValue) : List Char :=
  renderDescription indentation value.description ++ indentation ++ value.name.toList ++
    renderDirectives value.directives ++ ['\n']

/-- The rest of a definition's first line and, when there are items, their lines in braces. -/
def renderBraced (items : List (List Char)) : List Char :=
  if items.isEmpty then ['\n'] else ' ' :: '\x7b' :: '\n' :: items.flatten ++ ['\x7d', '\n']

def renderImplements (interfaces : List String) : List Char :=
  if interfaces.isEmpty then []
  else " implements ".toList ++ " & ".toList.intercalate (interfaces.map String.toList)

def TypeDefinition.renderBody (definition : TypeDefinition) : List Char :=
  let name := definition.name.toList
  let directives := renderDirectives definition.directives
  match definition.body with
  | .scalar => "scalar ".toList ++ name ++ directives ++ ['\n']
  | .object implements fields =>
    "type ".toList ++ name ++ renderImplements implements ++ directives ++
      renderBraced (fields.map FieldDefinition.render)
  | .interface implements fields =>
    "interface ".toList ++ name ++ renderImplements implements ++ directives ++
      renderBraced (fields.map FieldDefinition.render)
  | .union members =>
    "union ".toList ++ name ++ directives ++
      (if members.isEmpty then []
        else " = ".toList ++ " | ".toList.intercalate (members.map String.toList)) ++ ['\n']
  | .enum values =>
    "enum ".toList ++ name ++ directives ++ renderBraced (values.map EnumValue.render)
  | .input fields =>
    "input ".toList ++ name ++ directives ++ renderBraced (fields.map InputValue.renderLine)

def renderExtension (isExtension : Bool) : List Char :=
  if isExtension then "extend ".toList else []

def TypeDefinition.render (definition : TypeDefinition) : List Char :=
  renderDescription [] definition.description ++ renderExtension definition.isExtension ++
    definition.renderBody

def SchemaDefinition.render (definition : SchemaDefinition) : List Char :=
  let root (operation : String) (type : Option String) : List Char :=
    type.elim [] fun name => indentation ++ operation.toList ++ ':' :: ' ' :: name.toList ++ ['\n']
  renderExtension definition.isExtension ++ "schema".toList ++
    renderDirectives definition.directives ++ [' ', '\x7b', '\n'] ++
    root "query" definition.query ++ root "mutation" definition.mutation ++
    root "subscription" definition.subscription ++ ['\x7d', '\n']

def DirectiveLocation.label : DirectiveLocation → String
  | .query => "QUERY"
  | .mutation => "MUTATION"
  | .subscription => "SUBSCRIPTION"
  | .field => "FIELD"
  | .fragmentDefinition => "FRAGMENT_DEFINITION"
  | .fragmentSpread => "FRAGMENT_SPREAD"
  | .inlineFragment => "INLINE_FRAGMENT"
  | .schema => "SCHEMA"
  | .scalar => "SCALAR"
  | .object => "OBJECT"
  | .fieldDefinition => "FIELD_DEFINITION"
  | .argumentDefinition => "ARGUMENT_DEFINITION"
  | .interface => "INTERFACE"
  | .union => "UNION"
  | .enum => "ENUM"
  | .enumValue => "ENUM_VALUE"
  | .inputObject => "INPUT_OBJECT"
  | .inputFieldDefinition => "INPUT_FIELD_DEFINITION"
  | .variableDefinition => "VARIABLE_DEFINITION"

def DirectiveDefinition.render (definition : DirectiveDefinition) : List Char :=
  renderDescription [] definition.description ++ "directive @".toList ++ definition.name.toList ++
    renderArguments definition.arguments ++
    (if definition.isRepeatable then " repeatable".toList else []) ++ " on ".toList ++
    " | ".toList.intercalate (definition.locations.map (·.label.toList)) ++ ['\n']

def Definition.render : Definition → List Char
  | .schema definition => definition.render
  | .directive definition => definition.render
  | .type definition => definition.render

def renderSchema (definitions : List Definition) : String :=
  String.ofList (['\n'].intercalate (definitions.map Definition.render))

end SchemaDiscovery
