/-!
Legal names of a GraphQL schema: a letter or an underscore, then letters, digits and underscores,
all of ASCII.
-/

namespace SchemaDiscovery

def isNameStart (c : Char) : Bool := c.isAlpha || c == '_'

def isNameChar (c : Char) : Bool := c.isAlphanum || c == '_'

def isLegalNameText : List Char → Bool
  | [] => false
  | c :: rest => isNameStart c && rest.all isNameChar

def isLegalName (name : String) : Bool := isLegalNameText name.toList

end SchemaDiscovery
