import SchemaDiscovery.Definition.Basic
import SchemaDiscovery.Metadata.Basic
/-!
The directives of a generated schema: deprecation, and the roles that a field requires.
-/

namespace SchemaDiscovery

def Deprecation.directive (deprecation : Deprecation) : DirectiveUse :=
  ⟨"deprecated", deprecation.reason.toList.map fun reason => ("reason", .string reason)⟩

def securedDirective (roles : List String) : DirectiveUse :=
  ⟨"secured", [("roles", .list (roles.map .string))]⟩

def securedDefinition : DirectiveDefinition where
  name := "secured"
  arguments := [⟨"roles", .list (.named "String" true) false, none, none, []⟩]
  locations := [.fieldDefinition]

namespace Metadata

def fieldDirectives (metadata : Metadata) : List DirectiveUse :=
  metadata.deprecated.toList.map (·.directive) ++ metadata.roles.toList.map securedDirective

def inputDirectives (metadata : Metadata) : List DirectiveUse :=
  metadata.deprecated.toList.map (·.directive)

end Metadata

end SchemaDiscovery
