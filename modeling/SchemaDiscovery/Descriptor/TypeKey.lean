/-!
Keys of source types: paths whose segments are joined by a double colon.
-/

namespace SchemaDiscovery

structure TypeKey where
  path : String
  deriving DecidableEq, Repr, Inhabited

namespace TypeKey

def splitLast : List Char → Option (List Char × List Char)
  | [] => none
  | c :: rest =>
    match splitLast rest with
    | some (before, after) => some (c :: before, after)
    | none =>
      match c, rest with
      | ':', ':' :: after => some ([], after)
      | _, _ => none

def simpleName (key : TypeKey) : String :=
  match splitLast key.path.toList with
  | some (_, name) => String.ofList name
  | none => key.path

def modulePath (key : TypeKey) : Option String :=
  (splitLast key.path.toList).map fun (path, _) => String.ofList path

/-- Whether the path continues the scope by at least one segment. -/
def isWithin (key : TypeKey) (scope : String) : Bool :=
  (scope.toList ++ [':', ':']).isPrefixOf key.path.toList

example : (TypeKey.mk "app::model::Car").simpleName = "Car" := by decide +kernel

example : (TypeKey.mk "a:::b").modulePath = some "a:" := by decide +kernel

end TypeKey

end SchemaDiscovery
