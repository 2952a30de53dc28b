import SchemaDiscovery.Text.Capital
/-!
Names of accessors: a method named for what it gets or sets yields the name of the field.
-/

namespace SchemaDiscovery

def accessedName? (verb name : String) : Option String :=
  match verb.toList.isPrefixOf name.toList, name.toList.drop verb.length with
  | true, c :: rest => (Text.lowerCapital? c).map fun small => String.ofList (small ++ rest)
  | _, _ => none

def outputName (method : String) : String := (accessedName? "get" method).getD method

def inputName? (method : String) : Option String := accessedName? "set" method

example : outputName "getDayOfWeek" = "dayOfWeek" := by decide +kernel

example : outputName "getaway" = "getaway" := by decide +kernel

end SchemaDiscovery
