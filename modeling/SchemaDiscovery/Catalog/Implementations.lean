import SchemaDiscovery.Catalog.Lineage
/-!
The implementations of an interface: the types tagged as such, within the scope of the interface,
that are assignable to it.
-/

namespace SchemaDiscovery

namespace Catalog

def candidatesWithin (catalog : Catalog) (scope : Option String) : List TypeKey :=
  catalog.candidates.filter fun key => scope.all key.isWithin

def implementers (catalog : Catalog) (interface : TypeDescriptor) (keys : List TypeKey) :
    List TypeKey :=
  keys.filter fun key => key ≠ interface.key && catalog.isSubtype key interface.key

def implementationsOf (catalog : Catalog) (config : Config) (interface : TypeDescriptor) :
    List TypeKey :=
  catalog.implementers interface
    (catalog.candidatesWithin (config.scopeFor interface.key.modulePath))

theorem length_implementationsOf_le (catalog : Catalog) (config : Config)
    (interface : TypeDescriptor) :
    (catalog.implementationsOf config interface).length ≤ catalog.types.length := by
  refine Nat.le_trans (List.length_filter_le _ _) (Nat.le_trans (List.length_filter_le _ _) ?_)
  rw [candidates, List.length_map]
  exact List.length_filter_le _ _

end Catalog

/-- The candidates of the scopes that were asked about, kept for the next question. -/
structure ScopeIndex where
  scopes : List (Option String × List TypeKey) := []
  deriving DecidableEq, Repr

namespace ScopeIndex

def empty : ScopeIndex := {}

def candidates (index : ScopeIndex) (catalog : Catalog) (scope : Option String) :
    List TypeKey × ScopeIndex :=
  match index.scopes.find? (·.1 = scope) with
  | some (_, keys) => (keys, index)
  | none =>
    let keys := catalog.candidatesWithin scope
    (keys, ⟨(scope, keys) :: index.scopes⟩)

def implementationsOf (index : ScopeIndex) (catalog : Catalog) (config : Config)
    (interface : TypeDescriptor) : List TypeKey × ScopeIndex :=
  let (keys, index) := index.candidates catalog (config.scopeFor interface.key.modulePath)
  (catalog.implementers interface keys, index)

end ScopeIndex

end SchemaDiscovery
