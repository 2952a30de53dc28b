import SchemaDiscovery.Error
import SchemaDiscovery.Ordered
/-!
The catalog of source types: one descriptor for each key, in the order in which the keys were first
put in.
-/

namespace SchemaDiscovery

structure Catalog where
  types : List TypeDescriptor := []
  deriving DecidableEq, Repr

namespace Catalog

def empty : Catalog := {}

def insert (catalog : Catalog) (type : TypeDescriptor) : Catalog :=
  ⟨Ordered.put (·.key) type catalog.types⟩

def ofTypes (types : List TypeDescriptor) : Catalog := types.foldl insert empty

def lookup? (catalog : Catalog) (key : TypeKey) : Option TypeDescriptor :=
  catalog.types.find? (·.key = key)

def require (catalog : Catalog) (key : TypeKey) : Except SchemaError TypeDescriptor :=
  match catalog.lookup? key with
  | some type => .ok type
  | none => .error (.unknownType key)

def keys (catalog : Catalog) : List TypeKey := catalog.types.map (·.key)

def candidates (catalog : Catalog) : List TypeKey :=
  (catalog.types.filter (·.hasImplementationTag)).map (·.key)

theorem lookup_insert (catalog : Catalog) (type : TypeDescriptor) (key : TypeKey) :
    (catalog.insert type).lookup? key =
      if type.key = key then some type else catalog.lookup? key :=
  Ordered.find_put TypeDescriptor.key type catalog.types key

theorem mem_of_lookup {catalog : Catalog} {key : TypeKey} {type : TypeDescriptor}
    (found : catalog.lookup? key = some type) : type ∈ catalog.types :=
  List.mem_of_find?_eq_some found

theorem key_of_lookup {catalog : Catalog} {key : TypeKey} {type : TypeDescriptor}
    (found : catalog.lookup? key = some type) : type.key = key := by
  simpa using List.find?_some found

end Catalog

end SchemaDiscovery
