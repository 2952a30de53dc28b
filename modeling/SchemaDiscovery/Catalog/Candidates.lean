import SchemaDiscovery.Catalog.Basic
/-!
A catalog that is filled and asked for its implementation candidates in turn. The answer is kept
until the next insertion.
-/

namespace SchemaDiscovery

structure CandidateIndex where
  catalog : Catalog := .empty
  known : Option (List TypeKey) := none
  deriving DecidableEq, Repr

namespace CandidateIndex

def empty : CandidateIndex := {}

def insert (index : CandidateIndex) (type : TypeDescriptor) : CandidateIndex :=
  ⟨index.catalog.insert type, none⟩

def candidates (index : CandidateIndex) : List TypeKey × CandidateIndex :=
  match index.known with
  | some keys => (keys, index)
  | none => (index.catalog.candidates, { index with known := some index.catalog.candidates })

end CandidateIndex

end SchemaDiscovery
