import SchemaDiscovery.Catalog.Basic
import SchemaDiscovery.Catalog.Substitution
/-!
The lineage of a type: the type and its ancestors in the catalog, breadth first, the parent before
the interfaces, each once and with the arguments bound to its type variables on the way there.
-/

namespace SchemaDiscovery

structure Ancestor where
  type : TypeDescriptor
  bindings : Bindings
  deriving DecidableEq, Repr

def Ancestor.supertypes (ancestor : Ancestor) : List Supertype :=
  ancestor.type.supertypes.map fun supertype =>
    ⟨supertype.key, ancestor.bindings.applyAll supertype.args⟩

def nextUnvisited? (unvisited : List TypeDescriptor) :
    List Supertype → Option (Supertype × TypeDescriptor × List Supertype)
  | [] => none
  | reference :: queue =>
    match unvisited.find? (·.key = reference.key) with
    | some type => some (reference, type, queue)
    | none => nextUnvisited? unvisited queue

theorem nextUnvisited_mem {unvisited : List TypeDescriptor} {queue rest : List Supertype}
    {reference : Supertype} {type : TypeDescriptor}
    (found : nextUnvisited? unvisited queue = some (reference, type, rest)) :
    type ∈ unvisited ∧ type.key = reference.key := by
  induction queue with
  | nil => simp [nextUnvisited?] at found
  | cons head queue ih =>
    rw [nextUnvisited?] at found
    split at found
    · next hit =>
      obtain ⟨rfl, rfl, rfl⟩ := by simpa using found
      exact ⟨List.mem_of_find?_eq_some hit, by simpa using List.find?_some hit⟩
    · exact ih found

def withoutKey (key : TypeKey) (types : List TypeDescriptor) : List TypeDescriptor :=
  types.filter (·.key ≠ key)

theorem length_withoutKey_lt {types : List TypeDescriptor} {type : TypeDescriptor}
    (present : type ∈ types) : (withoutKey type.key types).length < types.length := by
  rw [withoutKey, List.length_filter_lt_length_iff_exists]
  exact ⟨type, present, by simp⟩

def visit (unvisited : List TypeDescriptor) (queue : List Supertype) : List Ancestor :=
  match _found : nextUnvisited? unvisited queue with
  | none => []
  | some (reference, type, rest) =>
    let ancestor : Ancestor := ⟨type, .bind type.typeParams reference.args⟩
    ancestor :: visit (withoutKey type.key unvisited) (rest ++ ancestor.supertypes)
termination_by unvisited.length
decreasing_by exact length_withoutKey_lt (nextUnvisited_mem _found).1

namespace Catalog

def ancestors (catalog : Catalog) (type : TypeDescriptor) : List Ancestor :=
  visit (withoutKey type.key catalog.types) (Ancestor.mk type []).supertypes

def lineage (catalog : Catalog) (type : TypeDescriptor) : List Ancestor :=
  ⟨type, []⟩ :: catalog.ancestors type

def isSubtype (catalog : Catalog) (key target : TypeKey) : Bool :=
  key = target ||
    match catalog.lookup? key with
    | some type => (catalog.lineage type).any fun a => a.type.supertypes.any (·.key = target)
    | none => false

/-- The interface that a type tagged as an implementation implements: the first of its ancestors
with an interface tag. -/
def implementedInterface? (catalog : Catalog) (type : TypeDescriptor) : Option TypeDescriptor :=
  if type.hasImplementationTag then
    ((catalog.ancestors type).find? (·.type.hasInterfaceTag)).map (·.type)
  else none

end Catalog

end SchemaDiscovery
