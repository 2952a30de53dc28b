import SchemaDiscovery.Error
import SchemaDiscovery.Ordered
/-!
The registry of discovered types. A name is recorded once, waits in the queue once, and is then
emitted; it keeps the kind and the source it was recorded with.
-/

namespace SchemaDiscovery

structure DiscoveredType where
  name : String
  source : TypeKey
  kind : TypeKind
  implements : Option String := none
  deriving DecidableEq, Repr

inductive DiscoveryState
  | unseen
  | queued
  | emitted
  deriving DecidableEq, Repr

/-- Whether a registration recorded a new name or met a known one, with the entry as it stands. -/
inductive Registration
  | new (entry : DiscoveredType)
  | known (entry : DiscoveredType)
  deriving DecidableEq, Repr

structure Registry where
  entries : List DiscoveredType := []
  queued : List String := []
  emitted : List String := []
  pending : List String := []
  deriving DecidableEq, Repr

namespace Registry

def empty : Registry := {}

def find? (registry : Registry) (name : String) : Option DiscoveredType :=
  registry.entries.find? (·.name = name)

def state (registry : Registry) (name : String) : DiscoveryState :=
  if registry.emitted.contains name then .emitted
  else if registry.queued.contains name then .queued
  else .unseen

def size (registry : Registry) : Nat := registry.entries.length

def isDrained (registry : Registry) : Bool := registry.pending.isEmpty

/-- Records a type under its name. A known name must be of the same kind, and takes over the
interface if it has none yet. -/
def record (registry : Registry) (candidate : DiscoveredType) :
    Except SchemaError Registration × Registry :=
  match registry.find? candidate.name with
  | some existing =>
    if existing.kind ≠ candidate.kind then
      (.error (.kindConflict candidate.name existing.kind candidate.kind), registry)
    else
      let entry := { existing with implements := existing.implements.or candidate.implements }
      (.ok (.known entry), { registry with entries := Ordered.put (·.name) entry registry.entries })
  | none => (.ok (.new candidate), { registry with
      entries := registry.entries ++ [candidate], queued := candidate.name :: registry.queued })

/-- A registration that succeeds, with the registry that it leaves. -/
def register (registry : Registry) (candidate : DiscoveredType) :
    Except SchemaError (Registration × Registry) :=
  (registry.record candidate).1.map (·, (registry.record candidate).2)

/-- Lets a recorded name that is not yet emitted wait in the queue. -/
def enqueue (registry : Registry) (name : String) : Registry :=
  if name ∈ registry.queued ∧ name ∉ registry.pending then
    { registry with pending := registry.pending ++ [name] }
  else registry

/-- Takes the first name from the queue and counts it as emitted; gives what it is recorded with. -/
def pop (registry : Registry) : Option DiscoveredType × Registry :=
  match registry.pending with
  | [] => (none, registry)
  | name :: pending =>
    (registry.find? name, { registry with
      queued := registry.queued.filter (· ≠ name), emitted := name :: registry.emitted, pending })

def pop? (registry : Registry) : Option (DiscoveredType × Registry) :=
  registry.pop.1.map (·, registry.pop.2)

theorem find_enqueue (registry : Registry) (name other : String) :
    (registry.enqueue name).find? other = registry.find? other := by
  unfold enqueue
  split <;> rfl

theorem register_ok_iff {registry after : Registry} {candidate : DiscoveredType}
    {registration : Registration} :
    registry.register candidate = .ok (registration, after) ↔
      registry.record candidate = (.ok registration, after) := by
  unfold register
  rcases registry.record candidate with ⟨_ | _, _⟩ <;> simp [Except.map]

theorem register_error_iff {registry : Registry} {candidate : DiscoveredType} {e : SchemaError} :
    registry.register candidate = .error e ↔ (registry.record candidate).1 = .error e := by
  unfold register
  rcases registry.record candidate with ⟨_ | _, _⟩ <;> simp [Except.map]

theorem record_rejected {registry after : Registry} {candidate : DiscoveredType} {e : SchemaError}
    (rejected : registry.record candidate = (.error e, after)) : after = registry := by
  unfold record at rejected
  split at rejected
  · split at rejected
    · exact (congrArg Prod.snd rejected).symm
    · cases rejected
  · cases rejected

theorem isSome_find_register_known {registry after : Registry}
    {candidate entry : DiscoveredType}
    (h : registry.register candidate = .ok (.known entry, after)) (name : String) :
    (after.find? name).isSome = (registry.find? name).isSome := by
  rw [register_ok_iff] at h
  unfold record at h
  split at h
  · next existing found =>
    split at h
    · cases h
    · cases h
      have same : existing.name = candidate.name := by simpa using List.find?_some found
      rw [find?, Ordered.find_put DiscoveredType.name]
      split
      · next here =>
        have : name = candidate.name := here.symm.trans same
        rw [this, found]
        rfl
      · rfl
  · cases h

theorem find_register_new {registry after : Registry} {candidate entry : DiscoveredType}
    (h : registry.register candidate = .ok (.new entry, after)) (name : String) :
    registry.find? candidate.name = none ∧
      after.find? name =
        (registry.find? name).or (if candidate.name = name then some candidate else none) := by
  rw [register_ok_iff] at h
  unfold record at h
  split at h
  · split at h <;> cases h
  · next absent =>
    cases h
    refine ⟨absent, ?_⟩
    simp only [find?, List.find?_append, List.find?_cons, List.find?_nil]
    by_cases same : candidate.name = name <;> simp [same]

end Registry

end SchemaDiscovery
