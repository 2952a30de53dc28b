import SchemaDiscovery.Discovery.Naming
import SchemaDiscovery.Registry
/-!
Discovery of a type with all that belongs to it: the interface it implements, and the
implementations of an interface. What remains to be done is an agenda, on which each newly recorded
name puts errands. Main statement: the agenda ends, since a catalog gives out finitely many names.
-/

namespace SchemaDiscovery

/-- The types to discover and the options to discover them with. -/
structure Domain where
  catalog : Catalog
  config : Config := {}
  deriving DecidableEq, Repr

inductive Errand
  | discover (key : TypeKey) (requested : TypeKind) (implements : Option String)
  | enqueue (name : String)
  deriving DecidableEq, Repr

structure Finding where
  type : TypeDescriptor
  entry : DiscoveredType
  declared : Option TypeDescriptor
  deriving DecidableEq, Repr

namespace Domain

/-- The type that a key stands for, as it will be recorded. -/
def examine (domain : Domain) (key : TypeKey) (requested : TypeKind)
    (implements : Option String) : Except SchemaError Finding := do
  let type ← domain.catalog.require key
  let kind ← type.kindWhen requested
  let declared := if kind = .object then domain.catalog.implementedInterface? type else none
  return {
    type, declared
    entry := {
      name := type.schemaName kind
      source := key
      kind
      implements := implements.or (declared.map (·.schemaName .interface)) } }

/-- What a newly recorded type calls for: its declared interface, or for an interface its
implementations, and then its own place in the queue. -/
def errands (domain : Domain) (finding : Finding) : List Errand :=
  finding.declared.toList.map (.discover ·.key .interface none) ++
    (if finding.entry.kind = .interface then
        (domain.catalog.implementationsOf domain.config finding.type).map
          (.discover · .object (some finding.entry.name))
      else []) ++
    [.enqueue finding.entry.name]

def unrecorded (domain : Domain) (registry : Registry) : List String :=
  domain.catalog.possibleNames.filter fun name => (registry.find? name).isNone

/-- More than the number of errands a type can call for. -/
def errandBound (domain : Domain) : Nat := domain.catalog.types.length + 3

theorem length_errands_lt (domain : Domain) (finding : Finding) :
    (domain.errands finding).length < domain.errandBound := by
  have h := domain.catalog.length_implementationsOf_le domain.config finding.type
  unfold errands errandBound
  split <;> cases finding.declared <;> simp <;> omega

theorem examine_mem {domain : Domain} {key : TypeKey} {requested : TypeKind}
    {implements : Option String} {finding : Finding}
    (h : domain.examine key requested implements = .ok finding) :
    finding.entry.name ∈ domain.catalog.possibleNames := by
  unfold examine Catalog.require at h
  cases found : domain.catalog.lookup? key with
  | none => rw [found] at h; cases h
  | some type =>
    rw [found] at h
    cases kind : type.kindWhen requested with
    | error e => simp only [bind, Except.bind, kind] at h; cases h
    | ok kind' =>
      simp only [bind, Except.bind, kind] at h
      cases h
      exact Catalog.schemaName_mem_possibleNames (Catalog.mem_of_lookup found) kind'

theorem unrecorded_enqueue (domain : Domain) (registry : Registry) (name : String) :
    domain.unrecorded (registry.enqueue name) = domain.unrecorded registry := by
  simp [unrecorded, Registry.find_enqueue]

theorem unrecorded_known {domain : Domain} {registry after : Registry}
    {candidate entry : DiscoveredType}
    (h : registry.register candidate = .ok (.known entry, after)) :
    domain.unrecorded after = domain.unrecorded registry := by
  have same := Registry.isSome_find_register_known h
  simp only [unrecorded, ← Option.not_isSome, same]

theorem length_unrecorded_new_lt {domain : Domain} {registry after : Registry}
    {candidate entry : DiscoveredType}
    (h : registry.register candidate = .ok (.new entry, after))
    (possible : candidate.name ∈ domain.catalog.possibleNames) :
    (domain.unrecorded after).length < (domain.unrecorded registry).length := by
  have absent := (Registry.find_register_new h candidate.name).1
  have smaller : domain.unrecorded after =
      (domain.unrecorded registry).filter (· ≠ candidate.name) := by
    rw [unrecorded, unrecorded, List.filter_filter]
    congr 1
    funext name
    rw [(Registry.find_register_new h name).2]
    by_cases same : name = candidate.name
    · subst same
      simp [absent]
    · have : ¬ candidate.name = name := fun e => same e.symm
      simp [same, this]
  rw [smaller, List.length_filter_lt_length_iff_exists]
  exact ⟨candidate.name, by simp [unrecorded, possible, absent], by simp⟩

def run (domain : Domain) (registry : Registry) (agenda : List Errand) :
    Except SchemaError Unit × Registry :=
  match agenda with
  | [] => (.ok (), registry)
  | .enqueue name :: rest => domain.run (registry.enqueue name) rest
  | .discover key requested implements :: rest =>
    match _examined : domain.examine key requested implements with
    | .error e => (.error e, registry)
    | .ok finding =>
      match _recorded : registry.record finding.entry with
      | (.error e, after) => (.error e, after)
      | (.ok (.known _), after) => domain.run after rest
      | (.ok (.new _), after) => domain.run after (domain.errands finding ++ rest)
termination_by (domain.unrecorded registry).length * domain.errandBound + agenda.length
decreasing_by
  · simp [unrecorded_enqueue]
  · simp [unrecorded_known (Registry.register_ok_iff.2 _recorded)]
  · have fewer := length_unrecorded_new_lt (Registry.register_ok_iff.2 _recorded)
      (examine_mem _examined)
    have short := domain.length_errands_lt finding
    have := Nat.mul_le_mul_right domain.errandBound (Nat.succ_le_of_lt fewer)
    rw [Nat.succ_mul] at this
    simp only [List.length_append, List.length_cons]
    omega

def discover (domain : Domain) (registry : Registry) (key : TypeKey) (requested : TypeKind) :
    Except SchemaError String × Registry :=
  match domain.examine key requested none with
  | .error e => (.error e, registry)
  | .ok finding =>
    let (outcome, after) := domain.run registry [.discover key requested none]
    (outcome.map fun _ => finding.entry.name, after)

end Domain

end SchemaDiscovery
