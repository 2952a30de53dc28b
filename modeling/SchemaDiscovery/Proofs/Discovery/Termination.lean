import SchemaDiscovery.Discovery.Agenda
import Mathlib.Logic.Relation
/-!
The end of discovery. Main statements: each step of discovery leaves less to do, so that no sequence of
steps is longer than a bound that can be told at its start, and a run of the agenda goes step by step
to where no further step is possible.
-/

namespace SchemaDiscovery.Domain

variable {domain : Domain}

abbrev Worklist := Registry × List Errand

/-- A step of discovery does the first errand on the agenda. A newly recorded type puts its own errands
ahead of the rest. -/
inductive Advances (domain : Domain) : Worklist → Worklist → Prop
  | enqueue {registry : Registry} {name : String} {rest : List Errand} :
    Advances domain (registry, .enqueue name :: rest) (registry.enqueue name, rest)
  | known {registry after : Registry} {key : TypeKey} {requested : TypeKind}
    {implements : Option String} {rest : List Errand} {finding : Finding} {entry : DiscoveredType}
    (examined : domain.examine key requested implements = .ok finding)
    (registered : registry.register finding.entry = .ok (.known entry, after)) :
    Advances domain (registry, .discover key requested implements :: rest) (after, rest)
  | new {registry after : Registry} {key : TypeKey} {requested : TypeKind}
    {implements : Option String} {rest : List Errand} {finding : Finding} {entry : DiscoveredType}
    (examined : domain.examine key requested implements = .ok finding)
    (registered : registry.register finding.entry = .ok (.new entry, after)) :
    Advances domain (registry, .discover key requested implements :: rest)
      (after, domain.errands finding ++ rest)

/-- Discovery stops with an empty agenda or with an errand that fails. -/
inductive Halts (domain : Domain) : Worklist → Except SchemaError Unit → Prop
  | done {registry : Registry} : Halts domain (registry, []) (.ok ())
  | refused {registry : Registry} {key : TypeKey} {requested : TypeKind}
    {implements : Option String} {rest : List Errand} {e : SchemaError}
    (examined : domain.examine key requested implements = .error e) :
    Halts domain (registry, .discover key requested implements :: rest) (.error e)
  | conflicting {registry : Registry} {key : TypeKey} {requested : TypeKind}
    {implements : Option String} {rest : List Errand} {finding : Finding} {e : SchemaError}
    (examined : domain.examine key requested implements = .ok finding)
    (registered : registry.register finding.entry = .error e) :
    Halts domain (registry, .discover key requested implements :: rest) (.error e)

/-- More than the number of steps that are left: each name that can still be recorded calls for fewer
errands than the bound. -/
def remaining (domain : Domain) (worklist : Worklist) : Nat :=
  (domain.unrecorded worklist.1).length * domain.errandBound + worklist.2.length

theorem Advances.remaining_lt {before after : Worklist} (advances : domain.Advances before after) :
    domain.remaining after < domain.remaining before := by
  cases advances with
  | enqueue =>
    simp only [remaining, unrecorded_enqueue, List.length_cons]
    omega
  | known examined registered =>
    simp only [remaining, unrecorded_known registered, List.length_cons]
    omega
  | @new _ _ _ _ _ _ finding _ examined registered =>
    have fewer := length_unrecorded_new_lt registered (examine_mem examined)
    have short := domain.length_errands_lt finding
    have budget := Nat.mul_le_mul_right domain.errandBound (Nat.succ_le_of_lt fewer)
    rw [Nat.succ_mul] at budget
    simp only [remaining, List.length_append, List.length_cons]
    omega

theorem length_le_remaining (states : Nat → Worklist) (count : Nat)
    (advances : ∀ i < count, domain.Advances (states i) (states (i + 1))) :
    count + domain.remaining (states count) ≤ domain.remaining (states 0) := by
  induction count with
  | zero => exact Nat.le_of_eq (Nat.zero_add _)
  | succ count ih =>
    have earlier := ih fun i small => advances i (Nat.lt_succ_of_lt small)
    have smaller := (advances count (Nat.lt_succ_self count)).remaining_lt
    omega

theorem run_halts (domain : Domain) (registry : Registry) (agenda : List Errand) :
    ∃ rest, Relation.ReflTransGen domain.Advances (registry, agenda)
        ((domain.run registry agenda).2, rest) ∧
      domain.Halts ((domain.run registry agenda).2, rest) (domain.run registry agenda).1 := by
  fun_induction domain.run registry agenda with
  | case1 registry => exact ⟨[], .refl, .done⟩
  | case2 registry name rest ih =>
    obtain ⟨last, path, halts⟩ := ih
    exact ⟨last, .head .enqueue path, halts⟩
  | case3 registry key requested implements rest e examined =>
    exact ⟨_, .refl, .refused examined⟩
  | case4 registry key requested implements rest finding examined e after recorded =>
    obtain rfl := Registry.record_rejected recorded
    have conflict := Registry.register_error_iff.2 (congrArg Prod.fst recorded)
    exact ⟨_, .refl, .conflicting examined conflict⟩
  | case5 registry key requested implements rest finding examined entry after recorded ih =>
    obtain ⟨last, path, halts⟩ := ih
    exact ⟨last, .head (.known examined (Registry.register_ok_iff.2 recorded)) path, halts⟩
  | case6 registry key requested implements rest finding examined entry after recorded ih =>
    obtain ⟨last, path, halts⟩ := ih
    exact ⟨last, .head (.new examined (Registry.register_ok_iff.2 recorded)) path, halts⟩

end SchemaDiscovery.Domain
