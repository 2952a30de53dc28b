import SchemaDiscovery.Registry
import Mathlib.Data.List.Nodup
/-!
What the operations of a registry leave as it was. Main statements: no operation forgets a name or
changes its kind or its source, and each keeps a sound registry sound.
-/

namespace SchemaDiscovery.Registry

def kindOf? (registry : Registry) (name : String) : Option TypeKind :=
  (registry.find? name).map (·.kind)

/-- The names that were emitted or wait in the queue. -/
def handled (registry : Registry) : List String := registry.emitted ++ registry.pending

/-- Each name is recorded once and handled at most once, after it was recorded, and counts as queued
from when it is recorded until it is emitted. -/
structure Sound (registry : Registry) : Prop where
  entries : (registry.entries.map (·.name)).Nodup
  handled : registry.handled.Nodup
  recorded : ∀ name ∈ registry.handled, (registry.find? name).isSome
  queued : ∀ name, name ∈ registry.queued ↔
    name ∉ registry.emitted ∧ (registry.find? name).isSome

/-- What was recorded stays as it was but for an interface that it may gain, and what was handled
stays so. -/
structure Grows (before after : Registry) : Prop where
  kept : ∀ name entry, before.find? name = some entry →
    ∃ link, after.find? name = some { entry with implements := entry.implements.or link }
  handled : before.handled ⊆ after.handled

theorem find_some_name {registry : Registry} {name : String} {entry : DiscoveredType}
    (found : registry.find? name = some entry) : entry.name = name := by
  simpa using List.find?_some found

theorem find_mem {registry : Registry} {name : String} {entry : DiscoveredType}
    (found : registry.find? name = some entry) : entry ∈ registry.entries :=
  List.mem_of_find?_eq_some found

theorem find_isSome_of_mem {registry : Registry} {entry : DiscoveredType}
    (present : entry ∈ registry.entries) : (registry.find? entry.name).isSome := by
  rw [find?, List.find?_isSome]
  exact ⟨entry, present, by simp⟩

theorem kindOf_of_find {registry : Registry} {name : String} {entry : DiscoveredType}
    (found : registry.find? name = some entry) : registry.kindOf? name = some entry.kind := by
  rw [kindOf?, found, Option.map_some]

theorem kindOf_isSome {registry : Registry} {name : String} :
    (registry.kindOf? name).isSome = (registry.find? name).isSome := by
  simp [kindOf?]

namespace Grows

theorem refl (registry : Registry) : registry.Grows registry where
  kept := fun _ entry found => ⟨none, by simpa using found⟩
  handled := fun _ member => member

theorem trans {first second third : Registry} (left : first.Grows second)
    (right : second.Grows third) : first.Grows third where
  kept := by
    intro name entry found
    obtain ⟨link, found⟩ := left.kept name entry found
    obtain ⟨further, found⟩ := right.kept name _ found
    exact ⟨link.or further, by simpa only [Option.or_assoc] using found⟩
  handled := fun _ member => right.handled (left.handled member)

theorem find_isSome {before after : Registry} (grows : before.Grows after) {name : String}
    (recorded : (before.find? name).isSome) : (after.find? name).isSome := by
  obtain ⟨entry, found⟩ := Option.isSome_iff_exists.1 recorded
  obtain ⟨link, found⟩ := grows.kept name entry found
  simp [found]

theorem kindOf {before after : Registry} (grows : before.Grows after) {name : String}
    {kind : TypeKind} (recorded : before.kindOf? name = some kind) :
    after.kindOf? name = some kind := by
  obtain ⟨entry, found, rfl⟩ := Option.map_eq_some_iff.1 recorded
  obtain ⟨link, found⟩ := grows.kept name entry found
  simp [kindOf?, found]

end Grows

theorem register_ok {registry after : Registry} {candidate : DiscoveredType}
    {registration : Registration} (h : registry.register candidate = .ok (registration, after)) :
    (∃ existing, registry.find? candidate.name = some existing ∧
      existing.kind = candidate.kind ∧
      after = { registry with
        entries := Ordered.put (·.name)
          { existing with implements := existing.implements.or candidate.implements }
          registry.entries }) ∨
    (registry.find? candidate.name = none ∧
      after = { registry with
        entries := registry.entries ++ [candidate],
        queued := candidate.name :: registry.queued }) := by
  rw [register_ok_iff] at h
  unfold record at h
  split at h
  · next existing found =>
    split at h
    · cases h
    · next same =>
      cases h
      exact .inl ⟨existing, found, by simpa using same, rfl⟩
  · next absent =>
    cases h
    exact .inr ⟨absent, rfl⟩

theorem mem_entries_register {registry after : Registry} {candidate entry : DiscoveredType}
    {registration : Registration}
    (registered : registry.register candidate = .ok (registration, after))
    (member : entry ∈ after.entries) :
    (∃ earlier ∈ registry.entries, ∃ link, entry = { earlier with implements := link }) ∨
      registration = .new candidate ∧ entry = candidate := by
  rcases register_ok registered with ⟨existing, found, -, rfl⟩ | ⟨absent, rfl⟩
  · refine .inl ?_
    rcases Ordered.mem_put member with rfl | member
    · exact ⟨existing, find_mem found, _, rfl⟩
    · exact ⟨entry, member, _, rfl⟩
  · rcases List.mem_append.1 member with member | member
    · exact .inl ⟨entry, member, _, rfl⟩
    · have recorded := register_ok_iff.1 registered
      simp only [record, absent, Prod.mk.injEq, Except.ok.injEq] at recorded
      exact .inr ⟨recorded.1.symm, List.mem_singleton.1 member⟩

theorem grows_known {registry : Registry} {name : String} {existing : DiscoveredType}
    (found : registry.find? name = some existing) (link : Option String) :
    registry.Grows { registry with
      entries := Ordered.put (·.name)
        { existing with implements := existing.implements.or link } registry.entries } where
  kept := by
    intro other entry present
    simp only [find?, Ordered.find_put DiscoveredType.name]
    split
    · next here =>
      have same : other = name := here.symm.trans (find_some_name found)
      rw [same, found] at present
      cases present
      exact ⟨link, rfl⟩
    · exact ⟨none, by simpa [find?] using present⟩
  handled := fun _ member => member

theorem grows_new (registry : Registry) (candidate : DiscoveredType) :
    registry.Grows { registry with
      entries := registry.entries ++ [candidate],
      queued := candidate.name :: registry.queued } where
  kept := by
    intro name entry found
    refine ⟨none, ?_⟩
    simp only [find?] at found ⊢
    simp [List.find?_append, found]
  handled := fun _ member => member

theorem grows_register {registry after : Registry} {candidate : DiscoveredType}
    {registration : Registration} (h : registry.register candidate = .ok (registration, after)) :
    registry.Grows after := by
  rcases register_ok h with ⟨existing, found, same, rfl⟩ | ⟨absent, rfl⟩
  · exact grows_known found candidate.implements
  · exact grows_new registry candidate

theorem kindOf_register {registry after : Registry} {candidate : DiscoveredType}
    {registration : Registration} (h : registry.register candidate = .ok (registration, after)) :
    after.kindOf? candidate.name = some candidate.kind := by
  rcases register_ok h with ⟨existing, found, same, rfl⟩ | ⟨absent, rfl⟩
  · simp only [kindOf?, find?, Ordered.find_put DiscoveredType.name]
    simp [find_some_name found, same]
  · simp only [find?] at absent
    simp [kindOf?, find?, List.find?_append, absent]

@[simp] theorem entries_enqueue (registry : Registry) (name : String) :
    (registry.enqueue name).entries = registry.entries := by
  unfold enqueue
  split <;> rfl

theorem grows_enqueue (registry : Registry) (name : String) :
    registry.Grows (registry.enqueue name) where
  kept := fun other entry found => ⟨none, by simpa [find_enqueue] using found⟩
  handled := by
    intro other member
    unfold enqueue
    split
    · simp only [handled, List.mem_append] at member ⊢
      rcases member with emitted | waiting
      · exact .inl emitted
      · exact .inr (.inl waiting)
    · exact member

theorem mem_handled_enqueue {registry : Registry} (sound : registry.Sound) {name : String}
    (recorded : (registry.find? name).isSome) : name ∈ (registry.enqueue name).handled := by
  unfold enqueue
  split
  · simp [handled]
  · next idle =>
    by_cases emitted : name ∈ registry.emitted
    · exact List.mem_append_left _ emitted
    · have queued := (sound.queued name).2 ⟨emitted, recorded⟩
      have waiting : name ∈ registry.pending := by simpa [queued] using idle
      exact List.mem_append_right _ waiting

theorem sound_empty : Registry.empty.Sound := by
  constructor <;> simp [empty, Registry.handled, find?]

theorem sound_known {registry : Registry} {name : String} {existing : DiscoveredType}
    (found : registry.find? name = some existing) (link : Option String)
    (sound : registry.Sound) : Sound { registry with
      entries := Ordered.put (·.name)
        { existing with implements := existing.implements.or link } registry.entries } where
  entries := Ordered.nodup_keys_put _ _ _ sound.entries
  handled := sound.handled
  recorded := fun other member => (grows_known found link).find_isSome (sound.recorded other member)
  queued := by
    intro other
    have same : (find? { registry with
        entries := Ordered.put (·.name)
          { existing with implements := existing.implements.or link } registry.entries }
        other).isSome = (registry.find? other).isSome := by
      simp only [find?, Ordered.find_put DiscoveredType.name]
      split
      · next here =>
        rw [← here, find_some_name found]
        simpa [find?] using (congrArg Option.isSome found).symm
      · rfl
    rw [same]
    exact sound.queued other

theorem sound_new {registry : Registry} {candidate : DiscoveredType}
    (absent : registry.find? candidate.name = none) (sound : registry.Sound) :
    Sound { registry with
      entries := registry.entries ++ [candidate],
      queued := candidate.name :: registry.queued } where
  entries := by
    simp only [List.map_append, List.map_cons, List.map_nil, List.nodup_append]
    refine ⟨sound.entries, by simp, ?_⟩
    intro name member other here same
    obtain ⟨entry, present, rfl⟩ := List.mem_map.1 member
    have named : entry.name = candidate.name := by simpa [same] using here
    have recorded := find_isSome_of_mem present
    simp [named, absent] at recorded
  handled := sound.handled
  recorded := fun name member =>
    (grows_new registry candidate).find_isSome (sound.recorded name member)
  queued := by
    intro name
    have fresh : candidate.name ∉ registry.emitted := by
      intro emitted
      have recorded := sound.recorded _ (List.mem_append_left _ emitted)
      simp [absent] at recorded
    by_cases same : name = candidate.name
    · simp [same, fresh, find?]
    · simp [same, Ne.symm same, sound.queued name, find?, List.find?_append]

theorem sound_register {registry after : Registry} {candidate : DiscoveredType}
    {registration : Registration} (h : registry.register candidate = .ok (registration, after))
    (sound : registry.Sound) : after.Sound := by
  rcases register_ok h with ⟨existing, found, same, rfl⟩ | ⟨absent, rfl⟩
  · exact sound_known found candidate.implements sound
  · exact sound_new absent sound

theorem sound_enqueue {registry : Registry} (sound : registry.Sound) (name : String) :
    (registry.enqueue name).Sound := by
  unfold enqueue
  split
  · next free =>
    obtain ⟨queued, absent⟩ := free
    obtain ⟨fresh, recorded⟩ := (sound.queued name).1 queued
    have joined : name ∉ registry.handled := by simp [Registry.handled, fresh, absent]
    have longer : (registry.handled ++ [name]).Nodup := by
      simpa only [List.concat_eq_append] using List.Nodup.concat joined sound.handled
    refine ⟨sound.entries, ?_, ?_, sound.queued⟩
    · simpa only [Registry.handled, List.append_assoc] using longer
    · intro other member
      have either : other ∈ registry.handled ∨ other = name := by
        simpa [Registry.handled, or_assoc] using member
      rcases either with known | rfl
      · exact sound.recorded other known
      · exact recorded
  · exact sound

/-- What the queue gives out is recorded, and the rest is as it was. -/
theorem pop_some {registry after : Registry} {entry : DiscoveredType}
    (popped : registry.pop? = some (entry, after)) :
    ∃ rest, registry.pending = entry.name :: rest ∧
      registry.find? entry.name = some entry ∧
      after = { registry with
        queued := registry.queued.filter (· ≠ entry.name),
        emitted := entry.name :: registry.emitted, pending := rest } := by
  unfold pop? pop at popped
  split at popped
  · cases popped
  · next name rest waiting =>
    obtain ⟨found, recorded, same⟩ := Option.map_eq_some_iff.1 popped
    cases same
    have hit : registry.find? name = some entry := recorded
    have named := find_some_name hit
    exact ⟨rest, by rw [waiting, named], by rw [named, hit], by rw [named]⟩

theorem pop_none {registry : Registry} (sound : registry.Sound) (stuck : registry.pop? = none) :
    registry.pending = [] := by
  unfold pop? pop at stuck
  split at stuck
  · assumption
  · next name rest waiting =>
    have recorded := sound.recorded name (by simp [Registry.handled, waiting])
    have missing : registry.find? name = none := Option.map_eq_none_iff.1 stuck
    simp [missing] at recorded

theorem pop_of_drained {registry : Registry} (drained : registry.pending = []) :
    registry.pop? = none := by
  simp [pop?, pop, drained]

theorem Sound.pop_cases {registry : Registry} (sound : registry.Sound) :
    (registry.pending = [] ∧ registry.pop = (none, registry)) ∨
    ∃ entry after, registry.pop? = some (entry, after) ∧ registry.pop = (some entry, after) := by
  cases popped : registry.pop? with
  | none =>
    have drained := pop_none sound popped
    exact .inl ⟨drained, by simp [pop, drained]⟩
  | some outcome =>
    obtain ⟨entry, given, rfl⟩ := Option.map_eq_some_iff.1 popped
    exact .inr ⟨entry, registry.pop.2, rfl, by rw [← given]⟩

theorem handled_pop {registry after : Registry} {entry : DiscoveredType}
    (popped : registry.pop? = some (entry, after)) : registry.handled.Perm after.handled := by
  obtain ⟨rest, waiting, -, rfl⟩ := pop_some popped
  simp only [handled, waiting, List.cons_append]
  exact List.perm_middle

theorem grows_pop {registry after : Registry} {entry : DiscoveredType}
    (popped : registry.pop? = some (entry, after)) : registry.Grows after where
  kept := by
    intro name found hit
    obtain ⟨rest, -, -, rfl⟩ := pop_some popped
    exact ⟨none, by simpa [find?] using hit⟩
  handled := (handled_pop popped).subset

theorem entries_pop {registry after : Registry} {entry : DiscoveredType}
    (popped : registry.pop? = some (entry, after)) : after.entries = registry.entries := by
  obtain ⟨rest, -, -, rfl⟩ := pop_some popped
  rfl

theorem kindOf_of_pop {registry after : Registry} {entry : DiscoveredType}
    (popped : registry.pop? = some (entry, after)) :
    after.kindOf? entry.name = some entry.kind := by
  obtain ⟨rest, -, found, -⟩ := pop_some popped
  exact (grows_pop popped).kindOf (by simp [kindOf?, found])

theorem sound_pop {registry after : Registry} {entry : DiscoveredType}
    (popped : registry.pop? = some (entry, after)) (sound : registry.Sound) : after.Sound where
  entries := by
    obtain ⟨rest, -, -, rfl⟩ := pop_some popped
    exact sound.entries
  handled := (handled_pop popped).nodup sound.handled
  recorded := by
    intro name member
    exact (grows_pop popped).find_isSome
      (sound.recorded name ((handled_pop popped).mem_iff.2 member))
  queued := by
    intro name
    obtain ⟨rest, -, -, rfl⟩ := pop_some popped
    simp only [List.mem_filter, sound.queued name, decide_eq_true_eq, List.mem_cons, not_or]
    tauto

end SchemaDiscovery.Registry
