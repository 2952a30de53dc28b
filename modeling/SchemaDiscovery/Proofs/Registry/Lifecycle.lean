import SchemaDiscovery.Proofs.Registry.Growth
/-!
A registry through any calls in any order. Main statement: a name is unseen until it is recorded,
then queued until it is popped, and emitted from then on; names are popped once, in the order in
which they came into the queue.
-/

namespace SchemaDiscovery.Registry

inductive Call
  | register (candidate : DiscoveredType)
  | enqueue (name : String)
  | pop
  deriving DecidableEq, Repr

/-- The registry after a call, whether the call succeeds or fails. -/
def call (registry : Registry) : Call → Registry
  | .register candidate => (registry.record candidate).2
  | .enqueue name => registry.enqueue name
  | .pop => registry.pop.2

def run (registry : Registry) (calls : List Call) : Registry := calls.foldl call registry

def observe {α : Type} (look : Registry → Call → Option α) (registry : Registry) :
    List Call → List α
  | [] => []
  | next :: calls => (look registry next).toList ++ observe look (registry.call next) calls

def recorded? (registry : Registry) : Call → Option String
  | .register candidate =>
    match registry.register candidate with
    | .ok (.new entry, _) => some entry.name
    | _ => none
  | _ => none

def admitted? (registry : Registry) : Call → Option String
  | .enqueue name => if registry.enqueue name = registry then none else some name
  | _ => none

def popped? (registry : Registry) : Call → Option String
  | .pop => registry.pop.1.map (·.name)
  | _ => none

variable (registry : Registry) (calls : List Call)

theorem run_append (later : List Call) :
    registry.run (calls ++ later) = (registry.run calls).run later :=
  List.foldl_append

/-! ### One call -/

variable {registry}

theorem call_register_cases (registry : Registry) (candidate : DiscoveredType) :
    registry.call (.register candidate) = registry ∨
      ∃ registration, registry.register candidate =
        .ok (registration, registry.call (.register candidate)) := by
  rcases outcome : registry.record candidate with ⟨e | registration, after⟩ <;>
    simp only [call, outcome]
  · exact .inl (record_rejected outcome)
  · exact .inr ⟨registration, register_ok_iff.2 outcome⟩

theorem grows_call (sound : registry.Sound) (next : Call) :
    registry.Grows (registry.call next) := by
  cases next with
  | register candidate =>
    rcases registry.call_register_cases candidate with same | ⟨_, registered⟩
    · rw [same]
      exact .refl registry
    · exact grows_register registered
  | enqueue name => exact grows_enqueue registry name
  | pop =>
    rcases sound.pop_cases with ⟨-, outcome⟩ | ⟨entry, after, given, outcome⟩ <;>
      simp only [call, outcome]
    · exact .refl registry
    · exact grows_pop given

theorem sound_call (sound : registry.Sound) (next : Call) : (registry.call next).Sound := by
  cases next with
  | register candidate =>
    rcases registry.call_register_cases candidate with same | ⟨_, registered⟩
    · rw [same]
      exact sound
    · exact sound_register registered sound
  | enqueue name => exact sound_enqueue sound name
  | pop =>
    rcases sound.pop_cases with ⟨-, outcome⟩ | ⟨entry, after, given, outcome⟩ <;>
      simp only [call, outcome]
    · exact sound
    · exact sound_pop given sound

theorem names_call (sound : registry.Sound) (next : Call) :
    (registry.call next).entries.map (·.name) =
      registry.entries.map (·.name) ++ (registry.recorded? next).toList := by
  cases next with
  | register candidate =>
    simp only [call, recorded?, register, record]
    cases found : registry.find? candidate.name with
    | none => simp [Except.map]
    | some existing =>
      by_cases same : existing.kind = candidate.kind
      · have present : existing.name ∈ registry.entries.map (·.name) :=
          List.mem_map_of_mem (find_mem found)
        have kept := Ordered.keys_put (·.name)
          { existing with implements := existing.implements.or candidate.implements }
          registry.entries
        have matching : ¬ existing.kind ≠ candidate.kind := not_not.2 same
        simp only [if_pos present] at kept
        simp only [if_neg matching, Except.map, kept, Option.toList_none, List.append_nil]
      · simp [same, Except.map]
  | enqueue name => simp [call, recorded?]
  | pop =>
    rcases sound.pop_cases with ⟨-, outcome⟩ | ⟨entry, after, given, outcome⟩ <;>
      simp only [call, recorded?, outcome]
    · simp
    · simp [entries_pop given]

theorem enqueue_of_ne {name : String} (joins : registry.enqueue name ≠ registry) :
    registry.enqueue name = { registry with pending := registry.pending ++ [name] } := by
  unfold enqueue at joins ⊢
  split
  · rfl
  · next idle => exact absurd (if_neg idle) joins

theorem emitted_call (sound : registry.Sound) (next : Call) :
    (registry.call next).emitted = (registry.popped? next).toList ++ registry.emitted := by
  cases next with
  | register candidate =>
    simp only [popped?, Option.toList_none, List.nil_append]
    rcases registry.call_register_cases candidate with same | ⟨_, registered⟩
    · rw [same]
    · rcases register_ok registered with ⟨existing, -, -, same⟩ | ⟨-, same⟩ <;> rw [same]
  | enqueue name =>
    simp only [call, popped?, enqueue]
    split <;> simp
  | pop =>
    rcases sound.pop_cases with ⟨-, outcome⟩ | ⟨entry, after, given, outcome⟩ <;>
      simp only [call, popped?, outcome]
    · simp
    · obtain ⟨rest, -, -, rfl⟩ := pop_some given
      simp

theorem pending_call (sound : registry.Sound) (next : Call) :
    registry.pending ++ (registry.admitted? next).toList =
      (registry.popped? next).toList ++ (registry.call next).pending := by
  cases next with
  | register candidate =>
    simp only [popped?, admitted?, Option.toList_none, List.nil_append, List.append_nil]
    rcases registry.call_register_cases candidate with same | ⟨_, registered⟩
    · rw [same]
    · rcases register_ok registered with ⟨existing, -, -, same⟩ | ⟨-, same⟩ <;> rw [same]
  | enqueue name =>
    simp only [call, popped?, admitted?]
    by_cases idle : registry.enqueue name = registry
    · simp [idle]
    · have joined : (registry.enqueue name).pending = registry.pending ++ [name] := by
        rw [enqueue_of_ne idle]
      rw [if_neg idle, joined]
      rfl
  | pop =>
    rcases sound.pop_cases with ⟨-, outcome⟩ | ⟨entry, after, given, outcome⟩ <;>
      simp only [call, popped?, admitted?, outcome]
    · simp
    · obtain ⟨rest, waiting, -, rfl⟩ := pop_some given
      simp [waiting]

/-! ### Any calls -/

theorem grows_run (sound : registry.Sound) : registry.Grows (registry.run calls) := by
  induction calls generalizing registry with
  | nil => exact .refl registry
  | cons next calls ih => exact (grows_call sound next).trans (ih (sound_call sound next))

theorem sound_run (sound : registry.Sound) : (registry.run calls).Sound := by
  induction calls generalizing registry with
  | nil => exact sound
  | cons next calls ih => exact ih (sound_call sound next)

theorem names_run (sound : registry.Sound) :
    (registry.run calls).entries.map (·.name) =
      registry.entries.map (·.name) ++ registry.observe recorded? calls := by
  induction calls generalizing registry with
  | nil => simp [run, observe]
  | cons next calls ih =>
    have rest := ih (sound_call sound next)
    rw [names_call sound, List.append_assoc] at rest
    exact rest

theorem emitted_run (sound : registry.Sound) :
    (registry.run calls).emitted =
      (registry.observe popped? calls).reverse ++ registry.emitted := by
  induction calls generalizing registry with
  | nil => simp [run, observe]
  | cons next calls ih =>
    have rest := ih (sound_call sound next)
    have single : (registry.popped? next).toList.reverse = (registry.popped? next).toList := by
      cases registry.popped? next <;> rfl
    rw [emitted_call sound] at rest
    rw [observe, List.reverse_append, single, List.append_assoc]
    exact rest

theorem pending_run (sound : registry.Sound) :
    registry.pending ++ registry.observe admitted? calls =
      registry.observe popped? calls ++ (registry.run calls).pending := by
  induction calls generalizing registry with
  | nil => simp [run, observe]
  | cons next calls ih =>
    have rest := ih (sound_call sound next)
    calc registry.pending ++ registry.observe admitted? (next :: calls)
      _ = (registry.pending ++ (registry.admitted? next).toList) ++
            (registry.call next).observe admitted? calls := (List.append_assoc _ _ _).symm
      _ = (registry.popped? next).toList ++ ((registry.call next).pending ++
            (registry.call next).observe admitted? calls) := by
        rw [pending_call sound, List.append_assoc]
      _ = (registry.popped? next).toList ++ ((registry.call next).observe popped? calls ++
            ((registry.call next).run calls).pending) := by rw [rest]
      _ = registry.observe popped? (next :: calls) ++ (registry.run (next :: calls)).pending :=
        (List.append_assoc _ _ _).symm

/-! ### States -/

variable {calls} {name : String}

theorem state_emitted_iff : registry.state name = .emitted ↔ name ∈ registry.emitted := by
  unfold state
  split
  · next emitted => simp_all
  · next fresh =>
    split
    · simp_all
    · simp_all

theorem Sound.state_queued_iff (sound : registry.Sound) :
    registry.state name = .queued ↔ name ∈ registry.queued := by
  have apart := sound.queued name
  unfold state
  split
  · next emitted => simp_all
  · next fresh =>
    split
    · simp_all
    · simp_all

theorem Sound.state_unseen_iff (sound : registry.Sound) :
    registry.state name = .unseen ↔ registry.find? name = none := by
  have recorded (emitted : name ∈ registry.emitted) : (registry.find? name).isSome :=
    sound.recorded name (List.mem_append_left _ emitted)
  cases seen : registry.state name with
  | unseen =>
    have idle : ¬ registry.state name = .queued := by simp [seen]
    have fresh : ¬ registry.state name = .emitted := by simp [seen]
    rw [state_emitted_iff] at fresh
    rw [sound.state_queued_iff, sound.queued] at idle
    simpa [fresh] using idle
  | queued =>
    have known := ((sound.queued name).1 (sound.state_queued_iff.1 seen)).2
    simp [Option.isSome_iff_ne_none.1 known]
  | emitted =>
    have known := recorded (state_emitted_iff.1 seen)
    simp [Option.isSome_iff_ne_none.1 known]

theorem find_isSome_iff : (registry.find? name).isSome ↔ name ∈ registry.entries.map (·.name) := by
  simp [find?, List.find?_isSome]

theorem Sound.queued_of_pending (sound : registry.Sound) (waiting : name ∈ registry.pending) :
    registry.state name = .queued := by
  have fresh : name ∉ registry.emitted := fun emitted =>
    List.disjoint_of_nodup_append sound.handled emitted waiting
  have recorded := sound.recorded name (List.mem_append_right _ waiting)
  exact sound.state_queued_iff.2 ((sound.queued name).2 ⟨fresh, recorded⟩)

theorem Sound.pop_eq_none_iff (sound : registry.Sound) :
    registry.pop.1 = none ↔ registry.pending = [] := by
  constructor
  · intro nothing
    exact pop_none sound (by rw [pop?, nothing, Option.map_none])
  · intro drained
    simp [pop, drained]

/-! ### From the empty registry -/

def reached (calls : List Call) : Registry := empty.run calls

def recorded (calls : List Call) : List String := empty.observe recorded? calls

def admitted (calls : List Call) : List String := empty.observe admitted? calls

def popped (calls : List Call) : List String := empty.observe popped? calls

theorem sound_reached (calls : List Call) : (reached calls).Sound := sound_run calls sound_empty

theorem names_reached (calls : List Call) :
    (reached calls).entries.map (·.name) = recorded calls :=
  names_run calls sound_empty

theorem emitted_reached (calls : List Call) : (reached calls).emitted = (popped calls).reverse :=
  (emitted_run calls sound_empty).trans (List.append_nil _)

theorem admitted_eq (calls : List Call) :
    admitted calls = popped calls ++ (reached calls).pending :=
  pending_run calls sound_empty

theorem nodup_admitted (calls : List Call) : (admitted calls).Nodup := by
  have distinct := (sound_reached calls).handled
  rw [handled, emitted_reached] at distinct
  rw [admitted_eq]
  exact ((List.reverse_perm _).append_right _).nodup distinct

theorem mem_recorded_iff : name ∈ recorded calls ↔ ((reached calls).find? name).isSome := by
  rw [find_isSome_iff, names_reached]

theorem mem_popped_iff : name ∈ popped calls ↔ name ∈ (reached calls).emitted := by
  rw [emitted_reached, List.mem_reverse]

theorem recorded_of_popped (popped : name ∈ popped calls) : name ∈ recorded calls := by
  have handled : name ∈ (reached calls).handled :=
    List.mem_append_left _ (mem_popped_iff.1 popped)
  exact mem_recorded_iff.2 ((sound_reached calls).recorded name handled)

theorem reached_unseen_iff : (reached calls).state name = .unseen ↔ name ∉ recorded calls := by
  rw [(sound_reached calls).state_unseen_iff, mem_recorded_iff, Option.not_isSome_iff_eq_none]

theorem reached_queued_iff :
    (reached calls).state name = .queued ↔ name ∈ recorded calls ∧ name ∉ popped calls := by
  have sound := sound_reached calls
  rw [sound.state_queued_iff, sound.queued, mem_recorded_iff, mem_popped_iff, and_comm]

theorem reached_emitted_iff : (reached calls).state name = .emitted ↔ name ∈ popped calls := by
  rw [state_emitted_iff, mem_popped_iff]

theorem recorded_append (later : List Call) : recorded calls ⊆ recorded (calls ++ later) := by
  intro name member
  have grows := grows_run later (sound_reached calls)
  have same : (reached calls).run later = reached (calls ++ later) :=
    (run_append empty calls later).symm
  rw [mem_recorded_iff] at member ⊢
  exact same ▸ grows.find_isSome member

theorem popped_append (later : List Call) : popped calls ⊆ popped (calls ++ later) := by
  intro name member
  have same : (reached calls).run later = reached (calls ++ later) :=
    (run_append empty calls later).symm
  rw [mem_popped_iff] at member ⊢
  rw [← same, emitted_run later (sound_reached calls)]
  exact List.mem_append_right _ member

/-- A name is unseen until it is recorded, then queued until it is popped, and emitted from then on.
Each is popped once, and first come is first served. -/
theorem lifecycle (calls : List Call) :
    (reached calls).pending.Nodup ∧
    (∀ name ∈ (reached calls).pending, (reached calls).state name = .queued) ∧
    (∀ name, name ∈ (reached calls).queued ↔ (reached calls).state name = .queued) ∧
    (∀ name, ((reached calls).find? name).isSome ↔ name ∈ recorded calls) ∧
    (∀ name, (reached calls).state name = .unseen ↔ name ∉ recorded calls) ∧
    (∀ name, (reached calls).state name = .queued ↔
      name ∈ recorded calls ∧ name ∉ popped calls) ∧
    (∀ name, (reached calls).state name = .emitted ↔
      name ∈ recorded calls ∧ name ∈ popped calls) ∧
    (∀ name later, (reached calls).state name = .emitted →
      (reached (calls ++ later)).state name = .emitted) ∧
    (∀ name later, (reached calls).state name ≠ .unseen →
      (reached (calls ++ later)).state name ≠ .unseen) ∧
    (popped calls).Nodup ∧ (admitted calls).Nodup ∧
    admitted calls = popped calls ++ (reached calls).pending ∧
    ((reached calls).pop.1 = none ↔ (reached calls).pending = []) := by
  have sound := sound_reached calls
  have distinct := nodup_admitted calls
  have halves := distinct
  rw [admitted_eq] at halves
  refine ⟨halves.of_append_right, fun name waiting => sound.queued_of_pending waiting,
    fun name => sound.state_queued_iff.symm, fun name => mem_recorded_iff.symm,
    fun name => reached_unseen_iff, fun name => reached_queued_iff, ?emitted, ?staysEmitted,
    ?staysSeen, halves.of_append_left, distinct, admitted_eq calls, sound.pop_eq_none_iff⟩
  case emitted =>
    intro name
    rw [reached_emitted_iff]
    exact ⟨fun out => ⟨recorded_of_popped out, out⟩, And.right⟩
  case staysEmitted =>
    intro name later emitted
    rw [reached_emitted_iff] at emitted ⊢
    exact popped_append later emitted
  case staysSeen =>
    intro name later seen unseen
    rw [Ne, reached_unseen_iff, not_not] at seen
    exact reached_unseen_iff.1 unseen (recorded_append later seen)

/-- A name in the queue that is registered again, one that is refused, one that is enqueued before
it is known, and one that is enqueued after it was popped. -/
def errands : List Call :=
  [.enqueue "Book", .register ⟨"Book", ⟨"shop::Book"⟩, .object, none⟩, .enqueue "Book",
    .register ⟨"Shelf", ⟨"shop::Shelf"⟩, .interface, none⟩,
    .register ⟨"Book", ⟨"shop::Other"⟩, .input, none⟩, .enqueue "Shelf", .enqueue "Book", .pop,
    .enqueue "Book", .register ⟨"Page", ⟨"shop::Page"⟩, .object, none⟩]

theorem lifecycle_errands :
    admitted errands = ["Book", "Shelf"] ∧ popped errands = ["Book"] ∧
      recorded errands = ["Book", "Shelf", "Page"] ∧ (reached errands).pending = ["Shelf"] ∧
      (reached errands).state "Page" = .queued ∧
      ∀ later, (reached (errands ++ later)).state "Book" = .emitted := by
  obtain ⟨-, -, -, -, -, queued, -, stays, -⟩ := lifecycle errands
  have page : (reached errands).state "Page" = .queued := (queued "Page").2 (by decide)
  have book : (reached errands).state "Book" = .emitted := by decide
  exact ⟨by decide, by decide, by decide, by decide, page, fun later => stays "Book" later book⟩

end SchemaDiscovery.Registry
