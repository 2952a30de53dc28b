import SchemaDiscovery.Proofs.Registry.Lifecycle
/-!
What a registry remembers of its calls. Main statement: the entry of a name is what the name was
first registered with, except for an interface that it gains at most once, and a rejected
registration leaves no trace.
-/

namespace SchemaDiscovery.Registry

def Call.candidate? (name : String) : Call → Option DiscoveredType
  | .register candidate => if candidate.name = name then some candidate else none
  | .enqueue _ => none
  | .pop => none

/-- The interface that a call offers for the name when it registers it with that kind. -/
def Call.offer? (name : String) (kind : TypeKind) (next : Call) : Option String :=
  (next.candidate? name).bind fun candidate =>
    if candidate.kind = kind then candidate.implements else none

theorem Call.candidate_eq_some_iff {name : String} {next : Call} {candidate : DiscoveredType} :
    next.candidate? name = some candidate ↔ next = .register candidate ∧ candidate.name = name := by
  cases next with
  | register other =>
    by_cases here : other.name = name
    · simp only [candidate?, if_pos here, Option.some_inj, register.injEq]
      exact ⟨fun same => ⟨same, same ▸ here⟩, And.left⟩
    · simp only [candidate?, if_neg here, register.injEq]
      exact ⟨nofun, fun ⟨same, there⟩ => absurd (same ▸ there) here⟩
  | enqueue other => simp [candidate?]
  | pop => simp [candidate?]

theorem Call.offer_of_silent {name : String} {next : Call} {kind : TypeKind}
    (silent : next.candidate? name = none) : next.offer? name kind = none := by
  rw [offer?, silent, Option.bind_none]

theorem Call.offer_of_registered {name : String} {next : Call} {candidate : DiscoveredType}
    {kind : TypeKind} (registers : next.candidate? name = some candidate) :
    next.offer? name kind = if candidate.kind = kind then candidate.implements else none := by
  rw [offer?, registers, Option.bind_some]

/-- The entry with the interface that is offered, if it has none yet. -/
def linked (entry : DiscoveredType) (offer : Option String) : DiscoveredType :=
  { entry with implements := entry.implements.or offer }

variable {registry : Registry} {name : String} {candidate entry : DiscoveredType}

theorem linked_none (entry : DiscoveredType) : linked entry none = entry := by
  simp [linked]

theorem linked_linked (entry : DiscoveredType) (first second : Option String) :
    linked (linked entry first) second = linked entry (first.or second) := by
  simp [linked, Option.or_assoc]

/-! ### One call -/

theorem record_error_iff {e : SchemaError} :
    (registry.record candidate).1 = .error e ↔
      ∃ existing, registry.find? candidate.name = some existing ∧
        existing.kind ≠ candidate.kind ∧
        e = .kindConflict candidate.name existing.kind candidate.kind := by
  unfold record
  cases found : registry.find? candidate.name with
  | none => simp
  | some existing =>
    by_cases same : existing.kind = candidate.kind
    · simp [same]
    · simp [same, eq_comm (a := e)]

theorem call_of_rejected {e : SchemaError} (rejected : (registry.record candidate).1 = .error e) :
    registry.call (.register candidate) = registry :=
  record_rejected (Prod.ext rejected rfl)

theorem find_call_of_silent {next : Call} (silent : next.candidate? name = none) :
    (registry.call next).find? name = registry.find? name := by
  cases next with
  | register candidate =>
    have other : candidate.name ≠ name := by simpa [Call.candidate?] using silent
    rcases registry.call_register_cases candidate with same | ⟨_, registered⟩
    · rw [same]
    · rcases register_ok registered with ⟨existing, found, -, same⟩ | ⟨-, same⟩ <;> rw [same]
      · simp only [find?, Ordered.find_put DiscoveredType.name]
        rw [if_neg (by rwa [find_some_name found])]
      · simp [find?, List.find?_append, other]
  | enqueue other => exact find_enqueue registry other name
  | pop =>
    simp only [call, pop]
    split <;> rfl

theorem find_call_known (found : registry.find? name = some entry) (next : Call) :
    (registry.call next).find? name = some (linked entry (next.offer? name entry.kind)) := by
  cases registers : next.candidate? name with
  | none => rw [find_call_of_silent registers, found, Call.offer_of_silent registers, linked_none]
  | some candidate =>
    obtain ⟨rfl, rfl⟩ := Call.candidate_eq_some_iff.1 registers
    by_cases same : candidate.kind = entry.kind
    · have met : registry.record candidate = (.ok (.known (linked entry candidate.implements)),
          { registry with
            entries := Ordered.put (·.name) (linked entry candidate.implements)
              registry.entries }) := by
        simp [record, found, same, linked]
      have named : (linked entry candidate.implements).name = candidate.name :=
        show entry.name = candidate.name from find_some_name found
      simp only [call, met, find?, Ordered.find_put DiscoveredType.name]
      rw [if_pos named, Call.offer_of_registered registers, if_pos same]
    · have refused : (registry.record candidate).1 =
          .error (.kindConflict candidate.name entry.kind candidate.kind) :=
        record_error_iff.2 ⟨entry, found, Ne.symm same, rfl⟩
      rw [call_of_rejected refused, found, Call.offer_of_registered registers, if_neg same,
        linked_none]

theorem find_call_unknown (absent : registry.find? name = none) (next : Call) :
    (registry.call next).find? name = next.candidate? name := by
  cases registers : next.candidate? name with
  | none => rw [find_call_of_silent registers, absent]
  | some candidate =>
    obtain ⟨rfl, rfl⟩ := Call.candidate_eq_some_iff.1 registers
    simp only [call, record, absent]
    simp only [find?] at absent ⊢
    simp [List.find?_append, absent]

/-! ### Any calls -/

theorem findSome_cons_or {α β : Type} (look : α → Option β) (item : α) (items : List α) :
    (item :: items).findSome? look = (look item).or (items.findSome? look) := by
  rw [List.findSome?_cons]
  cases look item <;> rfl

theorem find_run_known (found : registry.find? name = some entry) (calls : List Call) :
    (registry.run calls).find? name =
      some (linked entry (calls.findSome? (·.offer? name entry.kind))) := by
  induction calls generalizing registry entry with
  | nil =>
    rw [List.findSome?_nil, linked_none]
    exact found
  | cons next calls ih =>
    have rest := ih (find_call_known found next)
    rw [linked_linked] at rest
    rw [findSome_cons_or]
    exact rest

theorem find_run_unknown (absent : registry.find? name = none) (calls : List Call) :
    (registry.run calls).find? name = (calls.findSome? (·.candidate? name)).map fun first =>
      { first with implements := calls.findSome? (·.offer? name first.kind) } := by
  induction calls generalizing registry with
  | nil => exact absent
  | cons next calls ih =>
    rw [findSome_cons_or]
    cases registers : next.candidate? name with
    | none =>
      have rest := ih ((find_call_of_silent registers).trans absent)
      simp only [findSome_cons_or, Call.offer_of_silent registers, Option.none_or]
      exact rest
    | some first =>
      have recorded := (find_call_unknown absent next).trans registers
      have rest := find_run_known recorded calls
      have offered : next.offer? name first.kind = first.implements := by
        rw [Call.offer_of_registered registers, if_pos rfl]
      simp only [findSome_cons_or, offered, Option.some_or, Option.map_some]
      exact rest

/-! ### From the empty registry -/

theorem reached_append (calls later : List Call) :
    reached (calls ++ later) = (reached calls).run later :=
  run_append empty calls later

/-- The calls alone tell what is recorded: of each name the first registration, with the first
interface that a registration of its kind offers. -/
theorem find_reached (calls : List Call) (name : String) :
    (reached calls).find? name = (calls.findSome? (·.candidate? name)).map fun first =>
      { first with implements := calls.findSome? (·.offer? name first.kind) } :=
  find_run_unknown rfl calls

theorem find_reached_append {calls : List Call} (found : (reached calls).find? name = some entry)
    (later : List Call) :
    (reached (calls ++ later)).find? name =
      some (linked entry (later.findSome? (·.offer? name entry.kind))) := by
  rw [reached_append]
  exact find_run_known found later

theorem find_of_changed {calls later : List Call} {changed : DiscoveredType}
    (found : (reached calls).find? name = some entry)
    (foundLater : (reached (calls ++ later)).find? name = some changed)
    (change : changed.implements ≠ entry.implements) :
    entry.implements = none ∧
      changed.implements = later.findSome? (·.offer? name entry.kind) ∧
      ∀ further, (reached (calls ++ later ++ further)).find? name = some changed := by
  have gained := find_reached_append found later
  rw [foundLater, Option.some_inj] at gained
  cases before : entry.implements with
  | some link => exact absurd (by simp [gained, linked, before]) change
  | none =>
    -- From the first link on nothing is gained any more.
    refine ⟨rfl, by rw [gained, linked, before, Option.none_or], fun further => ?_⟩
    obtain ⟨link, implemented⟩ : ∃ link, changed.implements = some link := by
      rw [before] at change
      exact Option.ne_none_iff_exists'.1 change
    rw [find_reached_append foundLater further, linked, implemented, Option.some_or, ← implemented]

/-- What a name is recorded with stays, but for an interface that it gains at most once: the first
that a registration of its kind offers. A registration that is rejected tells the two kinds, and the
registry is as if it had not been tried. -/
theorem entries_kept (calls later : List Call) :
    (∀ name, (reached calls).find? name =
      (calls.findSome? (·.candidate? name)).map fun first =>
        { first with implements := calls.findSome? (·.offer? name first.kind) }) ∧
    (∀ name entry, (reached calls).find? name = some entry →
      (reached (calls ++ later)).find? name = some { entry with
        implements := entry.implements.or (later.findSome? (·.offer? name entry.kind)) }) ∧
    (∀ name entry changed, (reached calls).find? name = some entry →
      (reached (calls ++ later)).find? name = some changed →
      changed.implements ≠ entry.implements →
      entry.implements = none ∧
        changed.implements = later.findSome? (·.offer? name entry.kind) ∧
        ∀ further, (reached (calls ++ later ++ further)).find? name = some changed) ∧
    (∀ candidate e, ((reached calls).record candidate).1 = .error e ↔
      ∃ existing, (reached calls).find? candidate.name = some existing ∧
        existing.kind ≠ candidate.kind ∧
        e = .kindConflict candidate.name existing.kind candidate.kind) ∧
    ∀ candidate e, ((reached calls).record candidate).1 = .error e →
      ((reached calls).record candidate).2 = reached calls ∧
      reached (calls ++ .register candidate :: later) = reached (calls ++ later) := by
  refine ⟨find_reached calls, fun _ _ found => find_reached_append found later,
    fun _ _ _ => find_of_changed, fun _ _ => record_error_iff, fun candidate e rejected => ?_⟩
  have same := call_of_rejected rejected
  refine ⟨same, ?_⟩
  rw [reached_append, reached_append]
  exact congrArg (·.run later) same

def lending : List Call :=
  [.register ⟨"Book", ⟨"shop::Book"⟩, .object, none⟩, .enqueue "Book", .pop]

def returning : List Call :=
  [.register ⟨"Book", ⟨"shop::Other"⟩, .input, some "Form"⟩,
    .register ⟨"Book", ⟨"shop::Other"⟩, .object, some "Item"⟩,
    .register ⟨"Book", ⟨"shop::Book"⟩, .object, some "Thing"⟩]

theorem entries_kept_lending :
    (reached (lending ++ returning)).find? "Book" =
      some ⟨"Book", ⟨"shop::Book"⟩, .object, some "Item"⟩ ∧
    (∀ further, (reached (lending ++ returning ++ further)).find? "Book" =
      some ⟨"Book", ⟨"shop::Book"⟩, .object, some "Item"⟩) ∧
    (reached lending).record ⟨"Book", ⟨"shop::Other"⟩, .input, some "Form"⟩ =
      (.error (.kindConflict "Book" .object .input), reached lending) ∧
    reached (lending ++ returning) = reached (lending ++ returning.tail) := by
  have before : (reached lending).find? "Book" = some ⟨"Book", ⟨"shop::Book"⟩, .object, none⟩ := by
    decide
  have after : (reached (lending ++ returning)).find? "Book" =
      some ⟨"Book", ⟨"shop::Book"⟩, .object, some "Item"⟩ := by
    decide
  obtain ⟨-, -, once, -, -⟩ := entries_kept lending returning
  obtain ⟨-, -, -, conflicts, refused⟩ := entries_kept lending returning.tail
  have conflict : ((reached lending).record
      ⟨"Book", ⟨"shop::Other"⟩, .input, some "Form"⟩).1 =
        .error (.kindConflict "Book" .object .input) :=
    (conflicts _ _).2 ⟨_, before, by decide, rfl⟩
  obtain ⟨idle, traceless⟩ := refused _ _ conflict
  exact ⟨after, (once "Book" _ _ before after (by decide)).2.2, Prod.ext conflict idle, traceless⟩

end SchemaDiscovery.Registry
