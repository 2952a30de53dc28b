import SchemaDiscovery.Discovery.Emission
/-!
Steps that may fail and keep a state. Main statement: what a sequence of steps gives is what its
parts give in turn, each from the state that the one before left.
-/

namespace SchemaDiscovery

section

variable {ε ζ α β : Type}

theorem bind_eq_ok {outcome : Except ε α} {next : α → Except ε β} {result : β} :
    outcome >>= next = .ok result ↔ ∃ value, outcome = .ok value ∧ next value = .ok result := by
  cases outcome with
  | error e => exact ⟨nofun, nofun⟩
  | ok value =>
    constructor
    · intro given
      exact ⟨value, rfl, given⟩
    · rintro ⟨_, same, given⟩
      cases same
      exact given

theorem bind_congr_ok {outcome : Except ε α} {first second : α → Except ε β}
    (same : ∀ value, outcome = .ok value → first value = second value) :
    outcome >>= first = outcome >>= second := by
  cases outcome with
  | error e => rfl
  | ok value => exact same value rfl

theorem map_eq_ok {outcome : Except ε α} {change : α → β} {result : β} :
    outcome.map change = .ok result ↔ ∃ value, outcome = .ok value ∧ change value = result := by
  cases outcome with
  | error e => exact ⟨nofun, nofun⟩
  | ok value =>
    constructor
    · intro given
      cases given
      exact ⟨value, rfl, rfl⟩
    · rintro ⟨_, same, rfl⟩
      cases same
      rfl

theorem mapError_eq_ok {outcome : Except ε α} {change : ε → ζ} {result : α} :
    outcome.mapError change = .ok result ↔ outcome = .ok result := by
  cases outcome with
  | error e => exact ⟨nofun, nofun⟩
  | ok value =>
    constructor
    · intro given
      cases given
      rfl
    · intro same
      cases same
      rfl

theorem ok_of_observed {outcome : Except ε α} {look : α → β} {seen : β}
    (observed : outcome.toOption.map look = some seen) :
    ∃ value, outcome = .ok value ∧ look value = seen := by
  cases outcome with
  | error e => cases observed
  | ok value => exact ⟨value, rfl, Option.some_inj.1 observed⟩

end

theorem mapM_congr {m : Type → Type} [Monad m] [LawfulMonad m] {α β : Type} {items : List α}
    {first second : α → m β} (same : ∀ item ∈ items, first item = second item) :
    items.mapM first = items.mapM second := by
  induction items with
  | nil => rw [List.mapM_nil, List.mapM_nil]
  | cons item items ih =>
    obtain ⟨here, later⟩ := List.forall_mem_cons.1 same
    rw [List.mapM_cons, List.mapM_cons, here, ih later]

theorem liftM_bind_congr {ε σ α β : Type} {outcome : Except ε α}
    {first second : α → ExceptT ε (StateM σ) β}
    (same : ∀ value, outcome = .ok value → first value = second value) :
    liftM outcome >>= first = liftM outcome >>= second := by
  cases outcome with
  | error e => rfl
  | ok value => exact same value rfl

/-- The step succeeds with the value and takes the first state to the second. -/
def Gives {ε σ α : Type} (step : ExceptT ε (StateM σ) α) (before : σ) (value : α) (after : σ) :
    Prop :=
  (step.run.run before).run = (.ok value, after)

section

variable {ε σ α β : Type} {before after : σ}

theorem gives_observed {step : ExceptT ε (StateM σ) α} {seen : α}
    (observed : (step.run.run before).run.1.toOption = some seen) :
    ∃ after, Gives step before seen after := by
  have given : (step.run.run before).run.1 = .ok seen := by
    cases outcome : (step.run.run before).run.1 with
    | error e =>
      rw [outcome] at observed
      cases observed
    | ok value =>
      rw [outcome] at observed
      cases observed
      rfl
  exact ⟨_, Prod.ext given rfl⟩

@[simp] theorem gives_pure {value result : α} :
    Gives (pure value : ExceptT ε (StateM σ) α) before result after ↔
      result = value ∧ after = before := by
  constructor
  · intro run
    cases run
    exact ⟨rfl, rfl⟩
  · rintro ⟨rfl, rfl⟩
    rfl

@[simp] theorem gives_bind {step : ExceptT ε (StateM σ) α} {next : α → ExceptT ε (StateM σ) β}
    {result : β} :
    Gives (step >>= next) before result after ↔
      ∃ value between, Gives step before value between ∧ Gives (next value) between result after := by
  unfold Gives
  simp only [ExceptT.run_bind, StateT.run_bind, Id.run_bind]
  generalize (step.run.run before).run = outcome
  rcases outcome with ⟨e | value, between⟩
  · simp
  · constructor
    · intro run
      exact ⟨value, between, rfl, run⟩
    · rintro ⟨_, _, same, run⟩
      cases same
      exact run

theorem run_bind_of_gives {step : ExceptT ε (StateM σ) α} {next : α → ExceptT ε (StateM σ) β}
    {value : α} (given : Gives step before value after) :
    ((step >>= next).run.run before).run = ((next value).run.run after).run := by
  unfold Gives at given
  simp only [ExceptT.run_bind, StateT.run_bind, Id.run_bind]
  rw [given]

theorem run_bind_of_fails {step : ExceptT ε (StateM σ) α} {next : α → ExceptT ε (StateM σ) β}
    {e : ε} (failed : (step.run.run before).run = (.error e, after)) :
    ((step >>= next).run.run before).run = (.error e, after) := by
  simp only [ExceptT.run_bind, StateT.run_bind, Id.run_bind]
  rw [failed]
  rfl

theorem run_map (step : ExceptT ε (StateM σ) α) (change : α → β) :
    ((change <$> step).run.run before).run =
      ((step.run.run before).run.1.map change, (step.run.run before).run.2) := by
  rw [← bind_pure_comp]
  simp only [ExceptT.run_bind, StateT.run_bind, Id.run_bind]
  generalize (step.run.run before).run = outcome
  rcases outcome with ⟨e | value, after⟩ <;> rfl

@[simp] theorem gives_map {step : ExceptT ε (StateM σ) α} {change : α → β} {result : β} :
    Gives (change <$> step) before result after ↔
      ∃ value, Gives step before value after ∧ change value = result := by
  rw [← bind_pure_comp, gives_bind]
  constructor
  · rintro ⟨value, _, given, same⟩
    obtain ⟨rfl, rfl⟩ := gives_pure.1 same
    exact ⟨value, given, rfl⟩
  · rintro ⟨value, given, rfl⟩
    exact ⟨value, after, given, gives_pure.2 ⟨rfl, rfl⟩⟩

@[simp] theorem gives_throw {e : ε} {result : α} :
    Gives (throw e : ExceptT ε (StateM σ) α) before result after ↔ False := by
  constructor
  · intro run
    cases run
  · exact False.elim

@[simp] theorem gives_get {result : σ} :
    Gives (get : ExceptT ε (StateM σ) σ) before result after ↔
      result = before ∧ after = before := by
  constructor
  · intro run
    cases run
    exact ⟨rfl, rfl⟩
  · rintro ⟨rfl, rfl⟩
    rfl

@[simp] theorem gives_set {state : σ} {result : PUnit} :
    Gives (set state : ExceptT ε (StateM σ) PUnit) before result after ↔ after = state := by
  constructor
  · intro run
    cases run
    rfl
  · rintro rfl
    rfl

@[simp] theorem gives_modifyGet {change : σ → α × σ} {result : α} :
    Gives (modifyGet change : ExceptT ε (StateM σ) α) before result after ↔
      change before = (result, after) := by
  constructor
  · intro run
    cases run
    rfl
  · intro changed
    show (Except.ok (change before).1, (change before).2) = _
    rw [changed]

@[simp] theorem gives_modify {change : σ → σ} {result : PUnit} :
    Gives (modify change : ExceptT ε (StateM σ) PUnit) before result after ↔
      after = change before := by
  constructor
  · intro run
    cases run
    rfl
  · rintro rfl
    rfl

@[simp] theorem gives_liftM {outcome : Except ε α} {result : α} :
    Gives (liftM outcome : ExceptT ε (StateM σ) α) before result after ↔
      outcome = .ok result ∧ after = before := by
  constructor
  · intro run
    cases run
    exact ⟨rfl, rfl⟩
  · rintro ⟨rfl, rfl⟩
    rfl

theorem gives_mk {step : StateM σ (Except ε α)} {result : α} :
    Gives (ExceptT.mk step) before result after ↔ (step.run before).run = (.ok result, after) :=
  Iff.rfl

@[simp] theorem gives_build {step : Discovering α} {start finish : Discovery} {result : α} :
    Gives step.build start result finish ↔
      ∃ registry, Gives step start.registry result registry ∧ finish = { start with registry } := by
  constructor
  · intro run
    refine ⟨(step.run.run start.registry).run.2, ?_, ?_⟩
    · exact Prod.ext (congrArg Prod.fst run :) rfl
    · exact (congrArg Prod.snd run).symm
  · rintro ⟨registry, run, rfl⟩
    exact Prod.ext (congrArg Prod.fst run :) (congrArg (fun r => { start with registry := r.2 }) run :)

end

end SchemaDiscovery
