import SchemaDiscovery.Proofs.Outcome
/-!
Steps that fail. Main statement: a sequence of steps fails where its first part fails, or after the
first part has given a value.
-/

namespace SchemaDiscovery

def Fails {ε σ α : Type} (step : ExceptT ε (StateM σ) α) (before : σ) (e : ε) : Prop :=
  (step.run.run before).run.1 = .error e

variable {ε σ α β : Type} {before : σ} {e : ε}

@[simp] theorem fails_pure {value : α} :
    Fails (pure value : ExceptT ε (StateM σ) α) before e ↔ False := by
  constructor
  · intro failed
    cases failed
  · exact False.elim

@[simp] theorem fails_throw {thrown : ε} :
    Fails (throw thrown : ExceptT ε (StateM σ) α) before e ↔ e = thrown := by
  constructor
  · intro failed
    cases failed
    rfl
  · rintro rfl
    rfl

theorem fails_bind {step : ExceptT ε (StateM σ) α} {next : α → ExceptT ε (StateM σ) β} :
    Fails (step >>= next) before e ↔
      Fails step before e ∨
        ∃ value between, Gives step before value between ∧ Fails (next value) between e := by
  unfold Fails Gives
  simp only [ExceptT.run_bind, StateT.run_bind, Id.run_bind]
  generalize (step.run.run before).run = outcome
  rcases outcome with ⟨first | value, between⟩
  · constructor
    · intro failed
      cases failed
      exact .inl rfl
    · rintro (failed | ⟨_, _, given, -⟩)
      · cases failed
        rfl
      · cases given
  · constructor
    · intro failed
      exact .inr ⟨value, between, rfl, failed⟩
    · rintro (failed | ⟨_, _, given, failed⟩)
      · cases failed
      · cases given
        exact failed

@[simp] theorem fails_map {step : ExceptT ε (StateM σ) α} {change : α → β} :
    Fails (change <$> step) before e ↔ Fails step before e := by
  rw [← bind_pure_comp, fails_bind]
  constructor
  · rintro (failed | ⟨value, between, -, failed⟩)
    · exact failed
    · exact (fails_pure.1 failed).elim
  · exact .inl

@[simp] theorem fails_get : Fails (get : ExceptT ε (StateM σ) σ) before e ↔ False := by
  constructor
  · intro failed
    cases failed
  · exact False.elim

@[simp] theorem fails_set {state : σ} :
    Fails (set state : ExceptT ε (StateM σ) PUnit) before e ↔ False := by
  constructor
  · intro failed
    cases failed
  · exact False.elim

@[simp] theorem fails_modifyGet {change : σ → α × σ} :
    Fails (modifyGet change : ExceptT ε (StateM σ) α) before e ↔ False := by
  constructor
  · intro failed
    cases failed
  · exact False.elim

@[simp] theorem fails_modify {change : σ → σ} :
    Fails (modify change : ExceptT ε (StateM σ) PUnit) before e ↔ False := by
  constructor
  · intro failed
    cases failed
  · exact False.elim

@[simp] theorem fails_liftM {outcome : Except ε α} :
    Fails (liftM outcome : ExceptT ε (StateM σ) α) before e ↔ outcome = .error e :=
  Iff.rfl

theorem fails_mk {step : StateM σ (Except ε α)} :
    Fails (ExceptT.mk step) before e ↔ (step.run before).run.1 = .error e :=
  Iff.rfl

theorem fails_mapM {step : α → ExceptT ε (StateM σ) β} {items : List α}
    (failed : Fails (items.mapM step) before e) : ∃ left item right values between,
      items = left ++ item :: right ∧ Gives (left.mapM step) before values between ∧
        Fails (step item) between e := by
  induction items generalizing before with
  | nil =>
    rw [List.mapM_nil] at failed
    exact (fails_pure.1 failed).elim
  | cons item items ih =>
    rw [List.mapM_cons] at failed
    rcases fails_bind.1 failed with here | ⟨value, between, given, rest⟩
    · exact ⟨[], item, items, [], before, rfl, by simp, here⟩
    · rcases fails_bind.1 rest with later | ⟨values, _, -, none⟩
      · obtain ⟨left, other, right, values, middle, rfl, gave, there⟩ := ih later
        refine ⟨item :: left, other, right, value :: values, middle, rfl, ?_, there⟩
        rw [List.mapM_cons]
        simp only [gives_bind, gives_pure]
        exact ⟨value, between, given, values, middle, gave, rfl, rfl⟩
      · exact (fails_pure.1 none).elim

@[simp] theorem fails_build {step : Discovering α} {start : Discovery} {e : SchemaError} :
    Fails step.build start e ↔ Fails step start.registry e :=
  Iff.rfl

end SchemaDiscovery
