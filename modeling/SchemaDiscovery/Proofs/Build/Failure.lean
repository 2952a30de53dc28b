import SchemaDiscovery.Proofs.Build.Completion
import SchemaDiscovery.Proofs.Discovery.Failure
/-!
Where a build fails. Main statement: a build fails over its configuration, or in the turn of a
resolver or of a type from the queue, after a run of the turns before it.
-/

namespace SchemaDiscovery

namespace Domain

variable {domain : Domain} {start : Discovery} {e : SchemaError}

theorem not_concernsTypes_of_build {α : Type} {step : Discovering α}
    (only : step.FailsOnTypes) (other : e.concernsTypes = false) : ¬ Fails step.build start e := by
  intro failed
  have concerns := only.concerns _ _ (fails_build.1 failed)
  rw [other] at concerns
  cases concerns

/-- The turns before the one that fails, and how it fails. -/
inductive Breaks (domain : Domain) (resolvers : List Resolver) (e : SchemaError) : Prop
  | resolver {left right : List Resolver} {resolver : Resolver} {definitions : List Definition}
    {reached : Discovery} (listed : resolvers = left ++ resolver :: right)
    (before : domain.Run (left.map Turn.resolver) {} definitions reached)
    (fails : Fails (domain.addResolver resolver) reached e)
  | entry {entries : List DiscoveredType} {entry : DiscoveredType}
    {first later : List Definition} {between reached : Discovery} {opened : Registry}
    (resolved : domain.Run (resolvers.map Turn.resolver) {} first between)
    (before : domain.Run (entries.map Turn.entry) between later reached)
    (popped : reached.registry.pop? = some (entry, opened))
    (fails : Fails (domain.defineDiscovered entry) { reached with registry := opened } e)

theorem drain_fails {limit : Nat} (failed : Fails (domain.drain limit) start e) :
    ∃ (entries : List DiscoveredType) (definitions : List Definition) (reached : Discovery)
      (entry : DiscoveredType) (opened : Registry),
      domain.Run (entries.map Turn.entry) start definitions reached ∧
      reached.registry.pop? = some (entry, opened) ∧
      Fails (domain.defineDiscovered entry) { reached with registry := opened } e := by
  induction limit generalizing start with
  | zero => exact (fails_pure.1 failed).elim
  | succ limit ih =>
    simp only [drain, fails_bind, fails_get, gives_get, false_or] at failed
    obtain ⟨_, _, ⟨rfl, rfl⟩, failed⟩ := failed
    split at failed
    · exact (fails_pure.1 failed).elim
    · next entry opened popped =>
      simp only [fails_bind, fails_modify, gives_modify, false_or, fails_pure, and_false,
        exists_false, or_false] at failed
      obtain ⟨_, _, rfl, here | ⟨definition, between, defined, later⟩⟩ := failed
      · exact ⟨[], [], _, entry, opened, .nil, popped, here⟩
      · obtain ⟨entries, definitions, reached, last, after, run, waiting, fails⟩ := ih later
        have step := step_of_defineDiscovered popped defined
        exact ⟨entry :: entries, _, reached, last, after, .cons step run, waiting, fails⟩

theorem breaks_of_emitAll {resolvers : List Resolver}
    (failed : Fails (domain.emitAll resolvers) {} e) : domain.Breaks resolvers e := by
  simp only [emitAll, fails_bind, fails_pure, and_false, exists_false, or_false] at failed
  rcases failed with resolving | ⟨resolved, between, added, draining⟩
  · obtain ⟨left, resolver, right, values, reached, listed, given, fails⟩ := fails_mapM resolving
    exact .resolver listed (mapM_addResolver_ok given) fails
  · obtain ⟨entries, definitions, reached, entry, opened, run, popped, fails⟩ :=
      drain_fails draining
    exact .entry (mapM_addResolver_ok added) run popped fails

theorem breaks_of_build {resolvers : List Resolver} (failed : domain.build resolvers = .error e) :
    (∃ objection, domain.config.objection? = some objection ∧ e = .config objection) ∨
      domain.Breaks resolvers e := by
  unfold build at failed
  cases objection : domain.config.objection? with
  | some found =>
    simp only [objection] at failed
    cases failed
    exact .inl ⟨found, rfl, rfl⟩
  | none =>
    simp only [objection] at failed
    rcases ran : ExceptT.run (domain.emitAll resolvers) {} with ⟨first | definitions, discovery⟩
    · rw [ran] at failed
      cases failed
      exact .inr (breaks_of_emitAll (congrArg Prod.fst ran))
    · rw [ran] at failed
      cases failed

end Domain

end SchemaDiscovery
