import SchemaDiscovery.Proofs.Build.FixedPoint
import SchemaDiscovery.Proofs.Discovery.Restriction
/-!
A build in a catalog that is cut down to some of its keys. Main statement: where the shown types and the
resolvers mention shown keys only and no implementation is taken away, the outcome is the same, a failure
or the same schema.
-/

namespace SchemaDiscovery.Domain

variable {shown : TypeKey → Bool} {domain : Domain}

section

variable (confined : domain.catalog.Confined shown)

include confined

theorem resolverTarget_restrict {resolver : Resolver}
    (visible : ∀ key ∈ resolver.mentions, shown key) :
    (domain.restrict shown).resolverTarget resolver = domain.resolverTarget resolver := by
  unfold resolverTarget
  cases role : resolver.role with
  | extension source =>
    have own : shown source := visible source (by simp [Resolver.mentions, role, ResolverRole.source?])
    simp only [discover_restrict confined _ own]
  | _ => rfl

theorem defineResolvedInterface_restrict {source : TypeKey} (visible : shown source) (name : String)
    (resolver : Resolver) (extras : List BoundField) :
    (domain.restrict shown).defineResolvedInterface name source resolver extras =
      domain.defineResolvedInterface name source resolver extras := by
  have known : (domain.restrict shown).catalog.require source = domain.catalog.require source :=
    Catalog.require_restrict domain.catalog visible
  have declared {β : Type} (next : TypeDescriptor → List BoundField → Building β) :
      (liftM (domain.catalog.require source) >>= fun type =>
        ((domain.restrict shown).declaredFields type .interface).build >>= next type) =
      (liftM (domain.catalog.require source) >>= fun type =>
        (domain.declaredFields type .interface).build >>= next type) := by
    refine liftM_bind_congr fun type found => ?_
    have present := Catalog.mem_restrict_of_lookup visible (require_ok.1 found)
    rw [declaredFields_restrict confined present]
  unfold defineResolvedInterface
  simp only [known, declared]

theorem addResolver_restrict {resolver : Resolver}
    (visible : ∀ key ∈ resolver.mentions, shown key) :
    (domain.restrict shown).addResolver resolver = domain.addResolver resolver := by
  unfold addResolver
  rw [resolverTarget_restrict confined visible, contributedFields_restrict confined visible]
  refine bind_congr fun (name, kind) => bind_congr fun fields => ?_
  cases role : resolver.role.source? with
  | none => cases kind <;> rfl
  | some source =>
    have own : shown source := visible source (by simp [Resolver.mentions, role])
    have known : (domain.restrict shown).catalog.require source = domain.catalog.require source :=
      Catalog.require_restrict domain.catalog own
    cases kind with
    | interface => simp only [defineResolvedInterface_restrict confined own]
    | _ => simp only [known]

theorem defineDiscovered_restrict {entry : DiscoveredType} (visible : shown entry.source) :
    (domain.restrict shown).defineDiscovered entry = domain.defineDiscovered entry := by
  unfold defineDiscovered
  have known : (domain.restrict shown).catalog.require entry.source =
      domain.catalog.require entry.source := Catalog.require_restrict domain.catalog visible
  rw [known]
  refine liftM_bind_congr fun type found => ?_
  have present := Catalog.mem_restrict_of_lookup visible (require_ok.1 found)
  simp only [declaredFields_restrict confined present, inputValues_restrict confined _ present]

theorem drain_restrict (limit : Nat) {start : Discovery}
    (occurs : (domain.restrict shown).Occurs start.registry) :
    (((domain.restrict shown).drain limit).run.run start).run =
      ((domain.drain limit).run.run start).run := by
  induction limit generalizing start with
  | zero => rfl
  | succ limit ih =>
    rw [drain_succ, drain_succ]
    cases popped : start.registry.pop? with
    | none => rfl
    | some next =>
      obtain ⟨entry, opened⟩ := next
      obtain ⟨type, present, -⟩ : (domain.restrict shown).Sourced entry := by
        obtain ⟨rest, pending, found, rfl⟩ := Registry.pop_some popped
        exact occurs.sourced entry (Registry.find_mem found)
      have visible : shown entry.source := by
        rw [← Catalog.key_of_lookup present]
        exact Catalog.shown_of_mem_restrict (Catalog.mem_of_lookup present)
      dsimp only
      have steps : ((domain.restrict shown).defineDiscovered entry).Operational
          (domain.restrict shown) := operational_defineDiscovered entry
      -- The registry stays one that a build in the smaller catalog comes to.
      have path := steps.operates { start with registry := opened }
      rw [defineDiscovered_restrict confined visible] at path ⊢
      rcases defined : ((domain.defineDiscovered entry).run.run
        { start with registry := opened }).run with ⟨e | definition, between⟩
      · rw [run_bind_of_fails defined, run_bind_of_fails defined]
      · rw [run_bind_of_gives defined, run_bind_of_gives defined, bind_pure_comp, bind_pure_comp,
          run_map, run_map]
        rw [defined] at path
        rw [ih ((occurs.tail (.pop popped)).trans path)]

end

theorem Drains.unique {start left right : Discovery}
    {first second : Except SchemaError (List Definition)} (drains : domain.Drains start first left)
    (other : domain.Drains start second right) : first = second ∧ left = right := by
  induction drains generalizing second right with
  | empty idle =>
    cases other with
    | empty => exact ⟨rfl, rfl⟩
    | fails popped => cases idle.symm.trans popped
    | takes popped => cases idle.symm.trans popped
  | fails popped failed =>
    cases other with
    | empty idle => cases idle.symm.trans popped
    | fails again failed' =>
      cases popped.symm.trans again
      cases failed.symm.trans failed'
      exact ⟨rfl, rfl⟩
    | takes again defined =>
      cases popped.symm.trans again
      cases failed.symm.trans defined
  | takes popped defined rest ih =>
    cases other with
    | empty idle => cases idle.symm.trans popped
    | fails again failed =>
      cases popped.symm.trans again
      cases failed.symm.trans defined
    | takes again defined' rest' =>
      cases popped.symm.trans again
      cases defined.symm.trans defined'
      obtain ⟨rfl, rfl⟩ := ih rest'
      exact ⟨rfl, rfl⟩

theorem length_possibleNames (catalog : Catalog) :
    catalog.possibleNames.length = 4 * catalog.types.length := by
  simp [Catalog.possibleNames, List.length_flatMap, Nat.mul_comm]

variable (confined : domain.catalog.Confined shown)

include confined

theorem defineQueued_restrict {start : Discovery}
    (occurs : (domain.restrict shown).Occurs start.registry) :
    ((domain.restrict shown).defineQueued.run.run start).run =
      (domain.defineQueued.run.run start).run := by
  unfold defineQueued
  have fewer : (domain.restrict shown).catalog.possibleNames.length ≤
      domain.catalog.possibleNames.length := by
    rw [length_possibleNames, length_possibleNames]
    exact Nat.mul_le_mul_left 4 (List.length_filter_le _ _)
  have short := drain_drains occurs
    (Nat.le_add_left (domain.restrict shown).catalog.possibleNames.length _)
  have long := drain_drains occurs
    (Nat.le_trans fewer (Nat.le_add_left domain.catalog.possibleNames.length _))
  rw [← drain_restrict confined _ occurs]
  exact Prod.ext_iff.2 (short.unique long)

theorem emitAll_restrict {resolvers : List Resolver}
    (visible : ∀ resolver ∈ resolvers, ∀ key ∈ resolver.mentions, shown key) :
    (((domain.restrict shown).emitAll resolvers).run.run {}).run =
      ((domain.emitAll resolvers).run.run {}).run := by
  unfold emitAll
  have added := mapM_congr fun resolver member =>
    addResolver_restrict confined (visible resolver member)
  have steps : ∀ resolver, ((domain.restrict shown).addResolver resolver).Operational
      (domain.restrict shown) := operational_addResolver
  have path := (Building.Operational.mapM steps resolvers).operates {}
  rw [added] at path ⊢
  rcases resolved : ((resolvers.mapM domain.addResolver).run.run {}).run with ⟨e | definitions, between⟩
  · rw [run_bind_of_fails resolved, run_bind_of_fails resolved]
  · rw [run_bind_of_gives resolved, run_bind_of_gives resolved, bind_pure_comp, bind_pure_comp,
      run_map, run_map]
    rw [resolved] at path
    rw [defineQueued_restrict confined path]

theorem build_restrict {resolvers : List Resolver}
    (visible : ∀ resolver ∈ resolvers, ∀ key ∈ resolver.mentions, shown key) :
    (domain.restrict shown).build resolvers = domain.build resolvers := by
  have emitted : ExceptT.run ((domain.restrict shown).emitAll resolvers) {} =
      ExceptT.run (domain.emitAll resolvers) {} := emitAll_restrict confined visible
  unfold build
  rw [emitted]
  rfl

end SchemaDiscovery.Domain
