import SchemaDiscovery.Proofs.Build.Emission
import SchemaDiscovery.Proofs.Build.Step
import SchemaDiscovery.Proofs.Discovery.Links
import Mathlib.Data.List.Perm.Subperm
/-!
The registry over a whole build. Main statement: a build that succeeds is a run of steps from the
empty discovery, and at its end every recorded type has been taken from the queue and all that it
called for is recorded too.
-/

namespace SchemaDiscovery

/-- The registry that a turn of the build starts to work with. -/
def Turn.Opens : Turn → Registry → Registry → Prop
  | .resolver _, before, opened => opened = before
  | .entry popped, before, opened => before.pop? = some (popped, opened)

namespace Domain

variable {domain : Domain} {turn : Turn} {start finish : Discovery}
  {definitions : List Definition}

/-- What a build keeps true of its registry between its steps. -/
structure Consistent (domain : Domain) (registry : Registry) : Prop where
  sound : registry.Sound
  sourced : ∀ entry ∈ registry.entries, domain.Sourced entry
  settled : domain.Settled registry
  linked : ∀ entry ∈ registry.entries, domain.Linked registry entry

theorem consistent_empty : domain.Consistent .empty where
  sound := Registry.sound_empty
  sourced := nofun
  settled := nofun
  linked := nofun

theorem Consistent.pop {before after : Registry} {entry : DiscoveredType}
    (consistent : domain.Consistent before) (popped : before.pop? = some (entry, after)) :
    domain.Consistent after := by
  have entries := Registry.entries_pop popped
  have grows := Registry.grows_pop popped
  refine ⟨Registry.sound_pop popped consistent.sound, ?_, ?_, ?_⟩
  · rw [entries]
    exact consistent.sourced
  · intro other member errand due
    rw [entries] at member
    exact done_of_grows (consistent.settled other member errand due) grows
  · intro other member
    rw [entries] at member
    exact (consistent.linked other member).of_grows grows

theorem Step.opens (step : domain.Step turn start definitions finish) :
    ∃ opened, turn.Opens start.registry opened ∧ domain.Reaches opened finish.registry ∧
      (domain.Tidy opened → domain.Tidy finish.registry) := by
  cases step with
  | root role contributed defined =>
    rw [Discovery.defineObject_registry defined]
    exact ⟨_, rfl, (orderly_contributedFields _).reaches_of_gives contributed,
      (orderly_contributedFields _).settles _ _ _ contributed⟩
  | extension role discovered kind contributed present defined =>
    rw [Discovery.defineObject_registry defined]
    refine ⟨_, rfl, ?_, fun tidy => ?_⟩
    · exact (reaches_of_discover discovered nofun).trans
        ((orderly_contributedFields _).reaches_of_gives contributed)
    · exact (orderly_contributedFields _).settles _ _ _ contributed
        ((discover_ok discovered).2 tidy)
  | resolvedInterface role discovered kind contributed first present declared defined =>
    obtain ⟨-, -, rfl⟩ := Discovery.defineInterface_ok defined
    refine ⟨_, rfl, ?_, fun tidy => ?_⟩
    · exact ((reaches_of_discover discovered nofun).trans
        ((orderly_contributedFields _).reaches_of_gives contributed)).trans
        ((orderly_declaredFields _ _).reaches_of_gives declared)
    · exact (orderly_declaredFields _ _).settles _ _ _ declared
        ((orderly_contributedFields _).settles _ _ _ contributed
          ((discover_ok discovered).2 tidy))
  | object popped kind present declared defined =>
    rw [Discovery.defineObject_registry defined]
    exact ⟨_, popped, (orderly_declaredFields _ _).reaches_of_gives declared,
      (orderly_declaredFields _ _).settles _ _ _ declared⟩
  | interface popped kind present declared defined =>
    obtain ⟨-, -, rfl⟩ := Discovery.defineInterface_ok defined
    exact ⟨_, popped, (orderly_declaredFields _ _).reaches_of_gives declared,
      (orderly_declaredFields _ _).settles _ _ _ declared⟩
  | builtInterface popped kind built resolved => exact ⟨_, popped, .refl, id⟩
  | input popped kind present given =>
    exact ⟨_, popped, (orderly_inputValues _ _).reaches_of_gives given,
      (orderly_inputValues _ _).settles _ _ _ given⟩
  | enum popped kind present => exact ⟨_, popped, .refl, id⟩

theorem Step.grows (step : domain.Step turn start definitions finish) :
    start.registry.Grows finish.registry := by
  obtain ⟨opened, opens, reaches, -⟩ := step.opens
  cases turn with
  | resolver resolver =>
    obtain rfl : opened = start.registry := opens
    exact reaches.grows
  | entry entry => exact (Registry.grows_pop opens).trans reaches.grows

theorem Step.consistent (step : domain.Step turn start definitions finish)
    (consistent : domain.Consistent start.registry) : domain.Consistent finish.registry := by
  obtain ⟨opened, opens, reaches, settles⟩ := step.opens
  have ready : domain.Consistent opened := by
    cases turn with
    | resolver resolver =>
      obtain rfl : opened = start.registry := opens
      exact consistent
    | entry entry => exact consistent.pop opens
  obtain ⟨sound, settled⟩ := settles ⟨ready.sound, ready.settled⟩
  exact ⟨sound, reaches.sourced ready.sourced, settled, reaches.linked ready.linked⟩

theorem Step.emitted_resolver {resolver : Resolver}
    (step : domain.Step (.resolver resolver) start definitions finish) :
    finish.registry.emitted = start.registry.emitted := by
  obtain ⟨opened, opens, reaches, -⟩ := step.opens
  obtain rfl : opened = start.registry := opens
  exact reaches.emitted

theorem Step.emitted_entry {entry : DiscoveredType}
    (step : domain.Step (.entry entry) start definitions finish) :
    finish.registry.emitted = entry.name :: start.registry.emitted ∧
      finish.registry.kindOf? entry.name = some entry.kind := by
  obtain ⟨opened, opens, reaches, -⟩ := step.opens
  have recorded := reaches.grows.kindOf (Registry.kindOf_of_pop opens)
  obtain ⟨rest, -, -, rfl⟩ := Registry.pop_some opens
  exact ⟨reaches.emitted, recorded⟩

theorem Run.consistent {turns : List Turn} (run : domain.Run turns start definitions finish)
    (consistent : domain.Consistent start.registry) : domain.Consistent finish.registry := by
  induction run with
  | nil => exact consistent
  | cons step _ ih => exact ih (step.consistent consistent)

theorem Run.grows {turns : List Turn} (run : domain.Run turns start definitions finish) :
    start.registry.Grows finish.registry := by
  induction run with
  | nil => exact .refl _
  | cons step _ ih => exact step.grows.trans ih

theorem Consistent.handled_length_le {registry : Registry}
    (consistent : domain.Consistent registry) :
    registry.handled.length ≤ domain.catalog.possibleNames.length := by
  refine (List.subperm_of_subset consistent.sound.handled ?_).length_le
  intro name member
  obtain ⟨entry, found⟩ := Option.isSome_iff_exists.1 (consistent.sound.recorded name member)
  obtain ⟨type, present, -, named⟩ := consistent.sourced entry (Registry.find_mem found)
  rw [← Registry.find_some_name found, ← named]
  exact Catalog.schemaName_mem_possibleNames (Catalog.mem_of_lookup present) entry.kind

theorem drain_ok {limit : Nat} (consistent : domain.Consistent start.registry)
    (given : Gives (domain.drain limit) start definitions finish) :
    ∃ entries : List DiscoveredType, domain.Run (entries.map Turn.entry) start definitions finish ∧
      (finish.registry.pending = [] ∨
        finish.registry.emitted.length = start.registry.emitted.length + limit) := by
  induction limit generalizing start definitions with
  | zero =>
    simp only [drain, gives_pure] at given
    obtain ⟨rfl, rfl⟩ := given
    exact ⟨[], .nil, .inr rfl⟩
  | succ limit ih =>
    simp only [drain, gives_bind, gives_get] at given
    obtain ⟨_, _, ⟨rfl, rfl⟩, taken⟩ := given
    split at taken
    · next stuck =>
      obtain ⟨rfl, rfl⟩ := gives_pure.1 taken
      exact ⟨[], .nil, .inl (Registry.pop_none consistent.sound stuck)⟩
    · next entry opened popped =>
      simp only [gives_bind, gives_modify, gives_pure] at taken
      obtain ⟨_, _, rfl, definition, between, defined, later, _, drained, rfl, rfl⟩ := taken
      have step := step_of_defineDiscovered popped defined
      obtain ⟨entries, run, ended⟩ := ih (step.consistent consistent) drained
      refine ⟨entry :: entries, .cons step run, ended.imp_right fun length => ?_⟩
      have counted := congrArg List.length step.emitted_entry.1
      rw [List.length_cons] at counted
      omega

/-- The queue runs empty before the limit does: no more names are emitted than the catalog has. -/
theorem defineQueued_ok (consistent : domain.Consistent start.registry)
    (given : Gives domain.defineQueued start definitions finish) :
    ∃ entries : List DiscoveredType, domain.Run (entries.map Turn.entry) start definitions finish ∧
      finish.registry.pending = [] := by
  obtain ⟨entries, run, ended⟩ := drain_ok consistent given
  refine ⟨entries, run, ended.elim id fun length => ?_⟩
  have bound := (run.consistent consistent).handled_length_le
  rw [Registry.handled, List.length_append] at bound
  exact List.length_eq_zero_iff.1 (by omega)

theorem mapM_addResolver_ok {resolvers : List Resolver} {emitted : List (List Definition)}
    (given : Gives (resolvers.mapM domain.addResolver) start emitted finish) :
    domain.Run (resolvers.map Turn.resolver) start emitted.flatten finish := by
  induction resolvers generalizing start emitted with
  | nil =>
    rw [List.mapM_nil] at given
    obtain ⟨rfl, rfl⟩ := gives_pure.1 given
    exact .nil
  | cons resolver resolvers ih =>
    rw [List.mapM_cons] at given
    simp only [gives_bind, gives_pure] at given
    obtain ⟨first, between, added, later, _, rest, rfl, rfl⟩ := given
    exact .cons (step_of_addResolver added) (ih rest)

def finalDiscovery (domain : Domain) (resolvers : List Resolver) : Discovery :=
  ((domain.emitAll resolvers).run.run {}).run.2

/-- A successful build: the turns it took, and what it emitted on the way. -/
structure Built (domain : Domain) (resolvers : List Resolver) (schema : Schema) : Prop where
  run : ∃ (entries : List DiscoveredType) (definitions : List Definition),
    domain.Run (resolvers.map Turn.resolver ++ entries.map Turn.entry) {} definitions
      (domain.finalDiscovery resolvers) ∧
    schema = (domain.finalDiscovery resolvers).finish
      (domain.directiveDefinitions ++ domain.scalarDeclarations ++ definitions)
  consistent : domain.Consistent (domain.finalDiscovery resolvers).registry
  drained : (domain.finalDiscovery resolvers).registry.pending = []

theorem gives_of_build {resolvers : List Resolver} {schema : Schema}
    (built : domain.build resolvers = .ok schema) : ∃ definitions,
      Gives (domain.emitAll resolvers) {} definitions (domain.finalDiscovery resolvers) ∧
      schema = (domain.finalDiscovery resolvers).finish
        (domain.directiveDefinitions ++ domain.scalarDeclarations ++ definitions) := by
  unfold build at built
  cases objection : domain.config.objection? with
  | some objection' =>
    simp only [objection] at built
    cases built
  | none =>
    simp only [objection] at built
    rcases ran : ExceptT.run (domain.emitAll resolvers) {} with ⟨e | definitions, discovery⟩
    · rw [ran] at built
      cases built
    · rw [ran] at built
      cases built
      have last : domain.finalDiscovery resolvers = discovery := congrArg Prod.snd ran
      rw [last]
      exact ⟨definitions, ran, rfl⟩

theorem built_of_build {resolvers : List Resolver} {schema : Schema}
    (built : domain.build resolvers = .ok schema) : domain.Built resolvers schema := by
  obtain ⟨definitions, given, rfl⟩ := gives_of_build built
  simp only [emitAll, gives_bind, gives_pure] at given
  obtain ⟨resolved, between, added, queued, _, drained, rfl, same⟩ := given
  have first := mapM_addResolver_ok added
  obtain ⟨entries, rest, empty⟩ := defineQueued_ok (first.consistent consistent_empty) drained
  rw [← same] at rest empty
  have whole := first.append rest
  exact ⟨⟨entries, _, whole, rfl⟩, whole.consistent consistent_empty, empty⟩

theorem build_observed {resolvers : List Resolver} {α : Type} {look : Schema → α} {seen : α}
    (observed : (domain.build resolvers).toOption.map look = some seen) :
    ∃ schema, domain.build resolvers = .ok schema ∧ look schema = seen :=
  ok_of_observed observed

end Domain

end SchemaDiscovery
