import SchemaDiscovery.Proofs.Build.Completion
import Mathlib.Data.Finset.Card
import Mathlib.Data.Finset.Dedup
import Mathlib.Logic.Relation
/-!
The registries that occur during a build. Main statements: a build changes its registry one operation
at a time, whether it succeeds or fails, and at each moment no more names are recorded than the catalog
can give out.
-/

namespace SchemaDiscovery

namespace Domain

variable {domain : Domain} {registry before after : Registry}

/-- The operations of a build on its registry. -/
inductive Operates (domain : Domain) : Registry → Registry → Prop
  | register {before after : Registry} {key : TypeKey} {requested : TypeKind}
    {implements : Option String} {finding : Finding} {registration : Registration}
    (examined : domain.examine key requested implements = .ok finding)
    (registered : before.register finding.entry = .ok (registration, after)) :
    Operates domain before after
  | enqueue {registry : Registry} (name : String) :
    Operates domain registry (registry.enqueue name)
  | pop {before after : Registry} {entry : DiscoveredType}
    (popped : before.pop? = some (entry, after)) : Operates domain before after

theorem Operates.grows (operates : domain.Operates before after) : before.Grows after := by
  cases operates with
  | register examined registered => exact Registry.grows_register registered
  | enqueue name => exact Registry.grows_enqueue _ name
  | pop popped => exact Registry.grows_pop popped

/-- The registry is that of some moment: operations lead to it from the empty one. -/
def Occurs (domain : Domain) (registry : Registry) : Prop :=
  Relation.ReflTransGen domain.Operates .empty registry

theorem Reaches.operates (reaches : domain.Reaches before after) :
    Relation.ReflTransGen domain.Operates before after := by
  induction reaches with
  | refl => exact .refl
  | register _ examined registered _ ih => exact .head (.register examined registered) ih
  | enqueue name _ ih => exact .head (.enqueue name) ih

theorem Occurs.sound (occurs : domain.Occurs registry) : registry.Sound := by
  induction occurs with
  | refl => exact Registry.sound_empty
  | tail _ operates ih =>
    cases operates with
    | register examined registered => exact Registry.sound_register registered ih
    | enqueue name => exact Registry.sound_enqueue ih name
    | pop popped => exact Registry.sound_pop popped ih

theorem Occurs.sourced (occurs : domain.Occurs registry) :
    ∀ entry ∈ registry.entries, domain.Sourced entry := by
  induction occurs with
  | refl => exact nofun
  | tail _ operates ih =>
    cases operates with
    | register examined registered =>
      exact sourced_register registered (sourced_of_examine examined) ih
    | enqueue name =>
      rw [Registry.entries_enqueue]
      exact ih
    | pop popped =>
      rw [Registry.entries_pop popped]
      exact ih

theorem Occurs.names_subset (occurs : domain.Occurs registry) :
    registry.entries.map (·.name) ⊆ domain.catalog.possibleNames := by
  intro name member
  obtain ⟨entry, present, rfl⟩ := List.mem_map.1 member
  obtain ⟨type, known, -, named⟩ := occurs.sourced entry present
  rw [← named]
  exact Catalog.schemaName_mem_possibleNames (Catalog.mem_of_lookup known) entry.kind

theorem Occurs.size_le (occurs : domain.Occurs registry) :
    registry.size ≤ domain.catalog.possibleNames.toFinset.card := by
  have distinct := List.toFinset_card_of_nodup occurs.sound.entries
  rw [List.length_map] at distinct
  rw [Registry.size, ← distinct]
  refine Finset.card_le_card fun name member => ?_
  rw [List.mem_toFinset] at member ⊢
  exact occurs.names_subset member

theorem Occurs.handled_length_le (occurs : domain.Occurs registry) :
    registry.handled.length ≤ registry.size := by
  have names : registry.size = (registry.entries.map (·.name)).length := by
    rw [List.length_map, Registry.size]
  rw [names]
  refine (List.subperm_of_subset occurs.sound.handled fun name member => ?_).length_le
  obtain ⟨entry, found⟩ := Option.isSome_iff_exists.1 (occurs.sound.recorded name member)
  rw [← Registry.find_some_name found]
  exact List.mem_map_of_mem (Registry.find_mem found)

end Domain

/-- The step changes the registry by operations of a build, even when it fails. -/
structure Building.Operational {α : Type} (domain : Domain) (step : Building α) : Prop where
  operates : ∀ start, Relation.ReflTransGen domain.Operates start.registry
    (step.run.run start).run.2.registry

namespace Building.Operational

variable {α β : Type} {domain : Domain}

theorem of_registry {step : Building α}
    (kept : ∀ start, (step.run.run start).run.2.registry = start.registry) :
    Operational domain step where
  operates := by
    intro start
    rw [kept start]

theorem pure (value : α) : Operational domain (Pure.pure value : Building α) :=
  of_registry fun _ => rfl

theorem throw (e : SchemaError) : Operational domain (MonadExcept.throw e : Building α) :=
  of_registry fun _ => rfl

theorem liftM (outcome : Except SchemaError α) :
    Operational domain (MonadLiftT.monadLift outcome : Building α) :=
  of_registry fun _ => rfl

theorem of_modify {change : Discovery → Discovery}
    (kept : ∀ start, (change start).registry = start.registry) :
    Operational domain (modify change : Building PUnit) :=
  of_registry kept

theorem get_bind {next : Discovery → Building α}
    (each : ∀ start, Relation.ReflTransGen domain.Operates start.registry
      ((next start).run.run start).run.2.registry) :
    Operational domain (MonadState.get >>= next) where
  operates := each

theorem build {step : Discovering α} (orderly : step.Orderly domain) :
    Operational domain step.build where
  operates := fun start => (orderly.reaches start.registry).operates

theorem bind {step : Building α} {next : α → Building β} (first : Operational domain step)
    (second : ∀ value, Operational domain (next value)) : Operational domain (step >>= next) where
  operates := by
    intro start
    have path := first.operates start
    simp only [ExceptT.run_bind, StateT.run_bind, Id.run_bind]
    generalize (step.run.run start).run = outcome at path
    rcases outcome with ⟨e | value, between⟩
    · exact path
    · exact path.trans ((second value).operates between)

theorem map {step : Building α} (change : α → β) (first : Operational domain step) :
    Operational domain (change <$> step) := by
  rw [← bind_pure_comp]
  exact first.bind fun _ => .pure _

theorem mapM {step : α → Building β} (each : ∀ item, Operational domain (step item))
    (items : List α) : Operational domain (items.mapM step) := by
  induction items with
  | nil =>
    rw [List.mapM_nil]
    exact .pure []
  | cons item items ih =>
    rw [List.mapM_cons]
    exact .bind (each item) fun _ => .bind ih fun _ => .pure _

end Building.Operational

namespace Domain

variable {domain : Domain}

theorem operational_defineObject (name : String) (type : Option TypeDescriptor)
    (implements : Option String) (fields : List BoundField) :
    (defineObject name type implements fields).Operational domain := by
  refine .of_registry fun start => ?_
  rcases defined : start.defineObject name type implements fields with ⟨definition, finish⟩
  show (start.defineObject name type implements fields).2.registry = _
  rw [defined]
  exact Discovery.defineObject_registry defined

theorem operational_defineInterface (name : String) (type : TypeDescriptor)
    (fields : List BoundField) : (defineInterface name type fields).Operational domain := by
  refine .get_bind fun start => ?_
  generalize defined : start.defineInterface name type fields = outcome
  rcases outcome with e | ⟨definition, finish⟩
  · exact .refl
  · obtain ⟨-, -, rfl⟩ := Discovery.defineInterface_ok defined
    exact .refl

theorem operational_defineResolvedInterface (name : String) (source : TypeKey)
    (resolver : Resolver) (extras : List BoundField) :
    (domain.defineResolvedInterface name source resolver extras).Operational domain := by
  refine .get_bind fun start => ?_
  dsimp only
  split
  · exact (Building.Operational.throw _).operates start
  · refine Building.Operational.operates ?_ start
    refine .bind (.of_modify fun _ => rfl) fun _ => .bind (.liftM _) fun type => ?_
    refine .bind (.build (orderly_declaredFields type .interface)) fun own => ?_
    exact .bind (.of_modify fun _ => rfl) fun _ => operational_defineInterface ..

theorem operational_resolverTarget (resolver : Resolver) :
    (domain.resolverTarget resolver).Operational domain := by
  unfold resolverTarget
  cases resolver.role with
  | query => exact .pure _
  | mutation => exact .pure _
  | subscription => exact .pure _
  | extension source =>
    refine .bind ⟨fun start => ?_⟩ fun name => .get_bind fun start => ?_
    · have reaches : domain.Reaches start.registry
          (domain.discover start.registry source .object).2 := discover_reaches _ source nofun
      exact reaches.operates
    · dsimp only
      split
      · exact (Building.Operational.pure _).operates start
      · exact (Building.Operational.throw _).operates start

theorem operational_addResolver (resolver : Resolver) :
    (domain.addResolver resolver).Operational domain := by
  refine .bind (operational_resolverTarget resolver) fun target =>
    .bind (.build (orderly_contributedFields resolver)) fun fields => ?_
  have adds (name : String) (type : Option TypeDescriptor) : Building.Operational domain (do
      let implements := ((← get).registry.find? name).bind (·.implements)
      return (← defineObject name type implements fields).toList) := by
    refine .get_bind fun start => Building.Operational.operates ?_ start
    exact .bind (operational_defineObject ..) fun _ => .pure _
  dsimp only
  split
  · exact .bind (operational_defineResolvedInterface ..) fun _ => .pure _
  · split
    · exact .bind (.map _ (.liftM _)) fun _ => adds ..
    · exact .bind (.pure _) fun _ => adds ..

theorem operational_defineDiscovered (entry : DiscoveredType) :
    (domain.defineDiscovered entry).Operational domain := by
  refine .bind (.liftM _) fun type => ?_
  cases entry.kind with
  | object =>
    refine .bind (.build (orderly_declaredFields type .object)) fun own => .get_bind fun start => ?_
    exact (operational_defineObject ..).operates start
  | interface =>
    refine .get_bind fun start => ?_
    split
    · exact (Building.Operational.pure _).operates start
    · refine Building.Operational.operates ?_ start
      refine .bind (.build (orderly_declaredFields type .interface)) fun own => ?_
      exact .bind (operational_defineInterface ..) fun _ => .pure _
  | input => exact .bind (.build (orderly_inputValues _ _)) fun _ => .pure _
  | enum => exact .pure _

theorem operational_drain (limit : Nat) : (domain.drain limit).Operational domain := by
  induction limit with
  | zero => exact .pure _
  | succ limit ih =>
    refine .get_bind fun start => ?_
    split
    · exact .refl
    · next entry opened popped =>
      have rest : Building.Operational domain (do
          let definition ← domain.defineDiscovered entry
          return definition.toList ++ (← domain.drain limit)) :=
        .bind (operational_defineDiscovered entry) fun _ => .bind ih fun _ => .pure _
      exact .head (.pop popped) (rest.operates { start with registry := opened })

end Domain

end SchemaDiscovery
