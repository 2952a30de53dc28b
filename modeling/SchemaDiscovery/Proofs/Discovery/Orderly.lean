import SchemaDiscovery.Proofs.Outcome
import SchemaDiscovery.Proofs.Discovery.Agenda
import Mathlib.Data.List.Forall2
/-!
Steps of discovery. Main statement: the steps that make fields and input values touch the registry
only by discovering types, and leave it tidy when they succeed.
-/

namespace SchemaDiscovery

/-- The step changes the registry by discovery alone, and leaves nothing open when it succeeds. -/
structure Discovering.Orderly {α : Type} (domain : Domain) (step : Discovering α) : Prop where
  reaches : ∀ before, domain.Reaches before (step.run.run before).run.2
  settles : ∀ before value after, Gives step before value after →
    domain.Tidy before → domain.Tidy after

namespace Discovering.Orderly

variable {α β : Type} {domain : Domain}

theorem pure (value : α) : Orderly domain (Pure.pure value : Discovering α) where
  reaches := fun _ => .refl
  settles := by
    intro before result after given tidy
    obtain ⟨-, rfl⟩ := gives_pure.1 given
    exact tidy

theorem throw (e : SchemaError) : Orderly domain (MonadExcept.throw e : Discovering α) where
  reaches := fun _ => .refl
  settles := fun _ _ _ given => (gives_throw.1 given).elim

theorem liftM (outcome : Except SchemaError α) :
    Orderly domain (MonadLiftT.monadLift outcome : Discovering α) where
  reaches := fun _ => .refl
  settles := by
    intro before result after given tidy
    obtain ⟨-, rfl⟩ := gives_liftM.1 given
    exact tidy

theorem bind {step : Discovering α} {next : α → Discovering β} (first : Orderly domain step)
    (second : ∀ value, Orderly domain (next value)) : Orderly domain (step >>= next) where
  reaches := by
    intro before
    have start := first.reaches before
    simp only [ExceptT.run_bind, StateT.run_bind, Id.run_bind]
    generalize (step.run.run before).run = outcome at start
    rcases outcome with ⟨e | value, between⟩
    · exact start
    · exact start.trans ((second value).reaches between)
  settles := by
    intro before result after given tidy
    obtain ⟨value, between, here, there⟩ := gives_bind.1 given
    exact (second value).settles _ _ _ there (first.settles _ _ _ here tidy)

theorem mapM {step : α → Discovering β} (each : ∀ item, Orderly domain (step item))
    (items : List α) : Orderly domain (items.mapM step) := by
  induction items with
  | nil =>
    rw [List.mapM_nil]
    exact .pure []
  | cons item items ih =>
    rw [List.mapM_cons]
    exact .bind (each item) fun _ => .bind ih fun _ => .pure _

theorem reaches_of_gives {step : Discovering α} (orderly : Orderly domain step)
    {before after : Registry} {value : α} (given : Gives step before value after) :
    domain.Reaches before after := by
  have reached := orderly.reaches before
  unfold Gives at given
  rwa [given] at reached

theorem forall_of_gives_mapM {step : α → Discovering β}
    (each : ∀ item, Orderly domain (step item)) {items : List α} {values : List β}
    {before after : Registry} (given : Gives (items.mapM step) before values after) :
    List.Forall₂ (fun item value => ∃ start finish, Gives (step item) start value finish ∧
      domain.Reaches finish after) items values := by
  induction items generalizing before values with
  | nil =>
    rw [List.mapM_nil] at given
    obtain ⟨rfl, -⟩ := gives_pure.1 given
    exact .nil
  | cons item items ih =>
    rw [List.mapM_cons] at given
    simp only [gives_bind, gives_pure] at given
    obtain ⟨value, between, here, rest, last, there, rfl, rfl⟩ := given
    exact .cons ⟨before, between, here, (mapM each items).reaches_of_gives there⟩ (ih there)

theorem item_of_gives_mapM {step : α → Discovering β}
    (each : ∀ item, Orderly domain (step item)) {items : List α} {values : List β}
    {before after : Registry} (given : Gives (items.mapM step) before values after) {value : β}
    (member : value ∈ values) : ∃ item ∈ items, ∃ start finish,
      Gives (step item) start value finish ∧ domain.Reaches finish after := by
  have made := forall_of_gives_mapM each given
  clear given
  induction made with
  | nil => cases member
  | cons here rest ih =>
    rcases List.mem_cons.1 member with rfl | member
    · exact ⟨_, List.mem_cons_self, here⟩
    · obtain ⟨item, present, made⟩ := ih member
      exact ⟨item, List.mem_cons_of_mem _ present, made⟩

end Discovering.Orderly

theorem Direction.kind_ne_interface (direction : Direction) : direction.kind ≠ .interface := by
  cases direction <;> exact nofun

namespace Domain

variable {domain : Domain}

theorem gives_reference {type : TypeDescriptor} {direction : Direction} {before after : Registry}
    {result : TypeRef} (given : Gives (domain.reference type direction) before result after) :
    ∃ name, domain.discover before type.key direction.kind = (.ok name, after) ∧
      result = .nullable name := by
  rw [reference, gives_mk] at given
  rcases found : domain.discover before type.key direction.kind with ⟨_ | name, reached⟩
  · simp only [StateT.run, found] at given
    cases given
  · simp only [StateT.run, found] at given
    cases given
    exact ⟨name, rfl, rfl⟩

theorem orderly_reference (type : TypeDescriptor) (direction : Direction) :
    (domain.reference type direction).Orderly domain where
  reaches := fun before => domain.discover_reaches before type.key direction.kind_ne_interface
  settles := by
    intro before value after given tidy
    obtain ⟨name, discovered, -⟩ := gives_reference given
    exact (discover_ok discovered).2 tidy

theorem orderly_typeRef (direction : Direction) (context : String) (nonNull : Bool)
    (use : TypeUse) : (domain.typeRef direction context nonNull use).Orderly domain := by
  fun_induction domain.typeRef direction context nonNull use with
  | case1 | case8 | case9 | case10 => exact .throw _
  | case2 | case3 => exact .pure _
  | case4 | case5 => exact .bind (orderly_reference _ _) fun _ => .pure _
  | case6 _ _ _ _ _ _ ih => exact .bind ih fun _ => .pure _
  | case7 _ _ _ _ _ ih => exact ih

theorem orderly_fieldType (context : String) (nonNull : Bool) (use : TypeUse) :
    (domain.fieldType context nonNull use).Orderly domain :=
  .bind (.liftM _) fun _ => .bind (.liftM _) fun _ => .bind (orderly_typeRef ..) fun _ => .pure _

theorem orderly_inputValue (name context : String) (metadata : Metadata) (use : TypeUse) :
    (domain.inputValue name context metadata use).Orderly domain :=
  .bind (orderly_typeRef ..) fun _ => .bind (.liftM _) fun _ => .pure _

theorem orderly_argument (context : String) (param : Parameter) :
    (domain.argument context param).Orderly domain :=
  orderly_inputValue ..

theorem orderly_field (storage : Storage) (source : String) (skipFirst : Bool) (method : Method) :
    (domain.field? storage source skipFirst method).Orderly domain := by
  dsimp only [field?]
  split
  · exact .bind (orderly_fieldType ..) fun _ =>
      .bind (.mapM (orderly_argument _) _) fun _ => .pure _
  · exact .pure _

theorem orderly_fields (storage : Storage) (skipFirst : Bool) (methods : List (String × Method)) :
    (domain.fields storage skipFirst methods).Orderly domain :=
  .bind (.mapM (fun _ => orderly_field ..) _) fun _ => .pure _

theorem orderly_declaredFields (type : TypeDescriptor) (kind : TypeKind) :
    (domain.declaredFields type kind).Orderly domain :=
  orderly_fields ..

theorem orderly_contributedFields (resolver : Resolver) :
    (domain.contributedFields resolver).Orderly domain :=
  orderly_fields ..

theorem orderly_inputValues (name : String) (type : TypeDescriptor) :
    (domain.inputValues name type).Orderly domain := by
  refine .bind (.mapM (fun _ => orderly_inputValue ..) _) fun _ => ?_
  split
  · exact .throw _
  · exact .pure _

end Domain

end SchemaDiscovery
