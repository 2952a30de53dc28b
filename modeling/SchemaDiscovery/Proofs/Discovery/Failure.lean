import SchemaDiscovery.Proofs.Failure
/-!
Why discovery fails. Main statement: the steps that make fields and input values fail over types and
default values only, and never over what was emitted before.
-/

namespace SchemaDiscovery

/-- An error over a type or a default value, as against one over the parts of a build, over a
document or of a holder. -/
def SchemaError.concernsTypes : SchemaError → Bool
  | .duplicateInterface _ => false
  | .conflictingInterfaceResolvers _ _ _ => false
  | .invalidResolver _ _ _ => false
  | .manifest _ => false
  | .config _ => false
  | .initializing => false
  | .buildFailed _ => false
  | _ => true

def TypeFailure {α : Type} (outcome : Except SchemaError α) : Prop :=
  ∀ e, outcome = .error e → e.concernsTypes = true

namespace TypeFailure

variable {α β : Type}

theorem ok (value : α) : TypeFailure (.ok value : Except SchemaError α) := nofun

theorem error {e : SchemaError} (concerns : e.concernsTypes = true) :
    TypeFailure (.error e : Except SchemaError α) := by
  intro other same
  cases same
  exact concerns

theorem bind {outcome : Except SchemaError α} {next : α → Except SchemaError β}
    (first : TypeFailure outcome) (second : ∀ value, TypeFailure (next value)) :
    TypeFailure (outcome >>= next) := by
  cases outcome with
  | error e => exact .error (first e rfl)
  | ok value => exact second value

theorem mapError {ε : Type} (outcome : Except ε α) {change : ε → SchemaError}
    (concerns : ∀ e, (change e).concernsTypes = true) : TypeFailure (outcome.mapError change) := by
  cases outcome with
  | error e => exact .error (concerns e)
  | ok value => exact .ok value

theorem map {outcome : Except SchemaError α} (failure : TypeFailure outcome) (change : α → β) :
    TypeFailure (outcome.map change) := by
  cases outcome with
  | error e => exact .error (failure e rfl)
  | ok value => exact .ok (change value)

end TypeFailure

/-! ### Types and default values -/

theorem enumLiteral_failure (type : TypeDescriptor) (member : String) :
    TypeFailure (enumLiteral type member) := by
  unfold enumLiteral
  split
  · exact .ok _
  · exact .error rfl

theorem leafLiteral_failure (text : String) (target : TypeUse) (classification : Classification)
    (json : Json) : TypeFailure (leafLiteral text target classification json) := by
  cases classification with
  | scalar kind nonNull => exact .mapError _ fun _ => rfl
  | enum type =>
    cases json with
    | string member => exact enumLiteral_failure type member
    | _ => exact .error rfl
  | map => exact .ok _
  | _ => exact .error rfl

namespace Catalog

variable (catalog : Catalog)

theorem require_failure (key : TypeKey) : TypeFailure (catalog.require key) := by
  unfold require
  split
  · exact .ok _
  · exact .error rfl

theorem classify_failure (use : TypeUse) : TypeFailure (catalog.classify use) := by
  unfold classify
  split
  case h_3 => exact .bind (catalog.require_failure _) fun _ => .ok _
  all_goals first | exact .ok _ | exact .error rfl

theorem leaf_failure (text : String) (target : TypeUse) (json : Json) :
    TypeFailure (do leafLiteral text target (← catalog.classify target) json) :=
  .bind (catalog.classify_failure target) fun _ => leafLiteral_failure text target _ json

mutual

theorem literalOfJson_failure (text : String) (target : TypeUse) :
    (json : Json) → TypeFailure (catalog.literalOfJson text target json)
  | .null => by
    unfold literalOfJson
    split
    · exact .error rfl
    · exact .ok _
  | .array items => by
    unfold literalOfJson
    refine .bind (catalog.classify_failure target) fun classification => ?_
    split
    · exact .bind (literalsOfItems_failure text _ items) fun _ => .ok _
    · exact leafLiteral_failure text target _ _
  | .object members => by
    unfold literalOfJson
    refine .bind (catalog.classify_failure target) fun classification => ?_
    split
    · exact .bind (literalsOfMembers_failure text _ _ members) fun _ => .ok _
    · exact leafLiteral_failure text target _ _
  | .bool value => by
    unfold literalOfJson
    exact catalog.leaf_failure text target _
  | .number value => by
    unfold literalOfJson
    exact catalog.leaf_failure text target _
  | .string value => by
    unfold literalOfJson
    exact catalog.leaf_failure text target _

theorem literalsOfItems_failure (text : String) (element : TypeUse) :
    (items : List Json) → TypeFailure (catalog.literalsOfItems text element items)
  | [] => by
    unfold literalsOfItems
    exact .ok _
  | item :: items => by
    unfold literalsOfItems
    exact .bind (literalOfJson_failure text element item) fun _ =>
      .bind (literalsOfItems_failure text element items) fun _ => .ok _

theorem literalsOfMembers_failure (text : String) (type : TypeDescriptor)
    (fields : List InputField) : (members : List Json.Member) →
      TypeFailure (catalog.literalsOfMembers text type fields members)
  | [] => by
    unfold literalsOfMembers
    exact .ok _
  | (key, value) :: members => by
    unfold literalsOfMembers
    split
    · exact .error rfl
    · exact .bind (literalOfJson_failure text _ value) fun _ =>
        .bind (literalsOfMembers_failure text type fields members) fun _ => .ok _

end

theorem literalOfText_failure (text : String) (target : TypeUse) :
    TypeFailure (catalog.literalOfText text target) := by
  unfold literalOfText
  extract_lets invalid json
  have read : TypeFailure json := by
    unfold json
    split
    · exact .ok _
    · exact .error rfl
  refine .bind (catalog.classify_failure target) fun classification => ?_
  cases classification with
  | scalar kind nonNull => exact .mapError _ fun _ => rfl
  | enum type => exact enumLiteral_failure type text
  | list element =>
    refine .bind read fun value => ?_
    cases value with
    | array items => exact catalog.literalOfJson_failure text target _
    | _ => exact .error rfl
  | named type =>
    refine .bind read fun value => ?_
    cases value with
    | object members =>
      exact .bind (catalog.literalsOfMembers_failure text type _ members) fun _ => .ok _
    | _ => exact .error rfl
  | map => exact .bind read fun _ => .ok _
  | asyncWrapper element => exact .error rfl
  | publisher element => exact .error rfl

theorem literalOfSpec_failure (spec : DefaultSpec) (target : TypeUse) :
    TypeFailure (catalog.literalOfSpec spec target) := by
  cases spec with
  | null => exact .ok _
  | text text => exact catalog.literalOfText_failure text target

end Catalog

/-! ### Discovery -/

theorem TypeDescriptor.kindWhen_failure (type : TypeDescriptor) (requested : TypeKind) :
    TypeFailure (type.kindWhen requested) := by
  unfold kindWhen
  split
  · exact .ok _
  · split
    · split
      · exact .error rfl
      · exact .ok _
    · exact .ok _

theorem Registry.record_failure (registry : Registry) (candidate : DiscoveredType) :
    TypeFailure (registry.record candidate).1 := by
  unfold record
  split
  · split
    · exact .error rfl
    · exact .ok _
  · exact .ok _

namespace Domain

variable (domain : Domain)

theorem examine_failure (key : TypeKey) (requested : TypeKind) (implements : Option String) :
    TypeFailure (domain.examine key requested implements) :=
  .bind (domain.catalog.require_failure key) fun type =>
    .bind (type.kindWhen_failure requested) fun _ => .ok _

theorem run_failure (registry : Registry) (agenda : List Errand) :
    TypeFailure (domain.run registry agenda).1 := by
  fun_induction domain.run registry agenda with
  | case1 => exact .ok _
  | case2 _ _ _ ih => exact ih
  | case3 registry key requested implements rest e examined =>
    exact .error (domain.examine_failure key requested implements e examined)
  | case4 registry key requested implements rest finding examined e after recorded =>
    exact .error (registry.record_failure finding.entry e (congrArg Prod.fst recorded))
  | case5 _ _ _ _ _ _ _ _ _ _ ih => exact ih
  | case6 _ _ _ _ _ _ _ _ _ _ ih => exact ih

theorem discover_failure (registry : Registry) (key : TypeKey) (requested : TypeKind) :
    TypeFailure (domain.discover registry key requested).1 := by
  unfold discover
  split
  · next e examined => exact .error (domain.examine_failure key requested none e examined)
  · exact .map (domain.run_failure registry _) _

end Domain

/-! ### Steps -/

structure Discovering.FailsOnTypes {α : Type} (step : Discovering α) : Prop where
  concerns : ∀ before e, Fails step before e → e.concernsTypes = true

namespace Discovering.FailsOnTypes

variable {α β : Type}

theorem pure (value : α) : FailsOnTypes (Pure.pure value : Discovering α) where
  concerns := fun _ _ failed => (fails_pure.1 failed).elim

theorem throw {thrown : SchemaError} (concerns : thrown.concernsTypes = true) :
    FailsOnTypes (MonadExcept.throw thrown : Discovering α) where
  concerns := by
    intro before e failed
    rw [fails_throw.1 failed]
    exact concerns

theorem liftM {outcome : Except SchemaError α} (failure : TypeFailure outcome) :
    FailsOnTypes (MonadLiftT.monadLift outcome : Discovering α) where
  concerns := fun _ e failed => failure e (fails_liftM.1 failed)

theorem bind {step : Discovering α} {next : α → Discovering β} (first : FailsOnTypes step)
    (second : ∀ value, FailsOnTypes (next value)) : FailsOnTypes (step >>= next) where
  concerns := by
    intro before e failed
    rcases fails_bind.1 failed with here | ⟨value, between, -, there⟩
    · exact first.concerns before e here
    · exact (second value).concerns between e there

theorem mapM {step : α → Discovering β} (each : ∀ item, FailsOnTypes (step item))
    (items : List α) : FailsOnTypes (items.mapM step) where
  concerns := by
    intro before e failed
    obtain ⟨left, item, right, values, between, -, -, here⟩ := fails_mapM failed
    exact (each item).concerns between e here

end Discovering.FailsOnTypes

namespace Domain

variable {domain : Domain}

theorem failsOnTypes_reference (type : TypeDescriptor) (direction : Direction) :
    (domain.reference type direction).FailsOnTypes where
  concerns := fun registry e failed =>
    (domain.discover_failure registry type.key direction.kind).map TypeRef.nullable e failed

theorem failsOnTypes_typeRef (direction : Direction) (context : String) (nonNull : Bool)
    (use : TypeUse) : (domain.typeRef direction context nonNull use).FailsOnTypes := by
  fun_induction domain.typeRef direction context nonNull use with
  | case1 _ _ use e classified => exact .throw (domain.catalog.classify_failure use e classified)
  | case2 | case3 => exact .pure _
  | case4 | case5 => exact .bind (failsOnTypes_reference _ _) fun _ => .pure _
  | case6 _ _ _ _ _ _ ih => exact .bind ih fun _ => .pure _
  | case7 _ _ _ _ _ ih => exact ih
  | case8 | case9 | case10 => exact .throw rfl

theorem failsOnTypes_fieldType (context : String) (nonNull : Bool) (use : TypeUse) :
    (domain.fieldType context nonNull use).FailsOnTypes :=
  .bind (.liftM (domain.catalog.classify_failure _)) fun _ =>
    .bind (.liftM (domain.catalog.classify_failure _)) fun _ =>
      .bind (failsOnTypes_typeRef ..) fun _ => .pure _

theorem defaultLiteral_failure (metadata : Metadata) (target : TypeUse) :
    TypeFailure (domain.defaultLiteral metadata target) := by
  unfold defaultLiteral
  split
  · exact .ok _
  · exact .map (domain.catalog.literalOfSpec_failure _ target) _

theorem failsOnTypes_inputValue (name context : String) (metadata : Metadata) (use : TypeUse) :
    (domain.inputValue name context metadata use).FailsOnTypes :=
  .bind (failsOnTypes_typeRef ..) fun _ =>
    .bind (.liftM (defaultLiteral_failure metadata use)) fun _ => .pure _

theorem failsOnTypes_field (storage : Storage) (source : String) (skipFirst : Bool)
    (method : Method) : (domain.field? storage source skipFirst method).FailsOnTypes := by
  dsimp only [field?]
  split
  · exact .bind (failsOnTypes_fieldType ..) fun _ =>
      .bind (.mapM (fun _ => failsOnTypes_inputValue ..) _) fun _ => .pure _
  · exact .pure _

theorem failsOnTypes_fields (storage : Storage) (skipFirst : Bool)
    (methods : List (String × Method)) : (domain.fields storage skipFirst methods).FailsOnTypes :=
  .bind (.mapM (fun _ => failsOnTypes_field ..) _) fun _ => .pure _

theorem failsOnTypes_declaredFields (type : TypeDescriptor) (kind : TypeKind) :
    (domain.declaredFields type kind).FailsOnTypes :=
  failsOnTypes_fields ..

theorem failsOnTypes_contributedFields (resolver : Resolver) :
    (domain.contributedFields resolver).FailsOnTypes :=
  failsOnTypes_fields ..

theorem failsOnTypes_inputValues (name : String) (type : TypeDescriptor) :
    (domain.inputValues name type).FailsOnTypes := by
  refine .bind (.mapM (fun _ => failsOnTypes_inputValue ..) _) fun _ => ?_
  split
  · exact .throw rfl
  · exact .pure _

end Domain

end SchemaDiscovery
