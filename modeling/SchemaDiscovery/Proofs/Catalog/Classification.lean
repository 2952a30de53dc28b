import SchemaDiscovery.Classification
/-!
Uses of types by their spelling. Main statement: a classification tells exactly how the use is spelled
and which type of the catalog it names.
-/

namespace SchemaDiscovery

def TypeUse.valueKind? : TypeUse → Option ValueKind
  | .atom (.primitive kind) _ => some kind
  | .atom (.boxed kind) _ => some kind
  | _ => none

namespace Catalog

variable {catalog : Catalog} {use : TypeUse} {classification : Classification}

/-- The use is spelled as the classification says. -/
def Spells (catalog : Catalog) (use : TypeUse) : Classification → Prop
  | .scalar kind primitive => use.valueKind? = some kind ∧ primitive = use.isPrimitive
  | .enum type => ∃ key tags, use = .atom (.named key) tags ∧
      catalog.lookup? key = some type ∧ type.isEnum = true
  | .named type => ∃ key tags, use = .atom (.named key) tags ∧
      catalog.lookup? key = some type ∧ type.isEnum = false
  | .list element => ∃ tags, use = .generic .list [element] tags
  | .map => ∃ args tags, use = .generic .map args tags
  | .asyncWrapper element => ∃ shape tags, (shape = .future ∨ shape = .optional) ∧
      use = .generic shape [element] tags
  | .publisher element => ∃ tags, use = .generic .publisher [element] tags

theorem classify_named (key : TypeKey) (tags : List Tag) :
    catalog.classify (.atom (.named key) tags) = (do
      let type ← catalog.require key
      return if type.isEnum then .enum type else .named type) := rfl

theorem classify_found {key : TypeKey} {type : TypeDescriptor} (tags : List Tag)
    (found : catalog.lookup? key = some type) :
    catalog.classify (.atom (.named key) tags) =
      .ok (if type.isEnum then .enum type else .named type) := by
  rw [classify_named, require, found]
  rfl

theorem spells_of_classify (classified : catalog.classify use = .ok classification) :
    catalog.Spells use classification := by
  cases use with
  | atom type tags =>
    cases type with
    | primitive kind =>
      cases classified
      exact ⟨rfl, rfl⟩
    | boxed kind =>
      cases classified
      exact ⟨rfl, rfl⟩
    | named key =>
      cases found : catalog.lookup? key with
      | none =>
        rw [classify_named, require, found] at classified
        cases classified
      | some type =>
        rw [classify_found tags found] at classified
        cases classified
        cases kind : type.isEnum with
        | true => exact ⟨key, tags, rfl, found, kind⟩
        | false => exact ⟨key, tags, rfl, found, kind⟩
    | _ => cases classified
  | generic shape args tags =>
    cases shape with
    | map =>
      cases classified
      exact ⟨args, tags, rfl⟩
    | other name => rcases args with _ | ⟨_, _ | _⟩ <;> cases classified
    | list =>
      rcases args with _ | ⟨element, _ | _⟩ <;> cases classified
      exact ⟨tags, rfl⟩
    | future =>
      rcases args with _ | ⟨element, _ | _⟩ <;> cases classified
      exact ⟨.future, tags, .inl rfl, rfl⟩
    | optional =>
      rcases args with _ | ⟨element, _ | _⟩ <;> cases classified
      exact ⟨.optional, tags, .inr rfl, rfl⟩
    | publisher =>
      rcases args with _ | ⟨element, _ | _⟩ <;> cases classified
      exact ⟨tags, rfl⟩

theorem classify_iff :
    catalog.classify use = .ok classification ↔ catalog.Spells use classification := by
  refine ⟨spells_of_classify, fun spells => ?_⟩
  cases classification with
  | scalar kind primitive =>
    obtain ⟨spelled, rfl⟩ := spells
    unfold TypeUse.valueKind? at spelled
    split at spelled
    · cases spelled
      rfl
    · cases spelled
      rfl
    · cases spelled
  | enum type =>
    obtain ⟨key, tags, rfl, found, isEnum⟩ := spells
    rw [classify_found tags found, if_pos isEnum]
  | named type =>
    obtain ⟨key, tags, rfl, found, isEnum⟩ := spells
    rw [classify_found tags found, if_neg (Bool.not_eq_true _ ▸ isEnum)]
  | list element =>
    obtain ⟨tags, rfl⟩ := spells
    rfl
  | map =>
    obtain ⟨args, tags, rfl⟩ := spells
    rfl
  | asyncWrapper element =>
    obtain ⟨shape, tags, rfl | rfl, rfl⟩ := spells
    · rfl
    · rfl
  | publisher element =>
    obtain ⟨tags, rfl⟩ := spells
    rfl

end Catalog

end SchemaDiscovery
