import SchemaDiscovery.Proofs.Catalog.Classification
import SchemaDiscovery.Proofs.Discovery.Denotation
/-!
Which values that are passed in may be null or left out. Main statements: the reference for such a value
follows the spelling of its use, and the value must be given exactly if a tag or a primitive spelling
forbids null and there is no default.
-/

namespace SchemaDiscovery

namespace TypeRef

def isNonNull : TypeRef → Bool
  | .named _ marked => marked
  | .list _ marked => marked

end TypeRef

def InputValue.isRequired (value : InputValue) : Bool :=
  value.type.isNonNull && value.default.isNone

def InputField.isRequired (field : InputField) : Bool :=
  (field.metadata.notNull || field.type.forbidsNull) && field.metadata.default.isNone

namespace Domain

variable {domain : Domain} {registry before after : Registry} {context : String} {nonNull : Bool}
  {use : TypeUse} {type : TypeRef}

/-- The reference is made from a use of the classification for a value that is passed in. -/
def PointsTo (domain : Domain) (before after : Registry) (context : String) (nonNull : Bool)
    (type : TypeRef) : Classification → Prop
  | .scalar kind primitive => type = .named kind.scalar (primitive || nonNull)
  | .map => type = .named domain.config.jsonScalar nonNull
  | .enum found => ∃ name, type = .named name nonNull ∧
      domain.discover before found.key .input = (.ok name, after)
  | .named found => ∃ name, type = .named name nonNull ∧
      domain.discover before found.key .input = (.ok name, after)
  | .list element => ∃ inner, type = .list inner nonNull ∧
      Gives (domain.typeRef .input context false element) before inner after
  | .asyncWrapper _ => False
  | .publisher _ => False

theorem pointsTo_reference {found : TypeDescriptor} {reference : TypeRef}
    (given : Gives (domain.reference found .input) before reference after) :
    ∃ name, reference.markIf nonNull = .named name nonNull ∧
      domain.discover before found.key .input = (.ok name, after) := by
  obtain ⟨name, discovered, rfl⟩ := gives_reference given
  exact ⟨name, by simp [TypeRef.nullable, TypeRef.markIf], discovered⟩

theorem pointsTo_of_typeRef
    (given : Gives (domain.typeRef .input context nonNull use) before type after) :
    ∃ classification, domain.catalog.classify use = .ok classification ∧
      domain.PointsTo before after context (nonNull || hasNotNull use.tags) type classification := by
  unfold typeRef at given
  dsimp only at given
  split at given
  · exact (gives_throw.1 given).elim
  · next kind primitive classified =>
    obtain ⟨rfl, rfl⟩ := gives_pure.1 given
    exact ⟨_, classified, rfl⟩
  · next classified =>
    obtain ⟨rfl, rfl⟩ := gives_pure.1 given
    exact ⟨_, classified, rfl⟩
  · next found classified =>
    simp only [gives_bind, gives_pure] at given
    obtain ⟨reference, _, referred, rfl, rfl⟩ := given
    exact ⟨_, classified, pointsTo_reference referred⟩
  · next found classified =>
    simp only [gives_bind, gives_pure] at given
    obtain ⟨reference, _, referred, rfl, rfl⟩ := given
    exact ⟨_, classified, pointsTo_reference referred⟩
  · next element classified =>
    simp only [gives_bind, gives_pure] at given
    obtain ⟨inner, _, referred, rfl, rfl⟩ := given
    exact ⟨_, classified, inner, rfl, referred⟩
  · exact (gives_throw.1 given).elim
  · exact (gives_throw.1 given).elim

theorem isNonNull_typeRef
    (given : Gives (domain.typeRef .input context nonNull use) before type after) :
    type.isNonNull = (nonNull || use.forbidsNull) := by
  obtain ⟨classification, classified, points⟩ := pointsTo_of_typeRef given
  have spells := Catalog.classify_iff.1 classified
  cases classification with
  | scalar kind primitive =>
    obtain ⟨-, rfl⟩ := spells
    cases points
    show (use.isPrimitive || (nonNull || hasNotNull use.tags)) = _
    rw [TypeUse.forbidsNull, Bool.or_left_comm]
  | map =>
    obtain ⟨args, tags, rfl⟩ := spells
    cases points
    rfl
  | enum found =>
    obtain ⟨key, tags, rfl, -⟩ := spells
    obtain ⟨name, rfl, -⟩ := points
    rfl
  | named found =>
    obtain ⟨key, tags, rfl, -⟩ := spells
    obtain ⟨name, rfl, -⟩ := points
    rfl
  | list element =>
    obtain ⟨tags, rfl⟩ := spells
    obtain ⟨inner, rfl, -⟩ := points
    rfl
  | asyncWrapper element => exact points.elim
  | publisher element => exact points.elim

theorem inputValue_ok {name : String} {metadata : Metadata} {value : InputValue}
    (given : Gives (domain.inputValue name context metadata use) before value after) :
    value.name = name ∧ Gives (domain.typeRef .input context metadata.notNull use) before value.type
      after ∧ domain.defaultLiteral metadata use = .ok value.default := by
  unfold inputValue at given
  simp only [gives_bind, gives_liftM, gives_pure] at given
  obtain ⟨type, _, referred, default, _, ⟨chosen, rfl⟩, rfl, rfl⟩ := given
  exact ⟨rfl, referred, chosen⟩

theorem isNone_defaultLiteral {metadata : Metadata} {default : Option Literal}
    (chosen : domain.defaultLiteral metadata use = .ok default) :
    default.isNone = metadata.default.isNone := by
  unfold defaultLiteral at chosen
  split at chosen
  · next absent =>
    cases chosen
    rw [absent]
    rfl
  · next spec given =>
    cases made : domain.catalog.literalOfSpec spec use with
    | error e =>
      rw [made] at chosen
      cases chosen
    | ok literal =>
      rw [made] at chosen
      cases chosen
      rw [given]
      rfl

theorem MakesValue.isRequired {field : InputField} {value : InputValue}
    (makes : domain.MakesValue registry field value) : value.isRequired = field.isRequired := by
  obtain ⟨context, before, after, given, -⟩ := makes
  obtain ⟨-, referred, chosen⟩ := inputValue_ok given
  rw [InputValue.isRequired, isNonNull_typeRef referred, isNone_defaultLiteral chosen]
  rfl

end Domain

end SchemaDiscovery
