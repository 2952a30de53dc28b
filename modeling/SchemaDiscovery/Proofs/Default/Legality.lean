import SchemaDiscovery.Proofs.Default.Conformance
import SchemaDiscovery.Proofs.Definition.Parts
import SchemaDiscovery.Proofs.Discovery.Nullability
import SchemaDiscovery.Schema
/-!
Default values against the types that the output gives their places. Main statement: a literal is legal
there unless it is null where a tag asks for a value, or an object in it leaves out a field that must be
given or gives null for a field whose setter, parameter or storage is tagged as not null.
-/

namespace SchemaDiscovery

namespace Schema

def inputsOf (schema : Schema) (name : String) : List (List InputValue) :=
  (schema.definitions.filter (·.fullName? .input = some name)).map (·.ownValues)

mutual

/-- Whether a literal has no null where its type is non-null, and in its objects only fields of their
types and each that must be given. What a scalar takes is left to the scalar. -/
def allows (schema : Schema) : TypeRef → Literal → Bool
  | type, .null => !type.isNonNull
  | .list element _, .list items => allowsItems schema element items
  | .list _ _, _ => false
  | .named name _, .object members => (schema.inputsOf name).all fun fields =>
      fields.all (fun field => !field.isRequired || members.any (·.1 = field.name)) &&
        allowsMembers schema fields members
  | .named _ _, _ => true

def allowsItems (schema : Schema) (element : TypeRef) : List Literal → Bool
  | [] => true
  | item :: items => allows schema element item && allowsItems schema element items

def allowsMembers (schema : Schema) (fields : List InputValue) : List (String × Literal) → Bool
  | [] => true
  | (key, value) :: members =>
    (match fields.find? (·.name = key) with
      | some field => allows schema field.type value
      | none => false) && allowsMembers schema fields members

end

end Schema

/-- Somewhere in the literal an object leaves out a field that must be given, or gives null for one that
is tagged as not null elsewhere than on its type. -/
inductive Catalog.Lapses (catalog : Catalog) : TypeUse → Literal → Prop
  | item {element : TypeUse} {tags : List Tag} {items : List Literal} {item : Literal}
    (member : item ∈ items) (inside : Lapses catalog element item) :
    Lapses catalog (.generic .list [element] tags) (.list items)
  | omitted {key : TypeKey} {tags : List Tag} {type : TypeDescriptor}
    {members : List (String × Literal)} {field : InputField}
    (found : catalog.lookup? key = some type) (listed : field ∈ catalog.inputFieldsOf type)
    (required : field.isRequired = true) (absent : field.name ∉ members.map Prod.fst) :
    Lapses catalog (.atom (.named key) tags) (.object members)
  | null {key : TypeKey} {tags : List Tag} {type : TypeDescriptor}
    {members : List (String × Literal)} {name : String} {field : InputField}
    (found : catalog.lookup? key = some type) (given : (name, Literal.null) ∈ members)
    (chosen : (catalog.inputFieldsOf type).find? (·.name = name) = some field)
    (tagged : field.metadata.notNull = true) :
    Lapses catalog (.atom (.named key) tags) (.object members)
  | member {key : TypeKey} {tags : List Tag} {type : TypeDescriptor}
    {members : List (String × Literal)} {name : String} {value : Literal} {field : InputField}
    (found : catalog.lookup? key = some type) (given : (name, value) ∈ members)
    (chosen : (catalog.inputFieldsOf type).find? (·.name = name) = some field)
    (inside : Lapses catalog field.type value) :
    Lapses catalog (.atom (.named key) tags) (.object members)

def Literal.isAtomic : Literal → Bool
  | .number _ => true
  | .bool _ => true
  | .string _ => true
  | .enum _ => true
  | _ => false

def Literal.isNull : Literal → Bool
  | .null => true
  | _ => false

theorem Schema.allows_atomic {schema : Schema} {literal : Literal} (atomic : literal.isAtomic = true)
    (name : String) (nonNull : Bool) : schema.allows (.named name nonNull) literal = true := by
  cases literal <;> first | rfl | cases atomic

theorem Catalog.not_lapses_atomic {catalog : Catalog} {use : TypeUse} {literal : Literal}
    (atomic : literal.isAtomic = true) : ¬ catalog.Lapses use literal := by
  intro lapses
  cases lapses <;> cases atomic

theorem Literal.ofJson_ne_null {json : Json} (present : json ≠ .null) : Literal.ofJson json ≠ .null := by
  cases json <;> first | exact absurd rfl present | exact nofun

theorem Literal.ne_null_of_isAtomic {literal : Literal} (atomic : literal.isAtomic = true) :
    literal ≠ .null := by
  rintro rfl
  cases atomic

theorem Literal.isAtomic_of_isScalar {literal : Literal} (scalar : literal.isScalar = true) :
    literal.isAtomic = true := by
  cases literal <;> first | rfl | cases scalar

theorem isAtomic_enumLiteral {type : TypeDescriptor} {member : String} {literal : Literal}
    (made : enumLiteral type member = .ok literal) : literal.isAtomic = true := by
  obtain ⟨-, rfl⟩ := Catalog.enumLiteral_ok.1 made
  rfl

namespace Schema

variable {schema : Schema}

theorem mem_inputsOf {name : String} {values : List InputValue} :
    values ∈ schema.inputsOf name ↔ ∃ definition ∈ schema.definitions,
      definition.fullName? .input = some name ∧ definition.ownValues = values := by
  simp [inputsOf, and_assoc]

theorem allowsItems_iff {element : TypeRef} {items : List Literal} :
    schema.allowsItems element items = true ↔ ∀ item ∈ items, schema.allows element item = true := by
  induction items with
  | nil => simp [allowsItems]
  | cons item items ih => rw [allowsItems, Bool.and_eq_true, ih, List.forall_mem_cons]

theorem allowsMembers_iff {fields : List InputValue} {members : List (String × Literal)} :
    schema.allowsMembers fields members = true ↔ ∀ member ∈ members, ∃ field,
      fields.find? (·.name = member.1) = some field ∧
        schema.allows field.type member.2 = true := by
  induction members with
  | nil => simp [allowsMembers]
  | cons member members ih =>
    obtain ⟨key, value⟩ := member
    rw [allowsMembers, Bool.and_eq_true, ih, List.forall_mem_cons]
    cases fields.find? (·.name = key) <;> simp

theorem allows_null {type : TypeRef} : schema.allows type .null = !type.isNonNull := by
  cases type <;> rfl

theorem allows_object {name : String} {nonNull : Bool} {members : List (String × Literal)} :
    schema.allows (.named name nonNull) (.object members) = true ↔
      ∀ fields ∈ schema.inputsOf name,
        (∀ field ∈ fields, field.isRequired = true → field.name ∈ members.map Prod.fst) ∧
        ∀ member ∈ members, ∃ field, fields.find? (·.name = member.1) = some field ∧
          schema.allows field.type member.2 = true := by
  have shape : schema.allows (.named name nonNull) (.object members) =
      (schema.inputsOf name).all fun fields =>
        fields.all (fun field => !field.isRequired || members.any (·.1 = field.name)) &&
          schema.allowsMembers fields members := rfl
  rw [shape, List.all_eq_true]
  simp [allowsMembers_iff, Decidable.imp_iff_not_or]

end Schema

namespace Catalog

variable {catalog : Catalog}

theorem not_lapses_list {element : TypeUse} {tags : List Tag} {items : List Literal} :
    ¬ catalog.Lapses (.generic .list [element] tags) (.list items) ↔
      ∀ item ∈ items, ¬ catalog.Lapses element item := by
  constructor
  · exact fun sound item member inside => sound (.item member inside)
  · intro sound lapses
    cases lapses with
    | item member inside => exact sound _ member inside

theorem not_lapses_object {key : TypeKey} {tags : List Tag} {type : TypeDescriptor}
    {members : List (String × Literal)} (found : catalog.lookup? key = some type) :
    ¬ catalog.Lapses (.atom (.named key) tags) (.object members) ↔
      (∀ field ∈ catalog.inputFieldsOf type, field.isRequired = true →
        field.name ∈ members.map Prod.fst) ∧
      ∀ member ∈ members, ∀ field,
        (catalog.inputFieldsOf type).find? (·.name = member.1) = some field →
          (member.2 = .null → field.metadata.notNull = false) ∧
            ¬ catalog.Lapses field.type member.2 := by
  constructor
  · intro sound
    refine ⟨fun field listed required => ?_, fun member given field chosen => ⟨fun null => ?_, ?_⟩⟩
    · by_contra absent
      exact sound (.omitted found listed required absent)
    · by_contra tagged
      have here : (member.1, Literal.null) ∈ members := null ▸ given
      exact sound (.null found here chosen (by simpa using tagged))
    · exact fun inside => sound (.member found given chosen inside)
  · rintro ⟨complete, each⟩ lapses
    cases lapses with
    | omitted again listed required absent =>
      cases found.symm.trans again
      exact absent (complete _ listed required)
    | null again given chosen tagged =>
      cases found.symm.trans again
      have untagged := (each _ given _ chosen).1 rfl
      rw [tagged] at untagged
      cases untagged
    | member again given chosen inside =>
      cases found.symm.trans again
      exact (each _ given _ chosen).2 inside

end Catalog

namespace Domain

variable {domain : Domain} {registry before after : Registry} {schema : Schema}

/-- The output defines each recorded input type by its fields, and none in place of the scalar that
stands for maps. -/
structure ShowsInputs (domain : Domain) (registry : Registry) (schema : Schema) : Prop where
  defined : ∀ key type, domain.catalog.lookup? key = some type → type.kindWhen .input = .ok .input →
    registry.kindOf? (type.schemaName .input) = some .input →
      schema.inputsOf (type.schemaName .input) ≠ [] ∧
        ∀ values ∈ schema.inputsOf (type.schemaName .input),
          List.Forall₂ (domain.MakesValue registry) (domain.catalog.inputFieldsOf type) values
  apart : schema.inputsOf domain.config.jsonScalar = []

theorem MakesValue.name_eq {field : InputField} {value : InputValue}
    (makes : domain.MakesValue registry field value) : value.name = field.name := by
  obtain ⟨context, before, after, given, -⟩ := makes
  exact (inputValue_ok given).1

theorem find_of_makesValues {fields : List InputField} {values : List InputValue} {name : String}
    {field : InputField} (made : List.Forall₂ (domain.MakesValue registry) fields values)
    (chosen : fields.find? (·.name = name) = some field) :
    ∃ value, values.find? (·.name = name) = some value ∧ domain.MakesValue registry field value := by
  induction made with
  | nil => cases chosen
  | @cons head value fields values makes rest ih =>
    by_cases named : head.name = name
    · rw [List.find?_cons_of_pos (by simpa using named)] at chosen
      cases chosen
      exact ⟨value, List.find?_cons_of_pos (by simpa [makes.name_eq] using named), makes⟩
    · rw [List.find?_cons_of_neg (by simpa using named)] at chosen
      obtain ⟨other, found, same⟩ := ih chosen
      exact ⟨other, by rw [List.find?_cons_of_neg (by simpa [makes.name_eq] using named), found], same⟩

theorem required_of_makesValues {fields : List InputField} {values : List InputValue}
    {keys : List String} (made : List.Forall₂ (domain.MakesValue registry) fields values) :
    (∀ value ∈ values, value.isRequired = true → value.name ∈ keys) ↔
      ∀ field ∈ fields, field.isRequired = true → field.name ∈ keys := by
  induction made with
  | nil => simp
  | cons makes rest ih =>
    rw [List.forall_mem_cons, List.forall_mem_cons, ih, makes.isRequired, makes.name_eq]

/-- The literal is legal for each reference made for the place, exactly if it is not null against a tag and
has no lapse. -/
def Judged (domain : Domain) (registry : Registry) (schema : Schema) (use : TypeUse)
    (literal : Literal) : Prop :=
  ∀ context nonNull before type after,
    Gives (domain.typeRef .input context nonNull use) before type after → after.Grows registry →
      (schema.allows type literal = true ↔
        (literal = .null → nonNull = false) ∧ ¬ domain.catalog.Lapses use literal)

theorem allows_atomic {use : TypeUse} {literal : Literal} {name : String} {marked : Bool} {P : Prop}
    (atomic : literal.isAtomic = true) : schema.allows (.named name marked) literal = true ↔
      (literal = .null → P) ∧ ¬ domain.catalog.Lapses use literal :=
  iff_of_true (Schema.allows_atomic atomic name marked)
    ⟨fun null => absurd null (Literal.ne_null_of_isAtomic atomic), Catalog.not_lapses_atomic atomic⟩

theorem allows_map (shown : domain.ShowsInputs registry schema) {args : List TypeUse}
    {tags : List Tag} {literal : Literal} {marked : Bool} {P : Prop} (present : literal ≠ .null) :
    schema.allows (.named domain.config.jsonScalar marked) literal = true ↔
      (literal = .null → P) ∧ ¬ domain.catalog.Lapses (.generic .map args tags) literal := by
  refine iff_of_true ?_ ⟨fun null => absurd null present, nofun⟩
  cases literal with
  | null => exact absurd rfl present
  | object members =>
    rw [Schema.allows_object, shown.apart]
    exact nofun
  | _ => rfl

theorem judged_null {use : TypeUse} (allowed : use.forbidsNull = false) :
    domain.Judged registry schema use .null := by
  intro context nonNull before type after given grows
  have sound : ¬ domain.catalog.Lapses use .null := nofun
  rw [Schema.allows_null, isNonNull_typeRef given, allowed]
  simp [sound]

theorem judged_leaf (shown : domain.ShowsInputs registry schema) {text : String} {use : TypeUse}
    {classification : Classification} {json : Json} {literal : Literal}
    (spells : domain.catalog.Spells use classification) (present : json ≠ .null)
    (made : leafLiteral text use classification json = .ok literal) :
    domain.Judged registry schema use literal := by
  intro context nonNull before type after given grows
  obtain ⟨again, classified, points⟩ := pointsTo_of_typeRef given
  cases classified.symm.trans (Catalog.classify_iff.2 spells)
  cases classification with
  | scalar kind primitive =>
    cases points
    exact allows_atomic (Literal.isAtomic_of_isScalar (isScalar_scalarOfJson (mapError_eq_ok.1 made)))
  | enum found =>
    obtain ⟨name, rfl, -⟩ := points
    cases json with
    | string member => exact allows_atomic (isAtomic_enumLiteral made)
    | _ => cases made
  | map =>
    obtain ⟨args, tags, rfl⟩ := spells
    cases points
    cases made
    exact allows_map shown (Literal.ofJson_ne_null present)
  | _ => cases made

theorem judged_list {element : TypeUse} {tags : List Tag} {items : List Json}
    {literals : List Literal}
    (all : List.Forall₂ (fun _ => domain.Judged registry schema element) items literals) :
    domain.Judged registry schema (.generic .list [element] tags) (.list literals) := by
  intro context nonNull before type after given grows
  obtain ⟨classification, classified, points⟩ := pointsTo_of_typeRef given
  cases classified
  obtain ⟨inner, rfl, referred⟩ := points
  have shape (marked : Bool) : schema.allows (.list inner marked) (.list literals) =
      schema.allowsItems inner literals := rfl
  rw [shape, Schema.allowsItems_iff, Catalog.not_lapses_list, and_iff_right nofun]
  refine forall_congr' fun literal => imp_congr_right fun member => ?_
  obtain ⟨_, -, judged⟩ := exists_of_forall₂ all.flip member
  exact (judged context false before inner after referred grows).trans (and_iff_right fun _ => rfl)

theorem allows_fields {fields : List InputField} {values : List InputValue}
    {members : List Json.Member} {literals : List (String × Literal)}
    (makes : List.Forall₂ (domain.MakesValue registry) fields values)
    (all : List.Forall₂ (fun member literal => member.1 = literal.1 ∧ ∃ field,
      fields.find? (·.name = member.1) = some field ∧
        domain.Judged registry schema field.type literal.2) members literals) :
    ((∀ value ∈ values, value.isRequired = true → value.name ∈ literals.map Prod.fst) ∧
      ∀ member ∈ literals, ∃ value, values.find? (·.name = member.1) = some value ∧
        schema.allows value.type member.2 = true) ↔
    (∀ field ∈ fields, field.isRequired = true → field.name ∈ literals.map Prod.fst) ∧
      ∀ member ∈ literals, ∀ field, fields.find? (·.name = member.1) = some field →
        (member.2 = .null → field.metadata.notNull = false) ∧
          ¬ domain.catalog.Lapses field.type member.2 := by
  rw [required_of_makesValues makes]
  refine and_congr_right fun _ => forall_congr' fun member => imp_congr_right fun given => ?_
  obtain ⟨source, -, named, field, chosen, judged⟩ := exists_of_forall₂ all.flip given
  rw [named] at chosen
  obtain ⟨value, found, context, before, after, made, grows⟩ := find_of_makesValues makes chosen
  obtain ⟨-, referred, -⟩ := inputValue_ok made
  have legal := judged context field.metadata.notNull before value.type after referred grows
  constructor
  · rintro ⟨other, again, allowed⟩ field' same
    cases found.symm.trans again
    cases chosen.symm.trans same
    exact legal.1 allowed
  · exact fun each => ⟨value, found, legal.2 (each field chosen)⟩

theorem judged_object (shown : domain.ShowsInputs registry schema) {key : TypeKey} {tags : List Tag}
    {found : TypeDescriptor} {members : List Json.Member} {literals : List (String × Literal)}
    (present : domain.catalog.lookup? key = some found) (isObject : found.isEnum = false)
    (all : List.Forall₂ (fun member literal => member.1 = literal.1 ∧ ∃ field,
      (domain.catalog.inputFieldsOf found).find? (·.name = member.1) = some field ∧
        domain.Judged registry schema field.type literal.2) members literals) :
    domain.Judged registry schema (.atom (.named key) tags) (.object literals) := by
  intro context nonNull before type after given grows
  have spells : domain.catalog.Spells (.atom (.named key) tags) (.named found) :=
    ⟨key, tags, rfl, present, isObject⟩
  obtain ⟨classification, classified, points⟩ := pointsTo_of_typeRef given
  cases classified.symm.trans (Catalog.classify_iff.2 spells)
  obtain ⟨name, rfl, discovered⟩ := points
  obtain ⟨⟨known, kind, again, role, rfl, recorded⟩, -⟩ := discover_ok discovered
  rw [Catalog.key_of_lookup present, present] at again
  cases again
  obtain rfl : kind = .input := by
    unfold TypeDescriptor.kindWhen at role
    rw [if_neg (by simp [isObject])] at role
    split at role
    · cases role
    · cases role
      rfl
  obtain ⟨some, values⟩ := shown.defined key found present role (grows.kindOf recorded)
  obtain ⟨first, listed⟩ := List.exists_mem_of_ne_nil _ some
  rw [Schema.allows_object, Catalog.not_lapses_object present, and_iff_right nofun]
  constructor
  · exact fun allowed => (allows_fields (values first listed) all).1 (allowed first listed)
  · exact fun sound fields member => (allows_fields (values fields member) all).2 sound

theorem judged_of_literalOfJson (shown : domain.ShowsInputs registry schema) {text : String}
    {use : TypeUse} {json : Json} {literal : Literal}
    (made : domain.catalog.literalOfJson text use json = .ok literal) :
    domain.Judged registry schema use literal :=
  Catalog.literalOfJson_induction (motive := fun use _ => domain.Judged registry schema use)
    judged_null (judged_leaf shown) judged_list (judged_object shown) made

theorem allows_literalOfText (shown : domain.ShowsInputs registry schema) {text context : String}
    {nonNull : Bool} {use : TypeUse} {type : TypeRef} {literal : Literal}
    (given : Gives (domain.typeRef .input context nonNull use) before type after)
    (grows : after.Grows registry) (made : domain.catalog.literalOfText text use = .ok literal) :
    schema.allows type literal = true ↔
      (literal = .null → nonNull = false ∧ hasNotNull use.tags = false) ∧
        ¬ domain.catalog.Lapses use literal := by
  obtain ⟨classification, classified, points⟩ := pointsTo_of_typeRef given
  rcases Catalog.literalOfText_ok made with
    ⟨kind, primitive, same, scalar⟩ | ⟨found, same, enum⟩ | ⟨same, json, -⟩ | ⟨some, json, parts⟩
  · cases classified.symm.trans same
    cases points
    exact allows_atomic (Literal.isAtomic_of_isScalar (isScalar_scalarOfText scalar))
  · cases classified.symm.trans same
    obtain ⟨name, rfl, -⟩ := points
    exact allows_atomic (isAtomic_enumLiteral enum)
  · cases classified.symm.trans same
    obtain ⟨args, tags, rfl⟩ := Catalog.classify_iff.1 classified
    cases points
    by_cases null : literal = .null
    · have sound : ¬ domain.catalog.Lapses (.generic .map args tags) .null := nofun
      rw [null, Schema.allows_null]
      simp [TypeRef.isNonNull, sound]
    · exact allows_map shown null
  · have legal := judged_of_literalOfJson shown parts context nonNull before type after given grows
    rw [legal, and_iff_right fun null => absurd null some, and_iff_right fun null => absurd null some]

end Domain

end SchemaDiscovery
