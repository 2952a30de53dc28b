import SchemaDiscovery.Proofs.Default.Legality
import SchemaDiscovery.Proofs.Schema.Identity
/-!
Default values in the output. Main statement: the default that a text gives to an argument or to a field
of an input type is legal for the type of its place, unless it is null where a tag asks for a value, or an
object in it leaves out a field that must be given or gives null for one that is tagged as not null.
-/

namespace SchemaDiscovery

namespace Domain

variable {domain : Domain} {resolvers : List Resolver} {registry : Registry} {schema : Schema}
  {definition : Definition} {metadata : Metadata} {use : TypeUse} {value : InputValue}

/-- The value stands in the definition because of the metadata and the type of a parameter, whose method is
offered for one of its fields, or of an input field of a type that bears its name. -/
inductive Passes (domain : Domain) (resolvers : List Resolver) (registry : Registry)
    (definition : Definition) : Metadata → TypeUse → InputValue → Prop
  | argument {kind : TypeKind} {name : String} {signature : Signature} {field : BoundField}
    {param : Parameter} {value : InputValue} (typed : definition.typed? = some (kind, name))
    (shown : field.definition ∈ definition.fields)
    (offers : domain.Offers resolvers registry kind name signature)
    (makes : domain.Makes registry signature field)
    (paired : (param, value) ∈ (argumentParameters signature.method signature.skipFirst).zip
      field.definition.arguments) :
    Passes domain resolvers registry definition param.metadata param.type value
  | value {name : String} {type : TypeDescriptor} {field : InputField} {value : InputValue}
    (full : definition.fullName? .input = some name)
    (bears : domain.Bears resolvers registry .input name type)
    (listed : field ∈ domain.catalog.inputFieldsOf type) (shown : value ∈ definition.ownValues)
    (makes : domain.MakesValue registry field value) :
    Passes domain resolvers registry definition field.metadata field.type value

theorem Makes.arguments {signature : Signature} {field : BoundField}
    (makes : domain.Makes registry signature field) :
    List.Forall₂ (fun param value => ∃ context before after,
        Gives (domain.argument context param) before value after ∧ after.Grows registry)
      (argumentParameters signature.method signature.skipFirst) field.definition.arguments := by
  obtain ⟨before, after, given, grows⟩ := makes
  obtain ⟨returns, typed, nonNull, context, some, -, passed⟩ := field_ok given
  have made := Discovering.Orderly.forall_of_gives_mapM (orderly_argument context) passed
  refine made.imp fun param value made => ?_
  obtain ⟨start, finish, here, later⟩ := made
  exact ⟨context, start, finish, here, later.grows.trans grows⟩

theorem Passes.given (passes : domain.Passes resolvers registry definition metadata use value) :
    ∃ name context before after,
      Gives (domain.inputValue name context metadata use) before value after ∧ after.Grows registry := by
  cases passes with
  | argument typed shown offers makes paired =>
    obtain ⟨context, before, after, given, grows⟩ :=
      (List.forall₂_iff_zip.1 makes.arguments).2 paired
    exact ⟨_, _, before, after, given, grows⟩
  | value full bears listed shown makes =>
    obtain ⟨context, before, after, given, grows⟩ := makes
    exact ⟨_, _, before, after, given, grows⟩

theorem Built.passes (built : domain.Built resolvers schema) (member : definition ∈ schema.definitions)
    {kind : TypeKind} {name : String} (typed : definition.typed? = some (kind, name))
    (listed : value ∈ definition.inputValues) :
    ∃ metadata use, domain.Passes resolvers (domain.finalDiscovery resolvers).registry definition
      metadata use value := by
  rcases List.mem_append.1 listed with own | inField
  · obtain ⟨full, type, bears, field, present, makes⟩ := built.ownValue member typed own
    exact ⟨field.metadata, field.type, .value full bears present own makes⟩
  · obtain ⟨shown, present, argument⟩ := List.mem_flatMap.1 inField
    obtain ⟨field, rfl, signature, offers, makes⟩ := built.offered member typed shown present
    rw [← List.map_snd_zip (Nat.le_of_eq makes.arguments.length_eq.symm)] at argument
    obtain ⟨⟨param, _⟩, paired, rfl⟩ := List.mem_map.1 argument
    exact ⟨param.metadata, param.type, .argument typed present offers makes paired⟩

theorem Built.showsInputs (built : domain.Built resolvers schema)
    (alone : ∀ name, (domain.finalDiscovery resolvers).registry.kindOf? name = some .input →
      domain.catalog.Unambiguous .input name)
    (apart : (domain.finalDiscovery resolvers).registry.kindOf? domain.config.jsonScalar ≠
      some .input) :
    domain.ShowsInputs (domain.finalDiscovery resolvers).registry schema where
  defined := by
    intro key type present role recorded
    constructor
    · obtain ⟨definition, member, full⟩ := built.defined_iff.2 (.inl recorded)
      exact List.ne_nil_of_mem (Schema.mem_inputsOf.2 ⟨definition, member, full, rfl⟩)
    · intro values listed
      obtain ⟨definition, member, full, rfl⟩ := Schema.mem_inputsOf.1 listed
      rcases (built.portrays recorded).full definition member full with
        ⟨object, -⟩ | ⟨owner, bears, values, rfl, made⟩
      · cases object
      -- Two input types of one name would share the definition.
      · obtain rfl : owner = type := (alone _ recorded).unique
          (bears.discoverable built.consistent.sourced) ⟨Catalog.mem_of_lookup present, role, rfl⟩
        exact made
  apart := by
    refine List.eq_nil_iff_forall_not_mem.2 fun values listed => ?_
    obtain ⟨definition, member, full, -⟩ := Schema.mem_inputsOf.1 listed
    rcases built.defined_iff.1 ⟨definition, member, full⟩ with recorded | ⟨object, -⟩
    · exact apart recorded
    · cases object

/-- A value that has a default text has a default, which is legal for its type exactly if it is not null
against a tag and has no lapse. This holds where each name that is recorded as an input stands for one
type and is not that of the scalar for maps. -/
theorem defaults_legal_iff (built : domain.build resolvers = .ok schema)
    (alone : ∀ name, (domain.finalDiscovery resolvers).registry.kindOf? name = some .input →
      domain.catalog.Unambiguous .input name)
    (apart : (domain.finalDiscovery resolvers).registry.kindOf? domain.config.jsonScalar ≠
      some .input)
    (member : definition ∈ schema.definitions) {kind : TypeKind} {name : String}
    (typed : definition.typed? = some (kind, name)) (listed : value ∈ definition.inputValues) :
    (∃ metadata use, domain.Passes resolvers (domain.finalDiscovery resolvers).registry definition
      metadata use value) ∧
    ∀ metadata use, domain.Passes resolvers (domain.finalDiscovery resolvers).registry definition
        metadata use value →
      ∀ text, metadata.default = some (.text text) → ∃ literal, value.default = some literal ∧
        (schema.allows value.type literal = true ↔
          (literal = .null → metadata.notNull = false ∧ hasNotNull use.tags = false) ∧
            ¬ domain.catalog.Lapses use literal) := by
  have whole := built_of_build built
  refine ⟨whole.passes member typed listed, fun metadata use passes text spelled => ?_⟩
  obtain ⟨name, context, before, after, given, grows⟩ := passes.given
  obtain ⟨-, referred, chosen⟩ := inputValue_ok given
  have made : (domain.catalog.literalOfText text use).map some = .ok value.default := by
    rw [← chosen, defaultLiteral, spelled]
    rfl
  cases literal : domain.catalog.literalOfText text use with
  | error e =>
    rw [literal] at made
    cases made
  | ok literal' =>
    rw [literal] at made
    exact ⟨literal', (Except.ok.inj made).symm,
      allows_literalOfText (whole.showsInputs alone apart) referred grows literal⟩

theorem Passes.text (passes : domain.Passes resolvers registry definition metadata use value)
    {literal : Literal} (default : value.default = some literal) (present : literal ≠ .null) :
    ∃ text, metadata.default = some (.text text) := by
  obtain ⟨name, context, before, after, given, -⟩ := passes.given
  obtain ⟨-, -, chosen⟩ := inputValue_ok given
  rw [default, defaultLiteral] at chosen
  split at chosen
  · cases chosen
  · next spec spelled =>
    cases spec with
    | null =>
      cases chosen
      exact absurd rfl present
    | text text => exact ⟨text, spelled⟩

theorem unambiguous_of_distinct {catalog : Catalog} {kind : TypeKind}
    (distinct : ∀ type ∈ catalog.types, ∀ other ∈ catalog.types,
      type.schemaName kind = other.schemaName kind → type = other) (name : String) :
    catalog.Unambiguous kind name := by
  intro type member other present here there
  exact distinct type member other present (here.2.2.trans there.2.2.symm)

def shop : Domain where
  catalog := .ofTypes [{
    key := ⟨"shop::Filter"⟩
    methods := [
      Catalog.setter "setLimit" (.atom (.primitive .int) []),
      Catalog.setter "setWord" (.atom (.boxed .string) [])] }]

def browsing (text : String) : Resolver where
  name := "Browsing"
  role := .query
  methods := [{
    name := "goods"
    params := [⟨"filter", .atom (.named ⟨"shop::Filter"⟩) [], [.default text]⟩,
      ⟨"context", .atom .context [], []⟩]
    returns := some (.atom (.boxed .string) []) }]

def Browses (schema : Schema) (legal : Bool) : Prop :=
  ∃ query ∈ schema.definitions, query.typed? = some (.object, "Query") ∧
    ∃ value ∈ query.inputValues, ∃ literal, value.default = some literal ∧ literal ≠ .null ∧
      schema.allows value.type literal = legal

theorem browses_of_observed {text : String} {legal : Bool}
    (observed : (shop.build [browsing text]).toOption.map (fun schema =>
      schema.definitions.any fun query => query.typed? = some (.object, "Query") ∧
        query.inputValues.any fun value => value.default.any fun literal =>
          !literal.isNull ∧ schema.allows value.type literal = legal) = some true) :
    ∃ schema, shop.build [browsing text] = .ok schema ∧ Browses schema legal := by
  obtain ⟨schema, built, seen⟩ := build_observed observed
  obtain ⟨query, member, shape⟩ := List.any_eq_true.1 seen
  obtain ⟨typed, values⟩ := of_decide_eq_true shape
  obtain ⟨value, listed, given⟩ := List.any_eq_true.1 values
  obtain ⟨literal, default, judged⟩ := (Option.any_eq_true _ _).1 given
  obtain ⟨some, legal⟩ := of_decide_eq_true judged
  refine ⟨schema, built, query, member, typed, value, listed, literal, default, ?_, legal⟩
  rintro rfl
  cases some

theorem defaults_legal_iff_shop : ∃ schema, shop.build [browsing "\x7b\"limit\": 9\x7d"] = .ok schema ∧
    ∃ query ∈ schema.definitions, ∃ value ∈ query.inputValues, ∃ metadata use literal,
      shop.Passes [browsing "\x7b\"limit\": 9\x7d"]
        (shop.finalDiscovery [browsing "\x7b\"limit\": 9\x7d"]).registry query metadata use value ∧
      value.default = some literal ∧ literal ≠ .null ∧ ¬ shop.catalog.Lapses use literal := by
  have observed : ∃ schema, shop.build [browsing "\x7b\"limit\": 9\x7d"] = .ok schema ∧
      Browses schema true := browses_of_observed (by decide +kernel)
  obtain ⟨schema, built, query, member, typed, value, listed, literal, default, present, legal⟩ :=
    observed
  have distinct : ∀ type ∈ shop.catalog.types, ∀ other ∈ shop.catalog.types,
      type.schemaName .input = other.schemaName .input → type = other := by
    decide +kernel
  have apart : (shop.finalDiscovery [browsing "\x7b\"limit\": 9\x7d"]).registry.kindOf?
      shop.config.jsonScalar ≠ some .input := by
    decide +kernel
  obtain ⟨⟨metadata, use, passes⟩, each⟩ := defaults_legal_iff built
    (fun name _ => unambiguous_of_distinct distinct name) apart member typed listed
  obtain ⟨text, spelled⟩ := passes.text default present
  obtain ⟨other, same, judged⟩ := each metadata use passes text spelled
  cases default.symm.trans same
  exact ⟨schema, built, query, member, value, listed, metadata, use, literal, passes, default, present,
    (judged.1 legal).2⟩

/-- Every default that comes from a text is legal for the type of its place. -/
def DefaultsLegal (domain : Domain) (resolvers : List Resolver) (schema : Schema) : Prop :=
  ∀ definition ∈ schema.definitions, ∀ kind name, definition.typed? = some (kind, name) →
    ∀ value ∈ definition.inputValues, ∀ metadata use,
      domain.Passes resolvers (domain.finalDiscovery resolvers).registry definition metadata use
        value →
      ∀ text, metadata.default = some (.text text) → ∀ literal, value.default = some literal →
        schema.allows value.type literal = true

/-- An empty filter is taken as a default, though the limit must be given. -/
theorem defaults_not_legal : ∃ schema, shop.build [browsing "\x7b\x7d"] = .ok schema ∧
    ¬ shop.DefaultsLegal [browsing "\x7b\x7d"] schema := by
  have observed : ∃ schema, shop.build [browsing "\x7b\x7d"] = .ok schema ∧ Browses schema false :=
    browses_of_observed (by decide +kernel)
  obtain ⟨schema, built, query, member, typed, value, listed, literal, default, present, illegal⟩ :=
    observed
  refine ⟨schema, built, fun all => ?_⟩
  obtain ⟨metadata, use, passes⟩ := (built_of_build built).passes member typed listed
  obtain ⟨text, spelled⟩ := passes.text default present
  have legal := all query member _ _ typed value listed metadata use passes text spelled literal default
  rw [illegal] at legal
  cases legal

end Domain

end SchemaDiscovery
