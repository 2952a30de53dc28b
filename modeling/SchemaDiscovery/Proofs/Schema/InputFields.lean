import SchemaDiscovery.Proofs.Build.Spelling
import SchemaDiscovery.Proofs.Methods.Setters
import SchemaDiscovery.Proofs.Schema.Contribution
/-!
Fields of input types that are declared more than once. Main statement: the input definitions of a built
schema have distinct fields exactly when the setters of each type that becomes one are apart. The fields
of other types are made distinct as they are emitted; those of input types are emitted one for each
setter.
-/

namespace SchemaDiscovery

def Definition.inputNames? : Definition → Option (List String)
  | .type { body := .input values, .. } => some (values.map (·.name))
  | _ => none

def Schema.inputNames (schema : Schema) : List (List String) :=
  schema.definitions.filterMap Definition.inputNames?

namespace Discovery

variable {start finish : Discovery} {name : String} {fields : List BoundField}

theorem noInput_of_defineObject {type : Option TypeDescriptor} {implements : Option String}
    {definition : Option Definition}
    (defined : start.defineObject name type implements fields = (definition, finish)) :
    definition.toList.filterMap Definition.inputNames? = [] := by
  cases defineObject_defines defined <;> rfl

theorem noInput_of_defineInterface {type : TypeDescriptor} {definition : Definition}
    (defined : start.defineInterface name type fields = .ok (definition, finish)) :
    [definition].filterMap Definition.inputNames? = [] := by
  obtain ⟨-, rfl, -⟩ := defineInterface_ok defined
  rfl

end Discovery

namespace Domain

variable {domain : Domain} {resolvers : List Resolver} {turn : Turn} {start finish : Discovery}
  {definitions : List Definition} {schema : Schema}

def inputNames? (domain : Domain) (entry : DiscoveredType) : Option (List String) :=
  match entry.kind, domain.catalog.lookup? entry.source with
  | .input, some type => some ((domain.catalog.inputFieldsOf type).map (·.name))
  | _, _ => none

theorem Step.inputNames (step : domain.Step turn start definitions finish) :
    definitions.filterMap Definition.inputNames? = (turn.entry?.bind domain.inputNames?).toList := by
  cases step with
  | root role contributed defined => exact Discovery.noInput_of_defineObject defined
  | extension role discovered kind contributed present defined =>
    exact Discovery.noInput_of_defineObject defined
  | resolvedInterface role discovered kind contributed first present declared defined =>
    exact Discovery.noInput_of_defineInterface defined
  | object popped object present declared defined =>
    simp only [Turn.entry?, Option.bind_some, inputNames?, object]
    exact Discovery.noInput_of_defineObject defined
  | interface popped interface present declared defined =>
    simp only [Turn.entry?, Option.bind_some, inputNames?, interface]
    exact Discovery.noInput_of_defineInterface defined
  | builtInterface popped interface built resolved =>
    simp only [Turn.entry?, Option.bind_some, inputNames?, interface]
    rfl
  | input popped input present given =>
    simp only [Turn.entry?, Option.bind_some, inputNames?, input, present, Option.toList_some]
    rw [← names_of_inputValues given]
    rfl
  | enum popped enum present =>
    simp only [Turn.entry?, Option.bind_some, inputNames?, enum]
    rfl

theorem Run.inputNames {turns : List Turn} (run : domain.Run turns start definitions finish) :
    definitions.filterMap Definition.inputNames? =
      (turns.filterMap Turn.entry?).filterMap domain.inputNames? := by
  induction run with
  | nil => rfl
  | @cons turn turns _ _ _ _ _ step _ ih =>
    rw [List.filterMap_append, step.inputNames, ih, List.filterMap_cons]
    cases turn.entry? with
    | none => rfl
    | some entry =>
      rw [Option.bind_some]
      cases names : domain.inputNames? entry with
      | none => simp [names]
      | some given => simp [names]

theorem inputNames_of_build (built : domain.build resolvers = .ok schema) :
    schema.inputNames = (domain.taken resolvers).filterMap domain.inputNames? := by
  obtain ⟨definitions, run, rfl⟩ := run_of_build built
  have declarations : (domain.directiveDefinitions ++ domain.scalarDeclarations).filterMap
      Definition.inputNames? = [] := by
    rw [List.filterMap_eq_nil_iff]
    intro definition member
    rcases declaration_cases member with rfl | ⟨name, rfl⟩
    · rfl
    · rfl
  rw [Schema.inputNames, Discovery.finish, List.filterMap_append, declarations, List.nil_append,
    run.inputNames, entry_turns]

/-- A type from the queue becomes an input type. -/
def BecomesInput (domain : Domain) (resolvers : List Resolver) (type : TypeDescriptor) : Prop :=
  ∃ entry ∈ domain.taken resolvers, entry.kind = .input ∧
    domain.catalog.lookup? entry.source = some type

theorem mem_inputNames (built : domain.build resolvers = .ok schema) {names : List String} :
    names ∈ schema.inputNames ↔ ∃ type, domain.BecomesInput resolvers type ∧
      (domain.catalog.inputFieldsOf type).map (·.name) = names := by
  rw [inputNames_of_build built, List.mem_filterMap]
  constructor
  · rintro ⟨entry, taken, given⟩
    unfold inputNames? at given
    split at given
    · next type input present =>
      exact ⟨type, ⟨entry, taken, input, present⟩, Option.some_inj.1 given⟩
    · cases given
  · rintro ⟨type, ⟨entry, taken, input, present⟩, rfl⟩
    refine ⟨entry, taken, ?_⟩
    simp only [inputNames?, input, present]

/-- The fields of the input definitions are distinct exactly when the setters of each type that becomes
an input type are apart. So they are where every setter is named plainly. -/
theorem input_fields_distinct_iff (built : domain.build resolvers = .ok schema) :
    ((∀ names ∈ schema.inputNames, names.Nodup) ↔
      ∀ type, domain.BecomesInput resolvers type → domain.catalog.SettersApart type) ∧
    ((∀ type, domain.BecomesInput resolvers type →
        ∀ setter name, domain.catalog.Sets type setter name →
          (Storage.ofOwner domain.catalog type .input).NamesPlainly setter) →
      ∀ names ∈ schema.inputNames, names.Nodup) := by
  have distinct : (∀ names ∈ schema.inputNames, names.Nodup) ↔
      ∀ type, domain.BecomesInput resolvers type → domain.catalog.SettersApart type := by
    simp only [mem_inputNames built, ← Catalog.nodup_inputFieldsOf]
    constructor
    · intro all type becomes
      exact all _ ⟨type, becomes, rfl⟩
    · rintro all _ ⟨type, becomes, rfl⟩
      exact all type becomes
  refine ⟨distinct, fun plain => distinct.2 fun type becomes => ?_⟩
  exact Catalog.settersApart_of_plain (plain type becomes)

def textSetter (name : String) (tags : List Tag) : Method where
  name
  params := [⟨"text", .atom (.boxed .string) [], []⟩]
  tags

def helpdesk (first second : Method) : Domain where
  catalog := .ofTypes [{ key := ⟨"desk::Ticket"⟩, methods := [first, second] }]

def filing : Resolver where
  name := "Filing"
  role := .query
  methods := [{
    name := "file"
    params := [⟨"ticket", .atom (.named ⟨"desk::Ticket"⟩) [], []⟩,
      ⟨"context", .atom .context [], []⟩]
    returns := some (.atom (.boxed .string) []) }]

def assigning : Domain :=
  helpdesk (textSetter "setTitle" []) (textSetter "setOwner" [.rename "assignee"])

theorem input_fields_distinct_assigning : ∃ schema, assigning.build [filing] = .ok schema ∧
    schema.inputNames = [["title", "assignee"]] ∧
    ((∀ names ∈ schema.inputNames, names.Nodup) ↔
      ∀ type, assigning.BecomesInput [filing] type → assigning.catalog.SettersApart type) ∧
    ((∀ type, assigning.BecomesInput [filing] type →
        ∀ setter name, assigning.catalog.Sets type setter name →
          (Storage.ofOwner assigning.catalog type .input).NamesPlainly setter) →
      ∀ names ∈ schema.inputNames, names.Nodup) := by
  have observed : (assigning.build [filing]).toOption.map (·.inputNames) =
      some [["title", "assignee"]] := by
    decide +kernel
  obtain ⟨schema, built, seen⟩ := build_observed observed
  exact ⟨schema, built, seen, input_fields_distinct_iff built⟩

/-- A setter is renamed to what another is named for, and the Kelvin sign becomes the small letter that
the capital K becomes. -/
theorem input_fields_not_distinct :
    (∃ schema, (helpdesk (textSetter "setTitle" []) (textSetter "setLabel" [.rename "title"])).build
      [filing] = .ok schema ∧ ¬ ∀ names ∈ schema.inputNames, names.Nodup) ∧
    ∃ schema, (helpdesk (textSetter "setKind" []) (textSetter "set\u212Aind" [])).build
      [filing] = .ok schema ∧ ¬ ∀ names ∈ schema.inputNames, names.Nodup := by
  have renamed : ((helpdesk (textSetter "setTitle" [])
      (textSetter "setLabel" [.rename "title"])).build [filing]).toOption.map (·.inputNames) =
        some [["title", "title"]] := by
    decide +kernel
  have lowered : ((helpdesk (textSetter "setKind" [])
      (textSetter "set\u212Aind" [])).build [filing]).toOption.map (·.inputNames) =
        some [["kind", "kind"]] := by
    decide +kernel
  obtain ⟨first, built, seen⟩ := build_observed renamed
  obtain ⟨second, again, repeated⟩ := build_observed lowered
  refine ⟨⟨first, built, ?_⟩, second, again, ?_⟩
  · rw [seen]
    decide
  · rw [repeated]
    decide

end Domain

end SchemaDiscovery
