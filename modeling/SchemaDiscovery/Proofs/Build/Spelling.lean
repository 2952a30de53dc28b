import SchemaDiscovery.Proofs.Build.Depiction
import SchemaDiscovery.Proofs.Default.Legality
/-!
Names that a build takes over, those of fields apart. Main statements: the turns of the queue emit the
input fields and the members of the types that they take, in order, and whatever a turn defines or extends
goes by a name that is then defined in full.
-/

namespace SchemaDiscovery

namespace Definition

def ownName? : Definition → Option String
  | .schema _ => none
  | .directive definition => some definition.name
  | .type definition => some definition.name

end Definition

def Turn.entry? : Turn → Option DiscoveredType
  | .resolver _ => none
  | .entry taken => some taken

/-- The definitions have input fields and enum values of these names. -/
structure Spells (definitions : List Definition) (values members : List String) : Prop where
  values : (definitions.flatMap Definition.ownValues).map (·.name) = values
  members : (definitions.flatMap Definition.enumValues).map (·.name) = members

theorem Spells.append {first later : List Definition} {values members others rest : List String}
    (spells : Spells first values members) (further : Spells later others rest) :
    Spells (first ++ later) (values ++ others) (members ++ rest) where
  values := by rw [List.flatMap_append, List.map_append, spells.values, further.values]
  members := by rw [List.flatMap_append, List.map_append, spells.members, further.members]

theorem Spells.nil : Spells [] [] [] := ⟨rfl, rfl⟩

/-- The definition goes by a name that is defined in full, and names an interface only if it is the full
definition of an object. -/
def Discovery.Covers (discovery : Discovery) (definition : Definition) : Prop :=
  ∃ name kind, definition.ownName? = some name ∧ name ∈ discovery.defined kind ∧
    (definition.implements ≠ [] → definition.fullName? .object = some name)

namespace Discovery

variable {start finish : Discovery} {name : String} {fields : List BoundField}

theorem spells_of_defineObject {type : Option TypeDescriptor} {implements : Option String}
    {definition : Option Definition}
    (defined : start.defineObject name type implements fields = (definition, finish)) :
    Spells definition.toList [] [] ∧ ∀ found ∈ definition.toList, finish.Covers found := by
  have covered := mem_definedObjects defined
  cases defineObject_defines defined with
  | full implementations fresh =>
    refine ⟨⟨rfl, rfl⟩, fun found member => ?_⟩
    rw [List.mem_singleton.1 member]
    exact ⟨name, .object, rfl, covered, fun _ => rfl⟩
  | nothing known none => exact ⟨.nil, nofun⟩
  | extension known some =>
    refine ⟨⟨rfl, rfl⟩, fun found member => ?_⟩
    rw [List.mem_singleton.1 member]
    exact ⟨name, .object, rfl, covered, absurd rfl⟩

theorem spells_of_defineInterface {type : TypeDescriptor} {definition : Definition}
    (defined : start.defineInterface name type fields = .ok (definition, finish)) :
    Spells [definition] [] [] ∧ ∀ found ∈ [definition], finish.Covers found := by
  obtain ⟨-, rfl, rfl⟩ := defineInterface_ok defined
  refine ⟨⟨rfl, rfl⟩, fun found member => ?_⟩
  rw [List.mem_singleton.1 member]
  exact ⟨name, .interface, rfl, List.mem_cons_self, absurd rfl⟩

end Discovery

namespace Domain

variable {domain : Domain} {resolvers : List Resolver} {turn : Turn} {start finish : Discovery}
  {definitions : List Definition}

def valueNames (domain : Domain) (entry : DiscoveredType) : List String :=
  match entry.kind, domain.catalog.lookup? entry.source with
  | .input, some type => (domain.catalog.inputFieldsOf type).map (·.name)
  | _, _ => []

def memberNames (domain : Domain) (entry : DiscoveredType) : List String :=
  match entry.kind, domain.catalog.lookup? entry.source with
  | .enum, some type => type.members?.getD []
  | _, _ => []

theorem names_of_inputValues {name : String} {type : TypeDescriptor} {values : List InputValue}
    {before after : Registry} (given : Gives (domain.inputValues name type) before values after) :
    values.map (·.name) = (domain.catalog.inputFieldsOf type).map (·.name) := by
  rw [← List.forall₂_eq_eq_eq, List.forall₂_map_left_iff, List.forall₂_map_right_iff]
  exact (makesValues_of_inputValues given).flip.imp fun _ _ => MakesValue.name_eq

theorem Step.mem_emittedOf {entry : DiscoveredType}
    (step : domain.Step (.entry entry) start definitions finish) :
    entry.name ∈ finish.registry.emittedOf entry.kind := by
  obtain ⟨emitted, known⟩ := step.emitted_entry
  refine List.mem_filter.2 ⟨?_, decide_eq_true known⟩
  rw [emitted]
  exact List.mem_cons_self

theorem Step.spells (step : domain.Step turn start definitions finish) :
    Spells definitions (turn.entry?.elim [] domain.valueNames)
        (turn.entry?.elim [] domain.memberNames) ∧
      ∀ definition ∈ definitions, finish.Covers definition := by
  have whole := step
  cases step with
  | root role contributed defined => exact Discovery.spells_of_defineObject defined
  | extension role discovered kind contributed present defined =>
    exact Discovery.spells_of_defineObject defined
  | resolvedInterface role discovered kind contributed first present declared defined =>
    exact Discovery.spells_of_defineInterface defined
  | object popped object present declared defined =>
    simp only [Turn.entry?, Option.elim_some, valueNames, memberNames, object]
    exact Discovery.spells_of_defineObject defined
  | interface popped interface present declared defined =>
    simp only [Turn.entry?, Option.elim_some, valueNames, memberNames, interface]
    exact Discovery.spells_of_defineInterface defined
  | builtInterface popped interface built resolved =>
    simp only [Turn.entry?, Option.elim_some, valueNames, memberNames, interface]
    exact ⟨.nil, nofun⟩
  | @input entry type _ _ _ values popped input present given =>
    have named := whole.mem_emittedOf
    rw [input] at named
    simp only [Turn.entry?, Option.elim_some, valueNames, memberNames, input, present]
    refine ⟨⟨?_, rfl⟩, fun definition member => ?_⟩
    · rw [← names_of_inputValues given]
      exact congrArg _ (List.append_nil _)
    · rw [List.mem_singleton.1 member]
      exact ⟨entry.name, .input, rfl, named, absurd rfl⟩
  | @enum entry type _ _ popped enum present =>
    have named := whole.mem_emittedOf
    rw [enum] at named
    simp only [Turn.entry?, Option.elim_some, valueNames, memberNames, enum, present]
    refine ⟨⟨rfl, ?_⟩, fun definition member => ?_⟩
    · simp [Definition.enumValues, enumDefinition, Function.comp_def]
    · rw [List.mem_singleton.1 member]
      exact ⟨entry.name, .enum, rfl, named, absurd rfl⟩

theorem Run.spells {turns : List Turn} (run : domain.Run turns start definitions finish) :
    Spells definitions ((turns.filterMap Turn.entry?).flatMap domain.valueNames)
      ((turns.filterMap Turn.entry?).flatMap domain.memberNames) := by
  induction run with
  | nil => exact .nil
  | @cons turn turns _ _ _ _ _ step _ ih =>
    have whole := step.spells.1.append ih
    rw [List.filterMap_cons]
    cases taken : turn.entry? with
    | none => simpa only [taken, Option.elim_none, List.nil_append] using whole
    | some entry => simpa only [taken, Option.elim_some, List.flatMap_cons] using whole

theorem Run.covers {turns : List Turn} (run : domain.Run turns start definitions finish)
    (consistent : domain.Consistent start.registry) :
    (∀ kind, start.defined kind ⊆ finish.defined kind) ∧
      ∀ definition ∈ definitions, finish.Covers definition := by
  induction run with
  | nil => exact ⟨fun kind => List.Subset.refl _, nofun⟩
  | cons step rest ih =>
    obtain ⟨kept, later⟩ := ih (step.consistent consistent)
    obtain ⟨_, _, works⟩ := step.works consistent.sound
    refine ⟨fun kind => List.Subset.trans (works.kept kind) (kept kind), fun definition member => ?_⟩
    rcases List.mem_append.1 member with here | there
    · obtain ⟨name, kind, own, covered, full⟩ := step.spells.2 definition here
      exact ⟨name, kind, own, kept kind covered, full⟩
    · exact later definition there

theorem entry_turns (resolvers : List Resolver) (entries : List DiscoveredType) :
    (resolvers.map Turn.resolver ++ entries.map Turn.entry).filterMap Turn.entry? = entries := by
  have none : (resolvers.map Turn.resolver).filterMap Turn.entry? = [] := by
    simp [List.filterMap_eq_nil_iff, Turn.entry?]
  rw [List.filterMap_append, none, List.nil_append, List.filterMap_map]
  exact List.filterMap_some

end Domain

end SchemaDiscovery
