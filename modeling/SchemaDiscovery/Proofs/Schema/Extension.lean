import SchemaDiscovery.Proofs.Build.Record
/-!
Object types and their extensions. Main statement: of the object definitions of one name in a built
schema the first is full and the others are extensions that add fields, and a name has such
definitions when it is a root type of the resolvers or recorded as an object.
-/

namespace SchemaDiscovery

namespace Definition

inductive AddsFields : Definition → Prop
  | mk (name : String) (field : FieldDefinition) (fields : List FieldDefinition) :
    AddsFields (.type { name, isExtension := true, body := .object [] (field :: fields) })

end Definition

/-- How a step goes on with the definitions of an object, given the objects defined before and
after. -/
inductive Continues (name : String) (before after : List String) (definitions : List Definition) :
    Prop
  | untouched (none : definitions.filter (·.isObjectOf name) = [])
    (same : name ∈ after ↔ name ∈ before)
  | first {full : Definition} (one : definitions = [full]) (named : full.isObjectOf name)
    (complete : full.fullName? .object = some name) (fresh : name ∉ before) (now : name ∈ after)
  | further {extension : Definition} (one : definitions = [extension])
    (named : extension.isObjectOf name) (adds : extension.AddsFields) (known : name ∈ before)
    (still : name ∈ after)

theorem Discovery.defineObject_continues {start finish : Discovery} {name : String}
    {type : Option TypeDescriptor} {implements : Option String} {fields : List BoundField}
    {definition : Option Definition}
    (defined : start.defineObject name type implements fields = (definition, finish))
    (other : String) :
    Continues other start.definedObjects finish.definedObjects definition.toList := by
  have named (found : Definition) (member : found ∈ definition) : found.isObjectOf name :=
    (defineObject_fields defined found (Option.mem_toList.2 member)).1
  cases defineObject_defines defined with
  | full implementations fresh =>
    by_cases same : name = other
    · subst same
      exact .first rfl (named _ rfl) (by rw [Definition.fullName_type rfl rfl, if_pos rfl]) fresh
        List.mem_cons_self
    · refine .untouched (by simp [Definition.isObjectOf, same]) ?_
      rw [List.mem_cons]
      exact or_iff_right (Ne.symm same)
  | nothing known none => exact .untouched rfl Iff.rfl
  | extension known some =>
    by_cases same : name = other
    · subst same
      refine .further rfl (named _ rfl) ?_ known known
      obtain ⟨field, rest, shape⟩ := List.exists_cons_of_ne_nil some
      rw [shape]
      exact .mk name field.definition (rest.map (·.definition))
    · exact .untouched (by simp [Definition.isObjectOf, same]) Iff.rfl

/-- The definitions of an object so far: none before its name is defined, then the full one and
extensions. -/
def ObjectsOrdered (name : String) (discovery : Discovery) (definitions : List Definition) :
    Prop :=
  (name ∉ discovery.definedObjects ∧ definitions.filter (·.isObjectOf name) = []) ∨
  (name ∈ discovery.definedObjects ∧ ∃ full extensions,
    definitions.filter (·.isObjectOf name) = full :: extensions ∧
    full.fullName? .object = some name ∧ ∀ extension ∈ extensions, extension.AddsFields)

namespace Domain

variable {domain : Domain} {turn : Turn} {start finish : Discovery}
  {definitions : List Definition}

theorem Step.continues (step : domain.Step turn start definitions finish) (name : String) :
    Continues name start.definedObjects finish.definedObjects definitions := by
  cases step with
  | root role contributed defined => exact Discovery.defineObject_continues defined name
  | extension role discovered kind contributed present defined =>
    exact Discovery.defineObject_continues defined name
  | resolvedInterface role discovered kind contributed first present declared defined =>
    obtain ⟨-, rfl, rfl⟩ := Discovery.defineInterface_ok defined
    exact .untouched rfl Iff.rfl
  | object popped kind present declared defined =>
    exact Discovery.defineObject_continues defined name
  | interface popped kind present declared defined =>
    obtain ⟨-, rfl, rfl⟩ := Discovery.defineInterface_ok defined
    exact .untouched rfl Iff.rfl
  | builtInterface popped kind built resolved => exact .untouched rfl Iff.rfl
  | input popped kind present given => exact .untouched rfl Iff.rfl
  | enum popped kind present => exact .untouched rfl Iff.rfl

theorem Step.ordered {name : String} {before : List Definition}
    (step : domain.Step turn start definitions finish)
    (ordered : ObjectsOrdered name start before) :
    ObjectsOrdered name finish (before ++ definitions) := by
  unfold ObjectsOrdered
  rw [List.filter_append]
  cases step.continues name with
  | untouched none same =>
    rw [none, List.append_nil, same]
    exact ordered
  | @first full one named complete fresh now =>
    have alone : definitions.filter (·.isObjectOf name) = [full] := by simp [one, named]
    rcases ordered with ⟨-, nothing⟩ | ⟨member, -⟩
    · exact .inr ⟨now, full, [], by rw [nothing, alone, List.nil_append], complete, nofun⟩
    · exact absurd member fresh
  | @further extension one named adds known still =>
    have alone : definitions.filter (·.isObjectOf name) = [extension] := by simp [one, named]
    rcases ordered with ⟨absent, -⟩ | ⟨-, full, extensions, objects, complete, all⟩
    · exact absurd known absent
    · refine .inr ⟨still, full, extensions ++ [extension], ?_, complete, ?_⟩
      · rw [objects, alone, List.cons_append]
      · intro other member
        rcases List.mem_append.1 member with earlier | last
        · exact all other earlier
        · rw [List.mem_singleton.1 last]
          exact adds

theorem Run.ordered {turns : List Turn} {name : String} {before : List Definition}
    (run : domain.Run turns start definitions finish)
    (ordered : ObjectsOrdered name start before) :
    ObjectsOrdered name finish (before ++ definitions) :=
  run.preserves (fun _ => ObjectsOrdered name) (fun holds step => step.ordered holds) [] ordered

variable {resolvers : List Resolver} {schema : Schema}

theorem Built.ordered (built : domain.Built resolvers schema) (name : String) :
    ObjectsOrdered name (domain.finalDiscovery resolvers) schema.definitions := by
  obtain ⟨entries, definitions, run, rfl⟩ := built.run
  have ordered : ObjectsOrdered name _ ([] ++ definitions) := run.ordered (.inl ⟨nofun, rfl⟩)
  have same : ((domain.finalDiscovery resolvers).finish (domain.directiveDefinitions ++
      domain.scalarDeclarations ++ definitions)).definitions.filter (·.isObjectOf name) =
        definitions.filter (·.isObjectOf name) := by
    rw [Discovery.finish, List.filter_append, isObjectOf_declarations, List.nil_append]
  unfold ObjectsOrdered
  rw [same]
  exact ordered

/-- The first object definition of a name is full and the others only add fields; there are some
for the root types of the resolvers and for what is recorded as an object. -/
theorem objects_ordered (built : domain.build resolvers = .ok schema) (name : String) :
    (∀ first later, schema.definitions.filter (·.isObjectOf name) = first :: later →
      first.fullName? .object = some name ∧ ∀ extension ∈ later, extension.AddsFields) ∧
    ((∃ definition ∈ schema.definitions, definition.isObjectOf name) ↔
      (∃ resolver ∈ resolvers, resolver.role.rootName? = some name) ∨
        (domain.finalDiscovery resolvers).registry.kindOf? name = some .object) := by
  have whole := built_of_build built
  have known : name ∈ (domain.finalDiscovery resolvers).definedObjects ↔ _ :=
    whole.mem_defined name .object
  have some : (∃ definition ∈ schema.definitions, definition.isObjectOf name) ↔
      schema.definitions.filter (·.isObjectOf name) ≠ [] := by
    simp [List.filter_eq_nil_iff]
  rw [some]
  rcases whole.ordered name with ⟨absent, none⟩ | ⟨present, full, extensions, objects, complete, all⟩
  · rw [none]
    refine ⟨nofun, iff_of_false (by simp) fun either => absent (known.2 ?_)⟩
    exact either.elim (fun root => .inr ⟨rfl, root⟩) .inl
  · rw [objects]
    constructor
    · rintro _ _ ⟨⟩
      exact ⟨complete, all⟩
    · refine iff_of_true (by simp) ?_
      exact (known.1 present).elim .inr fun root => .inl root.2

def county : Domain where
  catalog := .ofTypes [
    { key := ⟨"county::Town"⟩
      methods := [{ name := "getName", returns := some (.atom (.boxed .string) []) }] }]

def townResolvers : List Resolver := [
  { name := "Towns", role := .query
    methods := [{
      name := "capital", params := [⟨"context", .atom .context [], []⟩]
      returns := some (.atom (.named ⟨"county::Town"⟩) []) }] },
  { name := "Mayors", role := .extension ⟨"county::Town"⟩
    methods := [{
      name := "mayor"
      params := [⟨"town", .atom (.named ⟨"county::Town"⟩) [], []⟩,
        ⟨"context", .atom .context [], []⟩]
      returns := some (.atom (.boxed .string) []) }] }]

theorem objects_ordered_county : ∃ schema, county.build townResolvers = .ok schema ∧
    (schema.definitions.filter (·.isObjectOf "Town")).map (·.keyword) = ["type", "extend type"] ∧
    (∀ first later, schema.definitions.filter (·.isObjectOf "Town") = first :: later →
      first.fullName? .object = some "Town" ∧ ∀ extension ∈ later, extension.AddsFields) ∧
    ((∃ definition ∈ schema.definitions, definition.isObjectOf "Town") ↔
      (∃ resolver ∈ townResolvers, resolver.role.rootName? = some "Town") ∨
        (county.finalDiscovery townResolvers).registry.kindOf? "Town" = some .object) := by
  have observed : (county.build townResolvers).toOption.map (fun schema =>
      (schema.definitions.filter (·.isObjectOf "Town")).map (·.keyword)) =
        some ["type", "extend type"] := by decide +kernel
  obtain ⟨schema, built, seen⟩ := build_observed observed
  exact ⟨schema, built, seen, objects_ordered built "Town"⟩

end Domain

end SchemaDiscovery
