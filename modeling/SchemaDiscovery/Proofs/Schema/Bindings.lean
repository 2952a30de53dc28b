import SchemaDiscovery.Proofs.Build.Provenance
/-!
Bindings and definitions. Main statement: the bindings of a built schema are those of the fields of
its objects, extensions and interfaces, one for each field and in the same order.
-/

namespace SchemaDiscovery

/-- The shape tells whether the value is a list, unless it is streamed. -/
def FieldShape.Fits (shape : FieldShape) (type : TypeRef) : Prop :=
  (shape = .list → type.isList = true) ∧ (shape = .plain → type.isList = false)

theorem BoundField.Shaped.fits {field : BoundField} (shaped : field.Shaped) :
    field.shape.Fits field.definition.type :=
  ⟨shaped.isList_of_list, shaped.not_isList_of_plain⟩

def Schema.sites (schema : Schema) : List (String × FieldDefinition) :=
  schema.definitions.flatMap Definition.sites

structure FieldBinding.Mirrors (binding : FieldBinding) (site : String × FieldDefinition) : Prop where
  parent : binding.parentType = site.1
  field : binding.field = site.2.name
  shape : binding.shape.Fits site.2.type

namespace Domain

variable {domain : Domain} {resolvers : List Resolver} {schema : Schema}

theorem mirrors_of_shaped {fields : List BoundField} {name : String}
    (shaped : ∀ field ∈ fields, field.Shaped) :
    List.Forall₂ FieldBinding.Mirrors (fields.map (·.bind name))
      (fields.map fun field => (name, field.definition)) := by
  rw [List.forall₂_map_left_iff, List.forall₂_map_right_iff, List.forall₂_same]
  exact fun field member => ⟨rfl, rfl, (shaped field member).fits⟩

theorem Run.mirrors {turns : List Turn} {start finish : Discovery} {definitions : List Definition}
    (run : domain.Run turns start definitions finish)
    (among : ∀ turn ∈ turns, turn.Among resolvers)
    (keeps : domain.KeepsExtras resolvers start) :
    (∃ added, finish.bindings = start.bindings ++ added ∧
      List.Forall₂ FieldBinding.Mirrors added (definitions.flatMap Definition.sites)) ∧
    ∀ definition ∈ definitions, (definition.fields.map (·.name)).Nodup := by
  induction run with
  | nil => exact ⟨⟨[], (List.append_nil _).symm, .nil⟩, nofun⟩
  | cons step rest ih =>
    have first := among _ List.mem_cons_self
    obtain ⟨kind, name, fields, shows, comes⟩ := step.shows first keeps
    obtain ⟨⟨later, added, mirrored⟩, distinct⟩ :=
      ih (fun turn member => among turn (List.mem_cons_of_mem _ member))
        (step.keepsExtras first keeps)
    have shaped : ∀ field ∈ fields, field.Shaped := by
      intro field member
      obtain ⟨_, -, makes⟩ := comes field member
      exact makes.shaped
    refine ⟨⟨fields.map (·.bind name) ++ later, ?_, ?_⟩, fun definition member => ?_⟩
    · rw [added, shows.bindings, List.append_assoc]
    · rw [List.flatMap_append, shows.sites]
      exact List.rel_append (mirrors_of_shaped shaped) mirrored
    · rcases List.mem_append.1 member with emitted | emitted
      · rw [shows.fields definition emitted, List.map_map]
        exact shows.distinct
      · exact distinct definition emitted

theorem fields_declarations : ∀ definition ∈ domain.directiveDefinitions ++
    domain.scalarDeclarations, definition.fields = [] ∧ definition.sites = [] := by
  intro definition member
  rcases declaration_cases member with rfl | ⟨name, rfl⟩
  · exact ⟨rfl, rfl⟩
  · exact ⟨rfl, rfl⟩

/-- The bindings tell for each field of the output, in order, the type, the field and the shape. -/
theorem bindings_mirror (built : domain.build resolvers = .ok schema) :
    (schema.bindings.map fun binding => (binding.parentType, binding.field)) =
      (schema.sites.map fun site => (site.1, site.2.name)) ∧
    (∀ definition ∈ schema.definitions, (definition.fields.map (·.name)).Nodup) ∧
    ∀ pair ∈ schema.bindings.zip schema.sites, pair.1.shape.Fits pair.2.2.type := by
  obtain ⟨entries, definitions, run, rfl⟩ := (built_of_build built).run
  obtain ⟨⟨added, same, mirrored⟩, distinct⟩ :=
    run.mirrors Turn.among_of_mem keepsExtras_empty
  have declarations : (domain.directiveDefinitions ++ domain.scalarDeclarations).flatMap
      Definition.sites = [] := by
    rw [List.flatMap_eq_nil_iff]
    exact fun definition member => (fields_declarations definition member).2
  have all : List.Forall₂ FieldBinding.Mirrors (domain.finalDiscovery resolvers).bindings
      ((domain.directiveDefinitions ++ domain.scalarDeclarations ++ definitions).flatMap
        Definition.sites) := by
    rw [same, List.flatMap_append, declarations]
    exact mirrored
  refine ⟨?_, fun definition member => ?_, fun pair member => ?_⟩
  · rw [← List.forall₂_eq_eq_eq, List.forall₂_map_left_iff, List.forall₂_map_right_iff]
    exact all.imp fun binding site mirrors => Prod.ext mirrors.parent mirrors.field
  · rcases List.mem_append.1 member with declared | emitted
    · rw [(fields_declarations definition declared).1]
      exact .nil
    · exact distinct definition emitted
  · exact ((List.forall₂_iff_zip.1 all).2 member).shape

def fleet : Domain × List Resolver :=
  ({ catalog := .ofTypes [
      { key := ⟨"fleet::Ship"⟩
        methods := [{ name := "getName", returns := some (.atom (.boxed .string) []) }] }] },
    [{ name := "Harbour", role := .query
       methods := [
        { name := "ships", params := [⟨"context", .atom .context [], []⟩]
          returns := some (.generic .list [.atom (.named ⟨"fleet::Ship"⟩) []] []) }] },
      { name := "Crewing", role := .extension ⟨"fleet::Ship"⟩
        methods := [
          { name := "captain", params := [⟨"ship", .atom (.named ⟨"fleet::Ship"⟩) [], []⟩]
            returns := some (.atom (.boxed .string) []) }] }])

theorem bindings_mirror_fleet : ∃ schema, fleet.1.build fleet.2 = .ok schema ∧
    (schema.bindings.map fun binding => (binding.parentType, binding.field, binding.shape)) =
      [("Query", "ships", .list), ("Ship", "captain", .plain), ("Ship", "name", .plain)] ∧
    (schema.bindings.map fun binding => (binding.parentType, binding.field)) =
      (schema.sites.map fun site => (site.1, site.2.name)) ∧
    (∀ definition ∈ schema.definitions, (definition.fields.map (·.name)).Nodup) ∧
    ∀ pair ∈ schema.bindings.zip schema.sites, pair.1.shape.Fits pair.2.2.type := by
  have observed : (fleet.1.build fleet.2).toOption.map (fun schema =>
      schema.bindings.map fun binding => (binding.parentType, binding.field, binding.shape)) =
        some [("Query", "ships", .list), ("Ship", "captain", .plain), ("Ship", "name", .plain)] := by
    decide +kernel
  obtain ⟨schema, built, seen⟩ := build_observed observed
  exact ⟨schema, built, seen, bindings_mirror built⟩

end Domain

end SchemaDiscovery
