import SchemaDiscovery.Proofs.Build.Spelling
import SchemaDiscovery.Proofs.Definition.Constant
import SchemaDiscovery.Proofs.Schema.Closure
import SchemaDiscovery.Proofs.Schema.Contribution
/-!
Names in the output. Main statement: all names of a built schema are legal, and no enum value is a
reserved word, exactly when this holds of the names that are taken over from the catalog and the
resolvers. A build checks the name of the JSON scalar only.
-/

namespace SchemaDiscovery

/-- The names that a definition declares or refers to are legal, and none of its enum values is a
reserved word. -/
structure Definition.NamesLegal (definition : Definition) : Prop where
  own : ∀ name, definition.ownName? = some name → isLegalName name
  interfaces : ∀ interface ∈ definition.implements, isLegalName interface
  fields : ∀ field ∈ definition.fields, isLegalName field.name ∧ isLegalName field.type.base
  values : ∀ value ∈ definition.inputValues, isLegalName value.name ∧ isLegalName value.type.base
  members : ∀ member ∈ definition.enumValues,
    isLegalName member.name ∧ member.name ∉ Constant.reserved

def Schema.NamesLegal (schema : Schema) : Prop :=
  ∀ definition ∈ schema.definitions, definition.NamesLegal

structure Outline.IsLegal (outline : Outline) : Prop where
  name : isLegalName outline.name
  arguments : ∀ argument ∈ outline.arguments, isLegalName argument

/-- The names that a type from the queue brings are legal, those of its fields apart. -/
structure Domain.SpellsLegally (domain : Domain) (entry : DiscoveredType) : Prop where
  name : isLegalName entry.name
  values : ∀ value ∈ domain.valueNames entry, isLegalName value
  members : ∀ member ∈ domain.memberNames entry, isLegalName member ∧ member ∉ Constant.reserved

theorem Schema.forall_sites {schema : Schema} {property : FieldDefinition → Prop} :
    (∀ site ∈ schema.sites, property site.2) ↔
      ∀ definition ∈ schema.definitions, ∀ field ∈ definition.fields, property field := by
  rw [sites, List.forall_mem_flatMap]
  refine forall₂_congr fun definition _ => ?_
  cases definition with
  | type definition => exact List.forall_mem_map
  | schema definition => exact iff_of_true (List.forall_mem_nil _) (List.forall_mem_nil _)
  | directive definition => exact iff_of_true (List.forall_mem_nil _) (List.forall_mem_nil _)

theorem FieldDefinition.isLegal_outline {field : FieldDefinition} :
    field.outline.IsLegal ↔
      isLegalName field.name ∧ ∀ argument ∈ field.arguments, isLegalName argument.name := by
  constructor
  · intro legal
    exact ⟨legal.name, List.forall_mem_map.1 legal.arguments⟩
  · rintro ⟨named, passed⟩
    exact ⟨named, List.forall_mem_map.2 passed⟩

theorem isLegal_builtinScalar {name : String} (builtin : isBuiltinScalar name) :
    isLegalName name := by
  have all : ∀ scalar ∈ builtinScalars, isLegalName scalar := by decide
  exact all name (List.contains_iff_mem.1 builtin)

theorem isLegal_scalar (kind : ValueKind) : isLegalName kind.scalar := by
  cases kind <;> decide

theorem isLegal_rootName {role : ResolverRole} {name : String} (root : role.rootName? = some name) :
    isLegalName name := by
  cases role <;> cases root <;> decide

theorem isLegal_customScalars {jsonScalar : String} (legal : isLegalName jsonScalar) :
    ∀ name ∈ customScalars jsonScalar, isLegalName name := by
  intro name member
  have listed := (List.mem_filter.1 (List.mem_eraseDups.1 member)).1
  rcases List.mem_append.1 listed with scalar | json
  · obtain ⟨kind, -, rfl⟩ := List.mem_map.1 scalar
    exact isLegal_scalar kind
  · rw [List.mem_singleton.1 json]
    exact legal

namespace Domain

variable {domain : Domain} {resolvers : List Resolver} {schema : Schema}

theorem isLegal_jsonScalar (built : domain.build resolvers = .ok schema) :
    isLegalName domain.config.jsonScalar := by
  by_contra illegal
  unfold build at built
  rw [Config.objection?, if_pos (by simpa using illegal)] at built
  cases built

theorem spells_of_build (built : domain.build resolvers = .ok schema) :
    Spells schema.definitions
      ((domain.directiveDefinitions.flatMap Definition.ownValues).map (·.name) ++
        (domain.taken resolvers).flatMap domain.valueNames)
      ((domain.taken resolvers).flatMap domain.memberNames) := by
  obtain ⟨definitions, run, rfl⟩ := run_of_build built
  have spells := run.spells
  rw [entry_turns] at spells
  have directives : Spells domain.directiveDefinitions
      ((domain.directiveDefinitions.flatMap Definition.ownValues).map (·.name)) [] := by
    refine ⟨rfl, ?_⟩
    unfold directiveDefinitions
    split <;> rfl
  have scalars : Spells domain.scalarDeclarations [] [] := by
    have plain : ∀ definition ∈ domain.scalarDeclarations,
        definition.ownValues = [] ∧ definition.enumValues = [] := by
      intro definition member
      unfold scalarDeclarations scalarDefinitions at member
      split at member
      · obtain ⟨name, -, rfl⟩ := List.mem_map.1 member
        exact ⟨rfl, rfl⟩
      · cases member
    constructor
    · rw [List.flatMap_eq_nil_iff.2 fun definition member => (plain definition member).1]
      rfl
    · rw [List.flatMap_eq_nil_iff.2 fun definition member => (plain definition member).2]
      rfl
  have whole := (directives.append scalars).append spells
  rwa [List.append_nil] at whole

theorem isLegal_of_kindOf (built : domain.build resolvers = .ok schema) {name : String}
    {kind : TypeKind} (recorded : ∀ entry ∈ domain.taken resolvers, isLegalName entry.name)
    (found : (domain.finalDiscovery resolvers).registry.kindOf? name = some kind) :
    isLegalName name := by
  obtain ⟨entry, taken, rfl⟩ := List.mem_map.1 ((mem_taken built).2 ⟨kind, found⟩)
  exact recorded entry taken

theorem isLegal_of_resolves (built : domain.build resolvers = .ok schema) {direction : Direction}
    {name : String}
    (recorded : ∀ entry ∈ domain.taken resolvers, isLegalName entry.name)
    (resolves : domain.Resolves (domain.finalDiscovery resolvers).registry direction name) :
    isLegalName name := by
  rcases resolves with builtin | custom | ⟨kind, known, -⟩
  · exact isLegal_builtinScalar builtin
  · exact isLegal_customScalars (isLegal_jsonScalar built) name custom
  · exact isLegal_of_kindOf built recorded known

theorem isLegal_ownName (built : domain.build resolvers = .ok schema)
    (recorded : ∀ entry ∈ domain.taken resolvers, isLegalName entry.name) :
    ∀ definition ∈ schema.definitions, ∀ name, definition.ownName? = some name →
      isLegalName name := by
  have whole := built_of_build built
  obtain ⟨definitions, run, same⟩ := run_of_build built
  intro definition member name own
  rw [same] at member
  rcases List.mem_append.1 member with declaration | emitted
  · rcases List.mem_append.1 declaration with directive | scalar
    · unfold directiveDefinitions at directive
      split at directive
      · rw [List.mem_singleton.1 directive] at own
        cases own
        decide
      · cases directive
    · unfold scalarDeclarations scalarDefinitions at scalar
      split at scalar
      · obtain ⟨custom, listed, rfl⟩ := List.mem_map.1 scalar
        cases own
        exact isLegal_customScalars (isLegal_jsonScalar built) _ listed
      · cases scalar
  · obtain ⟨known, kind, named, defined, -⟩ := (run.covers consistent_empty).2 definition emitted
    rw [own] at named
    cases named
    rcases (whole.mem_defined name kind).1 defined with found | ⟨-, resolver, -, root⟩
    · exact isLegal_of_kindOf built recorded found
    · exact isLegal_rootName root

theorem isLegal_taken (built : domain.build resolvers = .ok schema) (legal : schema.NamesLegal) :
    ∀ entry ∈ domain.taken resolvers, isLegalName entry.name := by
  intro entry taken
  obtain ⟨kind, found⟩ := (mem_taken built).1 (List.mem_map_of_mem taken)
  obtain ⟨definition, member, full⟩ := (built_of_build built).defined_iff.2 (.inl found)
  refine (legal definition member).own entry.name ?_
  cases definition with
  | type definition => exact (Option.ite_none_right_eq_some.1 full).2
  | schema definition => cases full
  | directive definition => cases full

theorem isLegal_outlines (built : domain.build resolvers = .ok schema) :
    (∀ definition ∈ schema.definitions, ∀ field ∈ definition.fields, field.outline.IsLegal) ↔
      ∀ contribution ∈ domain.contributions resolvers, ∀ site ∈ contribution.shown,
        site.2.IsLegal := by
  rw [← Schema.forall_sites, ← List.forall_mem_flatMap, ← (shown_of_build built).1,
    List.forall_mem_map]

theorem isLegal_ownValues (built : domain.build resolvers = .ok schema) :
    (∀ definition ∈ schema.definitions, ∀ value ∈ definition.ownValues, isLegalName value.name) ↔
      ∀ entry ∈ domain.taken resolvers, ∀ name ∈ domain.valueNames entry, isLegalName name := by
  have directive : ∀ name ∈ (domain.directiveDefinitions.flatMap Definition.ownValues).map (·.name),
      isLegalName name := by
    unfold directiveDefinitions
    split <;> decide
  have listed : (∀ name ∈ (schema.definitions.flatMap Definition.ownValues).map (·.name),
      isLegalName name) ↔ ∀ entry ∈ domain.taken resolvers, ∀ name ∈ domain.valueNames entry,
        isLegalName name := by
    rw [(spells_of_build built).values, List.forall_mem_append, List.forall_mem_flatMap]
    exact and_iff_right directive
  rwa [List.forall_mem_map, List.forall_mem_flatMap] at listed

theorem forall_members (built : domain.build resolvers = .ok schema) (property : String → Prop) :
    (∀ definition ∈ schema.definitions, ∀ value ∈ definition.enumValues, property value.name) ↔
      ∀ entry ∈ domain.taken resolvers, ∀ name ∈ domain.memberNames entry, property name := by
  rw [← List.forall_mem_flatMap, ← List.forall_mem_flatMap, ← (spells_of_build built).members,
    List.forall_mem_map]

theorem recorded_or_tagged (built : domain.build resolvers = .ok schema) :
    ∀ definition ∈ schema.definitions, ∀ interface ∈ definition.implements,
      interface ∈ (domain.taken resolvers).map (·.name) ∨
        ∃ type ∈ domain.catalog.types, type.hasInterfaceTag = true ∧
          type.schemaName .interface = interface := by
  have whole := built_of_build built
  obtain ⟨definitions, run, same⟩ := run_of_build built
  intro definition member interface named
  rw [same] at member
  rcases List.mem_append.1 member with declaration | emitted
  · rcases declaration_cases declaration with rfl | ⟨name, rfl⟩ <;> cases named
  · obtain ⟨name, _, -, -, full⟩ := (run.covers consistent_empty).2 definition emitted
    obtain ⟨entry, found, links⟩ := run.links definition emitted name
      (full (List.ne_nil_of_mem named)) interface named
    obtain ⟨type, present, -, -, scanned | ⟨-, declared, implemented, shared⟩⟩ :=
      whole.consistent.linked entry (Registry.find_mem found) interface links
    · exact .inl ((mem_taken built).2 ⟨.interface, scanned.2⟩)
    -- It may be missing: a type that only shares a recorded name has no errands of its own, and an enum
    -- with the tag is recorded as an enum.
    · obtain ⟨descends, tagged⟩ := Catalog.implementedInterface_some implemented
      have known := Catalog.lookup_of_descends present descends
      exact .inr ⟨declared, Catalog.mem_of_lookup known, tagged, shared⟩

/-- The names of a built schema are legal exactly when those that it takes over are: the names of the
recorded types, the input fields and the members of enums, the fields with their arguments, and where an
object names an interface that is not recorded, the name of that interface. Such an interface is a type of
the catalog with an interface tag. -/
theorem names_legal_iff (built : domain.build resolvers = .ok schema) :
    (schema.NamesLegal ↔
      (∀ entry ∈ domain.taken resolvers, domain.SpellsLegally entry) ∧
      (∀ contribution ∈ domain.contributions resolvers, ∀ site ∈ contribution.shown,
        site.2.IsLegal) ∧
      (∀ definition ∈ schema.definitions, ∀ interface ∈ definition.implements,
        interface ∉ (domain.taken resolvers).map (·.name) → isLegalName interface)) ∧
    (∀ definition ∈ schema.definitions, ∀ interface ∈ definition.implements,
      interface ∈ (domain.taken resolvers).map (·.name) ∨
        ∃ type ∈ domain.catalog.types, type.hasInterfaceTag = true ∧
          type.schemaName .interface = interface) := by
  have values := isLegal_ownValues built
  have members := forall_members built fun name => isLegalName name ∧ name ∉ Constant.reserved
  refine ⟨?_, recorded_or_tagged built⟩
  rw [← isLegal_outlines built]
  constructor
  · intro legal
    have inputs := values.1 fun definition member value own =>
      ((legal definition member).values value (List.mem_append_left _ own)).1
    have enums := members.1 fun definition member => (legal definition member).members
    refine ⟨fun entry taken => ⟨isLegal_taken built legal entry taken, inputs entry taken,
      enums entry taken⟩, fun definition member field present => ?_, ?_⟩
    · rw [FieldDefinition.isLegal_outline]
      refine ⟨((legal definition member).fields field present).1, fun argument passed => ?_⟩
      have among : argument ∈ definition.inputValues :=
        List.mem_append_right _ (List.mem_flatMap.2 ⟨field, present, passed⟩)
      exact ((legal definition member).values argument among).1
    · intro definition member interface named _
      exact (legal definition member).interfaces interface named
  · rintro ⟨entries, fields, interfaces⟩ definition member
    have recorded : ∀ entry ∈ domain.taken resolvers, isLegalName entry.name :=
      fun entry taken => (entries entry taken).name
    have resolves := (built_of_build built).resolves definition member
    refine ⟨isLegal_ownName built recorded definition member, ?_, ?_, ?_, ?_⟩
    · intro interface named
      by_cases known : interface ∈ (domain.taken resolvers).map (·.name)
      · obtain ⟨entry, taken, rfl⟩ := List.mem_map.1 known
        exact recorded entry taken
      · exact interfaces definition member interface named known
    · intro field present
      exact ⟨(fields definition member field present).name,
        isLegal_of_resolves built recorded (resolves.fields field present).1⟩
    · intro value present
      rcases List.mem_append.1 present with own | argument
      · exact ⟨values.2 (fun entry taken => (entries entry taken).values) definition member value own,
          isLegal_of_resolves built recorded (resolves.values value own)⟩
      · obtain ⟨field, here, passed⟩ := List.mem_flatMap.1 argument
        have outlined := FieldDefinition.isLegal_outline.1 (fields definition member field here)
        exact ⟨outlined.2 value passed,
          isLegal_of_resolves built recorded ((resolves.fields field here).2 value passed)⟩
    · exact members.2 (fun entry taken => (entries entry taken).members) definition member

def paintShop (colours : List String) : Domain where
  catalog := .ofTypes [
    { key := ⟨"paint::Colour"⟩, form := .isEnum colours },
    { key := ⟨"paint::Order"⟩
      methods := [{
        name := "setColour"
        params := [⟨"colour", .atom (.named ⟨"paint::Colour"⟩) [], []⟩] }] }]

def pouring (name : String) : Resolver where
  name := "Pouring"
  role := .query
  methods := [{
    name
    params := [⟨"order", .atom (.named ⟨"paint::Order"⟩) [], []⟩,
      ⟨"context", .atom .context [], []⟩]
    returns := some (.atom (.named ⟨"paint::Colour"⟩) []) }]

def spelled (schema : Schema) : List String × List String :=
  ((schema.definitions.flatMap (·.enumValues)).map (·.name),
    (schema.definitions.flatMap (·.fields)).map (·.name))

theorem names_legal_paints : ∃ schema, (paintShop ["RED", "BLUE"]).build [pouring "pour"] = .ok schema ∧
    spelled schema = (["RED", "BLUE"], ["pour"]) ∧
    ((schema.NamesLegal ↔
      (∀ entry ∈ (paintShop ["RED", "BLUE"]).taken [pouring "pour"],
        (paintShop ["RED", "BLUE"]).SpellsLegally entry) ∧
      (∀ contribution ∈ (paintShop ["RED", "BLUE"]).contributions [pouring "pour"],
        ∀ site ∈ contribution.shown, site.2.IsLegal) ∧
      (∀ definition ∈ schema.definitions, ∀ interface ∈ definition.implements,
        interface ∉ ((paintShop ["RED", "BLUE"]).taken [pouring "pour"]).map (·.name) →
          isLegalName interface)) ∧
    (∀ definition ∈ schema.definitions, ∀ interface ∈ definition.implements,
      interface ∈ ((paintShop ["RED", "BLUE"]).taken [pouring "pour"]).map (·.name) ∨
        ∃ type ∈ (paintShop ["RED", "BLUE"]).catalog.types, type.hasInterfaceTag = true ∧
          type.schemaName .interface = interface)) := by
  have observed : ((paintShop ["RED", "BLUE"]).build [pouring "pour"]).toOption.map spelled =
      some (["RED", "BLUE"], ["pour"]) := by decide +kernel
  obtain ⟨schema, built, seen⟩ := build_observed observed
  exact ⟨schema, built, seen, names_legal_iff built⟩

/-- An enum value that is no name, one that is a reserved word, and a field that is no name. -/
theorem names_not_legal :
    (∃ schema, (paintShop ["off-white"]).build [pouring "pour"] = .ok schema ∧
      ¬ schema.NamesLegal) ∧
    (∃ schema, (paintShop ["true"]).build [pouring "pour"] = .ok schema ∧ ¬ schema.NamesLegal) ∧
    ∃ schema, (paintShop ["RED"]).build [pouring "getGröße"] = .ok schema ∧
      ¬ schema.NamesLegal := by
  have hyphened : ((paintShop ["off-white"]).build [pouring "pour"]).toOption.map spelled =
      some (["off-white"], ["pour"]) := by decide +kernel
  have reserved : ((paintShop ["true"]).build [pouring "pour"]).toOption.map spelled =
      some (["true"], ["pour"]) := by decide +kernel
  have accented : ((paintShop ["RED"]).build [pouring "getGröße"]).toOption.map spelled =
      some (["RED"], ["größe"]) := by decide +kernel
  have value {schema : Schema} (legal : schema.NamesLegal) : ∀ name ∈ (spelled schema).1,
      isLegalName name ∧ name ∉ Constant.reserved := by
    rw [spelled, List.forall_mem_map, List.forall_mem_flatMap]
    exact fun definition member => (legal definition member).members
  have field {schema : Schema} (legal : schema.NamesLegal) : ∀ name ∈ (spelled schema).2,
      isLegalName name := by
    rw [spelled, List.forall_mem_map, List.forall_mem_flatMap]
    exact fun definition member field present =>
      ((legal definition member).fields field present).1
  obtain ⟨first, built, seen⟩ := build_observed hyphened
  obtain ⟨second, again, word⟩ := build_observed reserved
  obtain ⟨third, more, letter⟩ := build_observed accented
  refine ⟨⟨first, built, fun legal => ?_⟩, ⟨second, again, fun legal => ?_⟩, third, more,
    fun legal => ?_⟩
  · have named := value legal "off-white" (by rw [seen]; decide)
    exact absurd named.1 (by decide)
  · have named := value legal "true" (by rw [word]; decide)
    exact absurd named.2 (by decide)
  · have named := field legal "größe" (by rw [letter]; decide)
    exact absurd named (by decide)

end Domain

end SchemaDiscovery
