import SchemaDiscovery.Proofs.Schema.Contribution
import Mathlib.Data.List.Nodup
/-!
Fields that are declared more than once. Main statement: the fields of a built schema are distinct exactly
when no two resolvers contribute a field of one name to one type, and none contributes a field that the
type has on its own. Names are made distinct within a contribution, but contributions to one type are
made in different turns.
-/

namespace SchemaDiscovery

abbrev FieldKey : Type := String × String

def Schema.fieldKeys (schema : Schema) : List FieldKey :=
  schema.sites.map fun site => (site.1, site.2.name)

def Schema.boundKeys (schema : Schema) : List FieldKey :=
  schema.bindings.map fun binding => (binding.parentType, binding.field)

namespace Contribution

variable {first second contribution : Contribution} {type name : String}

def names (contribution : Contribution) : List String := contribution.fields.map (·.name)

/-- The two contribute no field of one name to one type. -/
def Apart (first second : Contribution) : Prop :=
  first.type = second.type → ∀ name ∈ first.names, name ∉ second.names

def keys (contribution : Contribution) : List FieldKey :=
  contribution.shown.map fun site => (site.1, site.2.name)

theorem mem_keys : (type, name) ∈ contribution.keys ↔
    type = contribution.type ∧ name ∈ contribution.names := by
  have shown : name ∈ contribution.names ↔
      name ∈ (Ordered.ofList (·.name) contribution.fields).map Outline.name :=
    Ordered.mem_keys_ofList.symm
  rw [shown, keys, Contribution.shown, List.map_map, List.mem_map, List.mem_map]
  constructor
  · rintro ⟨outline, member, same⟩
    cases same
    exact ⟨rfl, outline, member, rfl⟩
  · rintro ⟨rfl, outline, member, rfl⟩
    exact ⟨outline, member, rfl⟩

theorem nodup_keys (contribution : Contribution) : contribution.keys.Nodup := by
  have distinct : ((Ordered.ofList Outline.name contribution.fields).map Outline.name).Nodup :=
    Ordered.nodup_keys_ofList _ _
  rw [keys, shown, List.map_map]
  refine List.Nodup.of_map Prod.snd ?_
  rwa [List.map_map]

theorem disjoint_keys : first.keys.Disjoint second.keys ↔ first.Apart second := by
  constructor
  · intro disjoint same name here there
    exact disjoint (mem_keys.2 ⟨rfl, here⟩) (mem_keys.2 ⟨same, there⟩)
  · rintro apart ⟨type, name⟩ here there
    obtain ⟨rfl, own⟩ := mem_keys.1 here
    obtain ⟨same, other⟩ := mem_keys.1 there
    exact apart same name own other

theorem nodup_iff (contributions : List Contribution) :
    ((contributions.flatMap shown).map fun site => (site.1, site.2.name)).Nodup ↔
      contributions.Pairwise Apart := by
  rw [List.map_flatMap, List.nodup_flatMap]
  constructor
  · rintro ⟨-, disjoint⟩
    exact disjoint.imp disjoint_keys.1
  · intro apart
    exact ⟨fun contribution _ => contribution.nodup_keys, apart.imp disjoint_keys.2⟩

end Contribution

namespace Domain

variable {domain : Domain} {resolvers : List Resolver} {schema : Schema}

theorem type_of_entryContribution {entry : DiscoveredType} {contribution : Contribution}
    (contributes : domain.entryContribution? resolvers entry = some contribution) :
    contribution.type = entry.name := by
  unfold entryContribution? at contributes
  split at contributes
  · cases contributes
    rfl
  · split at contributes
    · cases contributes
    · cases contributes
      rfl
  · cases contributes
  · cases contributes

theorem apart_entries (built : domain.build resolvers = .ok schema) :
    ((domain.taken resolvers).filterMap (domain.entryContribution? resolvers)).Pairwise
      Contribution.Apart := by
  have distinct := nodup_taken built
  rw [List.Nodup, List.pairwise_map] at distinct
  rw [List.pairwise_filterMap]
  refine distinct.imp fun different first one second other same => ?_
  rw [type_of_entryContribution one, type_of_entryContribution other] at same
  exact absurd same different

/-- The fields of a built schema are distinct, and so are its bindings, exactly when the resolvers add
no field twice to a type and none that the type has on its own. -/
theorem fields_distinct_iff (built : domain.build resolvers = .ok schema) :
    (schema.boundKeys.Nodup ↔
      (resolvers.filterMap domain.resolverContribution?).Pairwise Contribution.Apart ∧
      ∀ added ∈ resolvers.filterMap domain.resolverContribution?,
        ∀ own ∈ (domain.taken resolvers).filterMap (domain.entryContribution? resolvers),
          added.Apart own) ∧
    (schema.fieldKeys.Nodup ↔ schema.boundKeys.Nodup) := by
  obtain ⟨sites, bindings⟩ := shown_of_build built
  constructor
  · rw [Schema.boundKeys, bindings, Contribution.nodup_iff, contributions, List.pairwise_append]
    constructor
    · rintro ⟨added, -, apart⟩
      exact ⟨added, apart⟩
    · rintro ⟨added, apart⟩
      exact ⟨added, apart_entries built, apart⟩
  · rw [Schema.boundKeys, bindings, ← sites, Schema.fieldKeys, List.map_map]
    rfl

def library : Domain where
  catalog := .ofTypes [
    { key := ⟨"library::Book"⟩
      methods := [{ name := "getTitle", returns := some (.atom (.boxed .string) []) }] }]

def lending (name : String) : Resolver where
  name
  role := .query
  methods := [{
    name := "book", params := [⟨"context", .atom .context [], []⟩]
    returns := some (.atom (.named ⟨"library::Book"⟩) []) }]

def labelling (label : String) : Resolver where
  name := "Labelling"
  role := .extension ⟨"library::Book"⟩
  methods := [{
    name := label, params := [⟨"book", .atom (.named ⟨"library::Book"⟩) [], []⟩]
    returns := some (.atom (.boxed .string) []) }]

theorem fields_distinct_library : ∃ schema,
    library.build [lending "Lending", labelling "shelf"] = .ok schema ∧
    schema.boundKeys = [("Query", "book"), ("Book", "shelf"), ("Book", "title")] ∧
    (schema.boundKeys.Nodup ↔
      ([lending "Lending", labelling "shelf"].filterMap library.resolverContribution?).Pairwise
        Contribution.Apart ∧
      ∀ added ∈ [lending "Lending", labelling "shelf"].filterMap library.resolverContribution?,
        ∀ own ∈ (library.taken [lending "Lending", labelling "shelf"]).filterMap
          (library.entryContribution? [lending "Lending", labelling "shelf"]), added.Apart own) ∧
    (schema.fieldKeys.Nodup ↔ schema.boundKeys.Nodup) := by
  have observed : (library.build [lending "Lending", labelling "shelf"]).toOption.map
      (·.boundKeys) =
        some [("Query", "book"), ("Book", "shelf"), ("Book", "title")] := by
    decide +kernel
  obtain ⟨schema, built, seen⟩ := build_observed observed
  exact ⟨schema, built, seen, fields_distinct_iff built⟩

/-- Two resolvers add one field to the root type, and a resolver adds a field that the type has on its own. -/
theorem fields_not_distinct :
    (∃ schema, library.build [lending "Lending", lending "Reading"] = .ok schema ∧
      ¬ schema.boundKeys.Nodup) ∧
    ∃ schema, library.build [lending "Lending", labelling "title"] = .ok schema ∧
      ¬ schema.boundKeys.Nodup := by
  have added : (library.build [lending "Lending", lending "Reading"]).toOption.map
      (·.boundKeys) =
        some [("Query", "book"), ("Query", "book"), ("Book", "title")] := by
    decide +kernel
  have own : (library.build [lending "Lending", labelling "title"]).toOption.map
      (·.boundKeys) =
        some [("Query", "book"), ("Book", "title"), ("Book", "title")] := by
    decide +kernel
  obtain ⟨first, built, seen⟩ := build_observed added
  obtain ⟨second, again, repeated⟩ := build_observed own
  refine ⟨⟨first, built, ?_⟩, second, again, ?_⟩
  · rw [seen]
    decide
  · rw [repeated]
    decide

end Domain

end SchemaDiscovery
