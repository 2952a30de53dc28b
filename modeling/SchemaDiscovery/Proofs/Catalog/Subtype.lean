import SchemaDiscovery.Proofs.Catalog.Ascent
import Mathlib.Logic.Relation
/-!
Subtypes. Main statement: a key is a subtype of another when a chain of supertypes leads from the one to
the other, each but the last a type of the catalog; the walk that decides this comes to no type twice,
so cyclic ancestry does not keep it from ending.
-/

namespace SchemaDiscovery.Catalog

/-- The catalog has a type under the first key, and the second is that of its parent or of an interface
that it declares. -/
def Extends (catalog : Catalog) (key next : TypeKey) : Prop :=
  ∃ type, catalog.lookup? key = some type ∧
    ((∃ parent ∈ type.parent, parent.key = next) ∨
      ∃ interface ∈ type.interfaces, interface.key = next)

/-- A chain of so many references leads from the first key to the second. -/
inductive ExtendsIn (catalog : Catalog) (key : TypeKey) : ℕ → TypeKey → Prop
  | start : ExtendsIn catalog key 0 key
  | next {distance : ℕ} {middle target : TypeKey} (chain : ExtendsIn catalog key distance middle)
    (further : catalog.Extends middle target) : ExtendsIn catalog key (distance + 1) target

variable {catalog : Catalog} {key middle target : TypeKey} {type other : TypeDescriptor}
  {distance : ℕ}

theorem extends_iff : catalog.Extends key target ↔
    ∃ type, catalog.lookup? key = some type ∧ target ∈ type.supertypes.map (·.key) := by
  simp only [Extends, TypeDescriptor.supertypes, List.map_append, List.mem_append, List.mem_map,
    Option.mem_toList, Option.mem_def]

theorem exists_extendsIn_iff :
    (∃ distance, catalog.ExtendsIn key distance target) ↔
      Relation.ReflTransGen catalog.Extends key target := by
  constructor
  · rintro ⟨distance, chain⟩
    induction chain with
    | start => exact .refl
    | next _ further ih => exact ih.tail further
  · intro path
    induction path with
    | refl => exact ⟨0, .start⟩
    | tail _ further ih =>
      obtain ⟨distance, chain⟩ := ih
      exact ⟨distance + 1, chain.next further⟩

theorem reaches_of_descends (present : catalog.lookup? type.key = some type)
    (descends : catalog.Descends type other) :
    Relation.ReflTransGen catalog.Extends type.key other.key := by
  have known : catalog.lookup? other.key = some other ∧
      Relation.ReflTransGen catalog.Extends type.key other.key := by
    refine holds_of_descends (fun other => catalog.lookup? other.key = some other ∧
      Relation.ReflTransGen catalog.Extends type.key other.key) ?_ ⟨present, .refl⟩ descends
    rintro below ⟨stored, path⟩ key refers next found
    have named : next.key = key := key_of_lookup found
    rw [named]
    exact ⟨found, path.tail (extends_iff.2 ⟨below, stored, refers⟩)⟩
  exact known.2

theorem isSubtype_of_lookup (present : catalog.lookup? key = some type) :
    catalog.isSubtype key target = true ↔ key = target ∨
      ∃ other, catalog.Descends type other ∧ target ∈ other.supertypes.map (·.key) := by
  rw [isSubtype, present, Bool.or_eq_true, decide_eq_true_iff, List.any_eq_true]
  refine or_congr_right ⟨?_, ?_⟩
  · rintro ⟨ancestor, member, refers⟩
    obtain ⟨supertype, there, same⟩ := List.any_eq_true.1 refers
    exact ⟨ancestor.type, ⟨ancestor, member, rfl⟩,
      List.mem_map.2 ⟨supertype, there, of_decide_eq_true same⟩⟩
  · rintro ⟨_, ⟨ancestor, member, rfl⟩, refers⟩
    obtain ⟨supertype, there, same⟩ := List.mem_map.1 refers
    exact ⟨ancestor, member, List.any_eq_true.2 ⟨supertype, there, decide_eq_true same⟩⟩

theorem isSubtype_of_unknown (unknown : catalog.lookup? key = none) :
    catalog.isSubtype key target = true ↔ key = target := by
  rw [isSubtype, unknown, Bool.or_false, decide_eq_true_iff]

theorem reaches_of_isSubtype (assignable : catalog.isSubtype key target = true) :
    Relation.ReflTransGen catalog.Extends key target := by
  cases found : catalog.lookup? key with
  | none =>
    rw [(isSubtype_of_unknown found).1 assignable]
  | some type =>
    have own : type.key = key := key_of_lookup found
    have present : catalog.lookup? type.key = some type := by rw [own, found]
    rcases (isSubtype_of_lookup found).1 assignable with rfl | ⟨other, descends, refers⟩
    · exact .refl
    · have path := reaches_of_descends present descends
      rw [own] at path
      exact path.tail (extends_iff.2 ⟨other, lookup_of_descends present descends, refers⟩)

theorem isSubtype_tail (assignable : catalog.isSubtype key middle = true)
    (further : catalog.Extends middle target) : catalog.isSubtype key target = true := by
  obtain ⟨last, stored, refers⟩ := extends_iff.1 further
  cases found : catalog.lookup? key with
  | none =>
    rw [(isSubtype_of_unknown found).1 assignable, stored] at found
    cases found
  | some type =>
    have own : type.key = key := key_of_lookup found
    have named : last.key = middle := key_of_lookup stored
    rw [← own] at assignable found
    rw [← named] at assignable stored
    rw [← own]
    exact (isSubtype_of_lookup found).2
      (.inr ⟨last, descends_of_isSubtype found stored assignable, refers⟩)

theorem isSubtype_of_reaches (path : Relation.ReflTransGen catalog.Extends key target) :
    catalog.isSubtype key target = true := by
  induction path with
  | refl => rw [isSubtype, decide_eq_true rfl, Bool.true_or]
  | tail _ further ih => exact isSubtype_tail ih further

theorem isSubtype_iff_reaches : catalog.isSubtype key target = true ↔
    Relation.ReflTransGen catalog.Extends key target :=
  ⟨reaches_of_isSubtype, isSubtype_of_reaches⟩

theorem nodup_keys_lineage (catalog : Catalog) (type : TypeDescriptor) :
    ((catalog.lineage type).map (·.type.key)).Nodup := by
  obtain ⟨stops, same, -, distinct, -⟩ := catalog.lineage_stops type
  rw [← same, List.map_map]
  exact distinct

/-- A subtype is what a chain of references leads up from; every key is a subtype of itself, and a subtype
of a subtype is one. The walk that decides it comes to each type once, and to no more types than the
catalog has besides the one that it starts from. -/
theorem isSubtype_chains (catalog : Catalog) :
    (∀ key target, catalog.isSubtype key target = true ↔
      key = target ∨ Relation.TransGen catalog.Extends key target) ∧
    (∀ key, catalog.isSubtype key key = true) ∧
    (∀ key middle target, catalog.isSubtype key middle = true →
      catalog.isSubtype middle target = true → catalog.isSubtype key target = true) ∧
    ∀ type, ((catalog.lineage type).map (·.type.key)).Nodup ∧
      (catalog.lineage type).length ≤ catalog.types.length + 1 := by
  refine ⟨?_, ?_, ?_, ?_⟩
  · intro key target
    rw [isSubtype_iff_reaches, Relation.reflTransGen_iff_eq_or_transGen, eq_comm]
  · exact fun key => isSubtype_of_reaches .refl
  · intro key middle target first second
    exact isSubtype_of_reaches
      ((reaches_of_isSubtype first).trans (reaches_of_isSubtype second))
  · exact fun type => ⟨catalog.nodup_keys_lineage type, catalog.length_lineage_le type⟩

example :
    let catalog := Catalog.ofTypes [
      { key := ⟨"Ring"⟩, parent := some ⟨⟨"Band"⟩, []⟩ },
      { key := ⟨"Band"⟩, interfaces := [⟨⟨"Ring"⟩, []⟩, ⟨⟨"Jewel"⟩, []⟩] }]
    catalog.isSubtype ⟨"Ring"⟩ ⟨"Jewel"⟩ = true ∧
      catalog.isSubtype ⟨"Jewel"⟩ ⟨"Ring"⟩ = false := by
  decide +kernel

end SchemaDiscovery.Catalog
