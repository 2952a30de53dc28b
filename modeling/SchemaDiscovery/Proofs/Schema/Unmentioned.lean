import SchemaDiscovery.Proofs.Build.Restriction
import SchemaDiscovery.Proofs.Schema.Conformance
/-!
Types that nothing mentions. Main statement: a catalog with further types, which are no implementations and
which neither the types before nor the resolvers mention, leads to the same schema or to the same failure.
-/

namespace SchemaDiscovery

variable {shown : TypeKey → Bool}

theorem filter_put_hidden {type : TypeDescriptor} (hidden : ¬ shown type.key)
    (types : List TypeDescriptor) :
    (Ordered.put (·.key) type types).filter (fun other => shown other.key) =
      types.filter fun other => shown other.key := by
  induction types with
  | nil => simp [Ordered.put, hidden]
  | cons other types ih =>
    rw [Ordered.put]
    split
    · next same => simp [same, hidden]
    · rw [List.filter_cons, List.filter_cons, ih]

namespace Catalog

theorem restrict_insert {type : TypeDescriptor} (hidden : ¬ shown type.key) (catalog : Catalog) :
    (catalog.insert type).restrict shown = catalog.restrict shown :=
  congrArg Catalog.mk (filter_put_hidden hidden catalog.types)

theorem restrict_foldl_insert {types : List TypeDescriptor}
    (hidden : ∀ type ∈ types, ¬ shown type.key) (catalog : Catalog) :
    (types.foldl insert catalog).restrict shown = catalog.restrict shown := by
  induction types generalizing catalog with
  | nil => rfl
  | cons type types ih =>
    obtain ⟨here, later⟩ := List.forall_mem_cons.1 hidden
    rw [List.foldl_cons, ih later, restrict_insert here]

theorem restrict_eq_self {catalog : Catalog} (visible : ∀ type ∈ catalog.types, shown type.key) :
    catalog.restrict shown = catalog :=
  congrArg Catalog.mk (List.filter_eq_self.2 visible)

theorem mem_foldl_insert {types : List TypeDescriptor} {catalog : Catalog} {type : TypeDescriptor}
    (member : type ∈ (types.foldl insert catalog).types) : type ∈ types ∨ type ∈ catalog.types := by
  induction types generalizing catalog with
  | nil => exact .inr member
  | cons head types ih =>
    rcases ih member with later | earlier
    · exact .inl (List.mem_cons_of_mem _ later)
    · rcases Ordered.mem_put earlier with rfl | before
      · exact .inl List.mem_cons_self
      · exact .inr before

end Catalog

namespace Domain

/-- Further types that neither the catalog nor a resolver mentions and that are no implementations leave
the outcome of the build as it is: the same schema or the same failure. -/
theorem build_ignores_unmentioned (domain : Domain) (resolvers : List Resolver)
    (types : List TypeDescriptor)
    (fresh : ∀ type ∈ types, type.key ∉ domain.catalog.keys)
    (unmentioned : ∀ type ∈ types, type.key ∉ domain.catalog.mentions)
    (unasked : ∀ type ∈ types, ∀ resolver ∈ resolvers, type.key ∉ resolver.mentions)
    (plain : ∀ type ∈ types, type.hasImplementationTag = false) :
    { domain with catalog := types.foldl Catalog.insert domain.catalog }.build resolvers =
      domain.build resolvers := by
  let extended : Domain := { domain with catalog := types.foldl Catalog.insert domain.catalog }
  let shown : TypeKey → Bool := fun key => key ∉ types.map (·.key)
  have hidden : ∀ type ∈ types, ¬ shown type.key := by
    intro type member
    simpa [shown] using ⟨type, member, rfl⟩
  have own : ∀ type ∈ domain.catalog.types, shown type.key := by
    intro type known
    simp only [shown, List.mem_map, decide_eq_true_eq]
    rintro ⟨other, member, same⟩
    exact fresh other member (List.mem_map.2 ⟨type, known, same.symm⟩)
  -- The catalog as it was is the extended one without the types that are not shown.
  have rest : extended.catalog.restrict shown = domain.catalog := by
    rw [Catalog.restrict_foldl_insert hidden, Catalog.restrict_eq_self own]
  have confined : extended.catalog.Confined shown := by
    constructor
    · rw [rest]
      intro type known key mentioned
      simp only [shown, List.mem_map, decide_eq_true_eq]
      rintro ⟨other, member, rfl⟩
      exact unmentioned other member (List.mem_flatMap.2 ⟨type, known, mentioned⟩)
    · intro type member tagged
      rcases Catalog.mem_foldl_insert member with further | known
      · rw [plain type further] at tagged
        cases tagged
      · exact own type known
  have visible : ∀ resolver ∈ resolvers, ∀ key ∈ resolver.mentions, shown key := by
    intro resolver asked key mentioned
    simp only [shown, List.mem_map, decide_eq_true_eq]
    rintro ⟨other, member, rfl⟩
    exact unasked other member resolver asked mentioned
  have cut : extended.restrict shown = domain := by
    rw [restrict, rest]
  show extended.build resolvers = domain.build resolvers
  rw [← build_restrict confined visible, cut]

def museum : Domain where
  catalog := .ofTypes [
    { key := ⟨"museum::Work"⟩, form := .isInterface, tags := [.interface none]
      methods := [textGetter "getTitle"] },
    { key := ⟨"museum::Painting"⟩, interfaces := [⟨⟨"museum::Work"⟩, []⟩]
      tags := [.implementation none] }]

/-- Types that share names with those on show, and that build on them. -/
def attic : List TypeDescriptor := [
  { key := ⟨"attic::Work"⟩, form := .isEnum ["FAKE"] },
  { key := ⟨"attic::Painting"⟩, parent := some ⟨⟨"museum::Painting"⟩, []⟩
    tags := [.interface (some "Work")], methods := [textGetter "getOwner"] }]

def visiting : List Resolver := [asking [("work", "museum::Work")]]

theorem build_ignores_unmentioned_attic :
    (∀ type ∈ attic, type.key ∉ museum.catalog.keys) ∧
    (∀ type ∈ attic, type.key ∉ museum.catalog.mentions) ∧
    (∀ type ∈ attic, ∀ resolver ∈ visiting, type.key ∉ resolver.mentions) ∧
    (∀ type ∈ attic, type.hasImplementationTag = false) ∧
    (museum.build visiting).toOption.map
        (·.definitions.filterMap (Definition.fullName? .object)) = some ["Query", "Painting"] ∧
    { museum with catalog := attic.foldl Catalog.insert museum.catalog }.build visiting =
      museum.build visiting := by
  have fresh : ∀ type ∈ attic, type.key ∉ museum.catalog.keys := by decide +kernel
  have unmentioned : ∀ type ∈ attic, type.key ∉ museum.catalog.mentions := by decide +kernel
  have unasked : ∀ type ∈ attic, ∀ resolver ∈ visiting, type.key ∉ resolver.mentions := by
    decide +kernel
  have plain : ∀ type ∈ attic, type.hasImplementationTag = false := by decide +kernel
  exact ⟨fresh, unmentioned, unasked, plain, by decide +kernel,
    build_ignores_unmentioned museum visiting attic fresh unmentioned unasked plain⟩

end Domain

end SchemaDiscovery
