import SchemaDiscovery.Proofs.Catalog.Ascent
/-!
Which methods a type has. Main statement: of each name that is declared in the lineage of a type the
nearest declaration decides, and it is collected when the filter accepts it.
-/

namespace SchemaDiscovery

/-- A method of a type in a lineage, with its place among the methods of the type. -/
structure Site where
  stop : Stop
  place : ℕ
  method : Method

namespace Site

def declaration (site : Site) : Declaration := ⟨site.stop.ancestor, site.method⟩

/-- The nearer type comes first, and within a type the earlier method. -/
def rank (site : Site) : (ℕ ×ₗ List ℕ) ×ₗ ℕ := toLex (site.stop.ascent.rank, site.place)

theorem rank_lt_iff {site other : Site} : site.rank < other.rank ↔
    site.stop.ascent.rank < other.stop.ascent.rank ∨
      site.stop.ascent.rank = other.stop.ascent.rank ∧ site.place < other.place :=
  Prod.Lex.toLex_lt_toLex

theorem length_le_of_rank_le {site other : Site} (sooner : site.rank ≤ other.rank) :
    site.stop.ascent.length ≤ other.stop.ascent.length := by
  refine Ascent.length_le_of_rank_le ?_
  rcases sooner.lt_or_eq with sooner | same
  · rcases rank_lt_iff.1 sooner with sooner | ⟨same, -⟩
    · exact sooner.le
    · exact same.le
  · exact (congrArg Prod.fst (toLex.injective same)).le

end Site

def Stop.sites (stop : Stop) : List Site :=
  stop.ancestor.type.methods.zipIdx.map fun (method, place) => ⟨stop, place, method⟩

theorem Stop.mem_sites {stop : Stop} {site : Site} : site ∈ stop.sites ↔
    site.stop = stop ∧ stop.ancestor.type.methods[site.place]? = some site.method := by
  simp only [sites, List.mem_map, Prod.exists, List.mem_zipIdx_iff_getElem?]
  constructor
  · rintro ⟨method, place, declared, rfl⟩
    exact ⟨rfl, declared⟩
  · rintro ⟨rfl, declared⟩
    exact ⟨site.method, site.place, declared, rfl⟩

theorem Stop.sites_ordered (stop : Stop) :
    stop.sites.Pairwise fun site later => site.rank < later.rank := by
  rw [sites, List.pairwise_map, List.pairwise_iff_getElem]
  intro place other _ _ earlier
  simp only [List.getElem_zipIdx, Nat.zero_add]
  exact Site.rank_lt_iff.2 (.inr ⟨rfl, earlier⟩)

theorem Stop.declarations_sites (stop : Stop) :
    stop.sites.map (·.declaration) = stop.ancestor.type.methods.map (⟨stop.ancestor, ·⟩) := by
  have methods := List.zipIdx_map_fst 0 stop.ancestor.type.methods
  calc stop.sites.map (·.declaration)
    _ = (stop.ancestor.type.methods.zipIdx.map Prod.fst).map (⟨stop.ancestor, ·⟩) := by
      rw [sites, List.map_map, List.map_map]
      rfl
    _ = stop.ancestor.type.methods.map (⟨stop.ancestor, ·⟩) := by rw [methods]

theorem exists_firstSites (seen : List String) {sites : List Site}
    (ordered : sites.Pairwise fun site later => site.rank < later.rank) :
    ∃ kept : List Site, kept.Sublist sites ∧
      kept.map (·.declaration) = firstDeclarations seen (sites.map (·.declaration)) ∧
      ∀ site, site ∈ kept ↔ site ∈ sites ∧ site.method.name ∉ seen ∧
        ∀ other ∈ sites, other.method.name = site.method.name → site.rank ≤ other.rank := by
  induction sites generalizing seen with
  | nil => exact ⟨[], .slnil, rfl, by simp⟩
  | cons head sites ih =>
    obtain ⟨before, ordered⟩ := List.pairwise_cons.1 ordered
    rw [List.map_cons, firstDeclarations]
    split
    · next hidden =>
      have known : head.method.name ∈ seen := by simpa [Site.declaration] using hidden
      obtain ⟨kept, sublist, same, member⟩ := ih seen ordered
      refine ⟨kept, sublist.cons head, same, fun site => ?_⟩
      rw [member, List.mem_cons, List.forall_mem_cons]
      constructor
      · rintro ⟨there, fresh, first⟩
        exact ⟨.inr there, fresh, fun named => absurd (named ▸ known) fresh, first⟩
      · rintro ⟨rfl | there, fresh, -, first⟩
        · exact absurd known fresh
        · exact ⟨there, fresh, first⟩
    · next shown =>
      -- All that is left comes after the head, which is therefore the first of its name.
      have unknown : head.method.name ∉ seen := by simpa [Site.declaration] using shown
      obtain ⟨kept, sublist, same, member⟩ := ih (head.method.name :: seen) ordered
      refine ⟨head :: kept, sublist.cons_cons head, congrArg _ same, fun site => ?_⟩
      rw [List.forall_mem_cons]
      simp only [List.mem_cons, member, not_or]
      constructor
      · rintro (rfl | ⟨there, ⟨different, fresh⟩, first⟩)
        · exact ⟨.inl rfl, unknown, fun _ => le_rfl, fun other later _ => (before other later).le⟩
        · exact ⟨.inr there, fresh, fun named => absurd named.symm different, first⟩
      · rintro ⟨rfl | there, fresh, notLater, first⟩
        · exact .inl rfl
        · refine .inr ⟨there, ⟨fun named => ?_, fresh⟩, first⟩
          exact (before site there).not_ge (notLater named.symm)

namespace Catalog

variable {catalog : Catalog} {type : TypeDescriptor} {site : Site}

/-- The method is declared there: by a type of the lineage, where the first ascent leads to it. -/
def Declares (catalog : Catalog) (type : TypeDescriptor) (site : Site) : Prop :=
  catalog.FirstStop type site.stop ∧
    site.stop.ancestor.type.methods[site.place]? = some site.method

/-- The method is declared there, and none of its name is declared nearer or before it. -/
def DeclaresFirst (catalog : Catalog) (type : TypeDescriptor) (site : Site) : Prop :=
  catalog.Declares type site ∧
    ∀ other, catalog.Declares type other → other.method.name = site.method.name →
      site.rank ≤ other.rank

theorem exists_sites (catalog : Catalog) (type : TypeDescriptor) :
    ∃ sites : List Site, sites.map (·.declaration) = catalog.declarations type ∧
      (∀ site, site ∈ sites ↔ catalog.Declares type site) ∧
      sites.Pairwise fun site later => site.rank < later.rank := by
  obtain ⟨stops, same, member, -, ordered⟩ := catalog.lineage_stops type
  refine ⟨stops.flatMap Stop.sites, ?_, fun site => ?_, ?_⟩
  · rw [declarations, ← same, List.map_flatMap, List.flatMap_map]
    exact congrArg (stops.flatMap ·) (funext Stop.declarations_sites)
  · rw [List.mem_flatMap, Declares, ← member]
    constructor
    · rintro ⟨stop, there, here⟩
      obtain ⟨rfl, declared⟩ := Stop.mem_sites.1 here
      exact ⟨there, declared⟩
    · rintro ⟨there, declared⟩
      exact ⟨site.stop, there, Stop.mem_sites.2 ⟨rfl, declared⟩⟩
  · rw [List.pairwise_flatMap]
    refine ⟨fun stop _ => stop.sites_ordered, ordered.imp fun sooner site here other there => ?_⟩
    obtain ⟨rfl, -⟩ := Stop.mem_sites.1 here
    obtain ⟨rfl, -⟩ := Stop.mem_sites.1 there
    exact Site.rank_lt_iff.2 (.inl sooner)

theorem exists_nearestSites (catalog : Catalog) (type : TypeDescriptor) :
    ∃ sites : List Site, sites.map (·.declaration) = catalog.nearest type ∧
      (∀ site, site ∈ sites ↔ catalog.DeclaresFirst type site) ∧
      sites.Pairwise fun site later => site.rank < later.rank := by
  obtain ⟨sites, same, member, ordered⟩ := catalog.exists_sites type
  obtain ⟨kept, sublist, first, memberKept⟩ := exists_firstSites [] ordered
  refine ⟨kept, by rw [first, same, nearest], fun site => ?_, ordered.sublist sublist⟩
  simp only [memberKept, member, List.not_mem_nil, not_false_eq_true, true_and, DeclaresFirst]

theorem exists_collectedSites (catalog : Catalog) (type : TypeDescriptor)
    (filter : Method → Bool) :
    ∃ sites : List Site,
      sites.map (·.declaration.resolve) = catalog.methodsOf type filter ∧
      (∀ site, site ∈ sites ↔
        catalog.DeclaresFirst type site ∧ filter site.method = true) ∧
      sites.Pairwise fun site later => site.rank < later.rank := by
  obtain ⟨sites, same, member, ordered⟩ := catalog.exists_nearestSites type
  refine ⟨sites.filter (filter ·.method), ?_, fun site => ?_, ordered.filter _⟩
  · calc (sites.filter (filter ·.method)).map (·.declaration.resolve)
      _ = ((sites.map (·.declaration)).filter (filter ·.method)).map (·.resolve) := by
        rw [List.filter_map, List.map_map]
        rfl
      _ = catalog.methodsOf type filter := by
        rw [same]
        rfl
  · rw [List.mem_filter, member]

theorem mem_methodsOf {filter : Method → Bool} {collected : TypeMethod} :
    collected ∈ catalog.methodsOf type filter ↔
      ∃ site, (catalog.DeclaresFirst type site ∧ filter site.method = true) ∧
        site.declaration.resolve = collected := by
  obtain ⟨sites, same, member, -⟩ := catalog.exists_collectedSites type filter
  simp only [← same, List.mem_map, member]

theorem Declares.eq_of_rank_eq {other : Site} (declares : catalog.Declares type site)
    (declaresOther : catalog.Declares type other) (same : site.rank = other.rank) :
    site = other := by
  obtain ⟨⟨ascent, ancestor⟩, place, method⟩ := site
  obtain ⟨⟨ascent', ancestor'⟩, place', method'⟩ := other
  obtain ⟨⟨follows, -⟩, there⟩ := declares
  obtain ⟨⟨followsOther, -⟩, thereOther⟩ := declaresOther
  obtain ⟨ranks, rfl : place = place'⟩ := Prod.mk.inj (toLex.injective same)
  obtain rfl : ascent = ascent' := Ascent.rank_injective ranks
  obtain rfl : ancestor = ancestor' := Option.some_inj.1 (follows.symm.trans followsOther)
  obtain rfl : method = method' := Option.some_inj.1 (there.symm.trans thereOther)
  rfl

theorem DeclaresFirst.eq_of_name_eq {other : Site} (first : catalog.DeclaresFirst type site)
    (firstOther : catalog.DeclaresFirst type other)
    (named : other.method.name = site.method.name) : site = other :=
  first.1.eq_of_rank_eq firstOther.1
    (le_antisymm (first.2 other firstOther.1 named) (firstOther.2 site first.1 named.symm))

theorem exists_declaresFirst {ascent : Ascent} {ancestor : Ancestor} {name : String}
    (follows : catalog.follow? type ascent = some ancestor)
    (declares : name ∈ ancestor.type.methods.map (·.name)) :
    ∃ site, catalog.DeclaresFirst type site ∧ site.method.name = name := by
  obtain ⟨stop, firstStop, same, -⟩ := exists_firstStop follows
  obtain ⟨method, declared, rfl⟩ := List.mem_map.1 declares
  have here : (⟨stop.ancestor, method⟩ : Declaration) ∈ catalog.declarations type :=
    mem_declarations.2 ⟨firstStop.mem_lineage, by rw [same]; exact declared⟩
  obtain ⟨first, kept, named⟩ := exists_firstDeclaration here List.not_mem_nil
  obtain ⟨sites, nearest, member, -⟩ := catalog.exists_nearestSites type
  have chosen : first ∈ sites.map (·.declaration) := nearest ▸ kept
  obtain ⟨site, there, rfl⟩ := List.mem_map.1 chosen
  exact ⟨site, (member site).1 there, named⟩

theorem DeclaresFirst.length_le {ascent : Ascent} {ancestor : Ancestor}
    (first : catalog.DeclaresFirst type site)
    (follows : catalog.follow? type ascent = some ancestor)
    (declares : site.method.name ∈ ancestor.type.methods.map (·.name)) :
    site.stop.ascent.length ≤ ascent.length := by
  obtain ⟨stop, firstStop, same, sooner⟩ := exists_firstStop follows
  obtain ⟨method, declared, named⟩ := List.mem_map.1 declares
  obtain ⟨place, there⟩ := List.mem_iff_getElem?.1 declared
  have nearer := first.2 ⟨stop, place, method⟩ ⟨firstStop, by rw [same]; exact there⟩ named
  exact (Site.length_le_of_rank_le nearer).trans (Ascent.length_le_of_rank_le sooner)

/-- Each name that is declared on the way up is declared first somewhere, and the collected methods are
those of these declarations that the filter accepts: the nearer types before the farther, a parent
before the interfaces, and the methods of a type as it declares them. -/
theorem methodsOf_first (catalog : Catalog) (type : TypeDescriptor) (filter : Method → Bool) :
    ∃ chosen : List Site,
      catalog.methodsOf type filter = chosen.map (·.declaration.resolve) ∧
      (∀ site, site ∈ chosen ↔
        catalog.DeclaresFirst type site ∧ filter site.method = true) ∧
      (chosen.Pairwise fun site later => site.rank < later.rank) ∧
      (∀ ascent ancestor name, catalog.follow? type ascent = some ancestor →
        name ∈ ancestor.type.methods.map (·.name) →
          ∃ site, catalog.DeclaresFirst type site ∧ site.method.name = name) ∧
      ((catalog.methodsOf type filter).map (·.method.name)).Nodup ∧
      (∀ site, catalog.DeclaresFirst type site → filter site.method = false →
        site.method.name ∉ (catalog.methodsOf type filter).map (·.method.name)) ∧
      (∀ site ∈ chosen, ∀ ascent ancestor, catalog.follow? type ascent = some ancestor →
        site.method.name ∈ ancestor.type.methods.map (·.name) →
          site.stop.ascent.length ≤ ascent.length) ∧
      (catalog.lineage type).length ≤ catalog.types.length + 1 := by
  obtain ⟨sites, same, member, ordered⟩ := catalog.exists_collectedSites type filter
  have names : (catalog.methodsOf type filter).map (·.method.name) =
      sites.map (·.method.name) := by
    rw [← same, List.map_map]
    rfl
  refine ⟨sites, same.symm, member, ordered, fun _ _ _ => exists_declaresFirst, ?distinct, ?hides,
    ?near, catalog.length_lineage_le type⟩
  case distinct =>
    rw [names, List.Nodup, List.pairwise_map]
    refine ordered.imp_of_mem fun here there sooner named => sooner.ne ?_
    rw [((member _).1 here).1.eq_of_name_eq ((member _).1 there).1 named.symm]
  case hides =>
    intro site first rejected shown
    rw [names] at shown
    obtain ⟨other, kept, named⟩ := List.mem_map.1 shown
    obtain ⟨firstOther, accepted⟩ := (member other).1 kept
    rw [← first.eq_of_name_eq firstOther named, rejected] at accepted
    cases accepted
  case near =>
    intro site kept ascent ancestor follows declares
    exact ((member site).1 kept).1.length_le follows declares

def crossing : Catalog :=
  .ofTypes [
    { key := ⟨"quay::Ferry"⟩, parent := some { key := ⟨"quay::Ship"⟩ }
      interfaces := [{ key := ⟨"quay::Lost"⟩ }, { key := ⟨"quay::Carrier"⟩ }]
      methods := [
        { name := "getLog", returns := some (.atom (.boxed .string) []), tags := [.ignore] }] },
    { key := ⟨"quay::Ship"⟩, parent := some { key := ⟨"quay::Vessel"⟩ }
      methods := [
        { name := "getName", returns := some (.atom (.boxed .string) []) },
        { name := "getLog", returns := some (.atom (.boxed .string) []) }] },
    { key := ⟨"quay::Carrier"⟩, form := .isInterface, interfaces := [{ key := ⟨"quay::Vessel"⟩ }]
      methods := [
        { name := "getLoad", returns := some (.atom (.boxed .int) []) },
        { name := "getFlag", returns := some (.atom (.boxed .int) []) }] },
    { key := ⟨"quay::Vessel"⟩, form := .isInterface, interfaces := [{ key := ⟨"quay::Ferry"⟩ }]
      methods := [
        { name := "getFlag", returns := some (.atom (.boxed .string) []) },
        { name := "getLength", returns := some (.atom (.boxed .int) []) }] }]

example : ∃ ferry, crossing.lookup? ⟨"quay::Ferry"⟩ = some ferry ∧
    ((crossing.methodsOf ferry Method.isOutput).map fun collected =>
      (collected.method.name, collected.declaredIn.path)) =
        [("getName", "quay::Ship"), ("getLoad", "quay::Carrier"), ("getFlag", "quay::Carrier"),
          ("getLength", "quay::Vessel")] :=
  ⟨_, rfl, by decide +kernel⟩

end Catalog

end SchemaDiscovery
