import SchemaDiscovery.Proofs.Catalog.Subtype
import SchemaDiscovery.Proofs.Discovery.Adoption
/-!
The interface that a type declares. Main statement: a type tagged as an implementation declares the
nearest of the tagged types above it, and none only when there is none; and it is found among the
implementations of what it declares.
-/

namespace SchemaDiscovery

theorem of_find_of_pairwise {α : Type} {order : α → α → Prop} {items : List α} {test : α → Bool}
    {first other : α} (ordered : items.Pairwise order) (found : items.find? test = some first)
    (member : other ∈ items) (passes : test other = true) : other = first ∨ order first other := by
  obtain ⟨-, earlier, later, rfl, fail⟩ := List.find?_eq_some_iff_append.1 found
  rcases List.mem_append.1 member with before | here
  · have rejected := fail other before
    rw [passes] at rejected
    cases rejected
  · rcases List.mem_cons.1 here with same | after
    · exact .inl same
    · have rest := (List.pairwise_append.1 ordered).2.1
      exact .inr ((List.pairwise_cons.1 rest).1 other after)

namespace Catalog

/-- The other type has an interface tag, and a chain of so many references leads up to it. -/
structure InterfaceAt (catalog : Catalog) (type : TypeDescriptor) (distance : ℕ)
    (interface : TypeDescriptor) : Prop where
  chain : catalog.ExtendsIn type.key distance interface.key
  present : catalog.lookup? interface.key = some interface
  tagged : interface.hasInterfaceTag = true
  other : interface.key ≠ type.key

variable {catalog : Catalog} {type other interface : TypeDescriptor} {distance : ℕ}
  {ascent : Ascent} {ancestor : Ancestor} {stop : Stop} {key : TypeKey}

theorem insert_of_lookup (present : catalog.lookup? type.key = some type) :
    catalog.insert type = catalog :=
  congrArg Catalog.mk (Ordered.put_of_find present)

theorem extendsIn_of_follow (present : catalog.lookup? type.key = some type)
    (follows : catalog.follow? type ascent = some ancestor) :
    catalog.ExtendsIn type.key ascent.length ancestor.type.key := by
  induction ascent using List.reverseRecOn generalizing ancestor with
  | nil =>
    cases follows
    exact .start
  | append_singleton ascent place ih =>
    obtain ⟨below, reference, next, prior, refers, found, rfl⟩ := follow_concat_iff.1 follows
    have stored := lookup_of_follow prior
    rw [insert_of_lookup present] at found stored
    have named : reference.key ∈ below.type.supertypes.map (·.key) := by
      rw [← Ancestor.keys_supertypes]
      exact List.mem_map_of_mem (List.mem_of_getElem? refers)
    rw [List.length_append, List.length_singleton, key_of_lookup found]
    exact (ih prior).next (extends_iff.2 ⟨below.type, stored, named⟩)

theorem exists_follow_of_extendsIn (present : catalog.lookup? type.key = some type)
    (chain : catalog.ExtendsIn type.key distance key) (found : catalog.lookup? key = some other) :
    ∃ ascent ancestor, catalog.follow? type ascent = some ancestor ∧ ancestor.type = other ∧
      ascent.length = distance := by
  induction chain generalizing other with
  | start =>
    rw [present] at found
    exact ⟨[], ⟨type, []⟩, rfl, Option.some_inj.1 found, rfl⟩
  | next _ further ih =>
    obtain ⟨last, stored, refers⟩ := extends_iff.1 further
    obtain ⟨ascent, ancestor, follows, rfl, rfl⟩ := ih stored
    rw [← Ancestor.keys_supertypes] at refers
    obtain ⟨reference, there, rfl⟩ := List.mem_map.1 refers
    obtain ⟨place, refers⟩ := List.mem_iff_getElem?.1 there
    refine ⟨ascent ++ [place], _, follow_concat_iff.2 ⟨ancestor, reference, other, follows, refers,
      ?_, rfl⟩, rfl, List.length_append⟩
    rwa [insert_of_lookup present]

theorem ancestors_stops (catalog : Catalog) (type : TypeDescriptor) :
    ∃ stops : List Stop, stops.map (·.ancestor) = catalog.ancestors type ∧
      (∀ stop, stop ∈ stops ↔ catalog.FirstStop type stop ∧ stop.key ≠ type.key) ∧
      stops.Pairwise fun stop later => stop.ascent.rank < later.ascent.rank := by
  obtain ⟨stops, same, member, distinct, ordered⟩ := catalog.lineage_stops type
  obtain ⟨bottom, above, rfl, start, rest⟩ := List.map_eq_cons_iff.1 same
  have own : bottom.key = type.key := congrArg (·.type.key) start
  rw [List.map_cons, List.nodup_cons, own] at distinct
  refine ⟨above, rest, fun stop => ?_, (List.pairwise_cons.1 ordered).2⟩
  rw [← member, List.mem_cons]
  constructor
  · intro there
    refine ⟨.inr there, fun same => distinct.1 ?_⟩
    rw [← same]
    exact List.mem_map_of_mem there
  · rintro ⟨rfl | there, different⟩
    · exact absurd own different
    · exact there

theorem implementedInterface_stops (tagged : type.hasImplementationTag = true) {stops : List Stop}
    (same : stops.map (·.ancestor) = catalog.ancestors type) :
    catalog.implementedInterface? type =
      (stops.find? (·.ancestor.type.hasInterfaceTag)).map (·.ancestor.type) := by
  rw [implementedInterface?, if_pos tagged, ← same, List.find?_map, Option.map_map]
  rfl

theorem InterfaceAt.exists_stop (above : catalog.InterfaceAt type distance interface)
    (present : catalog.lookup? type.key = some type) :
    ∃ stop, catalog.FirstStop type stop ∧ stop.key ≠ type.key ∧
      stop.ancestor.type.hasInterfaceTag = true ∧ stop.ascent.length ≤ distance := by
  obtain ⟨ascent, ancestor, follows, rfl, rfl⟩ :=
    exists_follow_of_extendsIn present above.chain above.present
  obtain ⟨stop, first, same, sooner⟩ := exists_firstStop follows
  refine ⟨stop, first, ?_, ?_, Ascent.length_le_of_rank_le sooner⟩
  · rw [Stop.key, same]
    exact above.other
  · rw [same]
    exact above.tagged

theorem FirstStop.interfaceAt (first : catalog.FirstStop type stop)
    (present : catalog.lookup? type.key = some type) (different : stop.key ≠ type.key)
    (tagged : stop.ancestor.type.hasInterfaceTag = true) :
    catalog.InterfaceAt type stop.ascent.length stop.ancestor.type where
  chain := extendsIn_of_follow present first.follows
  present := by
    have stored := lookup_of_follow first.follows
    rwa [insert_of_lookup present] at stored
  tagged := tagged
  other := different

theorem hasImplementationTag_of_implementedInterface
    (declared : catalog.implementedInterface? type = some interface) :
    type.hasImplementationTag = true := by
  rw [implementedInterface?, Option.ite_none_right_eq_some] at declared
  exact declared.1

theorem interfaceAt_of_implementedInterface (present : catalog.lookup? type.key = some type)
    (declared : catalog.implementedInterface? type = some interface) :
    ∃ distance, catalog.InterfaceAt type distance interface ∧
      ∀ other farther, catalog.InterfaceAt type farther other → distance ≤ farther := by
  obtain ⟨stops, same, member, ordered⟩ := catalog.ancestors_stops type
  rw [implementedInterface_stops (hasImplementationTag_of_implementedInterface declared) same]
    at declared
  obtain ⟨stop, found, rfl⟩ := Option.map_eq_some_iff.1 declared
  obtain ⟨first, different⟩ := (member stop).1 (List.mem_of_find?_eq_some found)
  have marked : stop.ancestor.type.hasInterfaceTag = true := by simpa using List.find?_some found
  refine ⟨stop.ascent.length, first.interfaceAt present different marked, ?_⟩
  intro other farther above
  obtain ⟨further, leads, apart, tagged, short⟩ := above.exists_stop present
  have sooner : stop.ascent.rank ≤ further.ascent.rank := by
    rcases of_find_of_pairwise ordered found ((member further).2 ⟨leads, apart⟩) tagged with
      rfl | before
    · exact le_rfl
    · exact before.le
  exact (Ascent.length_le_of_rank_le sooner).trans short

theorem not_interfaceAt_of_implementedInterface (present : catalog.lookup? type.key = some type)
    (tagged : type.hasImplementationTag = true)
    (none : catalog.implementedInterface? type = none) :
    ¬ catalog.InterfaceAt type distance interface := by
  intro above
  obtain ⟨stops, same, member, -⟩ := catalog.ancestors_stops type
  rw [implementedInterface_stops tagged same, Option.map_eq_none_iff, List.find?_eq_none] at none
  obtain ⟨stop, leads, apart, marked, -⟩ := above.exists_stop present
  exact none stop ((member stop).2 ⟨leads, apart⟩) marked

theorem mem_implementationsOf_declared {config : Config}
    (present : catalog.lookup? type.key = some type)
    (declared : catalog.implementedInterface? type = some interface)
    (within : ∀ scope ∈ config.scopeFor interface.key.modulePath, type.key.isWithin scope = true) :
    type.key ∈ catalog.implementationsOf config interface := by
  obtain ⟨distance, nearest, -⟩ := interfaceAt_of_implementedInterface present declared
  have candidate : type.key ∈ catalog.candidates := List.mem_map_of_mem
    (List.mem_filter.2 ⟨mem_of_lookup present,
      hasImplementationTag_of_implementedInterface declared⟩)
  have inScope : (config.scopeFor interface.key.modulePath).all type.key.isWithin = true := by
    rw [Option.all_eq_true]
    exact within
  have assignable : catalog.isSubtype type.key interface.key = true :=
    isSubtype_of_reaches (exists_extendsIn_iff.1 ⟨distance, nearest.chain⟩)
  refine List.mem_filter.2 ⟨List.mem_filter.2 ⟨candidate, inScope⟩, ?_⟩
  rw [Bool.and_eq_true, decide_eq_true_iff]
  exact ⟨nearest.other.symm, assignable⟩

/-- A type of the catalog declares no interface unless it is tagged as an implementation, and then the
nearest of the tagged types above it, if there is one. It is found among the implementations of an
interface that it declares and in whose scope it lies, and declares one if it is found among those of any
tagged type. The walk up comes to each type once. -/
theorem implementedInterface_nearest (distinct : catalog.keys.Nodup)
    (present : catalog.lookup? type.key = some type) :
    (type.hasImplementationTag = false → catalog.implementedInterface? type = none) ∧
    (∀ interface, catalog.implementedInterface? type = some interface →
      ∃ distance, catalog.InterfaceAt type distance interface ∧
        ∀ other farther, catalog.InterfaceAt type farther other → distance ≤ farther) ∧
    (type.hasImplementationTag = true → catalog.implementedInterface? type = none →
      ∀ distance interface, ¬ catalog.InterfaceAt type distance interface) ∧
    (∀ config interface, catalog.implementedInterface? type = some interface →
      (∀ scope ∈ config.scopeFor interface.key.modulePath, type.key.isWithin scope = true) →
        type.key ∈ catalog.implementationsOf config interface) ∧
    (∀ config interface, catalog.lookup? interface.key = some interface →
      interface.hasInterfaceTag = true → type.key ∈ catalog.implementationsOf config interface →
        ∃ declared, catalog.implementedInterface? type = some declared) ∧
    (type.key :: (catalog.ancestors type).map (·.type.key)).Nodup := by
  refine ⟨?_, ?_, ?_, ?_, ?_, catalog.nodup_keys_lineage type⟩
  · intro untagged
    rw [implementedInterface?, untagged]
    rfl
  · exact fun interface declared => interfaceAt_of_implementedInterface present declared
  · exact fun tagged none distance interface =>
      not_interfaceAt_of_implementedInterface present tagged none
  · exact fun config interface declared within =>
      mem_implementationsOf_declared present declared within
  · intro config interface known tagged found
    exact Option.isSome_iff_exists.1
      (declares_of_implementation distinct present known tagged found)

/-- An implementation whose parent refers back to it and to interfaces that refer to each other, beside a
type that the catalog has not. -/
def duke : TypeDescriptor where
  key := ⟨"court::Duke"⟩
  parent := some ⟨⟨"court::Peer"⟩, []⟩
  interfaces := [⟨⟨"court::Ghost"⟩, []⟩]
  tags := [.implementation none]

def noble : TypeDescriptor where
  key := ⟨"court::Noble"⟩
  form := .isInterface
  interfaces := [⟨⟨"court::Subject"⟩, []⟩]
  tags := [.interface none]

def court : Catalog := .ofTypes [duke,
  { key := ⟨"court::Peer"⟩, parent := some ⟨duke.key, []⟩
    interfaces := [⟨noble.key, []⟩, ⟨⟨"court::Subject"⟩, []⟩] },
  noble,
  { key := ⟨"court::Subject"⟩, form := .isInterface, interfaces := [⟨noble.key, []⟩]
    tags := [.interface none] }]

theorem implementedInterface_nearest_court :
    court.keys.Nodup ∧ court.lookup? duke.key = some duke ∧
    duke.hasImplementationTag = true ∧ court.implementedInterface? duke = some noble ∧
    (∃ distance, court.InterfaceAt duke distance noble ∧
      ∀ other farther, court.InterfaceAt duke farther other → distance ≤ farther) ∧
    duke.key ∈ court.implementationsOf {} noble ∧
    (∃ declared, court.implementedInterface? duke = some declared) ∧
    (duke.key :: (court.ancestors duke).map (·.type.key)).Nodup := by
  have distinct : court.keys.Nodup := nodup_keys_ofTypes _
  have present : court.lookup? duke.key = some duke := by decide +kernel
  have declared : court.implementedInterface? duke = some noble := by decide +kernel
  have known : court.lookup? noble.key = some noble := by decide +kernel
  have within : ∀ scope ∈ ({} : Config).scopeFor noble.key.modulePath,
      duke.key.isWithin scope = true := by
    decide +kernel
  obtain ⟨-, nearest, -, found, declares, once⟩ := implementedInterface_nearest distinct present
  have listed := found {} noble declared within
  exact ⟨distinct, present, rfl, declared, nearest noble declared, listed,
    declares {} noble known rfl listed, once⟩

end Catalog

end SchemaDiscovery
