import SchemaDiscovery.Proofs.Discovery.Agenda
import SchemaDiscovery.Proofs.Catalog.Lineage
/-!
Where the interfaces of recorded types come from. Main statement: an entry names an interface only
if a type of its name and kind is an implementation found by that interface or declares it.
-/

namespace SchemaDiscovery

namespace Domain

variable {domain : Domain} {before after : Registry}

/-- A type implements the interface of that name in the eyes of discovery: the interface is recorded
and found the type among its implementations, or the type declares it. -/
def Implements (domain : Domain) (registry : Registry) (type : TypeDescriptor)
    (kind : TypeKind) (interface : String) : Prop :=
  (domain.Scans interface type.key ∧ registry.kindOf? interface = some .interface) ∨
    (kind = .object ∧ ∃ declared, domain.catalog.implementedInterface? type = some declared ∧
      declared.schemaName .interface = interface)

def Provides (domain : Domain) (registry : Registry) (kind : TypeKind) (name interface : String) :
    Prop :=
  ∃ type, domain.catalog.lookup? type.key = some type ∧ type.kindWhen kind = .ok kind ∧
    type.schemaName kind = name ∧ domain.Implements registry type kind interface

def Linked (domain : Domain) (registry : Registry) (entry : DiscoveredType) : Prop :=
  ∀ interface ∈ entry.implements, domain.Provides registry entry.kind entry.name interface

theorem Implements.of_grows {type : TypeDescriptor} {kind : TypeKind} {interface : String}
    (implements : domain.Implements before type kind interface) (grows : before.Grows after) :
    domain.Implements after type kind interface :=
  implements.imp_left fun scanned => ⟨scanned.1, grows.kindOf scanned.2⟩

theorem Provides.of_grows {kind : TypeKind} {name interface : String}
    (provides : domain.Provides before kind name interface) (grows : before.Grows after) :
    domain.Provides after kind name interface := by
  obtain ⟨type, present, discovered, named, implements⟩ := provides
  exact ⟨type, present, discovered, named, implements.of_grows grows⟩

theorem Linked.of_grows {entry : DiscoveredType} (linked : domain.Linked before entry)
    (grows : before.Grows after) : domain.Linked after entry :=
  fun interface member => (linked interface member).of_grows grows

theorem linked_of_examine {key : TypeKey} {requested : TypeKind} {implements : Option String}
    {finding : Finding} (examined : domain.examine key requested implements = .ok finding)
    (warranted : domain.Warranted before (.discover key requested implements)) :
    domain.Linked before finding.entry := by
  obtain ⟨kind, found, discovered, declared, same⟩ := examine_ok examined
  have own : finding.type.key = key := Catalog.key_of_lookup found
  intro interface member
  rw [same] at member ⊢
  refine ⟨finding.type, by rw [own, found], TypeDescriptor.kindWhen_kindWhen discovered, rfl, ?_⟩
  rcases Option.or_eq_some_iff.1 member with asked | ⟨-, derived⟩
  · rw [Implements, own]
    obtain ⟨finds, recorded⟩ := warranted.2 interface asked
    exact .inl ⟨finds.scans, recorded⟩
  · obtain ⟨type, some, named⟩ := Option.map_eq_some_iff.1 derived
    rw [declared, Option.ite_none_right_eq_some] at some
    exact .inr ⟨some.1, type, some.2, named⟩

/-- The interface of each entry is related to the kind and the name of the entry. -/
def Relates (relation : Registry → TypeKind → String → String → Prop) (registry : Registry) : Prop :=
  ∀ entry ∈ registry.entries, ∀ interface ∈ entry.implements,
    relation registry entry.kind entry.name interface

variable {relation : Registry → TypeKind → String → String → Prop}

theorem relates_register {candidate : DiscoveredType} {registration : Registration}
    (registered : before.register candidate = .ok (registration, after))
    (lasts : ∀ {kind name interface}, relation before kind name interface →
      relation after kind name interface)
    (related : ∀ interface ∈ candidate.implements,
      relation after candidate.kind candidate.name interface)
    (start : Relates relation before) : Relates relation after := by
  rcases Registry.register_ok registered with ⟨existing, found, same, rfl⟩ | ⟨-, rfl⟩
  · intro entry member interface implemented
    rcases Ordered.mem_put member with rfl | member
    · rcases Option.or_eq_some_iff.1 implemented with old | ⟨-, new⟩
      · exact lasts (start existing (Registry.find_mem found) interface old)
      · have further := related interface new
        rw [← same, ← Registry.find_some_name found] at further
        exact further
    · exact lasts (start entry member interface implemented)
  · intro entry member interface implemented
    rcases List.mem_append.1 member with member | member
    · exact lasts (start entry member interface implemented)
    · rw [List.mem_singleton.1 member] at implemented ⊢
      exact related interface implemented

theorem relates_of_entries (same : after.entries = before.entries)
    (lasts : ∀ {kind name interface}, relation before kind name interface →
      relation after kind name interface)
    (start : Relates relation before) : Relates relation after := by
  intro entry member interface implemented
  rw [same] at member
  exact lasts (start entry member interface implemented)

theorem Reaches.linked (reaches : domain.Reaches before after)
    (start : ∀ entry ∈ before.entries, domain.Linked before entry) :
    ∀ entry ∈ after.entries, domain.Linked after entry := by
  have related : Relates domain.Provides after := by
    induction reaches with
    | refl => exact start
    | register warranted examined registered _ ih =>
      have grows := Registry.grows_register registered
      have found := (linked_of_examine examined warranted).of_grows grows
      exact ih (relates_register registered (·.of_grows grows) found start)
    | @enqueue before _ name _ ih =>
      have grows := Registry.grows_enqueue before name
      exact ih (relates_of_entries (Registry.entries_enqueue ..) (·.of_grows grows) start)
  exact related

end Domain

end SchemaDiscovery
