import SchemaDiscovery.Proofs.Build.Arrival
import SchemaDiscovery.Proofs.Schema.Conformance
/-!
The interfaces that recorded objects are linked to. Main statement: an object names the nearest interface
of its source type, unless a farther one came upon the type first; a type without an interface is linked
to one only for the sake of another type of its name.
-/

namespace SchemaDiscovery

namespace Domain

variable {domain : Domain} {resolvers : List Resolver} {schema : Schema} {registry : Registry}
  {entry : DiscoveredType} {type interface : TypeDescriptor} {link : Option String}

theorem Arrives.implements (arrives : domain.Arrives entry.name entry.source link registry)
    (found : registry.find? entry.name = some entry) (object : entry.kind = .object)
    (present : domain.catalog.lookup? entry.source = some type) :
    ∃ more, entry.implements = (link.or
      ((domain.catalog.implementedInterface? type).map (·.schemaName .interface))).or more := by
  obtain ⟨requested, finding, more, examined, recorded⟩ := arrives.find
  obtain ⟨kind, known, -, declared, same⟩ := examine_ok examined
  rw [found] at recorded
  obtain rfl := Option.some_inj.1 recorded
  have role : kind = .object := by rw [← object, same]
  rw [present] at known
  rw [if_pos role, ← Option.some_inj.1 known] at declared
  refine ⟨more, ?_⟩
  rw [same, declared]

theorem Arrives.nearest (arrives : domain.Arrives entry.name entry.source link registry)
    (found : registry.find? entry.name = some entry) (object : entry.kind = .object)
    (present : domain.catalog.lookup? entry.source = some type)
    (declared : domain.catalog.implementedInterface? type = some interface)
    (through : ∀ name ∈ link, name = interface.schemaName .interface) :
    entry.implements = some (interface.schemaName .interface) := by
  obtain ⟨more, named⟩ := arrives.implements found object present
  rw [named, declared]
  cases link with
  | none => rfl
  | some name =>
    rw [through name rfl]
    rfl

/-- An object names the interface that its source type was sent on with when it arrived. If it arrived of
its own, it names its nearest one. A source that declares no interface is linked only by another type,
which the build called for as well and which came upon the name with the interface. -/
theorem objects_link_nearest (built : domain.build resolvers = .ok schema)
    (distinct : domain.catalog.keys.Nodup)
    (recorded : entry ∈ (domain.finalDiscovery resolvers).registry.entries)
    (object : entry.kind = .object) :
    ∃ type, domain.catalog.lookup? entry.source = some type ∧
      (∃ link, domain.Arrives entry.name entry.source link
          (domain.finalDiscovery resolvers).registry ∧
        domain.Calls (domain.Asked resolvers (domain.finalDiscovery resolvers).registry)
          (domain.finalDiscovery resolvers).registry entry.source link) ∧
      (∀ link, domain.Arrives entry.name entry.source link
          (domain.finalDiscovery resolvers).registry →
        (∀ name, link = some name → entry.implements = some name) ∧
        ∀ interface, domain.catalog.implementedInterface? type = some interface →
          (link = none ∨ link = some (interface.schemaName .interface)) →
            entry.implements = some (interface.schemaName .interface)) ∧
      (domain.catalog.implementedInterface? type = none → ∀ name ∈ entry.implements,
        ∃ other link, other.key ≠ type.key ∧
          (domain.catalog.implementedInterface? other).isSome = true ∧
          domain.Brings (domain.Asked resolvers (domain.finalDiscovery resolvers).registry)
            (domain.finalDiscovery resolvers).registry entry.name other link name) := by
  have whole := built_of_build built
  have found : (domain.finalDiscovery resolvers).registry.find? entry.name = some entry :=
    Ordered.find_eq_some_of_nodup whole.consistent.sound.entries recorded
  obtain ⟨type, present, -, -⟩ := whole.consistent.sourced entry recorded
  obtain ⟨link, arrives, calls⟩ := whole.traced.arrived entry recorded
  refine ⟨type, present, ⟨link, arrives, calls object⟩, fun link arrives => ⟨?sent, ?nearest⟩, ?other⟩
  case sent =>
    rintro name rfl
    obtain ⟨more, named⟩ := arrives.implements found object present
    exact named
  case nearest =>
    intro interface declared through
    refine arrives.nearest found object present declared ?_
    rcases through with rfl | rfl
    · exact nofun
    · exact fun name same => (Option.some_inj.1 same).symm
  case other =>
    intro plain name linked
    obtain ⟨other, link, brings⟩ := whole.traced.linked entry recorded name linked object
    have declares := brings.calls.declares distinct brings.present brings.gives
    -- The other type declares an interface, and so is not the source.
    refine ⟨other, link, fun same => ?_, declares, brings⟩
    have own : type.key = entry.source := Catalog.key_of_lookup present
    have known := brings.present
    rw [same, own, present] at known
    rw [← Option.some_inj.1 known, plain] at declares
    cases declares

def cast : Domain where
  catalog := .ofTypes [
    { key := ⟨"cast::Node"⟩, form := .isInterface, tags := [.interface none]
      methods := [textGetter "getName"] },
    { key := ⟨"cast::Character"⟩, form := .isInterface, interfaces := [⟨⟨"cast::Node"⟩, []⟩]
      tags := [.interface none], methods := [textGetter "getName"] },
    { key := ⟨"cast::Human"⟩, interfaces := [⟨⟨"cast::Character"⟩, []⟩]
      tags := [.implementation none], methods := [textGetter "getName"] }]

theorem recorded_of_observed (sample : Domain × List Resolver) (entry : DiscoveredType)
    (observed : (sample.1.build sample.2).toOption.map (fun _ =>
      decide (entry ∈ (sample.1.finalDiscovery sample.2).registry.entries)) = some true) :
    ∃ schema, sample.1.build sample.2 = .ok schema ∧
      entry ∈ (sample.1.finalDiscovery sample.2).registry.entries := by
  obtain ⟨schema, built, seen⟩ := build_observed observed
  exact ⟨schema, built, of_decide_eq_true seen⟩

def casting : List Resolver := [asking [("human", "cast::Human")]]

def surveying : List Resolver := [asking [("node", "cast::Node")]]

/-- Asked for by itself the human names the nearest interface, and found by the nodes it names theirs. The
ships of the port have brought their interface to those of the river. -/
theorem objects_link_nearest_cast :
    (∃ schema, cast.build casting = .ok schema ∧
      ⟨"Human", ⟨"cast::Human"⟩, .object, some "Character"⟩ ∈
        (cast.finalDiscovery casting).registry.entries ∧
      ∃ link, (link = none ∨ link = some "Character") ∧
        cast.Arrives "Human" ⟨"cast::Human"⟩ link (cast.finalDiscovery casting).registry) ∧
    (∃ schema, cast.build surveying = .ok schema ∧
      ⟨"Human", ⟨"cast::Human"⟩, .object, some "Node"⟩ ∈
        (cast.finalDiscovery surveying).registry.entries ∧
      cast.Arrives "Human" ⟨"cast::Human"⟩ (some "Node")
        (cast.finalDiscovery surveying).registry) ∧
    ∃ schema, namesakes.1.build namesakes.2 = .ok schema ∧
      ⟨"Ship", ⟨"river::Ship"⟩, .object, some "Vessel"⟩ ∈
        (namesakes.1.finalDiscovery namesakes.2).registry.entries ∧
      ∃ type link, type.key = ⟨"port::Ship"⟩ ∧
        namesakes.1.Brings
          (namesakes.1.Asked namesakes.2 (namesakes.1.finalDiscovery namesakes.2).registry)
          (namesakes.1.finalDiscovery namesakes.2).registry "Ship" type link "Vessel" := by
  refine ⟨?direct, ?farther, ?shared⟩
  case direct =>
    obtain ⟨schema, built, recorded⟩ := recorded_of_observed (cast, casting)
      ⟨"Human", ⟨"cast::Human"⟩, .object, some "Character"⟩ (by decide +kernel)
    obtain ⟨type, -, ⟨link, arrives, -⟩, each, -⟩ :=
      objects_link_nearest built (Catalog.nodup_keys_ofTypes _) recorded rfl
    refine ⟨schema, built, recorded, link, ?_, arrives⟩
    cases link with
    | none => exact .inl rfl
    | some name => exact .inr ((each _ arrives).1 name rfl).symm
  case farther =>
    obtain ⟨schema, built, recorded⟩ := recorded_of_observed (cast, surveying)
      ⟨"Human", ⟨"cast::Human"⟩, .object, some "Node"⟩ (by decide +kernel)
    obtain ⟨type, present, ⟨link, arrives, -⟩, each, -⟩ :=
      objects_link_nearest built (Catalog.nodup_keys_ofTypes _) recorded rfl
    refine ⟨schema, built, recorded, ?_⟩
    cases link with
    | none =>
      have nearest : ((cast.catalog.lookup? ⟨"cast::Human"⟩).bind
          cast.catalog.implementedInterface?).map (·.schemaName .interface) =
            some "Character" := by
        decide +kernel
      rw [present] at nearest
      obtain ⟨interface, declared, named⟩ := Option.map_eq_some_iff.1 nearest
      have kept := (each _ arrives).2 interface declared (.inl rfl)
      rw [named] at kept
      exact absurd kept (by decide)
    | some name =>
      have same : "Node" = name := Option.some_inj.1 ((each _ arrives).1 name rfl)
      exact same ▸ arrives
  case shared =>
    obtain ⟨schema, built, recorded⟩ := recorded_of_observed namesakes
      ⟨"Ship", ⟨"river::Ship"⟩, .object, some "Vessel"⟩ (by decide +kernel)
    obtain ⟨type, present, -, -, brought⟩ :=
      objects_link_nearest built (Catalog.nodup_keys_ofTypes _) recorded rfl
    have plain : (namesakes.1.catalog.lookup? ⟨"river::Ship"⟩).bind
        namesakes.1.catalog.implementedInterface? = none := by
      decide +kernel
    rw [present] at plain
    obtain ⟨other, link, apart, -, brings⟩ := brought plain "Vessel" rfl
    refine ⟨schema, built, recorded, other, link, ?_, brings⟩
    have ships : ∀ ship ∈ namesakes.1.catalog.types, ship.schemaName .object = "Ship" →
        ship.key = ⟨"river::Ship"⟩ ∨ ship.key = ⟨"port::Ship"⟩ := by
      decide +kernel
    rw [Catalog.key_of_lookup present] at apart
    exact (ships other (Catalog.mem_of_lookup brings.present) brings.named).resolve_left apart

/-- Each recorded object names the nearest interface of its source, or none. -/
def LinksNearest (domain : Domain) (registry : Registry) : Prop :=
  ∀ entry ∈ registry.entries, entry.kind = .object →
    entry.implements =
      ((domain.catalog.lookup? entry.source).bind domain.catalog.implementedInterface?).map
        (·.schemaName .interface)

instance (domain : Domain) (registry : Registry) : Decidable (domain.LinksNearest registry) :=
  inferInstanceAs (Decidable (∀ entry ∈ registry.entries, _ → _))

def LinksElsewhere (sample : Domain × List Resolver) : Prop :=
  ∃ schema, sample.1.build sample.2 = .ok schema ∧
    ¬ sample.1.LinksNearest (sample.1.finalDiscovery sample.2).registry

theorem linksElsewhere_of_observed {sample : Domain × List Resolver}
    (observed : (sample.1.build sample.2).toOption.map (fun _ =>
      decide (sample.1.LinksNearest (sample.1.finalDiscovery sample.2).registry)) = some false) :
    LinksElsewhere sample := by
  obtain ⟨schema, built, seen⟩ := build_observed observed
  exact ⟨schema, built, of_decide_eq_false seen⟩

/-- A farther interface that comes first is kept, and so is the interface of a type of the same name. -/
theorem links_not_nearest :
    LinksElsewhere (cast, surveying) ∧ LinksElsewhere namesakes := by
  constructor
  · exact linksElsewhere_of_observed (by decide +kernel)
  · exact linksElsewhere_of_observed (by decide +kernel)

end Domain

end SchemaDiscovery
