import SchemaDiscovery.Proofs.Schema.Conformance
/-!
Families of an interface: the interface and the types tagged as its implementations. Main statement: in
a build that succeeds, an interface is recorded together with all of its implementations and an object
together with the interface that it declares, and each of them has been emitted.
-/

namespace SchemaDiscovery

namespace Domain

variable {domain : Domain} {resolvers : List Resolver} {schema : Schema} {registry : Registry}
  {entry : DiscoveredType} {type : TypeDescriptor} {key : TypeKey} {requested : TypeKind}

/-- What the key stands for when it is asked for in the role has been emitted, under the name and with
the kind that it takes on then. The entry of the name is that of the key itself, unless the name goes
to several types. -/
def Emits (domain : Domain) (registry : Registry) (key : TypeKey) (requested : TypeKind) : Prop :=
  ∃ type kind entry, domain.catalog.lookup? key = some type ∧ type.kindWhen requested = .ok kind ∧
    registry.find? (type.schemaName kind) = some entry ∧ entry.kind = kind ∧
    (domain.catalog.Unambiguous kind (type.schemaName kind) → entry.source = key) ∧
    registry.state (type.schemaName kind) = .emitted

theorem Sourced.source_eq (sourced : domain.Sourced entry)
    (known : domain.catalog.lookup? key = some type)
    (role : type.kindWhen entry.kind = .ok entry.kind)
    (named : type.schemaName entry.kind = entry.name)
    (unambiguous : domain.catalog.Unambiguous entry.kind entry.name) : entry.source = key := by
  obtain ⟨source, present, discovered, shared⟩ := sourced
  have same : source = type := unambiguous.unique
    ⟨Catalog.mem_of_lookup present, discovered, shared⟩ ⟨Catalog.mem_of_lookup known, role, named⟩
  rw [← Catalog.key_of_lookup present, same, Catalog.key_of_lookup known]

theorem Built.state_of_recorded (built : domain.Built resolvers schema) {name : String}
    {kind : TypeKind}
    (recorded : (domain.finalDiscovery resolvers).registry.kindOf? name = some kind) :
    (domain.finalDiscovery resolvers).registry.state name = .emitted := by
  have done := built.emitted_of_recorded recorded
  rw [Registry.state, if_pos (List.contains_iff_mem.2 done)]

theorem Built.emits_of_done (built : domain.Built resolvers schema) {implements : Option String}
    (done : domain.Done (domain.finalDiscovery resolvers).registry
      (.discover key requested implements)) :
    domain.Emits (domain.finalDiscovery resolvers).registry key requested := by
  obtain ⟨finding, examined, recorded⟩ := done
  obtain ⟨kind, known, role, -, same⟩ := examine_ok examined
  rw [same] at recorded
  obtain ⟨entry, found, rfl⟩ := Option.map_eq_some_iff.1 recorded
  have named : entry.name = finding.type.schemaName entry.kind := Registry.find_some_name found
  refine ⟨finding.type, entry.kind, entry, known, role, found, rfl, fun unambiguous => ?_,
    built.state_of_recorded recorded⟩
  rw [← named] at unambiguous
  exact (built.consistent.sourced entry (Registry.find_mem found)).source_eq known
    (TypeDescriptor.kindWhen_kindWhen role) named.symm unambiguous

theorem implementation_mem_errandsOf (present : domain.catalog.lookup? entry.source = some type)
    (interface : entry.kind = .interface)
    (scanned : key ∈ domain.catalog.implementationsOf domain.config type) :
    .discover key .object (some entry.name) ∈ domain.errandsOf entry := by
  simp only [errandsOf, present, errands, interface, if_true, List.mem_append]
  exact .inl (.inr (List.mem_map_of_mem scanned))

theorem interface_mem_errandsOf {interface : TypeDescriptor}
    (present : domain.catalog.lookup? entry.source = some type) (object : entry.kind = .object)
    (declared : domain.catalog.implementedInterface? type = some interface) :
    .discover interface.key .interface none ∈ domain.errandsOf entry := by
  simp only [errandsOf, present, errands, object, if_true, declared, List.mem_append]
  exact .inl (.inl (List.mem_singleton.2 rfl))

/-- Each recorded type has been emitted. With an interface each type is that the scan for its
implementations finds, and with an object the interface that its source declares. -/
theorem families_emitted (built : domain.build resolvers = .ok schema)
    (recorded : entry ∈ (domain.finalDiscovery resolvers).registry.entries) :
    ∃ type, domain.catalog.lookup? entry.source = some type ∧
      (domain.finalDiscovery resolvers).registry.state entry.name = .emitted ∧
      (entry.kind = .interface →
        ∀ key ∈ domain.catalog.implementationsOf domain.config type,
          domain.Emits (domain.finalDiscovery resolvers).registry key .object) ∧
      (entry.kind = .object →
        ∀ interface, domain.catalog.implementedInterface? type = some interface →
          domain.Emits (domain.finalDiscovery resolvers).registry interface.key .interface) := by
  have whole := built_of_build built
  have settled := whole.consistent.settled entry recorded
  have found : (domain.finalDiscovery resolvers).registry.find? entry.name = some entry :=
    Ordered.find_eq_some_of_nodup whole.consistent.sound.entries recorded
  obtain ⟨type, present, -, -⟩ := whole.consistent.sourced entry recorded
  refine ⟨type, present, whole.state_of_recorded (Registry.kindOf_of_find found), ?_, ?_⟩
  · intro interface key scanned
    exact whole.emits_of_done (settled _ (implementation_mem_errandsOf present interface scanned))
  · intro object interface declared
    exact whole.emits_of_done (settled _ (interface_mem_errandsOf present object declared))

/-- Instruments. The fiddle is one by way of a type without a tag, and goes by another name. -/
def orchestra : Domain where
  catalog := .ofTypes [
    { key := ⟨"orchestra::Instrument"⟩, form := .isInterface, tags := [.interface none]
      methods := [textGetter "getName"] },
    { key := ⟨"orchestra::Bowed"⟩, parent := some ⟨⟨"orchestra::Instrument"⟩, []⟩ },
    { key := ⟨"orchestra::Fiddle"⟩, parent := some ⟨⟨"orchestra::Bowed"⟩, []⟩
      tags := [.implementation (some "Violin")] },
    { key := ⟨"orchestra::Drum"⟩, interfaces := [⟨⟨"orchestra::Instrument"⟩, []⟩]
      tags := [.implementation none] }]

def drumming : List Resolver := [asking [("drum", "orchestra::Drum")]]

theorem families_emitted_orchestra : ∃ schema, orchestra.build drumming = .ok schema ∧
    (orchestra.finalDiscovery drumming).registry.entries.map (fun entry => (entry.name, entry.kind)) =
      [("Drum", .object), ("Instrument", .interface), ("Violin", .object)] ∧
    ∀ entry ∈ (orchestra.finalDiscovery drumming).registry.entries,
      ∃ type, orchestra.catalog.lookup? entry.source = some type ∧
        (orchestra.finalDiscovery drumming).registry.state entry.name = .emitted ∧
        (entry.kind = .interface →
          ∀ key ∈ orchestra.catalog.implementationsOf orchestra.config type,
            orchestra.Emits (orchestra.finalDiscovery drumming).registry key .object) ∧
        (entry.kind = .object →
          ∀ interface, orchestra.catalog.implementedInterface? type = some interface →
            orchestra.Emits (orchestra.finalDiscovery drumming).registry interface.key
              .interface) := by
  have observed : (orchestra.build drumming).toOption.map (fun _ =>
      (orchestra.finalDiscovery drumming).registry.entries.map fun entry =>
        (entry.name, entry.kind)) =
      some [("Drum", .object), ("Instrument", .interface), ("Violin", .object)] := by
    decide +kernel
  obtain ⟨schema, built, seen⟩ := build_observed observed
  exact ⟨schema, built, seen, fun entry recorded => families_emitted built recorded⟩

end Domain

end SchemaDiscovery
