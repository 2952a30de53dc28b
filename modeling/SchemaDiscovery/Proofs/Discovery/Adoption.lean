import SchemaDiscovery.Proofs.Discovery.Links
/-!
Why types are discovered as objects. Main statement: an object is discovered because it is asked for or
because a recorded interface found it, and what an interface found declares an interface itself.
-/

namespace SchemaDiscovery

namespace Catalog

variable {catalog : Catalog} {type : TypeDescriptor}

theorem nodup_keys_ofTypes (types : List TypeDescriptor) : (ofTypes types).keys.Nodup := by
  have kept : ∀ start : Catalog, start.keys.Nodup → (types.foldl insert start).keys.Nodup := by
    induction types with
    | nil => exact fun start distinct => distinct
    | cons type types ih =>
      exact fun start distinct => ih _ (Ordered.nodup_keys_put _ type start.types distinct)
  exact kept empty .nil

theorem hasImplementationTag_of_candidate (distinct : catalog.keys.Nodup)
    (present : catalog.lookup? type.key = some type) (candidate : type.key ∈ catalog.candidates) :
    type.hasImplementationTag = true := by
  obtain ⟨other, member, same⟩ := List.mem_map.1 candidate
  obtain ⟨listed, tagged⟩ := List.mem_filter.1 member
  have found : catalog.lookup? other.key = some other :=
    Ordered.find_eq_some_of_nodup distinct listed
  rw [same, present] at found
  cases found
  exact tagged

theorem declares_of_implementation {config : Config} {interface : TypeDescriptor}
    (distinct : catalog.keys.Nodup) (present : catalog.lookup? type.key = some type)
    (known : catalog.lookup? interface.key = some interface)
    (tagged : interface.hasInterfaceTag = true)
    (found : type.key ∈ catalog.implementationsOf config interface) :
    (catalog.implementedInterface? type).isSome = true := by
  obtain ⟨within, fits⟩ := List.mem_filter.1 found
  obtain ⟨different, assignable⟩ := Bool.and_eq_true_iff.1 fits
  have candidate : type.key ∈ catalog.candidates := (List.mem_filter.1 within).1
  obtain ⟨ancestor, member, rfl⟩ := descends_of_isSubtype present known assignable
  have above : ancestor ∈ catalog.ancestors type := by
    refine (List.mem_cons.1 member).resolve_left ?_
    rintro rfl
    simp at different
  rw [implementedInterface?, if_pos (hasImplementationTag_of_candidate distinct present candidate),
    Option.isSome_map, List.find?_isSome]
  exact ⟨ancestor, above, tagged⟩

end Catalog

namespace Domain

variable {domain : Domain} {asked : TypeKey → Prop} {registry before after : Registry}

/-- The type is discovered as an object because it is asked for, or because a recorded interface found it
and sends it on with its own name. -/
inductive Calls (domain : Domain) (asked : TypeKey → Prop) (registry : Registry) (key : TypeKey) :
    Option String → Prop
  | asked (asks : asked key) : Calls domain asked registry key none
  | found {name : String} {entry : DiscoveredType} {interface : TypeDescriptor}
    (recorded : registry.find? name = some entry) (role : entry.kind = .interface)
    (present : domain.catalog.lookup? entry.source = some interface)
    (tagged : interface.hasInterfaceTag = true)
    (listed : key ∈ domain.catalog.implementationsOf domain.config interface) :
    Calls domain asked registry key (some name)

theorem Calls.of_grows {key : TypeKey} {link : Option String}
    (calls : domain.Calls asked before key link) (grows : before.Grows after) :
    domain.Calls asked after key link := by
  cases calls with
  | asked asks => exact .asked asks
  | found recorded role present tagged listed =>
    obtain ⟨further, kept⟩ := grows.kept _ _ recorded
    exact .found kept role present tagged listed

theorem Calls.declares {type : TypeDescriptor} {link : Option String} {interface : String}
    (calls : domain.Calls asked registry type.key link) (distinct : domain.catalog.keys.Nodup)
    (present : domain.catalog.lookup? type.key = some type)
    (gives : link.or ((domain.catalog.implementedInterface? type).map (·.schemaName .interface)) =
      some interface) : (domain.catalog.implementedInterface? type).isSome = true := by
  cases calls with
  | asked asks =>
    rw [Option.none_or] at gives
    rw [← Option.isSome_map, gives]
    rfl
  | found recorded role known tagged listed =>
    refine Catalog.declares_of_implementation distinct present ?_ tagged listed
    rw [Catalog.key_of_lookup known, known]

def Justified (domain : Domain) (asked : TypeKey → Prop) (registry : Registry) : Errand → Prop
  | .discover key requested link => requested = .object → domain.Calls asked registry key link
  | .enqueue _ => True

theorem justified_rest {current : Errand} {rest : List Errand}
    (justified : ∀ errand ∈ current :: rest, domain.Justified asked before errand)
    (grows : before.Grows after) : ∀ errand ∈ rest, domain.Justified asked after errand := by
  intro errand member
  have here := justified errand (List.mem_cons_of_mem _ member)
  cases errand with
  | discover key requested link => exact fun object => (here object).of_grows grows
  | enqueue name => trivial

theorem justified_errands {key : TypeKey} {requested : TypeKind} {link : Option String}
    {finding : Finding} {entry : DiscoveredType}
    (examined : domain.examine key requested link = .ok finding)
    (warranted : domain.Warranted before (.discover key requested link))
    (registered : before.register finding.entry = .ok (.new entry, after)) :
    ∀ errand ∈ domain.errands finding, domain.Justified asked after errand := by
  have tagged := tagged_of_examine examined warranted
  obtain ⟨absent, recorded⟩ := Registry.find_register_new registered finding.entry.name
  rw [absent, Option.none_or, if_pos rfl] at recorded
  obtain ⟨kind, found, -, -, same⟩ := examine_ok examined
  have source : finding.entry.source = key := by rw [same]
  intro errand member
  simp only [errands, List.mem_append, List.mem_map, Option.mem_toList] at member
  rcases member with (⟨declared, -, rfl⟩ | later) | here
  -- The declared interface is not asked for as an object.
  · intro asObject
    cases asObject
  · split at later
    · next interface =>
      obtain ⟨implementation, listed, rfl⟩ := List.mem_map.1 later
      exact fun _ => .found recorded interface (source ▸ found) (tagged interface) listed
    · cases later
  · rw [List.mem_singleton.1 here]
    trivial

theorem justified_further {key : TypeKey} {requested : TypeKind} {link : Option String}
    {finding : Finding} {entry : DiscoveredType} {rest : List Errand}
    (examined : domain.examine key requested link = .ok finding)
    (warranted : domain.Warranted before (.discover key requested link))
    (registered : before.register finding.entry = .ok (.new entry, after))
    (justified : ∀ errand ∈ .discover key requested link :: rest,
      domain.Justified asked before errand) :
    ∀ errand ∈ domain.errands finding ++ rest, domain.Justified asked after errand :=
  List.forall_mem_append.2 ⟨justified_errands examined warranted registered,
    justified_rest justified (Registry.grows_register registered)⟩

end Domain

end SchemaDiscovery
