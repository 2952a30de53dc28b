import SchemaDiscovery.Discovery.Agenda
import SchemaDiscovery.Proofs.Catalog.Lineage
import SchemaDiscovery.Proofs.Registry.Growth
/-!
What discovery does to the registry. Main statements: it only records what the catalog justifies and
lets it wait, and when it succeeds every errand of every recorded type is done.
-/

namespace SchemaDiscovery

theorem TypeDescriptor.kindWhen_kindWhen {type : TypeDescriptor} {requested kind : TypeKind}
    (discovered : type.kindWhen requested = .ok kind) : type.kindWhen kind = .ok kind := by
  unfold TypeDescriptor.kindWhen at discovered ⊢
  by_cases member : type.isEnum
  · simp_all
  · by_cases tagged : type.hasInterfaceTag
    · by_cases asked : requested = .input <;> simp_all
      subst discovered
      simp
    · simp_all

namespace Domain

variable {domain : Domain} {registry before after : Registry} {agenda : List Errand}

theorem examine_ok {key : TypeKey} {requested : TypeKind} {implements : Option String}
    {finding : Finding} (examined : domain.examine key requested implements = .ok finding) :
    ∃ kind, domain.catalog.lookup? key = some finding.type ∧
      finding.type.kindWhen requested = .ok kind ∧
      finding.declared =
        (if kind = .object then domain.catalog.implementedInterface? finding.type else none) ∧
      finding.entry = {
        name := finding.type.schemaName kind
        source := key
        kind
        implements := implements.or (finding.declared.map (·.schemaName .interface)) } := by
  unfold examine Catalog.require at examined
  cases found : domain.catalog.lookup? key with
  | none => rw [found] at examined; cases examined
  | some type =>
    cases discovered : type.kindWhen requested with
    | error e => simp only [found, bind, Except.bind, discovered] at examined; cases examined
    | ok kind =>
      simp only [found, bind, Except.bind, discovered] at examined
      cases examined
      exact ⟨kind, rfl, discovered, rfl, rfl⟩

/-- The interface of that name has the type of the key among its implementations. -/
def Scans (domain : Domain) (name : String) (key : TypeKey) : Prop :=
  ∃ type, domain.catalog.lookup? type.key = some type ∧
    type.kindWhen .interface = .ok .interface ∧ type.schemaName .interface = name ∧
    key ∈ domain.catalog.implementationsOf domain.config type

/-- A type tagged as an interface of that name has the type of the key among its implementations. -/
def Finds (domain : Domain) (name : String) (key : TypeKey) : Prop :=
  ∃ type, domain.catalog.lookup? type.key = some type ∧ type.hasInterfaceTag = true ∧
    type.kindWhen .interface = .ok .interface ∧ type.schemaName .interface = name ∧
    key ∈ domain.catalog.implementationsOf domain.config type

theorem Finds.scans {name : String} {key : TypeKey} (finds : domain.Finds name key) :
    domain.Scans name key := by
  obtain ⟨type, present, -, rest⟩ := finds
  exact ⟨type, present, rest⟩

/-- Only a tagged type is asked for as an interface, and a type is sent on with an interface only by that
interface, which is recorded by then. -/
def Warranted (domain : Domain) (registry : Registry) : Errand → Prop
  | .discover key requested implements =>
      (requested = .interface → ∀ type, domain.catalog.lookup? key = some type →
        type.hasInterfaceTag = true) ∧
      ∀ name ∈ implements, domain.Finds name key ∧ registry.kindOf? name = some .interface
  | .enqueue _ => True

/-- The registries that discovery can make of a registry. -/
inductive Reaches (domain : Domain) : Registry → Registry → Prop
  | refl {registry : Registry} : domain.Reaches registry registry
  | register {before between after : Registry} {key : TypeKey} {requested : TypeKind}
    {implements : Option String} {finding : Finding} {registration : Registration}
    (warranted : domain.Warranted before (.discover key requested implements))
    (examined : domain.examine key requested implements = .ok finding)
    (registered : before.register finding.entry = .ok (registration, between))
    (rest : domain.Reaches between after) : domain.Reaches before after
  | enqueue {before after : Registry} (name : String)
    (rest : domain.Reaches (before.enqueue name) after) : domain.Reaches before after

namespace Reaches

theorem trans {first second third : Registry} (left : domain.Reaches first second)
    (right : domain.Reaches second third) : domain.Reaches first third := by
  induction left with
  | refl => exact right
  | register warranted examined registered _ ih =>
    exact .register warranted examined registered (ih right)
  | enqueue name _ ih => exact .enqueue name (ih right)

theorem grows (reaches : domain.Reaches before after) : before.Grows after := by
  induction reaches with
  | refl => exact Registry.Grows.refl _
  | register _ _ registered _ ih => exact (Registry.grows_register registered).trans ih
  | enqueue name _ ih => exact (Registry.grows_enqueue _ name).trans ih

theorem emitted (reaches : domain.Reaches before after) : after.emitted = before.emitted := by
  induction reaches with
  | refl => rfl
  | register _ _ registered _ ih =>
    rcases Registry.register_ok registered with ⟨_, _, _, rfl⟩ | ⟨_, rfl⟩ <;> exact ih
  | @enqueue before _ name _ ih =>
    rw [ih, Registry.enqueue]
    split <;> rfl

end Reaches

/-- A type of the catalog has the entry's key, kind and name. -/
def Sourced (domain : Domain) (entry : DiscoveredType) : Prop :=
  ∃ type, domain.catalog.lookup? entry.source = some type ∧
    type.kindWhen entry.kind = .ok entry.kind ∧ type.schemaName entry.kind = entry.name

theorem sourced_of_examine {key : TypeKey} {requested : TypeKind} {implements : Option String}
    {finding : Finding} (examined : domain.examine key requested implements = .ok finding) :
    domain.Sourced finding.entry := by
  obtain ⟨kind, found, discovered, -, same⟩ := examine_ok examined
  rw [same]
  exact ⟨finding.type, found, TypeDescriptor.kindWhen_kindWhen discovered, rfl⟩

theorem sourced_register {finding : Finding} {registration : Registration}
    (registered : before.register finding.entry = .ok (registration, after))
    (justified : domain.Sourced finding.entry)
    (start : ∀ entry ∈ before.entries, domain.Sourced entry) :
    ∀ entry ∈ after.entries, domain.Sourced entry := by
  intro entry member
  rcases Registry.mem_entries_register registered member with ⟨earlier, listed, _, rfl⟩ | ⟨-, rfl⟩
  · exact start earlier listed
  · exact justified

theorem Reaches.sourced (reaches : domain.Reaches before after)
    (start : ∀ entry ∈ before.entries, domain.Sourced entry) :
    ∀ entry ∈ after.entries, domain.Sourced entry := by
  induction reaches with
  | refl => exact start
  | register _ examined registered _ ih =>
    exact ih (sourced_register registered (sourced_of_examine examined) start)
  | enqueue name _ ih =>
    apply ih
    rw [Registry.entries_enqueue]
    exact start

def errandsOf (domain : Domain) (entry : DiscoveredType) : List Errand :=
  match domain.catalog.lookup? entry.source with
  | some type => domain.errands ⟨type, entry,
      if entry.kind = .object then domain.catalog.implementedInterface? type else none⟩
  | none => [.enqueue entry.name]

/-- The errand asks for nothing that the registry does not have. -/
def Done (domain : Domain) (registry : Registry) : Errand → Prop
  | .discover key requested implements => ∃ finding,
      domain.examine key requested implements = .ok finding ∧
        registry.kindOf? finding.entry.name = some finding.entry.kind
  | .enqueue name => name ∈ registry.handled

/-- Each errand of each recorded type is on the agenda or done. -/
def Accounted (domain : Domain) (registry : Registry) (agenda : List Errand) : Prop :=
  ∀ entry ∈ registry.entries, ∀ errand ∈ domain.errandsOf entry,
    errand ∈ agenda ∨ domain.Done registry errand

def Settled (domain : Domain) (registry : Registry) : Prop :=
  ∀ entry ∈ registry.entries, ∀ errand ∈ domain.errandsOf entry, domain.Done registry errand

structure Tidy (domain : Domain) (registry : Registry) : Prop where
  sound : registry.Sound
  settled : domain.Settled registry

theorem errandsOf_of_examine {key : TypeKey} {requested : TypeKind} {implements : Option String}
    {finding : Finding} (examined : domain.examine key requested implements = .ok finding) :
    domain.errandsOf finding.entry = domain.errands finding := by
  obtain ⟨kind, found, -, declared, same⟩ := examine_ok examined
  rcases finding with ⟨type, entry, declared⟩
  simp only at found declared same
  subst same
  simp only [errandsOf, found]
  rw [declared]

@[simp] theorem errandsOf_link (entry : DiscoveredType) (link : Option String) :
    domain.errandsOf { entry with implements := link } = domain.errandsOf entry := by
  unfold errandsOf
  cases domain.catalog.lookup? entry.source <;> rfl

theorem enqueue_mem_errandsOf (entry : DiscoveredType) :
    .enqueue entry.name ∈ domain.errandsOf entry := by
  unfold errandsOf
  cases domain.catalog.lookup? entry.source <;> simp [errands]

theorem name_of_enqueue_mem_errandsOf {entry : DiscoveredType} {name : String}
    (member : .enqueue name ∈ domain.errandsOf entry) : name = entry.name := by
  unfold errandsOf at member
  cases found : domain.catalog.lookup? entry.source with
  | none => simpa [found] using member
  | some type =>
    simp only [found, errands, List.mem_append, List.mem_map] at member
    rcases member with (⟨_, _, same⟩ | later) | here
    · cases same
    · split at later
      · obtain ⟨_, _, same⟩ := List.mem_map.1 later
        cases same
      · cases later
    · simpa using here

theorem done_of_grows {errand : Errand} (done : domain.Done before errand)
    (grows : before.Grows after) : domain.Done after errand := by
  cases errand with
  | discover key requested implements =>
    obtain ⟨finding, examined, recorded⟩ := done
    exact ⟨finding, examined, grows.kindOf recorded⟩
  | enqueue name => exact grows.handled done

theorem done_register {key : TypeKey} {requested : TypeKind} {implements : Option String}
    {finding : Finding} {registration : Registration}
    (examined : domain.examine key requested implements = .ok finding)
    (registered : before.register finding.entry = .ok (registration, after)) :
    domain.Done after (.discover key requested implements) :=
  ⟨finding, examined, Registry.kindOf_register registered⟩

theorem accounted_or {errand current : Errand} {rest later : List Errand}
    (due : errand ∈ current :: rest ∨ domain.Done before errand)
    (done : domain.Done after current) (grows : before.Grows after) (kept : rest ⊆ later) :
    errand ∈ later ∨ domain.Done after errand := by
  rcases due with waiting | already
  · rcases List.mem_cons.1 waiting with rfl | waiting
    · exact .inr done
    · exact .inl (kept waiting)
  · exact .inr (done_of_grows already grows)

theorem accounted_known {finding : Finding} {entry : DiscoveredType} {current : Errand}
    {rest : List Errand}
    (registered : before.register finding.entry = .ok (.known entry, after))
    (done : domain.Done after current) (accounted : domain.Accounted before (current :: rest)) :
    domain.Accounted after rest := by
  have grows := Registry.grows_register registered
  rcases Registry.register_ok registered with ⟨existing, found, -, rfl⟩ | ⟨absent, -⟩
  · intro other member errand due
    rcases Ordered.mem_put member with rfl | member
    · rw [errandsOf_link] at due
      exact accounted_or (accounted existing (Registry.find_mem found) errand due) done grows
        (List.Subset.refl rest)
    · exact accounted_or (accounted other member errand due) done grows (List.Subset.refl rest)
  · simp [Registry.register_ok_iff, Registry.record, absent] at registered

theorem accounted_new {key : TypeKey} {requested : TypeKind} {implements : Option String}
    {finding : Finding} {entry : DiscoveredType} {rest : List Errand}
    (examined : domain.examine key requested implements = .ok finding)
    (registered : before.register finding.entry = .ok (.new entry, after))
    (accounted : domain.Accounted before (.discover key requested implements :: rest)) :
    domain.Accounted after (domain.errands finding ++ rest) := by
  have grows := Registry.grows_register registered
  have done := done_register examined registered
  have kept : rest ⊆ domain.errands finding ++ rest := List.subset_append_right _ _
  rcases Registry.register_ok registered with ⟨existing, found, same, -⟩ | ⟨-, rfl⟩
  · simp [Registry.register_ok_iff, Registry.record, found, same] at registered
  · intro other member errand due
    rcases List.mem_append.1 member with member | member
    · exact accounted_or (accounted other member errand due) done grows kept
    · rw [List.mem_singleton.1 member, errandsOf_of_examine examined] at due
      exact .inl (List.mem_append_left rest due)

theorem accounted_enqueue {name : String} {rest : List Errand} (sound : before.Sound)
    (accounted : domain.Accounted before (.enqueue name :: rest)) :
    domain.Accounted (before.enqueue name) rest := by
  intro entry member errand due
  rw [Registry.entries_enqueue] at member
  rcases accounted entry member errand due with waiting | done
  · rcases List.mem_cons.1 waiting with rfl | waiting
    · rw [name_of_enqueue_mem_errandsOf due]
      exact .inr (Registry.mem_handled_enqueue sound (Registry.find_isSome_of_mem member))
    · exact .inl waiting
  · exact .inr (done_of_grows done (Registry.grows_enqueue before name))

theorem warranted_of_grows {errand : Errand} (warranted : domain.Warranted before errand)
    (grows : before.Grows after) : domain.Warranted after errand := by
  cases errand with
  | discover key requested implements =>
    obtain ⟨tagged, linked⟩ := warranted
    refine ⟨tagged, fun name asked => ?_⟩
    obtain ⟨finds, recorded⟩ := linked name asked
    exact ⟨finds, grows.kindOf recorded⟩
  | enqueue name => trivial

theorem tagged_of_examine {key : TypeKey} {requested : TypeKind} {implements : Option String}
    {finding : Finding} (examined : domain.examine key requested implements = .ok finding)
    (warranted : domain.Warranted before (.discover key requested implements))
    (interface : finding.entry.kind = .interface) : finding.type.hasInterfaceTag = true := by
  obtain ⟨kind, found, discovered, -, same⟩ := examine_ok examined
  rw [same] at interface
  cases interface
  unfold TypeDescriptor.kindWhen at discovered
  split at discovered
  · cases discovered
  · split at discovered
    · assumption
    · cases discovered
      exact warranted.1 rfl finding.type found

theorem warranted_errands {key : TypeKey} {requested : TypeKind} {implements : Option String}
    {finding : Finding} {registration : Registration}
    (examined : domain.examine key requested implements = .ok finding)
    (warranted : domain.Warranted before (.discover key requested implements))
    (registered : before.register finding.entry = .ok (registration, after)) :
    ∀ errand ∈ domain.errands finding, domain.Warranted after errand := by
  have tagged := tagged_of_examine examined warranted
  obtain ⟨kind, found, discovered, declared, same⟩ := examine_ok examined
  have recorded := Registry.kindOf_register registered
  have own : finding.type.key = key := Catalog.key_of_lookup found
  intro errand member
  simp only [errands, List.mem_append, List.mem_map, Option.mem_toList] at member
  rcases member with (⟨interface, some, rfl⟩ | later) | here
  · rw [declared, Option.ite_none_right_eq_some] at some
    obtain ⟨descends, marked⟩ := Catalog.implementedInterface_some some.2
    refine ⟨fun _ type known => ?_, nofun⟩
    rw [Catalog.lookup_of_descends (by rw [own, found]) descends] at known
    cases known
    exact marked
  · split at later
    · next interface =>
      obtain ⟨implementation, scanned, rfl⟩ := List.mem_map.1 later
      refine ⟨nofun, fun name linked => ?_⟩
      obtain rfl : finding.entry.name = name := by simpa using linked
      have marked := tagged interface
      have shape : kind = .interface := by simpa [same] using interface
      subst shape
      refine ⟨⟨finding.type, by rw [own, found], marked,
        TypeDescriptor.kindWhen_kindWhen discovered, by rw [same], scanned⟩, ?_⟩
      rw [recorded, interface]
    · cases later
  · rw [List.mem_singleton.1 here]
    trivial

theorem warranted_rest {current : Errand} {rest : List Errand}
    (warranted : ∀ errand ∈ current :: rest, domain.Warranted before errand)
    (grows : before.Grows after) : ∀ errand ∈ rest, domain.Warranted after errand := by
  intro errand member
  exact warranted_of_grows (warranted errand (List.mem_cons_of_mem _ member)) grows

theorem warranted_further {key : TypeKey} {requested : TypeKind} {implements : Option String}
    {finding : Finding} {registration : Registration} {rest : List Errand}
    (examined : domain.examine key requested implements = .ok finding)
    (registered : before.register finding.entry = .ok (registration, after))
    (warranted : ∀ errand ∈ .discover key requested implements :: rest,
      domain.Warranted before errand) :
    ∀ errand ∈ domain.errands finding ++ rest, domain.Warranted after errand := by
  intro errand member
  rcases List.mem_append.1 member with fresh | old
  · exact warranted_errands examined (warranted _ List.mem_cons_self) registered errand fresh
  · exact warranted_rest warranted (Registry.grows_register registered) errand old

theorem run_reaches (registry : Registry) (agenda : List Errand)
    (warranted : ∀ errand ∈ agenda, domain.Warranted registry errand) :
    domain.Reaches registry (domain.run registry agenda).2 := by
  fun_induction domain.run registry agenda with
  | case1 registry => exact .refl
  | case2 registry name rest ih =>
    exact .enqueue name (ih (warranted_rest warranted (Registry.grows_enqueue registry name)))
  | case3 => exact .refl
  | case4 _ _ _ _ _ _ _ _ _ recorded =>
    rw [Registry.record_rejected recorded]
    exact .refl
  | case5 registry key requested implements rest finding examined entry after recorded ih =>
    have registered := Registry.register_ok_iff.2 recorded
    refine .register (warranted _ List.mem_cons_self) examined registered (ih ?_)
    exact warranted_rest warranted (Registry.grows_register registered)
  | case6 registry key requested implements rest finding examined entry after recorded ih =>
    have registered := Registry.register_ok_iff.2 recorded
    refine .register (warranted _ List.mem_cons_self) examined registered (ih ?_)
    exact warranted_further examined registered warranted

theorem run_settles (registry : Registry) (agenda : List Errand) (after : Registry)
    (finished : domain.run registry agenda = (.ok (), after)) (sound : registry.Sound)
    (accounted : domain.Accounted registry agenda) : domain.Tidy after := by
  fun_induction domain.run registry agenda with
  | case1 registry =>
    cases finished
    refine ⟨sound, ?_⟩
    intro entry member errand due
    exact (accounted entry member errand due).resolve_left (by simp)
  | case2 registry name rest ih =>
    exact ih finished (Registry.sound_enqueue sound name) (accounted_enqueue sound accounted)
  | case3 => cases finished
  | case4 => cases finished
  | case5 registry key requested implements rest finding examined entry next recorded ih =>
    have registered := Registry.register_ok_iff.2 recorded
    exact ih finished (Registry.sound_register registered sound)
      (accounted_known registered (done_register examined registered) accounted)
  | case6 registry key requested implements rest finding examined entry next recorded ih =>
    have registered := Registry.register_ok_iff.2 recorded
    exact ih finished (Registry.sound_register registered sound)
      (accounted_new examined registered accounted)

theorem run_grows (registry : Registry) (agenda : List Errand) :
    registry.Grows (domain.run registry agenda).2 := by
  fun_induction domain.run registry agenda with
  | case1 registry => exact Registry.Grows.refl registry
  | case2 registry name rest ih => exact (Registry.grows_enqueue registry name).trans ih
  | case3 registry => exact Registry.Grows.refl registry
  | case4 registry _ _ _ _ _ _ _ _ recorded =>
    rw [Registry.record_rejected recorded]
    exact Registry.Grows.refl registry
  | case5 registry key requested implements rest finding examined entry after recorded ih =>
    exact (Registry.grows_register (Registry.register_ok_iff.2 recorded)).trans ih
  | case6 registry key requested implements rest finding examined entry after recorded ih =>
    exact (Registry.grows_register (Registry.register_ok_iff.2 recorded)).trans ih

theorem run_done {registry : Registry} {agenda : List Errand} {after : Registry}
    (finished : domain.run registry agenda = (.ok (), after)) {key : TypeKey}
    {requested : TypeKind} {implements : Option String}
    (asked : .discover key requested implements ∈ agenda) :
    domain.Done after (.discover key requested implements) := by
  -- An examined type is recorded at once, and the rest of the run only grows the registry.
  have lasts {registry : Registry} {agenda : List Errand} {errand : Errand}
      (finished : domain.run registry agenda = (.ok (), after))
      (done : domain.Done registry errand) : domain.Done after errand := by
    have grown := domain.run_grows registry agenda
    rw [finished] at grown
    exact done_of_grows done grown
  fun_induction domain.run registry agenda with
  | case1 => cases asked
  | case2 registry name rest ih => exact ih finished ((List.mem_cons.1 asked).resolve_left nofun)
  | case3 => cases finished
  | case4 => cases finished
  | case5 registry key requested implements rest finding examined entry next recorded ih =>
    rcases List.mem_cons.1 asked with here | later
    · cases here
      exact lasts finished (done_register examined (Registry.register_ok_iff.2 recorded))
    · exact ih finished later
  | case6 registry key requested implements rest finding examined entry next recorded ih =>
    rcases List.mem_cons.1 asked with here | later
    · cases here
      exact lasts finished (done_register examined (Registry.register_ok_iff.2 recorded))
    · exact ih finished (List.mem_append_right _ later)

theorem warranted_unlinked {key : TypeKey} {requested : TypeKind} (plain : requested ≠ .interface) :
    ∀ errand ∈ [Errand.discover key requested none], domain.Warranted registry errand := by
  intro errand member
  rw [List.mem_singleton.1 member]
  exact ⟨fun interface => absurd interface plain, nofun⟩

theorem discover_reaches (registry : Registry) (key : TypeKey) {requested : TypeKind}
    (plain : requested ≠ .interface) :
    domain.Reaches registry (domain.discover registry key requested).2 := by
  unfold discover
  split
  · exact .refl
  · exact run_reaches registry _ (warranted_unlinked plain)

theorem reaches_of_discover {key : TypeKey} {requested : TypeKind}
    {outcome : Except SchemaError String}
    (discovered : domain.discover before key requested = (outcome, after))
    (plain : requested ≠ .interface) : domain.Reaches before after := by
  have reached := domain.discover_reaches before key plain
  rwa [discovered] at reached

/-- A successful discovery leaves a tidy registry tidy and gives a name of the catalog's type, recorded
with the kind that the role calls for. -/
theorem discover_ok {key : TypeKey} {requested : TypeKind} {name : String}
    (discovered : domain.discover before key requested = (.ok name, after)) :
    (∃ type kind, domain.catalog.lookup? key = some type ∧ type.kindWhen requested = .ok kind ∧
      name = type.schemaName kind ∧ after.kindOf? name = some kind) ∧
    (domain.Tidy before → domain.Tidy after) := by
  unfold discover at discovered
  split at discovered
  · cases discovered
  · next finding examined =>
    obtain ⟨kind, found, role, -, same⟩ := examine_ok examined
    rcases ran : domain.run before [.discover key requested none] with ⟨_ | _, reached⟩
    · rw [ran] at discovered
      cases discovered
    · rw [ran] at discovered
      cases discovered
      obtain ⟨finding', examined', recorded⟩ := run_done ran List.mem_cons_self
      obtain rfl : finding = finding' := by
        rw [examined] at examined'
        cases examined'
        rfl
      constructor
      · exact ⟨finding.type, kind, found, role, by rw [same], by rw [recorded, same]⟩
      · intro tidy
        refine run_settles before _ after ran tidy.sound ?_
        intro entry member errand due
        exact .inr (tidy.settled entry member errand due)

end Domain

end SchemaDiscovery
