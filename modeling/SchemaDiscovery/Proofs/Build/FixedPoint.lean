import SchemaDiscovery.Proofs.Build.Moments
import SchemaDiscovery.Proofs.Build.Record
import SchemaDiscovery.Proofs.Discovery.Termination
/-!
The fixed point of discovery. Main statement: discovery and the draining of the queue end, the registry
never holds more names than the catalog can give out, and a build that succeeds has taken each recorded
name from the queue once and left none in it.
-/

namespace SchemaDiscovery.Domain

variable {domain : Domain} {start finish : Discovery}

/-- The draining of the queue without a limit: it goes on until the queue is empty or a type fails. -/
inductive Drains (domain : Domain) : Discovery → Except SchemaError (List Definition) → Discovery →
    Prop
  | empty {start : Discovery} (idle : start.registry.pop? = none) : Drains domain start (.ok []) start
  | fails {start finish : Discovery} {entry : DiscoveredType} {opened : Registry} {e : SchemaError}
    (popped : start.registry.pop? = some (entry, opened))
    (failed : ((domain.defineDiscovered entry).run.run { start with registry := opened }).run =
      (.error e, finish)) : Drains domain start (.error e) finish
  | takes {start between finish : Discovery} {entry : DiscoveredType} {opened : Registry}
    {definition : Option Definition} {outcome : Except SchemaError (List Definition)}
    (popped : start.registry.pop? = some (entry, opened))
    (defined : Gives (domain.defineDiscovered entry) { start with registry := opened } definition
      between)
    (rest : Drains domain between outcome finish) :
    Drains domain start (outcome.map (definition.toList ++ ·)) finish

theorem drain_succ (domain : Domain) (limit : Nat) (start : Discovery) :
    ((domain.drain (limit + 1)).run.run start).run =
      match start.registry.pop? with
      | none => (.ok [], start)
      | some (entry, opened) =>
        ((do
          let definition ← domain.defineDiscovered entry
          return definition.toList ++ (← domain.drain limit) : Building (List Definition)).run.run
            { start with registry := opened }).run := by
  rcases popped : start.registry.pop? with _ | ⟨entry, opened⟩
  · show StateT.run (ExceptT.run (match start.registry.pop? with
      | none => pure []
      | some (entry, opened) => _)) start = _
    rw [popped]
    rfl
  · show StateT.run (ExceptT.run (match start.registry.pop? with
      | none => pure []
      | some (entry, opened) => _)) start = _
    rw [popped]
    rfl

theorem drain_drains {limit : Nat} (occurs : domain.Occurs start.registry)
    (room : domain.catalog.possibleNames.length ≤ start.registry.emitted.length + limit) :
    domain.Drains start ((domain.drain limit).run.run start).run.1
      ((domain.drain limit).run.run start).run.2 := by
  induction limit generalizing start with
  | zero =>
    -- As many names are emitted as the catalog has, so that none is left in the queue.
    have handled := occurs.handled_length_le.trans occurs.size_le
    have distinct := List.toFinset_card_le domain.catalog.possibleNames
    rw [Registry.handled, List.length_append] at handled
    have none : start.registry.pending = [] := List.length_eq_zero_iff.1 (by omega)
    exact .empty (Registry.pop_of_drained none)
  | succ limit ih =>
    rw [drain_succ]
    split
    · next idle => exact .empty idle
    · next entry opened popped =>
      have operational : (domain.defineDiscovered entry).Operational domain :=
        operational_defineDiscovered entry
      have path := operational.operates { start with registry := opened }
      rcases defined : ((domain.defineDiscovered entry).run.run
        { start with registry := opened }).run with ⟨e | definition, between⟩
      · rw [run_bind_of_fails defined]
        exact .fails popped defined
      · rw [run_bind_of_gives defined, bind_pure_comp, run_map]
        rw [defined] at path
        have emitted := (step_of_defineDiscovered popped defined).emitted_entry.1
        have counted := congrArg List.length emitted
        rw [List.length_cons] at counted
        exact .takes popped defined (ih ((occurs.tail (.pop popped)).trans path) (by omega))

def reached (domain : Domain) (resolvers : List Resolver) (limit : Nat) : Discovery :=
  ((do
    let _ ← resolvers.mapM domain.addResolver
    domain.drain limit : Building (List Definition)).run.run {}).run.2

theorem occurs_reached (resolvers : List Resolver) (limit : Nat) :
    domain.Occurs (domain.reached resolvers limit).registry :=
  (Building.Operational.bind (.mapM operational_addResolver resolvers)
    fun _ => operational_drain limit).operates {}

theorem Advances.operates {before after : Worklist} (advances : domain.Advances before after) :
    domain.Operates before.1 after.1 := by
  cases advances with
  | enqueue => exact .enqueue _
  | known examined registered => exact .register examined registered
  | new examined registered => exact .register examined registered

theorem Built.count_emitted {resolvers : List Resolver} {schema : Schema}
    (built : domain.Built resolvers schema) :
    ∀ entry ∈ (domain.finalDiscovery resolvers).registry.entries,
      (domain.finalDiscovery resolvers).registry.emitted.count entry.name = 1 := by
  intro entry member
  have distinct : (domain.finalDiscovery resolvers).registry.emitted.Nodup :=
    (List.nodup_append.1 built.consistent.sound.handled).1
  have recorded := Registry.find_isSome_of_mem member
  rw [← Registry.kindOf_isSome] at recorded
  obtain ⟨kind, found⟩ := Option.isSome_iff_exists.1 recorded
  exact List.count_eq_one_of_mem distinct (built.emitted_of_recorded found)

/-- Discovery and the draining of the queue end. At each moment the recorded names are no more than
the names of the catalog, and a build that succeeds has emptied the queue, with each recorded name
taken from it once. -/
theorem discovery_ends (domain : Domain) (resolvers : List Resolver) :
    (∀ (states : Nat → Worklist) (count : Nat),
      (∀ i < count, domain.Advances (states i) (states (i + 1))) →
      count ≤ domain.remaining (states 0)) ∧
    (∀ registry agenda, ∃ rest,
      Relation.ReflTransGen domain.Advances (registry, agenda)
        ((domain.run registry agenda).2, rest) ∧
      domain.Halts ((domain.run registry agenda).2, rest) (domain.run registry agenda).1) ∧
    (∀ start : Discovery, domain.Occurs start.registry →
      domain.Drains start (domain.defineQueued.run.run start).run.1
        (domain.defineQueued.run.run start).run.2) ∧
    (∀ registry, domain.Occurs registry →
      registry.size ≤ domain.catalog.possibleNames.toFinset.card) ∧
    (∀ before after, domain.Advances before after → domain.Operates before.1 after.1) ∧
    (∀ limit, domain.Occurs (domain.reached resolvers limit).registry) ∧
    ∀ schema, domain.build resolvers = .ok schema →
      (domain.finalDiscovery resolvers).registry.pending = [] ∧
      ∀ entry ∈ (domain.finalDiscovery resolvers).registry.entries,
        (domain.finalDiscovery resolvers).registry.emitted.count entry.name = 1 := by
  refine ⟨fun states count advances => ?_, domain.run_halts, fun start occurs => ?_,
    fun registry occurs => occurs.size_le, fun before after advances => advances.operates,
    occurs_reached resolvers, fun schema built => ?_⟩
  · have bound := length_le_remaining states count advances
    omega
  · exact drain_drains occurs (Nat.le_add_left _ _)
  · have whole := built_of_build built
    exact ⟨whole.drained, whole.count_emitted⟩

/-- Two types that are each the parent of the other and refer to each other. -/
def ring : Domain where
  catalog := .ofTypes [
    { key := ⟨"ring::Node"⟩, form := .isInterface, tags := [.interface none]
      parent := some ⟨⟨"ring::Leaf"⟩, []⟩
      methods := [{ name := "leaf", returns := some (.atom (.named ⟨"ring::Leaf"⟩) []) }] },
    { key := ⟨"ring::Leaf"⟩, tags := [.implementation none]
      parent := some ⟨⟨"ring::Node"⟩, []⟩, interfaces := [⟨⟨"ring::Node"⟩, []⟩]
      methods := [{ name := "node", returns := some (.atom (.named ⟨"ring::Node"⟩) []) }] }]

def ringQueries : Resolver where
  name := "Ring"
  role := .query
  methods := [
    { name := "leaf", params := [⟨"context", .atom .context [], []⟩]
      returns := some (.atom (.named ⟨"ring::Leaf"⟩) []) }]

theorem discovery_ends_ring : ∃ schema, ring.build [ringQueries] = .ok schema ∧
    schema.definitions.filterMap (Definition.fullName? .object) = ["Query", "Leaf"] ∧
    schema.definitions.filterMap (Definition.fullName? .interface) = ["Node"] ∧
    (ring.finalDiscovery [ringQueries]).registry.pending = [] ∧
    ∀ entry ∈ (ring.finalDiscovery [ringQueries]).registry.entries,
      (ring.finalDiscovery [ringQueries]).registry.emitted.count entry.name = 1 := by
  have observed : (ring.build [ringQueries]).toOption.map (fun schema =>
      (schema.definitions.filterMap (Definition.fullName? .object),
        schema.definitions.filterMap (Definition.fullName? .interface))) =
      some (["Query", "Leaf"], ["Node"]) := by
    decide +kernel
  obtain ⟨schema, built, seen⟩ := build_observed observed
  obtain ⟨-, -, -, -, -, -, success⟩ := discovery_ends ring [ringQueries]
  exact ⟨schema, built, congrArg Prod.fst seen, congrArg Prod.snd seen, success schema built⟩

end SchemaDiscovery.Domain
