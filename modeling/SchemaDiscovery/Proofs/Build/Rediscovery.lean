import SchemaDiscovery.Proofs.Build.Moments
/-!
Discovery of what is discovered already. Main statement: a type that was once discovered in a role is
discovered again in it with the same name and to no effect, whatever was done in between.
-/

namespace SchemaDiscovery

namespace Registry

/-- The candidate is recorded with its kind and has no interface to add. -/
def Absorbs (registry : Registry) (candidate : DiscoveredType) : Prop :=
  ∃ existing, registry.find? candidate.name = some existing ∧ existing.kind = candidate.kind ∧
    existing.implements.or candidate.implements = existing.implements

variable {registry after : Registry} {candidate : DiscoveredType}

theorem absorbs_register {registration : Registration}
    (registered : registry.register candidate = .ok (registration, after)) :
    after.Absorbs candidate := by
  rcases register_ok registered with ⟨existing, found, same, rfl⟩ | ⟨absent, rfl⟩
  · have named : existing.name = candidate.name := find_some_name found
    refine ⟨{ existing with implements := existing.implements.or candidate.implements }, ?_, same, ?_⟩
    · simp only [find?, Ordered.find_put DiscoveredType.name]
      rw [if_pos named]
    · simp [Option.or_assoc]
  · refine ⟨candidate, ?_, rfl, by simp⟩
    simp only [find?] at absent ⊢
    simp [List.find?_append, absent]

theorem Absorbs.of_grows (absorbs : registry.Absorbs candidate) (grows : registry.Grows after) :
    after.Absorbs candidate := by
  obtain ⟨existing, found, same, full⟩ := absorbs
  obtain ⟨link, kept⟩ := grows.kept _ _ found
  refine ⟨_, kept, same, ?_⟩
  cases implemented : existing.implements with
  | some interface => simp
  | none =>
    have nothing : candidate.implements = none := by simpa [implemented] using full
    simp [nothing]

theorem register_of_absorbs (absorbs : registry.Absorbs candidate) :
    ∃ existing, registry.register candidate = .ok (.known existing, registry) := by
  obtain ⟨existing, found, same, full⟩ := absorbs
  have idle : Ordered.put (·.name) existing registry.entries = registry.entries := by
    refine Ordered.put_of_find ?_
    rw [find_some_name found]
    exact found
  have kept : { existing with implements := existing.implements.or candidate.implements } =
      existing := by
    rw [full]
  have matching : ¬ existing.kind ≠ candidate.kind := not_not.2 same
  refine ⟨existing, ?_⟩
  simp only [register_ok_iff, record, found, if_neg matching, kept, idle]

end Registry

namespace Domain

variable {domain : Domain} {before after now : Registry} {key : TypeKey} {requested : TypeKind}

theorem grows_of_operates (path : Relation.ReflTransGen domain.Operates before after) :
    before.Grows after := by
  induction path with
  | refl => exact .refl before
  | tail _ operates ih => exact ih.trans operates.grows

theorem run_operates (registry : Registry) (agenda : List Errand) :
    Relation.ReflTransGen domain.Operates registry (domain.run registry agenda).2 := by
  fun_induction domain.run registry agenda with
  | case1 => exact .refl
  | case2 registry name rest ih => exact .head (.enqueue name) ih
  | case3 => exact .refl
  | case4 _ _ _ _ _ _ _ _ _ recorded => rw [Registry.record_rejected recorded]
  | case5 registry key requested implements rest finding examined entry after recorded ih =>
    exact .head (.register examined (Registry.register_ok_iff.2 recorded)) ih
  | case6 registry key requested implements rest finding examined entry after recorded ih =>
    exact .head (.register examined (Registry.register_ok_iff.2 recorded)) ih

theorem discover_operates (registry : Registry) (key : TypeKey) (requested : TypeKind) :
    Relation.ReflTransGen domain.Operates registry (domain.discover registry key requested).2 := by
  unfold discover
  split
  · exact .refl
  · exact run_operates registry _

theorem absorbs_of_run {implements : Option String} {rest : List Errand}
    (finished : domain.run before (.discover key requested implements :: rest) = (.ok (), after)) :
    ∃ finding, domain.examine key requested implements = .ok finding ∧
      after.Absorbs finding.entry := by
  rw [run] at finished
  split at finished
  · cases finished
  · next finding examined =>
    have lasts {between : Registry} {agenda : List Errand} {registration : Registration}
        (registered : before.register finding.entry = .ok (registration, between))
        (ran : domain.run between agenda = (.ok (), after)) : after.Absorbs finding.entry := by
      have grown := domain.run_grows between agenda
      rw [ran] at grown
      exact (Registry.absorbs_register registered).of_grows grown
    refine ⟨finding, examined, ?_⟩
    split at finished
    · cases finished
    · next recorded => exact lasts (Registry.register_ok_iff.2 recorded) finished
    · next recorded => exact lasts (Registry.register_ok_iff.2 recorded) finished

theorem run_of_absorbs {implements : Option String} {finding : Finding}
    (examined : domain.examine key requested implements = .ok finding)
    (absorbs : now.Absorbs finding.entry) :
    domain.run now [.discover key requested implements] = (.ok (), now) := by
  obtain ⟨existing, registered⟩ := Registry.register_of_absorbs absorbs
  have recorded := Registry.register_ok_iff.1 registered
  rw [run]
  split
  · next failed =>
    rw [examined] at failed
    cases failed
  · next found same =>
    rw [examined] at same
    cases same
    split
    · next refused =>
      rw [recorded] at refused
      cases refused
    · next met =>
      rw [recorded] at met
      cases met
      rw [run]
    · next fresh =>
      rw [recorded] at fresh
      cases fresh

theorem absorbs_of_discover {name : String}
    (discovered : domain.discover before key requested = (.ok name, after)) :
    ∃ finding, domain.examine key requested none = .ok finding ∧ finding.entry.name = name ∧
      after.Absorbs finding.entry := by
  unfold discover at discovered
  split at discovered
  · cases discovered
  · next finding examined =>
    rcases ran : domain.run before [.discover key requested none] with ⟨_ | _, reached⟩
    · rw [ran] at discovered
      cases discovered
    · rw [ran] at discovered
      cases discovered
      obtain ⟨found, same, absorbs⟩ := absorbs_of_run ran
      rw [examined] at same
      cases same
      exact ⟨finding, examined, rfl, absorbs⟩

theorem discover_again {name : String}
    (discovered : domain.discover before key requested = (.ok name, after))
    (grows : after.Grows now) : domain.discover now key requested = (.ok name, now) := by
  obtain ⟨finding, examined, rfl, absorbs⟩ := absorbs_of_discover discovered
  unfold discover
  rw [examined]
  simp only [run_of_absorbs examined (absorbs.of_grows grows)]
  rfl

end Domain

/-! ### Calls on a discovery -/

inductive Discovery.Call
  | discover (key : TypeKey) (requested : TypeKind)
  | addResolver (resolver : Resolver)
  | defineQueued

inductive Discovery.Answer
  | name (name : String)
  | definitions (definitions : List Definition)

namespace Domain

open Discovery (Call Answer)

def perform (domain : Domain) : Call → Building Answer
  | .discover key requested =>
    .name <$> Discovering.build (ExceptT.mk fun registry => domain.discover registry key requested)
  | .addResolver resolver => .definitions <$> domain.addResolver resolver
  | .defineQueued => .definitions <$> domain.defineQueued

def respond (domain : Domain) (start : Discovery) (call : Call) :
    Except SchemaError Answer × Discovery :=
  ((domain.perform call).run.run start).run

def after (domain : Domain) (calls : List Call) : Discovery :=
  calls.foldl (fun start call => (domain.respond start call).2) {}

variable {domain : Domain}

theorem operational_perform (call : Call) : (domain.perform call).Operational domain := by
  cases call with
  | discover key requested =>
    exact .map _ ⟨fun start => discover_operates start.registry key requested⟩
  | addResolver resolver => exact .map _ (operational_addResolver resolver)
  | defineQueued => exact .map _ (operational_drain _)

theorem respond_operates (start : Discovery) (call : Call) :
    Relation.ReflTransGen domain.Operates start.registry (domain.respond start call).2.registry :=
  (operational_perform call).operates start

theorem after_append (calls later : List Call) :
    domain.after (calls ++ later) =
      later.foldl (fun start call => (domain.respond start call).2) (domain.after calls) :=
  List.foldl_append

theorem foldl_grows (start : Discovery) (calls : List Call) :
    start.registry.Grows
      (calls.foldl (fun start call => (domain.respond start call).2) start).registry := by
  induction calls generalizing start with
  | nil => exact .refl start.registry
  | cons call calls ih => exact (grows_of_operates (respond_operates start call)).trans (ih _)

theorem respond_discover (start : Discovery) (key : TypeKey) (requested : TypeKind) :
    domain.respond start (.discover key requested) =
      ((domain.discover start.registry key requested).1.map .name,
        { start with registry := (domain.discover start.registry key requested).2 }) := by
  rw [respond, perform, run_map]
  rfl

theorem respond_name_iff {start : Discovery} {key : TypeKey} {requested : TypeKind} {name : String} :
    (domain.respond start (.discover key requested)).1 = .ok (.name name) ↔
      (domain.discover start.registry key requested).1 = .ok name := by
  rw [respond_discover]
  cases (domain.discover start.registry key requested).1 with
  | error e => exact ⟨nofun, nofun⟩
  | ok found => simp [Except.map]

/-- What was once discovered in a role is discovered in it again under the same name, and nothing
changes: not in a registry that operations of a build lead to from there, nor in a discovery after
any calls, of which some may have failed. -/
theorem rediscovery_idle (domain : Domain) :
    (∀ before after now key requested name,
      domain.discover before key requested = (.ok name, after) →
      Relation.ReflTransGen domain.Operates after now →
      domain.discover now key requested = (.ok name, now)) ∧
    ∀ earlier later key requested name,
      (domain.respond (domain.after earlier) (.discover key requested)).1 = .ok (.name name) →
      domain.respond (domain.after (earlier ++ .discover key requested :: later))
          (.discover key requested) =
        (.ok (.name name), domain.after (earlier ++ .discover key requested :: later)) := by
  constructor
  · intro before after now key requested name discovered path
    exact discover_again discovered (grows_of_operates path)
  · intro earlier later key requested name given
    obtain ⟨reached, discovered⟩ : ∃ reached,
        domain.discover (domain.after earlier).registry key requested = (.ok name, reached) :=
      ⟨_, Prod.ext (respond_name_iff.1 given) rfl⟩
    have grown := domain.foldl_grows (domain.respond (domain.after earlier)
      (.discover key requested)).2 later
    rw [respond_discover, discovered] at grown
    have again := discover_again discovered grown
    rw [after_append, List.foldl_cons, respond_discover, respond_discover, discovered, again]
    rfl

def stage : Domain where
  catalog := .ofTypes [
    { key := ⟨"stage::Performer"⟩, form := .isInterface, tags := [.interface none]
      methods := [{ name := "getName", returns := some (.atom (.boxed .string) []) }] },
    { key := ⟨"stage::Player"⟩, tags := [.implementation none]
      interfaces := [⟨⟨"stage::Performer"⟩, []⟩]
      methods := [{ name := "getName", returns := some (.atom (.boxed .string) []) }] }]

theorem rediscovery_idle_stage :
    let first := stage.after [.discover ⟨"stage::Performer"⟩ .object]
    let now := stage.after [.discover ⟨"stage::Performer"⟩ .object,
      .discover ⟨"stage::Player"⟩ .input, .defineQueued]
    (stage.discover first.registry ⟨"stage::Player"⟩ .input).1.toOption = none ∧
    now.registry.state "Performer" = .emitted ∧ now.registry.state "Player" = .emitted ∧
    stage.respond now (.discover ⟨"stage::Performer"⟩ .object) = (.ok (.name "Performer"), now) := by
  have seen : (stage.discover (stage.after []).registry ⟨"stage::Performer"⟩ .object).1.toOption.map
      id = some "Performer" := by
    decide +kernel
  obtain ⟨_, discovered, rfl⟩ := ok_of_observed seen
  exact ⟨by decide +kernel, by decide +kernel, by decide +kernel,
    (rediscovery_idle stage).2 [] [.discover ⟨"stage::Player"⟩ .input, .defineQueued] _ _ _
      (respond_name_iff.2 discovered)⟩

end Domain

end SchemaDiscovery
