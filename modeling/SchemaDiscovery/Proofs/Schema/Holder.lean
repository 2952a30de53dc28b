import SchemaDiscovery.Holder
import SchemaDiscovery.Proofs.Schema.Conformance
/-!
The holder of a schema through any calls in any order, while the types change. Main statement: after
each call its state tells what it holds, what is answered between two resets is one build, and a
build that is under way is not seen from within.
-/

namespace SchemaDiscovery

def HolderAnswer.result? : HolderAnswer → Option BuiltSchema
  | .built result => some result
  | .refused _ => none
  | .waits => none

namespace SchemaHolder

/-- The three parts of a holder agree with each other, and no build is under way. -/
structure AtRest (holder : SchemaHolder) : Prop where
  idle : holder.state ≠ .building
  ready : holder.state = .ready ↔ holder.cached.isSome
  failed : holder.state = .failed ↔ holder.lastError.isSome

variable {holder : SchemaHolder} {waiting : Bool} {outcome : Except SchemaError Schema}

@[simp] theorem cached_begin : holder.begin.cached = holder.cached := rfl

@[simp] theorem state_begin : holder.begin.state = .building := rfl

theorem AtRest.cached_of_failed (rest : holder.AtRest) (failed : holder.state = .failed) :
    holder.cached = none := by
  have idle : ¬ holder.state = .ready := by simp [failed]
  rw [rest.ready] at idle
  exact Option.not_isSome_iff_eq_none.1 idle

theorem settled_of_cached {result : BuiltSchema} (cached : holder.cached = some result) :
    holder.settled? waiting = some (.built result) := by
  simp [settled?, cached]

theorem cached_of_settled (free : holder.settled? waiting = none) : holder.cached = none := by
  cases cached : holder.cached with
  | none => rfl
  | some result =>
    rw [settled_of_cached cached] at free
    cases free

theorem result_of_settled {answer : HolderAnswer} (cached : holder.cached = none)
    (settled : holder.settled? waiting = some answer) : answer.result? = none := by
  simp only [settled?, cached] at settled
  split at settled
  · simp_all
  · cases settled
    rfl
  · cases settled
    rfl
  · cases settled
    rfl
  · cases settled

theorem AtRest.settled_of_failed (rest : holder.AtRest) (failed : holder.state = .failed) :
    ∃ message, holder.lastError = some message ∧
      holder.settled? true = some (.refused (.buildFailed message)) := by
  obtain ⟨message, recorded⟩ := Option.isSome_iff_exists.1 (rest.failed.1 failed)
  have cached := rest.cached_of_failed failed
  exact ⟨message, recorded, by simp [settled?, cached, failed, recorded]⟩

theorem ask_of_settled {answer : HolderAnswer} (settled : holder.settled? waiting = some answer) :
    holder.ask waiting outcome = (answer, holder) := by
  rw [ask, settled]

theorem ask_of_free (free : holder.settled? waiting = none) :
    holder.ask waiting outcome = holder.runBuild outcome := by
  rw [ask, free]

theorem atRest_reset (holder : SchemaHolder) : holder.reset.AtRest := by
  constructor <;> simp [reset]

theorem atRest_runBuild (cached : holder.cached = none) (outcome : Except SchemaError Schema) :
    (holder.runBuild outcome).2.AtRest := by
  cases outcome with
  | ok schema => constructor <;> simp [runBuild, complete]
  | error e => constructor <;> simp [runBuild, begin, complete, cached]

theorem inside_of_duringCall {inside : SchemaHolder}
    (started : holder.duringCall? waiting = some inside) :
    inside.cached = none ∧ inside.settled? false = some (.refused .initializing) := by
  have free : holder.settled? waiting = none := by
    by_contra settled
    simp [duringCall?, settled] at started
  have same : holder.begin = inside := by simpa [duringCall?, free] using started
  have cached : inside.cached = none := by rw [← same, cached_begin, cached_of_settled free]
  have building : inside.state = .building := by rw [← same, state_begin]
  exact ⟨cached, by simp [settled?, cached, building]⟩

end SchemaHolder

/-- A call on a holder; an asking caller may be one who waits. -/
inductive HolderCall
  | get
  | ask (waiting : Bool)
  | reset
  deriving DecidableEq, Repr

/-- A call with the types that a build would read at its time. -/
structure Visit where
  types : Catalog
  call : HolderCall

structure Event where
  visit : Visit
  before : SchemaHolder
  answer : Option HolderAnswer
  after : SchemaHolder

/-- What a holder builds with, whatever the types are. -/
structure Host where
  config : Config
  resolvers : List Resolver

namespace Host

variable (host : Host)

def build (types : Catalog) : Except SchemaError Schema :=
  Domain.build ⟨types, host.config⟩ host.resolvers

def perform (holder : SchemaHolder) (visit : Visit) : Event :=
  match visit.call with
  | .get => ⟨visit, holder, holder.cached.map .built, holder⟩
  | .ask waiting =>
    let (answer, after) := holder.ask waiting (host.build visit.types)
    ⟨visit, holder, some answer, after⟩
  | .reset => ⟨visit, holder, none, holder.reset⟩

def log (holder : SchemaHolder) : List Visit → List Event
  | [] => []
  | visit :: visits => host.perform holder visit :: log (host.perform holder visit).after visits

end Host

namespace Event

def result? (event : Event) : Option BuiltSchema := event.answer.bind (·.result?)

/-- The call starts a build, which comes to the result over the types of that time. -/
def Builds (host : Host) (event : Event) (result : BuiltSchema) : Prop :=
  ∃ waiting, event.visit.call = .ask waiting ∧ (event.before.duringCall? waiting).isSome ∧
    host.build event.visit.types = .ok result.schema

end Event

namespace Host

variable {host : Host} {holder : SchemaHolder} {visits : List Visit} {types : Catalog}
  {waiting : Bool}

@[simp] theorem perform_visit (visit : Visit) : (host.perform holder visit).visit = visit := by
  unfold perform
  split <;> rfl

@[simp] theorem perform_before (visit : Visit) : (host.perform holder visit).before = holder := by
  unfold perform
  split <;> rfl

theorem perform_settled {answer : HolderAnswer}
    (settled : holder.settled? waiting = some answer) :
    host.perform holder ⟨types, .ask waiting⟩ =
      ⟨⟨types, .ask waiting⟩, holder, some answer, holder⟩ := by
  simp [perform, SchemaHolder.ask_of_settled settled]

theorem perform_free (free : holder.settled? waiting = none) :
    host.perform holder ⟨types, .ask waiting⟩ =
      ⟨⟨types, .ask waiting⟩, holder, some (holder.runBuild (host.build types)).1,
        (holder.runBuild (host.build types)).2⟩ := by
  simp [perform, SchemaHolder.ask_of_free free]

theorem atRest_perform (host : Host) (rest : holder.AtRest) (visit : Visit) :
    (host.perform holder visit).after.AtRest := by
  obtain ⟨types, call⟩ := visit
  cases call with
  | get => exact rest
  | reset => exact holder.atRest_reset
  | ask waiting =>
    cases settled : holder.settled? waiting with
    | some answer =>
      rw [perform_settled settled]
      exact rest
    | none =>
      rw [perform_free settled]
      exact SchemaHolder.atRest_runBuild (SchemaHolder.cached_of_settled settled) _

theorem log_atRest (host : Host) (visits : List Visit) (rest : holder.AtRest) :
    ∀ event ∈ host.log holder visits,
      event.before.AtRest ∧ event = host.perform event.before event.visit ∧
        event.after.AtRest := by
  induction visits generalizing holder with
  | nil => simp [log]
  | cons visit visits ih =>
    have kept := host.atRest_perform rest visit
    intro event member
    rcases List.mem_cons.1 member with rfl | later
    · rw [perform_before, perform_visit]
      exact ⟨rest, rfl, kept⟩
    · exact ih kept event later

def finish (holder : SchemaHolder) (events : List Event) : SchemaHolder :=
  (events.getLast?.map (·.after)).getD holder

theorem finish_cons (event : Event) (events : List Event) :
    finish holder (event :: events) = finish event.after events := by
  rw [finish, finish, List.getLast?_cons]
  cases events.getLast? <;> rfl

theorem log_split {left right : List Event} (split : host.log holder visits = left ++ right) :
    ∃ earlier later, left = host.log holder earlier ∧
      right = host.log (finish holder left) later := by
  induction left generalizing holder visits with
  | nil => exact ⟨[], visits, rfl, split.symm⟩
  | cons event left ih =>
    cases visits with
    | nil => cases split
    | cons visit visits =>
      obtain ⟨rfl, rest⟩ := List.cons.inj split
      obtain ⟨earlier, later, first, second⟩ := ih rest
      rw [finish_cons]
      exact ⟨visit :: earlier, later, by rw [log, ← first], second⟩

theorem perform_empty (host : Host) (cached : holder.cached = none) {visit : Visit}
    (kept : visit.call ≠ .reset) :
    ((host.perform holder visit).after.cached = none ∧
      (host.perform holder visit).result? = none) ∨
    ∃ result, (host.perform holder visit).Builds host result ∧
      (host.perform holder visit).result? = some result ∧
      (host.perform holder visit).after.cached = some result := by
  obtain ⟨types, call⟩ := visit
  cases call with
  | get => exact .inl ⟨cached, by simp [perform, Event.result?, cached]⟩
  | reset => exact absurd rfl kept
  | ask waiting =>
    cases settled : holder.settled? waiting with
    | some answer =>
      rw [perform_settled settled]
      exact .inl ⟨cached, SchemaHolder.result_of_settled cached settled⟩
    | none =>
      rw [perform_free settled]
      cases outcome : host.build types with
      | error e => exact .inl ⟨cached, rfl⟩
      | ok schema =>
        have started : (holder.duringCall? waiting).isSome := by
          simp [SchemaHolder.duringCall?, settled]
        exact .inr ⟨⟨holder.successes, schema⟩, ⟨waiting, rfl, started, outcome⟩, rfl, rfl⟩

theorem perform_cached {result : BuiltSchema} (cached : holder.cached = some result)
    {visit : Visit} (kept : visit.call ≠ .reset) :
    (host.perform holder visit).result? = some result ∧
      (host.perform holder visit).after.cached = some result := by
  obtain ⟨types, call⟩ := visit
  cases call with
  | get => exact ⟨by simp [perform, Event.result?, HolderAnswer.result?, cached], cached⟩
  | reset => exact absurd rfl kept
  | ask waiting =>
    rw [perform_settled (SchemaHolder.settled_of_cached cached)]
    exact ⟨rfl, cached⟩

def Unbroken (events : List Event) : Prop := ∀ event ∈ events, event.visit.call ≠ .reset

theorem unbroken_cons {visit : Visit}
    (unbroken : Unbroken (host.log holder (visit :: visits))) :
    visit.call ≠ .reset ∧ Unbroken (host.log (host.perform holder visit).after visits) := by
  have whole := List.forall_mem_cons.1 unbroken
  rw [perform_visit] at whole
  exact whole

theorem log_cached {result : BuiltSchema} (cached : holder.cached = some result)
    (unbroken : Unbroken (host.log holder visits)) :
    ∀ event ∈ host.log holder visits, event.result? = some result := by
  induction visits generalizing holder with
  | nil => simp [log]
  | cons visit visits ih =>
    obtain ⟨kept, later⟩ := unbroken_cons unbroken
    obtain ⟨told, still⟩ := host.perform_cached cached kept
    exact List.forall_mem_cons.2 ⟨told, ih still later⟩

/-- Up to one build that succeeds no caller is given a schema, and then each is given its result. -/
def OneBuild (host : Host) (events : List Event) : Prop :=
  (∀ event ∈ events, event.result? = none) ∨
  ∃ early builder late result, events = early ++ builder :: late ∧ builder.Builds host result ∧
    (∀ event ∈ early, event.result? = none) ∧
    ∀ event ∈ builder :: late, event.result? = some result

theorem oneBuild_of_empty (cached : holder.cached = none)
    (unbroken : Unbroken (host.log holder visits)) : host.OneBuild (host.log holder visits) := by
  induction visits generalizing holder with
  | nil => exact .inl (by simp [log])
  | cons visit visits ih =>
    obtain ⟨kept, later⟩ := unbroken_cons unbroken
    rcases host.perform_empty cached kept with
      ⟨still, silent⟩ | ⟨result, builds, told, held⟩
    · rcases ih still later with none | ⟨early, builder, late, result, split, builds, before, after⟩
      · exact .inl (List.forall_mem_cons.2 ⟨silent, none⟩)
      · refine .inr ⟨host.perform holder visit :: early, builder, late, result, ?_, builds,
          List.forall_mem_cons.2 ⟨silent, before⟩, after⟩
        rw [log, split, List.cons_append]
    · have rest := log_cached held later
      exact .inr ⟨[], _, _, result, rfl, builds, by simp, List.forall_mem_cons.2 ⟨told, rest⟩⟩

theorem cached_finish {left right : List Event} (split : host.log {} visits = left ++ right)
    (dropped : ∀ event ∈ left.getLast?, event.visit.call = .reset) :
    (finish {} left).cached = none := by
  unfold finish
  cases last : left.getLast? with
  | none => rfl
  | some event =>
    have member : event ∈ host.log {} visits := by
      rw [split]
      exact List.mem_append_left _ (List.mem_of_getLast? last)
    obtain ⟨-, performed, -⟩ :=
      host.log_atRest visits (SchemaHolder.atRest_reset {}) event member
    have reset : event.visit.call = .reset := dropped event last
    have after : event.after = event.before.reset := by
      rw [performed, perform, reset]
    simp [after, SchemaHolder.reset]

/-- Between two resets there is one build at most that succeeds, over the types of its time, and no
answer but its result. Each call leaves the holder with a state that tells what it holds, a failure
is told again to those who would wait, and from within a build there is nothing to be had. -/
theorem holder_history (host : Host) (visits : List Visit) :
    (∀ event ∈ host.log {} visits,
      event.after.state ≠ .building ∧
      (event.after.state = .ready ↔ event.after.cached.isSome) ∧
      (event.after.state = .failed ↔ event.after.lastError.isSome) ∧
      (event.after.state = .failed → event.after.cached = none)) ∧
    (∀ left middle right, host.log {} visits = left ++ middle ++ right →
      (∀ event ∈ left.getLast?, event.visit.call = .reset) → Unbroken middle →
      host.OneBuild middle) ∧
    (∀ event ∈ host.log {} visits, event.visit.call = .ask true →
      event.before.state = .failed →
      event.before.duringCall? true = none ∧ event.after = event.before ∧
      ∃ message, event.before.lastError = some message ∧
        event.answer = some (.refused (.buildFailed message))) ∧
    (∀ event ∈ host.log {} visits, ∀ waiting inside, event.visit.call = .ask waiting →
      event.before.duringCall? waiting = some inside → ∀ types,
      host.perform inside ⟨types, .get⟩ = ⟨⟨types, .get⟩, inside, none, inside⟩ ∧
      host.perform inside ⟨types, .ask false⟩ =
        ⟨⟨types, .ask false⟩, inside, some (.refused .initializing), inside⟩) := by
  have calls := host.log_atRest visits (SchemaHolder.atRest_reset {})
  refine ⟨?states, ?stretches, ?failures, ?inside⟩
  case states =>
    intro event member
    have rest := (calls event member).2.2
    exact ⟨rest.idle, rest.ready, rest.failed, rest.cached_of_failed⟩
  case stretches =>
    intro left middle right split dropped unbroken
    rw [List.append_assoc] at split
    have empty := cached_finish split dropped
    obtain ⟨-, later, -, rest⟩ := log_split split
    obtain ⟨stretch, -, same, -⟩ := log_split rest.symm
    rw [same] at unbroken ⊢
    exact oneBuild_of_empty empty unbroken
  case failures =>
    intro event member asked failed
    obtain ⟨rest, performed, -⟩ := calls event member
    obtain ⟨message, recorded, settled⟩ := rest.settled_of_failed failed
    have same : event.visit = ⟨event.visit.types, .ask true⟩ := by rw [← asked]
    rw [same, perform_settled settled] at performed
    refine ⟨by simp [SchemaHolder.duringCall?, settled], by rw [performed], message, recorded, ?_⟩
    rw [performed]
  case inside =>
    intro event member waiting inside asked started types
    obtain ⟨empty, refused⟩ := SchemaHolder.inside_of_duringCall started
    exact ⟨by simp [perform, empty], perform_settled refused⟩

def kiosk : Host := ⟨{}, [Domain.asking [("paper", "kiosk::Paper")]]⟩

def papers : Catalog := .ofTypes [
  { key := ⟨"kiosk::Paper"⟩, methods := [Domain.textGetter "getTitle"] }]

/-- The article is missing at first, is there later, and is gone again after a reset. -/
def season : List Visit := [
  ⟨.empty, .get⟩, ⟨.empty, .ask false⟩, ⟨papers, .ask true⟩, ⟨papers, .ask false⟩, ⟨.empty, .get⟩,
  ⟨.empty, .ask true⟩, ⟨papers, .reset⟩, ⟨.empty, .ask true⟩, ⟨papers, .ask true⟩]

theorem holder_history_kiosk :
    (kiosk.log {} season).map (·.after.state) =
      [.uninitialized, .failed, .failed, .ready, .ready, .ready, .uninitialized, .failed, .failed] ∧
    ((kiosk.log {} season).take 6).map (fun event => event.result?.map (·.number)) =
      [none, none, none, some 0, some 0, some 0] ∧
    kiosk.OneBuild ((kiosk.log {} season).take 6) := by
  obtain ⟨-, stretches, -, -⟩ := holder_history kiosk season
  have unbroken : Unbroken ((kiosk.log {} season).take 6) := by
    unfold Unbroken
    decide +kernel
  refine ⟨by decide +kernel, by decide +kernel, ?_⟩
  exact stretches [] _ _ (List.take_append_drop 6 _).symm (by simp) unbroken

end Host

end SchemaDiscovery
