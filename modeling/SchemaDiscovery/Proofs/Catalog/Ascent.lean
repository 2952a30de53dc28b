import SchemaDiscovery.Proofs.Catalog.Lineage
import Mathlib.Data.Prod.Lex
import Mathlib.Data.List.Induction
import Mathlib.Data.List.Lex
import Mathlib.Data.List.Nodup
/-!
The order of a lineage. An ascent tells which reference to follow at each type on the way up. Main
statement: a lineage holds each type that an ascent leads to once, with the arguments bound on the
first ascent to it, in the order of these first ascents.
-/

namespace SchemaDiscovery

/-- The places of the references that are followed, from the type at the bottom upwards. -/
abbrev Ascent := List Nat

/-- The shorter ascent comes first, and of two of one length the one with the earlier reference where
they part. -/
def Ascent.rank (ascent : Ascent) : ℕ ×ₗ List ℕ := toLex (ascent.length, ascent)

namespace Ascent

theorem rank_lt_iff {first second : Ascent} : first.rank < second.rank ↔
    first.length < second.length ∨ first.length = second.length ∧ first < second :=
  Prod.Lex.toLex_lt_toLex

theorem rank_injective : Function.Injective rank := fun _ _ same =>
  congrArg Prod.snd (toLex.injective same)

theorem length_le_of_rank_le {first second : Ascent} (sooner : first.rank ≤ second.rank) :
    first.length ≤ second.length := by
  rcases sooner.lt_or_eq with sooner | same
  · rcases rank_lt_iff.1 sooner with shorter | ⟨even, -⟩
    · exact shorter.le
    · exact even.le
  · rw [rank_injective same]

theorem lt_concat_of_lt {first second : List ℕ} (even : first.length = second.length)
    (sooner : first < second) (place other : ℕ) : first ++ [place] < second ++ [other] := by
  induction sooner with
  | nil => cases even
  | rel earlier => exact List.Lex.rel earlier
  | cons _ ih => exact List.Lex.cons (ih (Nat.succ.inj even))

theorem rank_lt_concat (ascent : Ascent) (place : ℕ) :
    ascent.rank < rank (ascent ++ [place]) :=
  rank_lt_iff.2 (.inl (by simp))

theorem rank_concat_lt {first second : Ascent} (sooner : first.rank < second.rank)
    (place other : ℕ) : rank (first ++ [place]) < rank (second ++ [other]) := by
  rw [rank_lt_iff, List.length_append, List.length_append, List.length_singleton]
  rcases rank_lt_iff.1 sooner with shorter | ⟨even, sooner⟩
  · exact .inl (Nat.succ_lt_succ shorter)
  · exact .inr ⟨congrArg _ even, lt_concat_of_lt even sooner place other⟩

theorem rank_concat_le {first second : Ascent} (sooner : first.rank ≤ second.rank) (place : ℕ) :
    rank (first ++ [place]) ≤ rank (second ++ [place]) := by
  rcases sooner.lt_or_eq with sooner | same
  · exact (rank_concat_lt sooner place place).le
  · rw [rank_injective same]

theorem rank_branch_lt (ascent : Ascent) {place other : ℕ} (earlier : place < other) :
    rank (ascent ++ [place]) < rank (ascent ++ [other]) :=
  rank_lt_iff.2 (.inr ⟨by simp, List.Lex.append_left _ (List.Lex.rel earlier) ascent⟩)

end Ascent

/-- An ancestor with an ascent to it. -/
structure Stop where
  ascent : Ascent
  ancestor : Ancestor

def Stop.key (stop : Stop) : TypeKey := stop.ancestor.type.key

structure Branch where
  ascent : Ascent
  reference : Supertype

def Stop.branches (stop : Stop) : List Branch :=
  stop.ancestor.supertypes.zipIdx.map fun (reference, place) => ⟨stop.ascent ++ [place], reference⟩

def Branch.stop (branch : Branch) (next : TypeDescriptor) : Stop :=
  ⟨branch.ascent, ⟨next, .bind next.typeParams branch.reference.args⟩⟩

theorem Stop.references_branches (stop : Stop) :
    stop.branches.map (·.reference) = stop.ancestor.supertypes := by
  simp [branches, Function.comp_def, List.zipIdx_map_fst]

theorem Stop.mem_branches {stop : Stop} {branch : Branch} : branch ∈ stop.branches ↔
    ∃ place, branch.ascent = stop.ascent ++ [place] ∧
      stop.ancestor.supertypes[place]? = some branch.reference := by
  simp only [branches, List.mem_map, Prod.exists, List.mem_zipIdx_iff_getElem?]
  constructor
  · rintro ⟨reference, place, refers, rfl⟩
    exact ⟨place, rfl, refers⟩
  · rintro ⟨place, same, refers⟩
    refine ⟨branch.reference, place, refers, ?_⟩
    rw [← same]

theorem Stop.branches_ordered (stop : Stop) :
    stop.branches.Pairwise fun branch later => branch.ascent.rank < later.ascent.rank := by
  rw [branches, List.pairwise_map, List.pairwise_iff_getElem]
  intro place other _ _ earlier
  simp only [List.getElem_zipIdx, Nat.zero_add]
  exact Ascent.rank_branch_lt stop.ascent earlier

theorem Stop.rank_lt_branch {stop : Stop} {branch : Branch} (leaves : branch ∈ stop.branches) :
    stop.ascent.rank < branch.ascent.rank := by
  obtain ⟨place, climbs, -⟩ := mem_branches.1 leaves
  rw [climbs]
  exact Ascent.rank_lt_concat _ _

theorem Stop.rank_branch_lt_branch {stop later : Stop} {branch other : Branch}
    (sooner : stop.ascent.rank < later.ascent.rank) (leaves : branch ∈ stop.branches)
    (leavesLater : other ∈ later.branches) : branch.ascent.rank < other.ascent.rank := by
  obtain ⟨place, climbs, -⟩ := mem_branches.1 leaves
  obtain ⟨place', climbsLater, -⟩ := mem_branches.1 leavesLater
  rw [climbs, climbsLater]
  exact Ascent.rank_concat_lt sooner _ _

theorem visit_of_stuck {unvisited : List TypeDescriptor} {queue : List Supertype}
    (stuck : nextUnvisited? unvisited queue = none) : visit unvisited queue = [] := by
  rw [visit]
  split
  · rfl
  · next found =>
    rw [stuck] at found
    cases found

theorem visit_of_next {unvisited : List TypeDescriptor} {queue rest : List Supertype}
    {reference : Supertype} {next : TypeDescriptor}
    (found : nextUnvisited? unvisited queue = some (reference, next, rest)) :
    visit unvisited queue = ⟨next, .bind next.typeParams reference.args⟩ ::
      visit (withoutKey next.key unvisited)
        (rest ++ (Ancestor.mk next (.bind next.typeParams reference.args)).supertypes) := by
  rw [visit]
  split
  · next stuck =>
    rw [stuck] at found
    cases found
  · next same =>
    rw [found] at same
    cases same
    rfl

theorem visit_skip {unvisited : List TypeDescriptor} {reference : Supertype}
    (gone : unvisited.find? (·.key = reference.key) = none) (queue : List Supertype) :
    visit unvisited (reference :: queue) = visit unvisited queue := by
  have same : nextUnvisited? unvisited (reference :: queue) = nextUnvisited? unvisited queue := by
    rw [nextUnvisited?, gone]
  cases found : nextUnvisited? unvisited queue with
  | none => rw [visit_of_stuck found, visit_of_stuck (same.trans found)]
  | some => rw [visit_of_next found, visit_of_next (same.trans found)]

theorem length_visit_le (unvisited : List TypeDescriptor) (queue : List Supertype) :
    (visit unvisited queue).length ≤ unvisited.length := by
  fun_induction visit unvisited queue with
  | case1 => exact Nat.zero_le _
  | case2 unvisited queue reference next rest found ancestor ih =>
    have fewer := length_withoutKey_lt (nextUnvisited_mem found).1
    exact (Nat.succ_le_succ ih).trans fewer

namespace Catalog

def climb? (catalog : Catalog) (ancestor : Ancestor) (place : ℕ) : Option Ancestor := do
  let reference ← ancestor.supertypes[place]?
  let type ← catalog.lookup? reference.key
  return ⟨type, .bind type.typeParams reference.args⟩

/-- Where an ascent from the type leads. The type itself is what its key stands for. -/
def follow? (catalog : Catalog) (type : TypeDescriptor) (ascent : Ascent) : Option Ancestor :=
  ascent.foldlM (catalog.insert type).climb? ⟨type, []⟩

/-- The ascent leads to the ancestor, and no ascent to its key comes before. -/
structure FirstStop (catalog : Catalog) (type : TypeDescriptor) (stop : Stop) : Prop where
  follows : catalog.follow? type stop.ascent = some stop.ancestor
  first : ∀ ascent ancestor, catalog.follow? type ascent = some ancestor →
    ancestor.type.key = stop.key → stop.ascent.rank ≤ ascent.rank

variable {catalog : Catalog} {type : TypeDescriptor} {ascent : Ascent} {ancestor other : Ancestor}
  {place : ℕ}

theorem climb_eq_some_iff : catalog.climb? ancestor place = some other ↔
    ∃ reference next, ancestor.supertypes[place]? = some reference ∧
      catalog.lookup? reference.key = some next ∧
      (⟨next, .bind next.typeParams reference.args⟩ : Ancestor) = other := by
  simp only [climb?, Option.bind_eq_bind, Option.bind_eq_some_iff, Option.pure_def, Option.some_inj]
  constructor
  · rintro ⟨reference, refers, next, found, same⟩
    exact ⟨reference, next, refers, found, same⟩
  · rintro ⟨reference, next, refers, found, same⟩
    exact ⟨reference, refers, next, found, same⟩

theorem follow_concat : catalog.follow? type (ascent ++ [place]) =
    (catalog.follow? type ascent).bind ((catalog.insert type).climb? · place) := by
  simp [follow?, List.foldlM_append]

theorem follow_concat_iff : catalog.follow? type (ascent ++ [place]) = some other ↔
    ∃ ancestor reference next, catalog.follow? type ascent = some ancestor ∧
      ancestor.supertypes[place]? = some reference ∧
      (catalog.insert type).lookup? reference.key = some next ∧
      (⟨next, .bind next.typeParams reference.args⟩ : Ancestor) = other := by
  rw [follow_concat, Option.bind_eq_some_iff]
  simp only [climb_eq_some_iff]
  constructor
  · rintro ⟨ancestor, follows, reference, next, rest⟩
    exact ⟨ancestor, reference, next, follows, rest⟩
  · rintro ⟨ancestor, reference, next, follows, rest⟩
    exact ⟨ancestor, follows, reference, next, rest⟩

theorem lookup_of_follow (follows : catalog.follow? type ascent = some ancestor) :
    (catalog.insert type).lookup? ancestor.type.key = some ancestor.type := by
  rcases List.eq_nil_or_concat' ascent with rfl | ⟨ascent, place, rfl⟩
  · cases follows
    simp [lookup?, insert, Ordered.find_put TypeDescriptor.key]
  · obtain ⟨_, reference, next, -, -, found, rfl⟩ := follow_concat_iff.1 follows
    rw [key_of_lookup found, found]

theorem type_eq_of_follow {route : Ascent} (follows : catalog.follow? type ascent = some ancestor)
    (followsOther : catalog.follow? type route = some other)
    (same : ancestor.type.key = other.type.key) : ancestor.type = other.type := by
  have known := lookup_of_follow follows
  rw [same, lookup_of_follow followsOther] at known
  exact (Option.some_inj.1 known).symm

/-! ### The walk -/

/-- The walk under way: what is still unvisited, the stops so far, and the branches that wait. -/
structure Survey (catalog : Catalog) (type : TypeDescriptor) (unvisited : List TypeDescriptor)
    (stops : List Stop) (queue : List Branch) : Prop where
  start : ⟨[], ⟨type, []⟩⟩ ∈ stops
  follows : ∀ stop ∈ stops, catalog.follow? type stop.ascent = some stop.ancestor
  waits : ∀ branch ∈ queue, ∃ stop ∈ stops, branch ∈ stop.branches
  ordered : (stops.map (·.ascent.rank) ++ queue.map (·.ascent.rank)).Pairwise (· < ·)
  distinct : (stops.map Stop.key).Nodup
  left : ∀ key, unvisited.find? (·.key = key) =
    if key ∈ stops.map Stop.key then none else (catalog.insert type).lookup? key
  /-- Each branch waits, or leads out of the catalog, or to where an ascent that is no later than its
  own has led. -/
  complete : ∀ stop ∈ stops, ∀ branch ∈ stop.branches,
    branch ∈ queue ∨ (catalog.insert type).lookup? branch.reference.key = none ∨
      ∃ other ∈ stops, other.key = branch.reference.key ∧
        other.ascent.rank ≤ branch.ascent.rank

namespace Survey

variable {unvisited : List TypeDescriptor} {stops : List Stop} {queue : List Branch}
  {branch : Branch} {next : TypeDescriptor}

theorem rank_lt (survey : catalog.Survey type unvisited stops queue) {stop : Stop}
    (here : stop ∈ stops) (waiting : branch ∈ queue) :
    stop.ascent.rank < branch.ascent.rank :=
  (List.pairwise_append.1 survey.ordered).2.2 _ (List.mem_map_of_mem here) _
    (List.mem_map_of_mem waiting)

theorem skip (survey : catalog.Survey type unvisited stops (branch :: queue))
    (gone : unvisited.find? (·.key = branch.reference.key) = none) :
    catalog.Survey type unvisited stops queue where
  start := survey.start
  follows := survey.follows
  waits := fun other waiting => survey.waits other (List.mem_cons_of_mem _ waiting)
  ordered := survey.ordered.sublist
    (.append_left (List.map_cons ▸ List.sublist_cons_self _ _) _)
  distinct := survey.distinct
  left := survey.left
  complete := by
    intro stop here other leaves
    rcases survey.complete stop here other leaves with waiting | rest
    · rcases List.mem_cons.1 waiting with rfl | waiting
      · have settled := survey.left other.reference.key
        rw [gone] at settled
        split at settled
        · next seen =>
          obtain ⟨earlier, there, same⟩ := List.mem_map.1 seen
          exact .inr (.inr ⟨earlier, there, same, (survey.rank_lt there List.mem_cons_self).le⟩)
        · exact .inr (.inl settled.symm)
      · exact .inl waiting
    · exact .inr rest

theorem unvisited_found (survey : catalog.Survey type unvisited stops queue) {key : TypeKey}
    (found : unvisited.find? (·.key = key) = some next) :
    key ∉ stops.map Stop.key ∧ (catalog.insert type).lookup? key = some next := by
  have settled := survey.left key
  rw [found] at settled
  split at settled
  · cases settled
  · next unseen => exact ⟨unseen, settled.symm⟩

theorem ordered_take (survey : catalog.Survey type unvisited stops (branch :: queue)) :
    ((stops ++ [branch.stop next]).map (·.ascent.rank) ++
      (queue ++ (branch.stop next).branches).map (·.ascent.rank)).Pairwise (· < ·) := by
  have whole := survey.ordered
  rw [List.map_cons, ← List.singleton_append, ← List.append_assoc] at whole
  rw [List.map_append, List.map_append, ← List.append_assoc, List.map_singleton]
  refine List.pairwise_append.2 ⟨whole, ?_, ?_⟩
  · rw [List.pairwise_map]
    exact (branch.stop next).branches_ordered
  · intro rank before _ departs
    obtain ⟨other, leaves, rfl⟩ := List.mem_map.1 departs
    have later : branch.ascent.rank < other.ascent.rank := Stop.rank_lt_branch leaves
    rcases List.mem_append.1 before with before | before
    · rcases List.mem_append.1 before with before | here
      · obtain ⟨stop, here, rfl⟩ := List.mem_map.1 before
        exact (survey.rank_lt here List.mem_cons_self).trans later
      · rw [List.mem_singleton.1 here]
        exact later
    · obtain ⟨waiting, member, rfl⟩ := List.mem_map.1 before
      obtain ⟨stop, here, leavesStop⟩ := survey.waits waiting (List.mem_cons_of_mem _ member)
      have sooner : stop.ascent.rank < (branch.stop next).ascent.rank :=
        survey.rank_lt here List.mem_cons_self
      exact Stop.rank_branch_lt_branch sooner leavesStop leaves

theorem take (survey : catalog.Survey type unvisited stops (branch :: queue))
    (found : unvisited.find? (·.key = branch.reference.key) = some next) :
    catalog.Survey type (withoutKey next.key unvisited) (stops ++ [branch.stop next])
      (queue ++ (branch.stop next).branches) := by
  have named : next.key = branch.reference.key := by simpa using List.find?_some found
  obtain ⟨unseen, known⟩ := survey.unvisited_found found
  obtain ⟨origin, there, leaves⟩ := survey.waits branch List.mem_cons_self
  obtain ⟨place, climbs, refers⟩ := Stop.mem_branches.1 leaves
  have keys : (stops ++ [branch.stop next]).map Stop.key = stops.map Stop.key ++ [next.key] := by
    rw [List.map_append, List.map_singleton]
    rfl
  refine ⟨List.mem_append_left _ survey.start, ?follows, ?waits, survey.ordered_take, ?distinct,
    ?left, ?complete⟩
  case follows =>
    intro stop here
    rcases List.mem_append.1 here with before | here
    · exact survey.follows stop before
    · rw [List.mem_singleton.1 here, Branch.stop, climbs]
      exact follow_concat_iff.2 ⟨_, _, next, survey.follows origin there, refers, known, rfl⟩
  case waits =>
    intro other waiting
    rcases List.mem_append.1 waiting with before | leaves
    · obtain ⟨stop, here, leaves⟩ := survey.waits other (List.mem_cons_of_mem _ before)
      exact ⟨stop, List.mem_append_left _ here, leaves⟩
    · exact ⟨_, List.mem_append_right _ List.mem_cons_self, leaves⟩
  case distinct =>
    rw [keys]
    refine List.nodup_append.2 ⟨survey.distinct, by simp, ?_⟩
    intro key seen key' here same
    rw [List.mem_singleton.1 here, named] at same
    exact unseen (same ▸ seen)
  case left =>
    intro key
    rw [find_withoutKey, survey.left key, keys]
    simp only [List.mem_append, List.mem_singleton]
    by_cases same : key = next.key
    · rw [if_pos same, if_pos (.inr same)]
    · simp only [same, or_false, if_false]
  case complete =>
    intro stop here other leaves
    rcases List.mem_append.1 here with before | here
    -- A branch that waited so far may be the one that is followed now.
    · rcases survey.complete stop before other leaves with waiting | unknown | ⟨seen, there, rest⟩
      · rcases List.mem_cons.1 waiting with rfl | waiting
        · exact .inr (.inr ⟨_, List.mem_append_right _ List.mem_cons_self, named, le_rfl⟩)
        · exact .inl (List.mem_append_left _ waiting)
      · exact .inr (.inl unknown)
      · exact .inr (.inr ⟨seen, List.mem_append_left _ there, rest⟩)
    · rw [List.mem_singleton.1 here] at leaves
      exact .inl (List.mem_append_right _ leaves)

theorem begin (catalog : Catalog) (type : TypeDescriptor) :
    catalog.Survey type (withoutKey type.key catalog.types) [⟨[], ⟨type, []⟩⟩]
      (Stop.mk [] ⟨type, []⟩).branches where
  start := List.mem_singleton_self _
  follows := by
    intro stop here
    rw [List.mem_singleton.1 here]
    rfl
  waits := fun branch waiting => ⟨_, List.mem_singleton_self _, waiting⟩
  ordered := by
    rw [List.map_singleton, List.singleton_append, List.pairwise_cons, List.pairwise_map]
    refine ⟨?_, Stop.branches_ordered _⟩
    intro rank waiting
    obtain ⟨branch, leaves, rfl⟩ := List.mem_map.1 waiting
    exact Stop.rank_lt_branch leaves
  distinct := by simp
  left := by
    intro key
    rw [find_withoutKey, lookup?, insert, Ordered.find_put TypeDescriptor.key]
    by_cases same : key = type.key
    · simp [same, Stop.key]
    · simp [same, Ne.symm same, Stop.key]
  complete := by
    intro stop here branch leaves
    rw [List.mem_singleton.1 here] at leaves
    exact .inl leaves

theorem run {unvisited : List TypeDescriptor} {stops : List Stop} {queue : List Branch}
    (survey : catalog.Survey type unvisited stops queue) :
    ∃ rest visited, visited.map (·.ancestor) =
        stops.map (·.ancestor) ++ visit unvisited (queue.map (·.reference)) ∧
      catalog.Survey type rest visited [] := by
  match queue, survey with
  | [], survey =>
    refine ⟨unvisited, stops, ?_, survey⟩
    rw [List.map_nil, visit_of_stuck rfl, List.append_nil]
  | branch :: queue, survey =>
    rw [List.map_cons]
    cases found : unvisited.find? (·.key = branch.reference.key) with
    | none =>
      rw [visit_skip found]
      exact run (survey.skip found)
    | some next =>
      have first : nextUnvisited? unvisited (branch.reference :: queue.map (·.reference)) =
          some (branch.reference, next, queue.map (·.reference)) := by
        rw [nextUnvisited?, found]
      have fewer := length_withoutKey_lt (List.mem_of_find?_eq_some found)
      obtain ⟨rest, visited, same, done⟩ := run (survey.take found)
      refine ⟨rest, visited, ?_, done⟩
      rw [same, visit_of_next first, List.map_append, List.map_append, Stop.references_branches,
        List.map_singleton, List.append_assoc, List.singleton_append]
      rfl
termination_by (unvisited.length, queue.length)

variable {rest : List TypeDescriptor}

theorem reaches (survey : catalog.Survey type rest stops [])
    (follows : catalog.follow? type ascent = some ancestor) :
    ∃ stop ∈ stops, stop.key = ancestor.type.key ∧ stop.ascent.rank ≤ ascent.rank := by
  induction ascent using List.reverseRecOn generalizing ancestor with
  | nil =>
    cases follows
    exact ⟨_, survey.start, rfl, le_rfl⟩
  | append_singleton ascent place ih =>
    obtain ⟨below, reference, next, prior, refers, found, rfl⟩ := follow_concat_iff.1 follows
    obtain ⟨stop, here, same, sooner⟩ := ih prior
    -- The stop is at the type below, and refers to the same key at the same place.
    have type_eq : stop.ancestor.type = below.type :=
      type_eq_of_follow (survey.follows stop here) prior same
    have named : (stop.ancestor.supertypes[place]?).map (·.key) = some reference.key := by
      rw [← List.getElem?_map, Ancestor.keys_supertypes, type_eq, ← Ancestor.keys_supertypes,
        List.getElem?_map, refers, Option.map_some]
    obtain ⟨reference', refers', key_eq⟩ := Option.map_eq_some_iff.1 named
    have leaves : ⟨stop.ascent ++ [place], reference'⟩ ∈ stop.branches :=
      Stop.mem_branches.2 ⟨place, rfl, refers'⟩
    rcases survey.complete stop here _ leaves with waiting | unknown | ⟨other, there, arrives, early⟩
    · cases waiting
    · rw [key_eq, found] at unknown
      cases unknown
    · refine ⟨other, there, arrives.trans (key_eq.trans (key_of_lookup found).symm), ?_⟩
      exact early.trans (Ascent.rank_concat_le sooner place)

theorem mem_iff (survey : catalog.Survey type rest stops []) {stop : Stop} :
    stop ∈ stops ↔ catalog.FirstStop type stop := by
  constructor
  · intro here
    refine ⟨survey.follows stop here, fun ascent ancestor follows same => ?_⟩
    obtain ⟨other, there, named, sooner⟩ := survey.reaches follows
    rwa [← List.inj_on_of_nodup_map survey.distinct there here (named.trans same)]
  · rintro ⟨follows, first⟩
    obtain ⟨other, there, named, sooner⟩ := survey.reaches follows
    have led := survey.follows other there
    have even : other.ascent = stop.ascent :=
      Ascent.rank_injective (sooner.antisymm (first _ _ led named))
    rw [even, follows, Option.some_inj] at led
    obtain ⟨ascent, ancestor⟩ := stop
    obtain rfl : other = ⟨ascent, ancestor⟩ := by
      cases other
      cases even
      cases led
      rfl
    exact there

end Survey

theorem length_lineage_le (catalog : Catalog) (type : TypeDescriptor) :
    (catalog.lineage type).length ≤ catalog.types.length + 1 :=
  Nat.succ_le_succ ((length_visit_le _ _).trans (List.length_filter_le _ _))

theorem exists_survey (catalog : Catalog) (type : TypeDescriptor) :
    ∃ rest stops, stops.map (·.ancestor) = catalog.lineage type ∧
      catalog.Survey type rest stops [] := by
  have walk := (Survey.begin catalog type).run
  rwa [Stop.references_branches] at walk

/-- A lineage stops once at each type that an ascent leads to, at the end of the first ascent, and in
the order of these ascents. -/
theorem lineage_stops (catalog : Catalog) (type : TypeDescriptor) :
    ∃ stops : List Stop, stops.map (·.ancestor) = catalog.lineage type ∧
      (∀ stop, stop ∈ stops ↔ catalog.FirstStop type stop) ∧
      (stops.map Stop.key).Nodup ∧
      stops.Pairwise fun stop later => stop.ascent.rank < later.ascent.rank := by
  obtain ⟨rest, stops, same, survey⟩ := catalog.exists_survey type
  have ordered := survey.ordered
  rw [List.map_nil, List.append_nil, List.pairwise_map] at ordered
  exact ⟨stops, same, fun stop => survey.mem_iff, survey.distinct, ordered⟩

theorem exists_firstStop (follows : catalog.follow? type ascent = some ancestor) :
    ∃ stop, catalog.FirstStop type stop ∧ stop.ancestor.type = ancestor.type ∧
      stop.ascent.rank ≤ ascent.rank := by
  obtain ⟨rest, stops, -, survey⟩ := catalog.exists_survey type
  obtain ⟨stop, here, same, sooner⟩ := survey.reaches follows
  exact ⟨stop, survey.mem_iff.1 here, type_eq_of_follow (survey.follows stop here) follows same,
    sooner⟩

theorem FirstStop.mem_lineage {stop : Stop} (first : catalog.FirstStop type stop) :
    stop.ancestor ∈ catalog.lineage type := by
  obtain ⟨stops, same, member, -⟩ := catalog.lineage_stops type
  rw [← same]
  exact List.mem_map_of_mem ((member stop).2 first)

theorem descends_of_follow (follows : catalog.follow? type ascent = some ancestor) :
    catalog.Descends type ancestor.type := by
  obtain ⟨stop, first, same, -⟩ := exists_firstStop follows
  exact ⟨stop.ancestor, first.mem_lineage, same⟩

end Catalog

end SchemaDiscovery
