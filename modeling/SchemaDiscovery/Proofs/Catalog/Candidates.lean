import SchemaDiscovery.Proofs.Catalog.Scan
import Mathlib.Data.List.Basic
/-!
A catalog that is filled and asked for its implementation candidates in turn. Main statement: it holds
each key in its first place with the type that was put in last under it, and each reading gives the keys
of those types that are tagged at that time, whatever was read before.
-/

namespace SchemaDiscovery

theorem Ordered.filterMap_find {α κ : Type} [DecidableEq κ] {key : α → κ} {items : List α}
    (distinct : (items.map key).Nodup) :
    ((items.map key).filterMap fun k => items.find? (key · = k)) = items := by
  rw [List.filterMap_map]
  have itself : ∀ item ∈ items, items.find? (key · = key item) = some item :=
    fun item member => find_eq_some_of_nodup distinct member
  exact (List.filterMap_congr itself).trans List.filterMap_some

namespace Catalog

theorem types_ofTypes (types : List TypeDescriptor) :
    (ofTypes types).types = Ordered.ofList (·.key) types := by
  have kept : ∀ start : Catalog, (types.foldl insert start).types =
      types.foldl (fun items type => Ordered.put (·.key) type items) start.types := by
    induction types with
    | nil => exact fun start => rfl
    | cons type types ih => exact fun start => ih (start.insert type)
  exact kept .empty

theorem keys_ofTypes (types : List TypeDescriptor) :
    (ofTypes types).keys = (types.map (·.key)).eraseDups := by
  rw [keys, types_ofTypes, Ordered.keys_ofList]

theorem lookup_ofTypes (types : List TypeDescriptor) (key : TypeKey) :
    (ofTypes types).lookup? key = types.reverse.find? (·.key = key) := by
  rw [lookup?, types_ofTypes, Ordered.find_ofList]

end Catalog

namespace CandidateIndex

/-- A use of an index: a type is put in, or the candidates are read. -/
inductive Call
  | insert (type : TypeDescriptor)
  | candidates

def Call.inserted? : Call → Option TypeDescriptor
  | .insert type => some type
  | .candidates => none

def call (index : CandidateIndex) : Call → CandidateIndex
  | .insert type => index.insert type
  | .candidates => index.candidates.2

def reached (calls : List Call) : CandidateIndex := calls.foldl call .empty

def inserted (calls : List Call) : List TypeDescriptor := calls.filterMap Call.inserted?

def answers (index : CandidateIndex) : List Call → List (List TypeKey)
  | [] => []
  | .insert type :: calls => (index.insert type).answers calls
  | .candidates :: calls => index.candidates.1 :: index.candidates.2.answers calls

/-- The type was put in, and none under its key after it. -/
def IsLatest (types : List TypeDescriptor) (type : TypeDescriptor) : Prop :=
  ∃ earlier later, types = earlier ++ type :: later ∧ ∀ other ∈ later, other.key ≠ type.key

/-- Each key in the place of its first insertion, with the type of its last. -/
def stored (types : List TypeDescriptor) : List TypeDescriptor :=
  (types.map (·.key)).eraseDups.filterMap fun key => types.reverse.find? (·.key = key)

/-- What the readings give when each goes through the types that are stored at its time. -/
def freshAnswers (types : List TypeDescriptor) : List Call → List (List TypeKey)
  | [] => []
  | .insert type :: calls => freshAnswers (types ++ [type]) calls
  | .candidates :: calls =>
    ((stored types).filter (·.hasImplementationTag)).map (·.key) :: freshAnswers types calls

variable {types : List TypeDescriptor} {type : TypeDescriptor} {key : TypeKey}

theorem stored_eq (types : List TypeDescriptor) : stored types = (Catalog.ofTypes types).types := by
  have distinct : ((Ordered.ofList (·.key) types).map (·.key)).Nodup :=
    Ordered.nodup_keys_ofList _ types
  rw [Catalog.types_ofTypes, ← Ordered.filterMap_find distinct, Ordered.keys_ofList]
  simp only [stored, Ordered.find_ofList]

theorem find_reverse_iff :
    types.reverse.find? (·.key = key) = some type ↔ type.key = key ∧ IsLatest types type := by
  rw [List.find?_eq_some_iff_append, decide_eq_true_iff]
  refine and_congr_right fun same => ?_
  subst same
  constructor
  · rintro ⟨later, earlier, parts, others⟩
    refine ⟨earlier.reverse, later.reverse, ?_, fun other member => ?_⟩
    · rw [← List.reverse_reverse types, parts]
      simp
    · simpa using others other (List.mem_reverse.1 member)
  · rintro ⟨earlier, later, rfl, others⟩
    refine ⟨later.reverse, earlier.reverse, by simp, fun other member => ?_⟩
    simpa using others other (List.mem_reverse.1 member)

theorem catalog_foldl (index : CandidateIndex) (calls : List Call) :
    (calls.foldl call index).catalog = (inserted calls).foldl Catalog.insert index.catalog := by
  induction calls generalizing index with
  | nil => rfl
  | cons next calls ih =>
    cases next with
    | insert type => exact ih (index.insert type)
    | candidates =>
      rw [List.foldl_cons, ih, call, catalog_candidates]
      rfl

theorem catalog_reached (calls : List Call) :
    (reached calls).catalog = Catalog.ofTypes (inserted calls) :=
  catalog_foldl .empty calls

theorem answers_eq {index : CandidateIndex} (truthful : index.Truthful)
    (same : index.catalog = Catalog.ofTypes types) (calls : List Call) :
    index.answers calls = freshAnswers types calls := by
  induction calls generalizing index types with
  | nil => rfl
  | cons next calls ih =>
    cases next with
    | insert type =>
      have grown : (index.insert type).catalog = Catalog.ofTypes (types ++ [type]) := by
        rw [insert, same, Catalog.ofTypes, Catalog.ofTypes, List.foldl_append]
        rfl
      exact ih nofun grown
    | candidates =>
      have kept : index.candidates.2.catalog = Catalog.ofTypes types := by
        rw [catalog_candidates, same]
      rw [answers, freshAnswers, truthful.candidates_eq, ih truthful.candidates kept, stored_eq,
        Catalog.candidates, same]

/-- The calls fill a map that keeps each key in the place of its first insertion, with the type that was
put in last under it. Every reading gives the keys of the tagged ones among the types at its time, as if
none had been kept from one before. -/
theorem calls_ordered (calls : List Call) :
    (∀ key type, (reached calls).catalog.lookup? key = some type ↔
      type.key = key ∧ IsLatest (inserted calls) type) ∧
    (reached calls).catalog.keys = ((inserted calls).map (·.key)).eraseDups ∧
    (reached calls).catalog.types = stored (inserted calls) ∧
    CandidateIndex.empty.answers calls = freshAnswers [] calls := by
  rw [catalog_reached]
  refine ⟨fun key type => ?_, Catalog.keys_ofTypes _, (stored_eq _).symm,
    answers_eq Arises.empty.truthful rfl calls⟩
  rw [Catalog.lookup_ofTypes, find_reverse_iff]

example :
    let raft : TypeDescriptor := { key := ⟨"Raft"⟩ }
    let tagged : TypeDescriptor := { raft with tags := [.implementation none] }
    let barge : TypeDescriptor := { key := ⟨"Barge"⟩, tags := [.implementation none] }
    CandidateIndex.empty.answers [.insert tagged, .candidates, .insert raft, .candidates,
        .insert barge, .candidates, .insert tagged, .candidates] =
      [[⟨"Raft"⟩], [], [⟨"Barge"⟩], [⟨"Raft"⟩, ⟨"Barge"⟩]] := by
  decide

end CandidateIndex

end SchemaDiscovery
