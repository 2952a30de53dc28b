import SchemaDiscovery.Catalog.Candidates
import SchemaDiscovery.Catalog.Implementations
/-!
Questions for implementations put one after the other, to a catalog that keeps its candidates and by a
scan that keeps those of each scope. Main statement: each answer is what the catalog gives without any
memory, whatever was asked before.
-/

namespace SchemaDiscovery

namespace CandidateIndex

/-- The index comes from the empty one by insertions and questions in some order. -/
inductive Arises : CandidateIndex → Prop
  | empty : Arises .empty
  | insert {index : CandidateIndex} (type : TypeDescriptor) (prior : Arises index) :
    Arises (index.insert type)
  | candidates {index : CandidateIndex} (prior : Arises index) : Arises index.candidates.2

def Truthful (index : CandidateIndex) : Prop :=
  ∀ keys ∈ index.known, keys = index.catalog.candidates

variable {index : CandidateIndex}

theorem catalog_candidates (index : CandidateIndex) :
    index.candidates.2.catalog = index.catalog := by
  unfold candidates
  split <;> rfl

theorem Truthful.candidates_eq (truthful : index.Truthful) :
    index.candidates.1 = index.catalog.candidates := by
  unfold candidates
  split
  · next keys known => exact truthful keys known
  · rfl

theorem Truthful.candidates (truthful : index.Truthful) : index.candidates.2.Truthful := by
  unfold CandidateIndex.candidates
  split
  · exact truthful
  · rintro keys ⟨⟩
    rfl

theorem Arises.truthful (arises : index.Arises) : index.Truthful := by
  induction arises with
  | empty => exact nofun
  | insert => exact nofun
  | candidates _ ih => exact ih.candidates

theorem Arises.nodup_keys (arises : index.Arises) : index.catalog.keys.Nodup := by
  induction arises with
  | empty => exact .nil
  | insert type _ ih => exact Ordered.nodup_keys_put _ type _ ih
  | candidates _ ih =>
    rw [catalog_candidates]
    exact ih

end CandidateIndex

namespace Catalog

/-- The type is an implementation of the interface: tagged as one, in the scope of the interface, not the
interface itself, and a subtype of it. The scope is the configured one, else the module of the interface,
else everything. -/
structure Implements (catalog : Catalog) (config : Config) (interface type : TypeDescriptor) :
    Prop where
  tagged : type.hasImplementationTag = true
  within : ∀ scope ∈ config.implementationScope.or interface.key.modulePath,
    type.key.isWithin scope = true
  different : type.key ≠ interface.key
  assignable : catalog.isSubtype type.key interface.key = true

variable {catalog : Catalog} {config : Config} {interface type : TypeDescriptor}

theorem implements_iff : catalog.Implements config interface type ↔
    type.hasImplementationTag = true ∧
      (config.scopeFor interface.key.modulePath).all type.key.isWithin = true ∧
      type.key ≠ interface.key ∧ catalog.isSubtype type.key interface.key = true := by
  rw [Option.all_eq_true]
  exact ⟨fun ⟨tagged, within, different, assignable⟩ => ⟨tagged, within, different, assignable⟩,
    fun ⟨tagged, within, different, assignable⟩ => ⟨tagged, within, different, assignable⟩⟩

instance : Decidable (catalog.Implements config interface type) :=
  decidable_of_iff' _ implements_iff

theorem implementationsOf_eq (catalog : Catalog) (config : Config) (interface : TypeDescriptor) :
    catalog.implementationsOf config interface =
      (catalog.types.filter (catalog.Implements config interface ·)).map (·.key) := by
  rw [implementationsOf, implementers, candidatesWithin, candidates, List.filter_map,
    List.filter_map, List.filter_filter, List.filter_filter]
  congr 2
  funext type
  simp only [Function.comp_apply, implements_iff, Bool.decide_and, Bool.decide_eq_true, ne_eq,
    decide_not, Bool.and_assoc, Bool.and_comm, Bool.and_left_comm]

theorem nodup_implementationsOf (distinct : catalog.keys.Nodup) (config : Config)
    (interface : TypeDescriptor) : (catalog.implementationsOf config interface).Nodup := by
  rw [implementationsOf_eq]
  exact distinct.sublist (List.filter_sublist.map _)

end Catalog

namespace ScopeIndex

variable {index : ScopeIndex} {catalog : Catalog}

/-- What the index has kept is what a new scan of the catalog finds. -/
def Agrees (index : ScopeIndex) (catalog : Catalog) : Prop :=
  ∀ kept ∈ index.scopes, kept.2 = catalog.candidatesWithin kept.1

theorem agrees_empty (catalog : Catalog) : ScopeIndex.empty.Agrees catalog := nofun

theorem agrees_candidates (agrees : index.Agrees catalog) (scope : Option String) :
    (index.candidates catalog scope).1 = catalog.candidatesWithin scope ∧
      (index.candidates catalog scope).2.Agrees catalog := by
  unfold candidates
  split
  · next known keys found =>
    have same : known = scope := by simpa using List.find?_some found
    subst same
    exact ⟨agrees _ (List.mem_of_find?_eq_some found), agrees⟩
  · refine ⟨rfl, fun kept member => ?_⟩
    rcases List.mem_cons.1 member with rfl | earlier
    · rfl
    · exact agrees kept earlier

theorem implementationsOf_eq (agrees : index.Agrees catalog) (config : Config)
    (interface : TypeDescriptor) :
    (index.implementationsOf catalog config interface).1 =
        catalog.implementationsOf config interface ∧
      (index.implementationsOf catalog config interface).2.Agrees catalog := by
  obtain ⟨same, kept⟩ :=
    agrees_candidates agrees (config.scopeFor interface.key.modulePath)
  refine ⟨?_, kept⟩
  rw [Catalog.implementationsOf, ← same]
  rfl

def answers (index : ScopeIndex) (catalog : Catalog) (config : Config) :
    List TypeDescriptor → List (List TypeKey)
  | [] => []
  | interface :: interfaces =>
    (index.implementationsOf catalog config interface).1 ::
      (index.implementationsOf catalog config interface).2.answers catalog config interfaces

theorem answers_eq (agrees : index.Agrees catalog) (config : Config)
    (interfaces : List TypeDescriptor) :
    index.answers catalog config interfaces =
      interfaces.map (catalog.implementationsOf config) := by
  induction interfaces generalizing index with
  | nil => rfl
  | cons interface interfaces ih =>
    obtain ⟨same, after⟩ := implementationsOf_eq agrees config interface
    rw [answers, List.map_cons, ih after, same]

end ScopeIndex

/-- A catalog that is asked for implementations, with what is kept from one question to the next: the
candidates of the catalog and those of each scope. -/
structure Scan where
  source : CandidateIndex
  scopes : ScopeIndex := .empty

namespace Scan

def candidates (scan : Scan) (scope : Option String) : List TypeKey × Scan :=
  match scan.scopes.scopes.find? (·.1 = scope) with
  | some (_, keys) => (keys, scan)
  | none =>
    let (all, source) := scan.source.candidates
    let keys := all.filter fun key => scope.all key.isWithin
    (keys, ⟨source, ⟨(scope, keys) :: scan.scopes.scopes⟩⟩)

def implementationsOf (scan : Scan) (config : Config) (interface : TypeDescriptor) :
    List TypeKey × Scan :=
  let (keys, scan) := scan.candidates (config.scopeFor interface.key.modulePath)
  (scan.source.catalog.implementers interface keys, scan)

def answers (scan : Scan) (config : Config) : List TypeDescriptor → List (List TypeKey)
  | [] => []
  | interface :: interfaces =>
    (scan.implementationsOf config interface).1 ::
      (scan.implementationsOf config interface).2.answers config interfaces

variable {scan : Scan}

theorem candidates_eq (truthful : scan.source.Truthful) (scope : Option String) :
    ∃ source : CandidateIndex, source.Truthful ∧ source.catalog = scan.source.catalog ∧
      scan.candidates scope =
        ((scan.scopes.candidates scan.source.catalog scope).1,
          ⟨source, (scan.scopes.candidates scan.source.catalog scope).2⟩) := by
  unfold candidates ScopeIndex.candidates
  cases scan.scopes.scopes.find? (·.1 = scope) with
  | some entry => exact ⟨scan.source, truthful, rfl, rfl⟩
  | none =>
    refine ⟨scan.source.candidates.2, truthful.candidates, scan.source.catalog_candidates, ?_⟩
    rw [Catalog.candidatesWithin, ← truthful.candidates_eq]

theorem implementationsOf_eq (truthful : scan.source.Truthful) (config : Config)
    (interface : TypeDescriptor) :
    ∃ source : CandidateIndex, source.Truthful ∧ source.catalog = scan.source.catalog ∧
      scan.implementationsOf config interface =
        ((scan.scopes.implementationsOf scan.source.catalog config interface).1,
          ⟨source, (scan.scopes.implementationsOf scan.source.catalog config interface).2⟩) := by
  obtain ⟨source, known, same, result⟩ :=
    candidates_eq truthful (config.scopeFor interface.key.modulePath)
  refine ⟨source, known, same, ?_⟩
  simp only [implementationsOf, result, same]
  rfl

theorem answers_eq (truthful : scan.source.Truthful) (config : Config)
    (interfaces : List TypeDescriptor) :
    scan.answers config interfaces =
      scan.scopes.answers scan.source.catalog config interfaces := by
  induction interfaces generalizing scan with
  | nil => rfl
  | cons interface interfaces ih =>
    obtain ⟨source, known, same, result⟩ := implementationsOf_eq truthful config interface
    rw [answers, result, @ih ⟨source, _⟩ known, same, ScopeIndex.answers]

/-- The implementations of an interface are those of the catalog, in its order and each once, whatever
was asked before and whether or not the catalog keeps its candidates. -/
theorem answers_plain {source : CandidateIndex} (arises : source.Arises) (config : Config)
    (interfaces : List TypeDescriptor) :
    ScopeIndex.empty.answers source.catalog config interfaces = interfaces.map (fun interface =>
      (source.catalog.types.filter (source.catalog.Implements config interface ·)).map (·.key)) ∧
    (∀ answer ∈ ScopeIndex.empty.answers source.catalog config interfaces, answer.Nodup) ∧
    (Scan.mk source .empty).answers config interfaces =
      ScopeIndex.empty.answers source.catalog config interfaces := by
  have plain : ScopeIndex.empty.answers source.catalog config interfaces =
      interfaces.map (source.catalog.implementationsOf config) :=
    ScopeIndex.answers_eq (ScopeIndex.agrees_empty source.catalog) config interfaces
  refine ⟨?_, fun answer given => ?_, answers_eq arises.truthful config interfaces⟩
  · rw [plain]
    exact List.map_congr_left fun interface _ => source.catalog.implementationsOf_eq config interface
  · rw [plain] at given
    obtain ⟨interface, -, rfl⟩ := List.mem_map.1 given
    exact Catalog.nodup_implementationsOf arises.nodup_keys config interface

def barge : TypeDescriptor where
  key := ⟨"port::Barge"⟩
  form := .isInterface
  interfaces := [⟨⟨"Floating"⟩, []⟩]
  tags := [.interface none]

def floating : TypeDescriptor where
  key := ⟨"Floating"⟩
  form := .isInterface
  tags := [.interface none]

def quay : CandidateIndex :=
  let first := [barge, floating,
    { key := ⟨"port::Lighter"⟩, interfaces := [⟨barge.key, []⟩], tags := [.implementation none] }]
  let index := (first.foldl CandidateIndex.insert .empty).candidates.2
  (index.insert { key := ⟨"river::Raft"⟩, parent := some ⟨⟨"port::Lighter"⟩, []⟩
                  tags := [.implementation none] }).candidates.2

theorem answers_plain_quay : quay.Arises ∧
    (Scan.mk quay .empty).answers {} [barge, floating, barge] =
      [[⟨"port::Lighter"⟩], [⟨"port::Lighter"⟩, ⟨"river::Raft"⟩], [⟨"port::Lighter"⟩]] ∧
    ScopeIndex.empty.answers quay.catalog {} [barge, floating, barge] =
      [barge, floating, barge].map (fun interface =>
        (quay.catalog.types.filter (quay.catalog.Implements {} interface ·)).map (·.key)) ∧
    (∀ answer ∈ ScopeIndex.empty.answers quay.catalog {} [barge, floating, barge], answer.Nodup) ∧
    (Scan.mk quay .empty).answers {} [barge, floating, barge] =
      ScopeIndex.empty.answers quay.catalog {} [barge, floating, barge] := by
  have arises : quay.Arises :=
    .candidates (.insert _ (.candidates (.insert _ (.insert _ (.insert _ .empty)))))
  refine ⟨arises, ?_, answers_plain arises {} [barge, floating, barge]⟩
  decide +kernel

end Scan

end SchemaDiscovery
