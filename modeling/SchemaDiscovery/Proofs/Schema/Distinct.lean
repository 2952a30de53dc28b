import SchemaDiscovery.Proofs.Build.Record
import Mathlib.Data.List.Pairwise
/-!
The names that a schema defines in full. Main statement: none is defined twice, exactly when no
declared scalar is a root type or recorded in the registry, and no root type is recorded as anything
but an object. The registry itself takes care of all other pairs of names.
-/

namespace SchemaDiscovery

/-- The name that a definition gives in full to a type of any sort. -/
def Definition.definedName? : Definition → Option String
  | .type definition => if definition.isExtension then none else some definition.name
  | _ => none

def Definition.IsKinded (definition : Definition) : Prop :=
  ∀ name, definition.definedName? = some name → ∃ kind, definition.fullName? kind = some name

theorem Definition.isKinded_of_body {definition : TypeDefinition} {kind : TypeKind}
    (shape : definition.body.kind? = some kind) : (Definition.type definition).IsKinded := by
  intro name named
  rw [definedName?, Option.ite_none_left_eq_some] at named
  exact ⟨kind, by simp [fullName?, shape, named.1, Option.some_inj.1 named.2]⟩

theorem Definition.definedName_of_fullName {definition : Definition} {kind : TypeKind}
    {name : String} (full : definition.fullName? kind = some name) :
    definition.definedName? = some name := by
  cases definition with
  | type definition =>
    rw [fullName?, Option.ite_none_right_eq_some] at full
    simpa [definedName?, full.1.1] using full.2
  | _ => cases full

def TypeKind.all : List TypeKind := [.object, .interface, .input, .enum]

theorem TypeKind.mem_all (kind : TypeKind) : kind ∈ all := by
  cases kind <;> decide

theorem filterMap_definedName_perm {definitions : List Definition}
    (kinded : ∀ definition ∈ definitions, definition.IsKinded) :
    (definitions.filterMap (·.definedName?)).Perm
      (TypeKind.all.flatMap fun kind => definitions.filterMap (Definition.fullName? kind)) := by
  simp only [TypeKind.all, List.flatMap_cons, List.flatMap_nil, List.append_nil]
  induction definitions with
  | nil => exact .nil
  | cons definition rest ih =>
    have ih := ih fun other member => kinded other (List.mem_cons_of_mem _ member)
    simp only [List.filterMap_cons]
    cases named : definition.definedName? with
    | none =>
      have unnamed : ∀ kind, definition.fullName? kind = none := by
        intro kind
        cases full : definition.fullName? kind with
        | none => rfl
        | some name =>
          rw [Definition.definedName_of_fullName full] at named
          cases named
      simpa only [unnamed] using ih
    | some name =>
      obtain ⟨kind, full⟩ := kinded definition List.mem_cons_self name named
      have others : ∀ other, other ≠ kind → definition.fullName? other = none :=
        fun other => Definition.fullName_other full
      -- The name joins the list of its kind, behind those of the kinds before it.
      cases kind with
      | object => simpa [full, others] using ih
      | interface =>
        simp only [full, others, ne_eq, reduceCtorEq, not_false_eq_true]
        exact (ih.cons name).trans List.perm_middle.symm
      | input =>
        simp only [full, others, ne_eq, reduceCtorEq, not_false_eq_true]
        rw [← List.append_assoc] at ih ⊢
        exact (ih.cons name).trans List.perm_middle.symm
      | enum =>
        simp only [full, others, ne_eq, reduceCtorEq, not_false_eq_true]
        rw [← List.append_assoc, ← List.append_assoc] at ih ⊢
        exact (ih.cons name).trans List.perm_middle.symm

theorem nodup_eraseDups {α : Type} [DecidableEq α] (items : List α) : items.eraseDups.Nodup := by
  match items with
  | [] => exact .nil
  | item :: rest =>
    rw [List.eraseDups_cons]
    refine List.Nodup.cons ?_ (nodup_eraseDups _)
    simp [List.mem_eraseDups]
termination_by items.length
decreasing_by exact Nat.lt_succ_of_le (List.length_filter_le _ _)

namespace Domain

variable {domain : Domain} {turn : Turn} {start finish : Discovery}
  {definitions : List Definition} {resolvers : List Resolver} {schema : Schema}

theorem kinded_of_defineObject {name : String} {type : Option TypeDescriptor}
    {implements : Option String} {fields : List BoundField} {definition : Option Definition}
    (defined : start.defineObject name type implements fields = (definition, finish)) :
    ∀ found ∈ definition.toList, found.IsKinded := by
  intro found member
  cases Discovery.defineObject_defines defined with
  | full implementations fresh =>
    rw [List.mem_singleton.1 member]
    exact Definition.isKinded_of_body rfl
  | nothing known none => cases member
  | extension known some =>
    rw [List.mem_singleton.1 member]
    exact Definition.isKinded_of_body rfl

theorem Step.kinded (step : domain.Step turn start definitions finish) :
    ∀ definition ∈ definitions, definition.IsKinded := by
  cases step with
  | root role contributed defined => exact kinded_of_defineObject defined
  | extension role discovered kind contributed present defined =>
    exact kinded_of_defineObject defined
  | resolvedInterface role discovered kind contributed first present declared defined =>
    obtain ⟨-, rfl, -⟩ := Discovery.defineInterface_ok defined
    intro definition member
    rw [List.mem_singleton.1 member]
    exact Definition.isKinded_of_body rfl
  | object popped kind present declared defined => exact kinded_of_defineObject defined
  | interface popped kind present declared defined =>
    obtain ⟨-, rfl, -⟩ := Discovery.defineInterface_ok defined
    intro definition member
    rw [List.mem_singleton.1 member]
    exact Definition.isKinded_of_body rfl
  | builtInterface popped kind built resolved => exact nofun
  | input popped kind present given =>
    intro definition member
    rw [List.mem_singleton.1 member]
    exact Definition.isKinded_of_body rfl
  | enum popped kind present =>
    intro definition member
    rw [List.mem_singleton.1 member]
    exact Definition.isKinded_of_body rfl

theorem Run.kinded {turns : List Turn} (run : domain.Run turns start definitions finish) :
    ∀ definition ∈ definitions, definition.IsKinded := by
  induction run with
  | nil => exact nofun
  | cons step _ ih =>
    intro definition member
    exact (List.mem_append.1 member).elim (step.kinded definition) (ih definition)

def declaredScalars (domain : Domain) : List String :=
  if domain.config.declareScalars then customScalars domain.config.jsonScalar else []

theorem nodup_declaredScalars (domain : Domain) : domain.declaredScalars.Nodup := by
  unfold declaredScalars
  split
  · exact nodup_eraseDups _
  · exact .nil

theorem definedName_declarations (domain : Domain) :
    (domain.directiveDefinitions ++ domain.scalarDeclarations).filterMap (·.definedName?) =
      domain.declaredScalars := by
  have directives : domain.directiveDefinitions.filterMap (·.definedName?) = [] := by
    unfold directiveDefinitions
    split <;> rfl
  rw [List.filterMap_append, directives, List.nil_append]
  unfold scalarDeclarations declaredScalars scalarDefinitions
  split
  · rw [List.filterMap_map]
    exact List.filterMap_some
  · rfl

theorem Built.definedName_perm (built : domain.Built resolvers schema) :
    (schema.definitions.filterMap (·.definedName?)).Perm
      (domain.declaredScalars ++
        TypeKind.all.flatMap (domain.finalDiscovery resolvers).defined) := by
  have output := built.output
  obtain ⟨entries, definitions, run, rfl⟩ := built.run
  have emitted : ∀ kind, definitions.filterMap (Definition.fullName? kind) =
      ((domain.finalDiscovery resolvers).defined kind).reverse := by
    intro kind
    have whole := output kind
    rwa [Discovery.finish, List.filterMap_append, fullName_declarations, List.nil_append] at whole
  rw [Discovery.finish, List.filterMap_append, definedName_declarations]
  refine .append_left _ ((filterMap_definedName_perm run.kinded).trans ?_)
  simp only [emitted]
  exact List.Perm.flatMap_left _ fun kind _ => List.reverse_perm _

theorem Built.nodup_iff (built : domain.Built resolvers schema) :
    (schema.definitions.filterMap (·.definedName?)).Nodup ↔
      (∀ name ∈ domain.declaredScalars, ∀ kind,
        name ∉ (domain.finalDiscovery resolvers).defined kind) ∧
      (∀ kind other, kind ≠ other → ∀ name ∈ (domain.finalDiscovery resolvers).defined kind,
        name ∉ (domain.finalDiscovery resolvers).defined other) := by
  rw [built.definedName_perm.nodup_iff]
  generalize names : (domain.finalDiscovery resolvers).defined = defined
  have distinct : ∀ kind, (defined kind).Nodup := by
    rw [← names]
    exact built.distinct
  rw [List.nodup_append', List.nodup_flatMap]
  constructor
  · rintro ⟨-, ⟨-, roles⟩, apart⟩
    constructor
    · intro name scalar kind member
      exact apart scalar (List.mem_flatMap.2 ⟨kind, kind.mem_all, member⟩)
    · intro kind other different name here there
      have symmetric : Std.Symm (Function.onFun List.Disjoint defined) :=
        ⟨fun _ _ apart _ here there => apart there here⟩
      exact roles.forall kind.mem_all other.mem_all different here there
  · rintro ⟨apart, roles⟩
    refine ⟨domain.nodup_declaredScalars, ⟨fun kind _ => distinct kind, ?_⟩, ?_⟩
    · have nodup : TypeKind.all.Nodup := by decide
      exact nodup.pairwise_of_forall_ne fun kind _ other _ => roles kind other
    · intro name scalar member
      obtain ⟨kind, -, here⟩ := List.mem_flatMap.1 member
      exact apart name scalar kind here

/-- No name is defined twice, unless a declared scalar is a root type or recorded, or a root type is
recorded as something else than an object. -/
theorem names_distinct_iff (built : domain.build resolvers = .ok schema) :
    (schema.definitions.filterMap (·.definedName?)).Nodup ↔
      (∀ name ∈ domain.declaredScalars,
        (∀ resolver ∈ resolvers, resolver.role.rootName? ≠ some name) ∧
          (domain.finalDiscovery resolvers).registry.kindOf? name = none) ∧
      (∀ resolver ∈ resolvers, ∀ name, resolver.role.rootName? = some name →
        ∀ kind, (domain.finalDiscovery resolvers).registry.kindOf? name = some kind →
          kind = .object) := by
  have whole := built_of_build built
  rw [whole.nodup_iff]
  constructor
  · rintro ⟨apart, roles⟩
    constructor
    · intro name scalar
      constructor
      · intro resolver member root
        exact apart name scalar .object ((whole.mem_defined _ _).2 (.inr ⟨rfl, resolver, member, root⟩))
      · cases found : (domain.finalDiscovery resolvers).registry.kindOf? name with
        | none => rfl
        | some kind => exact absurd ((whole.mem_defined _ _).2 (.inl found)) (apart name scalar kind)
    · intro resolver member name root kind found
      by_contra other
      exact roles .object kind (Ne.symm other) name
        ((whole.mem_defined _ _).2 (.inr ⟨rfl, resolver, member, root⟩))
        ((whole.mem_defined _ _).2 (.inl found))
  · rintro ⟨apart, roots⟩
    constructor
    · intro name scalar kind member
      obtain ⟨unrooted, absent⟩ := apart name scalar
      rcases (whole.mem_defined _ _).1 member with found | ⟨-, resolver, present, root⟩
      · rw [absent] at found
        cases found
      · exact unrooted resolver present root
    · intro kind other different name here there
      rcases (whole.mem_defined _ _).1 here with found | ⟨rfl, resolver, present, root⟩
      · rcases (whole.mem_defined _ _).1 there with again | ⟨rfl, resolver, present, root⟩
        · exact different (Option.some_inj.1 (found.symm.trans again))
        · exact different (roots resolver present name root kind found)
      · rcases (whole.mem_defined _ _).1 there with again | ⟨same, -⟩
        · exact different (roots resolver present name root other again).symm
        · exact different same.symm

def archive : Domain where
  catalog := .ofTypes [
    { key := ⟨"archive::Page"⟩
      methods := [{ name := "getTitle", returns := some (.atom (.boxed .string) []) }] },
    { key := ⟨"archive::Long"⟩
      methods := [{ name := "getTitle", returns := some (.atom (.boxed .string) []) }] },
    { key := ⟨"archive::Query"⟩
      methods := [{
        name := "setText", params := [⟨"text", .atom (.boxed .string) [], []⟩] }] }]

def browse : Resolver where
  name := "Browse"
  role := .query
  methods := [{
    name := "first", params := [⟨"context", .atom .context [], []⟩]
    returns := some (.atom (.named ⟨"archive::Page"⟩) []) }]

def search : Resolver where
  name := "Search"
  role := .query
  methods := [{
    name := "find"
    params := [⟨"query", .atom (.named ⟨"archive::Query"⟩) [], []⟩,
      ⟨"context", .atom .context [], []⟩]
    returns := some (.atom (.boxed .string) []) }]

def measure : Resolver where
  name := "Measure"
  role := .query
  methods := [{
    name := "longest", params := [⟨"context", .atom .context [], []⟩]
    returns := some (.atom (.named ⟨"archive::Long"⟩) []) }]

theorem names_distinct_browse : ∃ schema, archive.build [browse] = .ok schema ∧
    (schema.definitions.filterMap (·.definedName?)).contains "Page" = true ∧
    ((schema.definitions.filterMap (·.definedName?)).Nodup ↔
      (∀ name ∈ archive.declaredScalars,
        (∀ resolver ∈ [browse], resolver.role.rootName? ≠ some name) ∧
          (archive.finalDiscovery [browse]).registry.kindOf? name = none) ∧
      (∀ resolver ∈ [browse], ∀ name, resolver.role.rootName? = some name →
        ∀ kind, (archive.finalDiscovery [browse]).registry.kindOf? name = some kind →
          kind = .object)) := by
  have observed : (archive.build [browse]).toOption.map (fun schema =>
      (schema.definitions.filterMap (·.definedName?)).contains "Page") = some true := by
    decide +kernel
  obtain ⟨schema, built, seen⟩ := build_observed observed
  exact ⟨schema, built, seen, names_distinct_iff built⟩

/-- An object and an input type of one name, and a scalar and an object of one name. -/
theorem names_not_distinct :
    (∃ schema, archive.build [search] = .ok schema ∧
      ¬ (schema.definitions.filterMap (·.definedName?)).Nodup) ∧
    ∃ schema, archive.build [measure] = .ok schema ∧
      ¬ (schema.definitions.filterMap (·.definedName?)).Nodup := by
  have repeated {name : String} {schema : Schema}
      (twice : (schema.definitions.filterMap (·.definedName?)).count name = 2) :
      ¬ (schema.definitions.filterMap (·.definedName?)).Nodup := by
    intro distinct
    have once := List.nodup_iff_count_le_one.1 distinct name
    omega
  have query : (archive.build [search]).toOption.map (fun schema =>
      (schema.definitions.filterMap (·.definedName?)).count "Query") = some 2 := by
    decide +kernel
  have long : (archive.build [measure]).toOption.map (fun schema =>
      (schema.definitions.filterMap (·.definedName?)).count "Long") = some 2 := by
    decide +kernel
  obtain ⟨first, searched, queries⟩ := build_observed query
  obtain ⟨second, measured, longs⟩ := build_observed long
  exact ⟨⟨first, searched, repeated queries⟩, ⟨second, measured, repeated longs⟩⟩

end Domain

end SchemaDiscovery
