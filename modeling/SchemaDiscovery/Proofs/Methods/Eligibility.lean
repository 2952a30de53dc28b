import SchemaDiscovery.Proofs.Methods.Nearest
/-!
Filters on methods that type arguments are put into. Main statement: a method is judged as it is
declared, so the method that is collected passes the filter itself unless it takes or returns a type
variable that is bound to the universal type.
-/

namespace SchemaDiscovery

def Method.uses (method : Method) : List TypeUse :=
  method.params.map (·.type) ++ method.returns.toList

def Method.AvoidsAny (method : Method) : Prop := ∀ use ∈ method.uses, use.isAny = false

theorem Method.avoidsAny_iff {method : Method} : method.AvoidsAny ↔
    (∀ param ∈ method.params, param.type.isAny = false) ∧
      ∀ use, method.returns = some use → use.isAny = false := by
  simp only [AvoidsAny, uses, List.forall_mem_append, List.forall_mem_map, Option.mem_toList]

@[simp] theorem TypeUse.isAny_addTags (use : TypeUse) (more : List Tag) :
    (use.addTags more).isAny = use.isAny := by
  cases use with
  | atom type tags => cases type <;> rfl
  | generic => rfl

namespace Bindings

def bindsAny (bindings : Bindings) : TypeUse → Bool
  | .atom (.param name) _ => (bindings.argument? name).any (·.isAny)
  | _ => false

theorem isAny_apply (bindings : Bindings) (use : TypeUse) :
    (bindings.apply use).isAny = (use.isAny || bindings.bindsAny use) := by
  cases use with
  | generic => rfl
  | atom type tags =>
    cases type with
    | param name =>
      rw [apply, bindsAny]
      cases bindings.argument? name with
      | none => rfl
      | some argument => exact argument.isAny_addTags tags
    | _ => rfl

theorem applyAll_eq_map (bindings : Bindings) (uses : List TypeUse) :
    bindings.applyAll uses = uses.map bindings.apply := by
  induction uses with
  | nil => rfl
  | cons use uses ih => rw [applyAll, ih, List.map_cons]

theorem bindsAny_bind (params : List String) {args : List TypeUse}
    (unused : ∀ argument ∈ args, argument.isAny = false) (use : TypeUse) :
    (bind params args).bindsAny use = false := by
  rw [bindsAny.eq_def]
  split
  · next name tags =>
    rw [Option.any_eq_false]
    intro argument found
    obtain ⟨⟨param, argument⟩, bound, rfl⟩ := Option.map_eq_some_iff.1 found
    have paired := List.of_mem_zip (Ordered.mem_ofList (List.mem_of_find?_eq_some bound))
    exact unused argument paired.2
  · rfl

theorem uses_applyToMethod (bindings : Bindings) (method : Method) :
    (bindings.applyToMethod method).uses = method.uses.map bindings.apply := by
  cases returns : method.returns <;>
    simp [Method.uses, applyToMethod, returns, Function.comp_def]

theorem avoidsAny_applyToMethod {bindings : Bindings} {method : Method} :
    (bindings.applyToMethod method).AvoidsAny ↔
      method.AvoidsAny ∧ ∀ use ∈ method.uses, bindings.bindsAny use = false := by
  simp only [Method.AvoidsAny, uses_applyToMethod, List.forall_mem_map, isAny_apply,
    Bool.or_eq_false_iff]
  exact forall₂_and

end Bindings

/-- The filter looks at the shape of a method, which no type argument changes, and refuses the
universal type. -/
structure RefusesAny (filter shaped : Method → Bool) : Prop where
  keeps : ∀ (bindings : Bindings) method, shaped (bindings.applyToMethod method) = shaped method
  accepts : ∀ method, filter method = true ↔ shaped method = true ∧ method.AvoidsAny

namespace Method

theorem isExposed_applyToMethod (bindings : Bindings) (method : Method) :
    (bindings.applyToMethod method).isExposed = method.isExposed := rfl

theorem isSetter_applyToMethod (bindings : Bindings) (method : Method) :
    (bindings.applyToMethod method).isSetter = method.isSetter := by
  simp [isSetter, Bindings.applyToMethod]

theorem refusesAny_isOutput :
    RefusesAny isOutput fun method =>
      method.isExposed && !method.isSetter && method.returns.isSome where
  keeps bindings method := by
    rw [isExposed_applyToMethod, isSetter_applyToMethod, Bindings.applyToMethod,
      Option.isSome_map]
  accepts method := by
    rw [avoidsAny_iff]
    cases returns : method.returns <;> simp [isOutput, returns, and_assoc]

theorem refusesAny_isInput :
    RefusesAny isInput fun method =>
      method.isExposed && method.isSetter && method.params.length == 1 where
  keeps bindings method := by
    rw [isExposed_applyToMethod, isSetter_applyToMethod, Bindings.applyToMethod,
      List.length_map]
  accepts method := by
    rw [avoidsAny_iff, isInput]
    cases returns : method.returns with
    | some => simp [isSetter, returns]
    | none => match method.params with
      | [] => simp
      | [param] => simp [and_assoc]
      | _ :: _ :: _ => simp

end Method

/-- No type variable that the method takes or returns is bound to the universal type. -/
def Site.AvoidsAny (site : Site) : Prop :=
  ∀ use ∈ site.method.uses, site.stop.ancestor.bindings.bindsAny use = false

theorem RefusesAny.resolve_iff {filter shaped : Method → Bool} (refuses : RefusesAny filter shaped)
    {site : Site} (accepted : filter site.method = true) :
    (filter site.declaration.resolve.method = true ↔
      site.declaration.resolve.method.AvoidsAny) ∧
    (site.declaration.resolve.method.AvoidsAny ↔ site.AvoidsAny) := by
  obtain ⟨fits, avoids⟩ := (refuses.accepts site.method).1 accepted
  constructor
  · rw [refuses.accepts, Declaration.resolve, refuses.keeps]
    exact and_iff_right fits
  · rw [Declaration.resolve, Bindings.avoidsAny_applyToMethod]
    exact and_iff_right avoids

namespace Catalog

variable {catalog : Catalog} {type : TypeDescriptor} {filter : Method → Bool}

theorem bindsAny_of_follow
    (unused : ∀ other, catalog.Descends type other → ∀ supertype ∈ other.supertypes,
      ∀ argument ∈ supertype.args, argument.isAny = false)
    {ascent : Ascent} {ancestor : Ancestor}
    (follows : catalog.follow? type ascent = some ancestor) (use : TypeUse) :
    ancestor.bindings.bindsAny use = false := by
  induction ascent using List.reverseRecOn generalizing ancestor use with
  | nil =>
    cases follows
    exact Bindings.bindsAny_bind [] (List.forall_mem_nil _) use
  | append_singleton ascent place ih =>
    obtain ⟨below, reference, next, prior, refers, -, rfl⟩ := follow_concat_iff.1 follows
    obtain ⟨supertype, declared, rfl⟩ := List.mem_map.1 (List.mem_of_getElem? refers)
    refine Bindings.bindsAny_bind _ ?_ use
    rw [Bindings.applyAll_eq_map, List.forall_mem_map]
    intro argument present
    rw [Bindings.isAny_apply, ih prior argument,
      unused _ (descends_of_follow prior) supertype declared argument present, Bool.or_self]

/-- The collected methods pass the filter themselves exactly where they avoid the universal type, which
is where no variable of their declarations is bound to it. That holds of all where no supertype of the
lineage has the universal type for an argument. -/
theorem methodsOf_accepted_iff
    (judges : filter = Method.isOutput ∨ filter = Method.isInput) :
    (∀ site, catalog.DeclaresFirst type site → filter site.method = true →
      site.declaration.resolve ∈ catalog.methodsOf type filter ∧
      (filter site.declaration.resolve.method = true ↔
        site.declaration.resolve.method.AvoidsAny) ∧
      (site.declaration.resolve.method.AvoidsAny ↔ site.AvoidsAny)) ∧
    ((∀ collected ∈ catalog.methodsOf type filter, filter collected.method = true) ↔
      ∀ site, catalog.DeclaresFirst type site → filter site.method = true → site.AvoidsAny) ∧
    ((∀ other, catalog.Descends type other → ∀ supertype ∈ other.supertypes,
        ∀ argument ∈ supertype.args, argument.isAny = false) →
      ∀ collected ∈ catalog.methodsOf type filter, filter collected.method = true) := by
  obtain ⟨shaped, refuses⟩ : ∃ shaped, RefusesAny filter shaped := by
    rcases judges with rfl | rfl
    · exact ⟨_, Method.refusesAny_isOutput⟩
    · exact ⟨_, Method.refusesAny_isInput⟩
  have accepted : (∀ collected ∈ catalog.methodsOf type filter, filter collected.method = true) ↔
      ∀ site, catalog.DeclaresFirst type site → filter site.method = true → site.AvoidsAny := by
    constructor
    · intro all site first declared
      obtain ⟨passes, avoids⟩ := refuses.resolve_iff declared
      exact avoids.1 (passes.1 (all _ (mem_methodsOf.2 ⟨site, ⟨first, declared⟩, rfl⟩)))
    · intro all collected member
      obtain ⟨site, ⟨first, declared⟩, rfl⟩ := mem_methodsOf.1 member
      obtain ⟨passes, avoids⟩ := refuses.resolve_iff declared
      exact passes.2 (avoids.2 (all site first declared))
  refine ⟨fun site first declared => ?_, accepted, fun unused => accepted.2 ?_⟩
  · exact ⟨mem_methodsOf.2 ⟨site, ⟨first, declared⟩, rfl⟩, refuses.resolve_iff declared⟩
  · intro site first _ use _
    exact bindsAny_of_follow unused first.1.1.follows use

def box : TypeDescriptor where
  key := ⟨"shop::Box"⟩
  typeParams := ["T"]
  methods := [
    { name := "getContent", returns := some (.atom (.param "T") []) },
    { name := "setContent", params := [⟨"content", .atom (.param "T") [], []⟩] },
    { name := "getLabel", returns := some (.atom (.boxed .string) []) }]

def crate : TypeDescriptor := { key := ⟨"shop::Crate"⟩, parent := some ⟨box.key, [.atom .any []]⟩ }

def tin : TypeDescriptor :=
  { key := ⟨"shop::Tin"⟩, parent := some ⟨box.key, [.atom (.boxed .string) []]⟩ }

def storeroom : Catalog := .ofTypes [box, crate, tin]

theorem methodsOf_accepted_storeroom :
    (∃ site, storeroom.DeclaresFirst crate site ∧ site.method.isOutput = true ∧
      ¬ site.AvoidsAny) ∧
    (∃ site, storeroom.DeclaresFirst crate site ∧ site.method.isInput = true ∧
      ¬ site.AvoidsAny) ∧
    ∀ site, storeroom.DeclaresFirst tin site → site.method.isOutput = true → site.AvoidsAny := by
  refine ⟨?_, ?_, ?_⟩
  · have boxed := (methodsOf_accepted_iff (.inl rfl)).2.1.not.1
      (show ¬ ∀ collected ∈ storeroom.methodsOf crate Method.isOutput,
        collected.method.isOutput = true by decide +kernel)
    push Not at boxed
    exact boxed
  · have boxed := (methodsOf_accepted_iff (.inr rfl)).2.1.not.1
      (show ¬ ∀ collected ∈ storeroom.methodsOf crate Method.isInput,
        collected.method.isInput = true by decide +kernel)
    push Not at boxed
    exact boxed
  · have unused : ∀ ancestor ∈ storeroom.lineage tin, ∀ supertype ∈ ancestor.type.supertypes,
        ∀ argument ∈ supertype.args, argument.isAny = false := by
      decide +kernel
    obtain ⟨-, accepted, sufficient⟩ := methodsOf_accepted_iff (.inl rfl)
    refine accepted.1 (sufficient fun other descends => ?_)
    obtain ⟨ancestor, member, rfl⟩ := descends
    exact unused ancestor member

/-- What a crate gives and takes is of the universal type, and is collected all the same. -/
theorem methodsOf_not_accepted :
    storeroom.lookup? crate.key = some crate ∧
    (∃ collected ∈ storeroom.methodsOf crate Method.isOutput,
      collected.method.returns = some (.atom .any []) ∧ collected.method.isOutput = false) ∧
    ∃ collected ∈ storeroom.methodsOf crate Method.isInput,
      collected.method.params = [⟨"content", .atom .any [], []⟩] ∧
        collected.method.isInput = false :=
  ⟨rfl, by decide +kernel, by decide +kernel⟩

end Catalog

end SchemaDiscovery
