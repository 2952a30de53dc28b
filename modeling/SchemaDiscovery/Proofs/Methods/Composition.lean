import SchemaDiscovery.Proofs.Methods.Eligibility
/-!
Type arguments on the way up. Main statement: a collected method takes and returns what the references
on the way to its declaration make of the declared uses one after the other, the last first, where each
reference replaces the variables of the type that it leads to and no others.
-/

namespace SchemaDiscovery

/-- A use whose variables are told apart by the types that they belong to. The level of a type is the
number of references that lead to it. -/
inductive ScopedUse
  | param (level : ℕ) (name : String) (tags : List Tag)
  | atom (type : Atom) (tags : List Tag)
  | generic (shape : Shape) (args : List ScopedUse) (tags : List Tag)

namespace TypeUse

mutual

/-- A use that stands in the declaration of the type at a level. -/
def atLevel (level : ℕ) : TypeUse → ScopedUse
  | .atom (.param name) tags => .param level name tags
  | .atom type tags => .atom type tags
  | .generic shape args tags => .generic shape (allAtLevel level args) tags

def allAtLevel (level : ℕ) : List TypeUse → List ScopedUse
  | [] => []
  | use :: uses => atLevel level use :: allAtLevel level uses

end

theorem addTags_addTags (use : TypeUse) (first second : List Tag) :
    (use.addTags first).addTags second = use.addTags (first ++ second) := by
  cases use <;> simp [addTags]

theorem tags_addTags (use : TypeUse) (more : List Tag) : (use.addTags more).tags = use.tags ++ more := by
  cases use <;> rfl

end TypeUse

namespace ScopedUse

def addTags (more : List Tag) : ScopedUse → ScopedUse
  | .param level name tags => .param level name (tags ++ more)
  | .atom type tags => .atom type (tags ++ more)
  | .generic shape args tags => .generic shape args (tags ++ more)

mutual

/-- Replaces the variables of one level that have an argument. The tags on the use of a variable come
after those of its argument. -/
def replace (level : ℕ) (argument? : String → Option ScopedUse) : ScopedUse → ScopedUse
  | .param other name tags =>
    match if other = level then argument? name else none with
    | some argument => argument.addTags tags
    | none => .param other name tags
  | .atom type tags => .atom type tags
  | .generic shape args tags => .generic shape (replaceAll level argument? args) tags

def replaceAll (level : ℕ) (argument? : String → Option ScopedUse) :
    List ScopedUse → List ScopedUse
  | [] => []
  | use :: uses => replace level argument? use :: replaceAll level argument? uses

end

mutual

def fill (bindings : ℕ → Bindings) : ScopedUse → TypeUse
  | .param level name tags =>
    match (bindings level).argument? name with
    | some argument => argument.addTags tags
    | none => .atom (.param name) tags
  | .atom type tags => .atom type tags
  | .generic shape args tags => .generic shape (fillAll bindings args) tags

def fillAll (bindings : ℕ → Bindings) : List ScopedUse → List TypeUse
  | [] => []
  | use :: uses => fill bindings use :: fillAll bindings uses

end

def plain (use : ScopedUse) : TypeUse := use.fill fun _ => []

theorem fill_addTags (bindings : ℕ → Bindings) (use : ScopedUse) (more : List Tag) :
    (use.addTags more).fill bindings = (use.fill bindings).addTags more := by
  cases use with
  | param level name tags =>
    rw [addTags, fill, fill]
    cases (bindings level).argument? name with
    | none => rfl
    | some argument => exact (argument.addTags_addTags tags more).symm
  | atom type tags => rw [addTags, fill, fill, TypeUse.addTags]
  | generic shape args tags => rw [addTags, fill, fill, TypeUse.addTags]

mutual

theorem fill_atLevel (bindings : ℕ → Bindings) (level : ℕ) (use : TypeUse) :
    (use.atLevel level).fill bindings = (bindings level).apply use := by
  match use with
  | .atom (.param name) tags =>
    unfold TypeUse.atLevel fill Bindings.apply
    rfl
  | .generic shape args tags =>
    rw [TypeUse.atLevel, fill, Bindings.apply, fillAll_allAtLevel bindings level args]
  | .atom (.primitive _) _ | .atom (.boxed _) _ | .atom (.named _) _ | .atom .any _
  | .atom .rawMap _ | .atom .rawCollection _ | .atom .context _ => rfl

theorem fillAll_allAtLevel (bindings : ℕ → Bindings) (level : ℕ) (uses : List TypeUse) :
    fillAll bindings (TypeUse.allAtLevel level uses) = (bindings level).applyAll uses := by
  match uses with
  | [] => rfl
  | use :: uses =>
    rw [TypeUse.allAtLevel, fillAll, Bindings.applyAll, fill_atLevel bindings level use,
      fillAll_allAtLevel bindings level uses]

end

end ScopedUse

/-- A reference that is followed, with the type that it leads to. -/
structure Passage where
  reference : Supertype
  type : TypeDescriptor

/-- The argument of a variable of the type that is led to, by position; of two variables with one name
the later counts. -/
def Passage.argument? (passage : Passage) (name : String) : Option TypeUse :=
  ((passage.type.typeParams.zip passage.reference.args).reverse.find? (·.1 = name)).map Prod.snd

def Passage.argumentAt? (passage : Passage) (level : ℕ) (name : String) : Option ScopedUse :=
  (passage.argument? name).map (TypeUse.atLevel level)

/-- The references that are followed one after the other, the last first. -/
abbrev Route := List Passage

/-- What the references of a route make of a use one after the other, the last first. The arguments of
a reference stand in the declaration of the type that refers, one level below. -/
def ScopedUse.along : Route → ScopedUse → ScopedUse
  | [], use => use
  | passage :: below, use =>
    along below (use.replace (below.length + 1) (passage.argumentAt? below.length))

namespace Route

/-- What a route makes of a use in the declaration of the type that it leads to. -/
def resolve (route : Route) (use : TypeUse) : TypeUse :=
  ((use.atLevel route.length).along route).plain

def bindings : Route → Bindings
  | [] => []
  | passage :: below =>
    .bind passage.type.typeParams ((bindings below).applyAll passage.reference.args)

def bindingsAt : Route → ℕ → Bindings
  | [], _ => []
  | passage :: below, level =>
    if level = below.length + 1 then bindings (passage :: below) else bindingsAt below level

theorem bindingsAt_length (route : Route) : route.bindingsAt route.length = route.bindings := by
  cases route with
  | nil => rfl
  | cons passage below => exact if_pos rfl

theorem bindingsAt_of_length_lt {route : Route} {level : ℕ} (above : route.length < level) :
    route.bindingsAt level = [] := by
  induction route with
  | nil => rfl
  | cons passage below ih =>
    rw [List.length_cons] at above
    rw [bindingsAt, if_neg (by omega), ih (by omega)]

theorem argument_bindings (passage : Passage) (below : Route) (name : String) :
    (bindings (passage :: below)).argument? name =
      (passage.argument? name).map below.bindings.apply := by
  rw [bindings, Bindings.argument?, Bindings.bind, Ordered.find_ofList, Bindings.applyAll_eq_map,
    List.zip_map_right, ← List.map_reverse, List.find?_map, Passage.argument?, Option.map_map,
    Option.map_map]
  rfl

theorem fill_argument (passage : Passage) (below : Route) (name : String) (tags : List Tag) :
    (match passage.argumentAt? below.length name with
      | some argument => argument.addTags tags
      | none => ScopedUse.param (below.length + 1) name tags).fill below.bindingsAt =
    match (bindings (passage :: below)).argument? name with
    | some argument => argument.addTags tags
    | none => .atom (.param name) tags := by
  rw [argument_bindings, Passage.argumentAt?]
  cases passage.argument? name with
  | none =>
    rw [Option.map_none, Option.map_none]
    dsimp only
    rw [ScopedUse.fill, bindingsAt_of_length_lt (Nat.lt_succ_self _)]
    rfl
  | some argument =>
    rw [Option.map_some, Option.map_some]
    dsimp only
    rw [ScopedUse.fill_addTags, ScopedUse.fill_atLevel, bindingsAt_length]

mutual

/-- To replace the variables of the last type and then fill in the rest fills in all of them. -/
theorem fill_replace (passage : Passage) (below : Route) (use : ScopedUse) :
    (use.replace (below.length + 1) (passage.argumentAt? below.length)).fill below.bindingsAt =
    use.fill (bindingsAt (passage :: below)) := by
  match use with
  | .param level name tags =>
    rw [ScopedUse.replace, ScopedUse.fill, bindingsAt]
    split_ifs with last
    · rw [last]
      exact fill_argument passage below name tags
    · exact ScopedUse.fill.eq_1 ..
  | .atom type tags => rw [ScopedUse.replace, ScopedUse.fill, ScopedUse.fill]
  | .generic shape args tags =>
    rw [ScopedUse.replace, ScopedUse.fill, ScopedUse.fill, fillAll_replaceAll passage below args]

theorem fillAll_replaceAll (passage : Passage) (below : Route) (uses : List ScopedUse) :
    ScopedUse.fillAll below.bindingsAt
      (ScopedUse.replaceAll (below.length + 1) (passage.argumentAt? below.length) uses) =
    ScopedUse.fillAll (bindingsAt (passage :: below)) uses := by
  match uses with
  | [] => rfl
  | use :: uses =>
    rw [ScopedUse.replaceAll, ScopedUse.fillAll, ScopedUse.fillAll, fill_replace passage below use,
      fillAll_replaceAll passage below uses]

end

theorem plain_along (route : Route) (use : ScopedUse) :
    (use.along route).plain = use.fill route.bindingsAt := by
  induction route generalizing use with
  | nil => rfl
  | cons passage below ih => rw [ScopedUse.along, ih, fill_replace]

/-- The references put in one after the other do what the arguments that are bound on the way do at
once. -/
theorem resolve_eq_apply (route : Route) (use : TypeUse) :
    route.resolve use = route.bindings.apply use := by
  rw [resolve, plain_along, ScopedUse.fill_atLevel, bindingsAt_length]

theorem resolve_generic (route : Route) (shape : Shape) (args : List TypeUse) (tags : List Tag) :
    route.resolve (.generic shape args tags) = .generic shape (args.map route.resolve) tags := by
  have each : route.resolve = route.bindings.apply := funext route.resolve_eq_apply
  rw [each, Bindings.apply, Bindings.applyAll_eq_map]

theorem resolve_unbound {passage : Passage} {name : String} (unbound : passage.argument? name = none)
    (below : Route) (tags : List Tag) :
    resolve (passage :: below) (.atom (.param name) tags) = .atom (.param name) tags := by
  rw [resolve_eq_apply, Bindings.apply, argument_bindings, unbound]
  rfl

theorem resolve_bound {passage : Passage} {name : String} {argument : TypeUse}
    (bound : passage.argument? name = some argument) (below : Route) (tags : List Tag) :
    resolve (passage :: below) (.atom (.param name) tags) =
      (below.resolve argument).addTags tags := by
  rw [resolve_eq_apply, Bindings.apply, argument_bindings, bound, resolve_eq_apply]
  rfl

theorem tags_resolve (route : Route) (use : TypeUse) : use.tags <:+ (route.resolve use).tags := by
  rw [resolve_eq_apply]
  cases use with
  | generic shape args tags => exact List.suffix_rfl
  | atom type tags =>
    cases type with
    | param name =>
      rw [Bindings.apply]
      cases route.bindings.argument? name with
      | none => exact List.suffix_rfl
      | some argument =>
        dsimp only
        rw [TypeUse.tags_addTags]
        exact List.suffix_append _ _
    | _ => exact List.suffix_rfl

theorem hasNotNull_resolve {passage : Passage} {name : String} {argument : TypeUse}
    (bound : passage.argument? name = some argument) (below : Route) {tags : List Tag}
    (marked : hasNotNull argument.tags = true ∨ hasNotNull tags = true) :
    hasNotNull (resolve (passage :: below) (.atom (.param name) tags)).tags = true := by
  rw [resolve_bound bound, TypeUse.tags_addTags, hasNotNull, List.any_append, Bool.or_eq_true]
  refine marked.imp_left fun marked => ?_
  obtain ⟨tag, listed, asks⟩ := List.any_eq_true.1 marked
  exact List.any_eq_true.2 ⟨tag, (below.tags_resolve argument).subset listed, asks⟩

end Route

def Method.mapUses (change : TypeUse → TypeUse) (method : Method) : Method :=
  { method with
    params := method.params.map fun param => { param with type := change param.type }
    returns := method.returns.map change }

namespace Catalog

/-- The ascent follows the references, as the types on the way declare them. The type at the bottom is
what its key stands for. -/
inductive Leads (catalog : Catalog) (bottom : TypeDescriptor) :
    Ascent → TypeDescriptor → Route → Prop
  | start : Leads catalog bottom [] bottom []
  | climb {ascent : Ascent} {type next : TypeDescriptor} {route : Route} {place : ℕ}
    {reference : Supertype} (leads : Leads catalog bottom ascent type route)
    (refers : type.supertypes[place]? = some reference)
    (found : (catalog.insert bottom).lookup? reference.key = some next) :
    Leads catalog bottom (ascent ++ [place]) next (⟨reference, next⟩ :: route)

variable {catalog : Catalog} {type : TypeDescriptor} {filter : Method → Bool}

theorem exists_route {ascent : Ascent} {ancestor : Ancestor}
    (follows : catalog.follow? type ascent = some ancestor) :
    ∃ route, catalog.Leads type ascent ancestor.type route ∧ ancestor.bindings = route.bindings := by
  induction ascent using List.reverseRecOn generalizing ancestor with
  | nil =>
    cases follows
    exact ⟨[], .start, rfl⟩
  | append_singleton ascent place ih =>
    obtain ⟨below, reference, next, prior, refers, found, rfl⟩ := follow_concat_iff.1 follows
    obtain ⟨route, leads, bound⟩ := ih prior
    rw [Ancestor.supertypes, List.getElem?_map] at refers
    obtain ⟨declared, there, rfl⟩ := Option.map_eq_some_iff.1 refers
    refine ⟨⟨declared, next⟩ :: route, .climb leads there found, ?_⟩
    rw [Route.bindings, ← bound]

/-- A collected method is declared where the walk first comes to a type that declares its name, and takes
and returns what the references on the way make of the uses there, the last reference first. On that way
a variable becomes its argument with the tags of both, however deep it stands, and one that a reference
leaves without an argument stays itself. -/
theorem methodsOf_composed {collected : TypeMethod}
    (member : collected ∈ catalog.methodsOf type filter) :
    ∃ site route, (catalog.DeclaresFirst type site ∧ filter site.method = true) ∧
      catalog.Leads type site.stop.ascent site.stop.ancestor.type route ∧
      collected.declaredIn = site.stop.key ∧
      collected.method = site.method.mapUses route.resolve ∧
      (∀ shape args tags, route.resolve (.generic shape args tags) =
        .generic shape (args.map route.resolve) tags) ∧
      ∀ (passage : Passage) (below : Route), passage :: below <:+ route → ∀ name tags,
        let use := Route.resolve (passage :: below) (.atom (.param name) tags)
        (passage.argument? name = none → use = .atom (.param name) tags) ∧
        ∀ argument, passage.argument? name = some argument →
          use = (below.resolve argument).addTags tags ∧
          (hasNotNull argument.tags = true ∨ hasNotNull tags = true →
            hasNotNull use.tags = true) := by
  obtain ⟨site, first, rfl⟩ := mem_methodsOf.1 member
  obtain ⟨route, leads, bound⟩ := exists_route first.1.1.1.follows
  -- What is bound while walking up is what the route makes of a use.
  have each : route.resolve = site.stop.ancestor.bindings.apply := by
    rw [bound]
    exact funext route.resolve_eq_apply
  refine ⟨site, route, first, leads, rfl, ?_, route.resolve_generic, ?_⟩
  · rw [each]
    rfl
  · intro passage below _ name tags use
    exact ⟨fun unbound => Route.resolve_unbound unbound below tags, fun argument bound =>
      ⟨Route.resolve_bound bound below tags, Route.hasNotNull_resolve bound below⟩⟩

def supply : TypeDescriptor where
  key := ⟨"desk::Supply"⟩
  form := .isInterface
  typeParams := ["S", "U"]
  methods := [
    { name := "getStock", returns := some (.generic .list [.atom (.param "S") [.marker "Kept"]] []) },
    { name := "getOther", returns := some (.atom (.param "U") []) }]

def drawer : TypeDescriptor where
  key := ⟨"desk::Drawer"⟩
  typeParams := ["T"]
  interfaces := [⟨supply.key, [.generic .optional [.atom (.param "T") []] []]⟩]

def tray : TypeDescriptor where
  key := ⟨"desk::Tray"⟩
  typeParams := ["U"]
  parent := some ⟨drawer.key, [.atom (.param "U") [.notNull]]⟩

def desk : TypeDescriptor :=
  { key := ⟨"desk::Desk"⟩, parent := some ⟨tray.key, [.atom (.boxed .string) []]⟩ }

def study : Catalog := .ofTypes [supply, drawer, tray, desk]

theorem methodsOf_composed_study : ∃ collected ∈ study.methodsOf desk Method.isOutput,
    collected.method.returns = some (.atom (.param "U") []) ∧
    ∃ site route, (study.DeclaresFirst desk site ∧ site.method.isOutput = true) ∧
      study.Leads desk site.stop.ascent site.stop.ancestor.type route ∧
      collected.declaredIn = site.stop.key ∧
      collected.method = site.method.mapUses route.resolve := by
  have collects : ∃ collected ∈ study.methodsOf desk Method.isOutput,
      collected.method.returns = some (.atom (.param "U") []) := by
    decide +kernel
  obtain ⟨collected, member, returns⟩ := collects
  obtain ⟨site, route, first, leads, declared, same, -⟩ := methodsOf_composed member
  exact ⟨collected, member, returns, site, route, first, leads, declared, same⟩

example : (study.methodsOf desk Method.isOutput).map (·.method.returns) =
    [some (.generic .list [.generic .optional [.atom (.boxed .string) [.notNull]]
      [.marker "Kept"]] []), some (.atom (.param "U") [])] := by
  decide +kernel

end Catalog

end SchemaDiscovery
