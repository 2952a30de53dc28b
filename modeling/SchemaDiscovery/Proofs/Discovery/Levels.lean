import SchemaDiscovery.Proofs.Catalog.Classification
import SchemaDiscovery.Proofs.Discovery.Denotation
/-!
Levels of nested lists. Main statement: a reference has the levels of its use, names what is innermost,
and forbids null on each level exactly where the use does. What forbids null on a level is spread over
the publishers seen through, the list or the value itself and, on the outermost level, what surrounds
the use.
-/

namespace SchemaDiscovery

/-- A level of a nested use: the list or the value itself, with the publishers that are seen through
directly above it. -/
structure Level where
  publishers : List TypeUse
  own : TypeUse

namespace Level

def under (publisher : TypeUse) (level : Level) : Level :=
  { level with publishers := publisher :: level.publishers }

def forbidsNull (level : Level) : Bool :=
  level.own.forbidsNull || level.publishers.any (hasNotNull ·.tags)

theorem forbidsNull_iff {level : Level} : level.forbidsNull = true ↔
    hasNotNull level.own.tags = true ∨
      (∃ publisher ∈ level.publishers, hasNotNull publisher.tags = true) ∨
      level.own.isPrimitive = true := by
  rw [forbidsNull, TypeUse.forbidsNull, Bool.or_eq_true, Bool.or_eq_true, List.any_eq_true,
    or_assoc, or_comm, or_assoc]

theorem forbidsNull_under (publisher : TypeUse) (level : Level) :
    (level.under publisher).forbidsNull = (hasNotNull publisher.tags || level.forbidsNull) := by
  simp only [forbidsNull, under, List.any_cons]
  rw [Bool.or_left_comm]

end Level

namespace TypeUse

/-- The shapes that are nested in one another, outermost first. A map is a value like others. -/
def spine : TypeUse → List Shape
  | .atom _ _ => []
  | .generic .map _ _ => []
  | .generic shape [element] _ => shape :: element.spine
  | .generic _ _ _ => []

def listDepth (use : TypeUse) : Nat := use.spine.count .list

/-- The levels of a use, outermost first. All but the last are lists. -/
def levels : TypeUse → List Level
  | .generic .list [element] tags => ⟨[], .generic .list [element] tags⟩ :: element.levels
  | .generic .publisher [element] tags =>
    element.levels.modifyHead (Level.under (.generic .publisher [element] tags))
  | use => [⟨[], use⟩]

def innermost : TypeUse → TypeUse
  | .generic .list [element] _ => element.innermost
  | .generic .publisher [element] _ => element.innermost
  | use => use

def peeled : TypeUse → TypeUse
  | .generic .future [element] _ => element
  | .generic .optional [element] _ => element
  | use => use

def peeledTags : TypeUse → List Tag
  | .generic .future [_] tags => tags
  | .generic .optional [_] tags => tags
  | _ => []

def isPublisher : TypeUse → Bool
  | .generic .publisher [_] _ => true
  | _ => false

def IsValue (use : TypeUse) : Prop := use.levels = [⟨[], use⟩] ∧ use.innermost = use ∧ use.spine = []

theorem isValue_atom (type : Atom) (tags : List Tag) : (TypeUse.atom type tags).IsValue :=
  ⟨rfl, rfl, rfl⟩

theorem isValue_map (args : List TypeUse) (tags : List Tag) :
    (TypeUse.generic .map args tags).IsValue :=
  ⟨rfl, rfl, by rw [spine]⟩

/-- Which levels forbid null, with the outermost forced. -/
def marksWhen (outermost : Bool) (use : TypeUse) : List Bool :=
  (use.levels.map Level.forbidsNull).modifyHead (· || outermost)

theorem marksWhen_false (use : TypeUse) : use.marksWhen false = use.levels.map Level.forbidsNull := by
  rw [marksWhen]
  cases use.levels with
  | nil => rfl
  | cons level levels => simp

theorem marksWhen_alone {use : TypeUse} (alone : use.levels = [⟨[], use⟩]) (outermost : Bool) :
    use.marksWhen outermost = [use.isPrimitive || (outermost || hasNotNull use.tags)] := by
  rw [marksWhen, alone]
  simp only [List.map_cons, List.map_nil, List.modifyHead_cons, Level.forbidsNull, forbidsNull,
    List.any_nil, Bool.or_false]
  rw [Bool.or_assoc, Bool.or_comm outermost]

theorem marksWhen_list (element : TypeUse) (tags : List Tag) (outermost : Bool) :
    (TypeUse.generic .list [element] tags).marksWhen outermost =
      (outermost || hasNotNull tags) :: element.marksWhen false := by
  rw [marksWhen_false, Bool.or_comm]
  show ((false || hasNotNull tags || false) || outermost) :: _ = _
  rw [Bool.or_false, Bool.false_or]

theorem marksWhen_publisher (element : TypeUse) (tags : List Tag) (outermost : Bool) :
    (TypeUse.generic .publisher [element] tags).marksWhen outermost =
      element.marksWhen (outermost || hasNotNull tags) := by
  rw [marksWhen, levels, marksWhen]
  cases element.levels with
  | nil => rfl
  | cons level levels =>
    simp only [List.modifyHead_cons, List.map_cons, Level.forbidsNull_under, TypeUse.tags]
    rw [Bool.or_comm outermost, Bool.or_left_comm, Bool.or_assoc]

theorem marksWhen_tags (outermost : Bool) (use : TypeUse) :
    use.marksWhen (outermost || hasNotNull use.tags) = use.marksWhen outermost := by
  fun_cases levels use with
  | case1 element tags =>
    rw [marksWhen_list, marksWhen_list, TypeUse.tags, Bool.or_assoc, Bool.or_self]
  | case2 element tags =>
    rw [marksWhen_publisher, marksWhen_publisher, TypeUse.tags, Bool.or_assoc, Bool.or_self]
  | case3 use notList notPublisher =>
    have alone : use.levels = [⟨[], use⟩] := by
      rw [levels]
      · exact notList
      · exact notPublisher
    rw [marksWhen_alone alone, marksWhen_alone alone, Bool.or_assoc outermost, Bool.or_self]

theorem marksWhen_around (outermost streams : Bool) (use : TypeUse) :
    use.peeled.marksWhen (outermost || hasNotNull use.tags ||
        streams && hasNotNull use.peeled.tags) =
      use.peeled.marksWhen (outermost || hasNotNull use.peeledTags) := by
  have inside : use.peeled.marksWhen (outermost || hasNotNull use.tags ||
      streams && hasNotNull use.peeled.tags) =
        use.peeled.marksWhen (outermost || hasNotNull use.tags) := by
    cases streams with
    | false => rw [Bool.false_and, Bool.or_false]
    | true => rw [Bool.true_and, marksWhen_tags]
  rw [inside]
  fun_cases TypeUse.peeledTags use with
  | case1 element tags => rfl
  | case2 element tags => rfl
  | case3 use notFuture notOptional =>
    have whole : use.peeled = use := by
      rw [peeled]
      · exact notFuture
      · exact notOptional
    rw [whole, marksWhen_tags]
    exact congrArg use.marksWhen (Bool.or_false outermost).symm

end TypeUse

namespace TypeRef

def listDepth : TypeRef → Nat
  | .named _ _ => 0
  | .list element _ => element.listDepth + 1

def marks : TypeRef → List Bool
  | .named _ marked => [marked]
  | .list element marked => marked :: element.marks

theorem length_marks (type : TypeRef) : type.marks.length = type.listDepth + 1 := by
  induction type with
  | named name marked => rfl
  | list element marked ih => exact congrArg (· + 1) ih

end TypeRef

namespace Domain

variable {domain : Domain} {registry before after : Registry} {direction : Direction}
  {context : String} {nonNull : Bool} {use : TypeUse} {type : TypeRef}

/-- The name of a value that is no list: that of its scalar, of JSON for a map, or the one under which
its type is discovered. -/
def NamesValue (domain : Domain) (registry : Registry) (direction : Direction) :
    TypeUse → String → Prop
  | .atom (.primitive kind) _, name => name = kind.scalar
  | .atom (.boxed kind) _, name => name = kind.scalar
  | .atom (.named key) _, name => domain.Denotes registry direction key name
  | .generic .map _ _, name => name = domain.config.jsonScalar
  | _, _ => False

/-- The reference is nested as its use is, names what is innermost, and forbids null on each level
where the use does, and on the outermost also if asked to. -/
structure Follows (domain : Domain) (registry : Registry) (direction : Direction) (outermost : Prop)
    (use : TypeUse) (type : TypeRef) : Prop where
  depth : type.listDepth = use.listDepth
  base : domain.NamesValue registry direction use.innermost type.base
  marked : ∀ place ≤ use.listDepth, ∃ level, use.levels[place]? = some level ∧
    (type.marks[place]? = some true ↔
      hasNotNull level.own.tags = true ∨
        (∃ publisher ∈ level.publishers, hasNotNull publisher.tags = true) ∨
        level.own.isPrimitive = true ∨
        place = 0 ∧ outermost)

def spineShapes : Direction → List Shape
  | .output => [.list, .publisher]
  | .input => [.list]

/-- What conversion makes of a use, with all marks as one list. -/
structure Converts (domain : Domain) (registry : Registry) (direction : Direction) (nonNull : Bool)
    (use : TypeUse) (type : TypeRef) : Prop where
  spine : use.spine ⊆ spineShapes direction
  depth : type.listDepth = use.listDepth
  base : domain.NamesValue registry direction use.innermost type.base
  marks : type.marks = use.marksWhen nonNull

theorem NamesValue.isValue {name : String} (names : domain.NamesValue registry direction use name) :
    use.IsValue := by
  unfold NamesValue at names
  split at names
  · exact TypeUse.isValue_atom _ _
  · exact TypeUse.isValue_atom _ _
  · exact TypeUse.isValue_atom _ _
  · exact TypeUse.isValue_map _ _
  · exact names.elim

namespace Converts

theorem value {name : String} (names : domain.NamesValue registry direction use name) :
    domain.Converts registry direction nonNull use
      (.named name (use.isPrimitive || (nonNull || hasNotNull use.tags))) where
  spine := by
    rw [names.isValue.2.2]
    exact List.nil_subset _
  depth := by
    rw [TypeUse.listDepth, names.isValue.2.2]
    rfl
  base := by rwa [names.isValue.2.1]
  marks := (TypeUse.marksWhen_alone names.isValue.1 nonNull).symm

theorem list {element : TypeUse} (inner : domain.Converts registry direction false element type)
    (tags : List Tag) :
    domain.Converts registry direction nonNull (.generic .list [element] tags)
      (.list type (nonNull || hasNotNull tags)) where
  spine := List.cons_subset.2 ⟨by cases direction <;> decide, inner.spine⟩
  depth := by
    rw [TypeUse.listDepth, TypeUse.spine, List.count_cons_self]
    · exact congrArg (· + 1) inner.depth
    · exact nofun
  base := inner.base
  marks := by rw [TypeUse.marksWhen_list, ← inner.marks]; rfl

theorem publisher {element : TypeUse} {tags : List Tag}
    (inner : domain.Converts registry .output (nonNull || hasNotNull tags) element type) :
    domain.Converts registry .output nonNull (.generic .publisher [element] tags) type where
  spine := List.cons_subset.2 ⟨by decide, inner.spine⟩
  depth := by
    rw [TypeUse.listDepth, TypeUse.spine, List.count_cons_of_ne (by decide)]
    · exact inner.depth
    · exact nofun
  base := inner.base
  marks := by rw [TypeUse.marksWhen_publisher, ← inner.marks]

end Converts

theorem namesValue_scalar {kind : ValueKind} (spelled : use.valueKind? = some kind) :
    domain.NamesValue registry direction use kind.scalar := by
  unfold TypeUse.valueKind? at spelled
  split at spelled
  · cases spelled
    rfl
  · cases spelled
    rfl
  · cases spelled

theorem converts_reference {key : TypeKey} {tags : List Tag} {found : TypeDescriptor}
    (present : domain.catalog.lookup? key = some found)
    (given : Gives (domain.reference found direction) before type after) :
    domain.Converts after direction nonNull (.atom (.named key) tags)
      (type.markIf (nonNull || hasNotNull tags)) := by
  have denotes := denotes_reference present given
  obtain ⟨name, -, rfl⟩ := gives_reference given
  exact .value denotes

theorem converts_typeRef
    (given : Gives (domain.typeRef direction context nonNull use) before type after) :
    domain.Converts after direction nonNull use type := by
  revert type
  fun_induction domain.typeRef direction context nonNull use with
  | case1 | case8 | case9 | case10 => exact fun given => (gives_throw.1 given).elim
  | case2 =>
    rename_i classified
    intro type given
    obtain ⟨spelled, rfl⟩ := Catalog.classify_iff.1 classified
    obtain ⟨rfl, rfl⟩ := gives_pure.1 given
    exact .value (namesValue_scalar spelled)
  | case3 =>
    rename_i classified
    intro type given
    obtain ⟨args, tags, rfl⟩ := Catalog.classify_iff.1 classified
    obtain ⟨rfl, rfl⟩ := gives_pure.1 given
    exact .value rfl
  | case4 | case5 =>
    rename_i classified
    intro type given
    obtain ⟨key, tags, rfl, present, -⟩ := Catalog.classify_iff.1 classified
    simp only [gives_bind, gives_pure] at given
    obtain ⟨reference, _, referred, rfl, rfl⟩ := given
    exact converts_reference present referred
  | case6 =>
    rename_i classified ih
    intro type given
    obtain ⟨tags, rfl⟩ := Catalog.classify_iff.1 classified
    simp only [gives_bind, gives_pure] at given
    obtain ⟨element, _, inner, rfl, rfl⟩ := given
    exact (ih inner).list tags
  | case7 =>
    rename_i classified ih
    intro type given
    obtain ⟨tags, rfl⟩ := Catalog.classify_iff.1 classified
    -- What forbids null outside a publisher is passed on into it.
    exact (ih given).publisher

theorem isPublisher_of_classify {classification : Classification}
    (classified : domain.catalog.classify use = .ok classification) :
    classification.isPublisher = use.isPublisher := by
  fun_cases TypeUse.isPublisher use with
  | case1 element tags =>
    cases classified
    rfl
  | case2 use other =>
    cases classification with
    | publisher element =>
      obtain ⟨tags, rfl⟩ := Catalog.classify_iff.1 classified
      exact (other element tags rfl).elim
    | _ => rfl

theorem unwrapped_of_classify {classification : Classification}
    (classified : domain.catalog.classify use = .ok classification) :
    classification.unwrapped use = use.peeled := by
  fun_cases TypeUse.peeled use with
  | case1 element tags =>
    cases classified
    rfl
  | case2 element tags =>
    cases classified
    rfl
  | case3 use notFuture notOptional =>
    cases classification with
    | asyncWrapper element =>
      obtain ⟨shape, tags, rfl | rfl, rfl⟩ := Catalog.classify_iff.1 classified
      · exact (notFuture element tags rfl).elim
      · exact (notOptional element tags rfl).elim
    | _ => rfl

theorem converts_fieldType {shape : FieldShape}
    (given : Gives (domain.fieldType context nonNull use) before (type, shape) after) :
    domain.Converts after .output (nonNull || hasNotNull use.peeledTags) use.peeled type ∧
      shape = .of use.peeled.isPublisher type := by
  unfold fieldType at given
  simp only [gives_bind, gives_liftM, gives_pure, Prod.mk.injEq] at given
  obtain ⟨classification, _, ⟨classified, rfl⟩, inside, _, ⟨again, rfl⟩, type, _, referred,
    ⟨rfl, rfl⟩, rfl⟩ := given
  rw [unwrapped_of_classify classified] at again referred
  have converts := converts_typeRef referred
  refine ⟨{ converts with marks := ?_ }, by rw [isPublisher_of_classify again]⟩
  rw [converts.marks, TypeUse.marksWhen_around]

theorem Converts.length_levels (converts : domain.Converts registry direction nonNull use type) :
    use.levels.length = use.listDepth + 1 := by
  have marks := congrArg List.length converts.marks
  rw [TypeUse.marksWhen, List.length_modifyHead, List.length_map, TypeRef.length_marks] at marks
  rw [← marks, converts.depth]

theorem Converts.follows (converts : domain.Converts registry direction nonNull use type) :
    domain.Follows registry direction (nonNull = true) use type where
  depth := converts.depth
  base := converts.base
  marked place bound := by
    have inside : place < use.levels.length := by
      rw [converts.length_levels]
      exact Nat.lt_succ_of_le bound
    have there := List.getElem?_eq_getElem inside
    have mark : type.marks[place]? =
        some (use.levels[place].forbidsNull || decide (place = 0) && nonNull) := by
      rw [converts.marks, TypeUse.marksWhen, List.getElem?_modifyHead, List.getElem?_map, there]
      cases place with
      | zero => simp
      | succ place => simp
    refine ⟨_, there, ?_⟩
    rw [mark, Option.some.injEq, Bool.or_eq_true, Bool.and_eq_true, decide_eq_true_iff,
      Level.forbidsNull_iff, or_assoc, or_assoc]

theorem stream_iff (isStream : Bool) (type : TypeRef) :
    FieldShape.of isStream type = .stream ↔ isStream = true := by
  cases isStream <;> cases type <;> simp [FieldShape.of, TypeRef.isList]

theorem list_iff (isStream : Bool) (type : TypeRef) :
    FieldShape.of isStream type = .list ↔ isStream = false ∧ 0 < type.listDepth := by
  cases isStream <;> cases type <;> simp [FieldShape.of, TypeRef.isList, TypeRef.listDepth]

/-- The reference of a field and that of a value that is passed in follow their uses. Around a result
there may be one future or optional, and publishers inside it; around a value that is passed in
there are only lists. -/
theorem references_follow (domain : Domain) (before after : Registry) (context : String)
    (nonNull : Bool) (use : TypeUse) (type : TypeRef) :
    (∀ shape, Gives (domain.fieldType context nonNull use) before (type, shape) after →
      domain.Follows after .output (nonNull = true ∨ hasNotNull use.peeledTags = true) use.peeled
        type ∧
      (∀ around ∈ use.peeled.spine, around = .list ∨ around = .publisher) ∧
      (shape = .stream ↔ use.peeled.isPublisher = true) ∧
      (shape = .list ↔ use.peeled.isPublisher = false ∧ 0 < use.peeled.listDepth)) ∧
    (Gives (domain.typeRef .input context nonNull use) before type after →
      domain.Follows after .input (nonNull = true) use type ∧
      ∀ around ∈ use.spine, around = .list) := by
  constructor
  · intro shape given
    obtain ⟨converts, rfl⟩ := converts_fieldType given
    have follows := converts.follows
    rw [Bool.or_eq_true] at follows
    refine ⟨follows, fun around member => ?_, stream_iff _ _, ?_⟩
    · simpa [spineShapes] using converts.spine member
    · rw [← converts.depth]
      exact list_iff _ _
  · intro given
    have converts := converts_typeRef given
    refine ⟨converts.follows, fun around member => ?_⟩
    simpa [spineShapes] using converts.spine member

def depot : Domain where
  catalog := .ofTypes [
    { key := ⟨"depot::Parcel"⟩, tags := [.inputType (some "ParcelInput") []] }]

/-- Loads of parcels as they arrive, each load in batches: a future publisher of lists of publishers of
lists. -/
def arrivals : TypeUse :=
  .generic .future [.generic .publisher [.generic .list [.generic .publisher [.generic .list
    [.atom (.named ⟨"depot::Parcel"⟩) []] []] [.notNull]] []] []] [.notNull]

/-- Parcels in batches, where a batch is never left out. -/
def batches : TypeUse :=
  .generic .list [.generic .list [.atom (.named ⟨"depot::Parcel"⟩) []] [.notNull]] []

theorem references_follow_depot :
    (∃ after, Gives (depot.fieldType "Depot.arrivals" false arrivals) .empty
        (.list (.list (.named "Parcel" false) true) true, .stream) after ∧
      depot.Follows after .output (false = true ∨ hasNotNull arrivals.peeledTags = true)
        arrivals.peeled (.list (.list (.named "Parcel" false) true) true)) ∧
    ∃ after, Gives (depot.typeRef .input "Depot.send(batches)" false batches) .empty
        (.list (.list (.named "ParcelInput" false) true) false) after ∧
      depot.Follows after .input (false = true) batches
        (.list (.list (.named "ParcelInput" false) true) false) := by
  have output : ((depot.fieldType "Depot.arrivals" false arrivals).run.run .empty).run.1.toOption =
      some (.list (.list (.named "Parcel" false) true) true, .stream) := by
    decide +kernel
  have input : ((depot.typeRef .input "Depot.send(batches)" false batches).run.run
      .empty).run.1.toOption = some (.list (.list (.named "ParcelInput" false) true) false) := by
    decide +kernel
  obtain ⟨first, result⟩ := gives_observed output
  obtain ⟨second, passed⟩ := gives_observed input
  exact ⟨⟨first, result, ((references_follow ..).1 .stream result).1⟩,
    second, passed, ((references_follow ..).2 passed).1⟩

end Domain

end SchemaDiscovery
