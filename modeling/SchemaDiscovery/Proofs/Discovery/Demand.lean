import SchemaDiscovery.Proofs.Discovery.Nullability
/-!
The types that discovery is asked for. Main statement: the steps that make fields ask in output only for
the types that the results of the methods name.
-/

namespace SchemaDiscovery

namespace Catalog

variable {catalog : Catalog} {key : TypeKey} {use : TypeUse} {classification : Classification}

theorem names_of_spelled {type : TypeDescriptor} {P : Prop}
    (spelled : ∃ key tags, use = .atom (.named key) tags ∧ catalog.lookup? key = some type ∧ P) :
    use.Names type.key := by
  obtain ⟨key, tags, rfl, found, -⟩ := spelled
  rw [key_of_lookup found]
  exact .atom tags

theorem names_of_element {element : TypeUse} (names : element.Names key)
    (classified : catalog.classify use = .ok classification)
    (has : classification.element? = some element) : use.Names key := by
  have spells := classify_iff.1 classified
  cases classification with
  | list element =>
    cases has
    obtain ⟨tags, rfl⟩ := spells
    exact .inside nofun names
  | asyncWrapper element =>
    cases has
    obtain ⟨shape, tags, rfl | rfl, rfl⟩ := spells
    · exact .inside nofun names
    · exact .inside nofun names
  | publisher element =>
    cases has
    obtain ⟨tags, rfl⟩ := spells
    exact .inside nofun names
  | _ => cases has

theorem names_of_unwrapped (names : (classification.unwrapped use).Names key)
    (classified : catalog.classify use = .ok classification) : use.Names key := by
  cases classification with
  | asyncWrapper element => exact names_of_element names classified rfl
  | _ => exact names

end Catalog

namespace Domain

variable {domain : Domain} {asked : TypeKey → Prop} {registry before between after : Registry}
  {direction : Direction} {key : TypeKey}

/-- Types are discovered one after the other. In output they are types that are asked for. -/
inductive Seeks (domain : Domain) (asked : TypeKey → Prop) : Registry → Registry → Prop
  | refl {registry : Registry} : Seeks domain asked registry registry
  | discover {before between after : Registry} {direction : Direction} {key : TypeKey} {name : String}
    (asks : direction = .output → asked key)
    (discovered : domain.discover before key direction.kind = (.ok name, between))
    (rest : Seeks domain asked between after) : Seeks domain asked before after

namespace Seeks

theorem trans (first : domain.Seeks asked before between) (second : domain.Seeks asked between after) :
    domain.Seeks asked before after := by
  induction first with
  | refl => exact second
  | discover asks discovered _ ih => exact .discover asks discovered (ih second)

theorem mapM {α β : Type} {step : α → Discovering β} {items : List α} {values : List β}
    (given : Gives (items.mapM step) before values after)
    (orderly : ∀ item, (step item).Orderly domain)
    (each : ∀ item ∈ items, ∀ start value finish, Gives (step item) start value finish →
      finish.Grows after → domain.Seeks asked start finish) :
    domain.Seeks asked before after := by
  induction items generalizing before values with
  | nil =>
    rw [List.mapM_nil] at given
    obtain ⟨-, rfl⟩ := gives_pure.1 given
    exact .refl
  | cons item items ih =>
    rw [List.mapM_cons] at given
    simp only [gives_bind, gives_pure] at given
    obtain ⟨value, between, here, rest, _, there, -, rfl⟩ := given
    have grows := ((Discovering.Orderly.mapM orderly items).reaches_of_gives there).grows
    have first := each item List.mem_cons_self _ _ _ here grows
    exact first.trans (ih there fun other member => each other (List.mem_cons_of_mem _ member))

end Seeks

theorem seeks_reference {type : TypeDescriptor} {result : TypeRef}
    (given : Gives (domain.reference type direction) before result after)
    (asks : direction = .output → asked type.key) : domain.Seeks asked before after := by
  obtain ⟨name, discovered, -⟩ := gives_reference given
  exact .discover asks discovered .refl

theorem seeks_typeRef {context : String} {nonNull : Bool} {use : TypeUse} {result : TypeRef}
    (given : Gives (domain.typeRef direction context nonNull use) before result after)
    (asks : direction = .output → ∀ key, use.Names key → asked key) :
    domain.Seeks asked before after := by
  revert result
  fun_induction domain.typeRef direction context nonNull use with
  | case1 | case8 | case9 | case10 => exact fun given => (gives_throw.1 given).elim
  | case2 | case3 =>
    intro result given
    obtain ⟨-, rfl⟩ := gives_pure.1 given
    exact .refl
  | case4 | case5 =>
    rename_i classified
    intro result given
    simp only [gives_bind, gives_pure] at given
    obtain ⟨type, _, referred, -, rfl⟩ := given
    exact seeks_reference referred fun output =>
      asks output _ (Catalog.names_of_spelled (Catalog.classify_iff.1 classified))
  | case6 =>
    rename_i classified ih
    intro result given
    simp only [gives_bind, gives_pure] at given
    obtain ⟨element, _, inner, -, rfl⟩ := given
    exact ih
      (fun output key names => asks output key (Catalog.names_of_element names classified rfl)) inner
  | case7 =>
    rename_i classified ih
    exact ih fun output key names => asks output key (Catalog.names_of_element names classified rfl)

theorem seeks_fieldType {context : String} {nonNull : Bool} {use : TypeUse} {result : TypeRef}
    {shape : FieldShape}
    (given : Gives (domain.fieldType context nonNull use) before (result, shape) after)
    (asks : ∀ key, use.Names key → asked key) : domain.Seeks asked before after := by
  unfold fieldType at given
  simp only [gives_bind, gives_liftM, gives_pure, Prod.mk.injEq] at given
  obtain ⟨_, _, ⟨classified, rfl⟩, _, _, ⟨-, rfl⟩, type, _, referred, -, rfl⟩ := given
  exact seeks_typeRef referred fun _ key names => asks key (Catalog.names_of_unwrapped names classified)

theorem seeks_inputValue {name context : String} {metadata : Metadata} {use : TypeUse}
    {value : InputValue}
    (given : Gives (domain.inputValue name context metadata use) before value after) :
    domain.Seeks asked before after := by
  obtain ⟨-, referred, -⟩ := inputValue_ok given
  exact seeks_typeRef referred nofun

theorem seeks_inputValues {name : String} {type : TypeDescriptor} {values : List InputValue}
    (given : Gives (domain.inputValues name type) before values after) :
    domain.Seeks asked before after := by
  unfold inputValues at given
  simp only [gives_bind] at given
  obtain ⟨made, between, each, given⟩ := given
  split at given
  · exact (gives_throw.1 given).elim
  · obtain ⟨-, rfl⟩ := gives_pure.1 given
    exact .mapM each (fun _ => orderly_inputValue ..) fun _ _ _ _ _ here _ => seeks_inputValue here

/-- A field was made from the signature, the result of which names the type. -/
def Yields (domain : Domain) (registry : Registry) (signature : Signature) (key : TypeKey) : Prop :=
  (∃ field, domain.Makes registry signature field) ∧
    ∃ returns ∈ signature.method.returns, returns.Names key

theorem Yields.of_grows {signature : Signature} (yields : domain.Yields before signature key)
    (grows : before.Grows after) : domain.Yields after signature key := by
  obtain ⟨⟨field, makes⟩, returns⟩ := yields
  exact ⟨⟨field, makes.of_grows grows⟩, returns⟩

theorem seeks_field (signature : Signature) {result : Option BoundField}
    (given : Gives (domain.field? signature.storage signature.source signature.skipFirst
      signature.method) before result after)
    (grows : after.Grows registry) (asks : ∀ key, domain.Yields registry signature key → asked key) :
    domain.Seeks asked before after := by
  cases result with
  | none =>
    dsimp only [field?] at given
    split at given
    · simp only [gives_bind, gives_pure, reduceCtorEq, false_and, and_false, exists_false] at given
    · obtain ⟨-, rfl⟩ := gives_pure.1 given
      exact .refl
  | some field =>
    obtain ⟨returns, typed, _, context, some, first, second⟩ := field_ok given
    have result := seeks_fieldType first fun key names =>
      asks key ⟨⟨field, before, after, given, grows⟩, returns, some, names⟩
    exact result.trans (.mapM second (orderly_argument context)
      fun _ _ _ _ _ here _ => seeks_inputValue here)

theorem seeks_fields {storage : Storage} {skipFirst : Bool} {methods : List (String × Method)}
    {fields : List BoundField}
    (given : Gives (domain.fields storage skipFirst methods) before fields after)
    (asks : ∀ method ∈ methods, ∀ key,
      domain.Yields after ⟨storage, method.1, skipFirst, method.2⟩ key → asked key) :
    domain.Seeks asked before after := by
  unfold Domain.fields at given
  simp only [gives_bind, gives_pure] at given
  obtain ⟨made, _, each, -, rfl⟩ := given
  exact .mapM each (fun _ => orderly_field ..) fun method listed _ _ _ here grows =>
    seeks_field ⟨storage, method.1, skipFirst, method.2⟩ here grows (asks method listed)

theorem seeks_declaredFields {type : TypeDescriptor} {kind : TypeKind} {fields : List BoundField}
    (given : Gives (domain.declaredFields type kind) before fields after)
    (asks : ∀ signature ∈ domain.catalog.signatures type kind, ∀ key,
      domain.Yields after signature key → asked key) : domain.Seeks asked before after := by
  refine seeks_fields given fun method listed => ?_
  obtain ⟨collected, present, rfl⟩ := List.mem_map.1 listed
  exact asks _ (List.mem_map_of_mem present)

theorem seeks_contributedFields {resolver : Resolver} {fields : List BoundField}
    (given : Gives (domain.contributedFields resolver) before fields after)
    (asks : ∀ signature ∈ resolver.signatures, ∀ key, domain.Yields after signature key → asked key) :
    domain.Seeks asked before after := by
  refine seeks_fields given fun method listed => ?_
  obtain ⟨method, present, rfl⟩ := List.mem_map.1 listed
  exact asks _ (List.mem_map_of_mem present)

end Domain

end SchemaDiscovery
