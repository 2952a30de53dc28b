import SchemaDiscovery.Proofs.Discovery.FieldNames
import SchemaDiscovery.Proofs.Discovery.References
import SchemaDiscovery.Proofs.Discovery.Signature
/-!
The types that references stand for. Main statement: a reference made from a use that names a type
goes by the name of that type in the role it is discovered in, which is recorded with this role.
-/

namespace SchemaDiscovery

/-- The use names the type of the key, if need be inside lists and wrappers. What a map holds is not
referred to. -/
inductive TypeUse.Names (key : TypeKey) : TypeUse → Prop
  | atom (tags : List Tag) : Names key (.atom (.named key) tags)
  | inside {shape : Shape} {element : TypeUse} {tags : List Tag} (formed : shape ≠ .map)
    (part : Names key element) : Names key (.generic shape [element] tags)

def Catalog.Keeps (catalog : Catalog) (key : TypeKey) : Classification → Prop
  | .scalar _ _ => False
  | .map => False
  | .enum type => catalog.lookup? key = some type
  | .named type => catalog.lookup? key = some type
  | .list element => element.Names key
  | .asyncWrapper element => element.Names key
  | .publisher element => element.Names key

theorem Catalog.keeps_of_classify {catalog : Catalog} {key : TypeKey} {use : TypeUse}
    {classification : Classification} (names : use.Names key)
    (classified : catalog.classify use = .ok classification) :
    catalog.Keeps key classification := by
  cases names with
  | atom tags =>
    change (do
      let type ← catalog.require key
      return if type.isEnum then Classification.enum type else .named type) = _ at classified
    cases found : catalog.lookup? key with
    | none =>
      rw [require, found] at classified
      cases classified
    | some type =>
      rw [require, found] at classified
      cases classified
      split
      · exact found
      · exact found
  | @inside shape element tags formed part =>
    cases shape with
    | map => exact absurd rfl formed
    | other name => cases classified
    | list =>
      cases classified
      exact part
    | future =>
      cases classified
      exact part
    | optional =>
      cases classified
      exact part
    | publisher =>
      cases classified
      exact part

theorem Catalog.names_unwrapped {catalog : Catalog} {key : TypeKey} {use : TypeUse}
    {classification : Classification} (names : use.Names key)
    (classified : catalog.classify use = .ok classification) :
    (classification.unwrapped use).Names key := by
  have keeps := keeps_of_classify names classified
  cases classification with
  | asyncWrapper element => exact keeps
  | _ => exact names

/-- What a field refers to: its own type and those of its arguments. -/
def FieldDefinition.references (field : FieldDefinition) : List (Direction × TypeRef) :=
  (.output, field.type) :: field.arguments.map (.input, ·.type)

/-- The references of a field, each with the use in the signature that it is made from. -/
def Signature.uses (signature : Signature) (field : FieldDefinition) :
    List (Direction × TypeUse × TypeRef) :=
  let parameters := Domain.argumentParameters signature.method signature.skipFirst
  signature.method.returns.toList.map (.output, ·, field.type) ++
    (parameters.zip field.arguments).map fun pair => (.input, pair.1.type, pair.2.type)

namespace Domain

variable {domain : Domain} {registry before after : Registry} {direction : Direction}
  {key : TypeKey}

/-- The name is that of the type in the role that it takes on in the direction, and is recorded with
this role. -/
def Denotes (domain : Domain) (registry : Registry) (direction : Direction) (key : TypeKey)
    (name : String) : Prop :=
  ∃ type kind, domain.catalog.lookup? key = some type ∧
    type.kindWhen direction.kind = .ok kind ∧ type.schemaName kind = name ∧
    registry.kindOf? name = some kind

theorem Denotes.of_grows {name : String} (denotes : domain.Denotes before direction key name)
    (grows : before.Grows after) : domain.Denotes after direction key name := by
  obtain ⟨type, kind, present, chosen, named, recorded⟩ := denotes
  exact ⟨type, kind, present, chosen, named, grows.kindOf recorded⟩

theorem denotes_reference {type : TypeDescriptor} {result : TypeRef}
    (present : domain.catalog.lookup? key = some type)
    (given : Gives (domain.reference type direction) before result after) :
    domain.Denotes after direction key result.base := by
  obtain ⟨name, discovered, rfl⟩ := gives_reference given
  obtain ⟨⟨known, kind, again, chosen, named, recorded⟩, -⟩ := discover_ok discovered
  rw [Catalog.key_of_lookup present] at again
  exact ⟨known, kind, again, chosen, named.symm, recorded⟩

theorem denotes_typeRef {context : String} {nonNull : Bool} {use : TypeUse} {result : TypeRef}
    (given : Gives (domain.typeRef direction context nonNull use) before result after)
    (names : use.Names key) : domain.Denotes after direction key result.base := by
  revert result
  fun_induction domain.typeRef direction context nonNull use with
  | case1 | case8 | case9 | case10 => exact fun given => (gives_throw.1 given).elim
  | case2 _ _ _ _ _ _ classified => exact (Catalog.keeps_of_classify names classified).elim
  | case3 _ _ _ _ classified => exact (Catalog.keeps_of_classify names classified).elim
  | case4 | case5 =>
    rename_i classified
    intro result given
    simp only [gives_bind, gives_pure] at given
    obtain ⟨type, _, referred, rfl, rfl⟩ := given
    rw [TypeRef.base_markIf]
    exact denotes_reference (Catalog.keeps_of_classify names classified) referred
  | case6 =>
    rename_i classified ih
    intro result given
    simp only [gives_bind, gives_pure] at given
    obtain ⟨element, _, inner, rfl, rfl⟩ := given
    have denotes := ih (Catalog.keeps_of_classify names classified) inner
    exact denotes
  | case7 =>
    rename_i classified ih
    exact ih (Catalog.keeps_of_classify names classified)

theorem denotes_fieldType {context : String} {nonNull : Bool} {use : TypeUse} {result : TypeRef}
    {shape : FieldShape}
    (given : Gives (domain.fieldType context nonNull use) before (result, shape) after)
    (names : use.Names key) : domain.Denotes after .output key result.base := by
  unfold fieldType at given
  simp only [gives_bind, gives_liftM, gives_pure, Prod.mk.injEq] at given
  obtain ⟨_, _, ⟨classified, rfl⟩, _, _, ⟨-, rfl⟩, type, _, referred, ⟨rfl, rfl⟩, rfl⟩ := given
  exact denotes_typeRef referred (Catalog.names_unwrapped names classified)

theorem denotes_inputValue {name context : String} {metadata : Metadata} {use : TypeUse}
    {value : InputValue}
    (given : Gives (domain.inputValue name context metadata use) before value after)
    (names : use.Names key) : domain.Denotes after .input key value.type.base := by
  unfold inputValue at given
  simp only [gives_bind, gives_liftM, gives_pure] at given
  obtain ⟨type, _, referred, default, _, ⟨-, rfl⟩, rfl, rfl⟩ := given
  exact denotes_typeRef referred names

theorem Makes.named {signature : Signature} {field : BoundField}
    (makes : domain.Makes registry signature field) :
    signature.storage.fieldName? signature.method = some field.definition.name := by
  obtain ⟨before, after, given, -⟩ := makes
  exact (name_of_field given).symm

theorem Makes.denotes {signature : Signature} {field : BoundField} {use : TypeUse}
    {reference : TypeRef} (makes : domain.Makes registry signature field)
    (member : (direction, use, reference) ∈ signature.uses field.definition)
    (names : use.Names key) : domain.Denotes registry direction key reference.base := by
  obtain ⟨before, after, given, grows⟩ := makes
  obtain ⟨returns, typed, nonNull, context, some, first, second⟩ := field_ok given
  rcases List.mem_append.1 member with result | argument
  · rw [some] at result
    obtain ⟨_, here, same⟩ := List.mem_map.1 result
    cases List.mem_singleton.1 here
    cases same
    have reached := (Discovering.Orderly.mapM (orderly_argument context) _).reaches_of_gives second
    exact (denotes_fieldType first names).of_grows (reached.grows.trans grows)
  · obtain ⟨⟨param, value⟩, paired, same⟩ := List.mem_map.1 argument
    cases same
    have made := Discovering.Orderly.forall_of_gives_mapM (orderly_argument context) second
    obtain ⟨start, finish, here, later⟩ := (List.forall₂_iff_zip.1 made).2 paired
    exact (denotes_inputValue here names).of_grows (later.grows.trans grows)

theorem Makes.references {signature : Signature} {field : BoundField}
    (makes : domain.Makes registry signature field) :
    (signature.uses field.definition).map (fun (direction, _, reference) => (direction, reference)) =
      field.definition.references := by
  obtain ⟨before, after, given, -⟩ := makes
  obtain ⟨returns, typed, nonNull, context, some, -, second⟩ := field_ok given
  have made := Discovering.Orderly.forall_of_gives_mapM (orderly_argument context) second
  have arguments : (((argumentParameters signature.method signature.skipFirst).zip
      field.definition.arguments).map Prod.snd) = field.definition.arguments :=
    List.map_snd_zip (Nat.le_of_eq made.length_eq.symm)
  unfold Signature.uses FieldDefinition.references
  rw [some, List.map_append, List.map_map, List.map_map]
  conv_rhs => rw [← arguments, List.map_map]
  rfl

def MakesValue (domain : Domain) (registry : Registry) (field : InputField) (value : InputValue) :
    Prop :=
  ∃ context before after, Gives (domain.inputValue field.name context field.metadata field.type)
    before value after ∧ after.Grows registry

theorem MakesValue.of_grows {field : InputField} {value : InputValue}
    (makes : domain.MakesValue before field value) (grows : before.Grows after) :
    domain.MakesValue after field value := by
  obtain ⟨context, start, finish, given, later⟩ := makes
  exact ⟨context, start, finish, given, later.trans grows⟩

theorem MakesValue.denotes {field : InputField} {value : InputValue}
    (makes : domain.MakesValue registry field value) (names : field.type.Names key) :
    domain.Denotes registry .input key value.type.base := by
  obtain ⟨context, before, after, given, grows⟩ := makes
  exact (denotes_inputValue given names).of_grows grows

theorem makesValues_of_inputValues {name : String} {type : TypeDescriptor}
    {values : List InputValue} (given : Gives (domain.inputValues name type) before values after) :
    List.Forall₂ (domain.MakesValue after) (domain.catalog.inputFieldsOf type) values := by
  unfold inputValues at given
  simp only [gives_bind] at given
  obtain ⟨made, between, each, rest⟩ := given
  split at rest
  · exact (gives_throw.1 rest).elim
  · obtain ⟨rfl, rfl⟩ := gives_pure.1 rest
    have all := Discovering.Orderly.forall_of_gives_mapM (fun _ => orderly_inputValue ..) each
    refine all.imp fun field value made => ?_
    obtain ⟨start, finish, here, later⟩ := made
    exact ⟨_, start, finish, here, later.grows⟩

end Domain

end SchemaDiscovery
