import SchemaDiscovery.Definition.Scalar
import SchemaDiscovery.Proofs.Definition.Parts
import SchemaDiscovery.Proofs.Discovery.Orderly
/-!
The names that fields and input values refer to. Main statement: each is a scalar or is recorded in
the registry, with a kind that fits the direction of the reference.
-/

namespace SchemaDiscovery

/-- The kinds of types that can be named in a direction. -/
def Direction.Admits : Direction → TypeKind → Prop
  | .output, kind => kind = .object ∨ kind = .interface ∨ kind = .enum
  | .input, kind => kind = .input ∨ kind = .enum

theorem admits_of_kindWhen {type : TypeDescriptor} {direction : Direction} {kind : TypeKind}
    (discovered : type.kindWhen direction.kind = .ok kind) : direction.Admits kind := by
  unfold TypeDescriptor.kindWhen at discovered
  cases direction with
  | output =>
    simp only [Direction.kind, Direction.Admits] at discovered ⊢
    split at discovered
    · cases discovered
      simp
    · split at discovered <;> simp_all
  | input =>
    simp only [Direction.kind, Direction.Admits] at discovered ⊢
    split at discovered
    · cases discovered
      simp
    · split at discovered <;> simp_all

theorem mem_customScalars {jsonScalar name : String}
    (scalar : (∃ kind : ValueKind, kind.scalar = name) ∨ name = jsonScalar) :
    isBuiltinScalar name ∨ name ∈ customScalars jsonScalar := by
  by_cases builtin : isBuiltinScalar name
  · exact .inl builtin
  · refine .inr (List.mem_eraseDups.2 (List.mem_filter.2 ⟨List.mem_append.2 ?_, by simp [builtin]⟩))
    rcases scalar with ⟨kind, rfl⟩ | rfl
    · refine .inl (List.mem_map_of_mem ?_)
      cases kind <;> decide
    · exact .inr List.mem_cons_self

namespace Domain

variable {domain : Domain} {registry before after : Registry} {direction : Direction}

/-- The name is that of a scalar, or recorded with a kind that can be named in the direction. -/
def Resolves (domain : Domain) (registry : Registry) (direction : Direction) (name : String) :
    Prop :=
  isBuiltinScalar name ∨ name ∈ customScalars domain.config.jsonScalar ∨
    ∃ kind, registry.kindOf? name = some kind ∧ direction.Admits kind

theorem resolves_of_grows {name : String} (resolves : domain.Resolves before direction name)
    (grows : before.Grows after) : domain.Resolves after direction name := by
  rcases resolves with builtin | custom | ⟨kind, recorded, admitted⟩
  · exact .inl builtin
  · exact .inr (.inl custom)
  · exact .inr (.inr ⟨kind, grows.kindOf recorded, admitted⟩)

theorem resolves_of_scalar {name : String}
    (scalar : (∃ kind : ValueKind, kind.scalar = name) ∨ name = domain.config.jsonScalar) :
    domain.Resolves registry direction name :=
  (mem_customScalars scalar).imp_right .inl

theorem resolves_reference {type : TypeDescriptor} {result : TypeRef}
    (given : Gives (domain.reference type direction) before result after) :
    domain.Resolves after direction result.base := by
  obtain ⟨name, discovered, rfl⟩ := gives_reference given
  obtain ⟨⟨_, kind, -, role, -, recorded⟩, -⟩ := discover_ok discovered
  exact .inr (.inr ⟨kind, recorded, admits_of_kindWhen role⟩)

theorem resolves_typeRef {context : String} {nonNull : Bool} {use : TypeUse} {result : TypeRef}
    (given : Gives (domain.typeRef direction context nonNull use) before result after) :
    domain.Resolves after direction result.base := by
  revert result
  fun_induction domain.typeRef direction context nonNull use with
  | case1 | case8 | case9 | case10 => exact fun given => (gives_throw.1 given).elim
  | case2 _ _ _ _ kind =>
    intro result given
    obtain ⟨rfl, rfl⟩ := gives_pure.1 given
    rw [TypeRef.base_markIf]
    exact resolves_of_scalar (.inl ⟨kind, rfl⟩)
  | case3 =>
    intro result given
    obtain ⟨rfl, rfl⟩ := gives_pure.1 given
    exact resolves_of_scalar (.inr rfl)
  | case4 | case5 =>
    intro result given
    simp only [gives_bind, gives_pure] at given
    obtain ⟨type, _, referred, rfl, rfl⟩ := given
    rw [TypeRef.base_markIf]
    exact resolves_reference referred
  | case6 =>
    rename_i ih
    intro result given
    simp only [gives_bind, gives_pure] at given
    obtain ⟨element, _, inner, rfl, rfl⟩ := given
    have resolves := ih inner
    exact resolves
  | case7 =>
    rename_i ih
    exact ih

theorem resolves_fieldType {context : String} {nonNull : Bool} {use : TypeUse} {result : TypeRef}
    {shape : FieldShape}
    (given : Gives (domain.fieldType context nonNull use) before (result, shape) after) :
    domain.Resolves after .output result.base := by
  unfold fieldType at given
  simp only [gives_bind, gives_pure, Prod.mk.injEq] at given
  obtain ⟨_, _, -, _, _, -, type, _, referred, ⟨rfl, rfl⟩, rfl⟩ := given
  exact resolves_typeRef referred

theorem resolves_inputValue {name context : String} {metadata : Metadata} {use : TypeUse}
    {value : InputValue}
    (given : Gives (domain.inputValue name context metadata use) before value after) :
    domain.Resolves after .input value.type.base := by
  unfold inputValue at given
  simp only [gives_bind, gives_liftM, gives_pure] at given
  obtain ⟨type, _, referred, default, _, ⟨-, rfl⟩, rfl, rfl⟩ := given
  exact resolves_typeRef referred

def ResolvesValues (domain : Domain) (registry : Registry) (values : List InputValue) : Prop :=
  ∀ value ∈ values, domain.Resolves registry .input value.type.base

def ResolvesFields (domain : Domain) (registry : Registry) (fields : List FieldDefinition) :
    Prop :=
  ∀ field ∈ fields, domain.Resolves registry .output field.type.base ∧
    domain.ResolvesValues registry field.arguments

theorem ResolvesValues.of_grows {values : List InputValue}
    (resolves : domain.ResolvesValues before values) (grows : before.Grows after) :
    domain.ResolvesValues after values :=
  fun value member => resolves_of_grows (resolves value member) grows

theorem ResolvesFields.of_grows {fields : List FieldDefinition}
    (resolves : domain.ResolvesFields before fields) (grows : before.Grows after) :
    domain.ResolvesFields after fields :=
  fun field member => ⟨resolves_of_grows (resolves field member).1 grows,
    (resolves field member).2.of_grows grows⟩

theorem resolves_argument {context : String} {param : Parameter} {value : InputValue}
    (given : Gives (domain.argument context param) before value after) :
    domain.Resolves after .input value.type.base :=
  resolves_inputValue given

theorem resolves_field {storage : Storage} {source : String} {skipFirst : Bool} {method : Method}
    {field : BoundField}
    (given : Gives (domain.field? storage source skipFirst method) before (some field) after) :
    domain.Resolves after .output field.definition.type.base ∧
      domain.ResolvesValues after field.definition.arguments := by
  dsimp only [field?] at given
  split at given
  · simp only [gives_bind, gives_pure, Option.some.injEq] at given
    obtain ⟨⟨type, shape⟩, between, typed, arguments, _, passed, rfl, rfl⟩ := given
    have reached := (Discovering.Orderly.mapM (orderly_argument _) _).reaches_of_gives passed
    refine ⟨resolves_of_grows (resolves_fieldType typed) reached.grows, ?_⟩
    intro value member
    obtain ⟨param, -, start, finish, here, later⟩ :=
      Discovering.Orderly.item_of_gives_mapM (orderly_argument _) passed member
    exact resolves_of_grows (resolves_argument here) later.grows
  · obtain ⟨same, -⟩ := gives_pure.1 given
    cases same

theorem resolves_fields {storage : Storage} {skipFirst : Bool} {methods : List (String × Method)}
    {fields : List BoundField}
    (given : Gives (domain.fields storage skipFirst methods) before fields after) :
    domain.ResolvesFields after (fields.map (·.definition)) := by
  unfold Domain.fields at given
  simp only [gives_bind, gives_pure] at given
  obtain ⟨made, _, each, rfl, rfl⟩ := given
  intro definition member
  obtain ⟨field, kept, rfl⟩ := List.mem_map.1 member
  have present : some field ∈ made := by simpa using kept
  obtain ⟨_, -, start, finish, here, later⟩ :=
    Discovering.Orderly.item_of_gives_mapM (fun _ => orderly_field ..) each present
  have resolves := resolves_field here
  exact ⟨resolves_of_grows resolves.1 later.grows, resolves.2.of_grows later.grows⟩

theorem resolves_inputValues {name : String} {type : TypeDescriptor} {values : List InputValue}
    (given : Gives (domain.inputValues name type) before values after) :
    domain.ResolvesValues after values := by
  unfold inputValues at given
  simp only [gives_bind] at given
  obtain ⟨made, between, each, rest⟩ := given
  split at rest
  · exact (gives_throw.1 rest).elim
  · obtain ⟨rfl, rfl⟩ := gives_pure.1 rest
    intro value member
    obtain ⟨field, -, start, finish, here, later⟩ :=
      Discovering.Orderly.item_of_gives_mapM (fun _ => orderly_inputValue ..) each member
    exact resolves_of_grows (resolves_inputValue here) later.grows

end Domain

end SchemaDiscovery
