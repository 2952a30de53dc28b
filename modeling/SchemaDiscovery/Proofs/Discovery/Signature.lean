import SchemaDiscovery.Proofs.Discovery.Orderly
/-!
Where fields come from. Main statements: each field that discovery makes is made from the signature
of one method, and its shape agrees with its type.
-/

namespace SchemaDiscovery

/-- A method with what discovery needs besides the registry to make a field of it. -/
structure Signature where
  storage : Storage
  source : String
  skipFirst : Bool
  method : Method
  deriving DecidableEq, Repr

def Catalog.signatures (catalog : Catalog) (type : TypeDescriptor) (kind : TypeKind) :
    List Signature :=
  (catalog.methodsOf type Method.isOutput).map fun collected =>
    ⟨Storage.ofOwner catalog type kind, collected.declaredIn.path, false, collected.method⟩

def Resolver.signatures (resolver : Resolver) : List Signature :=
  ((resolver.methods.filter Method.isOutput).filter fun method =>
    resolver.role.source?.all (Domain.takesSource · method)).map
      (⟨.detached, resolver.name, resolver.role.source?.isSome, ·⟩)

def BoundField.Shaped (field : BoundField) : Prop :=
  ∃ isStream, field.shape = FieldShape.of isStream field.definition.type

theorem BoundField.Shaped.isList_of_list {field : BoundField} (shaped : field.Shaped)
    (list : field.shape = .list) : field.definition.type.isList = true := by
  obtain ⟨isStream, same⟩ := shaped
  rw [list, FieldShape.of] at same
  split at same
  · cases same
  · split at same
    · assumption
    · cases same

theorem BoundField.Shaped.not_isList_of_plain {field : BoundField} (shaped : field.Shaped)
    (plain : field.shape = .plain) : field.definition.type.isList = false := by
  obtain ⟨isStream, same⟩ := shaped
  rw [plain, FieldShape.of] at same
  split at same
  · cases same
  · split at same
    · cases same
    · next other => simpa using other

namespace Domain

variable {domain : Domain} {registry before after : Registry}

/-- The field was made from the signature, and the registry has only grown since. -/
def Makes (domain : Domain) (registry : Registry) (signature : Signature) (field : BoundField) :
    Prop :=
  ∃ before after, Gives (domain.field? signature.storage signature.source signature.skipFirst
    signature.method) before (some field) after ∧ after.Grows registry

theorem Makes.of_grows {signature : Signature} {field : BoundField}
    (makes : domain.Makes before signature field) (grows : before.Grows after) :
    domain.Makes after signature field := by
  obtain ⟨start, finish, given, later⟩ := makes
  exact ⟨start, finish, given, later.trans grows⟩

theorem field_ok {storage : Storage} {source : String} {skipFirst : Bool} {method : Method}
    {field : BoundField}
    (given : Gives (domain.field? storage source skipFirst method) before (some field) after) :
    ∃ returns typed nonNull context, method.returns = some returns ∧
      Gives (domain.fieldType context nonNull returns) before (field.definition.type, field.shape)
        typed ∧
      Gives ((argumentParameters method skipFirst).mapM (domain.argument context)) typed
        field.definition.arguments after := by
  dsimp only [field?] at given
  split at given
  · next returns _ some =>
    simp only [gives_bind, gives_pure, Option.some.injEq] at given
    obtain ⟨⟨type, shape⟩, typed, first, arguments, _, second, rfl, rfl⟩ := given
    exact ⟨returns, typed, _, _, some, first, second⟩
  · obtain ⟨same, -⟩ := gives_pure.1 given
    cases same

theorem Makes.shaped {signature : Signature} {field : BoundField}
    (makes : domain.Makes registry signature field) : field.Shaped := by
  obtain ⟨_, _, given, -⟩ := makes
  obtain ⟨_, _, _, _, -, typed, -⟩ := field_ok given
  unfold fieldType at typed
  simp only [gives_bind, gives_pure, Prod.mk.injEq] at typed
  obtain ⟨_, _, -, classification, _, -, type, _, -, ⟨same, shape⟩, -⟩ := typed
  exact ⟨classification.isPublisher, by rw [shape, same]⟩

theorem makes_of_fields {storage : Storage} {skipFirst : Bool} {methods : List (String × Method)}
    {fields : List BoundField}
    (given : Gives (domain.fields storage skipFirst methods) before fields after) :
    ∀ field ∈ fields, ∃ method ∈ methods,
      domain.Makes after ⟨storage, method.1, skipFirst, method.2⟩ field := by
  unfold Domain.fields at given
  simp only [gives_bind, gives_pure] at given
  obtain ⟨made, _, each, rfl, rfl⟩ := given
  intro field member
  have present : some field ∈ made := by simpa using member
  obtain ⟨method, listed, start, finish, here, later⟩ :=
    Discovering.Orderly.item_of_gives_mapM (fun _ => orderly_field ..) each present
  exact ⟨method, listed, start, finish, here, later.grows⟩

theorem makes_of_declaredFields {type : TypeDescriptor} {kind : TypeKind}
    {fields : List BoundField}
    (given : Gives (domain.declaredFields type kind) before fields after) :
    ∀ field ∈ fields, ∃ signature ∈ domain.catalog.signatures type kind,
      domain.Makes after signature field := by
  intro field member
  obtain ⟨method, listed, makes⟩ := makes_of_fields given field member
  obtain ⟨collected, present, rfl⟩ := List.mem_map.1 listed
  exact ⟨_, List.mem_map_of_mem present, makes⟩

theorem makes_of_contributedFields {resolver : Resolver} {fields : List BoundField}
    (given : Gives (domain.contributedFields resolver) before fields after) :
    ∀ field ∈ fields, ∃ signature ∈ resolver.signatures, domain.Makes after signature field := by
  intro field member
  obtain ⟨method, listed, makes⟩ := makes_of_fields given field member
  obtain ⟨method, present, rfl⟩ := List.mem_map.1 listed
  exact ⟨_, List.mem_map_of_mem present, makes⟩

end Domain

end SchemaDiscovery
