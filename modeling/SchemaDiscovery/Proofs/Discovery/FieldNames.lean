import SchemaDiscovery.Proofs.Catalog.Lineage
import SchemaDiscovery.Proofs.Discovery.Orderly
/-!
The names of the fields that discovery makes. Main statement: they can be read off the methods and
the metadata of a type, whatever the registry holds.
-/

namespace SchemaDiscovery

def Storage.fieldName? (storage : Storage) (method : Method) : Option String :=
  let accessed := outputName method.name
  let metadata := storage.methodMetadata method accessed
  if metadata.ignored = false ∧ method.returns.isSome then
    some (metadata.nameOverride.getD accessed)
  else none

@[simp] theorem Storage.fieldName_applyToMethod (storage : Storage) (bindings : Bindings)
    (method : Method) :
    storage.fieldName? (bindings.applyToMethod method) = storage.fieldName? method := by
  have returning : (bindings.applyToMethod method).returns.isSome = method.returns.isSome :=
    Option.isSome_map
  unfold fieldName?
  simp only [returning]
  rfl

def Catalog.fieldNames (catalog : Catalog) (type : TypeDescriptor) (kind : TypeKind) :
    List String :=
  ((catalog.nearest type).filter (·.method.isOutput)).filterMap fun declaration =>
    (Storage.ofOwner catalog type kind).fieldName? declaration.method

namespace Domain

variable {domain : Domain} {before after : Registry}

theorem name_of_field {storage : Storage} {source : String} {skipFirst : Bool} {method : Method}
    {result : Option BoundField}
    (given : Gives (domain.field? storage source skipFirst method) before result after) :
    result.map (·.definition.name) = storage.fieldName? method := by
  dsimp only [field?] at given
  dsimp only [Storage.fieldName?]
  split at given
  · next returns kept some =>
    simp only [gives_bind, gives_pure] at given
    obtain ⟨⟨type, shape⟩, _, -, arguments, _, -, rfl, -⟩ := given
    rw [if_pos ⟨kept, by rw [some]; rfl⟩]
    rfl
  · next none =>
    obtain ⟨rfl, -⟩ := gives_pure.1 given
    rw [if_neg]
    · rfl
    · rintro ⟨kept, some⟩
      obtain ⟨returns, same⟩ := Option.isSome_iff_exists.1 some
      exact none returns kept same

theorem names_of_fields {storage : Storage} {skipFirst : Bool} {methods : List (String × Method)}
    {fields : List BoundField}
    (given : Gives (domain.fields storage skipFirst methods) before fields after) :
    fields.map (·.definition.name) =
      methods.filterMap fun method => storage.fieldName? method.2 := by
  unfold Domain.fields at given
  simp only [gives_bind, gives_pure] at given
  obtain ⟨made, _, each, rfl, rfl⟩ := given
  have all := Discovering.Orderly.forall_of_gives_mapM (fun _ => orderly_field ..) each
  clear each
  induction all with
  | nil => rfl
  | @cons method result methods results here _ ih =>
    obtain ⟨start, finish, one, -⟩ := here
    have named := name_of_field one
    cases result with
    | none =>
      have absent : storage.fieldName? method.2 = none := named.symm
      simp only [List.filterMap_cons, id_eq, absent]
      exact ih
    | some field =>
      have present : storage.fieldName? method.2 = some field.definition.name := named.symm
      simp only [List.filterMap_cons, id_eq, present, List.map_cons]
      exact congrArg _ ih

theorem names_of_declaredFields {type : TypeDescriptor} {kind : TypeKind}
    {fields : List BoundField}
    (given : Gives (domain.declaredFields type kind) before fields after) :
    fields.map (·.definition.name) = domain.catalog.fieldNames type kind := by
  rw [names_of_fields given, Catalog.methodsOf, List.map_map, List.filterMap_map]
  refine List.filterMap_congr fun declaration _ => ?_
  simp [Declaration.resolve]

end Domain

end SchemaDiscovery
