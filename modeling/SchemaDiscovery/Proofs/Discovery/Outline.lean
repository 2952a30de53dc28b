import SchemaDiscovery.Proofs.Discovery.FieldNames
import SchemaDiscovery.Proofs.Discovery.Nullability
/-!
Outlines of fields: what can be told of a field from the signature alone. Main statement: discovery makes
fields of just these outlines, whatever the registry holds.
-/

namespace SchemaDiscovery

structure Outline where
  name : String
  arguments : List String
  deriving DecidableEq, Repr

def FieldDefinition.outline (field : FieldDefinition) : Outline :=
  ⟨field.name, field.arguments.map (·.name)⟩

def Parameter.argumentName (param : Parameter) : String :=
  param.metadata.nameOverride.getD param.name

def Signature.outline? (signature : Signature) : Option Outline :=
  (signature.storage.fieldName? signature.method).map fun name =>
    ⟨name, (Domain.argumentParameters signature.method signature.skipFirst).map (·.argumentName)⟩

def Catalog.outlines (catalog : Catalog) (type : TypeDescriptor) (kind : TypeKind) : List Outline :=
  (catalog.signatures type kind).filterMap (·.outline?)

def Resolver.outlines (resolver : Resolver) : List Outline :=
  resolver.signatures.filterMap (·.outline?)

def outlinesOf (fields : List BoundField) : List Outline := fields.map (·.definition.outline)

theorem outlinesOf_distinctFields (fields : List BoundField) :
    outlinesOf (distinctFields fields) = Ordered.ofList (·.name) (outlinesOf fields) := by
  have same (field : BoundField) : field.definition.outline.name = field.definition.name := rfl
  exact Ordered.map_ofList same fields

namespace Domain

variable {domain : Domain} {before after : Registry}

theorem names_of_arguments {context : String} {params : List Parameter} {values : List InputValue}
    (given : Gives (params.mapM (domain.argument context)) before values after) :
    values.map (·.name) = params.map (·.argumentName) := by
  have all := Discovering.Orderly.forall_of_gives_mapM (fun _ => orderly_argument ..) given
  clear given
  induction all with
  | nil => rfl
  | cons here _ ih =>
    obtain ⟨start, finish, made, -⟩ := here
    rw [List.map_cons, List.map_cons, ih, (inputValue_ok made).1]
    rfl

theorem outline_of_field {storage : Storage} {source : String} {skipFirst : Bool} {method : Method}
    {result : Option BoundField}
    (given : Gives (domain.field? storage source skipFirst method) before result after) :
    result.map (·.definition.outline) = Signature.outline? ⟨storage, source, skipFirst, method⟩ := by
  have named := name_of_field given
  cases result with
  | none => rw [Signature.outline?, ← named]; rfl
  | some field =>
    obtain ⟨_, _, _, _, -, -, passed⟩ := field_ok given
    rw [Signature.outline?, ← named]
    simp only [Option.map_some, FieldDefinition.outline, names_of_arguments passed]

theorem outlines_of_fields {storage : Storage} {skipFirst : Bool}
    {methods : List (String × Method)} {fields : List BoundField}
    (given : Gives (domain.fields storage skipFirst methods) before fields after) :
    outlinesOf fields = methods.filterMap fun item =>
      Signature.outline? ⟨storage, item.1, skipFirst, item.2⟩ := by
  unfold Domain.fields at given
  simp only [gives_bind, gives_pure] at given
  obtain ⟨made, _, each, rfl, rfl⟩ := given
  have all := Discovering.Orderly.forall_of_gives_mapM (fun _ => orderly_field ..) each
  clear each
  induction all with
  | nil => rfl
  | @cons item result items results here _ ih =>
    obtain ⟨start, finish, one, -⟩ := here
    have outlined := outline_of_field one
    cases result with
    | none =>
      simp only [List.filterMap_cons, id_eq, ← outlined, Option.map_none]
      exact ih
    | some field =>
      simp only [List.filterMap_cons, id_eq, ← outlined, Option.map_some]
      exact congrArg _ ih

theorem outlines_of_declaredFields {type : TypeDescriptor} {kind : TypeKind}
    {fields : List BoundField}
    (given : Gives (domain.declaredFields type kind) before fields after) :
    outlinesOf fields = domain.catalog.outlines type kind := by
  rw [outlines_of_fields given, List.filterMap_map, Catalog.outlines, Catalog.signatures,
    List.filterMap_map]
  rfl

theorem outlines_of_contributedFields {resolver : Resolver} {fields : List BoundField}
    (given : Gives (domain.contributedFields resolver) before fields after) :
    outlinesOf fields = resolver.outlines := by
  rw [outlines_of_fields given, List.filterMap_map, Resolver.outlines, Resolver.signatures,
    List.filterMap_map]
  rfl

end Domain

end SchemaDiscovery
