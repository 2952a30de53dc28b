import SchemaDiscovery.Proofs.Descriptor.Keys
/-!
Descriptors that are written and then read. Main statement: a manifest is read from its tree as it
was.
-/

namespace SchemaDiscovery

open Json

theorem Shape.restores : Restores Shape.decode Shape.encode := by
  intro shape
  cases shape <;> rfl

theorem Visibility.restores : Restores Visibility.decode Visibility.encode := by
  intro visibility
  cases visibility <;> rfl

theorem Tag.restores (byIndex : Bool) : Restores (Tag.decode byIndex) Tag.encode := by
  intro tag
  cases tag with
  | deprecated text | interface text | implementation text => cases text <;> rfl
  | typeName text ignored | inputType text ignored =>
    have names := nullable_ofOptionalString text
    have texts := strings_ofStrings ignored
    have fields : record? ["name", "ignore"]
        (.object [("name", ofOptionalString text), ("ignore", ofStrings ignored)]) =
          some [("name", ofOptionalString text), ("ignore", ofStrings ignored)] :=
      record_of_sublist (by decide) (.refl _)
    simp [Tag.decode, Tag.encode, choice_of_object, Tag.alternatives, fields, Json.optional, names,
      texts]
  | secured roles =>
    have texts := strings_ofStrings roles
    have fields : record? ["roles"] (.object [("roles", ofStrings roles)]) =
        some [("roles", ofStrings roles)] := record_of_sublist (by decide) (.refl _)
    simp [Tag.decode, Tag.encode, choice_of_object, Tag.alternatives, fields, Json.required, texts]
  | _ => rfl

section Tags

variable {own : List Member} (tags : List Tag)

theorem key_of_tagsMember : ∀ member ∈ tagsMember tags, member.1 = "tags" := by
  intro member present
  have key := keys_listMember_sublist.subset (List.mem_map_of_mem (f := Prod.fst) present)
  exact List.mem_singleton.1 key

theorem record_tags (apart : "tags" ∉ keys own) :
    record? ["tags"] (.object (own ++ tagsMember tags)) = some (tagsMember tags) := by
  have once : ∀ name ∈ ["tags"], (keys (own ++ tagsMember tags)).count name ≤ 1 := by
    intro name named
    rw [List.mem_singleton.1 named, keys_append, List.count_append, List.count_eq_zero.2 apart,
      Nat.zero_add]
    exact Nat.le_trans (keys_listMember_sublist.count_le "tags") (by decide)
  have left : own.filter (fun member => ["tags"].contains member.1) = [] := by
    simpa using key_ne_of_not_mem apart
  have right : (tagsMember tags).filter (fun member => ["tags"].contains member.1) =
      tagsMember tags := by simpa using key_of_tagsMember tags
  rw [record_of_count once, List.filter_append, left, right, List.nil_append]

theorem filter_own (apart : "tags" ∉ keys own) :
    (own ++ tagsMember tags).filter (·.1 ≠ "tags") = own := by
  have left : own.filter (·.1 ≠ "tags") = own := by simpa using key_ne_of_not_mem apart
  have right : (tagsMember tags).filter (·.1 ≠ "tags") = [] := by
    simpa using key_of_tagsMember tags
  rw [List.filter_append, left, right, List.append_nil]

end Tags

theorem tags_restored (byIndex : Bool) (tags : List Tag) :
    tags? byIndex (tagsMember tags) = some tags :=
  (Tag.restores byIndex).optional tags rfl

theorem ownTags_restored (tags : List Tag) {fields : List Member}
    (found : field? fields "tags" = field? (tagsMember tags) "tags") :
    ownTags? fields = some tags :=
  (Tag.restores false).optional tags found

theorem TypeUse.assemble_atom (nested : Bool) (type : Atom) (tags : List Tag)
    (args : Option (List TypeUse)) :
    TypeUse.assemble nested (type.encode ++ tagsMember tags) args = some (.atom type tags) := by
  have apart : "tags" ∉ keys type.encode := by cases type <;> simp [Atom.encode]
  have back := tags_restored nested tags
  rw [assemble, record_tags tags apart, filter_own tags apart]
  simp only [Option.bind_eq_bind, Option.bind_some, back]
  cases type with
  | primitive kind | boxed kind => cases kind <;> rfl
  | _ => rfl

theorem TypeUse.assemble_generic (nested : Bool) (shape : Shape) (args : List TypeUse)
    (tags : List Tag) :
    TypeUse.assemble nested ([("type", .string "generic"), ("shape", shape.encode),
      ("args", .array (encodeUses args))] ++ tagsMember tags) (some args) =
        some (.generic shape args tags) := by
  have apart : "tags" ∉ keys [("type", .string "generic"), ("shape", shape.encode),
      ("args", .array (encodeUses args))] := by simp
  have back := tags_restored nested tags
  rw [assemble, record_tags tags apart, filter_own tags apart]
  have fields : record? ["shape", "args"]
      (.object [("shape", shape.encode), ("args", .array (encodeUses args))]) =
        some [("shape", shape.encode), ("args", .array (encodeUses args))] :=
    record_of_sublist (by decide) (.refl _)
  have shapes := Shape.restores shape
  simp [back, choice_of_object, Atom.alternatives, fields, Json.required, shapes]

theorem typeArgs_cons {key : String} {value : Json} {members : List Member} (other : key ≠ "args") :
    typeArgs? ((key, value) :: members) = typeArgs? members := by
  cases value <;> exact if_neg other

theorem typeArgs_args (items : List Json) (members : List Member) :
    typeArgs? (("args", .array items) :: members) = uses? items := rfl

theorem TypeUse.decodeAt_object (nested : Bool) (members : List Member) :
    decodeAt nested (.object members) = assemble nested members (typeArgs? members) := rfl

mutual

theorem TypeUse.decodeAt_encode (nested : Bool) :
    (use : TypeUse) → TypeUse.decodeAt nested use.encode = some use
  | .atom type tags => by
    rw [TypeUse.encode, TypeUse.decodeAt_object, TypeUse.assemble_atom]
  | .generic shape args tags => by
    have inner := uses_encodeUses args
    have found : typeArgs? ([("type", .string "generic"), ("shape", shape.encode),
        ("args", .array (encodeUses args))] ++ tagsMember tags) = some args := by
      simp [typeArgs_cons, typeArgs_args, inner]
    rw [TypeUse.encode, TypeUse.decodeAt_object, found, TypeUse.assemble_generic]

theorem uses_encodeUses : (uses : List TypeUse) → uses? (encodeUses uses) = some uses
  | [] => rfl
  | use :: uses => by
    have first := TypeUse.decodeAt_encode true use
    have rest := uses_encodeUses uses
    simp [encodeUses, uses?, first, rest]

end

theorem TypeUse.restores : Restores TypeUse.decode TypeUse.encode :=
  TypeUse.decodeAt_encode false

theorem TypeUse.encode_ne_null (use : TypeUse) : use.encode ≠ .null := by
  cases use <;> simp [TypeUse.encode]

/-! ### Records -/

theorem Parameter.restores : Restores Parameter.decode Parameter.encode := by
  intro param
  have type := TypeUse.restores param.type
  rw [Parameter.decode, Parameter.encode, record_of_sublist (by decide) (keys_encode rfl)]
  simp [Json.required, string?, type, ownTags_restored param.tags]

theorem StorageField.restores : Restores StorageField.decode StorageField.encode := by
  intro field
  have type := TypeUse.restores field.type
  rw [StorageField.decode, StorageField.encode, record_of_sublist (by decide) (keys_encode rfl)]
  simp [Json.required, string?, type, ownTags_restored field.tags]

theorem Method.restores : Restores Method.decode Method.encode := by
  intro method
  have visibility := Visibility.restores method.visibility
  have params := Parameter.restores.list method.params
  have returns := TypeUse.restores.nullable TypeUse.encode_ne_null method.returns
  rw [Method.decode, Method.encode, record_of_sublist (by decide) (keys_encode rfl)]
  simp [Json.required, Json.optional, string?, bool?, visibility, params, returns,
    ownTags_restored method.tags]

theorem Supertype.restores : Restores Supertype.decode Supertype.encode := by
  intro supertype
  rw [Supertype.decode, Supertype.encode, record_of_sublist (by decide) (keys_encode rfl)]
  simp [Json.required, string?, TypeUse.restores.optional supertype.args]

theorem Supertype.encode_ne_null (supertype : Supertype) : supertype.encode ≠ .null := by
  simp [Supertype.encode]

theorem TypeForm.restores : Restores TypeForm.decode TypeForm.encode := by
  intro form
  cases form with
  | isClass => rfl
  | isInterface => rfl
  | isEnum members =>
    have texts := strings_ofStrings members
    have fields : record? ["members"] (.object [("members", ofStrings members)]) =
        some [("members", ofStrings members)] := record_of_sublist (by decide) (.refl _)
    simp [TypeForm.decode, TypeForm.encode, choice_of_object, fields, Json.required, texts]

theorem TypeDescriptor.restores : Restores TypeDescriptor.decode TypeDescriptor.encode := by
  intro type
  obtain ⟨members, written⟩ : ∃ members, type.encode = .object members := ⟨_, rfl⟩
  have parts : [("key", .string type.key.path), ("form", type.form.encode)] ++
      listMember "type_params" .string type.typeParams ++
      [("parent", ofOption Supertype.encode type.parent)] ++
      listMember "interfaces" Supertype.encode type.interfaces ++ tagsMember type.tags ++
      listMember "fields" StorageField.encode type.fields ++
      listMember "methods" Method.encode type.methods = members := Json.object.inj written
  have key : required members "key" string? = some type.key.path := by
    simp [← parts, Json.required, string?]
  have form : Json.optional members "form" .isClass TypeForm.decode = some type.form := by
    simp [← parts, Json.optional, TypeForm.restores type.form]
  have typeParams : Json.optional members "type_params" [] strings? = some type.typeParams :=
    restores_string.optional type.typeParams (by simp [← parts, tagsMember])
  have parent : Json.optional members "parent" none (nullable Supertype.decode) =
      some type.parent := by
    have restored := Supertype.restores.nullable Supertype.encode_ne_null type.parent
    simp [← parts, Json.optional, restored]
  have interfaces : Json.optional members "interfaces" [] (list? Supertype.decode) =
      some type.interfaces :=
    Supertype.restores.optional type.interfaces (by simp [← parts, tagsMember])
  have tags : ownTags? members = some type.tags :=
    ownTags_restored type.tags (by simp [← parts, tagsMember])
  have storage : Json.optional members "fields" [] (list? StorageField.decode) =
      some type.fields :=
    StorageField.restores.optional type.fields (by simp [← parts, tagsMember])
  have methods : Json.optional members "methods" [] (list? Method.decode) = some type.methods :=
    Method.restores.optional type.methods (by simp [← parts, tagsMember])
  rw [TypeDescriptor.decode, written, record_of_sublist (by decide) (keys_encode written)]
  simp [key, form, typeParams, parent, interfaces, tags, storage, methods]

theorem ResolverRole.decode_encode (role : ResolverRole) :
    ResolverRole.decode role.encode = some role := by
  cases role <;> rfl

theorem Resolver.restores : Restores Resolver.decode Resolver.encode := by
  intro resolver
  obtain ⟨name, role, methods⟩ := resolver
  have fields : record? ["name", "methods"] (Resolver.encode ⟨name, role, methods⟩) =
      some [("name", .string name), ("methods", .array (methods.map Method.encode))] := by
    cases role <;> rfl
  have own : ([("name", Json.string name)] ++ role.encode ++
      [("methods", Json.array (methods.map Method.encode))]).filter
        (fun member => member.1 ∉ ["name", "methods"]) = role.encode := by
    cases role <;> rfl
  have restored := Method.restores.list methods
  rw [Resolver.decode, fields]
  simp only [Resolver.encode, Json.object?, Option.bind_eq_bind, Option.bind_some, own,
    ResolverRole.decode_encode]
  simp [Json.required, Json.optional, string?, restored]

/-- A manifest is written as a tree that repeats no key, and read from it as it was. -/
theorem manifest_restored (manifest : Manifest) :
    manifest.encode.Unrepeated ∧ Manifest.decode manifest.encode = some manifest := by
  refine ⟨manifest.unrepeated, ?_⟩
  have fields : record? Manifest.fieldNames manifest.encode =
      some [("types", .array (manifest.types.map TypeDescriptor.encode)),
        ("resolvers", .array (manifest.resolvers.map Resolver.encode))] :=
    record_of_sublist (by decide) (.refl _)
  have types := TypeDescriptor.restores.list manifest.types
  have resolvers := Resolver.restores.list manifest.resolvers
  rw [Manifest.decode, fields]
  simp [Json.optional, types, resolvers]

end SchemaDiscovery
