import SchemaDiscovery.Proofs.Descriptor.Fields
import Mathlib.Data.List.Induction
/-!
The keys of a tree that is written. Main statements: each descriptor is an object of some of its
fields in their order, and no object within a manifest repeats a key.
-/

namespace SchemaDiscovery

theorem Ordered.put_of_fresh {α κ : Type} [DecidableEq κ] {key : α → κ} {item : α}
    {items : List α} (fresh : key item ∉ items.map key) :
    Ordered.put key item items = items ++ [item] := by
  induction items with
  | nil => rfl
  | cons other items ih =>
    have apart : key item ≠ key other ∧ key item ∉ items.map key := by simpa using fresh
    rw [Ordered.put, if_neg (Ne.symm apart.1), ih apart.2, List.cons_append]

theorem Ordered.ofList_of_nodup {α κ : Type} [DecidableEq κ] {key : α → κ} {items : List α}
    (distinct : (items.map key).Nodup) : Ordered.ofList key items = items := by
  induction items using List.reverseRecOn with
  | nil => rfl
  | append_singleton items item ih =>
    rw [List.map_append, List.nodup_append] at distinct
    have fresh : key item ∉ items.map key := by
      intro present
      exact distinct.2.2 _ present _ (by simp) rfl
    rw [Ordered.ofList_concat, ih distinct.1, Ordered.put_of_fresh fresh]

namespace Json

/-- No object within the tree repeats a key. -/
def Unrepeated (json : Json) : Prop := json.distinct = json

@[simp] theorem unrepeated_string (text : String) : Unrepeated (.string text) := rfl

@[simp] theorem unrepeated_bool (value : Bool) : Unrepeated (.bool value) := rfl

theorem unrepeated_array {items : List Json} (each : ∀ item ∈ items, item.Unrepeated) :
    Unrepeated (.array items) := by
  have same : distinctItems items = items := by
    induction items with
    | nil => rfl
    | cons item items ih =>
      obtain ⟨head, rest⟩ := List.forall_mem_cons.1 each
      rw [distinctItems, head, ih rest]
  rw [Unrepeated, Json.distinct, same]

theorem unrepeated_object {names : List String} {members : List Member} (distinct : names.Nodup)
    (sublist : (keys members).Sublist names) (values : ∀ member ∈ members, member.2.Unrepeated) :
    Unrepeated (.object members) := by
  have same : distinctMembers members = members := by
    induction members with
    | nil => rfl
    | cons member members ih =>
      obtain ⟨key, value⟩ := member
      obtain ⟨head, rest⟩ := List.forall_mem_cons.1 values
      have tail := ih ((List.sublist_cons_self _ _).trans sublist) rest
      rw [distinctMembers, head, tail]
  rw [Unrepeated, Json.distinct, same, Ordered.ofList_of_nodup (sublist.nodup distinct)]

section Values

variable {α : Type} {encode : α → Json}

theorem unrepeated_map (each : ∀ x, (encode x).Unrepeated) (items : List α) :
    Unrepeated (.array (items.map encode)) := by
  apply unrepeated_array
  intro json present
  obtain ⟨item, -, rfl⟩ := List.mem_map.1 present
  exact each item

theorem unrepeated_ofOption (each : ∀ x, (encode x).Unrepeated) (item : Option α) :
    Unrepeated (ofOption encode item) := by
  cases item with
  | none => rfl
  | some x => exact each x

theorem unrepeated_listMember (each : ∀ x, (encode x).Unrepeated) (key : String)
    (items : List α) : ∀ member ∈ listMember key encode items, member.2.Unrepeated := by
  unfold listMember
  split
  · simp
  · simpa using unrepeated_map each items

end Values

@[simp] theorem unrepeated_ofStrings (texts : List String) : Unrepeated (ofStrings texts) :=
  unrepeated_map unrepeated_string texts

@[simp] theorem unrepeated_ofOptionalString (text : Option String) :
    Unrepeated (ofOptionalString text) :=
  unrepeated_ofOption unrepeated_string text

end Json

open Json

theorem Shape.unrepeated (shape : Shape) : shape.encode.Unrepeated := by
  cases shape <;> rfl

theorem Visibility.unrepeated (visibility : Visibility) : visibility.encode.Unrepeated := by
  cases visibility <;> rfl

theorem TypeForm.unrepeated (form : TypeForm) : form.encode.Unrepeated := by
  cases form with
  | isClass => rfl
  | isInterface => rfl
  | isEnum members => exact unrepeated_object (by decide) (.refl ["kind", "members"]) (by simp)

theorem Tag.unrepeated (tag : Tag) : tag.encode.Unrepeated := by
  cases tag with
  | deprecated text => exact unrepeated_object (by decide) (.refl ["tag", "reason"]) (by simp)
  | interface text | implementation text =>
    exact unrepeated_object (by decide) (.refl ["tag", "name"]) (by simp)
  | typeName text ignored | inputType text ignored =>
    exact unrepeated_object (by decide) (.refl ["tag", "name", "ignore"]) (by simp)
  | secured roles => exact unrepeated_object (by decide) (.refl ["tag", "roles"]) (by simp)
  | _ => rfl

theorem unrepeated_tagsMember (tags : List Tag) :
    ∀ member ∈ tagsMember tags, member.2.Unrepeated :=
  unrepeated_listMember Tag.unrepeated "tags" tags

theorem Atom.keys_encode (type : Atom) :
    (keys type.encode).Sublist ["type", "kind", "key", "name"] := by
  cases type <;> simp [Atom.encode]

mutual

theorem TypeUse.unrepeated : (use : TypeUse) → use.encode.Unrepeated
  | .atom type tags => by
    have sublist : (keys (type.encode ++ tagsMember tags)).Sublist
        (["type", "kind", "key", "name"] ++ ["tags"]) := by
      rw [keys_append]
      exact .append type.keys_encode keys_listMember_sublist
    have values : ∀ member ∈ type.encode, member.2.Unrepeated := by
      cases type <;> simp [Atom.encode]
    rw [TypeUse.encode]
    exact unrepeated_object (by decide) sublist
      (List.forall_mem_append.2 ⟨values, unrepeated_tagsMember tags⟩)
  | .generic shape args tags => by
    have sublist : (keys ([("type", .string "generic"), ("shape", shape.encode),
        ("args", .array (encodeUses args))] ++ tagsMember tags)).Sublist
          (["type", "shape", "args"] ++ ["tags"]) :=
      .append (.refl ["type", "shape", "args"]) keys_listMember_sublist
    have inner := unrepeated_array (unrepeated_encodeUses args)
    rw [TypeUse.encode]
    exact unrepeated_object (by decide) sublist (List.forall_mem_append.2
      ⟨by simp [shape.unrepeated, inner], unrepeated_tagsMember tags⟩)

theorem unrepeated_encodeUses : (uses : List TypeUse) → ∀ json ∈ encodeUses uses, json.Unrepeated
  | [] => by simp [encodeUses]
  | use :: uses => by
    rw [encodeUses]
    exact List.forall_mem_cons.2 ⟨TypeUse.unrepeated use, unrepeated_encodeUses uses⟩

end

/-! ### Records -/

variable {members : List Member}

theorem Parameter.keys_encode {param : Parameter} (written : param.encode = .object members) :
    (keys members).Sublist Parameter.fieldNames := by
  obtain rfl := Json.object.inj written
  exact .append (.refl ["name", "ty"]) keys_listMember_sublist

theorem Parameter.unrepeated (param : Parameter) : param.encode.Unrepeated := by
  apply unrepeated_object (by decide) (Parameter.keys_encode rfl)
  have type := param.type.unrepeated
  exact List.forall_mem_append.2 ⟨by simp [type], unrepeated_tagsMember param.tags⟩

theorem StorageField.keys_encode {field : StorageField}
    (written : field.encode = .object members) :
    (keys members).Sublist StorageField.fieldNames := by
  obtain rfl := Json.object.inj written
  exact .append (.refl ["name", "ty"]) keys_listMember_sublist

theorem StorageField.unrepeated (field : StorageField) : field.encode.Unrepeated := by
  apply unrepeated_object (by decide) (StorageField.keys_encode rfl)
  have type := field.type.unrepeated
  exact List.forall_mem_append.2 ⟨by simp [type], unrepeated_tagsMember field.tags⟩

theorem Method.keys_encode {method : Method} (written : method.encode = .object members) :
    (keys members).Sublist Method.fieldNames := by
  obtain rfl := Json.object.inj written
  exact .append (.refl ["name", "visibility", "is_static", "params", "returns"])
    keys_listMember_sublist

theorem Method.unrepeated (method : Method) : method.encode.Unrepeated := by
  apply unrepeated_object (by decide) (Method.keys_encode rfl)
  have visibility := method.visibility.unrepeated
  have params := unrepeated_map Parameter.unrepeated method.params
  have returns := unrepeated_ofOption TypeUse.unrepeated method.returns
  exact List.forall_mem_append.2
    ⟨by simp [visibility, params, returns], unrepeated_tagsMember method.tags⟩

theorem Supertype.keys_encode {supertype : Supertype}
    (written : supertype.encode = .object members) :
    (keys members).Sublist Supertype.fieldNames := by
  obtain rfl := Json.object.inj written
  exact .append (.refl ["key"]) keys_listMember_sublist

theorem Supertype.unrepeated (supertype : Supertype) : supertype.encode.Unrepeated := by
  apply unrepeated_object (by decide) (Supertype.keys_encode rfl)
  have args := unrepeated_listMember TypeUse.unrepeated "args" supertype.args
  exact List.forall_mem_cons.2 ⟨unrepeated_string supertype.key.path, args⟩

theorem TypeDescriptor.keys_encode {type : TypeDescriptor}
    (written : type.encode = .object members) :
    (keys members).Sublist TypeDescriptor.fieldNames := by
  obtain rfl := Json.object.inj written
  simp only [keys_append]
  exact .append (.append (.append (.append (.append (.append (.refl ["key", "form"])
    keys_listMember_sublist) (.refl ["parent"])) keys_listMember_sublist)
    keys_listMember_sublist) keys_listMember_sublist) keys_listMember_sublist

theorem TypeDescriptor.unrepeated (type : TypeDescriptor) : type.encode.Unrepeated := by
  apply unrepeated_object (by decide) (TypeDescriptor.keys_encode rfl)
  have form := type.form.unrepeated
  have typeParams := unrepeated_listMember unrepeated_string "type_params" type.typeParams
  have parent := unrepeated_ofOption Supertype.unrepeated type.parent
  have interfaces := unrepeated_listMember Supertype.unrepeated "interfaces" type.interfaces
  have tags := unrepeated_tagsMember type.tags
  have fields := unrepeated_listMember StorageField.unrepeated "fields" type.fields
  have methods := unrepeated_listMember Method.unrepeated "methods" type.methods
  simp only [List.forall_mem_append]
  refine ⟨⟨⟨⟨⟨⟨?_, typeParams⟩, ?_⟩, interfaces⟩, tags⟩, fields⟩, methods⟩
  · simp [form]
  · simp [parent]

theorem Resolver.unrepeated (resolver : Resolver) : resolver.encode.Unrepeated := by
  obtain ⟨name, role, methods⟩ := resolver
  have calls := unrepeated_map Method.unrepeated methods
  have sublist : (keys ([("name", .string name)] ++ role.encode ++
      [("methods", .array (methods.map Method.encode))])).Sublist
        ["name", "role", "source", "methods"] := by
    cases role <;> simp [ResolverRole.encode]
  have values : ∀ member ∈ role.encode, member.2.Unrepeated := by
    cases role <;> simp [ResolverRole.encode]
  apply unrepeated_object (by decide) sublist
  simp only [List.forall_mem_append]
  exact ⟨⟨by simp, values⟩, by simpa using calls⟩

theorem Manifest.unrepeated (manifest : Manifest) : manifest.encode.Unrepeated := by
  have types := unrepeated_map TypeDescriptor.unrepeated manifest.types
  have resolvers := unrepeated_map Resolver.unrepeated manifest.resolvers
  exact unrepeated_object (by decide) (.refl Manifest.fieldNames) (by simp [types, resolvers])

end SchemaDiscovery
