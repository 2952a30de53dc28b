import SchemaDiscovery.Descriptor.Decoding
import Mathlib.Data.List.Nodup
/-!
Reading the fields of a record that was written. Main statements: an object of fields that are not
repeated is a record of them, and a list that is left out when it is empty is read as it was.
-/

namespace SchemaDiscovery

namespace Json

def keys (members : List Member) : List String := members.map Prod.fst

@[simp] theorem keys_nil : keys [] = [] := rfl

@[simp] theorem keys_cons (key : String) (value : Json) (members : List Member) :
    keys ((key, value) :: members) = key :: keys members := rfl

@[simp] theorem keys_append (left right : List Member) :
    keys (left ++ right) = keys left ++ keys right := List.map_append

@[simp] theorem field_nil (name : String) : field? [] name = none := rfl

@[simp] theorem field_cons (key name : String) (value : Json) (members : List Member) :
    field? ((key, value) :: members) name =
      if key = name then some value else field? members name := by
  by_cases same : key = name <;> simp [field?, same]

@[simp] theorem field_append (left right : List Member) (name : String) :
    field? (left ++ right) name = (field? left name).or (field? right name) := by
  simp [field?, List.find?_append, Option.map_or]

theorem key_ne_of_not_mem {members : List Member} {name : String}
    (absent : name ∉ keys members) : ∀ member ∈ members, ¬ member.1 = name := by
  intro member present same
  exact absent (same ▸ List.mem_map_of_mem present)

theorem field_of_not_mem {members : List Member} {name : String} (absent : name ∉ keys members) :
    field? members name = none := by
  simpa [field?] using key_ne_of_not_mem absent

section ListMember

variable {α : Type} {encode : α → Json} {items : List α} {key name : String}

theorem keys_listMember_sublist : (keys (listMember key encode items)).Sublist [key] := by
  unfold listMember
  split <;> simp

@[simp] theorem field_listMember_ne (other : key ≠ name) :
    field? (listMember key encode items) name = none := by
  apply field_of_not_mem
  intro present
  exact other (List.mem_singleton.1 (keys_listMember_sublist.subset present)).symm

theorem field_listMember (key : String) (encode : α → Json) (items : List α) :
    field? (listMember key encode items) key =
      if items.isEmpty then none else some (.array (items.map encode)) := by
  unfold listMember
  split <;> simp

end ListMember

/-! ### Records -/

theorem record_of_count {names : List String} {members : List Member}
    (once : ∀ name ∈ names, (keys members).count name ≤ 1) :
    record? names (.object members) =
      some (members.filter fun member => names.contains member.1) := by
  have same (name : String) : members.countP (·.1 = name) = (keys members).count name := by
    rw [keys, List.count, List.countP_map]
    rfl
  have single : (names.all fun name => members.countP (·.1 = name) ≤ 1) = true := by
    simpa [same] using once
  rw [record?, if_pos single]

theorem record_of_sublist {names : List String} {members : List Member} (distinct : names.Nodup)
    (some_of : (keys members).Sublist names) :
    record? names (.object members) = some members := by
  have once : ∀ name ∈ names, (keys members).count name ≤ 1 := fun name _ =>
    List.nodup_iff_count_le_one.1 (some_of.nodup distinct) name
  have listed : members.filter (fun member => names.contains member.1) = members := by
    apply List.filter_eq_self.2
    intro member present
    simpa using some_of.subset (List.mem_map_of_mem present)
  rw [record_of_count once, listed]

theorem optional_of_field {α : Type} {fields : List Member} {name : String} {value : Json}
    {absent : α} {decode : Json → Option α} (found : field? fields name = some value) :
    optional fields name absent decode = decode value := by
  rw [optional, found]

theorem choice_of_object {tag name : String} {names : List String} {byIndex : Bool}
    {members : List Member} (listed : name ∈ names) (apart : tag ∉ keys members) :
    choice? tag names byIndex (.object ((tag, .string name) :: members)) =
      some (name, .object members) := by
  have others := key_ne_of_not_mem apart
  have none_of : members.filter (fun member => member.1 = tag) = [] := by simpa using others
  have all_of : members.filter (fun member => member.1 ≠ tag) = members := by simpa using others
  simp only [choice?, List.filter_cons, none_of, all_of]
  simp [alternative?, listed]

/-! ### Values -/

/-- What is written can be read. -/
def Restores {α : Type} (decode : Json → Option α) (encode : α → Json) : Prop :=
  ∀ x, decode (encode x) = some x

variable {α : Type} {decode : Json → Option α} {encode : α → Json}

theorem mapM_restored (items : List α) (restored : ∀ x ∈ items, decode (encode x) = some x) :
    (items.map encode).mapM decode = some items := by
  induction items with
  | nil => rfl
  | cons item items ih =>
    have rest := ih fun x present => restored x (List.mem_cons_of_mem _ present)
    simp [restored item List.mem_cons_self, rest]

theorem Restores.list (restores : Restores decode encode) (items : List α) :
    list? decode (.array (items.map encode)) = some items :=
  mapM_restored items fun x _ => restores x

theorem Restores.nullable (restores : Restores decode encode) (value : ∀ x, encode x ≠ .null)
    (item : Option α) : nullable decode (ofOption encode item) = some item := by
  cases item with
  | none => rfl
  | some x =>
    have back := restores x
    simp only [ofOption]
    unfold Json.nullable
    split
    · next null => exact absurd null (value x)
    · simp [back]

theorem Restores.optional (restores : Restores decode encode) (items : List α)
    {fields : List Member} {key : String}
    (found : field? fields key = field? (listMember key encode items) key) :
    optional fields key [] (list? decode) = some items := by
  rw [field_listMember] at found
  cases items with
  | nil => simp [Json.optional, found]
  | cons item items =>
    rw [optional_of_field (by simpa using found)]
    exact restores.list (item :: items)

theorem restores_string : Restores string? .string := fun _ => rfl

theorem strings_ofStrings (texts : List String) : strings? (ofStrings texts) = some texts :=
  restores_string.list texts

theorem nullable_ofOptionalString (text : Option String) :
    nullable string? (ofOptionalString text) = some text :=
  restores_string.nullable (by simp) text

end Json

end SchemaDiscovery
