import SchemaDiscovery.Proofs.Methods.Nearest
import Mathlib.Data.List.Pairwise
/-!
The values that setters stand for. Main statement: the values of an input type have names of their own
exactly when no two setters of the type stand for a value of one name. Two setters can do so because one
is renamed, or because two capitals become one small letter.
-/

namespace SchemaDiscovery

theorem val_toLower {c : Char} (capital : c.isUpper = true) : c.toLower.val = c.val + 32 :=
  congrArg Char.val (dif_pos (of_decide_eq_true capital))

theorem toLower_injective {c other : Char} (capital : c.isUpper = true)
    (capitalOther : other.isUpper = true) (same : c.toLower = other.toLower) : c = other := by
  have values := congrArg Char.val same
  rw [val_toLower capital, val_toLower capitalOther] at values
  exact Char.ext ((UInt32.add_left_inj _).1 values)

theorem accessedName_some {verb name accessed : String}
    (read : accessedName? verb name = some accessed) :
    ∃ capital rest small, name.toList = verb.toList ++ capital :: rest ∧
      Text.lowerCapital? capital = some small ∧ accessed = String.ofList (small ++ rest) := by
  unfold accessedName? at read
  split at read
  · next capital rest begins follows =>
    obtain ⟨small, lowered, rfl⟩ := Option.map_eq_some_iff.1 read
    have whole := List.prefix_iff_eq_append.1 (List.isPrefixOf_iff_prefix.1 begins)
    rw [String.length_toList, follows] at whole
    exact ⟨capital, rest, small, whole.symm, lowered, rfl⟩
  · cases read

theorem eq_of_inputName_eq {first second accessed : String}
    (read : inputName? first = some accessed) (readOther : inputName? second = some accessed)
    (ascii : ∀ capital, first.toList[3]? = some capital → capital.toNat < 128)
    (asciiOther : ∀ capital, second.toList[3]? = some capital → capital.toNat < 128) :
    first = second := by
  obtain ⟨capital, rest, small, whole, lowered, rfl⟩ := accessedName_some read
  obtain ⟨capital', rest', small', whole', lowered', same⟩ := accessedName_some readOther
  have plain : capital.toNat < 128 := ascii capital (by rw [whole]; rfl)
  have plain' : capital'.toNat < 128 := asciiOther capital' (by rw [whole']; rfl)
  rw [Text.lowerCapital?, if_pos plain] at lowered
  rw [Text.lowerCapital?, if_pos plain'] at lowered'
  split at lowered
  · next upper =>
    split at lowered'
    · next upper' =>
      cases lowered
      cases lowered'
      obtain ⟨letters, rfl : rest = rest'⟩ := List.cons.inj (String.ofList_inj.1 same)
      rw [← String.toList_inj, whole, whole', toLower_injective upper upper' letters]
    · cases lowered'
  · cases lowered

def Storage.valueName? (storage : Storage) (setter : Method) : Option String := do
  let accessed ← inputName? setter.name
  let metadata := storage.setterMetadata setter accessed
  if metadata.ignored then none else some (metadata.nameOverride.getD accessed)

/-- The setter is named for its value, with a capital of ASCII, and no tag renames the value. -/
structure Storage.NamesPlainly (storage : Storage) (setter : Method) : Prop where
  ascii : ∀ capital, setter.name.toList[3]? = some capital → capital.toNat < 128
  kept : ∀ accessed, inputName? setter.name = some accessed →
    (storage.setterMetadata setter accessed).nameOverride = none

theorem Storage.inputName_of_valueName {storage : Storage} {setter : Method} {name : String}
    (plain : storage.NamesPlainly setter) (named : storage.valueName? setter = some name) :
    inputName? setter.name = some name := by
  unfold valueName? at named
  cases read : inputName? setter.name with
  | none =>
    rw [read] at named
    cases named
  | some accessed =>
    simp only [read, Option.bind_eq_bind, Option.bind_some, plain.kept accessed read,
      Option.getD_none] at named
    split at named
    · cases named
    · exact named

@[simp] theorem Storage.valueName_applyToMethod (storage : Storage) (bindings : Bindings)
    (setter : Method) :
    storage.valueName? (bindings.applyToMethod setter) = storage.valueName? setter := by
  have tags : (bindings.applyToMethod setter).params.flatMap (·.tags) =
      setter.params.flatMap (·.tags) := List.flatMap_map ..
  simp only [valueName?, setterMetadata, tags]
  rfl

theorem Storage.name_of_inputField {storage : Storage} {collected : TypeMethod} {param : Parameter}
    (single : collected.method.params = [param]) :
    (storage.inputField? collected).map (·.name) = storage.valueName? collected.method := by
  unfold inputField? valueName?
  cases inputName? collected.method.name with
  | none => rfl
  | some accessed =>
    simp only [single, Option.bind_eq_bind, Option.bind_some, List.head?_cons]
    split
    · rfl
    · rfl

theorem Method.exists_param {method : Method} (input : method.isInput = true) :
    ∃ param, method.params = [param] := by
  unfold isInput at input
  split at input
  · next param single => exact ⟨param, single⟩
  · simp at input

namespace Catalog

variable {catalog : Catalog} {type : TypeDescriptor} {setter first second : Method} {name : String}

/-- The nearest declaration of the setter makes it stand for a value of the name in the type. -/
def Sets (catalog : Catalog) (type : TypeDescriptor) (setter : Method) (name : String) : Prop :=
  (∃ site, catalog.DeclaresFirst type site ∧ site.method = setter) ∧ setter.isInput = true ∧
    (Storage.ofOwner catalog type .input).valueName? setter = some name

/-- No two setters of the type stand for a value of one name. -/
def SettersApart (catalog : Catalog) (type : TypeDescriptor) : Prop :=
  ∀ first second name, catalog.Sets type first name → catalog.Sets type second name → first = second

theorem exists_setterSites (catalog : Catalog) (type : TypeDescriptor) :
    ∃ sites : List Site,
      (catalog.inputFieldsOf type).map (·.name) = sites.filterMap (fun site =>
        (Storage.ofOwner catalog type .input).valueName? site.method) ∧
      (∀ site, site ∈ sites ↔ catalog.DeclaresFirst type site ∧ site.method.isInput = true) ∧
      sites.Nodup := by
  obtain ⟨sites, same, member, ordered⟩ := catalog.exists_collectedSites type Method.isInput
  refine ⟨sites, ?_, member, ordered.imp fun sooner equal => sooner.ne (congrArg Site.rank equal)⟩
  rw [inputFieldsOf, ← same, List.filterMap_map, List.map_filterMap]
  refine List.filterMap_congr fun site there => ?_
  obtain ⟨param, single⟩ := Method.exists_param ((member site).1 there).2
  have applied : site.declaration.resolve.method.params = [_] :=
    congrArg (List.map _) single
  rw [Function.comp_apply, Storage.name_of_inputField applied]
  exact Storage.valueName_applyToMethod ..

theorem nodup_inputFieldsOf (catalog : Catalog) (type : TypeDescriptor) :
    ((catalog.inputFieldsOf type).map (·.name)).Nodup ↔ catalog.SettersApart type := by
  obtain ⟨sites, names, member, distinct⟩ := catalog.exists_setterSites type
  rw [names, List.Nodup, List.pairwise_filterMap]
  constructor
  · rintro apart _ _ name ⟨⟨site, first, rfl⟩, input, named⟩ ⟨⟨site', first', rfl⟩, input', named'⟩
    by_contra different
    have symmetric : Std.Symm fun site site' : Site =>
        ∀ name, (Storage.ofOwner catalog type .input).valueName? site.method = some name →
          ∀ other, (Storage.ofOwner catalog type .input).valueName? site'.method = some other →
            name ≠ other :=
      ⟨fun _ _ apart name there other here => (apart other here name there).symm⟩
    have separate := apart.forall ((member site).2 ⟨first, input⟩)
      ((member site').2 ⟨first', input'⟩) (fun same => different (congrArg Site.method same))
    exact separate name named name named' rfl
  · intro apart
    refine distinct.imp_of_mem fun {site site'} here there different name named other named' same => ?_
    obtain ⟨declares, input⟩ := (member site).1 here
    obtain ⟨declares', input'⟩ := (member site').1 there
    have equal := apart _ _ name ⟨⟨site, declares, rfl⟩, input, named⟩
      ⟨⟨site', declares', rfl⟩, input', same ▸ named'⟩
    exact different (declares.eq_of_name_eq declares' (congrArg Method.name equal).symm)

theorem settersApart_of_plain
    (plain : ∀ setter name, catalog.Sets type setter name →
      (Storage.ofOwner catalog type .input).NamesPlainly setter) : catalog.SettersApart type := by
  intro first second name sets setsOther
  have plainFirst := plain first name sets
  have plainSecond := plain second name setsOther
  have named : first.name = second.name :=
    eq_of_inputName_eq (Storage.inputName_of_valueName plainFirst sets.2.2)
      (Storage.inputName_of_valueName plainSecond setsOther.2.2) plainFirst.ascii plainSecond.ascii
  obtain ⟨⟨site, declares, rfl⟩, -⟩ := sets
  obtain ⟨⟨site', declares', rfl⟩, -⟩ := setsOther
  rw [declares.eq_of_name_eq declares' named.symm]

end Catalog

end SchemaDiscovery
