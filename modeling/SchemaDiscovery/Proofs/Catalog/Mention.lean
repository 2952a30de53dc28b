import SchemaDiscovery.Descriptor.Resolver
import SchemaDiscovery.Methods.Inherited
import SchemaDiscovery.Proofs.Catalog.Lineage
/-!
The keys that descriptors mention. Main statement: what a lineage puts in for type variables mentions no
key that the descriptors on the way do not mention, so neither do the methods that a type inherits.
-/

namespace SchemaDiscovery

namespace TypeUse

mutual

def mentions : TypeUse → List TypeKey
  | .atom (.named key) _ => [key]
  | .atom _ _ => []
  | .generic _ args _ => mentionsAll args

def mentionsAll : List TypeUse → List TypeKey
  | [] => []
  | use :: uses => mentions use ++ mentionsAll uses

end

@[simp] theorem mentions_addTags (use : TypeUse) (tags : List Tag) :
    (use.addTags tags).mentions = use.mentions := by
  rcases use with ⟨_ | _, _⟩ | _ <;> simp [addTags, mentions]

theorem mem_mentionsAll {uses : List TypeUse} {key : TypeKey} :
    key ∈ mentionsAll uses ↔ ∃ use ∈ uses, key ∈ use.mentions := by
  induction uses with
  | nil => simp [mentionsAll]
  | cons use uses ih => simp [mentionsAll, ih]

end TypeUse

def Supertype.mentions (supertype : Supertype) : List TypeKey :=
  supertype.key :: TypeUse.mentionsAll supertype.args

def Method.mentions (method : Method) : List TypeKey :=
  method.params.flatMap (·.type.mentions) ++ method.returns.toList.flatMap (·.mentions)

def TypeDescriptor.mentions (type : TypeDescriptor) : List TypeKey :=
  type.supertypes.flatMap (·.mentions) ++ type.fields.flatMap (·.type.mentions) ++
    type.methods.flatMap (·.mentions)

def Resolver.mentions (resolver : Resolver) : List TypeKey :=
  resolver.role.source?.toList ++ resolver.methods.flatMap (·.mentions)

def Catalog.mentions (catalog : Catalog) : List TypeKey := catalog.types.flatMap (·.mentions)

namespace Bindings

def mentions (bindings : Bindings) : List TypeKey := bindings.flatMap (·.2.mentions)

theorem mentions_argument {bindings : Bindings} {name : String} {argument : TypeUse}
    (found : bindings.argument? name = some argument) : argument.mentions ⊆ bindings.mentions := by
  obtain ⟨binding, present, rfl⟩ := Option.map_eq_some_iff.1 found
  intro key member
  exact List.mem_flatMap.2 ⟨binding, List.mem_of_find?_eq_some present, member⟩

theorem mentions_bind (params : List String) (args : List TypeUse) :
    (bind params args).mentions ⊆ TypeUse.mentionsAll args := by
  intro key member
  obtain ⟨⟨param, argument⟩, bound, here⟩ := List.mem_flatMap.1 member
  have paired := List.of_mem_zip (Ordered.mem_ofList bound)
  exact TypeUse.mem_mentionsAll.2 ⟨argument, paired.2, here⟩

mutual

theorem mentions_apply (bindings : Bindings) (use : TypeUse) :
    (bindings.apply use).mentions ⊆ use.mentions ++ bindings.mentions := by
  match use with
  | .atom (.param name) tags =>
    rw [apply]
    split
    · next argument found =>
      rw [TypeUse.mentions_addTags]
      exact List.subset_append_of_subset_right _ (mentions_argument found)
    · exact List.subset_append_left _ _
  | .atom (.primitive _) _ | .atom (.boxed _) _ | .atom (.named _) _ | .atom .any _
  | .atom .rawMap _ | .atom .rawCollection _ | .atom .context _ =>
    exact List.subset_append_left _ _
  | .generic shape args tags => exact mentions_applyAll bindings args

theorem mentions_applyAll (bindings : Bindings) (uses : List TypeUse) :
    TypeUse.mentionsAll (bindings.applyAll uses) ⊆
      TypeUse.mentionsAll uses ++ bindings.mentions := by
  match uses with
  | [] => exact List.nil_subset _
  | use :: uses =>
    have first := mentions_apply bindings use
    have rest := mentions_applyAll bindings uses
    simp only [applyAll, TypeUse.mentionsAll]
    grind

end

theorem mentions_applyToMethod (bindings : Bindings) (method : Method) :
    (bindings.applyToMethod method).mentions ⊆ method.mentions ++ bindings.mentions := by
  intro key member
  simp only [Method.mentions, applyToMethod, List.mem_append, List.mem_flatMap, List.mem_map,
    Option.mem_toList, Option.map_eq_some_iff] at member ⊢
  rcases member with ⟨_, ⟨param, here, rfl⟩, mentioned⟩ | ⟨_, ⟨use, here, rfl⟩, mentioned⟩
  · rcases List.mem_append.1 (mentions_apply _ _ mentioned) with own | put
    · exact .inl (.inl ⟨param, here, own⟩)
    · exact .inr put
  · rcases List.mem_append.1 (mentions_apply _ _ mentioned) with own | put
    · exact .inl (.inr ⟨use, here, own⟩)
    · exact .inr put

end Bindings

end SchemaDiscovery
