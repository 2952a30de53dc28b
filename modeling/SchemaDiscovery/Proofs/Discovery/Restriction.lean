import SchemaDiscovery.Discovery.Field
import SchemaDiscovery.Proofs.Catalog.Restriction
import SchemaDiscovery.Proofs.Discovery.Agenda
import SchemaDiscovery.Proofs.Json.Sized
import SchemaDiscovery.Proofs.Outcome
/-!
Discovery in a catalog that is cut down to some of its keys. Main statement: default values, references,
fields and input values that are made from what mentions shown keys only are made alike, failures
included, and leave the same registry.
-/

namespace SchemaDiscovery

variable {shown : TypeKey → Bool}

namespace Catalog.Confined

variable {catalog : Catalog} (confined : catalog.Confined shown)

section

variable {text : String}

theorem literalsOfItems_restrict {element : TypeUse} {items : List Json}
    (same : ∀ item ∈ items, (catalog.restrict shown).literalOfJson text element item =
      catalog.literalOfJson text element item) :
    (catalog.restrict shown).literalsOfItems text element items =
      catalog.literalsOfItems text element items := by
  induction items with
  | nil => rfl
  | cons item items ih =>
    obtain ⟨here, later⟩ := List.forall_mem_cons.1 same
    rw [literalsOfItems, literalsOfItems, here, ih later]

theorem literalsOfMembers_restrict {type : TypeDescriptor} {fields : List InputField}
    {members : List Json.Member}
    (same : ∀ member ∈ members, ∀ field ∈ fields,
      (catalog.restrict shown).literalOfJson text field.type member.2 =
        catalog.literalOfJson text field.type member.2) :
    (catalog.restrict shown).literalsOfMembers text type fields members =
      catalog.literalsOfMembers text type fields members := by
  induction members with
  | nil => rfl
  | cons member members ih =>
    obtain ⟨key, value⟩ := member
    obtain ⟨here, later⟩ := List.forall_mem_cons.1 same
    rw [literalsOfMembers, literalsOfMembers]
    cases found : fields.find? (·.name = key) with
    | none => rfl
    | some field =>
      simp only [here field (List.mem_of_find?_eq_some found), ih later]

end

include confined

theorem literalOfJson_restrict (text : String) (json : Json) {target : TypeUse}
    (visible : ∀ key ∈ target.mentions, shown key) :
    (catalog.restrict shown).literalOfJson text target json =
      catalog.literalOfJson text target json := by
  induction json using Json.parts_induction generalizing target with
  | null => rw [literalOfJson, literalOfJson]
  | bool b => rw [literalOfJson, literalOfJson, classify_restrict catalog visible]
  | number n => rw [literalOfJson, literalOfJson, classify_restrict catalog visible]
  | string s => rw [literalOfJson, literalOfJson, classify_restrict catalog visible]
  | array items each =>
    rw [literalOfJson, literalOfJson, classify_restrict catalog visible]
    refine bind_congr_ok fun classification classified => ?_
    cases classification with
    | list element =>
      have part := elementOf_of_classify classified rfl
      have inner : ∀ key ∈ element.mentions, shown key :=
        fun key member => visible key (part.mentions_subset member)
      simp only [literalsOfItems_restrict fun item member => each item member inner]
    | _ => rfl
  | object members each =>
    rw [literalOfJson, literalOfJson, classify_restrict catalog visible]
    refine bind_congr_ok fun classification classified => ?_
    cases classification with
    | named type =>
      have present := mem_restrict_of_classify visible classified (.inr rfl)
      have fields := confined.inputFieldsOf_shown present
      simp only [confined.inputFieldsOf_restrict present, literalsOfMembers_restrict
        fun member here field listed => each member here (fields field listed)]
    | _ => rfl

theorem literalOfText_restrict (text : String) {target : TypeUse}
    (visible : ∀ key ∈ target.mentions, shown key) :
    (catalog.restrict shown).literalOfText text target = catalog.literalOfText text target := by
  unfold literalOfText
  rw [classify_restrict catalog visible]
  refine bind_congr_ok fun classification classified => ?_
  cases classification with
  | list element => simp only [confined.literalOfJson_restrict text _ visible]
  | named type =>
    have present := mem_restrict_of_classify visible classified (.inr rfl)
    have fields := confined.inputFieldsOf_shown present
    simp only [confined.inputFieldsOf_restrict present, literalsOfMembers_restrict
      fun member _ field listed => confined.literalOfJson_restrict text member.2 (fields field listed)]
  | _ => rfl

theorem literalOfSpec_restrict (spec : DefaultSpec) {target : TypeUse}
    (visible : ∀ key ∈ target.mentions, shown key) :
    (catalog.restrict shown).literalOfSpec spec target = catalog.literalOfSpec spec target := by
  cases spec with
  | null => rfl
  | text text => exact confined.literalOfText_restrict text visible

end Catalog.Confined

def Errand.key? : Errand → Option TypeKey
  | .discover key _ _ => some key
  | .enqueue _ => none

namespace Domain

def restrict (domain : Domain) (shown : TypeKey → Bool) : Domain :=
  { domain with catalog := domain.catalog.restrict shown }

theorem argumentParameters_subset (method : Method) (skipFirst : Bool) :
    argumentParameters method skipFirst ⊆ method.params := by
  intro param member
  unfold argumentParameters at member
  cases last : method.params.getLast? with
  | none => simp [last] at member
  | some final =>
    rw [last] at member
    have kept : param ∈ (if final.type.isContext then method.params.dropLast else method.params) := by
      cases skipFirst with
      | true => exact List.mem_of_mem_tail member
      | false => exact member
    split at kept
    · exact List.dropLast_subset _ kept
    · exact kept

variable {domain : Domain} (confined : domain.catalog.Confined shown)

include confined

theorem examine_restrict {key : TypeKey} (visible : shown key) (requested : TypeKind)
    (implements : Option String) :
    (domain.restrict shown).examine key requested implements =
      domain.examine key requested implements := by
  unfold examine Catalog.require
  rw [restrict, Catalog.lookup_restrict domain.catalog visible]
  cases found : domain.catalog.lookup? key with
  | none => rfl
  | some type =>
    have present := Catalog.mem_restrict_of_lookup visible found
    simp only [bind, Except.bind, confined.implementedInterface_restrict present]

theorem errands_restrict (finding : Finding) :
    (domain.restrict shown).errands finding = domain.errands finding := by
  simp only [errands, restrict, confined.implementationsOf_restrict]

theorem errands_shown {key : TypeKey} {requested : TypeKind} {implements : Option String}
    {finding : Finding} (visible : shown key)
    (examined : domain.examine key requested implements = .ok finding) :
    ∀ errand ∈ domain.errands finding, ∀ key ∈ errand.key?, shown key := by
  obtain ⟨kind, found, -, declared, -⟩ := examine_ok examined
  intro errand member key asked
  simp only [errands, List.mem_append, List.mem_map, Option.mem_toList] at member
  rcases member with (⟨interface, implemented, rfl⟩ | scanned) | here
  · cases asked
    rw [declared, Option.ite_none_right_eq_some] at implemented
    exact confined.implementedInterface_shown (Catalog.mem_restrict_of_lookup visible found)
      implemented.2
  · split at scanned
    · obtain ⟨implementation, listed, rfl⟩ := List.mem_map.1 scanned
      cases asked
      exact confined.implementationsOf_shown listed
    · cases scanned
  · rw [List.mem_singleton.1 here] at asked
    cases asked

theorem run_restrict (registry : Registry) (agenda : List Errand)
    (visible : ∀ errand ∈ agenda, ∀ key ∈ errand.key?, shown key) :
    (domain.restrict shown).run registry agenda = domain.run registry agenda := by
  fun_induction domain.run registry agenda with
  | case1 => rw [run]
  | case2 registry name rest ih =>
    rw [run, ih (List.forall_mem_cons.1 visible).2]
  | case3 registry key requested implements rest e examined =>
    rw [run, examine_restrict confined (visible _ List.mem_cons_self key rfl), examined]
  | case4 registry key requested implements rest finding examined e after recorded =>
    rw [run, examine_restrict confined (visible _ List.mem_cons_self key rfl), examined]
    dsimp only
    rw [recorded]
  | case5 registry key requested implements rest finding examined entry after recorded ih =>
    rw [run, examine_restrict confined (visible _ List.mem_cons_self key rfl), examined]
    dsimp only
    rw [recorded]
    exact ih (List.forall_mem_cons.1 visible).2
  | case6 registry key requested implements rest finding examined entry after recorded ih =>
    obtain ⟨here, later⟩ := List.forall_mem_cons.1 visible
    rw [run, examine_restrict confined (here key rfl), examined]
    dsimp only
    rw [recorded, errands_restrict confined]
    refine ih fun errand member => ?_
    rcases List.mem_append.1 member with fresh | old
    · exact errands_shown confined (here key rfl) examined errand fresh
    · exact later errand old

theorem discover_restrict (registry : Registry) {key : TypeKey} (visible : shown key)
    (requested : TypeKind) :
    (domain.restrict shown).discover registry key requested =
      domain.discover registry key requested := by
  unfold discover
  rw [examine_restrict confined visible, run_restrict confined]
  intro errand member other asked
  rw [List.mem_singleton.1 member] at asked
  cases asked
  exact visible

theorem reference_restrict {type : TypeDescriptor} (visible : shown type.key)
    (direction : Direction) :
    (domain.restrict shown).reference type direction = domain.reference type direction := by
  unfold reference
  simp only [discover_restrict confined _ visible]

theorem typeRef_restrict (direction : Direction) (context : String) (nonNull : Bool) {use : TypeUse}
    (visible : ∀ key ∈ use.mentions, shown key) :
    (domain.restrict shown).typeRef direction context nonNull use =
      domain.typeRef direction context nonNull use := by
  have same {use : TypeUse} (visible : ∀ key ∈ use.mentions, shown key) :
      (domain.restrict shown).catalog.classify use = domain.catalog.classify use :=
    Catalog.classify_restrict domain.catalog visible
  have inner {use element : TypeUse} {classification : Classification}
      (visible : ∀ key ∈ use.mentions, shown key)
      (classified : domain.catalog.classify use = .ok classification)
      (has : classification.element? = some element) : ∀ key ∈ element.mentions, shown key :=
    fun key member =>
      visible key ((elementOf_of_classify classified has).mentions_subset member)
  fun_induction domain.typeRef direction context nonNull use with
  | case1 _ _ _ _ classified => rw [typeRef.eq_def, same visible, classified]
  | case2 _ _ _ _ _ _ classified => rw [typeRef.eq_def, same visible, classified]
  | case3 _ _ _ _ classified =>
    rw [typeRef.eq_def, same visible, classified]
    rfl
  | case4 direction nonNull use _ type classified =>
    have present := Catalog.mem_restrict_of_classify visible classified (.inl rfl)
    rw [typeRef.eq_def, same visible, classified]
    dsimp only
    rw [reference_restrict confined (Catalog.shown_of_mem_restrict present)]
  | case5 direction nonNull use _ type classified =>
    have present := Catalog.mem_restrict_of_classify visible classified (.inr rfl)
    rw [typeRef.eq_def, same visible, classified]
    dsimp only
    rw [reference_restrict confined (Catalog.shown_of_mem_restrict present)]
  | case6 direction nonNull use _ element classified ih =>
    rw [typeRef.eq_def, same visible, classified]
    dsimp only
    rw [ih (inner visible classified rfl)]
  | case7 nonNull use _ element classified ih =>
    rw [typeRef.eq_def, same visible, classified]
    exact ih (inner visible classified rfl)
  | case8 _ _ _ classified => rw [typeRef.eq_def, same visible, classified]
  | case9 _ _ _ classified => rw [typeRef.eq_def, same visible, classified]
  | case10 _ _ _ classified => rw [typeRef.eq_def, same visible, classified]

theorem fieldType_restrict (context : String) (nonNull : Bool) {use : TypeUse}
    (visible : ∀ key ∈ use.mentions, shown key) :
    (domain.restrict shown).fieldType context nonNull use = domain.fieldType context nonNull use := by
  unfold fieldType
  rw [show (domain.restrict shown).catalog.classify use = domain.catalog.classify use from
    Catalog.classify_restrict domain.catalog visible]
  refine liftM_bind_congr fun classification classified => ?_
  have within : ∀ key ∈ (classification.unwrapped use).mentions, shown key := by
    cases classification with
    | asyncWrapper element =>
      have part := elementOf_of_classify classified rfl
      exact fun key member => visible key (part.mentions_subset member)
    | _ => exact visible
  have inner : (domain.restrict shown).catalog.classify (classification.unwrapped use) =
      domain.catalog.classify (classification.unwrapped use) :=
    Catalog.classify_restrict domain.catalog within
  simp only [inner, typeRef_restrict confined .output context _ within]

theorem inputValue_restrict (name context : String) (metadata : Metadata) {use : TypeUse}
    (visible : ∀ key ∈ use.mentions, shown key) :
    (domain.restrict shown).inputValue name context metadata use =
      domain.inputValue name context metadata use := by
  have compiled : (domain.restrict shown).defaultLiteral metadata use =
      domain.defaultLiteral metadata use := by
    unfold defaultLiteral
    cases metadata.default with
    | none => rfl
    | some spec => exact congrArg (Except.map some) (confined.literalOfSpec_restrict spec visible)
  unfold inputValue
  rw [typeRef_restrict confined .input context _ visible, compiled]

theorem argument_restrict (context : String) {param : Parameter}
    (visible : ∀ key ∈ param.type.mentions, shown key) :
    (domain.restrict shown).argument context param = domain.argument context param :=
  inputValue_restrict confined _ _ _ visible

theorem field_restrict (storage : Storage) (source : String) (skipFirst : Bool) {method : Method}
    (visible : ∀ key ∈ method.mentions, shown key) :
    (domain.restrict shown).field? storage source skipFirst method =
      domain.field? storage source skipFirst method := by
  have passed (context : String) :
      (argumentParameters method skipFirst).mapM ((domain.restrict shown).argument context) =
        (argumentParameters method skipFirst).mapM (domain.argument context) := by
    refine mapM_congr fun param member => argument_restrict confined context fun key mentioned => ?_
    refine visible key (List.mem_append_left _ (List.mem_flatMap.2 ⟨param, ?_, mentioned⟩))
    exact argumentParameters_subset method skipFirst member
  unfold field?
  dsimp only
  split
  · next use ignored returned =>
    have within : ∀ key ∈ use.mentions, shown key := by
      intro key mentioned
      refine visible key (List.mem_append_right _ (List.mem_flatMap.2 ⟨use, ?_, mentioned⟩))
      rw [returned]
      exact List.mem_singleton.2 rfl
    rw [fieldType_restrict confined _ _ within, passed]
  · rfl

theorem fields_restrict (storage : Storage) (skipFirst : Bool) {methods : List (String × Method)}
    (visible : ∀ item ∈ methods, ∀ key ∈ item.2.mentions, shown key) :
    (domain.restrict shown).fields storage skipFirst methods =
      domain.fields storage skipFirst methods := by
  unfold fields
  rw [mapM_congr fun item member => field_restrict confined _ _ _ (visible item member)]

theorem declaredFields_restrict {type : TypeDescriptor}
    (present : type ∈ (domain.catalog.restrict shown).types) (kind : TypeKind) :
    (domain.restrict shown).declaredFields type kind = domain.declaredFields type kind := by
  unfold declaredFields
  rw [restrict, confined.ofOwner_restrict present, confined.methodsOf_restrict present]
  refine fields_restrict confined _ _ fun item member => ?_
  obtain ⟨collected, listed, rfl⟩ := List.mem_map.1 member
  exact confined.methodsOf_shown present collected listed

theorem contributedFields_restrict {resolver : Resolver}
    (visible : ∀ key ∈ resolver.mentions, shown key) :
    (domain.restrict shown).contributedFields resolver = domain.contributedFields resolver := by
  refine fields_restrict confined _ _ fun item member key mentioned => ?_
  obtain ⟨method, kept, rfl⟩ := List.mem_map.1 member
  have listed := (List.mem_filter.1 (List.mem_filter.1 kept).1).1
  exact visible key (List.mem_append_right _ (List.mem_flatMap.2 ⟨method, listed, mentioned⟩))

theorem inputValues_restrict (name : String) {type : TypeDescriptor}
    (present : type ∈ (domain.catalog.restrict shown).types) :
    (domain.restrict shown).inputValues name type = domain.inputValues name type := by
  have listed : (domain.restrict shown).catalog.inputFieldsOf type =
      domain.catalog.inputFieldsOf type := confined.inputFieldsOf_restrict present
  have each : (domain.catalog.inputFieldsOf type).mapM (fun field =>
        (domain.restrict shown).inputValue field.name (name ++ "." ++ field.name) field.metadata
          field.type) =
      (domain.catalog.inputFieldsOf type).mapM fun field =>
        domain.inputValue field.name (name ++ "." ++ field.name) field.metadata field.type :=
    mapM_congr fun field member =>
      inputValue_restrict confined _ _ _ (confined.inputFieldsOf_shown present field member)
  unfold inputValues
  rw [listed, each]

end Domain

end SchemaDiscovery
