import SchemaDiscovery.Proofs.Build.History
import SchemaDiscovery.Proofs.Discovery.FieldNames
import SchemaDiscovery.Proofs.Schema.Closure
import SchemaDiscovery.Proofs.Schema.Extension
/-!
Objects and the interfaces that they name. Main statement: in a built schema an interface that an
object names is defined, and the object has its fields, but for those that the source type of the
object withholds. This takes names that are not shared: an object type and an interface are known by
their names, and of the types of one name only the first is looked at.
-/

namespace SchemaDiscovery

namespace Catalog

/-- The type can be discovered in the role under the name. -/
def Discoverable (catalog : Catalog) (kind : TypeKind) (name : String) (type : TypeDescriptor) :
    Prop :=
  type ∈ catalog.types ∧ type.kindWhen kind = .ok kind ∧ type.schemaName kind = name

instance (catalog : Catalog) (kind : TypeKind) (name : String) (type : TypeDescriptor) :
    Decidable (catalog.Discoverable kind name type) :=
  inferInstanceAs (Decidable (_ ∧ _ ∧ _))

/-- At most one type can be discovered in the role under the name. -/
def Unambiguous (catalog : Catalog) (kind : TypeKind) (name : String) : Prop :=
  ∀ type ∈ catalog.types, ∀ other ∈ catalog.types, catalog.Discoverable kind name type →
    catalog.Discoverable kind name other → type = other

instance (catalog : Catalog) (kind : TypeKind) (name : String) :
    Decidable (catalog.Unambiguous kind name) :=
  inferInstanceAs (Decidable (∀ type ∈ catalog.types, ∀ other ∈ catalog.types, _ → _))

theorem Unambiguous.unique {catalog : Catalog} {kind : TypeKind} {name : String}
    {type other : TypeDescriptor} (unambiguous : catalog.Unambiguous kind name)
    (left : catalog.Discoverable kind name type) (right : catalog.Discoverable kind name other) :
    type = other :=
  unambiguous type left.1 other right.1 left right

end Catalog

def Schema.HasField (schema : Schema) (object field : String) : Prop :=
  ∃ part ∈ schema.definitions, part.isObjectOf object ∧ field ∈ part.fields.map (·.name)

instance (schema : Schema) (object field : String) : Decidable (schema.HasField object field) :=
  inferInstanceAs (Decidable (∃ part ∈ schema.definitions, _ ∧ _))

/-- Each interface that an object names is defined, and the object has its fields. -/
def Schema.Conforms (schema : Schema) : Prop :=
  ∀ object ∈ schema.definitions, ∀ name ∈ object.fullName? .object,
    ∀ interface ∈ object.implements,
      (∃ definition ∈ schema.definitions, definition.fullName? .interface = some interface) ∧
      ∀ definition ∈ schema.definitions, definition.fullName? .interface = some interface →
        ∀ field ∈ definition.fields.map (·.name), schema.HasField name field

instance (schema : Schema) : Decidable schema.Conforms :=
  inferInstanceAs (Decidable (∀ object ∈ schema.definitions, ∀ name ∈ object.fullName? .object,
    ∀ interface ∈ object.implements, _ ∧ _))

theorem Discovery.defineObject_shows {start finish : Discovery} {name : String}
    {type : Option TypeDescriptor} {implements : Option String} {fields : List BoundField}
    {definition : Option Definition}
    (defined : start.defineObject name type implements fields = (definition, finish))
    {field : BoundField} (kept : field ∈ distinctFields fields) :
    ∃ part ∈ definition.toList, part.isObjectOf name ∧ field.definition ∈ part.fields := by
  have emitted : ∃ part, part ∈ definition := by
    cases defineObject_defines defined with
    | full implementations fresh => exact ⟨_, rfl⟩
    | nothing known none =>
      rw [none] at kept
      cases kept
    | extension known some => exact ⟨_, rfl⟩
  obtain ⟨part, here⟩ := emitted
  obtain ⟨object, same, -⟩ := defineObject_fields defined part (Option.mem_toList.2 here)
  refine ⟨part, Option.mem_toList.2 here, object, ?_⟩
  rw [same]
  exact List.mem_map_of_mem kept

namespace Domain

variable {domain : Domain} {turn : Turn} {start finish : Discovery}
  {definitions : List Definition}

theorem Step.extras_kept {name : String} (step : domain.Step turn start definitions finish)
    (built : name ∈ start.builtInterfaces) : finish.extrasOf name = start.extrasOf name := by
  cases turn with
  | entry popped =>
    unfold Discovery.extrasOf
    rw [step.extras_entry]
  | resolver source =>
    cases step with
    | root role contributed defined =>
      unfold Discovery.extrasOf
      rw [Discovery.defineObject_extras defined]
    | extension role discovered kind contributed present defined =>
      unfold Discovery.extrasOf
      rw [Discovery.defineObject_extras defined]
    | @resolvedInterface _ _ other _ _ _ _ _ _ _ _ _ role discovered kind contributed first present
        declared defined =>
      obtain ⟨fresh, -, rfl⟩ := Discovery.defineInterface_ok defined
      have different : ¬ other = name := by
        rintro rfl
        exact fresh built
      simp [Discovery.extrasOf, Discovery.recordBindings, different]

theorem Run.extras_kept {turns : List Turn} {name : String}
    (run : domain.Run turns start definitions finish)
    (consistent : domain.Consistent start.registry) (built : name ∈ start.builtInterfaces) :
    finish.extrasOf name = start.extrasOf name := by
  induction run with
  | nil => rfl
  | cons step rest ih =>
    obtain ⟨_, _, works⟩ := step.works consistent.sound
    rw [ih (step.consistent consistent) (works.kept .interface built), step.extras_kept built]

theorem Step.object_of_kind {entry : DiscoveredType}
    (step : domain.Step (.entry entry) start definitions finish) (object : entry.kind = .object) :
    ∃ type opened registry own definition, start.registry.find? entry.name = some entry ∧
      domain.catalog.lookup? entry.source = some type ∧
      Gives (domain.declaredFields type .object) opened own registry ∧
      definitions = Option.toList definition ∧
      { start with registry }.defineObject entry.name (some type) entry.implements
        (own ++ entry.implements.elim [] start.extrasOf) = (definition, finish) := by
  cases step with
  | object popped kind present declared defined =>
    obtain ⟨rest, -, found, -⟩ := Registry.pop_some popped
    exact ⟨_, _, _, _, _, found, present, declared, rfl, defined⟩
  | interface popped kind =>
    rw [kind] at object
    cases object
  | builtInterface popped kind =>
    rw [kind] at object
    cases object
  | input popped kind =>
    rw [kind] at object
    cases object
  | enum popped kind =>
    rw [kind] at object
    cases object

variable {resolvers : List Resolver} {schema : Schema}

theorem implements_of_emission {entry : DiscoveredType} {before after : Discovery}
    {middle : List Definition} {definition : Option Definition} {opened : Discovery}
    {type : Option TypeDescriptor} {fields : List BoundField}
    (emission : domain.Emission resolvers schema entry before middle after)
    (found : before.registry.find? entry.name = some entry) (same : middle = definition.toList)
    (defined : opened.defineObject entry.name type entry.implements fields = (definition, after))
    {full : Definition} (member : full ∈ schema.definitions)
    (complete : full.fullName? .object = some entry.name) :
    ∀ interface ∈ full.implements, entry.implements = some interface := by
  intro interface names
  obtain ⟨turns, entries, first, later, prior, rest, whole⟩ := emission.runs
  have consistent := prior.consistent consistent_empty
  rw [whole] at member
  rcases List.mem_append.1 (emitted_of_full member complete) with past | member
  · obtain ⟨known, again, link⟩ := prior.links full past entry.name complete interface names
    rw [found] at again
    cases again
    exact link
  rcases List.mem_append.1 member with here | future
  · rw [same] at here
    obtain ⟨-, own⟩ := Discovery.defineObject_implements defined full here entry.name complete
    rw [own] at names
    exact Option.mem_toList.1 names
  -- A later definition is none in full, since the name is defined by then.
  · exact absurd (Discovery.mem_definedObjects defined)
      (rest.fresh_of_full (emission.step.consistent consistent) full future complete)

theorem Built.object_turn (built : domain.Built resolvers schema) {name : String}
    (recorded : (domain.finalDiscovery resolvers).registry.kindOf? name = some .object) :
    ∃ entry type own extras, (domain.finalDiscovery resolvers).registry.find? name = some entry ∧
      domain.catalog.lookup? entry.source = some type ∧
      own.map (·.definition.name) = domain.catalog.fieldNames type .object ∧
      (∀ field ∈ distinctFields (own ++ extras), ∃ part ∈ schema.definitions,
        part.isObjectOf name ∧ field.definition ∈ part.fields) ∧
      ∀ full ∈ schema.definitions, full.fullName? .object = some name →
        ∀ interface ∈ full.implements,
          extras = (domain.finalDiscovery resolvers).extrasOf interface := by
  obtain ⟨entry, before, middle, after, rfl, kind, emission⟩ := built.emission recorded
  obtain ⟨type, opened, registry, own, definition, found, present, declared, same, defined⟩ :=
    emission.step.object_of_kind kind
  obtain ⟨turns, entries, first, later, prior, rest, whole⟩ := emission.runs
  obtain ⟨link, final⟩ := (emission.step.grows.trans rest.grows).kept entry.name entry found
  refine ⟨_, type, own, entry.implements.elim [] before.extrasOf, final, present,
    names_of_declaredFields declared, fun field kept => ?_, ?_⟩
  · obtain ⟨part, member, object, has⟩ := Discovery.defineObject_shows defined kept
    refine ⟨part, ?_, object, has⟩
    rw [whole, same]
    exact List.mem_append_right _ (List.mem_append_right _ (List.mem_append_left _ member))
  · intro full member complete interface names
    rw [implements_of_emission emission found same defined member complete interface names]
    show before.extrasOf interface = _
    unfold Discovery.extrasOf
    rw [rest.extras_entries, emission.step.extras_entry]

theorem Built.object_fields (built : domain.Built resolvers schema) {name : String}
    (recorded : (domain.finalDiscovery resolvers).registry.kindOf? name = some .object) :
    ∃ entry type, (domain.finalDiscovery resolvers).registry.find? name = some entry ∧
      domain.catalog.lookup? entry.source = some type ∧
      (∀ field ∈ domain.catalog.fieldNames type .object, schema.HasField name field) ∧
      ∀ definition ∈ schema.definitions, definition.fullName? .object = some name →
        ∀ interface ∈ definition.implements,
          ∀ field ∈ ((domain.finalDiscovery resolvers).extrasOf interface).map (·.definition.name),
            schema.HasField name field := by
  obtain ⟨entry, type, own, extras, final, present, names, shown, added⟩ :=
    built.object_turn recorded
  have shows {field : String} (listed : field ∈ (own ++ extras).map (·.definition.name)) :
      schema.HasField name field := by
    obtain ⟨bound, kept, rfl⟩ := List.mem_map.1 (mem_names_distinctFields.2 listed)
    obtain ⟨part, member, object, has⟩ := shown bound kept
    exact ⟨part, member, object, List.mem_map_of_mem has⟩
  refine ⟨entry, type, final, present, fun field mentioned => shows ?_, ?_⟩
  · rw [List.map_append, names]
    exact List.mem_append_left _ mentioned
  · intro full member complete interface implements field mentioned
    refine shows ?_
    rw [List.map_append, added full member complete interface implements]
    exact List.mem_append_right _ mentioned

def textGetter (name : String) : Method where
  name := name
  returns := some (.atom (.boxed .string) [])

def asking (questions : List (String × String)) : Resolver where
  name := "Asking"
  role := .query
  methods := questions.map fun (name, key) =>
    { name, params := [⟨"context", .atom .context [], []⟩]
      returns := some (.atom (.named ⟨key⟩) []) }

def namesakes : Domain × List Resolver :=
  ({ catalog := .ofTypes [
      { key := ⟨"river::Ship"⟩, methods := [textGetter "getName"] },
      { key := ⟨"port::Vessel"⟩, form := .isInterface, tags := [.interface none]
        methods := [textGetter "getFlag"] },
      { key := ⟨"port::Ship"⟩, interfaces := [⟨⟨"port::Vessel"⟩, []⟩]
        tags := [.implementation none], methods := [textGetter "getName"] }] },
    [asking [("barge", "river::Ship"), ("ship", "port::Ship")]])

end Domain

end SchemaDiscovery
