import SchemaDiscovery.Discovery.Field
/-!
Definitions emitted during discovery, with what is remembered about the emitted ones.
-/

namespace SchemaDiscovery

/-- Which method of which source resolves a field. -/
structure FieldBinding where
  parentType : String
  field : String
  source : String
  method : String
  shape : FieldShape
  deriving DecidableEq, Repr

structure Discovery where
  registry : Registry := .empty
  definedObjects : List String := []
  builtInterfaces : List String := []
  interfaceResolvers : List (String × String) := []
  interfaceExtras : List (String × List BoundField) := []
  implementations : List (String × TypeKey) := []
  bindings : List FieldBinding := []
  deriving Repr

/-- A step of the build: it may fail, and keeps the discovery as far as it came. -/
abbrev Building := ExceptT SchemaError (StateM Discovery)

def Discovering.build {α : Type} (step : Discovering α) : Building α :=
  ExceptT.mk fun discovery =>
    let (outcome, registry) := step.run discovery.registry
    (outcome, { discovery with registry })

def BoundField.bind (field : BoundField) (typeName : String) : FieldBinding :=
  ⟨typeName, field.definition.name, field.source, field.method, field.shape⟩

/-- Of fields of one name the last, in the place of the first. -/
def distinctFields (fields : List BoundField) : List BoundField :=
  Ordered.ofList (·.definition.name) fields

namespace Discovery

def recordBindings (discovery : Discovery) (typeName : String) (fields : List BoundField) :
    Discovery :=
  { discovery with bindings := discovery.bindings ++ fields.map (·.bind typeName) }

/-- Emits an object definition, or an extension when the object is already defined. An extension has
no description and no interfaces, and is left out when it has no fields. -/
def defineObject (discovery : Discovery) (name : String) (type : Option TypeDescriptor)
    (implements : Option String) (fields : List BoundField) :
    Option Definition × Discovery :=
  let fields := distinctFields fields
  let definitions := fields.map (·.definition)
  if discovery.definedObjects.contains name then
    if fields.isEmpty then (none, discovery)
    else
      (some (.type { name, isExtension := true, body := .object [] definitions }),
        discovery.recordBindings name fields)
  else
    let implementations := match implements, type with
      | some _, some type => Ordered.put Prod.fst (name, type.key) discovery.implementations
      | _, _ => discovery.implementations
    (some (.type {
        name
        description := type.bind (·.description?)
        body := .object implements.toList definitions }),
      { discovery.recordBindings name fields with
        definedObjects := name :: discovery.definedObjects
        implementations })

def defineInterface (discovery : Discovery) (name : String) (type : TypeDescriptor)
    (fields : List BoundField) : Except SchemaError (Definition × Discovery) :=
  let fields := distinctFields fields
  if discovery.builtInterfaces.contains name then .error (.duplicateInterface name)
  else
    .ok (.type {
        name
        description := type.description?
        body := .interface [] (fields.map (·.definition)) },
      { discovery.recordBindings name fields with
        builtInterfaces := name :: discovery.builtInterfaces })

def resolverOf? (discovery : Discovery) (interface : String) : Option String :=
  (discovery.interfaceResolvers.find? (·.1 = interface)).map Prod.snd

def extrasOf (discovery : Discovery) (interface : String) : List BoundField :=
  ((discovery.interfaceExtras.find? (·.1 = interface)).map Prod.snd).getD []

end Discovery

def enumDefinition (name : String) (type : TypeDescriptor) : Definition :=
  .type {
    name
    description := type.description?
    body := .enum ((type.members?.getD []).map fun member => { name := member }) }

def inputDefinition (name : String) (type : TypeDescriptor) (values : List InputValue) :
    Definition :=
  .type { name, description := type.description?, body := .input values }

namespace Domain

def defineObject (name : String) (type : Option TypeDescriptor) (implements : Option String)
    (fields : List BoundField) : Building (Option Definition) :=
  modifyGet fun discovery => discovery.defineObject name type implements fields

def defineInterface (name : String) (type : TypeDescriptor) (fields : List BoundField) :
    Building Definition := do
  let (definition, discovery) ← (← get).defineInterface name type fields
  set discovery
  return definition

def defineResolvedInterface (domain : Domain) (name : String) (source : TypeKey)
    (resolver : Resolver) (extras : List BoundField) : Building Definition := do
  if let some first := (← get).resolverOf? name then
    throw (.conflictingInterfaceResolvers name first resolver.name)
  modify fun discovery =>
    { discovery with interfaceResolvers := (name, resolver.name) :: discovery.interfaceResolvers }
  let type ← domain.catalog.require source
  let own ← (domain.declaredFields type .interface).build
  modify fun discovery =>
    { discovery with interfaceExtras := (name, extras) :: discovery.interfaceExtras }
  defineInterface name type (own ++ extras)

def resolverTarget (domain : Domain) (resolver : Resolver) : Building (String × TypeKind) :=
  match resolver.role with
  | .query => return ("Query", .object)
  | .mutation => return ("Mutation", .object)
  | .subscription => return ("Subscription", .object)
  | .extension source => do
    let name ← Discovering.build <| ExceptT.mk fun registry =>
      domain.discover registry source .object
    let kind := (((← get).registry.find? name).map (·.kind)).getD .object
    if kind = .object ∨ kind = .interface then return (name, kind)
    else throw (.invalidResolver resolver.name source kind)

def addResolver (domain : Domain) (resolver : Resolver) : Building (List Definition) := do
  let (name, kind) ← domain.resolverTarget resolver
  let fields ← (domain.contributedFields resolver).build
  match kind, resolver.role.source? with
  | .interface, some source =>
    return [← domain.defineResolvedInterface name source resolver fields]
  | _, source => do
    let type ← match source with
      | some source => some <$> (domain.catalog.require source : Except SchemaError _)
      | none => pure none
    let implements := ((← get).registry.find? name).bind (·.implements)
    return (← defineObject name type implements fields).toList

/-- Emits the definition of a type from the queue. An interface that its resolver has emitted is not
emitted again. -/
def defineDiscovered (domain : Domain) (entry : DiscoveredType) : Building (Option Definition) := do
  let type ← domain.catalog.require entry.source
  match entry.kind with
  | .object =>
    let own ← (domain.declaredFields type .object).build
    let discovery ← get
    let extras := entry.implements.elim [] discovery.extrasOf
    defineObject entry.name (some type) entry.implements (own ++ extras)
  | .interface =>
    let discovery ← get
    if discovery.builtInterfaces.contains entry.name &&
        (discovery.resolverOf? entry.name).isSome then
      return none
    else
      let own ← (domain.declaredFields type .interface).build
      return some (← defineInterface entry.name type own)
  | .input => return some (inputDefinition entry.name type
      (← (domain.inputValues entry.name type).build))
  | .enum => return some (enumDefinition entry.name type)

def drain (domain : Domain) : Nat → Building (List Definition)
  | 0 => return []
  | limit + 1 => do
    match (← get).registry.pop? with
    | none => return []
    | some (entry, registry) =>
      modify fun discovery => { discovery with registry }
      let definition ← domain.defineDiscovered entry
      return definition.toList ++ (← domain.drain limit)

/-- Emits the types in the queue and those discovered meanwhile. There are no more of them than
names in the catalog. -/
def defineQueued (domain : Domain) : Building (List Definition) :=
  domain.drain domain.catalog.possibleNames.length

end Domain

end SchemaDiscovery
