import SchemaDiscovery.Schema
/-!
A schema that is built when it is first asked for, kept until it is dropped, and not built again
after a failure by callers who would wait for it.
-/

namespace SchemaDiscovery

/-- A build result, told apart from other results by its number. -/
structure BuiltSchema where
  number : Nat
  schema : Schema
  deriving Repr

inductive HolderState
  | uninitialized
  | building
  | ready
  | failed
  deriving DecidableEq, Repr

def HolderState.label : HolderState → String
  | .uninitialized => "Uninitialized"
  | .building => "Building"
  | .ready => "Ready"
  | .failed => "Failed"

structure SchemaHolder where
  state : HolderState := .uninitialized
  cached : Option BuiltSchema := none
  lastError : Option String := none
  successes : Nat := 0
  deriving Repr

/-- The answer to a caller; one who waits has none before the build that is under way ends. -/
inductive HolderAnswer
  | built (result : BuiltSchema)
  | refused (error : SchemaError)
  | waits

namespace SchemaHolder

def begin (holder : SchemaHolder) : SchemaHolder := { holder with state := .building }

def complete (holder : SchemaHolder) (outcome : Except SchemaError Schema) :
    HolderAnswer × SchemaHolder :=
  match outcome with
  | .ok schema =>
    let result : BuiltSchema := ⟨holder.successes, schema⟩
    (.built result,
      { state := .ready, cached := some result, successes := holder.successes + 1 })
  | .error e =>
    (.refused (.buildFailed e.message),
      { holder with state := .failed, lastError := some e.message })

def runBuild (holder : SchemaHolder) (outcome : Except SchemaError Schema) :
    HolderAnswer × SchemaHolder :=
  holder.begin.complete outcome

/-- Why a caller gets no build of its own, if it does not. `waiting` callers sit out a build that is
under way and take a failure as it is. -/
def settled? (holder : SchemaHolder) (waiting : Bool) : Option HolderAnswer :=
  match holder.cached, holder.state, waiting, holder.lastError with
  | some result, _, _, _ => some (.built result)
  | none, .building, false, _ => some (.refused .initializing)
  | none, .building, true, _ => some .waits
  | none, .failed, true, some message => some (.refused (.buildFailed message))
  | none, _, _, _ => none

/-- The schema, built if need be; `outcome` is what a build now comes to. -/
def ask (holder : SchemaHolder) (waiting : Bool) (outcome : Except SchemaError Schema) :
    HolderAnswer × SchemaHolder :=
  match holder.settled? waiting with
  | some answer => (answer, holder)
  | none => holder.runBuild outcome

def reset (holder : SchemaHolder) : SchemaHolder := { successes := holder.successes }

def isReady (holder : SchemaHolder) : Bool := holder.state = .ready

/-- The holder as seen from within the build that a call starts, if it starts one. -/
def duringCall? (holder : SchemaHolder) (waiting : Bool) : Option SchemaHolder :=
  if (holder.settled? waiting).isNone then some holder.begin else none

end SchemaHolder

/-- Whether a build looks up a type: it then fails on an empty catalog for want of that type. -/
def Domain.consultsCatalog (domain : Domain) (resolvers : List Resolver) : Bool :=
  match Domain.build { domain with catalog := .empty } resolvers with
  | .error (.unknownType _) => true
  | _ => false

end SchemaDiscovery
