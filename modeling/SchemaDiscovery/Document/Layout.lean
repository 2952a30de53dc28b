import SchemaDiscovery.Document.Basic
/-!
Layouts: which parts of a document are read and which are passed over. Of a record only the fields
are read; its other members need not fit into a JSON tree.
-/

namespace SchemaDiscovery

abbrev Layout := DocumentFormat → Document → Option Json

namespace Layout

def whole : Layout := fun _ document => document.json?

/-- A bare name. TOML has no null, and an empty table or array stands for the empty value beside the
name. -/
def bareName : Layout
  | .toml, .object [(name, .object [])] => some (.object [(name, .null)])
  | .toml, .object [(name, .array [])] => some (.object [(name, .null)])
  | _, document => document.json?

def listOf (item : Layout) : Layout
  | format, .array items => (items.mapM (item format)).map .array
  | _, document => document.json?

def readMembers (layoutOf : String → Option Layout) (format : DocumentFormat) :
    List Document.Member → Option (List Json.Member)
  | [] => some []
  | (key, value) :: members => do
    let rest ← readMembers layoutOf format members
    match layoutOf key with
    | some layout => (layout format value).map fun tree => (key, tree) :: rest
    | none => if value.isPassable then some rest else none

/-- A record with the given fields. As an array of its fields it may be followed by more items in
TOML, and not in JSON. -/
def record (fields : List String) (layoutOf : String → Layout) : Layout
  | format, .object members =>
    let layout? (key : String) := if key ∈ fields then some (layoutOf key) else none
    (readMembers layout? format members).map .object
  | format, .array items =>
    if format = .json ∧ fields.length < items.length then none
    else ((fields.zip items).mapM fun (key, item) => layoutOf key format item).map .array
  | _, document => document.json?

/-- A record that shares its members with another one, so that all of them are read. -/
def openRecord (layoutOf : String → Layout) : Layout
  | format, .object members => (readMembers (some ∘ layoutOf) format members).map .object
  | _, document => document.json?

def plain (fields : List String) : Layout := record fields fun _ => whole

end Layout

end SchemaDiscovery
