import SchemaDiscovery.Document.Basic
/-!
The tables of a TOML document while it is read. A table is defined once: by its header, or by dotted
keys, or in passing by the header of a table within it, which a header of its own may follow.
-/

namespace SchemaDiscovery.Toml

/-- A finished value, a table that is still open to more keys, or the tables of an array header, the
last of them first. -/
inductive Node
  | value (document : Document)
  | table (isImplicit isDotted : Bool) (entries : List (String × Node))
  | tables (items : List (List (String × Node)))

abbrev Entries := List (String × Node)

def Entries.find? (entries : Entries) (key : String) : Option Node :=
  (List.find? (·.1 = key) entries).map Prod.snd

def Entries.put (entries : Entries) (key : String) (node : Node) : Entries :=
  Ordered.put Prod.fst (key, node) entries

/-- Changes the table at the end of a path, and makes the tables that are missing on the way.
`change` is told whether dotted keys made the table. Dotted keys lead into no table that has a header
of its own. -/
def Entries.change (byDots : Bool) (change : Bool → Entries → Option Entries) :
    List String → Bool → Entries → Option Entries
  | [], isDotted, entries => change isDotted entries
  | key :: path, _, entries =>
    match entries.find? key with
    | none => do
      return entries.put key (.table true byDots (← Entries.change byDots change path byDots []))
    | some (.table isImplicit isDotted inner) =>
      if byDots && !isImplicit then none
      else do
        return entries.put key
          (.table isImplicit isDotted (← Entries.change byDots change path isDotted inner))
    | some (.tables (last :: items)) => do
      return entries.put key (.tables ((← Entries.change byDots change path false last) :: items))
    | some _ => none

def Entries.addValue (path : List String) (key : String) (document : Document)
    (entries : Entries) : Option Entries :=
  entries.change true
    (fun isDotted inner =>
      if isDotted = path.isEmpty then none
      else if (inner.find? key).isSome then none
      else some (inner.put key (.value document)))
    path false

def Entries.openTable (path : List String) (key : String) (entries : Entries) : Option Entries :=
  entries.change false
    (fun _ inner =>
      match inner.find? key with
      | none => some (inner.put key (.table false false []))
      | some (.table true false kept) => some (inner.put key (.table false false kept))
      | some _ => none)
    path false

def Entries.openItem (path : List String) (key : String) (entries : Entries) : Option Entries :=
  entries.change false
    (fun _ inner =>
      match inner.find? key with
      | none => some (inner.put key (.tables [[]]))
      | some (.tables items) => some (inner.put key (.tables ([] :: items)))
      | some _ => none)
    path false

mutual

def Node.finished : Node → Document
  | .value document => document
  | .table _ _ entries => .object (membersOf entries)
  | .tables items => .array (itemsOf items).reverse

def membersOf : List (String × Node) → List Document.Member
  | [] => []
  | (key, node) :: entries => (key, node.finished) :: membersOf entries

def itemsOf : List (List (String × Node)) → List Document
  | [] => []
  | item :: items => .object (membersOf item) :: itemsOf items

end

end SchemaDiscovery.Toml
