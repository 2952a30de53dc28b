import SchemaDiscovery.Toml.Document
import SchemaDiscovery.Toml.Number
import SchemaDiscovery.Toml.Scalar
/-!
Reading TOML documents.
-/

namespace SchemaDiscovery.Toml

abbrev Reading := StateT (List Char) Option

def peek? : Reading (Option Char) := do
  return (← get).head?

def exactly (c : Char) : Reading Unit := do
  match ← get with
  | d :: rest => if c = d then set rest else failure
  | [] => failure

def takeWhile (p : Char → Bool) : Reading (List Char) :=
  modifyGet fun text => (text.takeWhile p, text.dropWhile p)

def skipBlanks : Reading Unit := do
  discard (takeWhile isBlank)

/-- What follows blanks, line ends and comments; none behind a character that stands in no comment. -/
def afterGap? (inComment : Bool) : List Char → Option (List Char)
  | [] => some []
  | '\r' :: '\n' :: rest => afterGap? false rest
  | c :: rest =>
    if c = '\n' then afterGap? false rest
    else if inComment then if isForbidden c then none else afterGap? true rest
    else if isBlank c then afterGap? false rest
    else if c = '#' then afterGap? true rest
    else some (c :: rest)

def skipGap : Reading Unit := do
  match afterGap? false (← get) with
  | some rest => set rest
  | none => failure

def endLine : Reading Unit := do
  skipBlanks
  if (← peek?) = some '#' then
    let comment ← takeWhile fun c => c != '\n' && c != '\r'
    if comment.any isForbidden then failure
  match ← get with
  | [] => return
  | '\n' :: rest => set rest
  | '\r' :: '\n' :: rest => set rest
  | _ => failure

def isBareKeyChar (c : Char) : Bool := c.isAlphanum || c == '_' || c == '-'

def simpleKey : Reading String := do
  match ← get with
  | '"' :: rest =>
    let (key, rest) ← readString '"' false ('"' :: rest)
    set rest
    return key
  | '\'' :: rest =>
    let (key, rest) ← readString '\'' false ('\'' :: rest)
    set rest
    return key
  | _ =>
    let key ← takeWhile isBareKeyChar
    if key.isEmpty then failure else return String.ofList key

/-- Reads a dotted key of at most `limit` parts more than one: the parts before the last, and the
last. -/
def keyWithin (limit : Nat) : Reading (List String × String) := do
  let key ← simpleKey
  skipBlanks
  match limit, ← peek? with
  | limit + 1, some '.' =>
    exactly '.'
    skipBlanks
    let (path, last) ← keyWithin limit
    return (key :: path, last)
  | _, _ => return ([], key)

/-- The greatest number of parts of a dotted key, and of arrays and inline tables within each
other. -/
def depthLimit : Nat := 80

def dottedKey : Reading (List String × String) := keyWithin (depthLimit - 1)

def endsScalar (c : Char) : Bool :=
  isGap c || c == ',' || c == ']' || c == '}' || c == '#' || c == '='

def scalar : Reading Document := do
  let token ← takeWhile (!endsScalar ·)
  match afterDate? token, ← get with
  | some [], ' ' :: c :: rest =>
    if c.isDigit then
      set (c :: rest)
      let time ← takeWhile (!endsScalar ·)
      scalarOf? (token ++ [' '] ++ time)
    else scalarOf? token
  | _, _ => scalarOf? token

mutual

/-- Reads a value; `depth` bounds the arrays and inline tables within each other, and `limit` the
steps. -/
def value (depth : Nat) (limit : Nat) : Reading Document := do
  match limit with
  | 0 => failure
  | limit + 1 =>
    match ← peek? with
    | some '"' =>
      let (s, rest) ← readString '"' true (← get)
      set rest
      return .scalar (.string s)
    | some '\'' =>
      let (s, rest) ← readString '\'' true (← get)
      set rest
      return .scalar (.string s)
    | some '[' =>
      if depth = 0 then failure
      exactly '['
      skipGap
      return .array (← items (depth - 1) limit)
    | some '{' =>
      if depth = 0 then failure
      exactly '{'
      skipGap
      let entries ← members (depth - 1) limit []
      return .object (membersOf entries)
    | _ => scalar

def items (depth : Nat) (limit : Nat) : Reading (List Document) := do
  match limit with
  | 0 => failure
  | limit + 1 =>
    if (← peek?) = some ']' then
      exactly ']'
      return []
    let item ← value depth limit
    skipGap
    if (← peek?) = some ']' then
      exactly ']'
      return [item]
    exactly ','
    skipGap
    return item :: (← items depth limit)

def members (depth : Nat) (limit : Nat) (entries : Entries) : Reading Entries := do
  match limit with
  | 0 => failure
  | limit + 1 =>
    if (← peek?) = some '}' then
      exactly '}'
      return entries
    let (path, key) ← dottedKey
    skipGap
    exactly '='
    skipGap
    let document ← value depth limit
    let entries ← entries.addValue path key document
    skipGap
    if (← peek?) = some '}' then
      exactly '}'
      return entries
    exactly ','
    skipGap
    members depth limit entries

end

/-- A document as far as it is read, with the path to the table that takes the next keys. -/
structure Draft where
  entries : Entries := []
  header : List String := []

def Draft.addValue (draft : Draft) (path : List String) (key : String)
    (document : Document) : Option Draft := do
  let entries ← draft.entries.change false
    (fun _ inner => inner.addValue path key document) draft.header false
  return { draft with entries }

def expression (limit : Nat) (draft : Draft) : Reading Draft := do
  match ← get with
  | '[' :: '[' :: rest =>
    set rest
    skipBlanks
    let (path, key) ← dottedKey
    exactly ']'
    exactly ']'
    endLine
    return ⟨← draft.entries.openItem path key, path ++ [key]⟩
  | '[' :: rest =>
    set rest
    skipBlanks
    let (path, key) ← dottedKey
    exactly ']'
    endLine
    return ⟨← draft.entries.openTable path key, path ++ [key]⟩
  | _ =>
    let (path, key) ← dottedKey
    exactly '='
    skipBlanks
    let document ← value depthLimit limit
    endLine
    draft.addValue path key document

def expressions (limit : Nat) (draft : Draft) : Reading Draft := do
  skipGap
  match limit, ← peek? with
  | _, none => return draft
  | 0, some _ => failure
  | limit + 1, some _ =>
    let draft ← expression (limit + 1) draft
    expressions limit draft

def read? (text : String) : Option Document := do
  let chars := match text.toList with
    | '\uFEFF' :: rest => rest
    | chars => chars
  let limit := 2 * chars.length + 2
  let (draft, _) ← (expressions limit {}).run chars
  return .object (membersOf draft.entries)

end SchemaDiscovery.Toml
