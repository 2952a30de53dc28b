import SchemaDiscovery.Ordered
/-!
Access to files, through operations that a program is given, and a tree of files in memory. A path
is followed segment by segment from the root or from the directory of the run, and the first
segment that leads nowhere decides the error.
-/

namespace SchemaDiscovery.CommandLine

inductive FileError
  | notFound
  | isDirectory
  | notDirectory
  | nameTooLong
  | noSpace
  | other (text : String)
  deriving DecidableEq, Repr

def FileError.message : FileError → String
  | .notFound => "No such file or directory (os error 2)"
  | .isDirectory => "Is a directory (os error 21)"
  | .notDirectory => "Not a directory (os error 20)"
  | .nameTooLong => "File name too long (os error 36)"
  | .noSpace => "No space left on device (os error 28)"
  | .other text => text

/-- Operations on files; `isOutput` tells whether what is written to a path joins the output of the
program itself. -/
structure FileSystem (m : Type → Type) where
  isPresent : String → m Bool
  isOutput : String → m Bool
  read : String → m (Except FileError String)
  write : String → String → m (Except FileError Unit)

def segments (path : String) : List String := (path.splitOn "/").filter (· ≠ "")

def fileName? (path : String) : Option String :=
  ((segments path).filter (· ≠ ".")).getLast?.filter (· ≠ "..")

def extension? (path : String) : Option String := do
  let reversed := (← fileName? path).toList.reverse
  match reversed.dropWhile (· != '.') with
  | [] => none
  | [_] => none
  | _ => some (String.ofList (reversed.takeWhile (· != '.')).reverse)

/-- A place in a tree, by the names that lead to it from the root. -/
abbrev Place := List String

inductive FileEntry
  | directory
  | file (text : String)
  /-- A device that is empty to a reader and takes whatever is written. -/
  | emptyDevice
  | fullDevice
  | output

structure FileTree where
  files : List (Place × String) := []

namespace FileTree

def workplace : Place := ["tmp", "run"]

def emptyDirectories : List Place :=
  [[], ["bin"], ["dev"], ["etc"], ["home"], ["lib"], ["opt"], ["proc"], ["root"], ["sys"], ["tmp"],
    ["usr"], ["var"], workplace]

def greatestNameSize : Nat := 255

def greatestPathSize : Nat := 4095

def ofFiles (files : List (String × String)) : FileTree :=
  ⟨Ordered.ofList Prod.fst (files.map fun (path, text) =>
    (workplace ++ (segments path).filter (· ≠ "."), text))⟩

def device? (place : Place) : Option FileEntry :=
  if place = ["dev", "null"] ∨ place = ["dev", "stdin"] then some .emptyDevice
  else if place = ["dev", "full"] then some .fullDevice
  else if place = ["dev", "stdout"] then some .output
  else none

def entry? (tree : FileTree) (place : Place) : Option FileEntry :=
  match device? place, tree.files.find? (·.1 = place) with
  | some device, _ => some device
  | none, some (_, text) => some (.file text)
  | none, none =>
    if place ∈ emptyDirectories ∨ tree.files.any fun file => place.isPrefixOf file.1 then
      some .directory
    else none

def step (tree : FileTree) (place : Place) (segment : String) : Except FileError Place :=
  match tree.entry? place with
  | some .directory =>
    if segment = "." then .ok place
    else if segment = ".." then .ok place.dropLast
    else if greatestNameSize < segment.utf8ByteSize then .error .nameTooLong
    else .ok (place ++ [segment])
  | some _ => .error .notDirectory
  | none => .error .notFound

def follow (tree : FileTree) (path : String) (segments : List String) : Except FileError Place :=
  if path.isEmpty then .error .notFound
  else if greatestPathSize < path.utf8ByteSize then .error .nameTooLong
  else segments.foldlM tree.step (if path.startsWith "/" then [] else workplace)

/-- A path that ends in a separator leads to a directory. -/
def locate (tree : FileTree) (path : String) : Except FileError FileEntry := do
  let place ← tree.follow path (segments path)
  match tree.entry? place with
  | some .directory => .ok .directory
  | some entry => if path.endsWith "/" then .error .notDirectory else .ok entry
  | none => .error .notFound

def read (tree : FileTree) (path : String) : Except FileError String := do
  match ← tree.locate path with
  | .file text => .ok text
  | .directory => .error .isDirectory
  | _ => .ok ""

/-- The directory has to be there already. A path that ends in a separator or in a segment of dots names a
directory. -/
def write (tree : FileTree) (path text : String) : Except FileError FileTree := do
  let above ← tree.follow path (segments path).dropLast
  match (segments path).getLast? with
  | none => .error .isDirectory
  | some last =>
    let name := if path.endsWith "/" then "." else last
    let place ← tree.step above name
    if name = "." ∨ name = ".." then .error .isDirectory
    else
      match tree.entry? place with
      | some .directory => .error .isDirectory
      | some .fullDevice => .error .noSpace
      | some .emptyDevice => .ok tree
      | some .output => .ok tree
      | _ => .ok ⟨Ordered.put Prod.fst (place, text) tree.files⟩

def isPresent (tree : FileTree) (path : String) : Bool := (tree.locate path).toBool

def isOutput (tree : FileTree) (path : String) : Bool :=
  match tree.locate path with
  | .ok .output => true
  | _ => false

end FileTree

def FileSystem.inMemory : FileSystem (StateM FileTree) where
  isPresent path := return (← get).isPresent path
  isOutput path := return (← get).isOutput path
  read path := return (← get).read path
  write path text := do
    match (← get).write path text with
    | .ok tree =>
      set tree
      return .ok ()
    | .error e => return .error e

end SchemaDiscovery.CommandLine
