import SchemaDiscovery.CommandLine.Run
/-!
The command line on the files of the machine.
-/

namespace SchemaDiscovery.CommandLine

def fileErrorOf : IO.Error → FileError
  | .noFileOrDirectory _ _ _ => .notFound
  | e => .other (toString e)

def guarded {α : Type} (action : IO α) : IO (Except FileError α) := do
  match ← action.toBaseIO with
  | .ok result => return .ok result
  | .error e => return .error (fileErrorOf e)

def FileSystem.onDisk : FileSystem IO where
  isPresent path := do
    match ← guarded (IO.FS.readFile path) with
    | .error .notFound => return false
    | _ => return true
  isOutput path := return path == "/dev/stdout"
  read path := guarded (IO.FS.readFile path)
  write path text := guarded (IO.FS.writeFile path text)

end SchemaDiscovery.CommandLine

open SchemaDiscovery.CommandLine in
def main (arguments : List String) : IO UInt32 := do
  let report ← runProgram FileSystem.onDisk arguments
  IO.print report.output
  IO.eprint report.errors
  return report.code.toUInt32
