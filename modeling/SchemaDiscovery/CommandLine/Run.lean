import SchemaDiscovery.CommandLine.Arguments
import SchemaDiscovery.CommandLine.Files
import SchemaDiscovery.CommandLine.Table
import SchemaDiscovery.Descriptor.Document
import SchemaDiscovery.Schema
/-!
The program that writes or checks the schema of a manifest.
-/

namespace SchemaDiscovery.CommandLine

open Json (record? optional)

inductive Failure
  | configUnreadable (path : String) (error : FileError)
  | configMalformed (path : String)
  | configRefused (error : ConfigError)
  | manifestUnreadable (path : String) (error : FileError)
  | formatUnknown (path : String)
  | manifestMalformed (path : String) (error : SchemaError)
  | schemaFailed (error : SchemaError)
  | schemaUnwritable (path : String) (error : FileError)
  | bindingsUnwritable (path : String) (error : FileError)

def Failure.message : Failure → String
  | .configUnreadable path error => "Failed to read config file " ++ path ++ ": " ++ error.message
  | .configMalformed path => "Failed to parse config file " ++ path ++ ": TOML parse error"
  | .configRefused error => "Invalid [schema] configuration: " ++ error.message
  | .manifestUnreadable path error => "Failed to read manifest " ++ path ++ ": " ++ error.message
  | .formatUnknown path =>
    "Unsupported manifest format: " ++ path ++ ". Use a .json or .toml file"
  | .manifestMalformed path error =>
    "Failed to load manifest " ++ path ++ ": " ++ error.message
  | .schemaFailed error => "Schema generation failed: " ++ error.message
  | .schemaUnwritable path error => "Failed to write SDL to " ++ path ++ ": " ++ error.message
  | .bindingsUnwritable path error =>
    "Failed to write bindings to " ++ path ++ ": " ++ error.message

structure Report where
  code : Nat
  output : String
  errors : String
  deriving DecidableEq, Repr

/-- A run may fail, and keeps the output so far. -/
abbrev Running (m : Type → Type) := ExceptT Failure (StateT String m)

variable {m : Type → Type} [Monad m]

def printLine (line : String) : Running m Unit := modify (· ++ line ++ "\n")

def printSuccess (message : String) : Running m Unit := printLine ("✓ " ++ message)

def attempt {α : Type} (failure : FileError → Failure) (operation : m (Except FileError α)) :
    Running m α := do
  match ← (operation : m _) with
  | .ok result => return result
  | .error e => throw (failure e)

def writeFile (files : FileSystem m) (failure : FileError → Failure) (path text : String) :
    Running m Unit := do
  if ← files.isOutput path then modify (· ++ text)
  else attempt failure (files.write path text)

def defaultConfigPath : String := "typegraph.toml"

def configOfFile? (text : String) : Option Config := do
  let document ← Toml.read? text
  let tree ← Layout.record ["schema"] (fun _ => .config) .toml document
  optional (← record? ["schema"] tree) "schema" {} Config.decode

def loadConfig (files : FileSystem m) (path : Option String) : Running m Config := do
  let path ← match path with
    | some path => pure (some path)
    | none =>
      if ← files.isPresent defaultConfigPath then pure (some defaultConfigPath) else pure none
  match path with
  | none => return {}
  | some path =>
    let text ← attempt (.configUnreadable path) (files.read path)
    match configOfFile? text with
    | none => throw (.configMalformed path)
    | some config =>
      match config.objection? with
      | some objection => throw (.configRefused objection)
      | none => return config

def loadManifest (files : FileSystem m) (path : String) : Running m Manifest := do
  let text ← attempt (.manifestUnreadable path) (files.read path)
  let format ← match extension? path with
    | some "json" => pure DocumentFormat.json
    | some "toml" => pure DocumentFormat.toml
    | _ => throw (.formatUnknown path)
  match Manifest.read format text with
  | .ok manifest => return manifest
  | .error e => throw (.manifestMalformed path e)

def loadSchema (files : FileSystem m) (manifest : String) (config : Option String) :
    Running m (List Resolver × Schema) := do
  let config ← loadConfig files config
  let manifest ← loadManifest files manifest
  match Domain.build ⟨Catalog.ofTypes manifest.types, config⟩ manifest.resolvers with
  | .ok schema => return (manifest.resolvers, schema)
  | .error e => throw (.schemaFailed e)

def shapeName : FieldShape → String
  | .plain => "plain"
  | .list => "list"
  | .stream => "stream"

def encodeBinding (binding : FieldBinding) : Json :=
  .object [("parent_type", .string binding.parentType), ("field", .string binding.field),
    ("source", .string binding.source), ("method", .string binding.method),
    ("shape", .string (shapeName binding.shape))]

def runSchemaText (files : FileSystem m) (manifest : String)
    (config output bindings : Option String) : Running m Unit := do
  let (_, schema) ← loadSchema files manifest config
  match output with
  | some path =>
    writeFile files (.schemaUnwritable path) path schema.text
    printSuccess ("Wrote " ++ toString schema.definitions.length ++ " definitions to " ++ path)
  | none => modify (· ++ schema.text)
  if let some path := bindings then
    let text := (Json.array (schema.bindings.map encodeBinding)).renderLines ""
    writeFile files (.bindingsUnwritable path) path text
    printSuccess ("Wrote " ++ toString schema.bindings.length ++ " field bindings to " ++ path)

def summaryRows (schema : Schema) : List (List String) :=
  ["Definition", "Count"] ::
    (Definition.counts schema.definitions).map fun (keyword, count) => [keyword, toString count]

def implementationRows (schema : Schema) : List (List String) :=
  ["Implementation", "Source"] ::
    schema.implementations.map fun (name, key) => [name, key.path]

def runCheck (files : FileSystem m) (manifest : String) (config : Option String) :
    Running m Unit := do
  let (resolvers, schema) ← loadSchema files manifest config
  printLine ("Manifest: " ++ manifest)
  printLine ("Resolvers: " ++ toString resolvers.length)
  for line in tableLines (summaryRows schema) do
    printLine line
  if !schema.implementations.isEmpty then
    for line in tableLines (implementationRows schema) do
      printLine line
  if !schema.streamingFields.isEmpty then
    printLine ("Streams: " ++ ", ".intercalate
      (schema.streamingFields.map fun binding => binding.parentType ++ "." ++ binding.field))
  printSuccess ("Schema is valid: " ++ toString schema.definitions.length ++ " definitions, " ++
    toString schema.bindings.length ++ " fields")

def Request.run (files : FileSystem m) : Request → Running m Unit
  | .schemaText manifest config output bindings =>
    runSchemaText files manifest config output bindings
  | .check manifest config => runCheck files manifest config

def usage : String :=
  "Usage: typegraph <sdl|check> --manifest <MANIFEST> [--config <CONFIG>] [--log-level <LEVEL>]\n"

def runProgram (files : FileSystem m) (arguments : List String) : m Report := do
  match parse arguments with
  | .showHelp => return ⟨0, usage, ""⟩
  | .showVersion => return ⟨0, "typegraph 0.0.1\n", ""⟩
  | .refuse => return ⟨2, "", usage⟩
  | .perform request =>
    let (outcome, output) ← ((request.run files).run).run ""
    match outcome with
    | .ok () => return ⟨0, output, ""⟩
    | .error failure => return ⟨1, output, "✗ " ++ failure.message ++ "\n"⟩

end SchemaDiscovery.CommandLine
