/-!
Command-line arguments: a subcommand with options that take a value, in long form (`--name value` or
`--name=value`) or short form (`-n value`, `-nvalue` or `-n=value`).
-/

namespace SchemaDiscovery.CommandLine

inductive Request
  | schemaText (manifest : String) (config output bindings : Option String)
  | check (manifest : String) (config : Option String)
  deriving DecidableEq, Repr

inductive Command
  | perform (request : Request)
  | showHelp
  | showVersion
  | refuse
  deriving DecidableEq, Repr

inductive OptionName
  | manifest
  | config
  | output
  | bindings
  | logLevel
  deriving DecidableEq, Repr

def OptionName.long : OptionName → String
  | .manifest => "manifest"
  | .config => "config"
  | .output => "output"
  | .bindings => "bindings"
  | .logLevel => "log-level"

def OptionName.short? : OptionName → Option Char
  | .manifest => some 'm'
  | .config => some 'c'
  | .output => some 'o'
  | .bindings => some 'b'
  | .logLevel => none

def OptionName.accepts (option : OptionName) (value : String) : Bool :=
  option = .logLevel || !value.isEmpty

inductive Subcommand
  | schemaText
  | check
  deriving DecidableEq, Repr

def Subcommand.named? : String → Option Subcommand
  | "sdl" => some .schemaText
  | "check" => some .check
  | _ => none

def Subcommand.options : Subcommand → List OptionName
  | .schemaText => [.manifest, .config, .output, .bindings, .logLevel]
  | .check => [.manifest, .config, .logLevel]

/-- One argument: an option, with its value if it has one attached, or a plain word. -/
inductive Argument
  | setting (name : OptionName) (attached : Option String)
  | help
  | version
  | word (text : String)
  | endOfOptions
  | unknown
  deriving DecidableEq, Repr

def splitAtEquals (text : List Char) : List Char × Option (List Char) :=
  match text.dropWhile (· != '=') with
  | _ :: value => (text.takeWhile (· != '='), some value)
  | [] => (text, none)

def attachedValue : List Char → Option String
  | [] => none
  | '=' :: value => some (String.ofList value)
  | value => some (String.ofList value)

def Argument.ofText (options : List OptionName) (text : String) : Argument :=
  match text.toList with
  | ['-', '-'] => .endOfOptions
  | '-' :: '-' :: rest =>
    let (name, value) := splitAtEquals rest
    match options.find? (·.long.toList = name) with
    | some known => .setting known (value.map String.ofList)
    | none =>
      if rest = "help".toList then .help
      else if rest = "version".toList then .version
      else .unknown
  | '-' :: 'h' :: _ => .help
  | '-' :: 'V' :: _ => .version
  | '-' :: c :: rest =>
    match options.find? (·.short? = some c) with
    | some known => .setting known (attachedValue rest)
    | none => .unknown
  | _ => .word text

def isValue (text : String) : Bool :=
  match text.toList with
  | ['-'] => true
  | '-' :: _ => false
  | _ => true

inductive Interruption
  | help
  | version
  | misuse

def readOptions (options : List OptionName) (given : List (OptionName × String)) :
    List String → Except Interruption (List (OptionName × String))
  | [] => .ok given
  | text :: rest =>
    match Argument.ofText options text with
    | .setting name (some value) =>
      if !name.accepts value || given.any (·.1 = name) then .error .misuse
      else readOptions options ((name, value) :: given) rest
    | .setting name none =>
      match rest with
      | value :: rest =>
        if !isValue value || !name.accepts value || given.any (·.1 = name) then .error .misuse
        else readOptions options ((name, value) :: given) rest
      | [] => .error .misuse
    | .help => .error .help
    | .version => .error .misuse
    | .word _ => .error .misuse
    | .endOfOptions => if rest.isEmpty then .ok given else .error .misuse
    | .unknown => .error .misuse

def valueOf? (given : List (OptionName × String)) (name : OptionName) : Option String :=
  (given.find? (·.1 = name)).map Prod.snd

def Subcommand.request? (subcommand : Subcommand) (given : List (OptionName × String)) :
    Option Request :=
  (valueOf? given .manifest).map fun manifest =>
    match subcommand with
    | .schemaText =>
      .schemaText manifest (valueOf? given .config) (valueOf? given .output)
        (valueOf? given .bindings)
    | .check => .check manifest (valueOf? given .config)

def Subcommand.parse (subcommand : Subcommand) (arguments : List String) : Command :=
  match readOptions subcommand.options [] arguments with
  | .ok given => (subcommand.request? given).elim .refuse .perform
  | .error .help => .showHelp
  | .error .version => .showVersion
  | .error .misuse => .refuse

def parseHelp : List String → Command
  | [] => .showHelp
  | [name] => if (Subcommand.named? name).isSome || name = "help" then .showHelp else .refuse
  | _ => .refuse

/-- The command that the arguments spell. The log level may come before the subcommand too. -/
def parseAfter (levelGiven : Bool) : List String → Command
  | [] => .refuse
  | text :: rest =>
    match Argument.ofText [.logLevel] text with
    | .setting _ (some _) => if levelGiven then .refuse else parseAfter true rest
    | .setting _ none =>
      match rest with
      | value :: rest => if levelGiven || !isValue value then .refuse else parseAfter true rest
      | [] => .refuse
    | .help => .showHelp
    | .version => .showVersion
    | .word name =>
      match Subcommand.named? name with
      | some subcommand => subcommand.parse rest
      | none => if name = "help" then parseHelp rest else .refuse
    | .endOfOptions => .refuse
    | .unknown => .refuse

def parse (arguments : List String) : Command := parseAfter false arguments

end SchemaDiscovery.CommandLine
