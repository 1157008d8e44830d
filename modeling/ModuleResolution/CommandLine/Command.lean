import ModuleResolution.CommandLine.Arguments
import ModuleResolution.Options.Validation
import ModuleResolution.Settings.Scope

/-! # Commands

What a command line asks for. Every group of commands and every command can be asked for help, and
a group without a command is a call for help. A faulty option is noticed before the call for help,
and the call for help before anything that is missing or left over.
-/

set_option autoImplicit false

namespace ModuleResolution.CommandLine

inductive Call (α : Type) where
  | help
  | made (request : α)
  deriving DecidableEq, Repr

def helpOption : String := "--help"

/-- Reads arguments and makes a request of them, unless help is called for. -/
def readCall {α : Type} (known : OptionTable) (mixed : Bool) (args : List String)
    (make : Arguments → Except Misuse (Call α)) : Except Misuse (Call α) := do
  let arguments ← Arguments.read ((helpOption, .flag) :: known) mixed args
  if arguments.has helpOption then return .help else make arguments

/-- The first command of a line and the arguments for it, with what the log options ask for. -/
structure Program where
  logLevel : Option String
  logFile : Option String
  command : Option (String × List String)
  deriving DecidableEq, Repr

def splitCommand (arguments : Arguments) : Option (String × List String) :=
  match arguments.positional with
  | [] => none
  | name :: rest => some (name, rest)

def commandNames : List String := ["resolve", "options"]

/-- Reads a whole command line up to its first command. -/
def Program.read (args : List String) : Except Misuse (Call Program) :=
  readCall [("--log-level", .value), ("--log-file", .value)] false args fun arguments =>
    let program : Program :=
      ⟨arguments.last? "--log-level", arguments.last? "--log-file", splitCommand arguments⟩
    match program.command with
    | some (name, _) =>
      if commandNames.contains name then .ok (.made program) else .error (.unknownCommand name)
    | none => .ok (.made program)

/-- Which specifiers to resolve, from where, and with what besides the settings. -/
structure ResolveCommand where
  specifiers : List String
  directory : Option String
  extensions : List String
  excluded : List String
  fields : List String
  builtins : List String
  strict : Bool
  noRetry : Bool
  useSettings : Bool
  json : Bool
  deriving DecidableEq, Repr

def resolveOptions : OptionTable :=
  [("--from", .value), ("--ext", .value), ("--exclude-ext", .value), ("--field", .value),
    ("--builtin", .value), ("--strict-manifest", .flag), ("--no-parent-retry", .flag),
    ("--no-settings", .flag), ("--json", .flag)]

def ResolveCommand.read (args : List String) : Except Misuse (Call ResolveCommand) :=
  readCall resolveOptions true args fun arguments =>
    .ok (.made {
      specifiers := arguments.positional
      directory := arguments.last? "--from"
      extensions := arguments.all "--ext"
      excluded := arguments.all "--exclude-ext"
      fields := arguments.all "--field"
      builtins := arguments.all "--builtin"
      strict := arguments.has "--strict-manifest"
      noRetry := arguments.has "--no-parent-retry"
      useSettings := !arguments.has "--no-settings"
      json := arguments.has "--json" })

inductive OptionsCommand where
  | present (useSettings : Bool)
  | add (field item : String) (scope : Scope)
  | set (field text : String) (scope : Scope)
  deriving DecidableEq, Repr

def scopeOption (scope : Scope) : String := "--" ++ scope.name

/-- The scope of the last scope option, by default the project. -/
def scopeOf (arguments : Arguments) : Scope :=
  ((arguments.options.filterMap fun option =>
    Scope.all.find? fun scope => scopeOption scope == option.1).getLast?).getD .project

/-- Reads a field, one of those that may be chosen, a text and a scope. -/
def readChange {α : Type} (fields : List String) (args : List String)
    (make : String → String → Scope → α) : Except Misuse (Call α) :=
  readCall (Scope.all.map fun scope => (scopeOption scope, .flag)) true args fun arguments =>
    match arguments.positional with
    | [] => .error .missingArgument
    | [_] => .error .missingArgument
    | [field, text] =>
      if fields.contains field then .ok (.made (make field text (scopeOf arguments)))
      else .error (.unknownChoice field)
    | _ :: _ :: extra :: _ => .error (.needlessArgument extra)

def readShow (args : List String) : Except Misuse (Call OptionsCommand) :=
  readCall [("--no-settings", .flag)] true args fun arguments =>
    match arguments.positional with
    | [] => .ok (.made (.present !(arguments.has "--no-settings")))
    | extra :: _ => .error (.needlessArgument extra)

def OptionsCommand.read (args : List String) : Except Misuse (Call OptionsCommand) :=
  readCall [] false args fun arguments =>
    match splitCommand arguments with
    | none => .ok .help
    | some ("show", rest) => readShow rest
    | some ("add", rest) => readChange Options.listFields rest .add
    | some ("set", rest) => readChange Options.scalarFields rest .set
    | some (name, _) => .error (.unknownCommand name)

end ModuleResolution.CommandLine
