/-! # Arguments

The arguments of a command are options and positional arguments. An option starts with a dash and
has a name, and either stands alone or takes a value: the part of the argument behind the first
equals sign, or else the next argument, whatever it looks like. A dash alone is positional, and
behind `--` everything is. A command with subcommands reads options only up to the first positional
argument.
-/

set_option autoImplicit false

namespace ModuleResolution.CommandLine

inductive Misuse where
  | unknownOption (name : String)
  | missingValue (name : String)
  | needlessValue (name : String)
  | unknownCommand (name : String)
  | missingArgument
  | needlessArgument (text : String)
  | unknownChoice (text : String)
  | noDirectory (path : String)
  deriving DecidableEq, Repr

def Misuse.message : Misuse → String
  | .unknownOption name => "no such option: " ++ name
  | .missingValue name => "option " ++ name ++ " requires an argument"
  | .needlessValue name => "option " ++ name ++ " does not take a value"
  | .unknownCommand name => "no such command: " ++ name
  | .missingArgument => "missing argument"
  | .needlessArgument text => "unexpected extra argument: " ++ text
  | .unknownChoice text => "invalid choice: " ++ text
  | .noDirectory path => "not a directory: " ++ path

/-- Whether an option stands alone or takes a value. -/
inductive Arity where
  | flag
  | value
  deriving DecidableEq, Repr

abbrev OptionTable := List (String × Arity)

/-- Arguments taken apart: the options that were given, in order, and the positional ones. -/
structure Arguments where
  options : List (String × String)
  positional : List String
  deriving DecidableEq, Repr

namespace Arguments

def has (arguments : Arguments) (name : String) : Bool :=
  arguments.options.any fun option => option.1 == name

def all (arguments : Arguments) (name : String) : List String :=
  (arguments.options.filter fun option => option.1 == name).map (·.2)

/-- The value of an option; the last one counts. -/
def last? (arguments : Arguments) (name : String) : Option String :=
  (arguments.all name).getLast?

def withOption (name value : String) (arguments : Arguments) : Arguments :=
  { arguments with options := (name, value) :: arguments.options }

def withPositional (text : String) (arguments : Arguments) : Arguments :=
  { arguments with positional := text :: arguments.positional }

/-- The argument starts with a dash and goes on. -/
def isOption (text : String) : Bool :=
  match text.toList with
  | '-' :: _ :: _ => true
  | _ => false

/-- The name of an option, and the value that is attached to it by an equals sign. -/
def splitAttached (text : String) : String × Option String :=
  let name := text.toList.takeWhile (· != '=')
  match text.toList.drop name.length with
  | '=' :: value => (String.ofList name, some (String.ofList value))
  | _ => (text, none)

/-- Takes arguments apart; options are also looked for behind positional arguments if `mixed`. -/
def read (known : OptionTable) (mixed : Bool) : List String → Except Misuse Arguments
  | [] => .ok ⟨[], []⟩
  | text :: rest =>
    if text = "--" then .ok ⟨[], rest⟩
    else if isOption text then
      let (name, attached) := splitAttached text
      match known.lookup name, attached with
      | none, _ => .error (.unknownOption name)
      | some .flag, some _ => .error (.needlessValue name)
      | some .flag, none => (read known mixed rest).map (withOption name "")
      | some .value, some value => (read known mixed rest).map (withOption name value)
      | some .value, none =>
        match rest with
        | [] => .error (.missingValue name)
        | value :: rest => (read known mixed rest).map (withOption name value)
    else if mixed then (read known mixed rest).map (withPositional text)
    else .ok ⟨[], text :: rest⟩

end Arguments

end ModuleResolution.CommandLine
