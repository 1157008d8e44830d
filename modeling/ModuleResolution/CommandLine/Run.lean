import ModuleResolution.CommandLine.Command
import ModuleResolution.Console.Table
import ModuleResolution.Json.Writer
import ModuleResolution.Report.Basic
import ModuleResolution.Resolve.Session
import ModuleResolution.Settings.Basic

/-! # Runs of the program

A command line is carried out as an action with an outcome. The journal is set up before the
arguments of the command are read, so it stays as it is then even when those are faulty.

Specifiers are resolved one after the other in one session. Each answer is a path or a failure;
the paths go to the output and the failures, as headlines with details, to the error output, or
all answers go to the output as JSON. The program has failed if one of them has.

What is shown to people is marked up; texts that are not the program's own are escaped first.
-/

set_option autoImplicit false

namespace ModuleResolution.CommandLine

structure Surroundings where
  place : SettingsPlace
  logLevel : Option String := none
  logFile : Option String := none
  deriving DecidableEq, Repr

inductive Crash where
  /-- The directory to start from has an impossible name. -/
  | directory (failure : DiskFailure)
  | journal (failure : JournalFailure)
  | settings (failure : SettingsFailure)
  | resolution (stop : Stop)
  | console (failure : Console.Failure)
  /-- The answers cannot be written as JSON. -/
  | answers (reason : Json.Unwritable)
  deriving DecidableEq, Repr

def Crash.message : Crash → String
  | .directory failure => failure.message
  | .journal failure => failure.message
  | .settings failure => failure.message
  | .resolution stop => stop.message
  | .console failure => failure.message
  | .answers reason => reason.message

inductive Outcome where
  | misused (misuse : Misuse)
  | invalid (problems : List Problem)
  | help
  | table (table : Console.Table)
  | printed (failed : Bool) (output errors : String)
  | crashed (crash : Crash)
  deriving DecidableEq, Repr

def Outcome.exitCode : Outcome → Nat
  | .misused _ => 2
  | .invalid _ => 2
  | .help => 0
  | .table _ => 0
  | .printed failed _ _ => if failed then 1 else 0
  | .crashed _ => 1

def announced (line : String) : Outcome :=
  match Console.print line with
  | .ok shown => .printed false (shown ++ "\n") ""
  | .error failure => .crashed (.console failure)

/-! ## Resolving -/

/-- A specifier with the path it leads to, or with a failure and how it is shown. -/
inductive Answer where
  | found (specifier path : String)
  | failed (specifier : String) (failure : Failure) (shown : String)
  deriving DecidableEq, Repr

namespace Answer

def isFailed : Answer → Bool
  | .found _ _ => false
  | .failed _ _ _ => true

def output : Answer → String
  | .found _ path => Console.plain path ++ "\n"
  | .failed _ _ _ => ""

def errors : Answer → String
  | .found _ _ => ""
  | .failed _ _ shown => shown ++ "\n"

def fields : Answer → Mapping
  | .found specifier path =>
    [(.text "specifier", .text specifier), (.text "resolved", .text path),
      (.text "error", .null)]
  | .failed specifier failure _ =>
    (.text "specifier", .text specifier) :: (.text "resolved", .null) :: Report.fieldsOf failure

end Answer

def showFailure (failure : Failure) : Except Console.Failure String :=
  Console.print ("[red]" ++ Markup.escape (Report.ofFailure failure) ++ "[/red]")

/-- The answer for a specifier; failures are only shown in a run without JSON. -/
def Answer.ofResult (json : Bool) (specifier : String) : Except Stop String → Except Crash Answer
  | .ok path => .ok (.found specifier path)
  | .error (.failed failure) =>
    if json then .ok (.failed specifier failure "")
    else
      match showFailure failure with
      | .ok shown => .ok (.failed specifier failure shown)
      | .error failure => .error (.console failure)
  | .error stop => .error (.resolution stop)

def answerAll (cwd : String) (journal : Journal) (directory : Option String) (json : Bool) :
    Session → List String → Action (Except Crash (List Answer))
  | _, [] => .done (.ok [])
  | session, specifier :: rest =>
    (journal.follow (session.resolve cwd (.from cwd specifier directory))).bind fun
      | (result, session) =>
        match Answer.ofResult json specifier result with
        | .error crash => .done (.error crash)
        | .ok answer =>
          (answerAll cwd journal directory json session rest).bind fun answers =>
            .done (answers.map (answer :: ·))

def Outcome.ofAnswers (json : Bool) (answers : List Answer) : Outcome :=
  let failed := answers.any Answer.isFailed
  if json then
    match Json.indented .ascii (.list (answers.map fun answer => .mapping answer.fields)) with
    | .ok text => .printed failed (text ++ "\n") ""
    | .error reason => .crashed (.answers reason)
  else
    .printed failed (String.join (answers.map Answer.output))
      (String.join (answers.map Answer.errors))

def baseOptions (surroundings : Surroundings) (journal : Journal) (useSettings : Bool) :
    Action (Except Outcome Options) :=
  if useSettings then
    (journal.follow surroundings.place.options.run).bind fun
      | .error failure => .done (.error (.crashed (.settings failure)))
      | .ok (.error problems) => .done (.error (.invalid problems))
      | .ok (.ok options) => .done (.ok options)
  else .done (.ok {})

def ResolveCommand.extend (command : ResolveCommand) (base : Options) : Options where
  extraExtensions := base.extraExtensions ++ command.extensions
  extraExcludedExtensions := base.extraExcludedExtensions ++ command.excluded
  extraPackageFields := base.extraPackageFields ++ command.fields
  extraBuiltinModules := base.extraBuiltinModules ++ command.builtins
  manifestFallback := if command.strict then .strict else base.manifestFallback
  retryFromParent := if command.noRetry then false else base.retryFromParent

def ResolveCommand.run (command : ResolveCommand) (surroundings : Surroundings)
    (journal : Journal) : Action Outcome :=
  (baseOptions surroundings journal command.useSettings).bind fun
    | .error outcome => .done outcome
    | .ok base =>
      (answerAll surroundings.place.cwd journal command.directory command.json
        (.start (command.extend base)) command.specifiers).bind fun
        | .error crash => .done (.crashed crash)
        | .ok answers => .done (.ofAnswers command.json answers)

def ResolveCommand.runSpecified (command : ResolveCommand) (surroundings : Surroundings)
    (journal : Journal) : Action Outcome :=
  if command.specifiers.isEmpty then .done (.misused .missingArgument)
  else command.run surroundings journal

/-- Resolves the specifiers of a command, unless it is to start from what can be no directory. The
directory is looked at before the specifiers. -/
def ResolveCommand.runChecked (command : ResolveCommand) (surroundings : Surroundings)
    (journal : Journal) : Action Outcome :=
  match command.directory with
  | none => command.runSpecified surroundings journal
  | some directory =>
    if Disk.isImpossible directory then .done (.crashed (.directory ⟨.impossible, directory⟩))
    else .kind directory fun kind =>
      if kind = some .file then .done (.misused (.noDirectory directory))
      else command.runSpecified surroundings journal

/-! ## Options -/

def tableRows (rules : Rules) : List (List String) :=
  let excluded := " ".intercalate (sortTexts rules.excluded)
  [["Option", "Value"],
    ["allowed extensions", " ".intercalate rules.allowed],
    ["excluded extensions", if excluded.isEmpty then "[dim]none[/dim]" else excluded],
    ["package fields", " ".intercalate rules.fields],
    ["builtin modules (" ++ toString rules.builtins.size ++ ")",
      ", ".intercalate rules.builtins.sorted],
    ["manifest fallback", rules.fallback.name],
    ["retry from parent", if rules.retryFromParent then "yes" else "no"],
    ["default entry", Layout.defaultEntry],
    ["dependency root", Layout.dependencyRoot],
    ["manifest", Layout.manifest],
    ["type sidecar", Layout.typesFolder]]

def tableOutcome (rules : Rules) : Outcome :=
  match Console.Table.ofMarkup "Effective Resolver Options" (tableRows rules) with
  | .ok table => .table table
  | .error failure => .crashed (.console failure)

def parseField (field text : String) : Except (List Problem) Value :=
  (Options.ofMapping [(.text field, .text text)]).map fun options =>
    ((options.toMapping).field? field).getD .null

def runEdit (surroundings : Surroundings) (journal : Journal) (scope : Scope) (edit : Edit)
    (line : String) : Action Outcome :=
  (surroundings.place.update journal scope edit).bind fun
    | .error failure => .done (.crashed (.settings failure))
    | .ok () => .done (announced (line ++ " (" ++ scope.name ++ ")"))

def OptionsCommand.run (surroundings : Surroundings) (journal : Journal) :
    OptionsCommand → Action Outcome
  | .present useSettings =>
    (baseOptions surroundings journal useSettings).bind fun
      | .error outcome => .done outcome
      | .ok options => .done (tableOutcome options.rules)
  | .add field item scope =>
    runEdit surroundings journal scope (.add field item)
      ("[green]✓ Added[/green] " ++ Markup.escape item ++ " to " ++ field)
  | .set field text scope =>
    match parseField field text with
    | .error problems => .done (.invalid problems)
    | .ok value =>
      runEdit surroundings journal scope (.set field value)
        ("[green]✓ Set[/green] " ++ field ++ " = " ++ Markup.escape (Template.valueText value))

/-! ## Whole command lines -/

def runCall {α : Type} (call : Except Misuse (Call α)) (run : α → Action Outcome) :
    Action Outcome :=
  match call with
  | .error misuse => .done (.misused misuse)
  | .ok .help => .done .help
  | .ok (.made request) => run request

/-- Carries out the first command of a line; without one, help is called for. -/
def runCommand (surroundings : Surroundings) (journal : Journal) :
    Option (String × List String) → Action Outcome
  | none => .done .help
  | some ("resolve", args) =>
    runCall (ResolveCommand.read args) fun command => command.runChecked surroundings journal
  | some ("options", args) =>
    runCall (OptionsCommand.read args) (OptionsCommand.run surroundings journal)
  | some (name, _) => .done (.misused (.unknownCommand name))

/-- What an option asks for, or else what the surroundings do; the empty text counts only if the
option gives it. -/
def orSurrounding (given surrounding : Option String) : Option String :=
  given.or (surrounding.filter (!·.isEmpty))

/-- A text is asked for that is not empty. -/
def asksFor (text : Option String) : Bool :=
  match text with
  | some text => !text.isEmpty
  | none => false

def Program.setUpJournal (program : Program) (surroundings : Surroundings) (journal : Journal) :
    Action (Except JournalFailure Unit × Journal) :=
  let level := orSurrounding program.logLevel surroundings.logLevel
  let file := orSurrounding program.logFile surroundings.logFile
  if asksFor level || asksFor file then journal.setUp file level else .done (.ok (), journal)

def Program.run (program : Program) (surroundings : Surroundings) (journal : Journal) :
    Action (Outcome × Journal) :=
  (program.setUpJournal surroundings journal).bind fun
    | (.error failure, journal) => .done (.crashed (.journal failure), journal)
    | (.ok (), journal) =>
      (runCommand surroundings journal program.command).bind fun outcome =>
        .done (outcome, journal)

/-- Carries out a command line, and gives the journal back that is set up then. -/
def run (surroundings : Surroundings) (journal : Journal) (args : List String) :
    Action (Outcome × Journal) :=
  match Program.read args with
  | .error misuse => .done (.misused misuse, journal)
  | .ok .help => .done (.help, journal)
  | .ok (.made program) => program.run surroundings journal

end ModuleResolution.CommandLine
