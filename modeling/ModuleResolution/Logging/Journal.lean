import ModuleResolution.Action.Basic
import ModuleResolution.Logging.Record

/-! # The journal

What is logged goes to the files of a journal, one line for each record, if the record's level
reaches the threshold. Setting a journal up sets the threshold first, then lets go of the files it
had, then makes the folder of the new file, and only if that works takes on the file. A line that
cannot be written is lost.
-/

set_option autoImplicit false

namespace ModuleResolution

structure Journal where
  threshold : Level := .warning
  sinks : List String := []
  deriving DecidableEq, Repr

inductive JournalFailure where
  | noLevel (setting : Level.Setting)
  | unreachable (failure : DiskFailure)
  deriving DecidableEq, Repr

def JournalFailure.message : JournalFailure → String
  | .noLevel setting => setting.message
  | .unreachable failure => failure.message

namespace Journal

/-- The file that is used when none is asked for. -/
def defaultPath : String := "./modpath.log.jsonl"

/-- The level that is used when none is asked for. -/
def defaultLevel : String := "WARNING"

/-- What is asked for, or a default; the empty text asks for nothing. -/
def orDefault (default : String) : Option String → String
  | some text => if text.isEmpty then default else text
  | none => default

def folderOf (path : Path) : Path := { path with names := path.names.dropLast }

def setUp (journal : Journal) (path level : Option String) :
    Action (Except JournalFailure Unit × Journal) :=
  match Level.requested (orDefault defaultLevel level) with
  | .error setting => .done (.error (.noLevel setting), journal)
  | .ok threshold =>
    let file := Path.ofString (orDefault defaultPath path)
    .makeFolders (folderOf file).render fun
      | .ok () => .done (.ok (), ⟨threshold, [file.render]⟩)
      | .error failure => .done (.error (.unreachable failure), ⟨threshold, []⟩)

/-- Adds a line to each of some files. -/
def writeLine (line : String) : List String → Action Unit
  | [] => .done ()
  | sink :: rest => .append sink line fun _ => writeLine line rest

def log (journal : Journal) (record : Record) : Action Unit :=
  if record.level.passes journal.threshold then
    .time fun moment =>
      match record.line? moment with
      | some line => writeLine line journal.sinks
      | none => .done ()
  else .done ()

/-- An attribute that is handed in has a name that records have for themselves. -/
structure Intrusion where
  name : String
  deriving DecidableEq, Repr

def Intrusion.message (intrusion : Intrusion) : String :=
  Quoted.text ("Attempt to overwrite " ++ Quoted.text intrusion.name ++ " in LogRecord")

/-- Logs a record whose attributes are handed in with its message. They are only looked at if the
record's level reaches the threshold. -/
def submit (journal : Journal) (record : Record) : Action (Except Intrusion Unit) :=
  if record.level.passes journal.threshold then
    match Record.intruder? record.attributes with
    | some name => .done (.error ⟨name⟩)
    | none => (journal.log record).bind fun () => .done (.ok ())
  else .done (.ok ())

def logNote (journal : Journal) (note : Note) : Action Unit :=
  journal.log (.ofLogger note.source.logger note.level (.text note.message) [])

/-- Carries a lookup out and logs its notes. -/
def follow {α : Type} (journal : Journal) (lookup : Lookup α) : Action α :=
  lookup.toAction journal.logNote

end Journal

end ModuleResolution
