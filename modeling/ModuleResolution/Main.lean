import ModuleResolution.CommandLine.Run
import Std.Time.DateTime

/-! # The program

Carries actions out on the disk of the machine, and prints how a run ended.
-/

set_option autoImplicit false

namespace ModuleResolution.Machine

def faultOf : IO.Error → DiskFault
  | .alreadyExists .. => .taken
  | .inappropriateType .. => .notFolder
  | _ => .missing

def kindOf (path : String) : IO (Option Kind) := do
  if path.isEmpty then return none
  let here ← IO.currentDir
  match ← (here / path).metadata.toBaseIO with
  | .ok metadata => return some (if metadata.type == .dir then .folder else .file)
  | .error _ => return none

def readText (path : String) : IO (Except ReadFailure String) := do
  if (← kindOf path) = some .folder then return .error (.unreachable ⟨.isFolder, path⟩)
  match ← (IO.FS.readBinFile path).toBaseIO with
  | .error error => return .error (.unreachable ⟨faultOf error, path⟩)
  | .ok octets =>
    match Utf8.decode octets.toList with
    | .error failure => return .error (.undecodable failure octets.toList)
    | .ok text => return .ok (Lines.unify text)

/-- The shape of the folder that a path leads to. -/
partial def shapeOf (path : String) : IO (Folder Unit) := do
  let here ← IO.currentDir
  match ← (here / path).readDir.toBaseIO with
  | .error _ => return .empty
  | .ok entries =>
    let mut shape : Folder Unit := .empty
    for entry in entries do
      match ← kindOf entry.path.toString with
      | none => pure ()
      | some .file => shape := .file entry.fileName () shape
      | some .folder =>
        shape := .subfolder entry.fileName (← shapeOf entry.path.toString) shape
    return shape

/-- The outcome of a change of the disk. -/
def change (path : String) (act : IO Unit) : IO (Except DiskFailure Unit) := do
  match ← act.toBaseIO with
  | .ok () => return .ok ()
  | .error error => return .error ⟨faultOf error, path⟩

def makeFolders (path : String) : IO (Except DiskFailure Unit) := do
  if (← kindOf path) = some .file then return .error ⟨.taken, path⟩
  change path (IO.FS.createDirAll path)

def write (path content : String) : IO (Except DiskFailure Unit) := do
  if (← kindOf path) = some .folder then return .error ⟨.isFolder, path⟩
  change path (IO.FS.writeFile path content)

def append (path content : String) : IO (Except DiskFailure Unit) := do
  if (← kindOf path) = some .folder then return .error ⟨.isFolder, path⟩
  change path (IO.FS.withFile path .append fun file => file.putStr content)

/-- The time, to the millisecond. -/
def time : IO String := do
  let now := Std.Time.PlainDateTime.ofWallTime
    ((← Std.Time.Timestamp.now).toWallTime Std.Time.TimeZone.Offset.zero)
  let padded (width : Nat) (n : Int) : String :=
    let digits := toString n
    String.ofList (List.replicate (width - digits.length) '0') ++ digits
  return padded 4 now.year.toInt ++ "-" ++ padded 2 now.month.val ++ "-" ++ padded 2 now.day.val
    ++ "T" ++ padded 2 now.hour.val ++ ":" ++ padded 2 now.minute.val ++ ":"
    ++ padded 2 now.second.val ++ "." ++ padded 3 (now.nanosecond.val / 1000000) ++ "+00:00"

def perform {α : Type} : Action α → IO α
  | .done value => return value
  | .kind path next => do perform (next (← kindOf path))
  | .text path next => do perform (next (← readText path))
  | .shape path next => do perform (next (← shapeOf path))
  | .makeFolders path next => do perform (next (← makeFolders path))
  | .write path content next => do perform (next (← write path content))
  | .append path content next => do perform (next (← append path content))
  | .time next => do perform (next (← time))

def usage : String :=
  "Usage: [--log-level LEVEL] [--log-file FILE] COMMAND\n\n"
    ++ "  resolve SPECIFIER... [--from DIRECTORY] [--ext EXTENSION] [--exclude-ext EXTENSION]\n"
    ++ "          [--field FIELD] [--builtin NAME] [--strict-manifest] [--no-parent-retry]\n"
    ++ "          [--no-settings] [--json]\n"
    ++ "  options show [--no-settings]\n"
    ++ "  options add KEY VALUE [--local | --project | --global]\n"
    ++ "  options set KEY VALUE [--local | --project | --global]\n"

def problemLine (problem : Problem) : String :=
  let place := match problem.spot with
    | .whole => "options"
    | .field name => name
    | .item field index => field ++ "[" ++ toString index ++ "]"
  "  " ++ place ++ ": " ++ problem.kind.name ++ "\n"

def present : CommandLine.Outcome → IO Unit
  | .misused misuse => IO.eprint ("Error: " ++ misuse.message ++ "\n")
  | .invalid problems =>
    IO.eprint ("Invalid options:\n" ++ String.join (problems.map problemLine))
  | .help => IO.print usage
  | .table table =>
    IO.print (table.title ++ "\n" ++ String.join (table.rows.map fun row =>
      "  ".intercalate row ++ "\n"))
  | .printed _ output errors => do
    IO.print output
    IO.eprint errors
  | .crashed crash => IO.eprint ("Error: " ++ crash.message ++ "\n")

def surroundings : IO CommandLine.Surroundings := do
  let home := (← IO.getEnv "HOME").getD "/"
  let cwd := (← IO.currentDir).toString
  return ⟨⟨home, cwd⟩, ← IO.getEnv "MODPATH_LOG_LEVEL", ← IO.getEnv "MODPATH_LOG_PATH"⟩

end ModuleResolution.Machine

def main (args : List String) : IO UInt32 := do
  let surroundings ← ModuleResolution.Machine.surroundings
  let (outcome, _) ←
    ModuleResolution.Machine.perform (ModuleResolution.CommandLine.run surroundings {} args)
  ModuleResolution.Machine.present outcome
  return outcome.exitCode.toUInt32
