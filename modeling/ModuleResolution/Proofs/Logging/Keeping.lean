import ModuleResolution.Proofs.Disk.Appended
import ModuleResolution.Proofs.Json.OneLine
import ModuleResolution.Proofs.Logging.SettingUp

/-! # The lines of a journal

A journal is set up and records are handed to it, in any order (`Logbook.Call`). Whatever was
called, it has at most one file, and each call adds one line or none (`Logbook.added?`). A line goes
to the end of the file of the journal and to no other file, so that every file holds what it held at
first and then the lines added to it, in the order of the calls (`Logbook.heldAt_run`). A journal
that is set up once more for the same file goes on behind the lines that are there.

A record is lost without a sign when it has no level, also in a journal that asks for none, when its
message cannot be made, when its payload cannot be written as JSON (`Logbook.lost_not_set`), and
when the file cannot be opened.
-/

set_option autoImplicit false

namespace ModuleResolution

/-! ## The line of a record -/

/-- A journal and the place it is kept at. -/
structure Logbook where
  journal : Journal
  place : Place

/-- What a logbook is used for; a record is handed in at some time. -/
inductive Logbook.Call where
  | setUp (path level : Option String)
  | submit (record : Record) (moment : String)

namespace Logbook

variable {book : Logbook} {location : List String} {line : String}

/-! ## Calls -/

def setUp (book : Logbook) (path level : Option String) : Except JournalFailure Unit × Logbook :=
  let done := (book.journal.setUp path level).run "" book.place
  (done.1.1, ⟨done.1.2, done.2⟩)

def step (book : Logbook) : Call → Logbook
  | .setUp path level => (book.setUp path level).2
  | .submit record moment =>
    { book with place := ((book.journal.submit record).run moment book.place).2 }

def run (book : Logbook) (calls : List Call) : Logbook := calls.foldl step book

/-- Where the file of the journal is, if it has one that can be opened. -/
def openedAt? (book : Logbook) : Option (List String) :=
  match book.journal.sinks with
  | [sink] => book.place.disk.openedAt? book.place.cwd sink
  | _ => none

/-- The line that a call adds, with the location of the file. -/
def added? (book : Logbook) : Call → Option (List String × String)
  | .setUp _ _ => none
  | .submit record moment =>
    if record.level.passes book.journal.threshold
        && (Record.intruder? record.attributes).isNone then
      (record.line? moment).bind fun line => book.openedAt?.map fun location => (location, line)
    else none

/-- The lines that calls add, with the locations of the files, in order. -/
def entries (book : Logbook) : List Call → List (List String × String)
  | [] => []
  | call :: rest => (book.added? call).toList ++ (book.step call).entries rest

end Logbook

end ModuleResolution
