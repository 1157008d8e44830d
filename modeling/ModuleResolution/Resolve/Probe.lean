import ModuleResolution.Lookup.Basic
import ModuleResolution.Options.Basic

/-! # Probing for a file

Which file does a path without an extension, or with a loose one, stand for? The allowed
extensions are tried in order behind a stem. An excluded extension is never matched; the test is
on the extension that the candidate ends up with, so the stem `a.d` with `.ts` is passed over when
`.d.ts` is excluded.

`probeFile` tries, in this order, the path itself, its stem under another extension when its own
is recognized, the path with an extension behind it, its stem when its own extension is not
recognized, and an index file in the folder of that name.
-/

set_option autoImplicit false

namespace ModuleResolution.Rules

/-- A stem with each extension that may be matched behind it, in order. -/
def candidates (rules : Rules) (stem : String) : List String :=
  (rules.probeOrder.map (stem ++ ·)).filter fun path => !rules.isExcluded (Path.extension path)

/-- The stem of the index files of a folder. -/
def indexStem (directory : String) : String := Path.join [directory, Layout.defaultEntry]

def firstMatch (rules : Rules) (stem : String) : Lookup (Option String) :=
  .firstFile (rules.candidates stem)

def indexMatch (rules : Rules) (directory : String) : Lookup (Option String) :=
  rules.firstMatch (indexStem directory)

/-- The first file that a path leads to under another extension than its own. -/
def clearedMatch (rules : Rules) (path : String) : Lookup (Option String) :=
  rules.firstMatch (Path.clearExtension path)

/-- The path itself, when it leads to a file whose extension is not excluded. -/
def exactMatch (rules : Rules) (path : String) : Lookup (Option String) :=
  if rules.isExcluded (Path.extension path) then .done none else .firstFile [path]

/-- A search whose find is noted. -/
def noting (note : String → Note) (search : Lookup (Option String)) : Lookup (Option String) :=
  search.bind fun
    | some found => .note (note found) (.done (some found))
    | none => .done none

/-- A search made only under a condition. -/
def onlyIf (condition : Bool) (search : Lookup (Option String)) : Lookup (Option String) :=
  if condition then search else .done none

/-- The path has an extension, and it is recognized. -/
def hasRecognized (rules : Rules) (path : String) : Bool :=
  Path.extension path != "" && rules.isRecognized (Path.extension path)

/-- The path has an extension, and it is not recognized. -/
def hasUnrecognized (rules : Rules) (path : String) : Bool :=
  Path.extension path != "" && !rules.isRecognized (Path.extension path)

def probeFile (rules : Rules) (path : String) : Lookup (Option String) :=
  (rules.exactMatch path).orElse fun _ =>
  (onlyIf (rules.hasRecognized path)
    (noting (.probed path · .extensionSwapped) (rules.clearedMatch path))).orElse fun _ =>
  (rules.firstMatch path).orElse fun _ =>
  (onlyIf (rules.hasUnrecognized path)
    (noting (.probed path · .suffixCleared) (rules.clearedMatch path))).orElse fun _ =>
  noting (.probed path · .index) (rules.indexMatch path)

end ModuleResolution.Rules
