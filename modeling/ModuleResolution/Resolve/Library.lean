import ModuleResolution.Resolve.Manifest
import ModuleResolution.Resolve.Probe

/-! # Locating libraries

A library lies in the nearest dependency root above the folder that asks for it, unless the
specifier leads through a dependency root itself. Its file is, in this order, a script beside its
folder with the same name, the file that the specifier leads to, the entry that its manifest
names, or an index file when there is no manifest. An entry whose extension is recognized is
taken as it stands; any other entry is probed, first as a stem, then as a folder, and at last the
folder of the library is probed for an index file.
-/

set_option autoImplicit false

namespace ModuleResolution.Library

/-- The folder that a library is expected in. -/
def directory (cwd : String) (request : Request) (name start : String) : Search String :=
  let segments := Path.segments name
  if segments.isEmpty || segments.getLast? == some Layout.dependencyRoot then
    Search.fail request .noLibrary
  else if segments.contains Layout.dependencyRoot then
    return Path.absoluteFrom cwd start name
  else do
    match ← Walk.nearest cwd Layout.dependencyRoot start with
    | some root => return Path.join [root, name]
    | none => Search.fail request .noDependencyRoot

/-- The file that an entry without recognized extension stands for. -/
def entryMatch (rules : Rules) (entry folder : String) : Lookup (Option String) :=
  (rules.firstMatch entry).orElse fun _ =>
  (rules.indexMatch entry).orElse fun _ =>
  rules.indexMatch folder

/-- The file of the entry that a manifest names. -/
def entryFile (rules : Rules) (request : Request) (manifest folder : String) : Search String := do
  let entry ← Manifest.entryPath rules request manifest
  if rules.isRecognized (Path.extension entry) then return entry
  else
    match ← entryMatch rules entry folder with
    | some path => return path
    | none => Search.fail request (.noEntry entry manifest)

/-- The script with the name of a library, or the file that its specifier leads to. -/
def script (rules : Rules) (name folder : String) : Lookup (Option String) :=
  (Rules.noting (.scriptFound name ·) (rules.firstMatch folder)).orElse fun _ =>
    .kind folder fun kind =>
      if kind = some .file then rules.probeFile folder else .done none

/-- The file that the manifest of a folder leads to, or its index file when it has none. -/
def fileOfWalk (rules : Rules) (request : Request) (name : String) (walk : Walk) :
    Search String := do
  match walk.found with
  | some manifest => entryFile rules request manifest walk.directory
  | none =>
    match ← Rules.noting (.indexFound name ·) (rules.indexMatch walk.directory) with
    | some path => return path
    | none => Search.fail request (.noManifest walk.directory)

def locate (rules : Rules) (cwd : String) (request : Request) (name start : String) :
    Search String := do
  let folder ← directory cwd request name start
  match ← script rules name folder with
  | some path => return path
  | none =>
    let walk ← Walk.namedEntry rules cwd request Layout.manifest folder
      (rules.fallback == .escalate)
    fileOfWalk rules request name walk

end ModuleResolution.Library
