import ModuleResolution.Options.Basic
import ModuleResolution.Path.Specifier
import ModuleResolution.Resolve.Failure
import ModuleResolution.Resolve.Listing

/-! # Walks

Two searches over folders. `nearest` looks for an entry in a folder and its ancestors, without
the root. `namedEntry` looks for a file, mostly the manifest, of a folder: in the folder itself
and, when the folder exists but does not hold it, anywhere below. When the folder is missing, at
most two others are looked in instead, each once: that of the type package beside the missing
library, and that of the library in the next dependency root further up.
-/

set_option autoImplicit false

namespace ModuleResolution

abbrev Search := ExceptT Stop Lookup

/-- A search that gives up on a request. -/
def Search.fail {α : Type} (request : Request) (cause : Cause) : Search α :=
  throw (.failed ⟨request, cause⟩)

/-- Where a walk ended, and the file it found there, if the folder holds one. -/
structure Walk where
  directory : String
  found : Option String
  deriving DecidableEq, Repr

/-- A place inside a dependency root: the root and the names below it, at least one. -/
structure Installed where
  root : String
  names : List String
  deriving DecidableEq, Repr

namespace Installed

/-- Splits a stack of names, innermost first, at the innermost dependency root. -/
def ofStack? (anchor : Anchor) (stack : List String) : Option Installed :=
  match stack.takeWhile (· != Layout.dependencyRoot), stack.dropWhile (· != Layout.dependencyRoot)
  with
  | [], _ => none
  | _, [] => none
  | below, above => some ⟨Path.render ⟨anchor, above.reverse⟩, below.reverse⟩

/-- The place of a path inside its innermost dependency root, if it lies in one. -/
def ofPath? (cwd path : String) : Option Installed :=
  let read := Path.read (Path.absolute cwd path)
  ofStack? read.anchor read.names.reverse

/-- How many names make up the name of the library: two for a scoped one. -/
def nameLength (installed : Installed) : Nat :=
  match installed.names with
  | first :: _ :: _ => if first.toList.head? = some '@' then 2 else 1
  | _ => 1

def library (installed : Installed) : String :=
  Path.joinNames (installed.names.take installed.nameLength)

/-- The same place in the type package of the library; none for a type package itself. -/
def sidecar? (installed : Installed) : Option String :=
  if installed.names.head? = some Layout.typesFolder then none
  else
    some (Path.join (installed.root :: Layout.typesFolder
      :: Specifier.sidecarName installed.library :: installed.names.drop installed.nameLength))

end Installed

namespace Walk

/-- Where `name` would be in a folder and its ancestors, nearest first, without the root. -/
def places (cwd name start : String) : List String :=
  (Path.lineage (Path.absolute cwd start)).map fun directory => Path.join [directory, name]

/-- The nearest `name` in a folder or one of its ancestors. -/
def nearest (cwd name start : String) : Lookup (Option String) :=
  .firstPresent (places cwd name start)

/-- The file names that a target stands for: itself, when it has an extension. -/
def targetNames (rules : Rules) (target : String) : List String :=
  if Path.extension target != "" then [target] else rules.probeOrder.map (target ++ ·)

def searchBelow (rules : Rules) (target directory : String) : Lookup (Option String) :=
  (Listing.files directory ⟨rules.allowed, rules.excluded⟩ true).bind fun files =>
    .done (files.find? fun file => (targetNames rules target).contains (Path.fileName file))

/-- Looks for a target in a folder; nothing when the folder is missing. -/
def visit (rules : Rules) (target directory : String) : Lookup (Option Walk) :=
  let direct := Path.join [directory, target]
  .kind direct fun
    | some _ => .done (some ⟨directory, some direct⟩)
    | none => .kind directory fun
      | none => .done none
      | some _ => (searchBelow rules target directory).bind fun found =>
        .done (some ⟨directory, found⟩)

/-- The place of a library in the next dependency root further up, if there is one. -/
def nestedRoot (cwd : String) (installed : Installed) : Lookup (Option String) :=
  let owner := Path.parent installed.root
  if Path.isRoot owner then .done none
  else
    (nearest cwd Layout.dependencyRoot (Path.parent owner)).bind fun higher =>
      .done (higher.map fun root => Path.join (root :: installed.names))

/-- Looks for a target in another folder than the one asked for, if there is one to look in. -/
def visitInstead (rules : Rules) (request : Request) (target : String) (mode : Escalation) :
    Option String → Lookup (Option Walk)
  | none => .done none
  | some directory =>
    .note (.escalated mode target request.specifier directory) (visit rules target directory)

/-- Looks for a target in the folders that can stand for a missing one. -/
def escalate (rules : Rules) (cwd : String) (request : Request) (target start : String) :
    Lookup (Option Walk) :=
  match Installed.ofPath? cwd start with
  | none => .done none
  | some installed =>
    (visitInstead rules request target .typeSidecar installed.sidecar?).orElse fun _ =>
      (nestedRoot cwd installed).bind (visitInstead rules request target .nestedRoot)

/-- Looks for a target in a folder and, when allowed, in those that can stand for it. -/
def seek (rules : Rules) (cwd : String) (request : Request) (target start : String)
    (mayEscalate : Bool) : Lookup (Option Walk) :=
  (visit rules target start).orElse fun _ =>
    if mayEscalate then escalate rules cwd request target start else .done none

/-- Looks for a target in a folder; the walk fails when no folder to look in exists. -/
def namedEntry (rules : Rules) (cwd : String) (request : Request) (target start : String)
    (mayEscalate : Bool) : Search Walk := do
  match ← seek rules cwd request target start mayEscalate with
  | some walk => return walk
  | none => Search.fail request (.noAncestor target start)

end Walk

end ModuleResolution
