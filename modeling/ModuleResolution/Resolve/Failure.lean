import ModuleResolution.Disk.Basic
import ModuleResolution.Json.Reader
import ModuleResolution.Options.Layout

/-! # Failures

A failure carries the request as it was made, never a place tried on the way, and the cause. The
causes fall into a few kinds, of which a missing ancestor counts as a missing manifest too.

Besides failing, a resolution can stop on a manifest with an integer of too many digits, with too
many containers in each other or with half of a pair of code units, which makes no character, and on
a path that no disk can have; these are no failures of the request, so nothing is tried after them.
-/

set_option autoImplicit false

namespace ModuleResolution

structure Request where
  specifier : String
  directory : String
  deriving DecidableEq, Repr

/-- The kinds of failure; the first stands for all of them. -/
inductive FailureKind where
  | resolution
  | dependencyRootNotFound
  | packageManifestNotFound
  | packageEntryNotFound
  | fileNotFound
  | invalidAncestorPath
  | invalidPackageManifest
  deriving DecidableEq, Repr

def FailureKind.name : FailureKind → String
  | .resolution => "ResolutionError"
  | .dependencyRootNotFound => "DependencyRootNotFound"
  | .packageManifestNotFound => "PackageManifestNotFound"
  | .packageEntryNotFound => "PackageEntryNotFound"
  | .fileNotFound => "FileNotFound"
  | .invalidAncestorPath => "InvalidAncestorPath"
  | .invalidPackageManifest => "InvalidPackageManifest"

def FailureKind.all : List FailureKind :=
  [.resolution, .dependencyRootNotFound, .packageManifestNotFound, .packageEntryNotFound,
    .fileNotFound, .invalidAncestorPath, .invalidPackageManifest]

def FailureKind.ofName? (name : String) : Option FailureKind :=
  all.find? fun kind => kind.name == name

/-- The kind is that of a missing manifest or a special case of it. -/
def FailureKind.isMissingManifest : FailureKind → Bool
  | .packageManifestNotFound => true
  | .invalidAncestorPath => true
  | _ => false

inductive ManifestFault where
  | unreadable (failure : ReadFailure)
  | malformed (cause : Json.Cause) (text : String) (offset : Nat)
  | notObject
  deriving DecidableEq, Repr

inductive Cause where
  /-- The specifier names no library. -/
  | noLibrary
  /-- No folder above holds a dependency root. -/
  | noDependencyRoot
  /-- No manifest and no index file in the folder. -/
  | noManifest (directory : String)
  /-- The entry that the manifest names leads to no file. -/
  | noEntry (entry manifest : String)
  /-- No file where a path specifier leads. -/
  | noFile (path : String)
  /-- The folder to search is missing, and so are the folders to look in instead. -/
  | noAncestor (target directory : String)
  /-- The manifest cannot be used. -/
  | badManifest (manifest : String) (fault : ManifestFault)
  deriving DecidableEq, Repr

structure Failure where
  request : Request
  cause : Cause
  deriving DecidableEq, Repr

/-- Why a resolution gives no path. -/
inductive Stop where
  | failed (failure : Failure)
  | excessive (excess : Json.Excess)
  /-- A path that no disk can have. -/
  | impossible (failure : DiskFailure)
  deriving DecidableEq, Repr

def Cause.kind : Cause → FailureKind
  | .noLibrary => .fileNotFound
  | .noDependencyRoot => .dependencyRootNotFound
  | .noManifest _ => .packageManifestNotFound
  | .noEntry _ _ => .packageEntryNotFound
  | .noFile _ => .fileNotFound
  | .noAncestor _ _ => .invalidAncestorPath
  | .badManifest _ _ => .invalidPackageManifest

namespace Failure

def kind (failure : Failure) : FailureKind := failure.cause.kind

def unreadableManifest (request : Request) (manifest why : String) : String :=
  "Could not read " ++ manifest ++ " while resolving '" ++ request.specifier ++ "' from '"
    ++ request.directory ++ "': " ++ why

def message (failure : Failure) : String :=
  let specifier := "'" ++ failure.request.specifier ++ "'"
  let directory := "'" ++ failure.request.directory ++ "'"
  match failure.cause with
  | .noLibrary => specifier ++ " (from " ++ directory ++ ") does not name a library"
  | .noDependencyRoot =>
    "Could not locate '" ++ Layout.dependencyRoot ++ "' for " ++ specifier ++ " in neither "
      ++ directory ++ " nor any parent directory"
  | .noManifest folder =>
    "Could not find a " ++ Layout.manifest ++ " for " ++ specifier ++ " (from " ++ directory
      ++ ") within directory: " ++ folder
  | .noEntry entry manifest =>
    "No file on disk matches the entry " ++ entry ++ " declared in " ++ manifest
      ++ " (resolving " ++ specifier ++ " from " ++ directory ++ ")"
  | .noFile path =>
    "Could not find a file on disk for " ++ specifier ++ " (from " ++ directory ++ "): " ++ path
  | .noAncestor target folder =>
    "No '" ++ target ++ "' found for " ++ specifier ++ ": " ++ folder ++ " does not exist in "
      ++ directory ++ " nor any parent directory"
  | .badManifest manifest (.unreadable why) =>
    unreadableManifest failure.request manifest why.message
  | .badManifest manifest (.malformed cause text offset) =>
    unreadableManifest failure.request manifest (Json.Failure.malformed cause text offset).message
  | .badManifest manifest .notObject =>
    manifest ++ " does not contain a JSON object (resolving " ++ specifier ++ " from "
      ++ directory ++ ")"

end Failure

def Stop.message : Stop → String
  | .failed failure => failure.message
  | .excessive excess => excess.message
  | .impossible failure => failure.message

end ModuleResolution
