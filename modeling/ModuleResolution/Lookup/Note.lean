import ModuleResolution.Logging.Level

/-! # Notes

What a lookup tells about its course, for whoever follows it: one line for each step that is not
plain from the result, and a warning for each settings file that is left out.
-/

set_option autoImplicit false

namespace ModuleResolution

inductive Source where
  | disk
  | probe
  | walk
  | manifest
  | library
  | session
  | settings
  deriving DecidableEq, Repr

def Source.logger : Source → String
  | .disk => "modpath.fs.file_system"
  | .probe => "modpath.resolution.extensions"
  | .walk => "modpath.resolution.walker"
  | .manifest => "modpath.resolution.package_descriptor"
  | .library => "modpath.resolution.library"
  | .session => "modpath.resolution.resolver"
  | .settings => "modpath.settings"

/-- How a probe came from a path to a file. -/
inductive ProbeStep where
  | extensionSwapped
  | suffixCleared
  | index
  deriving DecidableEq, Repr

inductive Escalation where
  | typeSidecar
  | nestedRoot
  deriving DecidableEq, Repr

inductive RequestKind where
  | builtin
  | library
  | file
  deriving DecidableEq, Repr

inductive Note where
  | listed (directory : String) (count : Nat)
  | probed (path found : String) (step : ProbeStep)
  | escalated (mode : Escalation) (target specifier directory : String)
  | entryNamed (field entry : String)
  | scriptFound (library path : String)
  | indexFound (library path : String)
  | retrying (specifier directory parent : String)
  | resolved (specifier path : String) (kind : RequestKind)
  | unreadable (path cause : String)
  | noMapping (path : String)
  | noSection (path name : String)
  deriving DecidableEq, Repr

def ProbeStep.name : ProbeStep → String
  | .extensionSwapped => "extension swapped"
  | .suffixCleared => "suffix cleared"
  | .index => "index"

/-- The name of an escalation. -/
def Escalation.name : Escalation → String
  | .typeSidecar => "type-sidecar"
  | .nestedRoot => "nested-root"

def RequestKind.name : RequestKind → String
  | .builtin => "builtin"
  | .library => "library"
  | .file => "file"

def Note.source : Note → Source
  | .listed _ _ => .disk
  | .probed _ _ _ => .probe
  | .escalated _ _ _ _ => .walk
  | .entryNamed _ _ => .manifest
  | .scriptFound _ _ => .library
  | .indexFound _ _ => .library
  | .retrying _ _ _ => .session
  | .resolved _ _ _ => .session
  | .unreadable _ _ => .settings
  | .noMapping _ => .settings
  | .noSection _ _ => .settings

def Note.level (note : Note) : Level :=
  match note.source with
  | .settings => .warning
  | _ => .debug

def Note.message : Note → String
  | .listed directory count =>
    "[fs:list] " ++ directory ++ " -> " ++ toString count ++ " files"
  | .probed path found step => "[probe] " ++ path ++ " -> " ++ found ++ " (" ++ step.name ++ ")"
  | .escalated mode target specifier directory =>
    "[walk:" ++ mode.name ++ "] " ++ target ++ " for " ++ specifier ++ " -> " ++ directory
  | .entryNamed field entry => "[manifest] entry from '" ++ field ++ "': " ++ entry
  | .scriptFound library path => "[library] " ++ library ++ " -> " ++ path ++ " (script)"
  | .indexFound library path =>
    "[library] " ++ library ++ " -> " ++ path ++ " (no manifest, index)"
  | .retrying specifier directory parent =>
    "[resolve] " ++ specifier ++ " failed from " ++ directory ++ ", retrying from " ++ parent
  | .resolved specifier path kind =>
    "[resolve] " ++ specifier ++ " -> " ++ path ++ " (" ++ kind.name ++ ")"
  | .unreadable path cause => "Failed to read " ++ path ++ ": " ++ cause
  | .noMapping path => "Ignoring " ++ path ++ ": expected a mapping at the top level"
  | .noSection path name => "Ignoring '" ++ name ++ "' in " ++ path ++ ": expected a mapping"

end ModuleResolution
