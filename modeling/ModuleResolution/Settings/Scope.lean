import ModuleResolution.Path.Basic

/-! # Scopes

Settings are kept in three files: one for the user, in the home directory, and two for the current
directory, one of the project and one of this machine alone. A more specific scope counts more.
-/

set_option autoImplicit false

namespace ModuleResolution

inductive Scope where
  | user
  | project
  | machine
  deriving DecidableEq, Repr

namespace Scope

def all : List Scope := [.user, .project, .machine]

def name : Scope → String
  | .user => "global"
  | .project => "project"
  | .machine => "local"

def ofName? (text : String) : Option Scope := all.find? fun scope => scope.name == text

def fileName : Scope → String
  | .machine => "settings.local.yaml"
  | _ => "settings.yaml"

end Scope

/-- Where settings are looked for. -/
structure SettingsPlace where
  home : String
  cwd : String
  deriving DecidableEq, Repr

namespace SettingsPlace

/-- The folder in which settings files are kept. -/
def folderName : String := ".modpath"

/-- The home directory, which is the root if its path has only slashes. -/
def homeFolder (place : SettingsPlace) : String :=
  let trimmed := (place.home.toList.reverse.dropWhile (· == '/')).reverse
  if trimmed.isEmpty then "/" else String.ofList trimmed

/-- The home directory cannot be told when its path starts with a tilde, which stands for it. -/
def isHomeless (place : SettingsPlace) : Bool := place.homeFolder.toList.head? == some '~'

def base (place : SettingsPlace) : Scope → String
  | .user => place.homeFolder
  | _ => place.cwd

def folder (place : SettingsPlace) (scope : Scope) : Path :=
  let base := Path.ofString (place.base scope)
  { base with names := base.names ++ [folderName] }

def file (place : SettingsPlace) (scope : Scope) : String :=
  let folder := place.folder scope
  Path.render { folder with names := folder.names ++ [scope.fileName] }

end SettingsPlace

end ModuleResolution
