import ModuleResolution.Lookup.Basic
import ModuleResolution.Path.Extension

/-! # Listing files

The files below a folder whose extension is allowed and not excluded, from the top down: those of
a folder by name, then its folders by name. A path that leads to no folder has none.
-/

set_option autoImplicit false

namespace ModuleResolution

structure Filter where
  allowed : List String
  excluded : List String

def Filter.admits (filter : Filter) (name : String) : Bool :=
  filter.allowed.contains (Path.extension name) && !filter.excluded.contains (Path.extension name)

namespace Listing

/-- The path of a location below a folder. -/
def pathOf (directory : String) (location : List String) : String :=
  location.foldl Path.append directory

/-- The files listed in a folder of some shape, with what is below it or without. -/
def paths (directory : String) (filter : Filter) (recursive : Bool) (shape : Folder Unit) :
    List String :=
  (if recursive then shape.walk filter.admits else shape.ownFiles filter.admits).map
    (pathOf directory)

def files (directory : String) (filter : Filter) (recursive : Bool) : Lookup (List String) :=
  .shape directory fun shape =>
    let found := paths directory filter recursive shape
    .note (.listed directory found.length) (.done found)

/-- The files listed in what a path leads to, unless no disk can have the path. -/
def filesAt (directory : String) (filter : Filter) (recursive : Bool) :
    Lookup (Except DiskFailure (List String)) :=
  if Disk.isImpossible directory then .done (.error ⟨.impossible, directory⟩)
  else (files directory filter recursive).bind fun found => .done (.ok found)

end Listing

end ModuleResolution
