/-! # Folders

A folder is the list of its entries, files and folders, in the order in which the disk happens to
hold them; of two entries with one name the first is found. `Folder α` is generic in what a file
holds, so that `shape` can forget it. A location is the list of names that leads from a folder to
an item below it.

`walk` lists the files below a folder from the top down: the files of a folder by name, then its
folders by name with what is below them. Names are ordered by code point.
-/

set_option autoImplicit false

namespace ModuleResolution

/-- The entries of a folder, whose files hold an `α`. -/
inductive Folder (α : Type) where
  | empty
  | file (name : String) (content : α) (rest : Folder α)
  | subfolder (name : String) (below : Folder α) (rest : Folder α)
  deriving Repr

inductive Item (α : Type) where
  | file (content : α)
  | folder (below : Folder α)

inductive Kind where
  | file
  | folder
  deriving DecidableEq, Repr

def Item.kind {α : Type} : Item α → Kind
  | .file _ => .file
  | .folder _ => .folder

namespace Folder

variable {α : Type}

def get? (name : String) : Folder α → Option (Item α)
  | .empty => none
  | .file n content rest => if n = name then some (.file content) else rest.get? name
  | .subfolder n below rest => if n = name then some (.folder below) else rest.get? name

def at? : List String → Folder α → Option (Item α)
  | [], folder => some (.folder folder)
  | [name], folder => folder.get? name
  | name :: rest, folder =>
    match folder.get? name with
    | some (.folder below) => below.at? rest
    | _ => none

/-- The same folder with what its files hold forgotten. -/
def shape : Folder α → Folder Unit
  | .empty => .empty
  | .file name _ rest => .file name () rest.shape
  | .subfolder name below rest => .subfolder name below.shape rest.shape

/-- Sets the file of a name, in place or at the end; a folder of that name stays. -/
def setFile (name : String) (content : α) : Folder α → Folder α
  | .empty => .file name content .empty
  | .file n old rest =>
    if n = name then .file n content rest else .file n old (rest.setFile name content)
  | .subfolder n below rest =>
    if n = name then .subfolder n below rest else .subfolder n below (rest.setFile name content)

def addFolder (name : String) : Folder α → Folder α
  | .empty => .subfolder name .empty .empty
  | .file n content rest =>
    if n = name then .file n content rest else .file n content (rest.addFolder name)
  | .subfolder n below rest =>
    if n = name then .subfolder n below rest else .subfolder n below (rest.addFolder name)

/-- Removes the entry of a name with all it holds. -/
def remove (name : String) : Folder α → Folder α
  | .empty => .empty
  | .file n content rest => if n = name then rest else .file n content (rest.remove name)
  | .subfolder n below rest => if n = name then rest else .subfolder n below (rest.remove name)

def modify (name : String) (change : Folder α → Folder α) : Folder α → Folder α
  | .empty => .empty
  | .file n content rest =>
    if n = name then .file n content rest else .file n content (rest.modify name change)
  | .subfolder n below rest =>
    if n = name then .subfolder n (change below) rest
    else .subfolder n below (rest.modify name change)

def modifyAt (change : Folder α → Folder α) : List String → Folder α → Folder α
  | [], folder => change folder
  | name :: rest, folder => folder.modify name (modifyAt change rest)

def fileNames : Folder α → List String
  | .empty => []
  | .file name _ rest => name :: rest.fileNames
  | .subfolder _ _ rest => rest.fileNames

/-- Puts the files of a folder, then what each of its folders leads to, both by name. -/
def arrange (files : List String) (branches : List (String × List (List String))) :
    List (List String) :=
  (files.mergeSort fun a b => decide (a ≤ b)).map ([·]) ++
    (branches.mergeSort fun a b => decide (a.1 ≤ b.1)).flatMap fun (name, locations) =>
      locations.map (name :: ·)

/-- Each folder of a folder with the walk below it, keeping the files that `keep` admits. -/
def branches (keep : String → Bool) : Folder α → List (String × List (List String))
  | .empty => []
  | .file _ _ rest => rest.branches keep
  | .subfolder name below rest =>
    (name, arrange (below.fileNames.filter keep) (below.branches keep)) :: rest.branches keep

/-- The locations of the files below a folder whose names `keep` admits, from the top down. -/
def walk (keep : String → Bool) (folder : Folder α) : List (List String) :=
  arrange (folder.fileNames.filter keep) (folder.branches keep)

/-- The locations of the folder's own files whose names `keep` admits. -/
def ownFiles (keep : String → Bool) (folder : Folder α) : List (List String) :=
  arrange (folder.fileNames.filter keep) []

/-- Every file below a folder with its location, in the folder's own order. -/
def contents : Folder α → List (List String × α)
  | .empty => []
  | .file name content rest => ([name], content) :: rest.contents
  | .subfolder name below rest =>
    (below.contents.map fun (location, content) => (name :: location, content)) ++ rest.contents

end Folder

end ModuleResolution
