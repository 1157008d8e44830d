import ModuleResolution.Disk.Folder
import ModuleResolution.Path.Basic
import ModuleResolution.Text.Lines
import ModuleResolution.Text.Quoted
import ModuleResolution.Text.Utf8

/-! # Disks

A disk is a folder of files that hold octets, the folder at `/`. A path text is looked up piece
by piece, seen from the current directory unless it starts with a slash: an empty piece and `.`
stay, `..` goes to the folder above (and stays at `/`), any other piece is a name in the folder
reached so far. A piece after something that is no folder is refused, also an empty one, so a
trailing slash only fits a folder. No path holds the character NUL.

Every change takes a disk to a disk or names the reason why it cannot be made.
-/

set_option autoImplicit false

namespace ModuleResolution

/-- A disk: the folder at `/`. -/
abbrev Disk := Folder (List UInt8)

inductive DiskFault where
  | missing
  | notFolder
  | isFolder
  | taken
  /-- The path holds the character NUL, so it leads nowhere on any disk. -/
  | impossible
  deriving DecidableEq, Repr

structure DiskFailure where
  fault : DiskFault
  path : String
  deriving DecidableEq, Repr

def DiskFault.message : DiskFault → String
  | .missing => "[Errno 2] No such file or directory"
  | .notFolder => "[Errno 20] Not a directory"
  | .isFolder => "[Errno 21] Is a directory"
  | .taken => "[Errno 17] File exists"
  | .impossible => "embedded null byte"

def DiskFailure.message (failure : DiskFailure) : String :=
  match failure.fault with
  | .impossible => failure.fault.message
  | fault => fault.message ++ ": " ++ Quoted.text failure.path

inductive ReadFailure where
  | unreachable (failure : DiskFailure)
  /-- The file holds octets that are no text. -/
  | undecodable (failure : Utf8.Failure) (octets : List UInt8)
  deriving DecidableEq, Repr

def ReadFailure.message : ReadFailure → String
  | .unreachable failure => failure.message
  | .undecodable failure _ => failure.message

namespace Disk

/-- Follows the pieces of a path from a location on. -/
def follow (disk : Disk) : List String → List String → Except DiskFault (List String)
  | location, [] => .ok location
  | location, piece :: rest =>
    match disk.at? location with
    | none => .error .missing
    | some (.file _) => .error .notFolder
    | some (.folder _) =>
      if piece = "" || piece = "." then follow disk location rest
      else if piece = ".." then follow disk location.dropLast rest
      else
        match disk.at? (location ++ [piece]) with
        | none => .error .missing
        | some _ => follow disk (location ++ [piece]) rest

/-- The pieces of a path as seen from the current directory. -/
def piecesFrom (cwd path : String) : List String :=
  Path.pieces (if Path.isAbsolute path then path else cwd ++ "/" ++ path)

/-- No disk has anything at a path that holds the character NUL. Every other path that is a text can
be asked for. -/
def isImpossible (path : String) : Bool := path.toList.contains (Char.ofNat 0)

def locate (disk : Disk) (cwd path : String) : Except DiskFault (List String) :=
  if isImpossible path then .error .impossible
  else if path.isEmpty then .error .missing
  else disk.follow [] (piecesFrom cwd path)

def item (disk : Disk) (cwd path : String) : Except DiskFault (Item (List UInt8)) :=
  match disk.locate cwd path with
  | .error fault => .error fault
  | .ok location =>
    match disk.at? location with
    | none => .error .missing
    | some item => .ok item

def kind? (disk : Disk) (cwd path : String) : Option Kind :=
  match disk.item cwd path with
  | .ok item => some item.kind
  | .error _ => none

def readOctets (disk : Disk) (cwd path : String) : Except DiskFailure (List UInt8) :=
  match disk.item cwd path with
  | .ok (.file octets) => .ok octets
  | .ok (.folder _) => .error ⟨.isFolder, path⟩
  | .error fault => .error ⟨fault, path⟩

/-- The text of a file with its line ends unified. -/
def readText (disk : Disk) (cwd path : String) : Except ReadFailure String :=
  match disk.readOctets cwd path with
  | .error failure => .error (.unreachable failure)
  | .ok octets =>
    match Utf8.decode octets with
    | .error failure => .error (.undecodable failure octets)
    | .ok text => .ok (Lines.unify text)

/-- The shape of the folder a path leads to; without entries when it leads to none. -/
def shapeAt (disk : Disk) (cwd path : String) : Folder Unit :=
  match disk.item cwd path with
  | .ok (.folder below) => below.shape
  | _ => .empty

/-- The folder that a path whose last piece is missing would go into, with that piece. -/
def vacancy (disk : Disk) (cwd path : String) : Option (List String × String) :=
  let pieces := piecesFrom cwd path
  match pieces.getLast? with
  | none => none
  | some name =>
    if name = "" || name = "." || name = ".." then none
    else
      match disk.follow [] pieces.dropLast with
      | .ok location =>
        match disk.at? location with
        | some (.folder _) => some (location, name)
        | _ => none
      | .error _ => none

/-- Makes a file hold the given octets; its folder has to be there. -/
def write (disk : Disk) (cwd path : String) (octets : List UInt8) : Except DiskFailure Disk :=
  match disk.locate cwd path with
  | .ok location =>
    match disk.at? location with
    | some (.file _) => .ok (disk.modifyAt (·.setFile (location.getLastD "") octets)
        location.dropLast)
    | _ => .error ⟨.isFolder, path⟩
  | .error fault =>
    match fault, disk.vacancy cwd path with
    | .missing, some (location, name) => .ok (disk.modifyAt (·.setFile name octets) location)
    | _, _ => .error ⟨fault, path⟩

/-- Adds octets at the end of a file, which is made if it is missing. -/
def append (disk : Disk) (cwd path : String) (octets : List UInt8) : Except DiskFailure Disk :=
  match disk.readOctets cwd path with
  | .ok old => disk.write cwd path (old ++ octets)
  | .error _ => disk.write cwd path octets

/-- Makes a folder in a folder that is there. -/
def makeFolder (disk : Disk) (cwd path : String) : Except DiskFailure Disk :=
  match disk.locate cwd path with
  | .ok _ => .error ⟨.taken, path⟩
  | .error fault =>
    match fault, disk.vacancy cwd path with
    | .missing, some (location, name) => .ok (disk.modifyAt (·.addFolder name) location)
    | _, _ => .error ⟨fault, path⟩

def settle (disk : Disk) (cwd path : String) (failure : DiskFailure) : Except DiskFailure Disk :=
  if disk.kind? cwd path = some .folder then .ok disk else .error failure

/-- Makes the folder of a path, given by its names from the innermost on, and the folders above
it that are missing. One that is there already is fine. -/
def makeFoldersAt (cwd : String) (anchor : Anchor) :
    List String → Disk → Except DiskFailure Disk
  | names, disk =>
    let path := Path.render ⟨anchor, names.reverse⟩
    match disk.makeFolder cwd path with
    | .ok disk => .ok disk
    | .error failure =>
      if failure.fault = .missing then
        match names with
        | [] => .error failure
        | _ :: above =>
          match makeFoldersAt cwd anchor above disk with
          | .error failure => .error failure
          | .ok disk =>
            match disk.makeFolder cwd path with
            | .ok disk => .ok disk
            | .error failure => disk.settle cwd path failure
      else disk.settle cwd path failure

/-- Makes the folder of a path and the folders above it that are missing. -/
def makeFolders (disk : Disk) (cwd path : String) : Except DiskFailure Disk :=
  let path := Path.ofString path
  makeFoldersAt cwd path.anchor path.names.reverse disk

def erase (disk : Disk) (cwd path : String) : Except DiskFailure Disk :=
  match disk.locate cwd path with
  | .ok [] => .ok .empty
  | .ok location => .ok (disk.modifyAt (·.remove (location.getLastD "")) location.dropLast)
  | .error fault => .error ⟨fault, path⟩

def files (disk : Disk) : List (String × List UInt8) :=
  disk.contents.map fun (location, octets) => ("/" ++ Path.joinNames location, octets)

end Disk

end ModuleResolution
