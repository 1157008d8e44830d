/-! # Paths

A path is read as an anchor and the names below it. Reading drops empty names and `.`, so
`a//./b` and `a/b` are the same `Path`; `..` is a name like any other until `collapse` cancels
it against the name before it. At an absolute anchor a `..` with nothing to cancel is dropped,
in a relative path it stays in front. `normalize` is read, collapse, write.

`parent`, `fileName` and `isRoot` look at the normalized path. The parent of a relative name
without a directory is the empty text; the parent of `/` is `/` and that of `//` is `//`, so
both are roots. `absolute` anchors a path at a directory, itself anchored at the current one.
-/

set_option autoImplicit false

namespace ModuleResolution

/-- Where a path starts: wherever it is used, at `/`, or at `//` (exactly two slashes). -/
inductive Anchor where
  | relative
  | root
  | doubleRoot
  deriving DecidableEq, Repr

/-- A path: its anchor and its names from the outermost to the innermost. -/
structure Path where
  anchor : Anchor
  names : List String
  deriving DecidableEq, Repr

/-- The slashes an anchor is written with. -/
def Anchor.text : Anchor → String
  | .relative => ""
  | .root => "/"
  | .doubleRoot => "//"

namespace Path

/-- The anchor of a path text: two slashes differ from one, three or more do not. -/
def anchorOf (text : String) : Anchor :=
  match text.toList with
  | '/' :: '/' :: '/' :: _ => .root
  | '/' :: '/' :: _ => .doubleRoot
  | '/' :: _ => .root
  | _ => .relative

def pieces (text : String) : List String :=
  (text.toList.splitOn '/').map String.ofList

/-- A piece that is kept when a path is read. -/
def isName (piece : String) : Bool := piece != "" && piece != "."

/-- Reads a path; `..` is kept as a name. -/
def ofString (text : String) : Path :=
  ⟨anchorOf text, (pieces text).filter isName⟩

def joinNames (names : List String) : String := "/".intercalate names

/-- Writes a path; the empty relative path is `.`. -/
def render : Path → String
  | ⟨.relative, []⟩ => "."
  | ⟨anchor, names⟩ => anchor.text ++ joinNames names

/-- Puts a name on a stack of names, innermost first. A `..` takes the innermost name away,
unless that is itself `..`; on the empty stack it stays only in a relative path. -/
def push (anchor : Anchor) : List String → String → List String
  | [], name =>
    if name = ".." then (if anchor = .relative then [name] else []) else [name]
  | top :: below, name =>
    if name = ".." then (if top = ".." then name :: top :: below else below)
    else name :: top :: below

/-- Cancels every `..` against the name before it. -/
def collapse (path : Path) : Path :=
  ⟨path.anchor, (path.names.foldl (push path.anchor) []).reverse⟩

/-- Reads a path text and cancels every `..`. -/
def read (text : String) : Path := (ofString text).collapse

def normalize (text : String) : String := (read text).render

def isAbsolute (text : String) : Bool := text.toList.head? == some '/'

/-- Puts one path after another with one slash between them: an absolute right side stands
alone, and no slash is added after an empty left side or one that ends in a slash. -/
def append (left right : String) : String :=
  if isAbsolute right then right
  else if left.isEmpty || left.toList.getLast? == some '/' then left ++ right
  else left ++ "/" ++ right

/-- Several paths put one after another, then normalized. -/
def join : List String → String
  | [] => normalize ""
  | first :: rest => normalize (rest.foldl append first)

/-- The normal form of `text` as seen from `directory`, itself as seen from `cwd`. -/
def absoluteFrom (cwd directory text : String) : String :=
  if isAbsolute text then normalize text
  else normalize (append (normalize (append cwd directory)) text)

/-- The normal form of `text` as seen from `cwd`. -/
def absolute (cwd text : String) : String := absoluteFrom cwd cwd text

def parent (text : String) : String :=
  match read text with
  | ⟨.relative, names⟩ => joinNames names.dropLast
  | ⟨anchor, names⟩ => anchor.text ++ joinNames names.dropLast

/-- The last name of a path; a root has none, and the current directory has `.`. -/
def fileName (text : String) : String :=
  match read text with
  | ⟨.relative, []⟩ => "."
  | ⟨_, names⟩ => names.getLastD ""

/-- A path that is its own parent. -/
def isRoot (text : String) : Bool := parent text == normalize text

/-- The parts of a text between slashes of either kind, empty ones dropped. -/
def segments (text : String) : List String :=
  ((text.toList.splitOnP fun c => c == '/' || c == '\\').map String.ofList).filter (· != "")

/-- The given directory stack (innermost name first) and its ancestors below the root. -/
def lineageOf (anchor : Anchor) : List String → List String
  | [] => []
  | name :: above => render ⟨anchor, (name :: above).reverse⟩ :: lineageOf anchor above

/-- A directory followed by its ancestors, nearest first, without the root. -/
def lineage (directory : String) : List String :=
  let path := read directory
  lineageOf path.anchor path.names.reverse

end Path

end ModuleResolution
