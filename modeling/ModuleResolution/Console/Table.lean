import ModuleResolution.Console.Print
import ModuleResolution.Text.Blank

/-! # Tables

A column of a table is as wide as the widest line in it, where a tab counts as nothing. A line that
is wider once its tabs are spaces is broken between its words, and a word that is wider still ends
in an ellipsis. Each further line of a cell is a row of its own.
-/

set_option autoImplicit false

namespace ModuleResolution.Console

/-- A table that is shown: a title and rows, the first one being the header. -/
structure Table where
  title : String
  rows : List (List String)
  deriving DecidableEq, Repr

namespace Table

/-- The character ends a line for the width of a text. -/
def endsLine (c : Char) : Bool :=
  [0x0A, 0x1C, 0x1D, 0x1E, 0x85, 0x2028, 0x2029].contains c.toNat

def width (text : List Char) : Nat :=
  ((text.splitOnP endsLine).map Cells.count).foldl max 0

/-- The words of a line in at most so many steps, each with the blanks behind it, the first one also
with those before it. -/
def words : Nat → List Char → List (List Char)
  | 0, _ => []
  | steps + 1, line =>
    let (before, rest) := line.span isBlank
    let (word, rest) := rest.span fun c => !isBlank c
    let (behind, rest) := rest.span isBlank
    if word.isEmpty then [] else (before ++ word ++ behind) :: words steps rest

def trimEnd (line : List Char) : List Char := (line.reverse.dropWhile isBlank).reverse

/-- Lines that hold some words behind those of a line, which takes up some cells: a word starts a
line if it does not fit on the one before. -/
def fill (width : Nat) : List Char → Nat → List (List Char) → List (List Char)
  | line, _, [] => [line]
  | line, used, word :: rest =>
    if used + Cells.count (trimEnd word) ≤ width then
      fill width (line ++ word) (used + Cells.count word) rest
    else if line.isEmpty then fill width word (Cells.count word) rest
    else line :: fill width word (Cells.count word) rest

/-- The start of a line that takes up so many cells, a space standing for half a wide character. -/
def start (width : Nat) (line : List Char) : List Char :=
  let lengths := (List.range (line.length + 1)).filter fun n => Cells.count (line.take n) ≤ width
  let kept := line.take (lengths.getLast?.getD 0)
  kept ++ List.replicate (width - Cells.count kept) ' '

/-- A line cut down to a width: blanks at its end go first, and an ellipsis stands for the rest. -/
def cut (width : Nat) (line : List Char) : List Char :=
  let blanks := line.length - (trimEnd line).length
  let line := line.take (line.length - min blanks (line.length - width))
  if Cells.count line ≤ width then line else start (width - 1) line ++ ['…']

def lines (width : Nat) (text : List Char) : List (List Char) :=
  (text.splitOn '\n').flatMap fun line =>
    let line := Cells.expandTabs line
    let filled := match words (line.length + 1) line with
      | [] => [line]
      | all => fill width [] 0 all
    filled.map (cut width)

/-- The rows that a row takes up in columns of some widths. -/
def split (widths : List Nat) (row : List (List Char)) : List (List String) :=
  let cells := List.zipWith lines widths row
  let height := (cells.map List.length).foldl max 0
  (List.range height).map fun n => cells.map fun lines => String.ofList ((lines[n]?).getD [])

def widths (rows : List (List (List Char))) : List Nat :=
  match rows with
  | [] => []
  | first :: rest =>
    rest.foldl (fun found row => List.zipWith max found (row.map width)) (first.map width)

/-- A table of marked-up texts as it is shown. The tags of all cells are read before any style of
what is shown. -/
def ofMarkup (title : String) (rows : List (List String)) : Except Failure Table := do
  let cells ← rows.mapM fun row => row.mapM shown
  cells.forM fun row => row.forM checkStyles
  let rows := cells.map fun row => row.map fun parts => parts.flatMap (·.chars)
  return ⟨title, rows.flatMap (split (widths rows))⟩

end Table

end ModuleResolution.Console
