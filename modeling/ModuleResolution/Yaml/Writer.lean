import ModuleResolution.Yaml.Outline
import ModuleResolution.Yaml.Style

/-! # Writing YAML

A mapping is written with an entry on each line and a list with an item on each line behind a dash.
A nested mapping is indented by two spaces below its key, a list not at all; an empty one is written
in brackets. A key that is empty, goes over several lines or is very long stands behind a question
mark, with its value on the next line.

A collection with an anchor starts on the line below it. A set is written behind a tag as a mapping
of its members to nothing, and octets behind a tag as letters in lines of their own.
-/

set_option autoImplicit false

namespace ModuleResolution.Yaml

/-- The length that the written tag of a scalar counts for. -/
def tagLength : Scalar → Nat
  | .null => 6
  | .bool _ => 6
  | .integer _ => 5
  | .real _ => 7
  | .moment _ => 11
  | .text _ => 5
  | .octets _ => 8

/-- The name of a shared part, which has a number. -/
def anchorName (number : Nat) : List Char :=
  let digits := Nat.toDigits 10 number
  'i' :: 'd' :: List.replicate (3 - digits.length) '0' ++ digits

/-- The mark of a part that is written here, behind a space; nothing if it stands in one place. -/
def writeAnchor : Option Nat → List Char
  | none => []
  | some number => ' ' :: '&' :: anchorName number

/-- A mark that stands in front of what is on the same line. -/
def writeAnchorBefore (anchor : Option Nat) : List Char :=
  match writeAnchor anchor with
  | ' ' :: mark => mark ++ [' ']
  | mark => mark

/-- What is written of a scalar in its slot. -/
def writeLeaf (slot : Slot) : Leaf → List Char
  | .mention number => '*' :: anchorName number
  | .scalar anchor s =>
    let mark := writeAnchorBefore anchor
    mark ++ writeScalar { slot with column := slot.column + mark.length } s

/-- A key may stand on the line of its value. -/
def isSimpleKey : Leaf → Bool
  | .mention _ => true
  | .scalar _ (.octets _) => false
  | .scalar _ (.text text) =>
    !text.isEmpty && !text.toList.any (fun c => isBreak c && c != '\r')
      && decide (text.length + tagLength (.text text) < 128)
  | .scalar anchor key =>
    let length := (writeScalar ⟨0, 0, false⟩ key).length + (writeAnchor anchor).length
    decide (length + tagLength key < 128)

/-- A key behind a question mark at an indentation, and the mark of its value on the next line. -/
def writeLongKey (indent : Nat) (key : Leaf) : List Char :=
  '?' :: ' ' :: writeLeaf ⟨indent + 2, indent + 2, true⟩ key ++ newLine indent ++ [':', ' ']

def writeMember (indent : Nat) (member : Leaf) : List Char :=
  if isSimpleKey member then writeLeaf ⟨indent, indent, false⟩ member ++ ": null".toList
  else writeLongKey indent member ++ "null".toList

def writeSet (anchor : Option Nat) (indent : Nat) (members : List Leaf) : List Char :=
  writeAnchorBefore anchor ++ "!!set".toList ++
    if members.isEmpty then " \x7b\x7d".toList
    else newLine indent ++ List.intercalate (newLine indent) (members.map (writeMember indent))

/-- A collection below its mark, at an indentation; on the same line if there is no mark. -/
def belowAnchor (anchor : Option Nat) (indent : Nat) (body : List Char) : List Char :=
  match writeAnchor anchor with
  | ' ' :: mark => mark ++ newLine indent ++ body
  | _ => body

mutual

/-- A part on the line of the dash, or of the mark of its key, before it, which stands at an
indentation. A list with an anchor stands below it, indented by `listIndent`. -/
def writeInline (indent listIndent : Nat) : Outline → List Char
  | .leaf leaf => writeLeaf ⟨indent + 2, indent + 2, true⟩ leaf
  | .set anchor members => writeSet anchor (indent + 2) members
  | .list anchor [] => writeAnchorBefore anchor ++ "[]".toList
  | .list anchor items =>
    let inner := if anchor.isSome then listIndent else indent + 2
    belowAnchor anchor inner (writeItems inner items)
  | .mapping anchor [] => writeAnchorBefore anchor ++ "\x7b\x7d".toList
  | .mapping anchor entries => belowAnchor anchor (indent + 2) (writeEntries (indent + 2) entries)

/-- A part behind the colon of its key, which stands at an indentation; the line is already `column`
long. -/
def writeBelow (indent column : Nat) : Outline → List Char
  | .leaf leaf => ' ' :: writeLeaf ⟨indent + 2, column + 1, true⟩ leaf
  | .set anchor members => ' ' :: writeSet anchor (indent + 2) members
  | .list anchor [] => writeAnchor anchor ++ " []".toList
  | .list anchor items => writeAnchor anchor ++ newLine indent ++ writeItems indent items
  | .mapping anchor [] => writeAnchor anchor ++ " \x7b\x7d".toList
  | .mapping anchor entries =>
    writeAnchor anchor ++ newLine (indent + 2) ++ writeEntries (indent + 2) entries

def writeItems (indent : Nat) : List Outline → List Char
  | [] => []
  | [item] => '-' :: ' ' :: writeInline indent (indent + 2) item
  | item :: rest =>
    '-' :: ' ' :: writeInline indent (indent + 2) item ++ newLine indent ++ writeItems indent rest

def writeEntry (indent : Nat) : Leaf × Outline → List Char
  | (key, item) =>
    if isSimpleKey key then
      let shown := writeLeaf ⟨indent, indent, false⟩ key
      shown ++ ':' :: writeBelow indent (indent + shown.length + 1) item
    else writeLongKey indent key ++ writeInline indent indent item

def writeEntries (indent : Nat) : List (Leaf × Outline) → List Char
  | [] => []
  | [entry] => writeEntry indent entry
  | entry :: rest => writeEntry indent entry ++ newLine indent ++ writeEntries indent rest

end

def writeRoot : Outline → List Char
  | .list anchor [] => writeAnchorBefore anchor ++ "[]".toList
  | .list anchor items => belowAnchor anchor 0 (writeItems 0 items)
  | .mapping anchor [] => writeAnchorBefore anchor ++ "\x7b\x7d".toList
  | .mapping anchor entries => belowAnchor anchor 0 (writeEntries 0 entries)
  | outline => writeInline 0 0 outline

/-- A document in writing, if it can be written. -/
def write (document : Document) : Except Fault String :=
  document.outline.map fun outline => String.ofList (writeRoot outline ++ ['\n'])

end ModuleResolution.Yaml
