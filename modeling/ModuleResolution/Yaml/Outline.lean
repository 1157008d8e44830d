import ModuleResolution.Number.Limit
import ModuleResolution.Yaml.Document
import ModuleResolution.Yaml.KeyOrder
import ModuleResolution.Yaml.Literal

/-! # Outlines of documents

What is written of a document, in the order in which it is written: the keys of each mapping in
order, and a part that stands in several places only where it stands first, behind an anchor with a
number; in the other places an alias stands for it. The numbers follow the places in which the parts
stand a second time, and parts that stand in one place have none. All this goes for lists, sets,
mappings and moments; other scalars are written wherever they stand.

There is no outline of a document that cannot be written: with a number that is too long, or with
too many collections inside of each other.
-/

set_option autoImplicit false

namespace ModuleResolution.Yaml

/-- What is written of a scalar. -/
inductive Leaf where
  | scalar (anchor : Option Nat) (value : Scalar)
  | mention (number : Nat)
  deriving DecidableEq, Repr

/-- What is written of a part. -/
inductive Outline where
  | leaf (leaf : Leaf)
  | list (anchor : Option Nat) (items : List Outline)
  | set (anchor : Option Nat) (members : List Leaf)
  | mapping (anchor : Option Nat) (entries : List (Leaf × Outline))
  deriving Repr

/-- The greatest number of parts inside of each other that are written. This is what a thousand
nested calls leave room for if a part takes three of them and nineteen are around all parts. -/
def writtenDepth : Nat := 327

/-- The members of a set or the entries of a mapping, given by what their keys are, as they are
written. -/
def Document.sortedBy {α : Type} (document : Document) (key : α → Nat) (row : List α) : List α :=
  Yaml.sortedBy (fun x => document.scalarAt (key x)) row

/-! ## Anchors -/

/-- The parts that are met on the way through a document, by their numbers. -/
structure Meetings where
  met : Array Bool
  /-- The anchors of the parts that were met again. -/
  anchors : Array (Option Nat)
  /-- How many anchors there are. -/
  count : Nat := 0

/-- A step on the way through a document. -/
abbrev Meeting := StateT Meetings (Except Fault)

/-- Meets a part, and tells whether it is met for the first time. -/
def Meeting.meet (number : Nat) : Meeting Bool := do
  let meetings ← get
  if (meetings.met.getD number false) = false then
    set { meetings with met := meetings.met.setIfInBounds number true }
    return true
  else
    if (meetings.anchors.getD number none).isNone then
      let count := meetings.count + 1
      set { meetings with count, anchors := meetings.anchors.setIfInBounds number (some count) }
    return false

namespace Document

/-- Meets the parts inside of a part with at most so many parts inside of each other. -/
def meetIn (document : Document) : Nat → Nat → Meeting Unit
  | 0, _ => throw .tooDeep
  | depth + 1, number =>
    match document.part number with
    | .scalar (.integer n) => if isLongNumber n then throw (.longInteger .written) else return
    | .scalar (.moment _) => discard (Meeting.meet number)
    | .scalar _ => return
    | .list items => do
      if ← Meeting.meet number then items.forM (meetIn document depth)
    | .set members => do
      if ← Meeting.meet number then
        (document.sortedBy id members).forM (meetIn document depth)
    | .mapping entries => do
      if ← Meeting.meet number then
        (document.sortedBy Prod.fst entries).forM fun (key, item) => do
          meetIn document depth key
          meetIn document depth item

def anchors (document : Document) : Except Fault (Array (Option Nat)) := do
  let size := document.parts.size
  let start : Meetings := ⟨Array.replicate size false, Array.replicate size none, 0⟩
  let (_, meetings) ← (document.meetIn writtenDepth document.root).run start
  return meetings.anchors

/-! ## Outlines -/

/-- A step of writing the parts of a document; the numbers of parts that are written are marked. -/
abbrev Outlining := StateM (Array Bool)

/-- What is written of a part: an alias if the part is written before. -/
def once {α : Type} (anchors : Array (Option Nat)) (number : Nat) (mention : Nat → α)
    (whole : Option Nat → Outlining α) : Outlining α := do
  let anchor := anchors.getD number none
  if (← get).getD number false then return mention (anchor.getD 0)
  else
    modify fun written => written.setIfInBounds number true
    whole anchor

def leafAt (document : Document) (anchors : Array (Option Nat)) (number : Nat) : Outlining Leaf :=
  match document.scalarAt number with
  | .moment moment =>
    once anchors number .mention fun anchor => return .scalar anchor (.moment moment)
  | s => return .scalar none s

/-- What is written of a part with at most so many parts inside of each other. -/
def outlineIn (document : Document) (anchors : Array (Option Nat)) :
    Nat → Nat → Outlining Outline
  | 0, _ => return .leaf (.scalar none .null)
  | depth + 1, number =>
    let mention (number : Nat) : Outline := .leaf (.mention number)
    match document.part number with
    | .scalar _ => return .leaf (← document.leafAt anchors number)
    | .list items => once anchors number mention fun anchor =>
      return .list anchor (← items.mapM (outlineIn document anchors depth))
    | .set members => once anchors number mention fun anchor =>
      return .set anchor (← (document.sortedBy id members).mapM (document.leafAt anchors))
    | .mapping entries => once anchors number mention fun anchor =>
      return .mapping anchor (← (document.sortedBy Prod.fst entries).mapM fun (key, item) => do
        return (← document.leafAt anchors key, ← outlineIn document anchors depth item))

def outline (document : Document) : Except Fault Outline := do
  let anchors ← document.anchors
  let written := Array.replicate document.parts.size false
  return ((document.outlineIn anchors writtenDepth document.root).run written).1

end Document

end ModuleResolution.Yaml
