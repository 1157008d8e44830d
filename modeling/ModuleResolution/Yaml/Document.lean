import ModuleResolution.Value.Basic

/-! # Documents

A document is a collection of parts, each with a number by which the lists and mappings name the
parts in them. So a part can stand in several places, or inside of itself, and who changes a part
changes it wherever it stands (`put`). The keys of a mapping and the members of a set are parts too,
which are scalars.

The value of a part (`valueAt`) does not show what is shared; a part that stands inside of itself is
left out there.
-/

set_option autoImplicit false

namespace ModuleResolution.Yaml

/-- What a part of a document is; the parts in it are given by their numbers. -/
inductive Part where
  | scalar (value : Scalar)
  | list (items : List Nat)
  | set (members : List Nat)
  | mapping (entries : List (Nat × Nat))
  deriving DecidableEq, Repr

/-- The parts of a document by number, and the number of the one that holds all others. -/
structure Document where
  parts : Array Part
  root : Nat
  deriving DecidableEq, Repr

namespace Document

def part (document : Document) (number : Nat) : Part :=
  document.parts.getD number (.scalar .null)

/-- The part that holds all others. -/
def content (document : Document) : Part := document.part document.root

def scalarAt (document : Document) (number : Nat) : Scalar :=
  match document.part number with
  | .scalar s => s
  | _ => .null

def ofPart (part : Part) : Document := ⟨#[part], 0⟩

/-- Adds a part, which gets the next number. -/
def add (document : Document) (part : Part) : Nat × Document :=
  (document.parts.size, { document with parts := document.parts.push part })

def put (document : Document) (number : Nat) (part : Part) : Document :=
  { document with parts := document.parts.setIfInBounds number part }

def field? (document : Document) (entries : List (Nat × Nat)) (name : String) : Option Nat :=
  (entries.find? fun entry => (document.scalarAt entry.1).asKey == (Scalar.text name).asKey).map
    (·.2)

/-- Sets what belongs to a text key of a mapping, in place when the key is there and at the end
otherwise. -/
def putField (document : Document) (mapping : Nat) (entries : List (Nat × Nat)) (name : String)
    (number : Nat) : Document :=
  let isKey (key : Nat) : Bool := (document.scalarAt key).asKey == (Scalar.text name).asKey
  if entries.any fun entry => isKey entry.1 then
    document.put mapping (.mapping (entries.map fun entry =>
      if isKey entry.1 then (entry.1, number) else entry))
  else
    let (key, document) := document.add (.scalar (.text name))
    document.put mapping (.mapping (entries ++ [(key, number)]))

/-- The number of what belongs to a text key of a mapping; if there is nothing, a part is put
there. -/
def fieldOr (document : Document) (mapping : Nat) (entries : List (Nat × Nat)) (name : String)
    (part : Part) : Nat × Document :=
  match document.field? entries name with
  | some number => (number, document)
  | none =>
    let (number, document) := document.add part
    (number, document.putField mapping entries name number)

/-! ## Values -/

/-- The values of the parts that are known so far. -/
abbrev Valuing := StateM (Array (Option Value))

/-- The value of a part inside of which there are at most so many parts inside of each other. -/
def valueIn (document : Document) : Nat → Nat → Valuing Value
  | 0, _ => return .null
  | depth + 1, number => do
    match ((← get)[number]?).join with
    | some value => return value
    | none =>
      modify fun known => known.setIfInBounds number (some .null)
      let value ← match document.part number with
        | .scalar s => pure (.scalar s)
        | .list items => .list <$> items.mapM (valueIn document depth)
        | .set members => pure (.set (members.map document.scalarAt))
        | .mapping entries =>
          .mapping <$> entries.mapM fun (key, number) => do
            return (document.scalarAt key, ← valueIn document depth number)
      modify fun known => known.setIfInBounds number (some value)
      return value

def valueAt (document : Document) (number : Nat) : Value :=
  let size := document.parts.size
  ((document.valueIn (size + 1) number).run (Array.replicate size none)).1

def value (document : Document) : Value := document.valueAt document.root

mutual

/-- Adds the parts that make up a value. -/
def addValue (document : Document) : Value → Nat × Document
  | .scalar s => document.add (.scalar s)
  | .list items =>
    let (items, document) := addValues document items
    document.add (.list items)
  | .set members =>
    let (members, document) := members.foldl (fun (numbers, document) member =>
      let (number, document) := document.add (.scalar member)
      (numbers ++ [number], document)) ([], document)
    document.add (.set members)
  | .mapping entries =>
    let (entries, document) := addEntries document entries
    document.add (.mapping entries)

def addValues (document : Document) : List Value → List Nat × Document
  | [] => ([], document)
  | item :: rest =>
    let (item, document) := addValue document item
    let (rest, document) := addValues document rest
    (item :: rest, document)

def addEntries (document : Document) : List (Scalar × Value) → List (Nat × Nat) × Document
  | [] => ([], document)
  | (key, item) :: rest =>
    let (key, document) := document.add (.scalar key)
    let (item, document) := addValue document item
    let (rest, document) := addEntries document rest
    ((key, item) :: rest, document)

end

end Document

end ModuleResolution.Yaml
