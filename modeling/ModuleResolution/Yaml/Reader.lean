import ModuleResolution.Text.Base64
import ModuleResolution.Yaml.Document
import ModuleResolution.Yaml.Merge

/-! # Reading YAML

The document of a source: the tokens of its text, the graph of nodes that they make up, and the
document of the graph, in which each node is the part of its number. A scalar is read as soon as a
part that holds it is; a collection is filled later, when all collections that were met before it
are, so that of several faults the one that lies less deep shows.

Of two entries with the same key the first key and the last value count. A key has to be a scalar. A
mapping with a default key may stand for the scalar that belongs to this key. A list of pairs is a
list of lists, each of a key and what belongs to it.
-/

set_option autoImplicit false

namespace ModuleResolution.Yaml

/-- The state of building the parts of a document from nodes. -/
structure Building where
  nodes : Array Node
  /-- The parts of the nodes that are built, and behind them the pairs. -/
  parts : Array (Option Part)
  /-- The collections that are to be filled, the last one first. -/
  waiting : List Nat := []

namespace Building

def nodeAt (building : Building) (number : Nat) : Node := Merging.nodeAt building.nodes number

def scalar? (building : Building) (number : Nat) : Option Scalar :=
  match building.parts[number]?.join with
  | some (.scalar s) => some s
  | _ => none

/-- The text of a node that is read as a scalar, with at most so many default keys on the way. -/
def textIn (building : Building) : Nat → Nat → Reading (List Char)
  | 0, _ => .error (.valueless .tooDeep)
  | steps + 1, number =>
    match (building.nodeAt number).content with
    | .scalar text => .ok text
    | .mapping entries =>
      match entries.find? fun entry => (building.nodeAt entry.1).tag == .default with
      | some (_, value) => building.textIn steps value
      | none => .error .malformed
    | .list _ => .error .malformed

/-- The text of a node that is read as a scalar. -/
def textAt (building : Building) (number : Nat) : Reading (List Char) :=
  building.textIn (building.nodes.size + 1) number

def scalarOf (tag : Tag) (text : List Char) : Reading Scalar :=
  match tag with
  | .octets =>
    match Base64.decode? text with
    | some octets => .ok (.octets octets)
    | none => .error .malformed
  | tag =>
    match Literal.read? text tag with
    | some result => result.mapError .valueless
    | none => .error .malformed

/-- The scalar that a node stands for. A moment has to be written itself. -/
def scalarAt (building : Building) (number : Nat) : Reading Scalar := do
  let node := building.nodeAt number
  if [.unknown, .merge, .default].contains node.tag then .error .malformed
  else
    let text ← building.textAt number
    match node.tag, node.content with
    | .moment, .mapping _ => .error (.valueless .noMomentText)
    | tag, _ => scalarOf tag text

/-- A number that is undefined is written by its name. -/
def isNamed (building : Building) (number : Nat) : Bool :=
  match building.textAt number with
  | .ok text => Literal.namesUndefined text
  | .error _ => false

/-- Two keys are the same. What is undefined is only the same if it is the same node or written by
its name. -/
def isSameKey (building : Building) (a b : Nat) : Bool :=
  a == b ||
    match building.scalar? a, building.scalar? b with
    | some (.real .undefined), some (.real .undefined) => building.isNamed a && building.isNamed b
    | some s, some t => s.asKey == t.asKey
    | _, _ => false

/-- Sets the value of a key, in place when the key is there and at the end otherwise. -/
def putEntry (building : Building) (entry : Nat × Nat) : List (Nat × Nat) → List (Nat × Nat)
  | [] => [entry]
  | (key, value) :: rest =>
    if building.isSameKey key entry.1 then (key, entry.2) :: rest
    else (key, value) :: building.putEntry entry rest

end Building

abbrev Constructing := StateT Building Reading

namespace Constructing

def place (number : Nat) (part : Part) : Constructing Unit :=
  modify fun building => { building with parts := building.parts.setIfInBounds number (some part) }

/-- Puts an empty collection into its place, which is filled later. -/
def start (number : Nat) (part : Part) : Constructing Unit := do
  place number part
  modify fun building => { building with waiting := number :: building.waiting }

def build (number : Nat) : Constructing Unit := do
  let building ← get
  if (building.parts[number]?).join.isSome then return
  else
    match (building.nodeAt number).tag with
    | .list | .pairs => start number (.list [])
    | .set => start number (.set [])
    | .mapping => start number (.mapping [])
    | _ => place number (.scalar (← building.scalarAt number))

/-- The number of a pair that a node is: a mapping with one entry. -/
def pair (number : Nat) : Constructing Nat := do
  match ((← get).nodeAt number).content with
  | .mapping [(key, value)] =>
    build key
    build value
    let building ← get
    set { building with parts := building.parts.push (some (.list [key, value])) }
    return building.parts.size
  | _ => throw .malformed

/-- Takes the merge keys out of a mapping. -/
def flatten (number : Nat) : Constructing Unit := do
  let building ← get
  let (_, nodes) ← (Merging.flatten (mergeSteps building.nodes) number).run building.nodes
  set { building with nodes }

/-- Builds a key, which has to be a scalar. -/
def buildKey (number : Nat) : Constructing Unit := do
  build number
  if ((← get).scalar? number).isNone then throw .malformed

def entries (number : Nat) : Constructing (List (Nat × Nat)) := do
  flatten number
  let written ← match ((← get).nodeAt number).content with
    | .mapping entries => pure entries
    | _ => throw .malformed
  written.foldlM (fun entries (key, value) => do
    buildKey key
    build value
    return (← get).putEntry (key, value) entries) []

def fill (number : Nat) : Constructing Unit := do
  let node := (← get).nodeAt number
  match node.tag, node.content with
  | .list, .list items =>
    items.forM build
    place number (.list items)
  | .pairs, .list items => place number (.list (← items.mapM pair))
  | .mapping, .mapping _ => place number (.mapping (← entries number))
  | .set, .mapping _ => place number (.set ((← entries number).map (·.1)))
  | _, _ => throw .malformed

/-- Fills the collections that wait, and then those that were met by that, in at most so many
rounds. -/
def fillAll : Nat → Constructing Unit
  | 0 => return
  | rounds + 1 => do
    let building ← get
    if !building.waiting.isEmpty then
      set { building with waiting := [] }
      building.waiting.reverse.forM fill
      fillAll rounds

end Constructing

def Document.ofGraph (graph : Graph) : Reading Document := do
  let size := graph.nodes.size
  let construct : Constructing Unit := do
    Constructing.build graph.root
    Constructing.fillAll size
  let (_, building) ← construct.run { nodes := graph.nodes, parts := Array.replicate size none }
  return ⟨building.parts.map fun part? => part?.getD (.scalar .null), graph.root⟩

/-- The document of a source; a source without one has the value of nothing. -/
def parse (source : Source) : Reading Document := do
  match ← Graph.ofSource source with
  | some graph => Document.ofGraph graph
  | none => return .ofPart (.scalar .null)

end ModuleResolution.Yaml
