import ModuleResolution.Yaml.Plain
import ModuleResolution.Yaml.Token

/-! # Nodes of a YAML document

The tokens of a text make up at most one document, and a document is a graph of nodes: a node is a
scalar, a list or a mapping, with a tag that is written or follows from its kind, for a plain scalar
from its text. What is left out, such as the value of a key, is an empty plain scalar. A node has a
number, by which the lists and mappings that hold it name it. An alias is the number of the node
that was given its name before, which may be a node around the alias. A name is given once.

A dash may start an item of a list that is the value of a key and is indented no more than the
key; such a list has no tokens of its own for its start and its end.
-/

set_option autoImplicit false

namespace ModuleResolution.Yaml

/-- What a node holds; the nodes in it are given by their numbers. -/
inductive Content where
  | scalar (text : List Char)
  | list (items : List Nat)
  | mapping (entries : List (Nat × Nat))
  deriving DecidableEq, Repr

structure Node where
  tag : Tag
  content : Content
  deriving DecidableEq, Repr

/-- The nodes of a document by number, and the number of the one that holds all others. -/
structure Graph where
  nodes : Array Node
  root : Nat

/-- The greatest number of collections inside of each other. This is what a thousand nested calls
leave room for if composing takes two of them for each collection and twenty-six are around it or
read its tokens. -/
def depthLimit : Nat := 487

/-- The state of composing nodes from tokens. -/
structure Composer where
  scanner : Scanner
  /-- The nodes so far. -/
  nodes : Array Node := #[]
  /-- The numbers of the nodes that have a name. -/
  names : List (List Char × Nat) := []
  /-- What handles of tags stand for. -/
  handles : List (List Char × List Char) := Tag.handles
  /-- The number of collections around the next node. -/
  depth : Nat := 0

abbrev Composing := StateT Composer Reading

namespace Composing

/-- The tokens make up no document. -/
def refuse {α : Type} : Composing α := throw .malformed

def peek : Composing (Option Token) := do
  let composer ← get
  let scanner ← composer.scanner.ready
  set { composer with scanner }
  return scanner.tokens.head?

/-- The next token is one of these, or there is none. -/
def atAnyOf (expected : List Token) : Composing Bool := do
  match ← peek with
  | some token => return expected.contains token
  | none => return true

def skip : Composing Unit := modify fun composer =>
  { composer with scanner := composer.scanner.take }

def take? (expected : Token) : Composing Bool := do
  if (← peek) = some expected then
    skip
    return true
  else return false

def take (expected : Token) : Composing Unit := do
  if !(← take? expected) then refuse

def named (name : List Char) : Composing Nat := do
  match (← get).names.lookup name with
  | some number => return number
  | none => refuse

/-- The number of a new node. -/
def add (tag : Tag) (content : Content) : Composing Nat := do
  let composer ← get
  set { composer with nodes := composer.nodes.push ⟨tag, content⟩ }
  return composer.nodes.size

/-- The number of a new node that may have a name, which no other node has. -/
def addNamed (name : Option (List Char)) (tag : Tag) (content : Content) : Composing Nat := do
  match name with
  | none => add tag content
  | some name =>
    if ((← get).names.lookup name).isSome then refuse
    else
      let number ← add tag content
      modify fun composer => { composer with names := (name, number) :: composer.names }
      return number

def complete (number : Nat) (content : Content) : Composing Nat := do
  modify fun composer =>
    { composer with nodes := composer.nodes.modify number fun node => { node with content } }
  return number

/-- A step inside of a further collection. -/
def nested {α : Type} (step : Composing α) : Composing α := do
  if depthLimit ≤ (← get).depth then throw (.valueless .tooDeep)
  else
    modify fun composer => { composer with depth := composer.depth + 1 }
    let result ← step
    modify fun composer => { composer with depth := composer.depth - 1 }
    return result

/-- What is written before a node: its name and its tag, in any order. -/
structure Properties where
  name : Option (List Char) := none
  tag : Option TagText := none

def properties : Composing Properties := do
  match ← peek with
  | some (.anchor name) =>
    skip
    match ← peek with
    | some (.tag tag) =>
      skip
      return { name, tag }
    | _ => return { name }
  | some (.tag tag) =>
    skip
    match ← peek with
    | some (.anchor name) =>
      skip
      return { name, tag }
    | _ => return { tag }
  | _ => return {}

/-- A tag that is read: a kind, or the mark of a node of none in particular. -/
inductive Mark where
  | kind (tag : Tag)
  | open
  deriving DecidableEq, Repr

def markOf (tag : TagText) : Composing Mark := do
  let start ← match tag.handle with
    | none => pure []
    | some handle =>
      match (← get).handles.lookup handle with
      | some start => pure start
      | none => refuse
  let name := start ++ tag.rest
  return if name = ['!'] then .open else .kind (.ofName name)

def collectionTag (mark : Option Mark) (unmarked : Tag) : Tag :=
  match mark with
  | some (.kind tag) => tag
  | _ => unmarked

/-- The tag of a scalar. Between quotes it is a text, unless it is marked. -/
def scalarTag (mark : Option Mark) (text : List Char) (plain : Bool) : Tag :=
  match mark with
  | some (.kind tag) => tag
  | some .open => Plain.looks text
  | none => if plain then Plain.tag (String.ofList text) else .text

/-- What stands where nothing is written. -/
def blank : Composing Nat := add .null (.scalar [])

inductive Position where
  /-- In a flow collection. -/
  | flow
  /-- In a block list, or as the document. -/
  | block
  /-- In a block mapping, where a list needs no further indentation. -/
  | entry
  deriving DecidableEq, Repr

mutual

def node (position : Position) : Nat → Composing Nat
  | 0 => refuse
  | fuel + 1 => do
    match ← peek with
    | some (.mention name) =>
      skip
      named name
    | _ =>
      let properties ← properties
      let mark ← properties.tag.mapM markOf
      content position properties.name mark fuel

/-- The node at the next token whose name and tag are read already; only a node with one of them may
be left out. -/
def content (position : Position) (name : Option (List Char)) (mark : Option Mark) :
    Nat → Composing Nat
  | 0 => refuse
  | fuel + 1 => do
    match ← peek, position with
    | some .blockEntry, .entry =>
      let number ← addNamed name (collectionTag mark .list) (.list [])
      complete number (.list (← nested (openItems fuel)))
    | some (.scalar text plain), _ =>
      skip
      addNamed name (scalarTag mark text plain) (.scalar text)
    | some .flowSequenceStart, _ =>
      let number ← addNamed name (collectionTag mark .list) (.list [])
      skip
      complete number (.list (← nested (flowItems true fuel)))
    | some .flowMappingStart, _ =>
      let number ← addNamed name (collectionTag mark .mapping) (.mapping [])
      skip
      complete number (.mapping (← nested (flowEntries true fuel)))
    | some .blockSequenceStart, .block | some .blockSequenceStart, .entry =>
      let number ← addNamed name (collectionTag mark .list) (.list [])
      skip
      complete number (.list (← nested (blockItems fuel)))
    | some .blockMappingStart, .block | some .blockMappingStart, .entry =>
      let number ← addNamed name (collectionTag mark .mapping) (.mapping [])
      skip
      complete number (.mapping (← nested (blockEntries fuel)))
    | _, _ =>
      if name.isSome || mark.isSome then addNamed name (scalarTag mark [] true) (.scalar [])
      else refuse

/-- The node at the next token, or nothing before one of these tokens. -/
def nodeBefore (position : Position) (ends : List Token) : Nat → Composing Nat
  | 0 => refuse
  | fuel + 1 => do if ← atAnyOf ends then blank else node position fuel

def blockItems : Nat → Composing (List Nat)
  | 0 => refuse
  | fuel + 1 => do
    if ← take? .blockEntry then
      let item ← nodeBefore .block [.blockEntry, .blockEnd] fuel
      return item :: (← blockItems fuel)
    else
      take .blockEnd
      return []

/-- The items of a list that is indented like the key before it. -/
def openItems : Nat → Composing (List Nat)
  | 0 => refuse
  | fuel + 1 => do
    if ← take? .blockEntry then
      let item ← nodeBefore .block [.blockEntry, .key, .value, .blockEnd] fuel
      return item :: (← openItems fuel)
    else return []

def blockEntries : Nat → Composing (List (Nat × Nat))
  | 0 => refuse
  | fuel + 1 => do
    if ← take? .key then
      let ends := [.key, .value, .blockEnd]
      let key ← nodeBefore .entry ends fuel
      let value ← if ← take? .value then nodeBefore .entry ends fuel else blank
      return (key, value) :: (← blockEntries fuel)
    else
      take .blockEnd
      return []

def flowEntry (close : Token) : Nat → Composing (Nat × Nat)
  | 0 => refuse
  | fuel + 1 => do
    let key ← nodeBefore .flow [.value, .flowEntry, close] fuel
    let value ←
      if ← take? .value then nodeBefore .flow [.flowEntry, close] fuel else blank
    return (key, value)

/-- The items of a flow list; an entry among them is a mapping of its own. -/
def flowItems (first : Bool) : Nat → Composing (List Nat)
  | 0 => refuse
  | fuel + 1 => do
    if ← take? .flowSequenceEnd then return []
    else
      if !first then take .flowEntry
      if ← take? .flowSequenceEnd then return []
      else
        let item ←
          if ← take? .key then
            let entry ← nested (flowEntry .flowSequenceEnd fuel)
            add .mapping (.mapping [entry])
          else node .flow fuel
        return item :: (← flowItems false fuel)

/-- The entries of a flow mapping; a key may stand alone. -/
def flowEntries (first : Bool) : Nat → Composing (List (Nat × Nat))
  | 0 => refuse
  | fuel + 1 => do
    if ← take? .flowMappingEnd then return []
    else
      if !first then take .flowEntry
      if ← take? .flowMappingEnd then return []
      else
        let entry ←
          if ← take? .key then flowEntry .flowMappingEnd fuel
          else
            let key ← node .flow fuel
            pure (key, ← blank)
        return entry :: (← flowEntries false fuel)

end

/-- Takes what a line says about the document into account; a version is told once, and what a
handle stands for is told once. -/
def obey (seen : List Directive) : Directive → Composing Unit
  | .version major =>
    if major = 1 && !seen.any Directive.isVersion then pure () else refuse
  | .tagHandle handle start =>
    if seen.any fun directive => directive.handle? == some handle then refuse
    else modify fun composer =>
      { composer with handles := (handle, start) :: composer.handles }
  | .other => pure ()

/-- Moves over the lines that say something about the document, and tells whether there are any. -/
def directives : Nat → List Directive → Composing Bool
  | 0, _ => refuse
  | fuel + 1, seen => do
    match ← peek with
    | some (.directive directive) =>
      skip
      obey seen directive
      directives fuel (directive :: seen)
    | _ => return !seen.isEmpty

/-- Moves over the marks of the end of the document. -/
def documentEnds : Nat → Composing Unit
  | 0 => refuse
  | fuel + 1 => do if ← take? .documentEnd then documentEnds fuel

/-- The root of the document, which may be left out behind the mark of its start. -/
def root (fuel : Nat) : Composing Nat := do
  let announced ← directives fuel []
  let marked ← take? .documentStart
  if announced && !marked then refuse
  else if marked then
    match ← peek with
    | some (.directive _) => blank
    | _ => nodeBefore .block [.documentStart, .documentEnd] fuel
  else node .block fuel

/-- The document that the tokens make up; no tokens make up none. Behind it there may be nothing but
marks of its end, and what announces another document is read before that is refused. -/
def document (fuel : Nat) : Composing (Option Nat) := do
  if (← peek).isNone then return none
  else
    let root ← root fuel
    documentEnds fuel
    if (← peek).isNone then return some root
    else
      let _ ← directives fuel []
      let _ ← peek
      refuse

end Composing

def Graph.ofSource (source : Source) : Reading (Option Graph) := do
  let fuel := 16 * source.text.length + 64
  let (root, composer) ← (Composing.document fuel).run { scanner := .ofSource source }
  return root.map fun root => ⟨composer.nodes, root⟩

end ModuleResolution.Yaml
