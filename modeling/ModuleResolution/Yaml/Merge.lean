import ModuleResolution.Yaml.Node

/-! # Merge keys

A merge key takes the entries of the mapping or the mappings that are its value into its mapping.
They stand in front of the entries of the mapping itself, those of the first mapping of a list
last, so that of two entries with the same key the one of the more specific mapping comes later.
What is merged is itself without merge keys by then, and a mapping takes in what it has left of
its own entries if it stands inside of itself. A default key of such a mapping counts as a text.
-/

set_option autoImplicit false

namespace ModuleResolution.Yaml

/-- A step that changes the nodes of a document. -/
abbrev Merging := StateT (Array Node) Reading

namespace Merging

def nodeAt (nodes : Array Node) (number : Nat) : Node :=
  nodes.getD number ⟨.null, .scalar []⟩

/-- The entries of a node, which has to be a mapping. -/
def entriesAt (number : Nat) : Merging (List (Nat × Nat)) := do
  match (nodeAt (← get) number).content with
  | .mapping entries => return entries
  | _ => throw .malformed

def putEntries (number : Nat) (entries : List (Nat × Nat)) : Merging Unit :=
  modify fun nodes => nodes.modify number fun node => { node with content := .mapping entries }

/-- The default keys of some entries count as texts. -/
def settle (entries : List (Nat × Nat)) : Merging Unit :=
  entries.forM fun (key, _) => modify fun nodes => nodes.modify key fun node =>
    if node.tag = .default then { node with tag := .text } else node

/-- Takes the merge keys out of a mapping, in at most so many steps, and what they offer into it. -/
def flatten : Nat → Nat → Merging Unit
  | 0, _ => throw .malformed
  | steps + 1, number => do
    let nodes ← get
    let entries ← entriesAt number
    let isMerge (entry : Nat × Nat) : Bool := (nodeAt nodes entry.1).tag == .merge
    match entries.dropWhile fun entry => !isMerge entry with
    | [] => settle entries
    | (_, value) :: behind =>
      putEntries number (entries.takeWhile (fun entry => !isMerge entry) ++ behind)
      let offered ← match (nodeAt nodes value).content with
        | .mapping _ => do
          flatten steps value
          entriesAt value
        | .list items => do
          let offers ← items.mapM fun item => do
            flatten steps item
            entriesAt item
          pure offers.reverse.flatten
        | .scalar _ => throw .malformed
      flatten steps number
      putEntries number (offered ++ (← entriesAt number))

end Merging

/-- The number of steps in which the merge keys of some nodes can be taken out: each step but the
last one of a mapping takes out one of them. -/
def mergeSteps (nodes : Array Node) : Nat :=
  nodes.foldl (fun steps node =>
    match node.content with
    | .mapping entries => steps + entries.length + 1
    | _ => steps) 1

end ModuleResolution.Yaml
