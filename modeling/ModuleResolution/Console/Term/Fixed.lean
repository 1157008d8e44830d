import ModuleResolution.Console.Term.Tree

/-! # Fixed values

A term stands for a fixed value if it holds nothing but constants, numbers and texts, in rows, sets
and mappings. The items of a set and the keys of a mapping can hold no sets and mappings themselves.
-/

set_option autoImplicit false

namespace ModuleResolution.Console.Term.Fixed

inductive Fault where
  | notFixed
  /-- A mapping is taken into another one. -/
  | noKey
  | mappingInside
  | setInside
  deriving DecidableEq, Repr

def Fault.message : Fault → String
  | .notFixed => "malformed node or string"
  | .noKey => "malformed node or string: None"
  | .mappingInside => "unhashable type: 'dict'"
  | .setInside => "unhashable type: 'set'"

inductive Kind where
  | plain
  | row (items : List Kind)
  | set
  | mapping

/-- Why a value cannot be an item of a set or a key of a mapping. -/
def Kind.check : Kind → Except Fault Unit
  | .plain => .ok ()
  | .row items => go items
  | .set => .error .setInside
  | .mapping => .error .mappingInside
where
  /-- Why a row of values cannot be such an item. -/
  go : List Kind → Except Fault Unit
    | [] => .ok ()
    | item :: rest => do
      item.check
      go rest

/-- A number with at most one sign, which is imaginary or not. -/
def signed? : Tree → Option Bool
  | .number isImaginary => some isImaginary
  | .signed mark (.number isImaginary) => if mark = '~' then none else some isImaginary
  | _ => none

mutual

def kind : Tree → Except Fault Kind
  | .constant _ | .ellipsis | .text | .octets => .ok .plain
  | .row items => .row <$> kinds items
  | .set items => do
    checkItems items
    return .set
  | .mapping entries => do
    checkEntries entries
    return .mapping
  | .call (.name word) (.arguments [] []) =>
    if word = "set".toList then .ok .set else .error .notFixed
  | .binary mark left (.number true) =>
    if (mark = ['+'] || mark = ['-']) && signed? left = some false then .ok .plain
    else .error .notFixed
  | tree => if (signed? tree).isSome then .ok .plain else .error .notFixed

def kinds : List Tree → Except Fault (List Kind)
  | [] => .ok []
  | tree :: rest => do return (← kind tree) :: (← kinds rest)

def checkItems : List Tree → Except Fault Unit
  | [] => .ok ()
  | tree :: rest => do
    (← kind tree).check
    checkItems rest

def checkEntries : List (Option Tree × Tree) → Except Fault Unit
  | [] => .ok ()
  | (none, _) :: _ => .error .noKey
  | (some key, value) :: rest => do
    let key ← kind key
    discard (kind value)
    key.check
    checkEntries rest

end

def check (tree : Tree) : Except Fault Unit := discard (kind tree)

end ModuleResolution.Console.Term.Fixed
