import ModuleResolution.Yaml.Cursor
import ModuleResolution.Yaml.Failure

/-! # Block scalars

A scalar whose lines stand below a bar or a greater-than sign. The lines are indented by as much as
the first of them that is not empty, or by what a digit in the header says. Behind a bar the line
ends are kept; behind a greater-than sign a single one between two lines that start with no blank
becomes a space. Of the line ends behind the last line the first one is kept, or none, or all.
-/

set_option autoImplicit false

namespace ModuleResolution.Yaml.Block

/-- How many of the line ends behind the last line are kept. -/
inductive Tail where
  | none
  | one
  | all
  deriving DecidableEq, Repr

structure Header where
  tail : Tail
  /-- By how much the lines are indented, if that is told. -/
  deeper : Option Nat
  deriving DecidableEq, Repr

def tail? : Char → Option Tail
  | '+' => some .all
  | '-' => some .none
  | _ => Option.none

/-- How much a digit from one to nine is. -/
def deeper? (c : Char) : Option Nat :=
  if '1' ≤ c ∧ c ≤ '9' then some (c.toNat - 48) else none

def header (cs : List Char) : Header × Nat :=
  let first := cs.headD ' '
  let second := (cs.drop 1).headD ' '
  match tail? first, deeper? first with
  | some tail, _ =>
    match deeper? second with
    | some n => (⟨tail, some n⟩, 2)
    | none => (⟨tail, none⟩, 1)
  | none, some n =>
    match tail? second with
    | some tail => (⟨tail, some n⟩, 2)
    | none => (⟨.one, some n⟩, 1)
  | none, none => (⟨.one, none⟩, 0)

/-- The line ends at a place and the spaces among them, with the greatest column that the spaces
reach. -/
def leadingBreaks : Nat → Cursor → List Char → Nat → List Char × Nat × Cursor
  | 0, cursor, breaks, deepest => (breaks.reverse, deepest, cursor)
  | steps + 1, cursor, breaks, deepest =>
    if cursor.rest.head? == some ' ' then
      leadingBreaks steps cursor.next breaks (max deepest cursor.next.column)
    else
      match cursor.lineEnd? with
      | some (c, after) => leadingBreaks steps after (c :: breaks) deepest
      | none => (breaks.reverse, deepest, cursor)

/-- The place behind the spaces at a place, which are skipped up to a column. -/
def indentTo (indent : Nat) (cursor : Cursor) : Cursor :=
  cursor.skip (min (cursor.span (· == ' ')).length (indent - cursor.column))

/-- The line ends at a place, before each of which spaces up to a column may stand. -/
def breaksAt (indent : Nat) : Nat → Cursor → List Char → List Char × Cursor
  | 0, cursor, breaks => (breaks.reverse, cursor)
  | steps + 1, cursor, breaks =>
    let cursor := indentTo indent cursor
    match cursor.lineEnd? with
    | some (c, after) => breaksAt indent steps after (c :: breaks)
    | none => (breaks.reverse, cursor)

/-- The next line starts with a blank. -/
def startsBlank (cursor : Cursor) : Bool :=
  cursor.rest.head? == some ' ' || cursor.rest.head? == some '\t'

/-- A line of the scalar starts at a place. -/
def hasLine (indent : Nat) (cursor : Cursor) : Bool :=
  cursor.column == indent && !cursor.rest.isEmpty

/-- What stands for the line ends between two lines. -/
def between (folded leadsBlank nextBlank : Bool) (first : List Char) (others : List Char) :
    List Char :=
  if folded && first == ['\n'] && !leadsBlank && !nextBlank then
    (if others.isEmpty then [' '] else others)
  else first ++ others

/-- The lines from a place on, at which one starts; `before` is what stands before them. -/
def linesFrom (folded : Bool) (tail : Tail) (indent : Nat) :
    Nat → List Char → Cursor → List Char × Cursor
  | 0, before, cursor => (before, cursor)
  | steps + 1, before, cursor =>
    let line := cursor.span fun c => !isBreak c
    let after := cursor.skip line.length
    let (first, after) : List Char × Cursor := match after.lineEnd? with
      | some (c, after) => ([c], after)
      | none => ([], after)
    let (others, next) := breaksAt indent (after.rest.length + 1) after []
    let text := before ++ line
    if hasLine indent next then
      linesFrom folded tail indent steps
        (text ++ between folded (startsBlank cursor) (startsBlank next) first others) next
    else
      let kept := match tail with
        | .none => []
        | .one => first
        | .all => first ++ others
      (text ++ kept, next)

/-- The block scalar at a place, inside collections that are indented by `outer`. -/
def scan (folded : Bool) (outer : Int) (cursor : Cursor) : Scanning (List Char × Cursor) := do
  let (header, length) := header (cursor.skip 1).rest
  let afterHeader := cursor.skip (length + 1)
  let ends := match afterHeader.rest with
    | [] => true
    | c :: _ => c == ' ' || isBreak c
  if !ends then afterHeader.refuse
  else
    let start ← afterHeader.endLine
    let least := (max (outer + 1) 1).toNat
    let (indent, breaks, start) := match header.deeper with
      | some deeper =>
        let indent := least + deeper - 1
        (indent, breaksAt indent (start.rest.length + 1) start [])
      | none =>
        let (breaks, deepest, start) := leadingBreaks (start.rest.length + 1) start [] 0
        (max least deepest, breaks, start)
    if hasLine indent start then
      return linesFrom folded header.tail indent (start.rest.length + 1) breaks start
    else return (if header.tail = .all then breaks else [], start)

end ModuleResolution.Yaml.Block
