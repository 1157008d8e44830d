import ModuleResolution.Number.Shortest
import ModuleResolution.Text.Base64
import ModuleResolution.Text.Hex
import ModuleResolution.Value.Basic
import ModuleResolution.Yaml.Cursor
import ModuleResolution.Yaml.Plain

/-! # Written scalars

A text is written plain where that reads back as the same text; else between single quotes, where
a quote is doubled; else between double quotes, where escapes are. Only the last can hold a
character beyond printable ASCII, or a line end next to a space.

A line is broken at a space once it is longer than `width`; the next line starts at an
indentation. Between double quotes a line may also end next to an escape, and a backslash stands
at the end of each broken line, and before a space that starts the next one.
-/

set_option autoImplicit false

namespace ModuleResolution.Yaml

/-- The length from which on a line is broken. -/
def width : Nat := 80

inductive Style where
  | plain
  | single
  | double
  deriving DecidableEq, Repr

/-- Where a scalar is written. -/
structure Slot where
  /-- The indentation of the lines after the first one. -/
  indent : Nat
  /-- The length of the line in front of the scalar. -/
  column : Nat
  /-- The scalar may go over several lines. -/
  folds : Bool

/-- A line end and the indentation behind it. -/
def newLine (indent : Nat) : List Char := '\n' :: List.replicate indent ' '

namespace Style

/-- The character is only written by an escape. -/
def isSpecial (c : Char) : Bool := c != '\n' && !decide (0x20 ≤ c.toNat ∧ c.toNat ≤ 0x7E)

/-- A line end stands next to a space. -/
def hasFrayedBreak : List Char → Bool
  | c :: d :: rest =>
    (c == ' ' && d == '\n') || (c == '\n' && d == ' ') || hasFrayedBreak (d :: rest)
  | _ => false

/-- A text starts with a character that begins something else than a plain scalar. -/
def startsIndicator : List Char → Bool
  | '-' :: '-' :: '-' :: _ => true
  | '.' :: '.' :: '.' :: _ => true
  | c :: rest =>
    "#,[]\x7b\x7d&*!|>'\"%@\x60".toList.contains c || ("?:-".toList.contains c && atSpace rest)
  | [] => false

/-- A text holds something that ends a plain scalar: a colon before a space or at the end, or a
number sign behind a space. -/
def endsEarly : List Char → Bool
  | [] => false
  | c :: rest =>
    (c == ':' && atSpace rest) || (isSpace c && rest.head? == some '#') || endsEarly rest

/-- A text reads back as itself when it is written plain. -/
def staysPlain (text : String) : Bool :=
  let cs := text.toList
  decide (Plain.tag text = .text) && !cs.contains '\n' && cs.head? != some ' '
    && cs.getLast? != some ' ' && !startsIndicator cs && !endsEarly cs

def ofText (text : String) : Style :=
  if text.toList.any isSpecial || hasFrayedBreak text.toList then .double
  else if staysPlain text then .plain
  else .single

/-- Two characters belong to the same stretch: both spaces, both line ends, or neither. -/
def sameStretch (c d : Char) : Bool := (c == ' ') == (d == ' ') && (c == '\n') == (d == '\n')

/-- Writes stretches of a text; `inner` tells that something stands before them. A line is broken
at a single space between two others, and a line end of the text is written by one line end
more than there are. -/
def writeStretches (slot : Slot) : Nat → Bool → List (List Char) → List Char
  | _, _, [] => []
  | column, inner, stretch :: rest =>
    if stretch.head? == some '\n' then
      List.replicate stretch.length '\n' ++ newLine slot.indent
        ++ writeStretches slot slot.indent true rest
    else if slot.folds && stretch == [' '] && inner && !rest.isEmpty && decide (width < column) then
      newLine slot.indent ++ writeStretches slot slot.indent true rest
    else stretch ++ writeStretches slot (column + stretch.length) true rest

def writePlain (slot : Slot) (cs : List Char) : List Char :=
  writeStretches slot slot.column false (cs.splitBy sameStretch)

def writeSingle (slot : Slot) (cs : List Char) : List Char :=
  let doubled := (cs.splitBy sameStretch).map fun stretch =>
    stretch.flatMap fun c => if c = '\'' then ['\'', '\''] else [c]
  '\'' :: writeStretches slot (slot.column + 1) false doubled ++ ['\'']

/-- The letters of the escapes that have one. -/
def escapeLetters : List (Nat × Char) :=
  [(0, '0'), (7, 'a'), (8, 'b'), (9, 't'), (10, 'n'), (11, 'v'), (12, 'f'), (13, 'r'), (27, 'e'),
    (34, '"'), (92, '\\'), (0x85, 'N'), (0xA0, '_'), (0x2028, 'L'), (0x2029, 'P')]

def escape? (c : Char) : Option (List Char) :=
  let n := c.toNat
  match escapeLetters.lookup n with
  | some letter => some ['\\', letter]
  | none =>
    if 0x20 ≤ n ∧ n ≤ 0x7E then none
    else if n ≤ 0xFF then some ('\\' :: 'x' :: Hex.padded 'A' 2 n)
    else if n ≤ 0xFFFF then some ('\\' :: 'u' :: Hex.padded 'A' 4 n)
    else some ('\\' :: 'U' :: Hex.padded 'A' 8 n)

/-- The end of a broken line between double quotes and the start of the next one, on which `next`
comes first. -/
def breakDouble (slot : Slot) (next : Char) : List Char :=
  '\\' :: newLine slot.indent ++ (if next = ' ' then ['\\'] else [])

/-- The length of a line that `breakDouble` has started. -/
def startDouble (slot : Slot) (next : Char) : Nat := slot.indent + if next = ' ' then 1 else 0

/-- Writes characters between double quotes. The length of the line so far is `column`; `inner`
tells that a character stands before them, `fresh` that an escape or the start of a line does. -/
def writeEscaped (slot : Slot) : Nat → Bool → Bool → List Char → List Char
  | _, _, _, [] => []
  | column, inner, fresh, c :: rest =>
    match escape? c, rest with
    | some shown, [] => shown
    | some shown, next :: _ =>
      let column := column + shown.length
      if slot.folds && inner && decide (width + 1 < column) then
        shown ++ breakDouble slot next ++ writeEscaped slot (startDouble slot next) true true rest
      else shown ++ writeEscaped slot column true true rest
    | none, [] => [c]
    | none, _ :: _ =>
      if slot.folds && inner && (c == ' ' || fresh) && decide (width < column) then
        breakDouble slot c ++ c :: writeEscaped slot (startDouble slot c + 1) true false rest
      else c :: writeEscaped slot (column + 1) true false rest

def writeDouble (slot : Slot) (cs : List Char) : List Char :=
  '"' :: writeEscaped slot (slot.column + 1) false false cs ++ ['"']

end Style

/-- Numbers without digits have words, and before a power of ten there is always a point. -/
def realForm : RealForm := ⟨".inf", ".nan", true⟩

/-- Octets behind their tag: as letters in lines of their own, or nothing between double quotes. -/
def writeOctets (indent : Nat) (octets : List UInt8) : List Char :=
  "!!binary ".toList ++
    if octets.isEmpty then "\"\"".toList
    else '|' :: (Base64.encodeLines octets).flatMap fun line => newLine indent ++ line

def writeScalar (slot : Slot) : Scalar → List Char
  | .null => "null".toList
  | .bool b => (if b then "true" else "false").toList
  | .integer n => (toString n).toList
  | .real x => (realForm.write x).toList
  | .moment moment => Style.writePlain slot moment.write.toList
  | .octets octets => writeOctets slot.indent octets
  | .text text =>
    match Style.ofText text with
    | .plain => Style.writePlain slot text.toList
    | .single => Style.writeSingle slot text.toList
    | .double => Style.writeDouble slot text.toList

end ModuleResolution.Yaml
