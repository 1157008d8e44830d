/-! # Cursors

A place in a YAML text: what is left of the text, how much of it is read, and the line and the
column, counted from zero. A line ends with a line feed or one of the wider line-end characters.
-/

set_option autoImplicit false

namespace ModuleResolution.Yaml

def isBreak (c : Char) : Bool :=
  c == '\n' || c == '\r' || c.toNat == 0x85 || c.toNat == 0x2028 || c.toNat == 0x2029

/-- The character is a blank or ends a line. -/
def isSpace (c : Char) : Bool := c == ' ' || c == '\t' || isBreak c

/-- A text starts with a blank or a line end, or is empty. -/
def atSpace : List Char → Bool
  | [] => true
  | c :: _ => isSpace c

/-- The character may stand in a YAML text. -/
def isAllowed (c : Char) : Bool :=
  let n := c.toNat
  n == 9 || n == 10 || n == 13 || decide (0x20 ≤ n ∧ n ≤ 0x7E) || n == 0x85
    || decide (0xA0 ≤ n ∧ n ≤ 0xD7FF) || decide (0xE000 ≤ n ∧ n ≤ 0xFFFD) || decide (0x10000 ≤ n)

structure Cursor where
  rest : List Char
  index : Nat
  line : Nat
  column : Nat

namespace Cursor

def start (text : List Char) : Cursor := ⟨text, 0, 0, 0⟩

def next (cursor : Cursor) : Cursor :=
  match cursor.rest with
  | [] => cursor
  | c :: rest =>
    if isBreak c && !(c == '\r' && rest.head? == some '\n') then
      ⟨rest, cursor.index + 1, cursor.line + 1, 0⟩
    else if c.toNat = 0xFEFF then ⟨rest, cursor.index + 1, cursor.line, cursor.column⟩
    else ⟨rest, cursor.index + 1, cursor.line, cursor.column + 1⟩

def skip : Nat → Cursor → Cursor
  | 0, cursor => cursor
  | n + 1, cursor => cursor.next.skip n

def span (cursor : Cursor) (p : Char → Bool) : List Char := cursor.rest.takeWhile p

def skipWhile (cursor : Cursor) (p : Char → Bool) : Cursor :=
  cursor.skip (cursor.span p).length

/-- The line end at a place, with the place after it; the wide line ends stay what they are. -/
def lineEnd? (cursor : Cursor) : Option (Char × Cursor) :=
  match cursor.rest with
  | '\r' :: '\n' :: _ => some ('\n', cursor.skip 2)
  | c :: _ =>
    if isBreak c then
      some (if c.toNat = 0x2028 || c.toNat = 0x2029 then c else '\n', cursor.next)
    else none
  | [] => none

/-- A document marker (three dashes or three points) stands at a place. -/
def atMarker (cursor : Cursor) : Bool :=
  match cursor.rest with
  | '-' :: '-' :: '-' :: rest => atSpace rest
  | '.' :: '.' :: '.' :: rest => atSpace rest
  | _ => false

end Cursor

end ModuleResolution.Yaml
