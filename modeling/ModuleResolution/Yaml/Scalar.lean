import ModuleResolution.Text.Hex
import ModuleResolution.Yaml.Cursor
import ModuleResolution.Yaml.Failure

/-! # Scalars in a YAML text

Plain scalars and quoted ones. Both may go over several lines: the blanks around a line end are
dropped, one line end becomes a space, and of more than one the first is dropped. A plain scalar
ends before a comment, before a colon with a space behind it, in a flow collection also before
its punctuation, and where the next line is indented too little. In double quotes a backslash
starts an escape, in single quotes two quotes stand for one.
-/

set_option autoImplicit false

namespace ModuleResolution.Yaml

/-- What stands for one or more line ends. -/
def foldBreaks (first : Char) (others : List Char) : List Char :=
  if first != '\n' then first :: others
  else if others.isEmpty then [' ']
  else others

namespace ScalarText

/-- How many characters of a plain scalar stand at a place before the next blank or its end. -/
def plainLength (inFlow : Bool) : List Char → Nat
  | [] => 0
  | c :: rest =>
    if isSpace c then 0
    else if c == ':' && (atSpace rest || (inFlow && ",[]\x7b\x7d".toList.contains (rest.headD ' ')))
    then 0
    else if inFlow && ",?[]\x7b\x7d".toList.contains c then 0
    else plainLength inFlow rest + 1

/-- Line ends and the spaces between them, up to a document marker. The flag tells whether there
was one. -/
def plainBreaks : Nat → Cursor → List Char → List Char × Cursor × Bool
  | 0, cursor, breaks => (breaks.reverse, cursor, false)
  | steps + 1, cursor, breaks =>
    if cursor.rest.head? == some ' ' then plainBreaks steps cursor.next breaks
    else
      match cursor.lineEnd? with
      | none => (breaks.reverse, cursor, false)
      | some (c, cursor) =>
        if cursor.atMarker then ((c :: breaks).reverse, cursor, true)
        else plainBreaks steps cursor (c :: breaks)

structure Gap where
  /-- The characters it stands for; none ends the scalar. -/
  chars : List Char
  cursor : Cursor
  /-- A line ended in it. -/
  brokeLine : Bool

def plainGap (cursor : Cursor) : Gap :=
  let spaces := cursor.span (· == ' ')
  let after := cursor.skip spaces.length
  match after.lineEnd? with
  | none => ⟨spaces, after, false⟩
  | some (first, cursor) =>
    if cursor.atMarker then ⟨[], cursor, true⟩
    else
      let (others, cursor, stopped) := plainBreaks (cursor.rest.length + 1) cursor []
      if stopped then ⟨[], cursor, true⟩ else ⟨foldBreaks first others, cursor, true⟩

structure Scanned where
  text : List Char
  cursor : Cursor
  /-- A line ended behind the last character. -/
  brokeLine : Bool

/-- A plain scalar from a place on, in a collection whose lines are indented by at least
`indent`; `before` is what stood before the place, `gap` what leads to it. -/
def plainFrom (inFlow : Bool) (indent : Int) :
    Nat → List Char → List Char → Cursor → Bool → Scanned
  | 0, before, _, cursor, broke => ⟨before, cursor, broke⟩
  | steps + 1, before, gap, cursor, broke =>
    let length := if cursor.rest.head? == some '#' then 0 else plainLength inFlow cursor.rest
    if length = 0 then ⟨before, cursor, broke⟩
    else
      let text := before ++ gap ++ cursor.rest.take length
      let next := plainGap (cursor.skip length)
      if next.chars.isEmpty || next.cursor.rest.head? == some '#'
        || (!inFlow && (next.cursor.column : Int) < indent) then
        ⟨text, next.cursor, next.brokeLine⟩
      else plainFrom inFlow indent steps text next.chars next.cursor next.brokeLine

def plain (inFlow : Bool) (indent : Int) (cursor : Cursor) : Scanned :=
  plainFrom inFlow indent (cursor.rest.length + 1) [] [] cursor false

/-- The line ends at a place inside quotes, with the blanks around them. -/
def quotedBreaks : Nat → Cursor → List Char → Scanning (List Char × Cursor)
  | 0, cursor, _ => cursor.refuse
  | steps + 1, cursor, breaks =>
    if cursor.atMarker then cursor.refuse
    else
      let cursor := cursor.skipWhile fun c => c == ' ' || c == '\t'
      match cursor.lineEnd? with
      | some (c, cursor) => quotedBreaks steps cursor (c :: breaks)
      | none => .ok (breaks.reverse, cursor)

def escapes : List (Char × Nat) :=
  [('0', 0), ('a', 7), ('b', 8), ('t', 9), ('\t', 9), ('n', 10), ('v', 11), ('f', 12), ('r', 13),
    ('e', 27), (' ', 32), ('"', 34), ('\\', 92), ('/', 47), ('N', 0x85), ('_', 0xA0),
    ('L', 0x2028), ('P', 0x2029)]

def escapeWidth? : Char → Option Nat
  | 'x' => some 2
  | 'u' => some 4
  | 'U' => some 8
  | _ => none

/-- The character that a number stands for, which is read up to a place. -/
def charOf (n : Nat) (cursor : Cursor) : Scanning Char :=
  if n.isValidChar then .ok (Char.ofNat n)
  else if n < 0x110000 then cursor.halt (.valueless .halfCharacter)
  else cursor.halt (.valueless (if n < 0x80000000 then .noCharacter else .noWord))

/-- An escape in double quotes; the place is behind the backslash. -/
def escape (cursor : Cursor) : Scanning (List Char × Cursor) :=
  match cursor.rest with
  | [] => cursor.refuse
  | c :: rest =>
    match escapes.lookup c, escapeWidth? c with
    | some n, _ => .ok ([Char.ofNat n], cursor.next)
    | none, some width =>
      match Hex.read? (rest.take width) with
      | some n =>
        if (rest.take width).length = width then do
          return ([← charOf n (cursor.skip width)], cursor.skip (width + 1))
        else (cursor.skip width).refuse
      | none => cursor.refuse
    | none, none =>
      match cursor.lineEnd? with
      | some (_, cursor) => quotedBreaks (cursor.rest.length + 1) cursor []
      | none => cursor.refuse

def quotedGap (cursor : Cursor) : Scanning (List Char × Cursor) :=
  let blanks := cursor.span fun c => c == ' ' || c == '\t'
  let after := cursor.skip blanks.length
  match after.lineEnd? with
  | none => .ok (blanks, after)
  | some (first, cursor) => do
    let (others, cursor) ← quotedBreaks (cursor.rest.length + 1) cursor []
    return (foldBreaks first others, cursor)

def quotedFrom (double : Bool) : Nat → List Char → Cursor → Scanning (List Char × Cursor)
  | 0, _, cursor => cursor.refuse
  | steps + 1, before, cursor =>
    match cursor.rest with
    | [] => cursor.refuse
    | c :: rest =>
      if isSpace c then do
        let (gap, cursor) ← quotedGap cursor
        quotedFrom double steps (before ++ gap) cursor
      else if double && c == '\\' then do
        let (chars, cursor) ← escape cursor.next
        quotedFrom double steps (before ++ chars) cursor
      else if double && c == '"' then .ok (before, cursor.next)
      else if !double && c == '\'' then
        if rest.head? == some '\'' then quotedFrom double steps (before ++ ['\'']) (cursor.skip 2)
        else .ok (before, cursor.next)
      else quotedFrom double steps (before ++ [c]) cursor.next

def quoted (cursor : Cursor) : Scanning (List Char × Cursor) :=
  quotedFrom (cursor.rest.head? == some '"') (cursor.rest.length + 1) [] cursor.next

end ScalarText

end ModuleResolution.Yaml
