import ModuleResolution.Text.Quoted

/-! # Writing JSON

Values on one line, with a space after each comma and colon, or over several lines with two
spaces for each level. Characters beyond ASCII are kept, or all written as numbered escapes, those
beyond the first plane as a pair.

A value that JSON has no form for is written as a text: a moment, octets, a set. A key is not, so
a mapping with a moment or octets for a key is not written, and neither is a whole number of more
than `digitLimit` digits. How deep values stand in each other does not matter here.
-/

set_option autoImplicit false

namespace ModuleResolution.Json

/-- What becomes of the characters beyond ASCII. -/
inductive Charset where
  | unicode
  | ascii
  deriving DecidableEq, Repr

def unitEscape (unit : Nat) : List Char := '\\' :: 'u' :: Hex.padded 'a' 4 unit

def encodeChar (charset : Charset) (c : Char) : List Char :=
  let n := c.toNat
  if c = '"' || c = '\\' then ['\\', c]
  else if c = '\n' then ['\\', 'n']
  else if c = '\r' then ['\\', 'r']
  else if c = '\t' then ['\\', 't']
  else if n = 8 then ['\\', 'b']
  else if n = 12 then ['\\', 'f']
  else if n < 0x20 then unitEscape n
  else if charset = .unicode || n < 0x7F then [c]
  else if n < 0x10000 then unitEscape n
  else
    unitEscape (0xD800 + (n - 0x10000) / 0x400) ++ unitEscape (0xDC00 + (n - 0x10000) % 0x400)

def quoted (charset : Charset) (text : String) : String :=
  String.ofList ('"' :: text.toList.flatMap (encodeChar charset) ++ ['"'])

/-- How real numbers are written. -/
def realForm : RealForm := ⟨"Infinity", "NaN", false⟩

/-- Why a value is not written. -/
inductive Unwritable where
  /-- A key that no name is made of. -/
  | key (typeName : String)
  /-- A whole number with too many digits. -/
  | longNumber
  deriving DecidableEq, Repr

def Unwritable.message : Unwritable → String
  | .key typeName => "keys must be str, int, float, bool or None, not " ++ typeName
  | .longNumber => LongNumber.written.message

/-- What comes of writing: a result, or the reason why there is none. -/
abbrev Writing := Except Unwritable

/-- A value without parts; a moment is written as a text, and so are octets. -/
def scalar (charset : Charset) : Scalar → Writing String
  | .null => .ok "null"
  | .bool true => .ok "true"
  | .bool false => .ok "false"
  | .integer n => if isLongNumber n then .error .longNumber else .ok (toString n)
  | .real value => .ok (realForm.write value)
  | .moment value => .ok (quoted charset value.write)
  | .text text => .ok (quoted charset text)
  | .octets content => .ok (quoted charset (Quoted.octets content))

/-- A set is written as a text. -/
def set (charset : Charset) (members : List Scalar) : Writing String :=
  if members.any Scalar.isLong then .error .longNumber
  else .ok (quoted charset (Quoted.value (.set members)))

/-- The name of an entry; a key that is no text is named by its written form. -/
def name (charset : Charset) (key : Scalar) : Writing String :=
  match key with
  | .text text => .ok (quoted charset text)
  | .moment _ | .octets _ => .error (.key (Value.scalar key).typeName)
  | key => (scalar charset key).map fun text => "\"" ++ text ++ "\""

/-- How the parts of a value are set apart: by what stands between two of them, and by what stands
before each one at a level. -/
structure Spacing where
  separator : String
  margin : Nat → String

def Spacing.inline : Spacing := ⟨", ", fun _ => ""⟩

def Spacing.indented : Spacing :=
  ⟨",", fun level => "\n" ++ String.ofList (List.replicate (2 * level) ' ')⟩

/-- Written parts between two brackets that stand at a level. -/
def Spacing.enclose (spacing : Spacing) (level : Nat) (opening closing : String)
    (parts : List String) : String :=
  if parts.isEmpty then opening ++ closing
  else
    opening ++ spacing.separator.intercalate (parts.map (spacing.margin (level + 1) ++ ·))
      ++ spacing.margin level ++ closing

mutual

/-- A value at a level. -/
def write (charset : Charset) (spacing : Spacing) (level : Nat) : Value → Writing String
  | .scalar s => scalar charset s
  | .set members => set charset members
  | .list items =>
    (writeItems charset spacing (level + 1) items).map (spacing.enclose level "[" "]")
  | .mapping entries =>
    (writeEntries charset spacing (level + 1) entries).map (spacing.enclose level "\x7b" "\x7d")

def writeItems (charset : Charset) (spacing : Spacing) (level : Nat) :
    List Value → Writing (List String)
  | [] => .ok []
  | item :: rest => do
    let item ← write charset spacing level item
    (writeItems charset spacing level rest).map (item :: ·)

def writeEntries (charset : Charset) (spacing : Spacing) (level : Nat) :
    List (Scalar × Value) → Writing (List String)
  | [] => .ok []
  | (key, item) :: rest => do
    let key ← name charset key
    let item ← write charset spacing level item
    (writeEntries charset spacing level rest).map ((key ++ ": " ++ item) :: ·)

end

def line (charset : Charset) (value : Value) : Writing String := write charset .inline 0 value

def indented (charset : Charset) (value : Value) : Writing String :=
  write charset .indented 0 value

end ModuleResolution.Json
