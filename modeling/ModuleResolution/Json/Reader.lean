import ModuleResolution.Number.Limit
import ModuleResolution.Text.Hex
import ModuleResolution.Value.Basic

/-! # Reading JSON

A strict reader of JSON that also takes `NaN`, `Infinity` and `-Infinity`. The functions work on
what is left of the text and give back what is left after them; a refusal holds what was left at
the spot it speaks of, so that its place in the text is a difference of lengths. Of two entries
with one key the last wins. The recursion is bounded by a number of steps that the length of the
text covers twice over: each value uses up at least one character.

Blanks are the space, the tab and the two line-end characters. An integer of more than
`digitLimit` digits and more than `depthLimit` containers in each other are refused with a failure
of their own. So is an escape for half of a pair of code units that the other half does not follow:
no text here holds one, so nothing is said about what a text with one means.
-/

set_option autoImplicit false

namespace ModuleResolution.Json

inductive Cause where
  | byteOrderMark
  | expectingValue
  | expectingName
  | expectingColon
  | expectingComma
  | unterminatedString
  | invalidControl
  | invalidEscape
  | invalidUnicodeEscape
  | extraData
  deriving DecidableEq, Repr

def Cause.message : Cause → String
  | .byteOrderMark => "Unexpected UTF-8 BOM (decode using utf-8-sig)"
  | .expectingValue => "Expecting value"
  | .expectingName => "Expecting property name enclosed in double quotes"
  | .expectingColon => "Expecting ':' delimiter"
  | .expectingComma => "Expecting ',' delimiter"
  | .unterminatedString => "Unterminated string starting at"
  | .invalidControl => "Invalid control character at"
  | .invalidEscape => "Invalid \\escape"
  | .invalidUnicodeEscape => "Invalid \\uXXXX escape"
  | .extraData => "Extra data"

/-- What holds other values. -/
inductive Container where
  | array
  | object
  deriving DecidableEq, Repr

/-- What a text exceeds that could be JSON. -/
inductive Excess where
  /-- An integer with so many digits. -/
  | digits (count : Nat)
  /-- A container inside too many others. -/
  | depth (container : Container)
  /-- Half of a pair of code units without its partner. -/
  | half (unit : Nat)
  deriving DecidableEq, Repr

/-- A refusal while reading: a cause with the text left at its spot, or an excess. -/
inductive Refusal where
  | at (cause : Cause) (left : List Char)
  | excessive (excess : Excess)
  deriving DecidableEq, Repr

/-- The outcome of reading: a result, mostly with the text left after it, or a refusal. -/
abbrev Reading := Except Refusal

/-- The most containers that may stand in each other. This is what a thousand nested calls leave
room for if a function of the main program asks for a resolution; each further call around the
reader takes one away. -/
def depthLimit : Nat := 988

/-- The characters that may stand between tokens. -/
def isBlank (c : Char) : Bool := c == ' ' || c == '\t' || c == '\n' || c == '\r'

def skipBlanks (s : List Char) : List Char := s.dropWhile isBlank

/-- The text after a word it starts with. -/
def after? (word : String) (s : List Char) : Option (List Char) :=
  if word.toList.isPrefixOf s then some (s.drop word.length) else none

def natOfDigits (digits : List Char) : Nat :=
  digits.foldl (fun total c => 10 * total + (c.toNat - 48)) 0

/-- The character that stands after a backslash for itself or for a control character. -/
def escaped? : Char → Option Char
  | '"' => some '"'
  | '\\' => some '\\'
  | '/' => some '/'
  | 'b' => some (Char.ofNat 8)
  | 'f' => some (Char.ofNat 12)
  | 'n' => some '\n'
  | 'r' => some '\r'
  | 't' => some '\t'
  | _ => none

/-- The first half of a pair of code units. -/
def isHigh (unit : Nat) : Bool := decide (0xD800 ≤ unit ∧ unit < 0xDC00)

/-- The second half of a pair of code units. -/
def isLow (unit : Nat) : Bool := decide (0xDC00 ≤ unit ∧ unit < 0xE000)

/-- The character of a code unit that stands alone. -/
def charOfUnit (unit : Nat) : Reading Char :=
  if isHigh unit || isLow unit then .error (.excessive (.half unit)) else .ok (Char.ofNat unit)

/-- The code unit of four digits that at least one more character follows; `s` starts after the
letter, `spot` at it. -/
def codeUnit (spot s : List Char) : Reading (Nat × List Char) :=
  match s with
  | a :: b :: c :: d :: rest =>
    match Hex.read? [a, b, c, d], rest with
    | some unit, _ :: _ => .ok (unit, rest)
    | _, _ => .error (.at .invalidUnicodeEscape spot)
  | _ => .error (.at .invalidUnicodeEscape spot)

/-- The character of a numbered escape, of which `s` holds what follows the letter. A high half
takes the low half of a second escape with it. -/
def numberedEscape (spot s : List Char) : Reading (Char × List Char) := do
  let (unit, rest) ← codeUnit spot s
  if isHigh unit then
    match rest with
    | '\\' :: 'u' :: a :: b :: c :: d :: e :: more =>
      match Hex.read? [a, b, c, d] with
      | none => .error (.at .invalidUnicodeEscape ('u' :: a :: b :: c :: d :: e :: more))
      | some low =>
        if isLow low then
          .ok (Char.ofNat (0x10000 + 0x400 * (unit - 0xD800) + (low - 0xDC00)), e :: more)
        else return (← charOfUnit unit, rest)
    | _ => return (← charOfUnit unit, rest)
  else return (← charOfUnit unit, rest)

/-- The rest of a string whose opening quote stands at `opening`; `shown` holds its characters so
far, the last one first. -/
def stringRest (opening : List Char) :
    Nat → List Char → List Char → Reading (String × List Char)
  | 0, _, _ => .error (.at .unterminatedString opening)
  | steps + 1, shown, s =>
    match s with
    | [] => .error (.at .unterminatedString opening)
    | '"' :: rest => .ok (String.ofList shown.reverse, rest)
    | ['\\'] => .error (.at .unterminatedString opening)
    | '\\' :: 'u' :: rest => do
      let (c, rest) ← numberedEscape ('u' :: rest) rest
      stringRest opening steps (c :: shown) rest
    | '\\' :: c :: rest =>
      match escaped? c with
      | some c => stringRest opening steps (c :: shown) rest
      | none => .error (.at .invalidEscape s)
    | c :: rest =>
      if c.toNat ≤ 0x1F then .error (.at .invalidControl s)
      else stringRest opening steps (c :: shown) rest

/-- A string; `s` starts after its opening quote. -/
def string (s : List Char) : Reading (String × List Char) :=
  stringRest ('"' :: s) (s.length + 1) [] s

/-- The digits of a whole number without sign: a zero alone, or digits that start with another. -/
def wholeDigits (s : List Char) : List Char :=
  match s with
  | '0' :: _ => ['0']
  | _ => s.takeWhile Char.isDigit

def fraction (s : List Char) : List Char :=
  match s with
  | '.' :: rest =>
    let digits := rest.takeWhile Char.isDigit
    if digits.isEmpty then [] else '.' :: digits
  | _ => []

def exponent (s : List Char) : List Char :=
  match s with
  | e :: rest =>
    if e = 'e' || e = 'E' then
      let sign := match rest with
        | '+' :: _ => ['+']
        | '-' :: _ => ['-']
        | _ => []
      let digits := (rest.drop sign.length).takeWhile Char.isDigit
      if digits.isEmpty then [] else e :: sign ++ digits
    else []
  | [] => []

/-- The number that the digits of an exponent write; none write zero. -/
def powerOf (power : List Char) : Int :=
  match power with
  | _ :: '-' :: digits => -(natOfDigits digits : Int)
  | _ :: '+' :: digits => natOfDigits digits
  | _ :: digits => natOfDigits digits
  | [] => 0

/-- The real number of a sign, the digits in front of a point and behind it, and an exponent. -/
def real (negative : Bool) (whole places power : List Char) : Binary64 :=
  .ofDecimal negative (natOfDigits (whole ++ places)) (powerOf power - places.length)

/-- The longest number the text starts with. -/
def number (s : List Char) : Reading (Value × List Char) :=
  let sign := match s with
    | '-' :: _ => ['-']
    | _ => []
  let body := s.drop sign.length
  let whole := wholeDigits body
  if whole.isEmpty then .error (.at .expectingValue s)
  else
    let afterWhole := body.drop whole.length
    let point := fraction afterWhole
    let afterPoint := afterWhole.drop point.length
    let power := exponent afterPoint
    let left := afterPoint.drop power.length
    if point.isEmpty && power.isEmpty then
      if digitLimit < whole.length then .error (.excessive (.digits whole.length))
      else
        let n : Int := natOfDigits whole
        .ok (.integer (if sign.isEmpty then n else -n), left)
    else .ok (.scalar (.real (real (!sign.isEmpty) whole (point.drop 1) power)), left)

def words : List (String × Value) :=
  [("null", .null), ("true", .bool true), ("false", .bool false),
    ("NaN", .scalar (.real .undefined)), ("Infinity", .scalar (.real .infinity)),
    ("-Infinity", .scalar (.real Binary64.infinity.negate))]

def wordOrNumber (s : List Char) : Reading (Value × List Char) :=
  match words.findSome? fun (word, value) => (after? word s).map (value, ·) with
  | some result => .ok result
  | none => number s

mutual

/-- The value the text starts with, in which so many containers may stand in each other. -/
def value (depth : Nat) : Nat → List Char → Reading (Value × List Char)
  | 0, s => .error (.at .expectingValue s)
  | steps + 1, s =>
    match s with
    | '"' :: rest => do
      let (text, rest) ← string rest
      return (.text text, rest)
    | '{' :: rest =>
      if depth = 0 then .error (.excessive (.depth .object))
      else
        match skipBlanks rest with
        | '}' :: left => .ok (.mapping [], left)
        | inner => do
          let (entries, left) ← members (depth - 1) steps [] inner
          return (.mapping entries, left)
    | '[' :: rest =>
      if depth = 0 then .error (.excessive (.depth .array))
      else
        match skipBlanks rest with
        | ']' :: left => .ok (.list [], left)
        | inner => do
          let (items, left) ← elements (depth - 1) steps [] inner
          return (.list items, left)
    | _ => wordOrNumber s

/-- The entries of an object from a name on, after the entries read so far. -/
def members (depth : Nat) : Nat → Mapping → List Char → Reading (Mapping × List Char)
  | 0, _, s => .error (.at .expectingName s)
  | steps + 1, entries, s =>
    match s with
    | '"' :: rest => do
      let (name, rest) ← string rest
      match skipBlanks rest with
      | ':' :: rest => do
        let (item, rest) ← value depth steps (skipBlanks rest)
        let entries := entries.insert (.text name) item
        match skipBlanks rest with
        | '}' :: left => .ok (entries, left)
        | ',' :: rest => members depth steps entries (skipBlanks rest)
        | rest => .error (.at .expectingComma rest)
      | rest => .error (.at .expectingColon rest)
    | _ => .error (.at .expectingName s)

/-- The items of an array from a value on, after the items read so far, the last one first. -/
def elements (depth : Nat) : Nat → List Value → List Char → Reading (List Value × List Char)
  | 0, _, s => .error (.at .expectingValue s)
  | steps + 1, items, s => do
    let (item, rest) ← value depth steps s
    match skipBlanks rest with
    | ']' :: left => .ok ((item :: items).reverse, left)
    | ',' :: rest => elements depth steps (item :: items) (skipBlanks rest)
    | rest => .error (.at .expectingComma rest)

end

def document (s : List Char) : Reading Value :=
  if s.head? = some (Char.ofNat 0xFEFF) then .error (.at .byteOrderMark s)
  else do
    let (result, rest) ← value depthLimit (2 * s.length + 2) (skipBlanks s)
    match skipBlanks rest with
    | [] => .ok result
    | left => .error (.at .extraData left)

/-- Why a text is not read as JSON: a cause at an offset of the text, or an excess. -/
inductive Failure where
  | malformed (cause : Cause) (text : String) (offset : Nat)
  | excessive (excess : Excess)
  deriving DecidableEq, Repr

def parse (text : String) : Except Failure Value :=
  match document text.toList with
  | .ok result => .ok result
  | .error (.at cause left) => .error (.malformed cause text (text.length - left.length))
  | .error (.excessive excess) => .error (.excessive excess)

/-- The place of an offset: its line and column, both counted from one, and the offset. -/
def place (text : String) (offset : Nat) : String :=
  let before := text.toList.take offset
  let line := before.count '\n' + 1
  let column := (before.reverse.takeWhile (· != '\n')).length + 1
  "line " ++ toString line ++ " column " ++ toString column ++ " (char " ++ toString offset ++ ")"

def Excess.message : Excess → String
  | .digits count => (LongNumber.read count).message
  | .half unit => "surrogates not allowed: '\\u" ++ Hex.lower 4 unit ++ "'"
  | .depth container =>
    "maximum recursion depth exceeded while decoding a JSON "
      ++ (match container with
        | .array => "array"
        | .object => "object")
      ++ " from a unicode string"

def Failure.message : Failure → String
  | .malformed cause text offset => cause.message ++ ": " ++ place text offset
  | .excessive excess => excess.message

end ModuleResolution.Json
