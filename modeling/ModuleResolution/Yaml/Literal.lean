import ModuleResolution.Number.Limit
import ModuleResolution.Text.Case
import ModuleResolution.Text.Digit
import ModuleResolution.Text.Quoted
import ModuleResolution.Value.Basic
import ModuleResolution.Yaml.Plain

/-! # Literals

The scalar that a text stands for under a tag. A tag can be given to any text, so the reading of a
literal may fail; for what is marked by its text alone that only happens to a binary or hexadecimal
number without digits, to a number that is too long, and to a date that is not in the calendar.

Underscores in numbers do not count, and the digits of any script do. A number may have parts to the
base sixty.
-/

set_option autoImplicit false

namespace ModuleResolution.Yaml

inductive Fault where
  /-- An escape for a number that no character has. -/
  | noCharacter
  /-- An escape for a number beyond the signed words of 32 bits. -/
  | noWord
  /-- An escape for half of a pair of code units, which no text holds. -/
  | halfCharacter
  /-- A number without any character. -/
  | emptyNumber
  | noInteger (base : Nat) (text : String)
  | longInteger (long : LongNumber)
  | noReal (text : String)
  /-- More parts to the base sixty than a real number can have. -/
  | longReal
  | noTruth (text : String)
  | noMoment
  /-- A mapping in the place of the text of a moment. -/
  | noMomentText
  | wrongMoment (fault : Moment.Fault)
  /-- Collections inside of each other beyond the greatest depth. -/
  | tooDeep
  deriving DecidableEq, Repr

def Fault.message : Fault → String
  | .noCharacter => "chr() arg not in range(0x110000)"
  | .noWord => "Python int too large to convert to C int"
  | .halfCharacter => "surrogates not allowed"
  | .emptyNumber => "string index out of range"
  | .noInteger base text =>
    "invalid literal for int() with base " ++ toString base ++ ": "
      ++ String.ofList ((Quoted.text text).toList.take 200)
  | .longInteger long => long.message
  | .noReal text => "could not convert string to float: " ++ Quoted.text text
  | .longReal => "int too large to convert to float"
  | .noTruth text => Quoted.text text
  | .noMoment => "'NoneType' object has no attribute 'groupdict'"
  | .noMomentText => "expected string or bytes-like object, got 'list'"
  | .wrongMoment fault => fault.message
  | .tooDeep => "maximum recursion depth exceeded"

namespace Literal

abbrev Reading := Except Fault

/-- A sign at the start of a text, and the text behind it. -/
def splitSign : List Char → Bool × List Char
  | '-' :: rest => (true, rest)
  | '+' :: rest => (false, rest)
  | rest => (false, rest)

/-- The sign and the rest of the text of a number, which may not be empty. -/
def signed (cs : List Char) : Reading (Bool × List Char) :=
  if cs.isEmpty then .error .emptyNumber else .ok (splitSign cs)

/-! ## Whole numbers -/

/-- The letter that may stand behind a zero in front of digits of a base. -/
def baseLetter? : Nat → Option Char
  | 2 => some 'b'
  | 8 => some 'o'
  | 16 => some 'x'
  | _ => none

/-- Digits without the mark of their base. -/
def dropBase (base : Nat) : List Char → List Char
  | '0' :: letter :: digits =>
    if some letter.toLower = baseLetter? base then digits else '0' :: letter :: digits
  | digits => digits

def digit? (base : Nat) (c : Char) : Option Nat := (Hex.value? c).filter (· < base)

def natural (base : Nat) (digits : List Char) : Nat :=
  digits.foldl (fun n c => base * n + (digit? base c).getD 0) 0

/-- The whole number that a text writes to a base, with blanks around it. The number of digits is
looked at before what follows them. -/
def readInteger (base : Nat) (cs : List Char) : Reading Int :=
  let (negative, body) := splitSign (Digit.trimmed cs)
  let body := dropBase base body
  let digits := body.takeWhile fun c => (digit? base c).isSome
  if base = 10 && digitLimit < digits.length then .error (.longInteger (.read digits.length))
  else if digits.isEmpty || digits.length < body.length then
    .error (.noInteger base (String.ofList cs))
  else .ok (if negative then -(natural base digits : Int) else natural base digits)

/-- A whole number without its sign. -/
def readNatural (cs : List Char) : Reading Int :=
  match cs with
  | [] => .error .emptyNumber
  | ['0'] => .ok 0
  | '0' :: 'b' :: digits => readInteger 2 digits
  | '0' :: 'x' :: digits => readInteger 16 digits
  | '0' :: _ => readInteger 8 cs
  | _ =>
    if cs.contains ':' then do
      let parts ← (cs.splitOn ':').mapM (readInteger 10)
      return parts.foldl (60 * · + ·) 0
    else readInteger 10 cs

def integer (cs : List Char) : Reading Int := do
  let (negative, body) ← signed (cs.filter (· != '_'))
  let n ← readNatural body
  return if negative then -n else n

/-! ## Real numbers -/

def digitsValue (digits : List Char) : Nat := natural 10 digits

def exponent? : List Char → Option Int
  | [] => some 0
  | 'e' :: rest =>
    let (negative, digits) := splitSign rest
    if digits.isEmpty || !digits.all Char.isDigit then none
    else some (if negative then -(digitsValue digits : Int) else digitsValue digits)
  | _ => none

def decimal? (negative : Bool) (cs : List Char) : Option Binary64 := do
  let whole := cs.takeWhile Char.isDigit
  let rest := cs.drop whole.length
  let places := match rest with
    | '.' :: rest => rest.takeWhile Char.isDigit
    | _ => []
  let power := match rest with
    | '.' :: rest => rest.drop places.length
    | rest => rest
  let exponent ← exponent? power
  if whole.isEmpty && places.isEmpty then none
  else return .ofDecimal negative (digitsValue (whole ++ places)) (exponent - places.length)

/-- The real number that a text in small letters writes, with blanks around it. -/
def readReal (cs : List Char) : Reading Binary64 :=
  let (negative, body) := splitSign (Digit.trimmed cs)
  let found :=
    if ["inf", "infinity"].contains (String.ofList body) then
      some (Binary64.withSign negative .infinity)
    else if String.ofList body = "nan" then some .undefined
    else decimal? negative body
  match found with
  | some x => .ok x
  | none => .error (.noReal (String.ofList cs))

/-- The sum of parts to the base sixty, the last one first, of which the first counts `unit`. The
units may not be beyond all real numbers. -/
def sumParts : Binary64 → Nat → List Binary64 → Reading Binary64
  | total, _, [] => .ok total
  | total, unit, part :: rest =>
    let size := Binary64.ofInt unit
    if size = .infinity then .error .longReal
    else sumParts (total.add (part.mul size)) (60 * unit) rest

/-- A real number without its sign. -/
def readMagnitude (cs : List Char) : Reading Binary64 :=
  if String.ofList cs = ".inf" then .ok .infinity
  else if String.ofList cs = ".nan" then .ok .undefined
  else if cs.contains ':' then do
    let parts ← (cs.splitOn ':').mapM readReal
    sumParts .zero 1 parts.reverse
  else readReal cs

def real (cs : List Char) : Reading Binary64 := do
  let (negative, body) ← signed (Case.lower (cs.filter (· != '_')))
  return (← readMagnitude body).withSign negative

/-- A text is the name of what is undefined. -/
def namesUndefined (cs : List Char) : Bool :=
  String.ofList (splitSign (Case.lower (cs.filter (· != '_')))).2 = ".nan"

/-! ## Other literals -/

def truthWords : List (String × Bool) :=
  [("yes", true), ("no", false), ("true", true), ("false", false), ("on", true), ("off", false)]

def truth (cs : List Char) : Reading Bool :=
  let word := String.ofList (Case.lower cs)
  match truthWords.lookup word with
  | some b => .ok b
  | none => .error (.noTruth word)

/-- The date or time that a text stands for, which may end with a line feed. -/
def moment (cs : List Char) : Reading Moment :=
  match Moment.read? (Plain.dropLineFeed cs) with
  | none => .error .noMoment
  | some fields => (Moment.ofFields fields).mapError .wrongMoment

/-- The scalar that a text stands for under a tag, if it is the tag of a scalar. -/
def read? (cs : List Char) : Tag → Option (Reading Scalar)
  | .null => some (.ok .null)
  | .bool => some ((truth cs).map .bool)
  | .integer => some ((integer cs).map .integer)
  | .real => some ((real cs).map .real)
  | .moment => some ((moment cs).map .moment)
  | .text => some (.ok (.text (String.ofList cs)))
  | _ => none

end Literal

end ModuleResolution.Yaml
