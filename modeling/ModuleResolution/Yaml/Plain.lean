import ModuleResolution.Calendar.Moment
import ModuleResolution.Text.Hex
import ModuleResolution.Yaml.Tag

/-! # Plain scalars

What a plain scalar is marked as, told by its text alone: nothing, a truth value, a whole number
(decimal, binary, octal, hexadecimal, or parts to the base sixty), a real number, a date or time,
one of two special keys, or a text. The writer asks the same question to see whether a text may
stay plain. A text that is no plain scalar may be marked by what it looks like too; then a line feed
at its end does not count (`looks`).
-/

set_option autoImplicit false

namespace ModuleResolution.Yaml.Plain

/-- The words for nothing. -/
def nullWords : List String := ["", "~", "null", "Null", "NULL"]

def boolWords : List String :=
  ["yes", "Yes", "YES", "no", "No", "NO", "true", "True", "TRUE", "false", "False", "FALSE", "on",
    "On", "ON", "off", "Off", "OFF"]

def realWords : List String :=
  [".inf", ".Inf", ".INF", "+.inf", "+.Inf", "+.INF", "-.inf", "-.Inf", "-.INF", ".nan", ".NaN",
    ".NAN"]

/-- A text without a sign at its start. -/
def dropSign : List Char → List Char
  | '-' :: rest => rest
  | '+' :: rest => rest
  | rest => rest

/-- A digit below a base, or an underscore. -/
def isDigitOf (base : Nat) (c : Char) : Bool :=
  c == '_' || match Hex.value? c with
    | some d => decide (d < base)
    | none => false

/-- At least one digit of a base or underscore, and nothing else. -/
def areDigits (base : Nat) (digits : List Char) : Bool :=
  !digits.isEmpty && digits.all (isDigitOf base)

/-- A decimal digit, and then only digits and underscores. -/
def isDecimal : List Char → Bool
  | c :: rest => c.isDigit && rest.all (isDigitOf 10)
  | [] => false

/-- A part to the base sixty: one digit, or two of which the first is below six. -/
def isSixtieth : List Char → Bool
  | [d] => d.isDigit
  | [t, d] => decide ('0' ≤ t ∧ t ≤ '5') && d.isDigit
  | _ => false

/-- A decimal and at least one part to the base sixty behind it. -/
def isSexagesimal (cs : List Char) : Bool :=
  match cs.splitOn ':' with
  | first :: part :: parts => isDecimal first && (part :: parts).all isSixtieth
  | _ => false

def isNatural : List Char → Bool
  | '0' :: 'b' :: digits => areDigits 2 digits
  | '0' :: 'x' :: digits => areDigits 16 digits
  | ['0'] => true
  | '0' :: digits => areDigits 8 digits
  | digits => isDecimal digits || isSexagesimal digits

def isInteger (cs : List Char) : Bool := isNatural (dropSign cs)

/-- An exponent: a letter, a sign and digits; or nothing. -/
def isExponent : List Char → Bool
  | [] => true
  | e :: sign :: digits =>
    (e == 'e' || e == 'E') && (sign == '-' || sign == '+') && !digits.isEmpty
      && digits.all Char.isDigit
  | _ => false

/-- Digits and underscores, and an exponent. -/
def isFraction (cs : List Char) : Bool := isExponent (cs.dropWhile (isDigitOf 10))

/-- A decimal with a point. Its whole part may be missing when a digit follows the point and there
is no sign. -/
def isPointed (cs : List Char) : Bool :=
  match cs with
  | '.' :: places => (places.head?.map Char.isDigit).getD false && isFraction places
  | _ =>
    let body := dropSign cs
    let whole := body.takeWhile (isDigitOf 10)
    match body.drop whole.length with
    | '.' :: places => isDecimal whole && isFraction places
    | _ => false

def isPointedSexagesimal (cs : List Char) : Bool :=
  let body := dropSign cs
  let whole := body.takeWhile (· != '.')
  match body.drop whole.length with
  | '.' :: places => isSexagesimal whole && places.all (isDigitOf 10)
  | _ => false

def isReal (text : String) : Bool :=
  realWords.contains text || isPointed text.toList || isPointedSexagesimal text.toList

/-- A date alone has all its digits; one with a time may lack some. -/
def isMoment (cs : List Char) : Bool :=
  match Moment.read? cs with
  | some fields => fields.time.isSome || cs.length == 10
  | none => false

/-- What a plain scalar is marked as. -/
def tag (text : String) : Tag :=
  if nullWords.contains text then .null
  else if boolWords.contains text then .bool
  else if isInteger text.toList then .integer
  else if isReal text then .real
  else if isMoment text.toList then .moment
  else if text = "<<" then .merge
  else if text = "=" then .default
  else .text

/-- A text without the line feed at its end, if there is one. -/
def dropLineFeed (cs : List Char) : List Char :=
  if cs.getLast? = some '\n' then cs.dropLast else cs

/-- The marks that no plain scalar starts with; alone they are of a kind that is not known. -/
def loneMarks : List String := ["!", "&", "*"]

/-- What a text looks like that need not be a plain scalar. -/
def looks (cs : List Char) : Tag :=
  let text := String.ofList (dropLineFeed cs)
  if cs = ['\n'] then .text
  else if loneMarks.contains text then .unknown
  else tag text

end ModuleResolution.Yaml.Plain
