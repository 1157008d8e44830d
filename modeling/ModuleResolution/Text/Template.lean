import ModuleResolution.Text.Fit
import ModuleResolution.Text.Quoted

/-! # Message templates

A template is a text with places for values, each a percent sign, perhaps a name in parentheses,
some flags, a least width, a precision and a letter: `s` for a value as text, `r` for its shown
form, `a` for that in ASCII, `c` for a character, `d`, `i` or `u` for a number in decimal digits,
`x`, `X` or `o` for one to the base sixteen or eight, `e`, `f` or `g` for a real number. A star
for the width or the precision takes it from the values. Two percent signs stand for one.

The values are used in order, and all of them have to be used; or there is one value whose entries
are used by name.
-/

set_option autoImplicit false

namespace ModuleResolution.Template

inductive Failure where
  | tooFewValues
  | tooManyValues
  | incomplete
  | incompleteName
  | noEntries
  | noEntry (name : String)
  | noName (typeName : String)
  | noWidth
  | wideWidth
  | widePrecision
  /-- A width that is taken from the values is out of range. -/
  | farWidth
  | farPrecision
  | noNumber (letter : Char) (typeName : String)
  | noReal (typeName : String)
  | noCharacter
  | farCharacter
  | infiniteWhole
  | undefinedWhole
  | farReal
  /-- A half of a pair of code units, which makes no text. -/
  | halfCharacter
  /-- A whole number with too many digits to be written. -/
  | longNumber
  | unknownLetter (letter : Char) (index : Nat)
  deriving DecidableEq, Repr

/-- The letter of a faulty place as it is quoted. -/
def quotedLetter (letter : Char) : Char :=
  if 31 ≤ letter.toNat && letter.toNat ≤ 126 then letter else '?'

def Failure.message : Failure → String
  | .tooFewValues => "not enough arguments for format string"
  | .tooManyValues => "not all arguments converted during string formatting"
  | .incomplete => "incomplete format"
  | .incompleteName => "incomplete format key"
  | .noEntries => "format requires a mapping"
  | .noEntry name => Quoted.text name
  | .noName typeName => typeName ++ " indices must be integers or slices, not str"
  | .noWidth => "* wants int"
  | .wideWidth => "width too big"
  | .widePrecision => "precision too big"
  | .farWidth => "Python int too large to convert to C ssize_t"
  | .farPrecision => "Python int too large to convert to C int"
  | .noNumber letter typeName =>
    "%" ++ String.ofList [letter] ++ " format: "
      ++ (if "xXo".toList.contains letter then "an integer" else "a real number")
      ++ " is required, not " ++ typeName
  | .noReal typeName => "must be real number, not " ++ typeName
  | .noCharacter => "%c requires int or char"
  | .farCharacter => "%c arg not in range(0x110000)"
  | .infiniteWhole => "cannot convert float infinity to integer"
  | .undefinedWhole => "cannot convert float NaN to integer"
  | .farReal => "int too large to convert to float"
  | .halfCharacter => "surrogates not allowed"
  | .longNumber => LongNumber.written.message
  | .unknownLetter letter index =>
    "unsupported format character '" ++ String.ofList [quotedLetter letter] ++ "' (0x"
      ++ Hex.lower 1 letter.toNat ++ ") at index " ++ toString index

/-! ## The values -/

/-- The values that are left for the places. -/
structure Supply where
  /-- The value whose entries can be named. -/
  named : Option Value
  values : List Value

namespace Supply

def ofList (values : List Value) : Supply := ⟨none, values⟩

/-- A value that is used itself or by its entries. -/
def ofValue (value : Value) : Supply :=
  match value with
  | .scalar _ => ⟨none, [value]⟩
  | _ => ⟨some value, [value]⟩

def next (supply : Supply) : Except Failure (Value × Supply) :=
  match supply.values with
  | [] => .error .tooFewValues
  | value :: rest => .ok (value, { supply with values := rest })

/-- Makes the entry of a name the next value. -/
def choose (supply : Supply) (name : String) : Except Failure Supply :=
  match supply.named with
  | none => .error .noEntries
  | some (.mapping entries) =>
    match Entries.field? entries name with
    | some value => .ok { supply with values := [value] }
    | none => .error (.noEntry name)
  | some value => .error (.noName value.typeName)

/-- Values that have no names may not be left over. -/
def finish (supply : Supply) : Except Failure Unit :=
  if supply.named.isSome || supply.values.isEmpty then .ok () else .error .tooManyValues

end Supply

/-! ## The places -/

def decimal (digits : List Char) : Nat :=
  digits.foldl (fun total c => 10 * total + (c.toNat - 48)) 0

/-- The characters up to the parenthesis that closes one that is open, and those behind it, with
`inner` more open. -/
def splitName (inner : Nat) : List Char → Option (List Char × List Char)
  | [] => none
  | c :: rest =>
    if c = ')' then
      match inner with
      | 0 => some ([], rest)
      | inner + 1 => (splitName inner rest).map fun (name, after) => (c :: name, after)
    else (splitName (if c = '(' then inner + 1 else inner) rest).map fun (name, after) =>
      (c :: name, after)

/-- How large a number for a place can be, and what fails where one is larger, in digits or as a
value. -/
structure Size where
  bits : Nat
  inDigits : Failure
  asValue : Failure

def Size.width : Size := ⟨63, .wideWidth, .farWidth⟩

def Size.precision : Size := ⟨31, .widePrecision, .farPrecision⟩

/-- A number in digits or, for a star, the next value, with the characters behind it. -/
def Size.read (size : Size) (supply : Supply) (cs : List Char) :
    Except Failure (Option Int × List Char × Supply) :=
  match cs with
  | '*' :: rest => do
    let (value, supply) ← supply.next
    match value with
    | .integer n =>
      let limit : Int := Nat.pow 2 size.bits
      if -limit ≤ n && n < limit then return (some n, rest, supply)
      else .error size.asValue
    | .bool b => return (some (if b then 1 else 0), rest, supply)
    | _ => .error .noWidth
  | cs =>
    let digits := cs.takeWhile Char.isDigit
    if digits.isEmpty then .ok (none, cs, supply)
    else if decimal digits < Nat.pow 2 size.bits then
      .ok (some (decimal digits), cs.drop digits.length, supply)
    else .error size.inDigits

/-- Reads a name; the entry of the name is the next value then. -/
def readName (supply : Supply) (cs : List Char) : Except Failure (List Char × Supply) :=
  match cs with
  | '(' :: rest =>
    if supply.named.isNone then .error .noEntries
    else
      match splitName 0 rest with
      | none => .error .incompleteName
      | some (name, after) => (supply.choose (String.ofList name)).map (after, ·)
  | cs => .ok (cs, supply)

def readPrecision (supply : Supply) (cs : List Char) :
    Except Failure (Option Nat × List Char × Supply) :=
  match cs with
  | '.' :: rest => do
    let (precision, after, supply) ← Size.precision.read supply rest
    return (some (precision.getD 0).toNat, after, supply)
  | cs => .ok (none, cs, supply)

/-- Reads what stands between the percent sign and the letter; a letter for the length does not
matter. -/
def readFit (supply : Supply) (cs : List Char) : Except Failure (Fit × List Char × Supply) := do
  let (cs, supply) ← readName supply cs
  let flags := cs.takeWhile "-0+ #".toList.contains
  let (width, cs, supply) ← Size.width.read supply (cs.drop flags.length)
  let width := width.getD 0
  let (precision, cs, supply) ← readPrecision supply cs
  let after := match cs with
    | c :: rest => if "hlL".toList.contains c then rest else cs
    | [] => []
  return (⟨if width < 0 then '-' :: flags else flags, width.natAbs, precision⟩, after, supply)

/-! ## The values in their places -/

/-- A value as text: a text is its own, and a moment is written. -/
def valueText : Value → String
  | .text s => s
  | .scalar (.moment moment) => moment.write
  | value => Quoted.value value

/-- Something made of a value, in which no whole number may be too long to be written. -/
def whenShort {α : Type} (value : Value) (made : α) : Except Failure α :=
  if value.scalars.any Scalar.isLong then .error .longNumber else .ok made

/-- The shown form of a value in ASCII. -/
def asciiText (value : Value) : List Char :=
  (Quoted.value value).toList.flatMap fun c => if c.toNat < 0x80 then [c] else Quoted.byNumber c

/-- The whole number that a value counts as; a real number only where fractions may be dropped. -/
def wholeNumber (letter : Char) (dropsFraction : Bool) (value : Value) : Except Failure Int :=
  match value with
  | .integer n => .ok n
  | .bool b => .ok (if b then 1 else 0)
  | .scalar (.real x) =>
    if !dropsFraction then .error (.noNumber letter value.typeName)
    else
      match x.truncated?, x.size with
      | some n, _ => .ok n
      | none, .undefined => .error .undefinedWhole
      | none, _ => .error .infiniteWhole
  | value => .error (.noNumber letter value.typeName)

/-- The real number that a value counts as. -/
def realNumber (value : Value) : Except Failure Binary64 :=
  match value with
  | .scalar (.real x) => .ok x
  | .bool b => .ok (.ofInt (if b then 1 else 0))
  | .integer n =>
    if (Binary64.ofInt n).size = .infinite then .error .farReal else .ok (.ofInt n)
  | value => .error (.noReal value.typeName)

/-- The character that a value counts as. -/
def character (value : Value) : Except Failure Char :=
  let ofCode (n : Int) : Except Failure Char :=
    if n < 0 || 0x110000 ≤ n then .error .farCharacter
    else if n.toNat.isValidChar then .ok (Char.ofNat n.toNat)
    else .error .halfCharacter
  match value with
  | .integer n => ofCode n
  | .bool b => ofCode (if b then 1 else 0)
  | .text s =>
    match s.toList with
    | [c] => .ok c
    | _ => .error .noCharacter
  | _ => .error .noCharacter

def place (fit : Fit) (letter : Char) (index : Nat) (value : Value) :
    Except Failure (List Char) :=
  let whole (base : Nat) (mark : List Char) (shown : List Char → List Char) :
      Except Failure (List Char) := do
    let n ← wholeNumber letter (base == 10) value
    if base == 10 && isLongNumber n then throw .longNumber
    return fit.whole (decide (n < 0)) mark (shown (Nat.toDigits base n.natAbs))
  match letter with
  | 's' => whenShort value (fit.text (valueText value).toList)
  | 'r' => whenShort value (fit.text (Quoted.value value).toList)
  | 'a' => whenShort value (fit.text (asciiText value))
  | 'c' => (character value).map fun c => fit.pad [c]
  | 'd' => whole 10 [] id
  | 'i' => whole 10 [] id
  | 'u' => whole 10 [] id
  | 'o' => whole 8 ['0', 'o'] id
  | 'x' => whole 16 ['0', 'x'] id
  | 'X' => whole 16 ['0', 'X'] (·.map Char.toUpper)
  | letter =>
    if "eEfFgG".toList.contains letter then (realNumber value).map (fit.real letter)
    else .error (.unknownLetter letter index)

/-- Fills the places of a template in at most so many steps; `index` characters stand before it. -/
def fillFrom : Nat → Nat → List Char → Supply → Except Failure (List Char)
  | 0, _, _, _ => .ok []
  | _ + 1, _, [], supply => supply.finish.map fun _ => []
  | steps + 1, index, c :: rest, supply =>
    if c != '%' then return c :: (← fillFrom steps (index + 1) rest supply)
    else if rest.head? = some '%' then
      return '%' :: (← fillFrom steps (index + 2) rest.tail supply)
    else do
      let (fit, after, supply) ← readFit supply rest
      let letterIndex := index + 1 + (rest.length - after.length)
      match after with
      | [] => .error .incomplete
      | letter :: after => do
        let (value, supply) ← supply.next
        let shown ← place fit letter letterIndex value
        return shown ++ (← fillFrom steps (letterIndex + 1) after supply)

def fill (template : String) (supply : Supply) : Except Failure String :=
  (fillFrom (template.length + 1) 0 template.toList supply).map String.ofList

end ModuleResolution.Template
