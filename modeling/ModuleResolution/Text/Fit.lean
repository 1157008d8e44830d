import ModuleResolution.Number.Places

/-! # Fitting a value into its place

Flags, a least width and a precision say how the characters of a value are fitted into the place
that a template keeps for it. A text is cut at the precision; a number has a sign, perhaps a mark of
its base, and digits, and zeros may fill it up behind these.
-/

set_option autoImplicit false

namespace ModuleResolution.Template

/-- How a value is fitted into its place. -/
structure Fit where
  flags : List Char
  width : Nat
  precision : Option Nat
  deriving DecidableEq, Repr

namespace Fit

def has (fit : Fit) (flag : Char) : Bool := fit.flags.contains flag

/-- Fills characters up to the width with spaces, on the left unless a flag says otherwise. -/
def pad (fit : Fit) (cs : List Char) : List Char :=
  let blanks := List.replicate (fit.width - cs.length) ' '
  if fit.has '-' then cs ++ blanks else blanks ++ cs

/-- A text, cut at the precision. -/
def text (fit : Fit) (cs : List Char) : List Char :=
  fit.pad (match fit.precision with
    | some most => cs.take most
    | none => cs)

/-- The sign of a number; one that is not negative has one only if a flag asks for it. -/
def sign (fit : Fit) (negative : Bool) : List Char :=
  if negative then ['-']
  else if fit.has '+' then ['+']
  else if fit.has ' ' then [' ']
  else []

/-- What stands in front of the digits of a number, and the digits, with zeros between the two if a
flag asks for them. -/
def signed (fit : Fit) (front digits : List Char) : List Char :=
  if fit.has '0' && !fit.has '-' then
    front ++ List.replicate (fit.width - front.length - digits.length) '0' ++ digits
  else fit.pad (front ++ digits)

/-- A whole number by its sign, the mark of its base and its digits, of which there are at least as
many as the precision says. -/
def whole (fit : Fit) (negative : Bool) (mark digits : List Char) : List Char :=
  let digits := List.replicate (fit.precision.getD 0 - digits.length) '0' ++ digits
  fit.signed (fit.sign negative ++ if fit.has '#' then mark else []) digits

/-- A ratio in the form that a small letter stands for. -/
def ratio (fit : Fit) (form letter : Char) (num den : Nat) : List Char :=
  let places := fit.precision.getD 6
  match form with
  | 'e' => Places.scientific (fit.has '#') letter places num den
  | 'f' => Places.fixed (fit.has '#') places num den
  | _ => Places.general (fit.has '#') (if letter = 'G' then 'E' else 'e') (max 1 places) num den

/-- A real number in the form of a letter, a capital one for capital letters. -/
def real (fit : Fit) (letter : Char) (x : Binary64) : List Char :=
  let isCapital := letter != letter.toLower
  let digits := match x.ratio? with
    | none => (if isCapital then "NAN" else "nan").toList
    | some (_, 0) => (if isCapital then "INF" else "inf").toList
    | some (n, d) => fit.ratio letter.toLower letter n.natAbs d
  fit.signed (fit.sign (x.isNegative && x.ratio?.isSome)) digits

end Fit

end ModuleResolution.Template
