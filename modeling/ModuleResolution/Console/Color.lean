import ModuleResolution.Number.Limit
import ModuleResolution.Text.Digit

/-! # Colors

A color is named by a word: a name of the palette, `default`, `#` with six hexadecimal digits,
`color(n)` with a number of the palette, or `rgb(r,g,b)` with three shares up to 255.
-/

set_option autoImplicit false

namespace ModuleResolution.Console.Color

/-- The names of the palette, its greys apart. -/
def palette : List String :=
  ["black red green yellow blue magenta cyan white bright_black bright_red bright_green",
    "bright_yellow bright_blue bright_magenta bright_cyan bright_white navy_blue dark_blue blue3",
    "blue1 dark_green deep_sky_blue4 dodger_blue3 dodger_blue2 green4 spring_green4 turquoise4",
    "deep_sky_blue3 dodger_blue1 green3 spring_green3 dark_cyan light_sea_green deep_sky_blue2",
    "deep_sky_blue1 spring_green2 cyan3 dark_turquoise turquoise2 green1 spring_green1",
    "medium_spring_green cyan2 cyan1 dark_red deep_pink4 purple4 purple3 blue_violet orange4",
    "medium_purple4 slate_blue3 royal_blue1 chartreuse4 dark_sea_green4 pale_turquoise4",
    "steel_blue steel_blue3 cornflower_blue chartreuse3 cadet_blue sky_blue3 steel_blue1",
    "pale_green3 sea_green3 aquamarine3 medium_turquoise chartreuse2 sea_green2 sea_green1",
    "aquamarine1 dark_slate_gray2 dark_magenta dark_violet purple light_pink4 plum4",
    "medium_purple3 slate_blue1 yellow4 wheat4 light_slate_grey light_slate_gray medium_purple",
    "light_slate_blue dark_olive_green3 dark_sea_green light_sky_blue3 sky_blue2 dark_sea_green3",
    "dark_slate_gray3 sky_blue1 chartreuse1 light_green pale_green1 dark_slate_gray1 red3",
    "medium_violet_red magenta3 dark_orange3 indian_red hot_pink3 medium_orchid3 medium_orchid",
    "medium_purple2 dark_goldenrod light_salmon3 rosy_brown medium_purple1 gold3 dark_khaki",
    "navajo_white3 light_steel_blue3 light_steel_blue yellow3 dark_sea_green2 light_cyan3",
    "light_sky_blue1 green_yellow dark_olive_green2 dark_sea_green1 pale_turquoise1 deep_pink3",
    "magenta2 hot_pink2 orchid medium_orchid1 orange3 light_pink3 pink3 plum3 violet",
    "light_goldenrod3 tan misty_rose3 thistle3 plum2 khaki3 light_goldenrod2 light_yellow3",
    "light_steel_blue1 yellow2 dark_olive_green1 honeydew2 light_cyan1 red1 deep_pink2 deep_pink1",
    "magenta1 orange_red1 indian_red1 hot_pink dark_orange salmon1 light_coral pale_violet_red1",
    "orchid2 orchid1 orange1 sandy_brown light_salmon1 light_pink1 pink1 plum1 gold1",
    "navajo_white1 misty_rose1 thistle1 yellow1 light_goldenrod1 khaki1 wheat1 cornsilk1"]

/-- The numbers of the greys of the palette, each of which is spelled in two ways. -/
def greys : List Nat :=
  [0, 3, 7, 11, 15, 19, 23, 27, 30, 35, 37, 39, 42, 46, 50, 53, 54, 58, 62, 63, 66, 69, 70,
    74, 78, 82, 84, 85, 89, 93, 100]

def isNamed (word : List Char) : Bool :=
  palette.any (fun line => (line.toList.splitOn ' ').contains word)
    || greys.any fun number =>
      word = "grey".toList ++ Nat.toDigits 10 number
        || word = "gray".toList ++ Nat.toDigits 10 number

inductive ShareFault where
  | empty
  | long (number : LongNumber)
  deriving DecidableEq, Repr

def ShareFault.message : ShareFault → String
  | .empty => "invalid literal for int() with base 10: ''"
  | .long number => number.message

inductive Fault where
  | unknown
  | share (fault : ShareFault)
  deriving DecidableEq, Repr

/-- What stands in the parentheses of a word that starts with a function's name. -/
def argument? (function word : List Char) : Option (List Char) :=
  let opening := function ++ ['(']
  if opening.isPrefixOf word && word.getLast? = some ')' then
    some ((word.drop opening.length).dropLast)
  else none

def number (digits : List Char) : Nat :=
  digits.foldl (fun n c => 10 * n + (Digit.value? c).getD 0) 0

def share (digits : List Char) : Except ShareFault Nat :=
  if digits.isEmpty then .error .empty
  else if digitLimit < digits.length then .error (.long (.read digits.length))
  else .ok (number digits)

def checkShares (shares : List (List Char)) : Except Fault Unit := do
  if shares.length != 3 then .error .unknown
  let shares ← (shares.mapM share).mapError Fault.share
  if shares.all (· ≤ 255) then .ok () else .error .unknown

def check (word : List Char) : Except Fault Unit :=
  let isHex := fun c : Char => c.isDigit || ('a' ≤ c && c ≤ 'f')
  if word = "default".toList || isNamed word then .ok ()
  else if word.head? = some '#' then
    if word.length = 7 && word.tail.all isHex then .ok () else .error .unknown
  else match argument? "color".toList word with
    | some digits =>
      if digits.all Char.isDigit && [1, 2, 3].contains digits.length && number digits ≤ 255 then
        .ok ()
      else .error .unknown
    | none => match argument? "rgb".toList word with
      | some shares =>
        if !shares.isEmpty && shares.all fun c => (Digit.value? c).isSome || c = ',' then
          checkShares (shares.splitOn ',')
        else .error .unknown
      | none => .error .unknown

end ModuleResolution.Console.Color
