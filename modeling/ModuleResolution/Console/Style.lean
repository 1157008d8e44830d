import ModuleResolution.Console.Color
import ModuleResolution.Text.Blank
import ModuleResolution.Text.Case

/-! # Styles

A style is described by words: features such as `bold`, which `not` turns off, a color, a color for
the background behind `on`, and a target behind `link`. Of two words for the same thing the last one
counts. Descriptions of one style have one normal form, whatever the order and the spelling of
their words; a text that describes no style is its own, in small letters.
-/

set_option autoImplicit false

namespace ModuleResolution.Console

/-- A feature of shown text, which a style turns on or off. -/
inductive Feature where
  | bold
  | dim
  | italic
  | underline
  | blink
  | fastBlink
  | reverse
  | conceal
  | strike
  | doubleUnderline
  | frame
  | encircle
  | overline
  deriving DecidableEq, Repr

namespace Feature

/-- The features in the order in which a style names them. -/
def all : List Feature :=
  [bold, dim, italic, underline, blink, fastBlink, reverse, conceal, strike, doubleUnderline, frame,
    encircle, overline]

def name : Feature → String
  | bold => "bold"
  | dim => "dim"
  | italic => "italic"
  | underline => "underline"
  | blink => "blink"
  | fastBlink => "blink2"
  | reverse => "reverse"
  | conceal => "conceal"
  | strike => "strike"
  | doubleUnderline => "underline2"
  | frame => "frame"
  | encircle => "encircle"
  | overline => "overline"

def shortName? : Feature → Option String
  | bold => some "b"
  | dim => some "d"
  | italic => some "i"
  | underline => some "u"
  | reverse => some "r"
  | conceal => some "c"
  | strike => some "s"
  | doubleUnderline => some "uu"
  | overline => some "o"
  | _ => none

def named? (word : List Char) : Option Feature :=
  all.find? fun feature =>
    word == feature.name.toList || feature.shortName?.any (word == ·.toList)

end Feature

/-- A style: what it turns on or off, the last one first, its colors and its target. -/
structure Style where
  features : List (Feature × Bool) := []
  color : Option (List Char) := none
  background : Option (List Char) := none
  target : Option (List Char) := none
  deriving DecidableEq, Repr

namespace Style

def words (text : List Char) : List (List Char) :=
  (text.splitOnP isBlank).filter (!·.isEmpty)

/-- The words of a style in order: features, colors, target. -/
def toWords (style : Style) : List (List Char) :=
  let features := Feature.all.flatMap fun feature =>
    match style.features.lookup feature with
    | some true => [feature.name.toList]
    | some false => ["not".toList, feature.name.toList]
    | none => []
  features ++ style.color.toList ++ (style.background.map ("on".toList :: [·])).getD []
    ++ (style.target.map ("link".toList :: [·])).getD []

def extend (style : Style) : List (List Char) → Except Color.Fault Style
  | [] => .ok style
  | word :: rest =>
    let small := Case.lower word
    if small = "on".toList then
      match rest with
      | [] => .error .unknown
      | word :: rest => do
        Color.check (Case.lower word)
        ({ style with background := some (Case.lower word) } : Style).extend rest
    else if small = "not".toList then
      match rest with
      | [] => .error .unknown
      | word :: rest =>
        match Feature.named? word with
        | some feature => { style with features := (feature, false) :: style.features }.extend rest
        | none => .error .unknown
    else if small = "link".toList then
      match rest with
      | [] => .error .unknown
      | word :: rest => { style with target := some word }.extend rest
    else
      match Feature.named? small with
      | some feature => { style with features := (feature, true) :: style.features }.extend rest
      | none => do
        Color.check small
        { style with color := some small }.extend rest

def ofText? (text : List Char) : Except Color.ShareFault (Option Style) :=
  match ({} : Style).extend (words text) with
  | .ok style => .ok style
  | .error .unknown => .ok none
  | .error (.share fault) => .error fault

/-- The normal form of a description; `none` is the style that changes nothing. -/
def normal (text : List Char) : Except Color.ShareFault (List Char) :=
  if trimBlanks text = "none".toList then .ok "none".toList
  else (ofText? text).map fun
    | some style =>
      match style.toWords with
      | [] => "none".toList
      | words => List.intercalate [' '] words
    | none => Case.lower (trimBlanks text)

end Style

end ModuleResolution.Console
