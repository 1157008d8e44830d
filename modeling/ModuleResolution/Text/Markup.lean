/-! # Markup

A text with tags in brackets, such as `[red]` and `[/red]`. A tag opens with a bracket and a small
letter, `#`, `/` or `@`, holds no other opening bracket, and ends at the first closing one.
Backslashes before a tag count in pairs, each pair one backslash of the text; one left over makes
the tag a plain text. Elsewhere a backslash stands for itself, except before an opening bracket.

`pieces` splits a text into its tags and the plain stretches between them, and `escape` writes a
text so that it shows as it is. A text that ends in a single backslash is escaped to end in two, and
both are shown when no tag follows.
-/

set_option autoImplicit false

namespace ModuleResolution.Markup

/-- A stretch of a marked-up text. -/
inductive Piece where
  | plain (chars : List Char)
  /-- A tag with the number of backslashes before it. -/
  | tag (backslashes : Nat) (content : List Char)
  deriving DecidableEq, Repr

/-- The character can be the first one of a tag. -/
def startsTag (c : Char) : Bool :=
  ('a' ≤ c && c ≤ 'z') || c == '#' || c == '/' || c == '@'

/-- The content of the tag that a text starts with, and the text after the tag. -/
def tag? (s : List Char) : Option (List Char × List Char) :=
  match s with
  | '[' :: first :: rest =>
    if startsTag first then
      let body := rest.takeWhile fun c => c != '[' && c != ']'
      match rest.drop body.length with
      | ']' :: after => some (first :: body, after)
      | _ => none
    else none
  | _ => none

/-- The plain stretch that some characters make, last one first; none of no characters. -/
def flush (chars : List Char) : List Piece :=
  if chars.isEmpty then [] else [.plain chars.reverse]

/-- The stretches of a text in at most so many steps, after a plain start, last one first. -/
def scan : Nat → List Char → List Char → List Piece
  | 0, shown, _ => flush shown
  | steps + 1, shown, s =>
    let slashes := s.takeWhile (· == '\\')
    match s.drop slashes.length with
    | [] => flush (slashes ++ shown)
    | c :: rest =>
      match tag? (c :: rest) with
      | some (content, after) =>
        flush shown ++ .tag slashes.length content :: scan steps [] after
      | none => scan steps (c :: (slashes ++ shown)) rest

def pieces (text : String) : List Piece := scan (text.length + 1) [] text.toList

/-- A tag as it is written. -/
def bracketed (content : List Char) : List Char := '[' :: content ++ [']']

/-- A stretch written so that printing keeps it. -/
def Piece.escape : Piece → List Char
  | .plain chars => chars
  | .tag backslashes content =>
    List.replicate (2 * backslashes + 1) '\\' ++ bracketed content

def escape (text : String) : String :=
  let escaped := (pieces text).flatMap Piece.escape
  match escaped.reverse with
  | '\\' :: '\\' :: _ => String.ofList escaped
  | '\\' :: _ => String.ofList (escaped ++ ['\\'])
  | _ => String.ofList escaped

end ModuleResolution.Markup
