import ModuleResolution.Console.Cells
import ModuleResolution.Console.Emoji
import ModuleResolution.Console.Handler
import ModuleResolution.Console.Style
import ModuleResolution.Text.Markup
import ModuleResolution.Text.Quoted

/-! # Printing marked-up texts

A tag opens a style or a handler, and the parameters of one may stand behind an equals sign. A tag
that starts with a slash closes the last open one of its style, however the two describe the style,
or the last open one of all if it names none. Tags at the end of a text may be open.

`render` gives the text without its tags, with emoji for their names and without the characters that
are never printed. `print` gives the same text line by line, with spaces for its tabs.
-/

set_option autoImplicit false

namespace ModuleResolution.Console

open Markup (Piece)

/-- An open tag: the normal form of its style, and its parameters. -/
structure Opened where
  name : List Char
  parameters : Option (List Char)
  deriving DecidableEq, Repr

/-- Why a text cannot be printed; an offset is that of a closing tag. -/
inductive Failure where
  | unopened (content : String) (offset : Nat)
  | nothingOpen (offset : Nat)
  | handler (parameters : List Char) (failure : Handler.Failure)
  /-- A share of a color is no number. -/
  | share (fault : Color.ShareFault)
  deriving DecidableEq, Repr

def Failure.message : Failure → String
  | .unopened content offset =>
    "closing tag '[" ++ content ++ "]' at position " ++ toString offset
      ++ " doesn't match any open tag"
  | .nothingOpen offset =>
    "closing tag '[/]' at position " ++ toString offset ++ " has nothing to close"
  | .handler parameters failure => failure.message parameters
  | .share fault => fault.message

/-- The normal form of a style that a tag names. -/
def styleName (text : List Char) : Except Failure (List Char) :=
  (Style.normal text).mapError .share

def Opened.isHandler (tag : Opened) : Bool := tag.name.head? = some '@'

/-- Checks the parameters of a tag that is closed; only those of a handler have a form. -/
def Opened.checkClosed (tag : Opened) : Except Failure Unit :=
  match tag.parameters with
  | some parameters =>
    if tag.isHandler && !parameters.isEmpty then
      (Handler.check parameters).mapError (.handler parameters)
    else .ok ()
  | none => .ok ()

/-- Checks the style that a tag gives to what is shown; its parameters are a part of it. -/
def Opened.checkShown (tag : Opened) : Except Failure Unit :=
  match tag.parameters with
  | some parameters =>
    if tag.isHandler then .ok ()
    else discard ((Style.ofText? (tag.name ++ ' ' :: parameters)).mapError .share)
  | none => .ok ()

/-- The tag that a closing tag closes, which names a style or none; open tags are given last one
first. -/
def closed? (style : List Char) (opened : List Opened) : Option Opened :=
  opened.find? fun tag => style.isEmpty || tag.name = style

/-- The tags that are open behind a tag at an offset, last one first. -/
def openAfter (offset : Nat) (opened : List Opened) (content : List Char) :
    Except Failure (List Opened) := do
  let (name, behind) := content.span (· != '=')
  match name with
  | '/' :: name =>
    let name := trimBlanks name
    let style ← if name.isEmpty then .ok [] else styleName name
    match closed? style opened with
    | some tag =>
      tag.checkClosed
      return opened.erase tag
    | none =>
      .error (if name.isEmpty then .nothingOpen offset
        else .unopened (String.ofList content) offset)
  | _ => return ⟨← styleName name, behind.tail?⟩ :: opened

/-- A text without the backslashes before opening brackets. -/
def unescape : List Char → List Char
  | '\\' :: '[' :: rest => '[' :: unescape rest
  | c :: rest => c :: unescape rest
  | [] => []

/-- The characters that are never printed. -/
def isSilent (c : Char) : Bool := [7, 8, 11, 12, 13].contains c.toNat

/-- Characters that are shown with some tags open. -/
structure Shown where
  chars : List Char
  opened : List Opened

/-- What the pieces of a text show, from an offset on, with some tags open. A tag that opens shows
no characters. -/
def shownPieces : Nat → List Opened → List Piece → Except Failure (List Shown)
  | _, _, [] => .ok []
  | offset, opened, .plain chars :: rest =>
    (shownPieces (offset + chars.length) opened rest).map
      (⟨Emoji.replace (unescape chars), opened⟩ :: ·)
  | offset, opened, .tag backslashes content :: rest => do
    let slashes := List.replicate (backslashes / 2) '\\'
    let next := offset + backslashes + content.length + 2
    if backslashes % 2 = 1 then
      let after ← shownPieces next opened rest
      return ⟨slashes ++ Emoji.replace (Markup.bracketed content), opened⟩ :: after
    else
      let openedBehind ← openAfter (offset + 2 * (backslashes / 2)) opened content
      let after ← shownPieces next openedBehind rest
      return ⟨slashes, opened⟩ :: ⟨[], openedBehind⟩ :: after

/-- Checks the styles of what is shown. In a text that is divided, by ends of lines or by tabs, only
those of its characters count, without the ends of lines. -/
def checkStyles (parts : List Shown) : Except Failure Unit :=
  let isDivided := parts.any fun part => part.chars.any fun c => c = '\n' || c = '\t'
  parts.forM fun part => do
    if !isDivided || part.chars.any (· != '\n') then part.opened.forM Opened.checkShown

/-- What a marked-up text shows; the styles of that are not checked yet. -/
def shown (text : String) : Except Failure (List Shown) := do
  let parts ←
    if text.toList.contains '[' then shownPieces 0 [] (Markup.pieces text)
    else .ok [⟨Emoji.replace text.toList, []⟩]
  return parts.map fun part => { part with chars := part.chars.filter (!isSilent ·) }

def render (text : String) : Except Failure (List Char) := do
  let parts ← shown text
  checkStyles parts
  return parts.flatMap (·.chars)

def print (text : String) : Except Failure String :=
  (render text).map fun chars =>
    String.ofList (List.intercalate ['\n'] ((chars.splitOn '\n').map Cells.expandTabs))

/-- What stands behind the sequence that controls a terminal at the start of a text: an escape
character, an opening bracket, characters from `0` to `?`, then ones from the space to `/`, and one
from `@` to `~`. -/
def afterControl? : List Char → Option (List Char)
  | '\x1b' :: '[' :: rest =>
    let rest := rest.dropWhile fun c => decide ('0' ≤ c ∧ c ≤ '?')
    match rest.dropWhile fun c => decide (' ' ≤ c ∧ c ≤ '/') with
    | last :: after => if '@' ≤ last ∧ last ≤ '~' then some after else none
    | [] => none
  | _ => none

/-- A text without the sequences that control a terminal, in at most so many steps. -/
def withoutControls : Nat → List Char → List Char
  | 0, cs => cs
  | _ + 1, [] => []
  | steps + 1, c :: rest =>
    match afterControl? (c :: rest) with
    | some after => withoutControls steps after
    | none => c :: withoutControls steps rest

/-- A text as it is written to an output that is no terminal: without the sequences that would
control one. -/
def plain (text : String) : String :=
  String.ofList (withoutControls text.length text.toList)

end ModuleResolution.Console
