import ModuleResolution.Console.Term.Grammar
import ModuleResolution.Console.Term.Pattern

/-! # Reading terms

A term is read from the tokens of its text. A text that holds no term has the fault that is found
first by the attempts to read one, but what is wrong with the characters of the text further on
counts more than that.
-/

set_option autoImplicit false

namespace ModuleResolution.Console.Term

open Attempt

/-- The greatest number of rules inside of one another. -/
def depthLimit : Nat := 3500

/-- What a rule reads at the place, which it does once; only so many rules may be inside of each
other from here on. -/
def Rule.read : Nat → Rule → Attempt Tree
  | 0, _ => throwThe Ending .deep
  | depth + 1, rule => do
    discard peek
    let place := (← get).place
    match (← get).results[(rule, place)]? with
    | some (found, behind) =>
      match found with
      | some tree =>
        modify ({ · with place := behind })
        return tree
      | none => failure
    | none =>
      let found ← optional? (Grammar.body (read depth) rule)
      modify fun progress =>
        { progress with results := progress.results.insert (rule, place) (found, progress.place) }
      match found with
      | some tree => return tree
      | none => failure

def whole : Attempt Tree := do
  let tree ← Grammar.expressions (Rule.read depthLimit)
  discard (many (token .lineEnd))
  token .finish
  return tree

/-- A term in parentheses inside of a text. -/
def inner : Attempt Tree := Grammar.starExpressions (Rule.read depthLimit)

def Fault.inText (fault : Fault) : Fault :=
  match fault with
  | .inside _ | .text _ | .tooDeep => fault
  | _ => .inside fault

/-- The bracket that is open at the stop, if it is on a line in front of the last one of so many
tokens. -/
def Tokens.openBracket? (tokens : Tokens) (seen : Nat) : Option Char := do
  let (bracket, line) ← tokens.opened
  let last ← tokens.row[seen - 1]?
  guard (line < last.line)
  return bracket

/-- The fault of tokens of which so many were looked at up to a fault. What is wrong further on
counts more; a bracket that is open at the end is only found if the text goes on. -/
def Tokens.faultWith (tokens : Tokens) (fault : Fault) (seen : Nat) (goesOn : Bool) : Fault :=
  match tokens.stop with
  | .text fault => .text fault
  | .lines _ =>
    let bracket? := if goesOn then tokens.openBracket? seen else none
    (bracket?.map Fault.unclosed).getD fault

def Tokens.fault (tokens : Tokens) : Ending → Fault
  | .deep => .tooDeep
  | .stopped => tokens.stop.fault
  | .told fault seen =>
    tokens.faultWith fault seen !(tokens.isCutOff && seen = tokens.row.size)

/-- The term that tokens stand for; `checkTexts` checks texts behind one another. -/
def Tokens.tree (tokens : Tokens) (checkTexts : List (TextForm × List Char) → Except Fault Unit)
    (attempt : Attempt Tree) : Except Fault Tree :=
  match attempt ⟨tokens.row, false, checkTexts⟩ {} with
  | .error ending => .error (tokens.fault ending)
  | .ok (some tree, _) => .ok tree
  | .ok (none, progress) =>
    match attempt ⟨tokens.row, true, checkTexts⟩ { seen := progress.seen } with
    | .error ending => .error (tokens.fault ending)
    | .ok (_, after) =>
      if (tokens.row[progress.seen - 1]?).any (·.kind = .indent) then .error .unexpectedIndent
      else .error (tokens.faultWith .malformed after.seen true)

/-- Checks a text with its form; `inner` checks a term inside of it. -/
def TextForm.check (form : TextForm) (isMixed : Bool) (inner : List Char → Except Fault Unit)
    (content : List Char) : Except Fault Unit := do
  if form.isOctets then Escape.checkOctets form.isRaw content
  else if !form.isRaw && !form.isPattern then Escape.check content
  if isMixed then .error .mixedTexts
  if form.isPattern then Pattern.check form.isRaw inner content

/-- Checks texts behind one another, in front of which there may be a text of some form; `inner`
checks a term inside of them. -/
def checkTexts (inner : List Char → Except Fault Unit) :
    Option TextForm → List (TextForm × List Char) → Except Fault Unit
  | _, [] => .ok ()
  | before, (form, content) :: rest => do
    form.check (before.any (·.isOctets != form.isOctets)) inner content
    checkTexts inner (some form) rest

/-- Checks a term in parentheses inside of a text, which can have texts with terms inside it up to
some depth. -/
def checkInner : Nat → List Char → Except Fault Unit
  | 0, _ => .error .tooDeep
  | depth + 1, text =>
    match (Tokens.ofText text).tree (checkTexts (checkInner depth) none) inner with
    | .ok _ => .ok ()
    | .error fault => .error fault.inText

def read (text : List Char) : Except Fault Tree :=
  (Tokens.ofText text).tree (checkTexts (checkInner text.length) none) whole

end ModuleResolution.Console.Term
