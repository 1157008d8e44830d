import ModuleResolution.Yaml.TagText

/-! # Directives

A line that starts with a percent sign says something about the document behind it: the version of
YAML that it is written in, or what a handle of tags stands for. What is not known is skipped.
-/

set_option autoImplicit false

namespace ModuleResolution.Yaml

inductive Directive where
  /-- The document is written in a version, of which only the first number counts. -/
  | version (major : Nat)
  | tagHandle (handle start : List Char)
  | other
  deriving DecidableEq, Repr

namespace Directive

def isVersion : Directive → Bool
  | .version _ => true
  | _ => false

def handle? : Directive → Option (List Char)
  | .tagHandle handle _ => some handle
  | _ => none

def number (cursor : Cursor) : Scanning (Nat × Cursor) :=
  let digits := cursor.span Char.isDigit
  let after := cursor.skip digits.length
  if digits.isEmpty then cursor.refuse
  else if digitLimit < digits.length then
    after.halt (.valueless (.longInteger (.read digits.length)))
  else .ok (Literal.digitsValue digits, after)

/-- A version at a place: two numbers with a point between them. -/
def versionAt (cursor : Cursor) : Scanning (Directive × Cursor) := do
  let (major, cursor) ← number cursor
  if cursor.rest.head? = some '.' then do
    let (_, cursor) ← number cursor.next
    if TagText.endsWord cursor.rest then return (.version major, cursor) else cursor.refuse
  else cursor.refuse

/-- A handle at a place and what it stands for. -/
def tagHandleAt (cursor : Cursor) : Scanning (Directive × Cursor) := do
  let (handle, cursor) ← TagText.handleAt cursor
  if cursor.rest.head? = some ' ' then do
    let (start, cursor) ← TagText.nameAt (cursor.skipWhile (· == ' '))
    if TagText.endsWord cursor.rest then return (.tagHandle handle start, cursor)
    else cursor.refuse
  else cursor.refuse

def scan (cursor : Cursor) : Scanning (Directive × Cursor) := do
  let word := cursor.next.span TagText.isWordChar
  let after := cursor.skip (word.length + 1)
  if word.isEmpty || !TagText.endsWord after.rest then after.refuse
  else
    let (directive, after) ← match String.ofList word with
      | "YAML" => versionAt (after.skipWhile (· == ' '))
      | "TAG" => tagHandleAt (after.skipWhile (· == ' '))
      | _ => pure (.other, after.skipWhile fun c => !isBreak c)
    return (directive, ← after.endLine)

end Directive

end ModuleResolution.Yaml
