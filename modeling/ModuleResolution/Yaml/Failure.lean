import ModuleResolution.Text.Utf8
import ModuleResolution.Yaml.Cursor
import ModuleResolution.Yaml.Literal

/-! # Failures of reading YAML

A text that is no YAML is malformed, and so is one that holds more than one document or something
of a kind that is not known. A text that is YAML may still hold a literal without a value, and
octets that are no text may have YAML before what cannot be decoded.
-/

set_option autoImplicit false

namespace ModuleResolution.Yaml

inductive Failure where
  | malformed
  | valueless (fault : Fault)
  | undecodable (failure : Utf8.Failure)
  deriving DecidableEq, Repr

def Failure.message : Failure → String
  | .malformed => "not a YAML document"
  | .valueless fault => fault.message
  | .undecodable failure => failure.message

abbrev Reading := Except Failure

/-- Where the scanning of characters stops, and why. -/
structure Halt where
  failure : Failure
  index : Nat

abbrev Scanning := Except Halt

/-- Scanning stops here. -/
def Cursor.halt {α : Type} (cursor : Cursor) (failure : Failure) : Scanning α :=
  .error ⟨failure, cursor.index⟩

/-- Here is something that is no YAML. -/
def Cursor.refuse {α : Type} (cursor : Cursor) : Scanning α := cursor.halt .malformed

/-- The place behind the rest of a line on which only a comment may stand. -/
def Cursor.endLine (cursor : Cursor) : Scanning Cursor :=
  let cursor := cursor.skipWhile (· == ' ')
  let cursor :=
    if cursor.rest.head? == some '#' then cursor.skipWhile fun c => !isBreak c else cursor
  match cursor.lineEnd? with
  | some (_, after) => .ok after
  | none => if cursor.rest.isEmpty then .ok cursor else cursor.refuse

end ModuleResolution.Yaml
