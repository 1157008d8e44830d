import ModuleResolution.Text.Lines
import ModuleResolution.Text.Portions
import ModuleResolution.Yaml.Failure

/-! # Sources of YAML

A text is read portion by portion, the first two at once. A portion that holds a character that may
not stand in YAML, or octets that are no text, is a barrier: the text in front of it is still read,
and what is wrong with the portion counts only when its first character is needed.
-/

set_option autoImplicit false

namespace ModuleResolution.Yaml

/-- From where on a text cannot be read, and why. -/
structure Barrier where
  index : Nat
  failure : Failure
  deriving DecidableEq, Repr

structure Source where
  text : List Char
  barrier : Option Barrier

def Barrier.ofPortion (portion : Nat) (failure : Failure) : Barrier :=
  ⟨if portion ≤ 1 then 0 else Utf8.portionSize * portion, failure⟩

namespace Source

def wrongCharacter? (text : List Char) : Option Barrier :=
  (text.findIdx? (!isAllowed ·)).map fun index =>
    .ofPortion (index / Utf8.portionSize) .malformed

def ofText (text : String) : Source := ⟨text.toList, wrongCharacter? text.toList⟩

def ofOctets (failure : Utf8.Failure) (octets : List UInt8) : Source :=
  let chars := failure.before octets
  let (portion, shown) := failure.inPortions chars
  let undecodable : Barrier := .ofPortion portion (.undecodable shown)
  let text := (Lines.unify (String.ofList chars)).toList
  match wrongCharacter? text with
  | some wrong => ⟨text, if wrong.index < undecodable.index then wrong else undecodable⟩
  | none => ⟨text, undecodable⟩

end Source

/-- What is scanned up to an index, as far as there is no barrier before it. -/
def Barrier.admit {α : Type} (barrier : Option Barrier) (index : α → Nat) :
    Scanning α → Reading α
  | .ok result =>
    match barrier with
    | some barrier => if barrier.index ≤ index result then .error barrier.failure else .ok result
    | none => .ok result
  | .error halt =>
    match barrier with
    | some barrier =>
      .error (if barrier.index ≤ halt.index then barrier.failure else halt.failure)
    | none => .error halt.failure

end ModuleResolution.Yaml
