import ModuleResolution.Text.Hex
import ModuleResolution.Text.Utf8
import ModuleResolution.Yaml.Cursor
import ModuleResolution.Yaml.Failure

/-! # Tags in a YAML text

A tag is written behind an exclamation mark: as a handle and the rest of a name, as a whole name in
angle brackets, or as nothing more, which marks a node as none in particular. A handle is one
exclamation mark, or a word between two. In a name a percent sign stands before the digits of an
octet of the encoded name.
-/

set_option autoImplicit false

namespace ModuleResolution.Yaml

structure TagText where
  /-- What stands for the start of the name, if the name is not whole. -/
  handle : Option (List Char)
  rest : List Char
  deriving DecidableEq, Repr

namespace TagText

/-- The character may stand in the word of a handle, or in the name of an anchor. -/
def isWordChar (c : Char) : Bool := c.isAlphanum || c == '-' || c == '_'

def isNameChar (c : Char) : Bool := c.isAlphanum || "-;/?:@&=+$,_.!~*'()[]%".toList.contains c

def endsWord : List Char → Bool
  | [] => true
  | c :: _ => c == ' ' || isBreak c

/-- The octets that percent signs and digits write at the start of a text. -/
def octets : List Char → Option (List UInt8)
  | '%' :: a :: b :: rest => do
    let n ← Hex.read? [a, b]
    return UInt8.ofNat n :: (← octets rest)
  | '%' :: _ => none
  | _ => some []

/-- The characters of a name, of which the escaped ones are decoded. -/
def unescape : Nat → List Char → Option (List Char)
  | 0, _ => none
  | steps + 1, cs =>
    match cs with
    | [] => some []
    | '%' :: _ => do
      let codes ← octets cs
      let text ← (Utf8.decode codes).toOption
      return text.toList ++ (← unescape steps (cs.drop (3 * codes.length)))
    | c :: rest => return c :: (← unescape steps rest)

def nameAt (cursor : Cursor) : Scanning (List Char × Cursor) :=
  let written := cursor.span isNameChar
  match unescape (written.length + 1) written with
  | some name => if name.isEmpty then cursor.refuse else .ok (name, cursor.skip written.length)
  | none => cursor.refuse

def handleAt (cursor : Cursor) : Scanning (List Char × Cursor) :=
  match cursor.rest with
  | '!' :: ' ' :: _ => .ok (['!'], cursor.next)
  | '!' :: rest =>
    let word := rest.takeWhile isWordChar
    if (rest.drop word.length).head? = some '!' then
      .ok ('!' :: word ++ ['!'], cursor.skip (word.length + 2))
    else cursor.refuse
  | _ => cursor.refuse

def scan (cursor : Cursor) : Scanning (TagText × Cursor) := do
  let after := cursor.next
  let (tag, after) ←
    if after.rest.head? = some '<' then do
      let (whole, after) ← nameAt after.next
      if after.rest.head? = some '>' then pure (⟨none, whole⟩, after.next)
      else after.refuse
    else if atSpace after.rest then pure (⟨none, ['!']⟩, after)
    else if (after.span fun c => c != ' ' && !isBreak c).contains '!' then do
      let (handle, after) ← handleAt cursor
      let (rest, after) ← nameAt after
      pure (⟨some handle, rest⟩, after)
    else do
      let (rest, after) ← nameAt after
      pure (⟨some ['!'], rest⟩, after)
  if endsWord after.rest then return (tag, after) else after.refuse

end TagText

end ModuleResolution.Yaml
