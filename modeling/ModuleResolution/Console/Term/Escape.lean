import ModuleResolution.Console.Term.Fault

/-! # Escapes in quoted texts

A backslash in a quoted text starts an escape. Characters may be given by their number, in as many
hexadecimal digits as the letter of the escape asks for, or by their name. An escape that cannot be
read has its place in the text where each character beyond ASCII is written as an escape itself.
-/

set_option autoImplicit false

namespace ModuleResolution.Console.Term.Escape

/-- A character beyond ASCII as an escape. -/
def ofChar (c : Char) : List Char :=
  if c.toNat < 128 then [c] else '\\' :: 'U' :: Hex.padded 'a' 8 c.toNat

/-- The escape of a backslash that starts no escape. -/
def ofBackslash : List Char := "\\u005c".toList

def inAscii : List Char → List Char
  | [] => []
  | ['\\'] => ofBackslash
  | '\\' :: c :: rest =>
    if c.toNat < 128 then '\\' :: c :: inAscii rest else ofBackslash ++ ofChar c ++ inAscii rest
  | c :: rest => ofChar c ++ inAscii rest

/-- The number of hexadecimal digits behind the letter of an escape, and what is wrong if there are
less. -/
def digits? : Char → Option (Nat × String)
  | 'x' => some (2, "truncated \\xXX escape")
  | 'u' => some (4, "truncated \\uXXXX escape")
  | 'U' => some (8, "truncated \\UXXXXXXXX escape")
  | _ => none

/-- The character may stand in the name of a character. -/
def isNamePart (c : Char) : Bool := c.isAlphanum || c == ' ' || c == '-'

/-- The length of the escape by name behind a letter, or what is wrong up to which length. -/
def readName (rest : List Char) : Except (Nat × String) Nat :=
  match rest with
  | '\x7b' :: rest =>
    let name := rest.takeWhile (· != '\x7d')
    if name.length = rest.length then .error (3 + name.length, "malformed \\N character escape")
    else if name.isEmpty then .error (3, "malformed \\N character escape")
    else if name.length < 2 || !name.all isNamePart then
      .error (4 + name.length, "unknown Unicode character name")
    else .ok (4 + name.length)
  | _ => .error (2, "malformed \\N character escape")

/-- The length of the escape that starts with a letter, or what is wrong up to which length. -/
def read (letter : Char) (rest : List Char) : Except (Nat × String) Nat :=
  match digits? letter with
  | some (count, what) =>
    let digits := (rest.take count).takeWhile fun c => (Hex.value? c).isSome
    if digits.length < count then .error (2 + digits.length, what)
    else if (Hex.read? digits).any (0x10FFFF < ·) then
      .error (2 + count, "illegal Unicode character")
    else .ok (2 + count)
  | none => if letter = 'N' then readName rest else .ok 2

/-- Checks the escapes of a text in ASCII from a place on, in at most so many steps. -/
def checkFrom : Nat → Nat → List Char → Except Fault Unit
  | steps + 1, place, '\\' :: letter :: rest =>
    match read letter rest with
    | .error (length, what) => .error (.badEscape place (place + length - 1) what)
    | .ok length => checkFrom steps (place + length) (rest.drop (length - 2))
  | steps + 1, place, _ :: rest => checkFrom steps (place + 1) rest
  | _, _, _ => .ok ()

def check (content : List Char) : Except Fault Unit :=
  if content.contains '\\' then
    let chars := inAscii content
    checkFrom chars.length 0 chars
  else .ok ()

/-- Checks the escapes of quoted octets from a place on. -/
def checkOctetsFrom : Nat → List Char → Except Fault Unit
  | place, '\\' :: 'x' :: a :: b :: rest =>
    if (Hex.value? a).isSome && (Hex.value? b).isSome then checkOctetsFrom (place + 4) rest
    else .error (.badOctetEscape place)
  | place, '\\' :: 'x' :: _ => .error (.badOctetEscape place)
  | place, '\\' :: _ :: rest => checkOctetsFrom (place + 2) rest
  | place, _ :: rest => checkOctetsFrom (place + 1) rest
  | _, [] => .ok ()

def checkOctets (isRaw : Bool) (content : List Char) : Except Fault Unit :=
  if content.any fun c => decide (128 ≤ c.toNat) then .error .beyondOctets
  else if isRaw then .ok ()
  else checkOctetsFrom 0 content

end ModuleResolution.Console.Term.Escape
