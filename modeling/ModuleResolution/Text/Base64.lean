/-! # Octets in letters

Octets are written in groups of three by four letters, each letter for six bits; signs of equality
stand where a last group is too short. Reading skips what is no letter, if it is in ASCII, and what
is behind the signs that fill up the last group.
-/

set_option autoImplicit false

namespace ModuleResolution.Base64

/-- The letters in the order of what they stand for. -/
def letters : List Char :=
  "ABCDEFGHIJKLMNOPQRSTUVWXYZabcdefghijklmnopqrstuvwxyz0123456789+/".toList

def value? (c : Char) : Option Nat := letters.findIdx? (· == c)

/-- The letter for a number below sixty-four. -/
def letter (n : Nat) : Char := (letters[n]?).getD 'A'

def encodeNumbers : List Nat → List Char
  | [] => []
  | [a] => [letter (a / 4), letter (a % 4 * 16), '=', '=']
  | [a, b] => [letter (a / 4), letter (a % 4 * 16 + b / 16), letter (b % 16 * 4), '=']
  | a :: b :: c :: rest =>
    letter (a / 4) :: letter (a % 4 * 16 + b / 16) :: letter (b % 16 * 4 + c / 64)
      :: letter (c % 64) :: encodeNumbers rest

def encode (octets : List UInt8) : List Char := encodeNumbers (octets.map UInt8.toNat)

/-- Characters in lines of seventy-six, of which there are at most so many. -/
def inLines : Nat → List Char → List (List Char)
  | _, [] => []
  | 0, _ => []
  | most + 1, cs => cs.take 76 :: inLines most (cs.drop 76)

def encodeLines (octets : List UInt8) : List (List Char) := inLines octets.length (encode octets)

/-- The octets of a group of six-bit numbers, the last one first, as numbers; none if they are too
few. -/
def ofGroup : List Nat → Option (List Nat)
  | [] => some []
  | [b, a] => some [a * 4 + b / 16]
  | [c, b, a] => some [a * 4 + b / 16, b % 16 * 16 + c / 4]
  | _ => none

/-- The octets, as numbers, that letters stand for, behind a group that is not complete and some
signs that fill it up; without such signs a group that is not complete is refused. -/
def decodeFrom : List Nat → Nat → List Char → Option (List Nat)
  | group, _, [] => if group.isEmpty then some [] else none
  | group, signs, '=' :: rest =>
    let signs := signs + 1
    if 2 ≤ group.length && 4 ≤ group.length + signs then ofGroup group
    else decodeFrom group (if 2 ≤ group.length then signs else 0) rest
  | group, signs, c :: rest =>
    match value? c, group with
    | none, _ => decodeFrom group signs rest
    | some d, [c, b, a] =>
      (decodeFrom [] 0 rest).map
        ([a * 4 + b / 16, b % 16 * 16 + c / 4, c % 4 * 64 + d] ++ ·)
    | some a, group => decodeFrom (a :: group) 0 rest

/-- The octets that letters stand for; no character beyond ASCII may stand among them. -/
def decode? (cs : List Char) : Option (List UInt8) :=
  if cs.all fun c => decide (c.toNat < 128) then (decodeFrom [] 0 cs).map (·.map Nat.toUInt8)
  else none

end ModuleResolution.Base64
