import ModuleResolution.Text.Hex

/-! # UTF-8

Decoding refuses what the standard refuses: an octet that starts no sequence, an octet that does
not continue the sequence it stands in (the second octet has a narrower range after `E0`, `ED`,
`F0` and `F4`), and a sequence that the text ends inside of. A failure tells where the refused
sequence starts and which octets of it were in order.
-/

set_option autoImplicit false

namespace ModuleResolution.Utf8

inductive Reason where
  | invalidStart
  | invalidContinuation
  | unexpectedEnd
  deriving DecidableEq, Repr

/-- A refused sequence: its offset, its octets up to the refusal, and the reason. -/
structure Failure where
  offset : Nat
  octets : List UInt8
  reason : Reason
  deriving DecidableEq, Repr

def Reason.message : Reason → String
  | .invalidStart => "invalid start byte"
  | .invalidContinuation => "invalid continuation byte"
  | .unexpectedEnd => "unexpected end of data"

/-- The wording of a failure: one octet by its value, several by their range of offsets. -/
def Failure.message (failure : Failure) : String :=
  match failure.octets with
  | [octet] =>
    "'utf-8' codec can't decode byte 0x" ++ Hex.lower 2 octet.toNat ++ " in position "
      ++ toString failure.offset ++ ": " ++ failure.reason.message
  | octets =>
    "'utf-8' codec can't decode bytes in position " ++ toString failure.offset ++ "-"
      ++ toString (failure.offset + octets.length - 1) ++ ": " ++ failure.reason.message

/-- A sequence that is not complete yet. -/
structure Pending where
  offset : Nat
  /-- The octets so far, the last one first. -/
  octets : List UInt8
  /-- How many octets are missing, less one. -/
  owed : Nat
  /-- The least and the greatest octet that may come next. -/
  least : UInt8
  greatest : UInt8
  /-- The bits read so far. -/
  bits : Nat

/-- The sequence that an octet above `7F` starts. -/
def Pending.start? (offset : Nat) (octet : UInt8) : Option Pending :=
  let n := octet.toNat
  if n < 0xC2 then none
  else if n < 0xE0 then some ⟨offset, [octet], 0, 0x80, 0xBF, n - 0xC0⟩
  else if n = 0xE0 then some ⟨offset, [octet], 1, 0xA0, 0xBF, 0⟩
  else if n = 0xED then some ⟨offset, [octet], 1, 0x80, 0x9F, 0xD⟩
  else if n < 0xF0 then some ⟨offset, [octet], 1, 0x80, 0xBF, n - 0xE0⟩
  else if n = 0xF0 then some ⟨offset, [octet], 2, 0x90, 0xBF, 0⟩
  else if n < 0xF4 then some ⟨offset, [octet], 2, 0x80, 0xBF, n - 0xF0⟩
  else if n = 0xF4 then some ⟨offset, [octet], 2, 0x80, 0x8F, 4⟩
  else none

def Pending.failure (pending : Pending) (reason : Reason) : Failure :=
  ⟨pending.offset, pending.octets.reverse, reason⟩

def decodeFrom : Nat → Option Pending → List UInt8 → Except Failure (List Char)
  | _, none, [] => .ok []
  | _, some pending, [] => .error (pending.failure .unexpectedEnd)
  | offset, none, octet :: rest =>
    if octet < 0x80 then
      (decodeFrom (offset + 1) none rest).map (Char.ofNat octet.toNat :: ·)
    else
      match Pending.start? offset octet with
      | none => .error ⟨offset, [octet], .invalidStart⟩
      | some pending => decodeFrom (offset + 1) (some pending) rest
  | offset, some pending, octet :: rest =>
    if octet < pending.least ∨ pending.greatest < octet then
      .error (pending.failure .invalidContinuation)
    else
      let bits := 64 * pending.bits + (octet.toNat - 0x80)
      match pending.owed with
      | 0 => (decodeFrom (offset + 1) none rest).map (Char.ofNat bits :: ·)
      | owed + 1 =>
        decodeFrom (offset + 1)
          (some ⟨pending.offset, octet :: pending.octets, owed, 0x80, 0xBF, bits⟩) rest

def decode (octets : List UInt8) : Except Failure String :=
  (decodeFrom 0 none octets).map String.ofList

def encode (text : String) : List UInt8 := text.toUTF8.data.toList

end ModuleResolution.Utf8
