import ModuleResolution.Text.Utf8

/-! # Reading in portions

A file need not be read at once. Then its octets are taken in chunks, its characters are handed out
in portions, and octets that encode no character show no sooner than in the portion whose reading
takes their chunk. A chunk has a certain size, or a greater one if the characters that the portion
still lacks would have more octets at the rate of the chunk before. Two characters that end a line
together count as one, so a carriage return at the end of a chunk is held back.
-/

set_option autoImplicit false

namespace ModuleResolution.Utf8

/-- The least number of octets in a chunk. -/
def chunkSize : Nat := 8192

/-- The number of characters in a portion. -/
def portionSize : Nat := 4096

structure Intake where
  /-- The characters that are not decoded yet. -/
  chars : List Char
  /-- Where their octets start. -/
  offset : Nat
  /-- How many octets are taken. -/
  taken : Nat
  /-- The octets and the characters of the chunk before. -/
  rate : Nat × Nat
  /-- A carriage return is held back. -/
  held : Bool
  /-- How many characters are decoded and not handed out. -/
  ready : Nat

namespace Intake

/-- The number of octets in the next chunk when a portion lacks some characters. -/
def chunkLength (intake : Intake) (lacking : Nat) : Nat :=
  max chunkSize (max lacking (intake.rate.1 * lacking / intake.rate.2))

/-- The characters whose octets end before an offset, the others, and where these start. -/
def splitBefore (stop : Nat) : Nat → List Char → List Char × List Char × Nat
  | offset, [] => ([], [], offset)
  | offset, c :: rest =>
    if offset + c.utf8Size ≤ stop then
      let (before, behind, start) := splitBefore stop (offset + c.utf8Size) rest
      (c :: before, behind, start)
    else ([], c :: rest, offset)

/-- The number of characters where two that end a line together count as one. -/
def countUnified : List Char → Nat
  | '\r' :: '\n' :: rest => countUnified rest + 1
  | _ :: rest => countUnified rest + 1
  | [] => 0

def take (intake : Intake) (length : Nat) : Intake :=
  let stop := intake.taken + length
  let (chars, rest, offset) := splitBefore stop intake.offset intake.chars
  let chars := if intake.held then '\r' :: chars else chars
  let holds := chars.getLast? = some '\r'
  let count := countUnified (if holds then chars.dropLast else chars)
  { chars := rest, offset, taken := stop, rate := (length, count), held := holds
    ready := intake.ready + count }

end Intake

/-- The offset of the octet that shows a failure. -/
def Failure.shownAt (failure : Failure) : Nat :=
  match failure.reason with
  | .invalidStart => failure.offset
  | _ => failure.offset + failure.octets.length

/-- Reads up to a failure, in at most so many steps: the number of the portion in which it shows,
and the failure with its offset in what is decoded together. -/
def Failure.showFrom (failure : Failure) : Nat → Nat → Intake → Nat × Failure
  | 0, portion, _ => (portion, failure)
  | steps + 1, portion, intake =>
    if portionSize ≤ intake.ready then
      failure.showFrom steps (portion + 1) { intake with ready := intake.ready - portionSize }
    else
      let length := intake.chunkLength (portionSize - intake.ready)
      let isInside := match failure.reason with
        | .unexpectedEnd => decide (failure.shownAt ≤ intake.taken)
        | _ => decide (failure.shownAt < intake.taken + length)
      if isInside then (portion, { failure with offset := failure.offset - intake.offset })
      else failure.showFrom steps portion (intake.take length)

/-- The portion in which a failure shows, and the failure as it shows there, given the characters
before it. -/
def Failure.inPortions (failure : Failure) (chars : List Char) : Nat × Failure :=
  failure.showFrom (failure.shownAt + 2) 0 ⟨chars, 0, 0, (1, 1), false, 0⟩

def Failure.before (failure : Failure) (octets : List UInt8) : List Char :=
  match decode (octets.take failure.offset) with
  | .ok text => text.toList
  | .error _ => []

end ModuleResolution.Utf8
