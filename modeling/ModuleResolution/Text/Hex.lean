/-! # Hexadecimal digits

Numbers written to the base sixteen with a least number of digits, and read back digit by digit.
-/

set_option autoImplicit false

namespace ModuleResolution.Hex

/-- The digits of a number, most significant first; zero has none. -/
def digits (n : Nat) : List Nat :=
  if _h : n = 0 then [] else digits (n / 16) ++ [n % 16]
termination_by n
decreasing_by omega

/-- The character of a digit below sixteen, letters from `letter` on. -/
def digitChar (letter : Char) (d : Nat) : Char :=
  if d < 10 then Char.ofNat (48 + d) else Char.ofNat (letter.toNat + (d - 10))

/-- At least `width` digits, padded with zeros in front. -/
def padded (letter : Char) (width n : Nat) : List Char :=
  let shown := (digits n).map (digitChar letter)
  List.replicate (width - shown.length) '0' ++ shown

def lower (width n : Nat) : String := String.ofList (padded 'a' width n)

def value? (c : Char) : Option Nat :=
  if '0' ≤ c ∧ c ≤ '9' then some (c.toNat - 48)
  else if 'a' ≤ c ∧ c ≤ 'f' then some (c.toNat - 87)
  else if 'A' ≤ c ∧ c ≤ 'F' then some (c.toNat - 55)
  else none

def read? (cs : List Char) : Option Nat :=
  cs.foldl (fun total c => total.bind fun n => (value? c).map (16 * n + ·)) (some 0)

end ModuleResolution.Hex
