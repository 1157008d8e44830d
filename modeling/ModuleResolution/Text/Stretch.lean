/-! # Stretches of characters

A class of characters, given as a table of stretches, each with its first and last character. A
character is in the class if it lies in one of them.
-/

set_option autoImplicit false

namespace ModuleResolution

abbrev Stretches := List (Nat × Nat)

/-- A character is in one of the stretches. -/
def Stretches.has (stretches : Stretches) (c : Char) : Bool :=
  stretches.any fun (first, last) => decide (first ≤ c.toNat ∧ c.toNat ≤ last)

end ModuleResolution
