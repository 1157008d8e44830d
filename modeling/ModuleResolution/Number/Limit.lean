/-! # The limit of whole numbers in writing

A whole number is read from decimal digits, and written in them, only up to a number of digits.
-/

set_option autoImplicit false

namespace ModuleResolution

/-- The most decimal digits that a whole number may have in writing. -/
def digitLimit : Nat := 4300

inductive LongNumber where
  /-- So many digits that are to be read. -/
  | read (count : Nat)
  /-- A number that is to be written. -/
  | written
  deriving DecidableEq, Repr

def LongNumber.message (long : LongNumber) : String :=
  let count := match long with
    | .read count => ": value has " ++ toString count ++ " digits"
    | .written => ""
  "Exceeds the limit (" ++ toString digitLimit ++ " digits) for integer string conversion" ++ count
    ++ "; use sys.set_int_max_str_digits() to increase the limit"

def isLongNumber (n : Int) : Bool := decide (Nat.pow 10 digitLimit ≤ n.natAbs)

end ModuleResolution
