import ModuleResolution.Number.Shortest

/-! # Numbers with a given number of places

A number without its sign, given as a ratio, is rounded to a number of decimal places or of digits,
a tie to the even side, and written with a point (`fixed`), with a power of ten (`scientific`), or
in the form that suits its size, without the zeros at its end (`general`). The exact value of the
number is what is rounded.
-/

set_option autoImplicit false

namespace ModuleResolution.Places

/-- A ratio rounded to the nearest whole number, a tie to the even one. -/
def roundDiv (num den : Nat) : Nat :=
  match compare (2 * (num % den)) den with
  | .lt => num / den
  | .gt => num / den + 1
  | .eq => if (num / den) % 2 = 0 then num / den else num / den + 1

/-- A ratio in units of `10 ^ exponent`, rounded. -/
def inUnits (num den : Nat) (exponent : Int) : Nat :=
  roundDiv (num * Nat.pow 10 (-exponent).toNat) (den * Nat.pow 10 exponent.toNat)

/-- Digits with zeros in front up to a length. -/
def padded (length n : Nat) : List Char :=
  let digits := Nat.toDigits 10 n
  List.replicate (length - digits.length) '0' ++ digits

/-- Digits with a point behind some of them; with nothing behind it the point is only written where
it is kept. -/
def pointed (keepsPoint : Bool) (front behind : List Char) : List Char :=
  if behind.isEmpty && !keepsPoint then front else front ++ '.' :: behind

/-- A ratio with a number of places behind the point. -/
def fixed (keepsPoint : Bool) (places num den : Nat) : List Char :=
  let digits := padded (places + 1) (inUnits num den (-places))
  let front := digits.length - places
  pointed keepsPoint (digits.take front) (digits.drop front)

/-- The first digits of a ratio as a whole number, one more than `places`, with the power of ten of
the first one. -/
def leading (places num den : Nat) : Nat × Int :=
  if num = 0 then (0, 0)
  else
    let first := Decimal.scale num den - 1
    let digits := inUnits num den (first - places)
    if digits < Nat.pow 10 (places + 1) then (digits, first) else (digits / 10, first + 1)

/-- A power of ten, of at least two digits behind its letter and sign. -/
def power (letter : Char) (exponent : Int) : List Char :=
  letter :: (if exponent < 0 then '-' else '+') :: padded 2 exponent.natAbs

/-- A ratio as a digit, a number of places behind the point, and a power of ten. -/
def scientific (keepsPoint : Bool) (letter : Char) (places num den : Nat) : List Char :=
  let (digits, exponent) := leading places num den
  let shown := padded (places + 1) digits
  pointed keepsPoint (shown.take 1) (shown.drop 1) ++ power letter exponent

/-- Digits with a point, without the zeros and then the point at their end. -/
def withoutZeros (shown : List Char) : List Char :=
  if shown.contains '.' then
    let kept := shown.reverse.dropWhile (· == '0')
    (if kept.head? = some '.' then kept.drop 1 else kept).reverse
  else shown

/-- A ratio with a number of digits, at least one: with a power of ten if the first digit stands for
less than `10 ^ -4` or for more than the digits reach. The zeros at the end are only written where
they are kept. -/
def general (keepsZeros : Bool) (letter : Char) (digits num den : Nat) : List Char :=
  let places := digits - 1
  let (shown, exponent) := leading places num den
  if -4 ≤ exponent && exponent ≤ places then
    let text := fixed keepsZeros (places - exponent).toNat num den
    if keepsZeros then text else withoutZeros text
  else
    let front := padded (places + 1) shown
    let text := pointed keepsZeros (front.take 1) (front.drop 1)
    (if keepsZeros then text else withoutZeros text) ++ power letter exponent

end ModuleResolution.Places
