import ModuleResolution.Number.Binary64

/-! # The shortest decimal of a number

The reals that are read as one number form an interval around it, from half way to the number
below to half way to the one above; the ends belong to it when the mantissa is even. Of the decimals
in the interval those with the fewest digits are looked for, and of two such the nearer one is
taken, an even one if both are equally near. Only the two neighbours of the number on the grid of
decimals with a certain place count need be looked at: if any decimal of the grid is in the
interval, then one of these is.
-/

set_option autoImplicit false

namespace ModuleResolution

/-- The decimal `digits * 10 ^ exponent`. -/
structure Decimal where
  digits : Nat
  exponent : Int
  deriving DecidableEq, Repr

namespace Decimal

/-- How `a * 10 ^ i` compares with `n * 2 ^ j`. -/
def compareScaled (a : Nat) (i : Int) (n : Nat) (j : Int) : Ordering :=
  compare (a * Nat.pow 10 i.toNat * Nat.pow 2 (-j).toNat)
    (n * Nat.pow 2 j.toNat * Nat.pow 10 (-i).toNat)

/-- The decimal is read as the number `m * 2 ^ q`; below a power of two the numbers lie twice as
close, except at the bottom. -/
def readsAs (d : Decimal) (m : Nat) (q : Int) : Bool :=
  let isNarrow := m == Binary64.leastNormal && decide (-1074 < q)
  let least := if isNarrow then 4 * m - 1 else 4 * m - 2
  let fromLeast := compareScaled d.digits d.exponent least (q - 2)
  let toGreatest := compareScaled d.digits d.exponent (4 * m + 2) (q - 2)
  let hasEnds := m % 2 == 0
  (fromLeast == .gt || (hasEnds && fromLeast == .eq))
    && (toGreatest == .lt || (hasEnds && toGreatest == .eq))

/-- The least power of ten that is greater than a ratio of two numbers other than zero. -/
def scale (num den : Nat) : Int :=
  let size (n : Nat) : Int := (Nat.toDigits 10 n).length
  let guess := size num - size den
  if num * Nat.pow 10 (-guess).toNat < den * Nat.pow 10 guess.toNat then guess else guess + 1

/-- The neighbour of a ratio on the grid of the multiples of `10 ^ exponent`, among the one below
and the one above, that passes a test; the nearer one if both do. -/
def onGrid? (test : Decimal → Bool) (num den : Nat) (exponent : Int) : Option Decimal :=
  let n := num * Nat.pow 10 (-exponent).toNat
  let d := den * Nat.pow 10 exponent.toNat
  let below : Decimal := ⟨n / d, exponent⟩
  let above : Decimal := ⟨n / d + 1, exponent⟩
  match test below, test above with
  | true, true =>
    match compare (2 * n) ((2 * below.digits + 1) * d) with
    | .lt => some below
    | .gt => some above
    | .eq => some (if below.digits % 2 = 0 then below else above)
  | true, false => some below
  | false, true => some above
  | false, false => none

/-- A decimal without trailing zeros in its digits, as far as so many go. -/
def trim : Nat → Decimal → Decimal
  | 0, d => d
  | steps + 1, d =>
    if d.digits != 0 && d.digits % 10 == 0 then trim steps ⟨d.digits / 10, d.exponent + 1⟩ else d

/-- The decimal with the fewest digits that is read as the number `m * 2 ^ q`, which is not zero. -/
def shortest (m : Nat) (q : Int) : Decimal :=
  let num := m * Nat.pow 2 q.toNat
  let den := Nat.pow 2 (-q).toNat
  let top := scale num den
  let found := (List.range 17).findSome? fun (places : Nat) =>
    onGrid? (readsAs · m q) num den (top - (places + 1))
  trim 20 (found.getD ⟨num * Nat.pow 5 (-q).toNat, min q 0⟩)

end Decimal

/-- How the numbers without a value and the power of ten of a short decimal are written. -/
structure RealForm where
  infinity : String
  undefined : String
  /-- One digit before a power of ten has a point and a zero behind it. -/
  pointsPower : Bool

namespace RealForm

/-- A number without its sign is written by the fewest digits that are read as it: with a point
somewhere if its first digit stands for `10 ^ -4` to `10 ^ 15`, else with a power of ten of at
least two digits. -/
def writeDecimal (form : RealForm) (d : Decimal) : String :=
  let digits := Nat.toDigits 10 d.digits
  let count : Int := digits.length
  let first := d.exponent + count - 1
  let zeros (n : Int) : List Char := List.replicate n.toNat '0'
  String.ofList <|
    if -4 ≤ first && first < 16 then
      if 0 ≤ d.exponent then digits ++ zeros d.exponent ++ ".0".toList
      else if 0 ≤ first then
        digits.take (first + 1).toNat ++ '.' :: digits.drop (first + 1).toNat
      else '0' :: '.' :: zeros (-first - 1) ++ digits
    else
      let power := Nat.toDigits 10 first.natAbs
      let tail := digits.drop 1
      digits.take 1
        ++ (if tail.isEmpty then (if form.pointsPower then ".0".toList else []) else '.' :: tail)
        ++ 'e' :: (if first < 0 then '-' else '+') :: zeros (2 - power.length) ++ power

def write (form : RealForm) (x : Binary64) : String :=
  let sign := if x.isNegative then "-" else ""
  match x.size with
  | .undefined => form.undefined
  | .infinite => sign ++ form.infinity
  | .finite 0 _ => sign ++ "0.0"
  | .finite m q => sign ++ form.writeDecimal (.shortest m q)

end RealForm

end ModuleResolution
