/-! # Binary numbers of 64 bits

A real number is kept as a sign and a size in 64 bits: a whole number below `2 ^ 53` times a power
of two, or a size beyond all of these, or none at all. Where such a number has an exact value, it
is the ratio of two whole numbers; a decimal is read as the nearest number, of two equally near
ones the even one.
-/

set_option autoImplicit false

namespace ModuleResolution

structure Binary64 where
  bits : UInt64
  deriving DecidableEq, Repr

namespace Binary64

/-- What a number amounts to apart from its sign. -/
inductive Size where
  /-- A whole number times a power of two. -/
  | finite (mantissa : Nat) (exponent : Int)
  | infinite
  | undefined
  deriving DecidableEq, Repr

def isNegative (x : Binary64) : Bool := x.bits >>> 63 != 0

def negate (x : Binary64) : Binary64 := ⟨x.bits ^^^ ((1 : UInt64) <<< 63)⟩

/-- A number with a sign, given the one without. -/
def withSign (negative : Bool) (x : Binary64) : Binary64 := if negative then x.negate else x

/-- The least mantissa of a number that is not close to zero, `2 ^ 52`. -/
def leastNormal : Nat := 0x10000000000000

/-- What a number amounts to apart from its sign. -/
def size (x : Binary64) : Size :=
  let power := ((x.bits >>> 52) &&& 0x7FF).toNat
  let fraction := (x.bits &&& 0xFFFFFFFFFFFFF).toNat
  if power = 0x7FF then (if fraction = 0 then .infinite else .undefined)
  else if power = 0 then .finite fraction (-1074)
  else .finite (leastNormal + fraction) (power - 1075)

def zero : Binary64 := ⟨0⟩

/-- What is beyond all numbers. -/
def infinity : Binary64 := ⟨0x7FF0000000000000⟩

/-- What is no number. -/
def undefined : Binary64 := ⟨0x7FF8000000000000⟩

/-- The number is zero, of either sign. -/
def isZero (x : Binary64) : Bool :=
  match x.size with
  | .finite 0 _ => true
  | _ => false

/-- A decimal of this many places in front of its point is beyond all numbers, and one with as many
zeros behind its point is nothing. -/
def farPlaces : Int := 400

/-- The number nearest to `digits * 10 ^ exponent`, with a sign. -/
def ofDecimal (negative : Bool) (digits : Nat) (exponent : Int) : Binary64 :=
  let places : Int := (Nat.toDigits 10 digits).length + exponent
  withSign negative <|
    if digits = 0 || places < -farPlaces then zero
    else if farPlaces < places then infinity
    else ⟨(Float.ofScientific digits (exponent < 0) exponent.natAbs).toBits⟩

/-- The number nearest to a whole number. -/
def ofInt (n : Int) : Binary64 := ofDecimal (n < 0) n.natAbs 0

def add (x y : Binary64) : Binary64 := ⟨(Float.ofBits x.bits + Float.ofBits y.bits).toBits⟩

def mul (x y : Binary64) : Binary64 := ⟨(Float.ofBits x.bits * Float.ofBits y.bits).toBits⟩

/-- The exact value of a number as a ratio; what is beyond all numbers has the denominator zero. -/
def ratio? (x : Binary64) : Option (Int × Nat) :=
  let signed (n : Nat) : Int := if x.isNegative then -(n : Int) else n
  match x.size with
  | .finite mantissa exponent =>
    some (signed (mantissa * Nat.pow 2 exponent.toNat), Nat.pow 2 (-exponent).toNat)
  | .infinite => some (signed 1, 0)
  | .undefined => none

/-- The whole number that a number is equal to. -/
def whole? (x : Binary64) : Option Int :=
  match x.ratio? with
  | some (n, d) => if d != 0 && n % (d : Int) == 0 then some (n / d) else none
  | none => none

/-- The whole part of a number. -/
def truncated? (x : Binary64) : Option Int :=
  match x.ratio? with
  | some (n, d) => if d != 0 then some (Int.tdiv n d) else none
  | none => none

end Binary64

end ModuleResolution
