import ModuleResolution.Value.Basic

/-! # The order of keys

The keys of a mapping are written in order if they are of one family: texts by code point, octets by
their numbers, numbers by size, and moments by time. Keys of several families keep the order in
which they came.

A number that is undefined precedes no number and follows none, so with one of them among the keys
there is more than one order that fits. It is settled by how the keys are put in order (`arranged`):
the run of keys at the start that are in order, or else in the opposite order, is taken as it is,
and each key behind it is inserted at the place that halving the row before it finds.
-/

set_option autoImplicit false

namespace ModuleResolution.Yaml

/-- The keys that have an order among each other. -/
inductive KeyFamily where
  | nothing
  | number
  | text
  | octets
  | day
  | time
  /-- The moments of universal time. -/
  | instant
  deriving DecidableEq, Repr

def KeyFamily.ofKey : Scalar → KeyFamily
  | .null => .nothing
  | .bool _ | .integer _ | .real _ => .number
  | .text _ => .text
  | .octets _ => .octets
  | .moment moment =>
    if moment.isAware then .instant else if moment.time.isSome then .time else .day

/-- A number as a ratio, with the denominator zero for what is beyond all numbers. -/
def ratioOf? : Scalar → Option (Int × Nat)
  | .bool value => some (if value then 1 else 0, 1)
  | .integer value => some (value, 1)
  | .real value => value.ratio?
  | _ => none

/-- A key precedes another one of its family. -/
def precedes : Scalar → Scalar → Bool
  | .text a, .text b => decide (a < b)
  | .octets a, .octets b => decide (a < b)
  | .moment a, .moment b => decide (a.instant < b.instant)
  | a, b =>
    match ratioOf? a, ratioOf? b with
    | some (a, 0), some (b, 0) => decide (a < b)
    | some (a, m), some (b, n) => decide (a * n < b * m)
    | _, _ => false

/-- The run at the start of a row, behind an element, in which each element and the one before it
pass a test, and the rest of the row. -/
def splitRun {α : Type} (test : α → α → Bool) : α → List α → List α × List α
  | _, [] => ([], [])
  | last, x :: rest =>
    if test x last then
      let (run, rest) := splitRun test x rest
      (x :: run, rest)
    else ([], x :: rest)

/-- The place of an element in a part of a row, found by halving the part at most so many times. -/
def placeIn {α : Type} (isBefore : α → α → Bool) (x : α) (row : Array α) :
    Nat → Nat → Nat → Nat
  | 0, low, _ => low
  | steps + 1, low, high =>
    if low < high then
      let middle := (low + high) / 2
      match row[middle]? with
      | some y =>
        if isBefore x y then placeIn isBefore x row steps low middle
        else placeIn isBefore x row steps (middle + 1) high
      | none => low
    else low

def inserted {α : Type} (isBefore : α → α → Bool) (row : Array α) (x : α) : Array α :=
  row.insertIdxIfInBounds (placeIn isBefore x row (row.size + 1) 0 row.size) x

def arranged {α : Type} (isBefore : α → α → Bool) : List α → List α
  | first :: second :: rest =>
    if isBefore second first then
      let (run, rest) := splitRun isBefore second rest
      (rest.foldl (inserted isBefore) (first :: second :: run).reverse.toArray).toList
    else
      let (run, rest) := splitRun (fun x last => !isBefore x last) second rest
      (rest.foldl (inserted isBefore) (first :: second :: run).toArray).toList
  | row => row

/-- A row by the keys of its elements, in order if they are of one family. -/
def sortedBy {α : Type} (key : α → Scalar) (row : List α) : List α :=
  match row.map fun x => KeyFamily.ofKey (key x) with
  | family :: rest =>
    if rest.all (· == family) then arranged (fun x y => precedes (key x) (key y)) row else row
  | [] => row

end ModuleResolution.Yaml
