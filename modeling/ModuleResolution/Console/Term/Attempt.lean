import ModuleResolution.Console.Term.Token
import ModuleResolution.Console.Term.Tree
import Std.Data.HashMap

/-! # Attempts to read a term

A part of a term is read by attempts, one after the other: an attempt that fails stays where it was,
and the next one starts at the same place. A fault ends all of them.

What is read at a place by one of the rules is kept, as long as the row of tokens is read. A row
that holds no term is read a second time, and only then are there attempts whose sole purpose is to
tell what is wrong (`faulty`).
-/

set_option autoImplicit false

namespace ModuleResolution.Console.Term

/-- The parts of a term that are read once at a place. -/
inductive Rule where
  | expression
  | starExpression
  | disjunction
  | conjunction
  | inversion
  /-- Operations with two operands; those of a higher rank are read first. -/
  | operation (rank : Nat)
  | factor
  | awaited
  | primary
  | texts
  | arguments
  | wrongNaming
  | target
  | starlessTarget
  | targetHead
  deriving DecidableEq, Hashable, Repr

inductive Ending where
  /-- There are no more tokens where one is needed. -/
  | stopped
  /-- The tokens are at fault, of which so many were looked at. -/
  | told (fault : Fault) (seen : Nat)
  /-- Too many rules are inside of one another. -/
  | deep

structure Setting where
  row : Array Token
  /-- There are attempts that tell faults. -/
  tellsFaults : Bool
  /-- Checks the texts that stand behind one another. -/
  checkTexts : List (TextForm × List Char) → Except Fault Unit

structure Progress where
  place : Nat := 0
  /-- The number of tokens that were looked at. -/
  seen : Nat := 0
  /-- What was read at a place by a rule, if anything, and the place behind it. -/
  results : Std.HashMap (Rule × Nat) (Option Tree × Nat) := ∅

abbrev Attempt := ReaderT Setting (OptionT (StateT Progress (Except Ending)))

namespace Attempt

variable {α β : Type}

def tell (fault : Fault) : Attempt α := do
  let progress ← get
  throwThe Ending (.told fault progress.seen)

/-- What an attempt gives, or nothing and a return to a place if it fails. -/
def optionalFrom (place : Nat) (attempt : Attempt α) : Attempt (Option α) :=
  fun setting progress => do
    let (result, after) ← attempt setting progress
    match result with
    | some x => return (some (some x), after)
    | none => return (some none, { after with place })

def optional? (attempt : Attempt α) : Attempt (Option α) := do
  optionalFrom (← get).place attempt

/-- The first one of some attempts that does not fail. -/
def first : List (Attempt α) → Attempt α
  | [] => failure
  | attempt :: rest => do
    match ← optional? attempt with
    | some x => return x
    | none => first rest

/-- Whether an attempt succeeds, with a return to a place. -/
def isAheadOf (place : Nat) (attempt : Attempt α) : Attempt Bool := do
  let result ← optional? attempt
  modify ({ · with place })
  return result.isSome

/-- Whether an attempt would succeed. -/
def isAhead (attempt : Attempt α) : Attempt Bool := do isAheadOf (← get).place attempt

/-- Succeeds if an attempt would. -/
def ahead (attempt : Attempt α) : Attempt Unit := do guard (← isAhead attempt)

/-- Succeeds if an attempt would fail. -/
def notAhead (attempt : Attempt α) : Attempt Unit := do guard (!(← isAhead attempt))

/-- An attempt that is only made to tell a fault. -/
def faulty (attempt : Attempt β) : Attempt α := do
  if (← read).tellsFaults then discard attempt
  failure

/-- An attempt without those that tell faults. -/
def faultless (attempt : Attempt α) : Attempt α :=
  withReader ({ · with tellsFaults := false }) attempt

/-- As many attempts in a row as succeed, up to a number of them; what some gave is known already,
the last one first. -/
def upTo (attempt : Attempt α) : Nat → List α → Attempt (List α)
  | 0, found => return found.reverse
  | steps + 1, found => do
    match ← optional? attempt with
    | some x => upTo attempt steps (x :: found)
    | none => return found.reverse

/-- As many attempts in a row as succeed, each of which takes a token. -/
def many (attempt : Attempt α) : Attempt (List α) := do upTo attempt (← read).row.size []

/-- As many attempts in a row as succeed, but at least one. -/
def several (attempt : Attempt α) : Attempt (List α) := do
  return (← attempt) :: (← many attempt)

/-- Extends something as often as possible, up to a number of times. -/
def extendUpTo (extension : α → Attempt α) : Nat → α → Attempt α
  | 0, x => return x
  | steps + 1, x => do
    match ← optional? (extension x) with
    | some y => extendUpTo extension steps y
    | none => return x

/-- Extends something as often as possible, each time by a token or more. -/
def extend (extension : α → Attempt α) (x : α) : Attempt α := do
  extendUpTo extension (← read).row.size x

/-! ## Tokens -/

def peek : Attempt Token := do
  let progress ← get
  match (← read).row[progress.place]? with
  | some token =>
    set { progress with seen := max progress.seen (progress.place + 1) }
    return token
  | none => throwThe Ending .stopped

def take (select : TokenKind → Option α) : Attempt α := do
  let token ← peek
  match select token.kind with
  | some x =>
    modify fun progress => { progress with place := progress.place + 1 }
    return x
  | none => failure

def token (kind : TokenKind) : Attempt Unit :=
  take fun other => if other = kind then some () else none

def mark (chars : String) : Attempt Unit := token (.mark chars.toList)

/-- A word that is no name. -/
def keyword (word : String) : Attempt Unit := token (.keyword word.toList)

def name : Attempt Tree := take fun
  | .name word => some (.name word)
  | _ => none

def separated (attempt : Attempt α) : Attempt (List α) := do
  return (← attempt) :: (← many do mark ","; attempt)

/-- The number of brackets that are open behind the last token in front of the place. -/
def level : Attempt Nat := do
  let progress ← get
  return ((← read).row[progress.place - 1]?.map (·.level)).getD 0

end Attempt

end ModuleResolution.Console.Term
