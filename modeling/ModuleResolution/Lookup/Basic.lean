import ModuleResolution.Disk.Basic
import ModuleResolution.Lookup.Note

/-! # Lookups

A lookup is a computation that may put questions to a disk and take notes, and cannot change
anything. It is a tree: each question branches on its answer. Read at a place, that is a disk and
a current directory, it has an outcome, the notes it takes on the way there and the questions it
asks. The three are read off one and the same path through the tree, and for a lookup followed by
another they compose (`outcome_bind`, `notes_bind`, `questions_bind`), so a statement about
outcomes never has to speak of notes. Elsewhere a lookup can be carried out on a real disk.
-/

set_option autoImplicit false

namespace ModuleResolution

/-- A disk seen from a current directory. -/
structure Place where
  disk : Disk
  cwd : String

namespace Place

def kind? (place : Place) (path : String) : Option Kind := place.disk.kind? place.cwd path

def readText (place : Place) (path : String) : Except ReadFailure String :=
  place.disk.readText place.cwd path

/-- The shape of a folder. -/
def shapeAt (place : Place) (path : String) : Folder Unit := place.disk.shapeAt place.cwd path

end Place

inductive Question where
  | kind (path : String)
  | text (path : String)
  | shape (path : String)
  deriving DecidableEq, Repr

inductive Lookup (α : Type) where
  | done (value : α)
  | note (line : Note) (rest : Lookup α)
  | kind (path : String) (next : Option Kind → Lookup α)
  | text (path : String) (next : Except ReadFailure String → Lookup α)
  | shape (path : String) (next : Folder Unit → Lookup α)

namespace Lookup

variable {α β : Type}

def bind : Lookup α → (α → Lookup β) → Lookup β
  | .done value, f => f value
  | .note line rest, f => .note line (rest.bind f)
  | .kind path next, f => .kind path fun answer => (next answer).bind f
  | .text path next, f => .text path fun answer => (next answer).bind f
  | .shape path next, f => .shape path fun answer => (next answer).bind f

instance : Monad Lookup where
  pure := .done
  bind := bind

/-- What a lookup gives at a place. -/
def outcome (place : Place) : Lookup α → α
  | .done value => value
  | .note _ rest => rest.outcome place
  | .kind path next => (next (place.kind? path)).outcome place
  | .text path next => (next (place.readText path)).outcome place
  | .shape path next => (next (place.shapeAt path)).outcome place

def notes (place : Place) : Lookup α → List Note
  | .done _ => []
  | .note line rest => line :: rest.notes place
  | .kind path next => (next (place.kind? path)).notes place
  | .text path next => (next (place.readText path)).notes place
  | .shape path next => (next (place.shapeAt path)).notes place

def questions (place : Place) : Lookup α → List Question
  | .done _ => []
  | .note _ rest => rest.questions place
  | .kind path next => .kind path :: (next (place.kind? path)).questions place
  | .text path next => .text path :: (next (place.readText path)).questions place
  | .shape path next => .shape path :: (next (place.shapeAt path)).questions place

def write (line : Note) : Lookup Unit := .note line (.done ())

def kindOf (path : String) : Lookup (Option Kind) := .kind path .done

def textOf (path : String) : Lookup (Except ReadFailure String) := .text path .done

def shapeOf (path : String) : Lookup (Folder Unit) := .shape path .done

/-- The first path whose kind passes a test; no path after it is asked for. -/
def first (test : Option Kind → Bool) : List String → Lookup (Option String)
  | [] => .done none
  | path :: rest => .kind path fun kind => if test kind then .done (some path) else first test rest

/-- The first path that leads to a file. -/
def firstFile : List String → Lookup (Option String) := first (· == some .file)

/-- The first path that leads anywhere. -/
def firstPresent : List String → Lookup (Option String) := first Option.isSome

def orElse (search : Lookup (Option α)) (other : Unit → Lookup (Option α)) : Lookup (Option α) :=
  search.bind fun
    | some found => .done (some found)
    | none => other ()

section laws

variable (place : Place)

@[simp] theorem pure_eq (value : α) : (pure value : Lookup α) = .done value := rfl

@[simp] theorem bind_eq (x : Lookup α) (f : α → Lookup β) : x >>= f = x.bind f := rfl

@[simp] theorem outcome_done (value : α) : outcome place (.done value) = value := rfl

@[simp] theorem notes_done (value : α) : notes place (.done value) = [] := rfl

@[simp] theorem questions_done (value : α) : questions place (.done value) = [] := rfl

@[simp] theorem outcome_bind (x : Lookup α) (f : α → Lookup β) :
    (x.bind f).outcome place = (f (x.outcome place)).outcome place := by
  induction x with
  | done value => rfl
  | note line rest ih => exact ih
  | kind path next ih => exact ih _
  | text path next ih => exact ih _
  | shape path next ih => exact ih _

@[simp] theorem notes_bind (x : Lookup α) (f : α → Lookup β) :
    (x.bind f).notes place = x.notes place ++ (f (x.outcome place)).notes place := by
  induction x with
  | done value => rfl
  | note line rest ih => exact congrArg (line :: ·) ih
  | kind path next ih => exact ih _
  | text path next ih => exact ih _
  | shape path next ih => exact ih _

@[simp] theorem questions_bind (x : Lookup α) (f : α → Lookup β) :
    (x.bind f).questions place =
      x.questions place ++ (f (x.outcome place)).questions place := by
  induction x with
  | done value => rfl
  | note line rest ih => exact ih
  | kind path next ih => exact congrArg (Question.kind path :: ·) (ih _)
  | text path next ih => exact congrArg (Question.text path :: ·) (ih _)
  | shape path next ih => exact congrArg (Question.shape path :: ·) (ih _)

@[simp] theorem outcome_orElse (search : Lookup (Option α)) (other : Unit → Lookup (Option α)) :
    (search.orElse other).outcome place =
      (search.outcome place).or ((other ()).outcome place) := by
  rw [orElse, outcome_bind]
  cases search.outcome place <;> rfl

/-- The outcome of a search over paths is the search over their kinds. -/
theorem outcome_first (test : Option Kind → Bool) (paths : List String) :
    (first test paths).outcome place = paths.find? fun path => test (place.kind? path) := by
  induction paths with
  | nil => rfl
  | cons path rest ih =>
    rw [first, outcome, List.find?_cons]
    cases h : test (place.kind? path) <;> simp [ih]

/-- A search over paths takes no notes. -/
@[simp] theorem notes_first (test : Option Kind → Bool) (paths : List String) :
    (first test paths).notes place = [] := by
  induction paths with
  | nil => rfl
  | cons path rest ih =>
    rw [first, notes]
    cases h : test (place.kind? path) <;> simp [ih]

end laws

end Lookup

end ModuleResolution
