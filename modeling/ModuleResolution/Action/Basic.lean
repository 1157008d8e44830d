import ModuleResolution.Lookup.Basic

/-! # Actions

An action may ask a disk like a lookup, change it, and ask for the time. It is a tree that branches
on the answers. Carried out at a place it has a value and leaves a place with the changed disk;
for an action followed by another the second is carried out at the place that the first leaves
(`run_bind`). Elsewhere an action can be carried out on a real disk.

A lookup becomes an action in which each note is handed on where it is taken.
-/

set_option autoImplicit false

namespace ModuleResolution

inductive Action (α : Type) where
  | done (value : α)
  | kind (path : String) (next : Option Kind → Action α)
  | text (path : String) (next : Except ReadFailure String → Action α)
  | shape (path : String) (next : Folder Unit → Action α)
  | makeFolders (path : String) (next : Except DiskFailure Unit → Action α)
  | write (path content : String) (next : Except DiskFailure Unit → Action α)
  | append (path content : String) (next : Except DiskFailure Unit → Action α)
  | time (next : String → Action α)

namespace Place

/-- The outcome of a change, with the place it leaves. -/
def changed (place : Place) : Except DiskFailure Disk → Except DiskFailure Unit × Place
  | .ok disk => (.ok (), { place with disk })
  | .error failure => (.error failure, place)

/-- Makes a folder and the folders above it that are missing. -/
def makeFolders (place : Place) (path : String) : Except DiskFailure Unit × Place :=
  place.changed (place.disk.makeFolders place.cwd path)

def write (place : Place) (path content : String) : Except DiskFailure Unit × Place :=
  place.changed (place.disk.write place.cwd path (Utf8.encode content))

def append (place : Place) (path content : String) : Except DiskFailure Unit × Place :=
  place.changed (place.disk.append place.cwd path (Utf8.encode content))

end Place

namespace Action

variable {α β : Type}

def bind : Action α → (α → Action β) → Action β
  | .done value, f => f value
  | .kind path next, f => .kind path fun answer => (next answer).bind f
  | .text path next, f => .text path fun answer => (next answer).bind f
  | .shape path next, f => .shape path fun answer => (next answer).bind f
  | .makeFolders path next, f => .makeFolders path fun answer => (next answer).bind f
  | .write path content next, f => .write path content fun answer => (next answer).bind f
  | .append path content next, f => .append path content fun answer => (next answer).bind f
  | .time next, f => .time fun answer => (next answer).bind f

instance : Monad Action where
  pure := .done
  bind := bind

/-- The value of an action that is carried out at a place at some time, and the place it leaves. -/
def run (moment : String) (place : Place) : Action α → α × Place
  | .done value => (value, place)
  | .kind path next => (next (place.kind? path)).run moment place
  | .text path next => (next (place.readText path)).run moment place
  | .shape path next => (next (place.shapeAt path)).run moment place
  | .makeFolders path next =>
    (next (place.makeFolders path).1).run moment (place.makeFolders path).2
  | .write path content next =>
    (next (place.write path content).1).run moment (place.write path content).2
  | .append path content next =>
    (next (place.append path content).1).run moment (place.append path content).2
  | .time next => (next moment).run moment place

@[simp] theorem pure_eq (value : α) : (pure value : Action α) = .done value := rfl

@[simp] theorem bind_eq (x : Action α) (f : α → Action β) : x >>= f = x.bind f := rfl

@[simp] theorem run_bind (moment : String) (x : Action α) (f : α → Action β) (place : Place) :
    (x.bind f).run moment place =
      (f (x.run moment place).1).run moment (x.run moment place).2 := by
  induction x generalizing place with
  | done value => rfl
  | kind path next ih => exact ih _ _
  | text path next ih => exact ih _ _
  | shape path next ih => exact ih _ _
  | makeFolders path next ih => exact ih _ _
  | write path content next ih => exact ih _ _
  | append path content next ih => exact ih _ _
  | time next ih => exact ih _ _

end Action

namespace Lookup

/-- A lookup as an action that hands each note on. -/
def toAction {α : Type} (report : Note → Action Unit) : Lookup α → Action α
  | .done value => .done value
  | .note line rest => (report line).bind fun _ => rest.toAction report
  | .kind path next => .kind path fun answer => (next answer).toAction report
  | .text path next => .text path fun answer => (next answer).toAction report
  | .shape path next => .shape path fun answer => (next answer).toAction report

end Lookup

end ModuleResolution
