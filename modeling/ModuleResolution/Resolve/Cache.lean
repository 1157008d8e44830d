/-! # Caches

A cache remembers the path of each key. A key is written once: storing under a key that is there
keeps the path it has and gives that path back.
-/

set_option autoImplicit false

namespace ModuleResolution

structure Cache (κ : Type) where
  entries : List (κ × String)

namespace Cache

variable {κ : Type} [DecidableEq κ]

def empty : Cache κ := ⟨[]⟩

def get? (cache : Cache κ) (key : κ) : Option String := cache.entries.lookup key

def contains (cache : Cache κ) (key : κ) : Bool := (cache.get? key).isSome

/-- Stores a path under a key unless one is there. -/
def insert (cache : Cache κ) (key : κ) (path : String) : Cache κ :=
  if cache.contains key then cache else ⟨cache.entries ++ [(key, path)]⟩

/-- Stores a path under a key unless one is there; gives the path that is there then. -/
def store (cache : Cache κ) (key : κ) (path : String) : String × Cache κ :=
  ((cache.get? key).getD path, cache.insert key path)

def size (cache : Cache κ) : Nat := cache.entries.length

def describe (cache : Cache κ) : String :=
  "ResolutionCache(" ++ toString cache.size ++ " entries)"

@[simp] theorem get?_empty (key : κ) : (empty : Cache κ).get? key = none := rfl

theorem get?_insert_self (cache : Cache κ) (key : κ) (path : String) :
    (cache.insert key path).get? key = some ((cache.get? key).getD path) := by
  unfold insert contains
  cases h : cache.get? key with
  | some old => simp [h]
  | none =>
    have hl : cache.entries.lookup key = none := h
    simp [get?, List.lookup_append, hl]

theorem get?_insert_of_ne {key other : κ} (h : other ≠ key) (cache : Cache κ) (path : String) :
    (cache.insert key path).get? other = cache.get? other := by
  unfold insert
  split
  · rfl
  · have hb : (other == key) = false := by simp [h]
    simp [get?, List.lookup_append, List.lookup_cons, hb]

end Cache

end ModuleResolution
