import ModuleResolution.Json.Writer

/-! # What can be written as JSON

A value can be written when names can be made of all its keys, at any depth, and no whole number in
it has too many digits (`Json.exists_write_iff`). How it is spaced and what becomes of the
characters beyond ASCII makes no difference to that. Moments and octets are in the way as keys only.
-/

set_option autoImplicit false

namespace ModuleResolution

/-- A name can be made of the key. -/
def Scalar.isName : Scalar → Bool
  | .moment _ => false
  | .octets _ => false
  | _ => true

namespace Json

/-- Parts can be written in which these scalars stand, and these as keys. -/
def AreWritable (scalars keys : List Scalar) : Prop :=
  (∀ s ∈ scalars, s.isLong = false) ∧ ∀ key ∈ keys, key.isName = true

def IsWritable (value : Value) : Prop := AreWritable value.scalars value.keys

instance : DecidablePred IsWritable := fun _ => inferInstanceAs (Decidable (_ ∧ _))

theorem areWritable_append {scalars keys others otherKeys : List Scalar} :
    AreWritable (scalars ++ others) (keys ++ otherKeys) ↔
      AreWritable scalars keys ∧ AreWritable others otherKeys := by
  simp only [AreWritable, List.forall_mem_append]
  exact and_and_and_comm

theorem areWritable_cons {key : Scalar} {scalars keys : List Scalar} :
    AreWritable (key :: scalars) (key :: keys) ↔
      (key.isLong = false ∧ key.isName = true) ∧ AreWritable scalars keys := by
  simp only [AreWritable, List.forall_mem_cons]
  exact and_and_and_comm

/-! ## Parts -/

section Writing

variable {α β : Type} {written : Writing α}

theorem map_eq_ok_iff {f : α → β} {result : β} :
    written.map f = .ok result ↔ ∃ part, written = .ok part ∧ f part = result := by
  cases written <;> simp [Except.map]

theorem bind_eq_ok_iff {f : α → Writing β} {result : β} :
    written.bind f = .ok result ↔ ∃ part, written = .ok part ∧ f part = .ok result := by
  cases written <;> simp [Except.bind]

theorem exists_map_eq_ok {f : α → β} :
    (∃ result, written.map f = .ok result) ↔ ∃ part, written = .ok part := by
  cases written with
  | error reason => exact iff_of_false nofun nofun
  | ok part => exact iff_of_true ⟨_, rfl⟩ ⟨_, rfl⟩

/-- What comes next works or does not, whatever is written first. -/
theorem exists_bind_eq_ok {f : α → Writing β} {works : Prop}
    (h : ∀ part, (∃ result, f part = .ok result) ↔ works) :
    (∃ result, written.bind f = .ok result) ↔ (∃ part, written = .ok part) ∧ works := by
  cases written with
  | error reason => exact iff_of_false nofun nofun
  | ok part => exact (h part).trans (and_iff_right ⟨part, rfl⟩).symm

end Writing

variable {charset : Charset}

theorem exists_scalar_iff (s : Scalar) :
    (∃ text, scalar charset s = .ok text) ↔ s.isLong = false := by
  cases s with
  | bool value => cases value <;> exact iff_of_true ⟨_, rfl⟩ rfl
  | integer n =>
      cases h : isLongNumber n <;> simp [scalar, Scalar.isLong, h]
  | null | real | moment | text | octets => exact iff_of_true ⟨_, rfl⟩ rfl

theorem exists_name_iff (key : Scalar) :
    (∃ text, name charset key = .ok text) ↔ key.isLong = false ∧ key.isName = true := by
  have hother
      (hname : name charset key = (scalar charset key).map fun text => "\"" ++ text ++ "\"")
      (hkey : key.isName = true) :
      (∃ text, name charset key = .ok text) ↔ key.isLong = false ∧ key.isName = true := by
    rw [hname, exists_map_eq_ok, exists_scalar_iff, hkey]
    exact (and_iff_left rfl).symm
  cases key with
  | moment value => exact iff_of_false nofun nofun
  | octets content => exact iff_of_false nofun nofun
  | text text => exact iff_of_true ⟨_, rfl⟩ ⟨rfl, rfl⟩
  | null | bool | integer | real => exact hother rfl rfl

theorem exists_set_iff (members : List Scalar) :
    (∃ text, set charset members = .ok text) ↔ ∀ s ∈ members, s.isLong = false := by
  unfold set
  split
  · next h => simpa using h
  · next h => simpa using h

/-! ## Values -/

variable (charset) (spacing : Spacing)

mutual

/-- **What can be written**: names can be made of all keys, and no whole number is too long. -/
theorem exists_write_iff : ∀ (level : Nat) (value : Value),
    (∃ text, write charset spacing level value = .ok text) ↔ IsWritable value
  | level, .scalar s => by
    rw [write, exists_scalar_iff]
    simp [IsWritable, AreWritable, Value.scalars, Value.keys]
  | level, .set members => by
    rw [write, exists_set_iff]
    simp [IsWritable, AreWritable, Value.scalars, Value.keys]
  | level, .list items => by
    rw [write, exists_map_eq_ok, exists_writeItems_iff, IsWritable, Value.scalars, Value.keys]
  | level, .mapping entries => by
    rw [write, exists_map_eq_ok, exists_writeEntries_iff, IsWritable, Value.scalars, Value.keys]

theorem exists_writeItems_iff : ∀ (level : Nat) (items : List Value),
    (∃ texts, writeItems charset spacing level items = .ok texts) ↔
      AreWritable (Value.scalarsOfItems items) (Value.keysOfItems items)
  | level, [] => iff_of_true ⟨_, rfl⟩ ⟨nofun, nofun⟩
  | level, item :: rest => by
    rw [Value.scalarsOfItems, Value.keysOfItems, areWritable_append]
    refine (exists_bind_eq_ok fun _ => ?_).trans (and_congr_left' (exists_write_iff level item))
    exact exists_map_eq_ok.trans (exists_writeItems_iff level rest)

theorem exists_writeEntries_iff : ∀ (level : Nat) (entries : List (Scalar × Value)),
    (∃ texts, writeEntries charset spacing level entries = .ok texts) ↔
      AreWritable (Value.scalarsOfEntries entries) (Value.keysOfEntries entries)
  | level, [] => iff_of_true ⟨_, rfl⟩ ⟨nofun, nofun⟩
  | level, (key, item) :: rest => by
    rw [Value.scalarsOfEntries, Value.keysOfEntries, List.cons_append, List.cons_append,
      areWritable_cons, areWritable_append]
    -- a key counts as a key and as a scalar: that there is a name depends on both
    refine (exists_bind_eq_ok fun _ => ?_).trans (and_congr_left' (exists_name_iff key))
    refine (exists_bind_eq_ok fun _ => ?_).trans (and_congr_left' (exists_write_iff level item))
    exact exists_map_eq_ok.trans (exists_writeEntries_iff level rest)

end

theorem isWritable_list {items : List Value} (h : ∀ item ∈ items, IsWritable item) :
    IsWritable (.list items) := by
  show AreWritable (Value.scalarsOfItems items) (Value.keysOfItems items)
  induction items with
  | nil => exact ⟨nofun, nofun⟩
  | cons item rest ih =>
      obtain ⟨hitem, hrest⟩ := List.forall_mem_cons.mp h
      rw [Value.scalarsOfItems, Value.keysOfItems, areWritable_append]
      exact ⟨hitem, ih hrest⟩

end Json

end ModuleResolution
