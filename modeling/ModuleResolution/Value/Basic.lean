import ModuleResolution.Calendar.Moment
import ModuleResolution.Number.Binary64
import ModuleResolution.Number.Limit

/-! # Structured values

The values that manifests, settings files and log records are made of. A mapping is a list of
entries in the order in which its keys came in, each key once: `insert` replaces the value of a
key that is there and appends an entry otherwise, so `get?` after `insert` gives the new value
and every other key keeps its own. Keys are scalars, since a settings file may use `true` or a
number as one; manifests only have text keys. Two keys are the same if they are equal as numbers,
where a truth value counts as zero or one, or if they are the same moment of universal time.
Whether two values are equal is decided part by part.
-/

set_option autoImplicit false

namespace ModuleResolution

/-- A value without parts. -/
inductive Scalar where
  | null
  | bool (value : Bool)
  | integer (value : Int)
  | real (value : Binary64)
  | moment (value : Moment)
  | text (value : String)
  | octets (content : List UInt8)
  deriving DecidableEq, Repr

/-- The scalar is a whole number that has too many digits to be written. -/
def Scalar.isLong : Scalar → Bool
  | .integer value => isLongNumber value
  | _ => false

/-- What a scalar counts as when it is a key. -/
inductive KeyForm where
  | whole (value : Int)
  /-- A moment of universal time, in millionths of a second. -/
  | instant (value : Int)
  | other (value : Scalar)
  deriving DecidableEq, Repr

/-- A scalar as a key: what is equal to a whole number counts as that number, and moments that tell
how far they are ahead of universal time count as moments of it. -/
def Scalar.asKey : Scalar → KeyForm
  | .bool value => .whole (if value then 1 else 0)
  | .integer value => .whole value
  | .real value =>
    match value.whole? with
    | some n => .whole n
    | none => .other (.real value)
  | .moment value => if value.isAware then .instant value.instant else .other (.moment value)
  | scalar => .other scalar

@[simp] theorem Scalar.asKey_text (value : String) :
    (Scalar.text value).asKey = .other (.text value) := rfl

@[simp] theorem Scalar.asKey_integer (value : Int) :
    (Scalar.integer value).asKey = .whole value := rfl

/-- A structured value. -/
inductive Value where
  | scalar (value : Scalar)
  | list (items : List Value)
  | set (members : List Scalar)
  | mapping (entries : List (Scalar × Value))
  deriving Repr

mutual

def Value.decideEq : (a b : Value) → Decidable (a = b)
  | .scalar a, .scalar b => decidable_of_iff (a = b) (by simp)
  | .list a, .list b =>
    match decideItems a b with
    | isTrue h => isTrue (congrArg Value.list h)
    | isFalse h => isFalse fun heq => h (Value.list.inj heq)
  | .set a, .set b => decidable_of_iff (a = b) (by simp)
  | .mapping a, .mapping b =>
    match decideEntries a b with
    | isTrue h => isTrue (congrArg Value.mapping h)
    | isFalse h => isFalse fun heq => h (Value.mapping.inj heq)
  | .scalar _, .list _ | .scalar _, .set _ | .scalar _, .mapping _ => isFalse nofun
  | .list _, .scalar _ | .list _, .set _ | .list _, .mapping _ => isFalse nofun
  | .set _, .scalar _ | .set _, .list _ | .set _, .mapping _ => isFalse nofun
  | .mapping _, .scalar _ | .mapping _, .list _ | .mapping _, .set _ => isFalse nofun

def Value.decideItems : (a b : List Value) → Decidable (a = b)
  | [], [] => isTrue rfl
  | [], _ :: _ => isFalse nofun
  | _ :: _, [] => isFalse nofun
  | a :: as, b :: bs =>
    match Value.decideEq a b, decideItems as bs with
    | isTrue h, isTrue hrest => isTrue (by rw [h, hrest])
    | isFalse h, _ => isFalse fun heq => h (List.cons.inj heq).1
    | _, isFalse h => isFalse fun heq => h (List.cons.inj heq).2

def Value.decideEntries : (a b : List (Scalar × Value)) → Decidable (a = b)
  | [], [] => isTrue rfl
  | [], _ :: _ => isFalse nofun
  | _ :: _, [] => isFalse nofun
  | (k, a) :: as, (l, b) :: bs =>
    match decEq k l, Value.decideEq a b, decideEntries as bs with
    | isTrue hkey, isTrue h, isTrue hrest => isTrue (by rw [hkey, h, hrest])
    | isFalse h, _, _ => isFalse fun heq => h (Prod.mk.inj (List.cons.inj heq).1).1
    | _, isFalse h, _ => isFalse fun heq => h (Prod.mk.inj (List.cons.inj heq).1).2
    | _, _, isFalse h => isFalse fun heq => h (List.cons.inj heq).2

end

instance : DecidableEq Value := Value.decideEq

/-- Entries of a mapping: keys with what belongs to them. -/
abbrev Entries (α : Type) := List (Scalar × α)

abbrev Mapping := Entries Value

namespace Value

/-- The value of nothing. -/
@[match_pattern] abbrev null : Value := .scalar .null

@[match_pattern] abbrev bool (value : Bool) : Value := .scalar (.bool value)

@[match_pattern] abbrev integer (value : Int) : Value := .scalar (.integer value)

@[match_pattern] abbrev text (value : String) : Value := .scalar (.text value)

/-- A value that counts as empty: nothing, `false`, zero, and what has no characters, items or
entries. -/
def isEmpty : Value → Bool
  | .scalar .null => true
  | .scalar (.bool value) => !value
  | .scalar (.integer value) => value == 0
  | .scalar (.real value) => value.isZero
  | .scalar (.moment _) => false
  | .scalar (.text value) => value.isEmpty
  | .scalar (.octets content) => content.isEmpty
  | .list items => items.isEmpty
  | .set members => members.isEmpty
  | .mapping entries => entries.isEmpty

/-- The name of the type of a value, as error texts give it. -/
def typeName : Value → String
  | .scalar .null => "NoneType"
  | .scalar (.bool _) => "bool"
  | .scalar (.integer _) => "int"
  | .scalar (.real _) => "float"
  | .scalar (.moment value) => if value.time.isSome then "datetime.datetime" else "datetime.date"
  | .scalar (.text _) => "str"
  | .scalar (.octets _) => "bytes"
  | .list _ => "list"
  | .set _ => "set"
  | .mapping _ => "dict"

mutual

/-- Every scalar in a value, also those that are keys. -/
def scalars : Value → List Scalar
  | .scalar s => [s]
  | .list items => scalarsOfItems items
  | .set members => members
  | .mapping entries => scalarsOfEntries entries

def scalarsOfItems : List Value → List Scalar
  | [] => []
  | item :: rest => scalars item ++ scalarsOfItems rest

def scalarsOfEntries : List (Scalar × Value) → List Scalar
  | [] => []
  | (key, item) :: rest => key :: scalars item ++ scalarsOfEntries rest

end

mutual

/-- The keys of every mapping in a value. -/
def keys : Value → List Scalar
  | .scalar _ => []
  | .list items => keysOfItems items
  | .set _ => []
  | .mapping entries => keysOfEntries entries

def keysOfItems : List Value → List Scalar
  | [] => []
  | item :: rest => keys item ++ keysOfItems rest

def keysOfEntries : List (Scalar × Value) → List Scalar
  | [] => []
  | (key, item) :: rest => key :: keys item ++ keysOfEntries rest

end

end Value

namespace Entries

variable {α : Type}

def get? (entries : Entries α) (key : Scalar) : Option α :=
  (entries.find? fun entry => entry.1.asKey == key.asKey).map (·.2)

def field? (entries : Entries α) (name : String) : Option α := get? entries (.text name)

/-- Sets the value of a key, in place when the key is there and at the end otherwise. -/
def insert : Entries α → Scalar → α → Entries α
  | [], key, value => [(key, value)]
  | (k, v) :: rest, key, value =>
    if k.asKey = key.asKey then (k, value) :: rest else (k, v) :: insert rest key value

/-- The mapping of a list of entries in which the last entry of a key wins. -/
def ofList (entries : Entries α) : Entries α :=
  entries.foldl (fun mapping entry => insert mapping entry.1 entry.2) []

@[simp] theorem get?_nil (key : Scalar) : get? ([] : Entries α) key = none := rfl

theorem get?_insert_self (entries : Entries α) (key : Scalar) (value : α) :
    get? (insert entries key value) key = some value := by
  induction entries with
  | nil => simp [insert, get?]
  | cons entry rest ih =>
    unfold insert
    split
    · next h => simp [get?, h]
    · next h => simpa [get?, h] using ih

theorem get?_insert_of_ne {key other : Scalar} (h : other.asKey ≠ key.asKey)
    (entries : Entries α) (value : α) :
    get? (insert entries key value) other = get? entries other := by
  induction entries with
  | nil => simp [insert, get?, Ne.symm h]
  | cons entry rest ih =>
    unfold insert
    split
    · next hk => simp [get?, hk, Ne.symm h]
    · next hk =>
      by_cases ho : entry.1.asKey = other.asKey
      · simp [get?, ho]
      · simpa [get?, ho] using ih

end Entries

end ModuleResolution
