import ModuleResolution.Options.Layout

/-! # Builtins

The specifiers that the host supplies itself; they never lead to the disk. A registry keeps each
name once.
-/

set_option autoImplicit false

namespace ModuleResolution

def sortTexts (texts : List String) : List String := texts.mergeSort fun a b => decide (a ≤ b)

/-- The names of builtins, each once. -/
structure Builtins where
  names : List String
  deriving DecidableEq, Repr

namespace Builtins

def ofList (names : List String) : Builtins := ⟨names.eraseDups⟩

def standard : Builtins := ofList Layout.builtins

def contains (builtins : Builtins) (specifier : String) : Bool :=
  builtins.names.contains specifier

def size (builtins : Builtins) : Nat := builtins.names.length

def sorted (builtins : Builtins) : List String := sortTexts builtins.names

/-- The names that are no default ones, by code point. -/
def extras (builtins : Builtins) : List String :=
  sortTexts (builtins.names.filter fun name => !Layout.builtins.contains name)

def describe (builtins : Builtins) : String :=
  "BuiltinRegistry(" ++ toString builtins.size ++ " modules)"

end Builtins

end ModuleResolution
