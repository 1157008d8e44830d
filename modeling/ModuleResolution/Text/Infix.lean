/-! # Infixes

A text holds another one when its characters stand together somewhere in it; every text holds the
empty one.
-/

set_option autoImplicit false

namespace ModuleResolution.Infix

/-- The characters of `part` stand together somewhere in `whole`. -/
def occursIn (part : List Char) : List Char → Bool
  | [] => part.isEmpty
  | c :: rest => part.isPrefixOf (c :: rest) || occursIn part rest

/-- The text `whole` holds the text `part`. -/
def holds (whole part : String) : Bool := occursIn part.toList whole.toList

end ModuleResolution.Infix
