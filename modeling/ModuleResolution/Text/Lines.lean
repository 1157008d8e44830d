/-! # Line ends

Text files may end their lines with a line feed, a carriage return, or both; inside the library
a line ends with a line feed.
-/

set_option autoImplicit false

namespace ModuleResolution.Lines

/-- Every line end written as one line feed. -/
def unifyChars : List Char → List Char
  | '\r' :: '\n' :: rest => '\n' :: unifyChars rest
  | c :: rest => (if c = '\r' then '\n' else c) :: unifyChars rest
  | [] => []

def unify (text : String) : String := String.ofList (unifyChars text.toList)

end ModuleResolution.Lines
