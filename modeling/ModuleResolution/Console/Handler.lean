import ModuleResolution.Console.Term.Fixed
import ModuleResolution.Console.Term.Reader
import ModuleResolution.Text.Blank
import ModuleResolution.Text.Quoted

/-! # Handlers

A handler is written as a name with points, behind it perhaps values in parentheses, or as values
alone. The values are a term that stands for a fixed value.
-/

set_option autoImplicit false

namespace ModuleResolution.Console.Handler

inductive Failure where
  /-- The text of the values is no term. -/
  | term (values : List Char) (fault : Term.Fault)
  /-- The term of the values stands for no fixed value. -/
  | value (fault : Term.Fixed.Fault)
  deriving DecidableEq, Repr

def Failure.message (failure : Failure) (parameters : List Char) : String :=
  let place := Quoted.text (String.ofList parameters)
  match failure with
  | .term _ .tooDeep => "error parsing " ++ place ++ "; "
  | .term values fault =>
    "error parsing " ++ Quoted.text (String.ofList values) ++ " in " ++ place ++ "; "
      ++ fault.message
  | .value fault => "error parsing " ++ place ++ "; " ++ fault.message

/-- The values of a handler that is written as a name, with parentheses around them, or the whole
text if no name is written. -/
def valueText (text : List Char) : List Char :=
  match text.dropWhile fun c => Naming.isWord c || c == '.' with
  | [] => "()".toList
  | rest =>
    if rest.head? = some '(' && rest.getLast? = some ')' && !rest.contains '\n' then rest else text

def check (parameters : List Char) : Except Failure Unit := do
  let values := valueText (trimBlanks parameters)
  let tree ← (Term.read values).mapError (.term values)
  (Term.Fixed.check tree).mapError .value

end ModuleResolution.Console.Handler
