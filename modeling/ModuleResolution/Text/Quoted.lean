import ModuleResolution.Number.Shortest
import ModuleResolution.Text.Hex
import ModuleResolution.Text.Printable
import ModuleResolution.Value.Basic

/-! # Quoted texts

A quoted text stands between single quotes, or between double quotes when it holds a single quote
and no double one. The quote it stands in, the backslash and what is not printable are escaped.
`Quoted.value` shows a structured value in the same manner: its texts quoted, a mapping in braces.
-/

set_option autoImplicit false

namespace ModuleResolution.Quoted

def quoteFor (cs : List Char) : Char :=
  if cs.contains '\'' && !cs.contains '"' then '"' else '\''

/-- The escape of a character by its number, as short as the number allows. -/
def byNumber (c : Char) : List Char :=
  let n := c.toNat
  if n < 0x100 then '\\' :: 'x' :: Hex.padded 'a' 2 n
  else if n < 0x10000 then '\\' :: 'u' :: Hex.padded 'a' 4 n
  else '\\' :: 'U' :: Hex.padded 'a' 8 n

def encodeChar (quote c : Char) : List Char :=
  if c = quote || c = '\\' then ['\\', c]
  else if c = '\n' then ['\\', 'n']
  else if c = '\r' then ['\\', 'r']
  else if c = '\t' then ['\\', 't']
  else if Printable.isPrintable c then [c]
  else byNumber c

def text (s : String) : String :=
  let quote := quoteFor s.toList
  String.ofList (quote :: s.toList.flatMap (encodeChar quote) ++ [quote])

/-- How real numbers are shown. -/
def realForm : RealForm := ⟨"inf", "nan", false⟩

def octets (content : List UInt8) : String :=
  let cs := content.map fun octet => Char.ofNat octet.toNat
  let quote := quoteFor cs
  let shown := cs.flatMap fun c => if c.toNat < 0x80 then encodeChar quote c else byNumber c
  String.ofList ('b' :: quote :: shown ++ [quote])

def scalar : Scalar → String
  | .null => "None"
  | .bool true => "True"
  | .bool false => "False"
  | .integer n => toString n
  | .real value => realForm.write value
  | .moment value => value.shown
  | .text s => text s
  | .octets content => octets content

mutual

def value : Value → String
  | .scalar s => scalar s
  | .list items => "[" ++ ", ".intercalate (values items) ++ "]"
  | .set [] => "set()"
  | .set members => "\x7b" ++ ", ".intercalate (members.map scalar) ++ "\x7d"
  | .mapping entries => "\x7b" ++ ", ".intercalate (fields entries) ++ "\x7d"

def values : List Value → List String
  | [] => []
  | item :: rest => value item :: values rest

def fields : List (Scalar × Value) → List String
  | [] => []
  | (key, item) :: rest => (scalar key ++ ": " ++ value item) :: fields rest

end

end ModuleResolution.Quoted
