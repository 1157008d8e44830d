/-! # Trees of terms

What a term is made of, as far as it matters: whether it stands for a fixed value, and what it is
called where no value can be given to it.
-/

set_option autoImplicit false

namespace ModuleResolution.Console.Term

inductive Tree where
  | name (word : List Char)
  /-- One of the words `True`, `False` and `None`. -/
  | constant (word : List Char)
  | ellipsis
  | number (isImaginary : Bool)
  | text
  | octets
  | pattern
  | row (items : List Tree)
  | set (items : List Tree)
  /-- Entries of keys with values; a key is missing where a whole mapping is taken in. -/
  | mapping (entries : List (Option Tree × Tree))
  | call (head : Tree) (arguments : Tree)
  /-- The arguments of a call: those by position, and for each other one whether it is a whole
  mapping. -/
  | arguments (positional : List Tree) (named : List Bool)
  | attribute
  | starred (inner : Tree)
  | signed (mark : Char) (inner : Tree)
  | binary (mark : List Char) (left right : Tree)
  /-- Terms joined by `and`, `or` or `not`. -/
  | joined
  | comparison (isMember : Bool) (left : Tree)
  | choice
  | function
  | naming
  | range
  | rangeSet
  | rangeMapping
  | yielding
  | awaiting
  /-- A part that nothing is asked of. -/
  | part
  deriving Repr

namespace Tree

/-- What a term is called where no value can be given to it. -/
def kind : Tree → String
  | .name _ => "name"
  | .constant word => String.ofList word
  | .ellipsis => "ellipsis"
  | .number _ | .text | .octets => "literal"
  | .pattern => "f-string expression"
  | .row _ => "tuple"
  | .set _ => "set display"
  | .mapping _ => "dict literal"
  | .call _ _ => "function call"
  | .attribute => "attribute"
  | .starred _ => "starred"
  | .signed _ _ | .binary _ _ _ | .joined => "expression"
  | .comparison _ _ => "comparison"
  | .choice => "conditional expression"
  | .function => "lambda"
  | .naming => "named expression"
  | .range => "generator expression"
  | .rangeSet => "set comprehension"
  | .rangeMapping => "dict comprehension"
  | .yielding => "yield expression"
  | .awaiting => "await expression"
  | .arguments _ _ | .part => ""

mutual

/-- The part of a term to which a range can give no value, if there is one. -/
def unassignable? : Tree → Option Tree
  | .name _ | .attribute => none
  | .row items => anyUnassignable? items
  | .starred inner => inner.unassignable?
  | .comparison isMember left => if isMember then left.unassignable? else none
  | tree => some tree

/-- The first part of some terms to which a range can give no value. -/
def anyUnassignable? : List Tree → Option Tree
  | [] => none
  | tree :: rest => tree.unassignable?.or (anyUnassignable? rest)

end

/-- A term that once was a statement in front of its argument. -/
def isStatement : Tree → Bool
  | .name word => ["print", "exec"].any (word == ·.toList)
  | _ => false

end Tree

end ModuleResolution.Console.Term
