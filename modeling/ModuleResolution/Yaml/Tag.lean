/-! # Tags

The kinds of node of YAML 1.1, each named by a tag. A tag is written with a handle that stands for
the start of its name, and a document can give handles of its own; the kinds that are known here
all have names with one and the same start.
-/

set_option autoImplicit false

namespace ModuleResolution.Yaml

/-- What a node is marked as. -/
inductive Tag where
  | null
  | bool
  | integer
  | real
  | moment
  | text
  | octets
  | list
  /-- A list of pairs, each of a key and what belongs to it. -/
  | pairs
  | mapping
  /-- A mapping of which only the keys count. -/
  | set
  /-- The key whose value is taken into the mapping. -/
  | merge
  /-- The key whose value stands for the mapping. -/
  | default
  /-- A kind that is not known. -/
  | unknown
  deriving DecidableEq, Repr

namespace Tag

/-- The start of the names of the kinds. -/
def family : String := "tag:yaml.org,2002:"

/-- The names of the kinds behind their start. -/
def names : List (String × Tag) :=
  [("null", .null), ("bool", .bool), ("int", .integer), ("float", .real), ("timestamp", .moment),
    ("str", .text), ("binary", .octets), ("seq", .list), ("omap", .pairs), ("pairs", .pairs),
    ("map", .mapping), ("set", .set), ("merge", .merge), ("value", .default)]

def ofName (name : List Char) : Tag :=
  match names.find? fun entry => (family ++ entry.1).toList == name with
  | some (_, tag) => tag
  | none => .unknown

/-- The handles that every document has, with what they stand for. -/
def handles : List (List Char × List Char) := [(['!'], ['!']), (['!', '!'], family.toList)]

end Tag

end ModuleResolution.Yaml
