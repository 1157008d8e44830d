import ModuleResolution.Settings.Failure

/-! # Sections

A settings document is a mapping, one section of which holds the options. Sections are merged entry
by entry: a list of a list field is put behind what is there for it, any other value replaces it.
A text that is there counts as the list of its characters, octets as the list of their numbers, a
set as the list of its members, and a mapping as the list of its keys.
-/

set_option autoImplicit false

namespace ModuleResolution

namespace Section

/-- The section of a settings document that holds the options. -/
def name : String := "resolver"

/-- The items that a value stands for where a list is expected. -/
def items? : Value → Option (List Value)
  | .list items => some items
  | .text text => some (text.toList.map fun c => .text (String.singleton c))
  | .scalar (.octets content) => some (content.map fun octet => .integer octet.toNat)
  | .set members => some (members.map .scalar)
  | .mapping entries => some (entries.map fun entry => .scalar entry.1)
  | _ => none

/-- The items that are there for a field. -/
def earlierItems (base : Mapping) (field : Scalar) : Except SettingsFailure (List Value) :=
  match base.get? field with
  | none => .ok []
  | some value =>
    match items? value with
    | some items => .ok items
    | none => .error (.unspreadable value)

def isListField : Scalar → Bool
  | .text name => Options.listFields.contains name
  | _ => false

def mergeEntry (base : Mapping) (entry : Scalar × Value) : Except SettingsFailure Mapping :=
  match entry with
  | (key, .list items) =>
    if isListField key then
      (earlierItems base key).map fun earlier => base.insert key (.list (earlier ++ items))
    else .ok (base.insert key (.list items))
  | (key, value) => .ok (base.insert key value)

/-- Merges a more specific section into a section. -/
def merge (base overlay : Mapping) : Except SettingsFailure Mapping :=
  overlay.foldlM mergeEntry base

end Section

end ModuleResolution
