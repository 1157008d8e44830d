import ModuleResolution.Settings.Section
import ModuleResolution.Text.Infix
import ModuleResolution.Yaml.Document

/-! # Edits

A settings document is edited by adding a text to a list field, if it is not there already, or by
setting another field. All else in the document stays as it is, except that a part which is shared
is changed in every place where it stands.
-/

set_option autoImplicit false

namespace ModuleResolution

open Yaml (Document)

inductive Edit where
  | add (field item : String)
  | set (field : String) (value : Value)
  deriving Repr

namespace Edit

/-- The edit fits the kind of its field. -/
def check : Edit → Except SettingsFailure Unit
  | .add field _ =>
    if Options.listFields.contains field then .ok () else .error (.notListField field)
  | .set field _ =>
    if Options.scalarFields.contains field then .ok () else .error (.notScalarField field)

def isPresent (item : String) : Value → Except SettingsFailure Bool
  | .list items => .ok (items.any (· == .text item))
  | .set members => .ok (members.contains (.text item))
  | .text text => .ok (Infix.holds text item)
  | .mapping entries => .ok (Entries.field? entries item).isSome
  | value => .error (.unsearchable value)

/-- A document with a text added to a list in it, which is a part of it; none if it is there
already. -/
def extend (item : String) (list : Nat) (document : Document) :
    Except SettingsFailure (Option Document) := do
  if ← isPresent item (document.valueAt list) then return none
  else
    match document.part list with
    | .list items =>
      let (number, document) := document.add (.scalar (.text item))
      return some (document.put list (.list (items ++ [number])))
    | _ => throw (.unextendable (document.valueAt list))

def noSection (edit : Edit) (value : Value) : SettingsFailure :=
  match edit with
  | .add _ _ => .noSectionToAdd value
  | .set _ _ => .noSectionToSet value

/-- The document after an edit of a section in it; none if nothing is to be changed. -/
def applyAt (edit : Edit) (whole : Nat) (document : Document) :
    Except SettingsFailure (Option Document) :=
  match document.part whole with
  | .mapping fields =>
    match edit with
    | .add field item =>
      let (list, document) := document.fieldOr whole fields field (.list [])
      extend item list document
    | .set field value =>
      let (number, document) := document.addValue value
      .ok (some (document.putField whole fields field number))
  | _ => .error (edit.noSection (document.valueAt whole))

/-- The document after an edit; none if nothing is to be changed. What is no mapping counts as an
empty one. -/
def apply (edit : Edit) (document : Document) : Except SettingsFailure (Option Document) :=
  let entries := match document.content with
    | .mapping entries => entries
    | _ => []
  let (whole, document) := document.fieldOr document.root entries Section.name (.mapping [])
  edit.applyAt whole document

end Edit

end ModuleResolution
