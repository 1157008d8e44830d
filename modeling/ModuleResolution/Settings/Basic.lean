import ModuleResolution.Logging.Journal
import ModuleResolution.Settings.Scope
import ModuleResolution.Settings.Edit
import ModuleResolution.Yaml.Reader
import ModuleResolution.Yaml.Writer

/-! # Settings

The settings of the three scopes are read, merged from the least specific scope on, and validated
as options. A file that cannot be read, is no YAML or holds no mapping is left out with a warning,
and so is a section that is no mapping; what is missing or empty is left out without one. A file
that holds no text, or a literal without a value, is a failure unless it is found to be no YAML
before that.

To edit the settings of a scope its document is read in the same manner, and written anew with the
change if there is one.
-/

set_option autoImplicit false

namespace ModuleResolution

open Yaml (Document)

abbrev SettingsLookup := ExceptT SettingsFailure Lookup

namespace SettingsPlace

/-- Leaves something out with a warning. -/
def leaveOut {α : Type} (warning : Note) (rest : α) : SettingsLookup α := do
  Lookup.write warning
  return rest

def noEntries : Document := .ofPart (.mapping [])

def readDocument (path : String) (source : Yaml.Source) : SettingsLookup Document :=
  match Yaml.parse source with
  | .error (.valueless fault) => throw (.valueless fault)
  | .error (.undecodable failure) => throw (.undecodable failure)
  | .error .malformed => leaveOut (.unreadable path Yaml.Failure.malformed.message) noEntries
  | .ok document =>
    if document.value.isEmpty then pure noEntries
    else
      match document.content with
      | .mapping _ => pure document
      | _ => leaveOut (.noMapping path) noEntries

def readFile (path : String) : SettingsLookup Document := do
  if (← Lookup.kindOf path).isNone then return noEntries
  match ← Lookup.textOf path with
  | .error (.undecodable failure octets) => readDocument path (.ofOctets failure octets)
  | .error (.unreachable failure) => leaveOut (.unreadable path failure.message) noEntries
  | .ok text => readDocument path (.ofText text)

def sectionValue (document : Document) : Value :=
  match document.content with
  | .mapping entries => (document.field? entries Section.name).elim .null document.valueAt
  | _ => .null

/-- The section of a document that is to be merged. -/
def sectionOf (path : String) (document : Document) : SettingsLookup Mapping :=
  let value := sectionValue document
  if value.isEmpty then pure []
  else
    match value with
    | .mapping entries => pure entries
    | _ => leaveOut (.noSection path Section.name) []

def mergeScope (place : SettingsPlace) (base : Mapping) (scope : Scope) :
    SettingsLookup Mapping := do
  let overlay ← sectionOf (place.file scope) (← readFile (place.file scope))
  ExceptT.mk (.done (Section.merge base overlay))

/-- Settings are only looked for when the home directory can be told. -/
def checkHome (place : SettingsPlace) : SettingsLookup Unit :=
  if place.isHomeless then throw .noHome else pure ()

/-- The merged section of all scopes. -/
def merged (place : SettingsPlace) : SettingsLookup Mapping := do
  place.checkHome
  Scope.all.foldlM place.mergeScope []

/-- The options that the settings give, or every problem with them. -/
def options (place : SettingsPlace) : SettingsLookup (Except (List Problem) Options) :=
  return Options.ofMapping (← place.merged)

/-- The document of a scope after an edit; none if nothing is to be changed. -/
def plan (place : SettingsPlace) (scope : Scope) (edit : Edit) :
    SettingsLookup (Option Document) := do
  place.checkHome
  ExceptT.mk (.done edit.check)
  let document ← readFile (place.file scope)
  ExceptT.mk (.done (edit.apply document))

/-- Writes the document of a scope; one that cannot be written leaves an empty file. -/
def store (place : SettingsPlace) (scope : Scope) (document : Document) :
    Action (Except SettingsFailure Unit) :=
  .makeFolders (place.folder scope).render fun
    | .error failure => .done (.error (.unwritable failure))
    | .ok () =>
      let written := Yaml.write document
      .write (place.file scope) (written.toOption.getD "") fun
        | .error failure => .done (.error (.unwritable failure))
        | .ok () => .done (written.mapError .valueless |>.map fun _ => ())

def update (place : SettingsPlace) (journal : Journal) (scope : Scope) (edit : Edit) :
    Action (Except SettingsFailure Unit) :=
  (journal.follow (place.plan scope edit).run).bind fun
    | .error failure => .done (.error failure)
    | .ok none => .done (.ok ())
    | .ok (some document) => place.store scope document

end SettingsPlace

end ModuleResolution
