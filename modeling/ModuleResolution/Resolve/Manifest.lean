import ModuleResolution.Resolve.Walk

/-! # Manifests

A manifest is a JSON object. The entry of its library is named by the first of the configured
fields that holds a text with characters in it; the order of the fields in the manifest does not
matter. Without such a field the entry is the default one.
-/

set_option autoImplicit false

namespace ModuleResolution.Manifest

def ofText (text : String) : Except (ManifestFault ⊕ Json.Excess) Mapping :=
  match Json.parse text with
  | .ok (.mapping entries) => .ok entries
  | .ok _ => .error (.inl .notObject)
  | .error (.malformed cause text offset) => .error (.inl (.malformed cause text offset))
  | .error (.excessive excess) => .error (.inr excess)

def load (request : Request) (path : String) : Search Mapping := do
  match ← Lookup.textOf path with
  | .error (.unreachable ⟨.impossible, path⟩) => throw (.impossible ⟨.impossible, path⟩)
  | .error failure => Search.fail request (.badManifest path (.unreadable failure))
  | .ok text =>
    match ofText text with
    | .ok entries => return entries
    | .error (.inl fault) => Search.fail request (.badManifest path fault)
    | .error (.inr excess) => throw (.excessive excess)

/-- The text with characters in it that a field holds. -/
def entryIn? (entries : Mapping) (field : String) : Option String :=
  match entries.field? field with
  | some (.text entry) => if entry.isEmpty then none else some entry
  | _ => none

/-- The first of some fields that names an entry, and the entry. -/
def namedEntry? (fields : List String) (entries : Mapping) : Option (String × String) :=
  fields.findSome? fun field => (entryIn? entries field).map (field, ·)

def entry (rules : Rules) (entries : Mapping) : String :=
  match namedEntry? rules.fields entries with
  | some (_, entry) => entry
  | none => Layout.defaultEntry

def selectEntry (rules : Rules) (entries : Mapping) : Lookup String :=
  match namedEntry? rules.fields entries with
  | some (field, entry) => .note (.entryNamed field entry) (.done entry)
  | none => .done Layout.defaultEntry

def entryPath (rules : Rules) (request : Request) (path : String) : Search String := do
  let entries ← load request path
  let entry ← selectEntry rules entries
  return Path.join [Path.parent path, entry]

end ModuleResolution.Manifest
