import ModuleResolution.Proofs.Disk.Lawful
import ModuleResolution.Proofs.Resolve.Outcome
import ModuleResolution.Resolve.Manifest

/-! # What manifests come to

A manifest gives the path of an entry exactly when the file at its path holds a JSON object
(`load_eq_ok`, `hasManifest_of_entryPath`). Otherwise the search for the entry fails on the
request, unless the text holds more than a reader takes (`stop_of_entryPath`): an integer of too
many digits and containers in too many others stop it in another way than by a failure.
-/

set_option autoImplicit false

namespace ModuleResolution

/-- A manifest on the disk: a file of that name that holds a JSON object with such fields. -/
structure Place.HasManifest (place : Place) (path : String) (entries : Mapping) : Prop where
  named : Path.fileName path = Layout.manifest
  isFile : place.kind? path = some .file
  parsed : ∃ text, place.readText path = .ok text ∧ Json.parse text = .ok (.mapping entries)

/-- A file with the name of a manifest whose text exceeds what a reader takes. -/
structure Place.HasExcess (place : Place) (path : String) (excess : Json.Excess) : Prop where
  named : Path.fileName path = Layout.manifest
  isFile : place.kind? path = some .file
  parsed : ∃ text, place.readText path = .ok text ∧ Json.parse text = .error (.excessive excess)

namespace Manifest

variable {rules : Rules} {place : Place} {request : Request} {path : String}

theorem ofText_eq_ok {text : String} {entries : Mapping} :
    ofText text = .ok entries ↔ Json.parse text = .ok (.mapping entries) := by
  unfold ofText
  constructor
  · intro h
    split at h
    · next hparse =>
        cases h
        exact hparse
    all_goals cases h
  · intro h
    rw [h]

theorem ofText_eq_excessive {text : String} {excess : Json.Excess} :
    ofText text = .error (.inr excess) ↔ Json.parse text = .error (.excessive excess) := by
  unfold ofText
  constructor
  · intro h
    split at h
    · cases h
    · cases h
    · cases h
    · next hparse =>
        cases h
        exact hparse
  · intro h
    rw [h]

/-- What loading a manifest comes to, by what reading its file gives. -/
theorem outcome_load (place : Place) (request : Request) (path : String) :
    Search.outcome place (load request path) =
      match place.readText path with
      | .error (.unreachable ⟨.impossible, path⟩) => .error (.impossible ⟨.impossible, path⟩)
      | .error failure => .error (.failed ⟨request, .badManifest path (.unreadable failure)⟩)
      | .ok text =>
        match ofText text with
        | .ok entries => .ok entries
        | .error (.inl fault) => .error (.failed ⟨request, .badManifest path fault⟩)
        | .error (.inr excess) => .error (.excessive excess) := by
  have hread : (Lookup.textOf path).outcome place = place.readText path := rfl
  rw [load, Search.outcome_bind, Search.outcome_lift, hread, Except.bind]
  rcases place.readText path with (⟨⟨fault, other⟩⟩ | ⟨failure, octets⟩) | text
  · cases fault <;> rfl
  · rfl
  · dsimp only
    rcases ofText text with (fault | excess) | entries <;> rfl

/-- **A manifest is loaded** exactly when its text is a JSON object. -/
theorem load_eq_ok {entries : Mapping} :
    Search.outcome place (load request path) = .ok entries ↔
      ∃ text, place.readText path = .ok text ∧ Json.parse text = .ok (.mapping entries) := by
  rw [outcome_load]
  constructor
  · intro h
    split at h
    · cases h
    · cases h
    · next text hread =>
        refine ⟨text, hread, ofText_eq_ok.mp ?_⟩
        split at h
        · next found htext =>
            cases h
            exact htext
        all_goals cases h
  · rintro ⟨text, hread, hparse⟩
    simp only [hread, ofText_eq_ok.mpr hparse]

/-- **Why a manifest at a possible path is not loaded**: a failure of the request, or an excess. -/
theorem stop_of_load {stop : Stop} (hpath : Disk.isImpossible path = false)
    (h : Search.outcome place (load request path) = .error stop) :
    (∃ fault, stop = .failed ⟨request, .badManifest path fault⟩) ∨
      ∃ text excess, place.readText path = .ok text ∧
        Json.parse text = .error (.excessive excess) ∧ stop = .excessive excess := by
  rw [outcome_load] at h
  split at h
  · next hread => exact absurd hread (Disk.readText_ne_impossible hpath)
  · cases h
    exact Or.inl ⟨_, rfl⟩
  · next text hread =>
      split at h
      · cases h
      · cases h
        exact Or.inl ⟨_, rfl⟩
      · next excess htext =>
          cases h
          exact Or.inr ⟨text, excess, hread, ofText_eq_excessive.mp htext, rfl⟩

/-! ## Entries -/

@[simp] theorem outcome_selectEntry (rules : Rules) (place : Place) (entries : Mapping) :
    (selectEntry rules entries).outcome place = entry rules entries := by
  unfold selectEntry entry
  cases namedEntry? rules.fields entries <;> rfl

/-- The entry of a manifest lies in the folder of the manifest. -/
theorem outcome_entryPath (rules : Rules) (place : Place) (request : Request) (path : String) :
    Search.outcome place (entryPath rules request path) =
      (Search.outcome place (load request path)).map fun entries =>
        Path.join [Path.parent path, entry rules entries] := by
  rw [entryPath, Search.outcome_bind]
  cases Search.outcome place (load request path) with
  | error stop => rfl
  | ok entries =>
      rw [Except.bind, Search.outcome_bind, Search.outcome_lift, outcome_selectEntry]
      rfl

/-- **The entry that a manifest gives** is the one that its fields name. -/
theorem hasManifest_of_entryPath {found : String} (hnamed : Path.fileName path = Layout.manifest)
    (h : Search.outcome place (entryPath rules request path) = .ok found) :
    ∃ entries, place.HasManifest path entries ∧
      found = Path.join [Path.parent path, entry rules entries] := by
  rw [outcome_entryPath] at h
  cases hload : Search.outcome place (load request path) with
  | error stop =>
      rw [hload] at h
      cases h
  | ok entries =>
      rw [hload] at h
      cases h
      obtain ⟨text, hread, hparse⟩ := load_eq_ok.mp hload
      exact ⟨entries, ⟨hnamed, Disk.kind?_of_readText hread, text, hread, hparse⟩, rfl⟩

/-- A manifest with an excess gives no entry. -/
theorem entryPath_of_hasExcess {excess : Json.Excess} (h : place.HasExcess path excess) :
    Search.outcome place (entryPath rules request path) = .error (.excessive excess) := by
  obtain ⟨text, hread, hparse⟩ := h.parsed
  rw [outcome_entryPath, outcome_load, hread]
  dsimp only
  rw [ofText_eq_excessive.mpr hparse]
  rfl

/-- **A manifest that gives no entry** makes the request fail, or has an excess. -/
theorem stop_of_entryPath {stop : Stop} (hnamed : Path.fileName path = Layout.manifest)
    (hpath : Disk.isImpossible path = false)
    (h : Search.outcome place (entryPath rules request path) = .error stop) :
    (∃ fault, stop = .failed ⟨request, .badManifest path fault⟩) ∨
      ∃ excess, place.HasExcess path excess ∧ stop = .excessive excess := by
  rw [outcome_entryPath] at h
  cases hload : Search.outcome place (load request path) with
  | ok entries =>
      rw [hload] at h
      cases h
  | error other =>
      rw [hload] at h
      cases h
      rcases stop_of_load hpath hload with hfailed | ⟨text, excess, hread, hparse, hstop⟩
      · exact Or.inl hfailed
      · exact Or.inr ⟨excess, ⟨hnamed, Disk.kind?_of_readText hread, text, hread, hparse⟩, hstop⟩

end Manifest

end ModuleResolution
