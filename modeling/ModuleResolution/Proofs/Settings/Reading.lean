import Mathlib.Control.Monad.Basic
import ModuleResolution.Proofs.Lookup.Failing
import ModuleResolution.Proofs.Value.Equality
import ModuleResolution.Settings.Basic

/-! # Reading settings

What the settings come to at a place depends on the section that each scope has there
(`outcome_merged`), and the section of a scope depends on what its file holds (`outcome_readFile`).
A file that is of no use gives the same section as one that is missing (`sectionAt_of_isMalformed`),
so the settings are what they would be without it.
-/

set_option autoImplicit false

namespace ModuleResolution

open Yaml (Document)

/-! ## Files -/

/-- What reading octets as YAML comes to. Octets that are no text are read up to what is wrong. -/
def Yaml.readOctets (octets : List UInt8) : Reading Document :=
  match Utf8.decode octets with
  | .ok text => parse (.ofText (Lines.unify text))
  | .error failure => parse (.ofOctets failure octets)

def Place.octetsAt (place : Place) (path : String) : Except DiskFailure (List UInt8) :=
  place.disk.readOctets place.cwd path

theorem Place.octetsAt_of_kind? {place : Place} {path : String}
    (h : place.kind? path ≠ some .file) : ∃ failure, place.octetsAt path = .error failure := by
  unfold kind? Disk.kind? at h
  unfold octetsAt Disk.readOctets
  split
  · next octets hitem =>
      rw [hitem] at h
      exact absurd rfl h
  · exact ⟨_, rfl⟩
  · exact ⟨_, rfl⟩

namespace SettingsPlace

/-- The document that counts when a settings file is read as this. -/
def documentOf : Yaml.Reading Document → Except SettingsFailure Document
  | .error .malformed => .ok noEntries
  | .error (.valueless fault) => .error (.valueless fault)
  | .error (.undecodable failure) => .error (.undecodable failure)
  | .ok document =>
    match document.value.isEmpty, document.content with
    | false, .mapping _ => .ok document
    | _, _ => .ok noEntries

/-- The document that counts at a path. -/
def documentAt (place : Place) (path : String) : Except SettingsFailure Document :=
  match place.octetsAt path with
  | .ok octets => documentOf (Yaml.readOctets octets)
  | .error _ => .ok noEntries

theorem outcome_readDocument (place : Place) (path : String) (source : Yaml.Source) :
    (readDocument path source).run.outcome place = documentOf (Yaml.parse source) := by
  unfold readDocument documentOf
  cases Yaml.parse source with
  | error failure => cases failure <;> rfl
  | ok document =>
      cases hempty : document.value.isEmpty with
      | true => simp only [hempty, if_true]; rfl
      | false =>
          simp only [hempty, Bool.false_eq_true, if_false]
          cases document.content <;> rfl

/-- **What reading a settings file comes to.** -/
theorem outcome_readFile (place : Place) (path : String) :
    (readFile path).run.outcome place = documentAt place path := by
  unfold documentAt
  rw [readFile, Lookup.outcome_run_bind, Lookup.outcome_run_lift]
  show (if (place.kind? path).isNone then _ else _ : SettingsLookup Document).run.outcome place = _
  split
  · -- nothing is there, so there are no octets either
    next hmissing =>
      have hne : place.kind? path ≠ some .file := by
        rw [Option.isNone_iff_eq_none.mp hmissing]
        simp
      obtain ⟨failure, hfailure⟩ := Place.octetsAt_of_kind? hne
      rw [hfailure]
      rfl
  · rw [Lookup.outcome_run_bind, Lookup.outcome_run_lift]
    have htext : (Lookup.textOf path).outcome place = Disk.readText place.disk place.cwd path := rfl
    cases hoctets : place.octetsAt path with
    | error failure =>
        rw [htext, Disk.readText, show place.disk.readOctets place.cwd path = _ from hoctets]
        rfl
    | ok octets =>
        rw [htext, Disk.readText, show place.disk.readOctets place.cwd path = _ from hoctets]
        unfold Yaml.readOctets
        cases hdecode : Utf8.decode octets with
        | error failure =>
            simp only [hdecode, Except.bind]
            exact outcome_readDocument place path _
        | ok text =>
            simp only [hdecode, Except.bind]
            exact outcome_readDocument place path _

/-! ## Sections -/

/-- The entries of the section of a document, none if it has no section or one that is no
mapping. -/
def sectionEntries (document : Document) : Mapping :=
  match sectionValue document with
  | .mapping entries => entries
  | _ => []

theorem outcome_sectionOf (place : Place) (path : String) (document : Document) :
    (sectionOf path document).run.outcome place = .ok (sectionEntries document) := by
  unfold sectionOf sectionEntries
  cases sectionValue document with
  | mapping entries => cases entries <;> rfl
  | scalar s =>
      dsimp only
      split <;> rfl
  | list items =>
      dsimp only
      split <;> rfl
  | set members =>
      dsimp only
      split <;> rfl

def sectionAt (settings : SettingsPlace) (place : Place) (scope : Scope) :
    Except SettingsFailure Mapping :=
  (documentAt place (settings.file scope)).map sectionEntries

theorem outcome_mergeScope (settings : SettingsPlace) (place : Place) (base : Mapping)
    (scope : Scope) :
    (settings.mergeScope base scope).run.outcome place =
      (settings.sectionAt place scope).bind (Section.merge base) := by
  unfold mergeScope sectionAt
  rw [Lookup.outcome_run_bind, outcome_readFile]
  cases documentAt place (settings.file scope) with
  | error failure => rfl
  | ok document =>
      dsimp only [Except.bind, Except.map]
      rw [Lookup.outcome_run_bind, outcome_sectionOf]
      rfl

/-- **The merged section depends on the section of each scope only.** -/
theorem outcome_merged (settings : SettingsPlace) (place : Place) :
    settings.merged.run.outcome place =
      if settings.isHomeless then .error .noHome
      else Scope.all.foldlM (fun base scope =>
        (settings.sectionAt place scope).bind (Section.merge base)) [] := by
  rw [merged, Lookup.outcome_run_bind, checkHome]
  split
  · rfl
  · have hhome : (pure () : SettingsLookup Unit).run.outcome place = .ok () := rfl
    rw [hhome]
    simp only [Except.bind, Lookup.outcome_run_foldlM, outcome_mergeScope]

/-! ## Files that are of no use -/

/-- There is something at the path of a settings file that is of no use: a folder, a file that is
no YAML, or a document that is no mapping or has a section that is none. Octets that are no text
are of no use if there is no YAML in front of what is wrong with them. -/
inductive IsMalformed (place : Place) (path : String) : Prop
  | folder (h : place.kind? path = some .folder)
  | noYaml {octets : List UInt8} (h : place.octetsAt path = .ok octets)
      (hread : Yaml.readOctets octets = .error .malformed)
  | noMapping {octets : List UInt8} {document : Document} (h : place.octetsAt path = .ok octets)
      (hread : Yaml.readOctets octets = .ok document)
      (hcontent : ∀ entries, document.content ≠ .mapping entries)
  | noSection {octets : List UInt8} {document : Document} (h : place.octetsAt path = .ok octets)
      (hread : Yaml.readOctets octets = .ok document)
      (hvalue : ∀ entries, sectionValue document ≠ .mapping entries)

theorem sectionEntries_of_ne {document : Document}
    (h : ∀ entries, sectionValue document ≠ .mapping entries) : sectionEntries document = [] := by
  unfold sectionEntries
  split
  · next entries hentries => exact absurd hentries (h entries)
  · rfl

/-- A missing file gives no section. -/
theorem sectionAt_of_kind? {settings : SettingsPlace} {place : Place} {scope : Scope}
    (h : place.kind? (settings.file scope) ≠ some .file) :
    settings.sectionAt place scope = .ok [] := by
  obtain ⟨failure, hfailure⟩ := Place.octetsAt_of_kind? h
  rw [sectionAt, documentAt, hfailure]
  rfl

theorem sectionAt_of_octetsAt {settings : SettingsPlace} {place : Place} {scope : Scope}
    {octets : List UInt8} (h : place.octetsAt (settings.file scope) = .ok octets) :
    settings.sectionAt place scope =
      (documentOf (Yaml.readOctets octets)).map sectionEntries := by
  rw [sectionAt, documentAt, h]

/-- **A file that is of no use gives no section.** -/
theorem sectionAt_of_isMalformed {settings : SettingsPlace} {place : Place} {scope : Scope}
    (h : IsMalformed place (settings.file scope)) : settings.sectionAt place scope = .ok [] := by
  cases h with
  | folder h => exact sectionAt_of_kind? (by simp [h])
  | noYaml h hread =>
      rw [sectionAt_of_octetsAt h, hread]
      rfl
  | @noMapping octets document h hread hcontent =>
      rw [sectionAt_of_octetsAt h, hread, documentOf]
      split
      · next entries _ hentries => exact absurd hentries (hcontent entries)
      · rfl
  | @noSection octets document h hread hvalue =>
      rw [sectionAt_of_octetsAt h, hread, documentOf]
      split
      · exact congrArg Except.ok (sectionEntries_of_ne hvalue)
      · rfl

/-- The same file, or nothing, is at a path of two places. -/
def SameAt (place other : Place) (path : String) : Prop :=
  place.kind? path = other.kind? path ∧ place.octetsAt path = other.octetsAt path

/-- **Settings files that are of no use count as missing.** -/
theorem merged_eq_of_isMalformed (settings : SettingsPlace) (place other : Place)
    (h : ∀ scope, SameAt place other (settings.file scope) ∨
      IsMalformed place (settings.file scope) ∧ other.kind? (settings.file scope) = none) :
    settings.merged.run.outcome place = settings.merged.run.outcome other := by
  -- the merged section is made of the sections, so these are compared scope by scope
  have hsection : settings.sectionAt place = settings.sectionAt other := by
    funext scope
    rcases h scope with ⟨-, hsame⟩ | ⟨hmalformed, hmissing⟩
    · rw [sectionAt, sectionAt, documentAt, documentAt, hsame]
    · rw [sectionAt_of_isMalformed hmalformed, sectionAt_of_kind? (by simp [hmissing])]
  rw [outcome_merged, outcome_merged, hsection]

/-- A folder with one more file in front, if there are octets for it. -/
def withFile (name : String) : Option (List UInt8) → Disk → Disk
  | none, rest => rest
  | some octets, rest => .file name octets rest

/-- A place in `/w` with settings files of a user whose home is `/h`, of the project and of the
machine, as far as there are octets for them. -/
def placeWith (user project machine : Option (List UInt8)) : Place :=
  let home := withFile "settings.yaml" user .empty
  let work := withFile "settings.yaml" project (withFile "settings.local.yaml" machine .empty)
  ⟨.subfolder "h" (.subfolder ".modpath" home .empty)
    (.subfolder "w" (.subfolder ".modpath" work .empty) .empty), "/w"⟩

/-- The settings of a user whose home is `/h` in the directory `/w`. -/
def inWork : SettingsPlace := ⟨"/h", "/w"⟩

/-- A file that is no YAML and one that holds a list, beside one that is in order. -/
theorem merged_eq_of_isMalformed_two :
    let machine := some (Utf8.encode "resolver: \x7bextra_extensions: [vue]\x7d")
    let place := placeWith (some (Utf8.encode "resolver: [")) (some (Utf8.encode "- vue")) machine
    inWork.merged.run.outcome place =
      .ok [(.text "extra_extensions", .list [.text "vue"])] := by
  intro machine place
  have hsame : inWork.merged.run.outcome place =
      inWork.merged.run.outcome (placeWith none none machine) := by
    refine merged_eq_of_isMalformed inWork place _ fun scope => ?_
    cases scope with
    | user =>
        have hoctets : place.octetsAt (inWork.file .user) = .ok (Utf8.encode "resolver: [") := by
          decide +kernel
        exact Or.inr ⟨.noYaml hoctets (by decide +kernel), by decide +kernel⟩
    | project =>
        have hoctets : place.octetsAt (inWork.file .project) = .ok (Utf8.encode "- vue") := by
          decide +kernel
        have hread : Yaml.readOctets (Utf8.encode "- vue") =
            .ok ⟨#[.list [1], .scalar (.text "vue")], 0⟩ := by
          decide +kernel
        exact Or.inr ⟨.noMapping hoctets hread nofun, by decide +kernel⟩
    | machine => exact Or.inl ⟨by decide +kernel, by decide +kernel⟩
  exact hsame.trans (by decide +kernel)

/-- Octets that are no text are not left out: with them the settings cannot be had, although they
can without the file. -/
theorem merged_of_no_text :
    inWork.merged.run.outcome (placeWith (some [0xFF]) none none) =
        .error (.undecodable ⟨0, [0xFF], .invalidStart⟩) ∧
      inWork.merged.run.outcome (placeWith none none none) = .ok [] := by
  decide +kernel

end SettingsPlace

end ModuleResolution
