import ModuleResolution.Proofs.Lookup.Followed
import ModuleResolution.Proofs.Settings.Reading

/-! # Editing settings

An edit reads the file of its scope in the same manner as settings are read. What is left out there
is not in the document that is edited, so it is lost when the document is written
(`update_of_unread`). A file at which reading fails stays as it is.
-/

set_option autoImplicit false

namespace ModuleResolution

open Yaml (Document)

namespace SettingsPlace

/-! ## Files that are read for an edit -/

variable (journal : Journal) (moment : String) (place : Place)

theorem follows_leaveOut {α : Type} (warning : Note) (rest : α) :
    journal.Follows moment place (leaveOut warning rest).run := by
  have hlookup : (leaveOut warning rest).run = .note warning (.done (.ok rest)) := rfl
  have hfollow : journal.follow (leaveOut warning rest).run =
      (journal.logNote warning).bind fun _ => .done (.ok rest) := by
    rw [hlookup]
    rfl
  rw [Journal.Follows, hfollow, Action.run_bind]
  rfl

theorem follows_readDocument (path : String) (source : Yaml.Source) :
    journal.Follows moment place (readDocument path source).run := by
  unfold readDocument
  cases Yaml.parse source with
  | error failure =>
      cases failure with
      | malformed => exact follows_leaveOut journal moment place _ _
      | valueless fault => rfl
      | undecodable failure => rfl
  | ok document =>
      cases hempty : document.value.isEmpty with
      | true =>
          simp only [hempty, if_true]
          rfl
      | false =>
          simp only [hempty, Bool.false_eq_true, if_false]
          cases document.content with
          | mapping entries => rfl
          | scalar s => exact follows_leaveOut journal moment place _ _
          | list items => exact follows_leaveOut journal moment place _ _
          | set members => exact follows_leaveOut journal moment place _ _

/-- The notes on a settings file are taken when it has been read. -/
theorem follows_readFile (path : String) :
    journal.Follows moment place (readFile path).run := by
  unfold readFile
  refine Journal.Follows.bind_of_notes rfl rfl fun kind hkind => ?_
  split
  · rfl
  · refine Journal.Follows.bind_of_notes rfl rfl fun answer hanswer => ?_
    split
    · exact follows_readDocument journal moment place _ _
    · exact follows_leaveOut journal moment place _ _
    · exact follows_readDocument journal moment place _ _

/-- The notes of an edit are taken when its document has been read. -/
theorem follows_plan (settings : SettingsPlace) (scope : Scope) (edit : Edit) :
    journal.Follows moment place (settings.plan scope edit).run := by
  unfold plan checkHome
  split
  · rfl
  · refine Journal.Follows.bind_of_notes rfl rfl fun _ _ => ?_
    refine Journal.Follows.bind_of_notes rfl rfl fun _ _ => ?_
    exact (follows_readFile journal moment place _).bind_done

theorem outcome_plan (settings : SettingsPlace) (scope : Scope) (edit : Edit) :
    (settings.plan scope edit).run.outcome place =
      if settings.isHomeless then .error .noHome
      else edit.check.bind fun _ => (documentAt place (settings.file scope)).bind edit.apply := by
  unfold plan checkHome
  split
  · rfl
  · cases edit.check with
    | error failure => rfl
    | ok _ =>
        show (readFile (settings.file scope) >>= fun document =>
          ExceptT.mk (.done (edit.apply document))).run.outcome place = _
        rw [Lookup.outcome_run_bind, outcome_readFile]
        rfl

theorem notes_plan (settings : SettingsPlace) (scope : Scope) (edit : Edit) :
    (settings.plan scope edit).run.notes place =
      if settings.isHomeless then []
      else match edit.check with
        | .error _ => []
        | .ok () => (readFile (settings.file scope)).run.notes place := by
  unfold plan checkHome
  split
  · rfl
  · cases edit.check with
    | error failure => rfl
    | ok _ =>
        show (readFile (settings.file scope) >>= fun document =>
          ExceptT.mk (.done (edit.apply document))).run.notes place = _
        rw [Lookup.notes_run_bind]
        cases (readFile (settings.file scope)).run.outcome place <;> exact List.append_nil _

/-- **What an update comes to by what is planned.** -/
theorem run_update (settings : SettingsPlace) (scope : Scope) (edit : Edit) :
    (settings.update journal scope edit).run moment place =
      let left := journal.placeAfter moment place ((settings.plan scope edit).run.notes place)
      match (settings.plan scope edit).run.outcome place with
      | .error failure => (.error failure, left)
      | .ok none => (.ok (), left)
      | .ok (some document) => (settings.store scope document).run moment left := by
  rw [update, Action.run_bind, follows_plan journal moment place settings scope edit]
  rcases (settings.plan scope edit).run.outcome place with failure | _ | document <;> rfl

/-- A text can be added to, and a field be set in, a document without entries. -/
theorem exists_apply_noEntries (edit : Edit) :
    ∃ document, edit.apply noEntries = .ok (some document) := by
  cases edit with
  | add field item => exact ⟨_, rfl⟩
  | set field value => exact ⟨_, rfl⟩

/-! ## Files that are not read -/

/-- Reading settings fails at a file that holds these octets. -/
def IsFatal (octets : List UInt8) : Prop :=
  ∃ failure, documentOf (Yaml.readOctets octets) = .error failure

/-- The octets are not read as a mapping. -/
def IsUnread (octets : List UInt8) : Prop :=
  ∀ document entries, Yaml.readOctets octets = .ok document → document.content ≠ .mapping entries

/-- What is not read and not fatal counts as a document without entries. -/
theorem documentOf_of_isUnread {octets : List UInt8} (h : IsUnread octets)
    (hfatal : ¬ IsFatal octets) : documentOf (Yaml.readOctets octets) = .ok noEntries := by
  cases hread : documentOf (Yaml.readOctets octets) with
  | error failure => exact absurd ⟨failure, hread⟩ hfatal
  | ok document =>
      unfold documentOf at hread
      split at hread
      · exact hread.symm
      · cases hread
      · cases hread
      · next document' hparse =>
          split at hread
          · next entries _ hentries => exact absurd hentries (h document' entries hparse)
          · exact hread.symm

theorem notes_readDocument_of_error {path : String} {source : Yaml.Source}
    {failure : SettingsFailure} (h : documentOf (Yaml.parse source) = .error failure) :
    (readDocument path source).run.notes place = [] := by
  unfold readDocument
  unfold documentOf at h
  cases hparse : Yaml.parse source with
  | error fault =>
      rw [hparse] at h
      cases fault with
      | malformed => cases h
      | valueless fault => rfl
      | undecodable fault => rfl
  | ok document =>
      rw [hparse] at h
      dsimp only at h
      split at h <;> cases h

/-- Nothing is noted of a file if nothing is noted of what its octets are read as. -/
theorem notes_readFile_eq_nil {path : String} {octets : List UInt8}
    (hoctets : place.octetsAt path = .ok octets)
    (h : ∀ source, Yaml.parse source = Yaml.readOctets octets →
      (readDocument path source).run.notes place = []) :
    (readFile path).run.notes place = [] := by
  unfold readFile
  refine Lookup.notes_run_bind_eq_nil rfl fun kind _ => ?_
  split
  · rfl
  · refine Lookup.notes_run_bind_eq_nil rfl fun answer hanswer => ?_
    have htext : answer = place.readText path := by
      rw [Lookup.outcome_run_lift] at hanswer
      exact (Except.ok.inj hanswer).symm
    rw [htext, Place.readText, Disk.readText,
      show place.disk.readOctets place.cwd path = _ from hoctets]
    unfold Yaml.readOctets at h
    cases hdecode : Utf8.decode octets with
    | error fault =>
        rw [hdecode] at h
        simp only [hdecode]
        exact h _ rfl
    | ok text =>
        rw [hdecode] at h
        simp only [hdecode]
        exact h _ rfl

theorem notes_readFile_of_isFatal {path : String} {octets : List UInt8}
    (hoctets : place.octetsAt path = .ok octets) (hfatal : IsFatal octets) :
    (readFile path).run.notes place = [] := by
  obtain ⟨failure, hfailure⟩ := hfatal
  refine notes_readFile_eq_nil place hoctets fun source hsource => ?_
  rw [← hsource] at hfailure
  exact notes_readDocument_of_error place hfailure

/-- **What an update does to a file that is not read.** If reading settings fails at the file, the
update fails and all is as it was. Otherwise the file is written as though it had been missing: the
edit of a document without entries takes its place. -/
theorem update_of_unread (settings : SettingsPlace) (scope : Scope) (edit : Edit)
    {octets : List UInt8} (hoctets : place.octetsAt (settings.file scope) = .ok octets)
    (hunread : IsUnread octets) :
    (IsFatal octets ∨ settings.isHomeless ∨ edit.check ≠ .ok () →
      ∃ failure, (settings.update journal scope edit).run moment place = (.error failure, place)) ∧
    (¬ IsFatal octets → settings.isHomeless = false → edit.check = .ok () →
      ∃ document, edit.apply noEntries = .ok (some document) ∧
        (settings.update journal scope edit).run moment place =
          (settings.store scope document).run moment
            (journal.placeAfter moment place
              ((readFile (settings.file scope)).run.notes place))) := by
  have hdocument :
      documentAt place (settings.file scope) = documentOf (Yaml.readOctets octets) := by
    rw [documentAt, hoctets]
  rw [run_update, outcome_plan, hdocument]
  constructor
  · intro h
    rw [notes_plan]
    cases hhome : settings.isHomeless with
    | true => exact ⟨_, rfl⟩
    | false =>
        cases hcheck : edit.check with
        | error failure => exact ⟨_, rfl⟩
        | ok _ =>
            simp only [hhome, hcheck, Bool.false_eq_true, ne_eq, not_true_eq_false, or_false] at h
            -- reading fails before a note is taken, so nothing is logged either
            rw [notes_readFile_of_isFatal place hoctets h]
            obtain ⟨failure, hfailure⟩ := h
            rw [hfailure]
            exact ⟨_, rfl⟩
  · intro hfatal hhome hcheck
    obtain ⟨document, happly⟩ := exists_apply_noEntries edit
    refine ⟨document, happly, ?_⟩
    rw [notes_plan, documentOf_of_isUnread hunread hfatal, hhome, hcheck]
    simp only [Except.bind, happly]
    rfl

/-- A text cannot be added to a list in a file that is no text, and the file is kept. -/
theorem update_of_unread_no_text :
    let place := placeWith none (some [0xFF]) none
    ∃ failure, (inWork.update {} .project (.add "extra_extensions" "vue")).run "" place =
      (.error failure, place) := by
  intro place
  have hread : Yaml.readOctets [0xFF] = .error (.undecodable ⟨0, [0xFF], .invalidStart⟩) := by
    decide +kernel
  have hunread : IsUnread [0xFF] := by
    intro document entries hdocument
    rw [hread] at hdocument
    cases hdocument
  have hfatal : IsFatal [0xFF] := ⟨_, congrArg documentOf hread⟩
  have hoctets : place.octetsAt (inWork.file .project) = .ok [0xFF] := by decide +kernel
  exact (update_of_unread _ _ place inWork .project _ hoctets hunread).1 (.inl hfatal)

/-- A file that is no YAML is not kept: the text that is added is all that it holds afterwards. -/
theorem update_of_no_yaml :
    let place := placeWith none (some (Utf8.encode "resolver: [\nother: 1\n")) none
    let done := (inWork.update {} .project (.add "extra_extensions" "vue")).run "" place
    place.octetsAt "/w/.modpath/settings.yaml" = .ok (Utf8.encode "resolver: [\nother: 1\n") ∧
      done.1 = .ok () ∧
      done.2.octetsAt "/w/.modpath/settings.yaml" =
        .ok (Utf8.encode "resolver:\n  extra_extensions:\n  - vue\n") := by
  decide +kernel

end SettingsPlace

end ModuleResolution
