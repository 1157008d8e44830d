import ModuleResolution.Proofs.Settings.Applying
import ModuleResolution.Proofs.Settings.Precedence
import ModuleResolution.Proofs.Settings.Storing

/-! # Updating settings

An update reads the document of a scope, edits it and stores it (`run_update_of_isHeld`). What is read
afterwards looks as the edited document did, if documents that are written are read again as they
were (`Reloads`); so an update changes what its edit changes and takes effect from then on
(`update_of_isHeld`).
-/

set_option autoImplicit false

namespace ModuleResolution

open Yaml (Document Look Step)
open Yaml.Document

namespace SettingsPlace

variable {settings : SettingsPlace} {scope : Scope} {edit : Edit} {journal : Journal}
  {moment path : String} {place after : Place} {document before : Document}

/-! ## Documents that are held by a file -/

/-- A missing file counts as a document without entries, and another one holds a mapping. -/
inductive IsHeld (place : Place) (path : String) : Document → Prop
  | missing (h : place.kind? path = none) : IsHeld place path noEntries
  | file {octets : List UInt8} {document : Document} {entries : List (Nat × Nat)}
    (hoctets : place.octetsAt path = .ok octets) (hread : Yaml.readOctets octets = .ok document)
    (hcontent : document.content = .mapping entries) : IsHeld place path document

/-- What has been written is read again as it was. -/
def Reloads (document : Document) : Prop :=
  ∀ text, Yaml.write document = .ok text →
    ∃ loaded, Yaml.readOctets (Utf8.encode text) = .ok loaded ∧ loaded.look = document.look

theorem look_of_no_entries (h : document.content = .mapping []) :
    document.look = Look.leaf .mapping := by
  have hbare : IsBare (document.part document.root) := by
    rw [show document.part document.root = _ from h]
    exact .mapping
  rw [look, lookFrom_of_isBare hbare, shape_of_mapping h]

theorem fits_noEntries (edit : Edit) : edit.Fits noEntries :=
  Edit.fits_of_isTree (by decide) rfl (.inl rfl) fun _ _ _ => .inl rfl

/-- A mapping that counts as empty has no entries. -/
theorem content_of_isEmpty (hclosed : document.IsClosed) {entries : List (Nat × Nat)}
    (hcontent : document.content = .mapping entries) (h : document.value.isEmpty = true) :
    document.content = .mapping [] := by
  obtain ⟨values, hvalue, hvalues⟩ :=
    (isValue_valueAt hclosed hclosed.root).of_mapping hcontent
  rw [value, hvalue] at h
  obtain rfl := List.isEmpty_iff.mp (show values.isEmpty = true from h)
  cases hvalues
  exact hcontent

/-- **The document that counts is the one that is held.** -/
theorem exists_documentAt (hheld : IsHeld place path document) :
    ∃ used, documentAt place path = .ok used ∧ used.look = document.look ∧
      (∀ edit : Edit, edit.Fits document → edit.Fits used) ∧
      (readFile path).run.notes place = [] := by
  cases hheld with
  | missing hkind =>
      have hne : place.kind? path ≠ some .file := by
        rw [hkind]
        exact nofun
      obtain ⟨failure, hfailure⟩ := Place.octetsAt_of_kind? hne
      refine ⟨noEntries, ?_, rfl, fun _ h => h, ?_⟩
      · rw [documentAt, hfailure]
      · unfold readFile
        refine Lookup.notes_run_bind_eq_nil rfl fun kind houtcome => ?_
        rw [Lookup.outcome_run_lift] at houtcome
        have hnone : kind = none := (Except.ok.inj houtcome).symm.trans hkind
        rw [hnone]
        rfl
  | @file octets _ entries hoctets hread hcontent =>
      have hnotes : (readFile path).run.notes place = [] := by
        refine notes_readFile_eq_nil place hoctets fun source hsource => ?_
        unfold readDocument
        rw [hsource, hread]
        dsimp only
        rw [hcontent]
        split <;> rfl
      rw [documentAt, hoctets]
      dsimp only
      rw [hread, documentOf, hcontent]
      -- a document without entries counts as none, which looks the same
      cases hempty : document.value.isEmpty with
      | true =>
          have hnone :=
            content_of_isEmpty (isSound_of_readOctets hread).isClosed hcontent hempty
          refine ⟨noEntries, rfl, ?_, fun edit _ => fits_noEntries edit, hnotes⟩
          rw [look_of_no_entries hnone]
          exact look_of_no_entries rfl
      | false => exact ⟨document, rfl, rfl, fun _ h => h, hnotes⟩

/-! ## Updates step by step -/

/-- An edit that does not fit the kind of its field is refused. -/
theorem run_update_of_check (hhome : settings.isHomeless = false) {failure : SettingsFailure}
    (hcheck : edit.check = .error failure) (journal : Journal) (moment : String) (place : Place) :
    (settings.update journal scope edit).run moment place = (.error failure, place) := by
  rw [run_update, notes_plan, outcome_plan, hhome, hcheck]
  rfl

theorem outcome_plan_of_check (hhome : settings.isHomeless = false) (hcheck : edit.check = .ok ())
    {used : Document} (hused : documentAt place (settings.file scope) = .ok used) :
    (settings.plan scope edit).run.outcome place = edit.apply used := by
  rw [outcome_plan, hhome, hcheck, hused]
  rfl

/-- **What an update comes to by what the edit comes to.** -/
theorem run_update_of_isHeld (hhome : settings.isHomeless = false) (hcheck : edit.check = .ok ())
    {used : Document} (hused : documentAt place (settings.file scope) = .ok used)
    (hnotes : (readFile (settings.file scope)).run.notes place = []) :
    (settings.update journal scope edit).run moment place =
      match edit.apply used with
      | .error failure => (.error failure, place)
      | .ok none => (.ok (), place)
      | .ok (some planned) => (settings.store scope planned).run moment place := by
  rw [run_update, outcome_plan_of_check hhome hcheck hused, notes_plan, hhome, hcheck]
  simp only [Bool.false_eq_true, if_false, hnotes]
  rfl

/-- A text that is there is not added again. -/
theorem run_update_of_isPresent (hhome : settings.isHomeless = false) (hcheck : edit.check = .ok ())
    (hheld : IsHeld place (settings.file scope) document) (h : edit.IsPresent document.look)
    (journal : Journal) (moment : String) :
    (settings.update journal scope edit).run moment place = (.ok (), place) := by
  obtain ⟨used, hused, hlook, -, hnotes⟩ := exists_documentAt hheld
  rw [run_update_of_isHeld hhome hcheck hused hnotes,
    Edit.apply_of_isPresent (isSound_of_documentAt hused).isClosed (hlook ▸ h)]

/-! ## What is read afterwards -/

/-- What is seen at a field is in the section that is merged. -/
theorem get?_sectionEntries_of_look (hsound : document.IsSound) {field : String} {value : Value}
    (hlook : ∀ rest, document.look (Edit.fieldPath field ++ rest) = value.look rest) :
    ∃ found, (sectionEntries document).get? (.text field) = some found ∧
      (Look.IsDefined value.look → found.look = value.look) := by
  obtain ⟨number, hnumber, -⟩ := exists_of_lookFrom (hlook [])
  rw [List.append_nil] at hnumber
  have hfrom : document.lookFrom number = value.look := by
    funext rest
    rw [← hlook, look, lookFrom_append hnumber]
  obtain ⟨found, hfound, hmirrors⟩ := exists_mirrors_of_follow hsound.isClosed hnumber
  refine ⟨found, hfound, fun hdefined => ?_⟩
  rw [← hfrom, hmirrors.lookFrom (isFinite_of_lookFrom hsound hfrom hdefined)]

/-- The value of a field in a scope is this one, and of all the scopes the most specific one counts
that has the field; the sections can be merged if none has a misfit. -/
def Counts (settings : SettingsPlace) (scope : Scope) (field : String) (value : Value)
    (place : Place) : Prop :=
  ∀ sections : Scope → Mapping,
    (∀ other, settings.sectionAt place other = .ok (sections other)) →
      (∃ found, (sections scope).get? (.text field) = some found ∧
        (Look.IsDefined value.look → found.look = value.look)) ∧
      (∀ merged, settings.merged.run.outcome place = .ok merged →
        merged.get? (.text field) =
          Scope.all.reverse.findSome? fun other => (sections other).get? (.text field)) ∧
      ((∀ list ∈ Options.listFields,
          ¬ Section.HasMisfit (Scope.all.flatMap sections) list) →
        ∃ merged, settings.merged.run.outcome place = .ok merged)

/-- What an edit comes to from then on: a text that was added is not added again, and a value that
was set counts. -/
def TakesEffect (settings : SettingsPlace) (scope : Scope) : Edit → Place → Prop
  | .add field item, after => ∀ journal moment,
    (settings.update journal scope (.add field item)).run moment after = (.ok (), after)
  | .set field value, after => settings.Counts scope field value after

theorem not_mem_listFields_of_check {field : String} {value : Value}
    (hcheck : (Edit.set field value).check = .ok ()) : field ∉ Options.listFields := by
  unfold Edit.check at hcheck
  dsimp only at hcheck
  split at hcheck
  · next hfield =>
      rcases List.mem_pair.mp (List.contains_iff_mem.mp hfield) with rfl | rfl <;> decide
  · cases hcheck

/-- **Where the changed document is held, the edit takes effect.** -/
theorem takesEffect_of_changes (hhome : settings.isHomeless = false) (hcheck : edit.check = .ok ())
    {look : Look} (hheld : IsHeld after (settings.file scope) document)
    (hchanges : edit.Changes look document.look) : settings.TakesEffect scope edit after := by
  cases edit with
  | add field item =>
      obtain ⟨count, -, -, -, -, hlast, -⟩ := hchanges
      exact run_update_of_isPresent hhome hcheck hheld ⟨count, hlast []⟩
  | set field value =>
      obtain ⟨-, -, hfield, -⟩ := hchanges
      intro sections hsections
      obtain ⟨used, hused, hlook, -, -⟩ := exists_documentAt hheld
      have hsection : sections scope = sectionEntries used := by
        have hscope := hsections scope
        rw [sectionAt, hused] at hscope
        exact (Except.ok.inj hscope).symm
      refine ⟨?_, fun merged hmerged => ?_, exists_merged hhome hsections⟩
      · rw [hsection]
        refine get?_sectionEntries_of_look (isSound_of_documentAt hused) fun rest => ?_
        rw [hlook]
        exact hfield rest
      · exact get?_merged hhome hsections hmerged (not_mem_listFields_of_check hcheck)

/-- The document that is held once it has been written. -/
theorem isHeld_of_octetsAt (hreloads : Reloads document) {text : String}
    (hwrite : Yaml.write document = .ok text)
    (hoctets : after.octetsAt path = .ok (Utf8.encode (textOf document)))
    (htop : document.look [] = some .mapping) :
    ∃ loaded, IsHeld after path loaded ∧ loaded.look = document.look := by
  obtain ⟨loaded, hloaded, hlook⟩ := hreloads text hwrite
  rw [textOf, hwrite] at hoctets
  rw [← hlook] at htop
  obtain ⟨entries, hcontent⟩ := exists_part_of_shape_mapping (Option.some.inj htop)
  exact ⟨loaded, .file hoctets hloaded hcontent, hlook⟩

theorem kind?_of_isHeld (hheld : IsHeld place path document) :
    place.kind? path = none ∨ place.kind? path = some .file := by
  cases hheld with
  | missing h => exact .inl h
  | file hoctets _ _ =>
      refine .inr (by_contra fun h => ?_)
      obtain ⟨failure, hfailure⟩ := Place.octetsAt_of_kind? h
      rw [hfailure] at hoctets
      cases hoctets

/-- The file cannot be written, or the document cannot, or the edit has taken effect. -/
def IsDone (settings : SettingsPlace) (scope : Scope) (edit : Edit) (before : Document)
    (place : Place) (outcome : Except SettingsFailure Unit) (after : Place) : Prop :=
  (∃ failure, outcome = .error (.unwritable failure) ∧
    place.kind? (settings.file scope) = none) ∨
  (∃ planned fault, (settings.plan scope edit).run.outcome place = .ok (some planned) ∧
    Yaml.write planned = .error fault ∧ outcome = .error (.valueless fault)) ∨
  outcome = .ok () ∧ (∃ loaded, IsHeld after (settings.file scope) loaded ∧
    edit.Changes before.look loaded.look) ∧ settings.TakesEffect scope edit after

section update

variable (hhome : settings.isHomeless = false) (hheld : IsHeld place (settings.file scope) before)
  (hfits : edit.Fits before)
  (hreloads : ∀ planned, (settings.plan scope edit).run.outcome place = .ok (some planned) →
    Reloads planned)
  (journal : Journal) (moment : String)

include hhome hheld hfits hreloads

theorem update_of_not_isPresent (hcheck : edit.check = .ok ())
    (hpresent : ¬ edit.IsPresent before.look) :
    ∃ outcome after, (settings.update journal scope edit).run moment place = (outcome, after) ∧
      ChangesOnly (settings.file scope) place after ∧
      settings.IsDone scope edit before place outcome after := by
  obtain ⟨used, hused, hlook, hfitsUsed, hnotes⟩ := exists_documentAt hheld
  obtain ⟨planned, happly, hchanges⟩ := Edit.apply_of_fits
    (isSound_of_documentAt hused).isClosed (hfitsUsed edit hfits) (hlook ▸ hpresent)
  rw [hlook] at hchanges
  have hplan : (settings.plan scope edit).run.outcome place = .ok (some planned) :=
    (outcome_plan_of_check hhome hcheck hused).trans happly
  have hrun : (settings.update journal scope edit).run moment place =
      (settings.store scope planned).run moment place := by
    rw [run_update_of_isHeld hhome hcheck hused hnotes, happly]
  have honly := changesOnly_store settings scope planned moment place
  rcases run_store_cases settings scope planned moment place with
    ⟨failure, after, hstore, -⟩ | ⟨after, hstore, -, hoctets⟩
  · rw [hstore] at honly
    refine ⟨_, after, hrun.trans hstore, honly, .inl ⟨failure, rfl, ?_⟩⟩
    -- a file that is there can be written
    refine (kind?_of_isHeld hheld).resolve_right fun hfile => ?_
    obtain ⟨_, hstore', -⟩ := exists_run_store hfile moment
    rw [hstore] at hstore'
    cases hwrite : Yaml.write planned <;> rw [hwrite] at hstore' <;> cases hstore'
  · rw [hstore] at honly
    refine ⟨_, after, hrun.trans hstore, honly, .inr ?_⟩
    cases hwrite : Yaml.write planned with
    | error fault => exact .inl ⟨planned, fault, hplan, hwrite, rfl⟩
    | ok text =>
        obtain ⟨loaded, hloaded, hsame⟩ :=
          isHeld_of_octetsAt (hreloads planned hplan) hwrite hoctets hchanges.top
        rw [← hsame] at hchanges
        exact .inr ⟨rfl, ⟨loaded, hloaded, hchanges⟩,
          takesEffect_of_changes hhome hcheck hloaded hchanges⟩

/-- **What an update does to a file that is missing or holds a mapping.** No other file changes. An
edit that does not fit the kind of its field is refused, and a text that is there is not added;
nothing changes then. Otherwise the file holds a document in which only the field has changed, and
the edit takes effect, unless the file is missing and cannot be written, or the document cannot. -/
theorem update_of_isHeld :
    ∃ outcome after, (settings.update journal scope edit).run moment place = (outcome, after) ∧
      ChangesOnly (settings.file scope) place after ∧
      (∀ failure, edit.check = .error failure → outcome = .error failure ∧ after = place) ∧
      (edit.check = .ok () → edit.IsPresent before.look → outcome = .ok () ∧ after = place) ∧
      (edit.check = .ok () → ¬ edit.IsPresent before.look →
        settings.IsDone scope edit before place outcome after) := by
  cases hcheck : edit.check with
  | error failure =>
      refine ⟨_, place, run_update_of_check hhome hcheck journal moment place, .refl _ _,
        fun failure' h => ?_, nofun, nofun⟩
      cases h
      exact ⟨rfl, rfl⟩
  | ok _ =>
      by_cases hpresent : edit.IsPresent before.look
      · exact ⟨_, place, run_update_of_isPresent hhome hcheck hheld hpresent journal moment,
          .refl _ _, nofun, fun _ _ => ⟨rfl, rfl⟩, fun _ h => absurd hpresent h⟩
      · obtain ⟨outcome, after, hrun, honly, hdone⟩ :=
          update_of_not_isPresent hhome hheld hfits hreloads journal moment hcheck hpresent
        exact ⟨outcome, after, hrun, honly, nofun, fun _ h => absurd h hpresent, fun _ _ => hdone⟩

end update

/-- A document in which nothing is shared is read again as it was if its value is. -/
theorem reloads_of_isTree {loaded : Document} {text : String}
    (hwrite : Yaml.write document = .ok text)
    (hread : Yaml.readOctets (Utf8.encode text) = .ok loaded) (htree : document.IsTree)
    (hloaded : loaded.IsTree) (hvalue : loaded.value = document.value) : Reloads document := by
  intro other hother
  rw [hwrite] at hother
  cases hother
  exact ⟨loaded, hread, by rw [hloaded.look_eq, htree.look_eq, hvalue]⟩

/-- A field is set in a file that has another section, and counts from then on. -/
theorem update_of_isHeld_retry :
    let place := placeWith none
      (some (Utf8.encode "resolver:\n  retry_from_parent: false\nzones: 1\n")) none
    let edit := Edit.set "retry_from_parent" (.bool true)
    let (outcome, after) := (inWork.update {} .project edit).run "" place
    outcome = .ok () ∧ ChangesOnly (inWork.file .project) place after ∧
      after.octetsAt "/w/.modpath/settings.yaml" =
        .ok (Utf8.encode "resolver:\n  retry_from_parent: true\nzones: 1\n") ∧
      inWork.TakesEffect .project edit after := by
  intro place edit
  let source : List UInt8 := Utf8.encode "resolver:\n  retry_from_parent: false\nzones: 1\n"
  let document : Document :=
    ⟨#[.mapping [(1, 2), (5, 6)], .scalar (.text "resolver"), .mapping [(3, 4)],
      .scalar (.text "retry_from_parent"), .scalar (.bool false), .scalar (.text "zones"),
      .scalar (.integer 1)], 0⟩
  have hoctets : place.octetsAt (inWork.file .project) = .ok source := by decide +kernel
  have hread : Yaml.readOctets source = .ok document := by decide +kernel
  have hfits : edit.Fits document :=
    Edit.fits_of_isTree (by decide +kernel) rfl (.inr rfl) nofun
  have hreloads : ∀ planned, (inWork.plan .project edit).run.outcome place = .ok (some planned) →
      Reloads planned := by
    intro planned hplanned
    have hplan : (inWork.plan .project edit).run.outcome place = .ok (some
        ⟨#[.mapping [(1, 2), (5, 6)], .scalar (.text "resolver"), .mapping [(3, 7)],
          .scalar (.text "retry_from_parent"), .scalar (.bool false), .scalar (.text "zones"),
          .scalar (.integer 1), .scalar (.bool true)], 0⟩) := by
      decide +kernel
    rw [hplan] at hplanned
    cases hplanned
    have hloaded : Yaml.readOctets
        (Utf8.encode "resolver:\n  retry_from_parent: true\nzones: 1\n") = .ok
          ⟨#[.mapping [(1, 2), (5, 6)], .scalar (.text "resolver"), .mapping [(3, 4)],
            .scalar (.text "retry_from_parent"), .scalar (.bool true), .scalar (.text "zones"),
            .scalar (.integer 1)], 0⟩ := by
      decide +kernel
    exact reloads_of_isTree (by decide +kernel) hloaded (by decide +kernel) (by decide +kernel)
      (by decide +kernel)
  obtain ⟨outcome, after, hrun, honly, -, -, hdone⟩ :=
    update_of_isHeld (by decide) (.file hoctets hread rfl) hfits hreloads {} ""
  have hafter : ((inWork.update {} .project edit).run "" place).1 = .ok () ∧
      ((inWork.update {} .project edit).run "" place).2.octetsAt "/w/.modpath/settings.yaml" =
        .ok (Utf8.encode "resolver:\n  retry_from_parent: true\nzones: 1\n") := by
    decide +kernel
  rw [hrun] at hafter ⊢
  obtain ⟨hok, hoctets'⟩ : outcome = .ok () ∧ after.octetsAt _ = _ := hafter
  subst hok
  -- the call succeeds, so of the three ways it can end the last is left
  rcases hdone (by decide) id with ⟨_, h, -⟩ | ⟨_, _, -, -, h⟩ | ⟨-, -, heffect⟩
  · cases h
  · cases h
  · exact ⟨rfl, honly, hoctets', heffect⟩

/-- A field cannot be set where a file has the name of the settings folder, although the settings
file is missing. And a value that is set is what the merged section has although a more specific
scope has the field, if it has the same value there. -/
theorem set_of_taken_folder_or_same_value :
    let edit := Edit.set "retry_from_parent" (.bool true)
    let taken : Place := ⟨.subfolder "w" (.file ".modpath" [] .empty) .empty, "/w"⟩
    let machine := Utf8.encode "resolver:\n  retry_from_parent: true\n"
    let after := ((inWork.update {} .project edit).run "" (placeWith none none (some machine))).2
    (taken.kind? (inWork.file .project) = none ∧
      ((inWork.update {} .project edit).run "" taken).1 =
        .error (.unwritable ⟨.taken, "/w/.modpath"⟩)) ∧
    inWork.sectionAt after .project = .ok [(.text "retry_from_parent", .bool true)] ∧
    inWork.sectionAt after .machine = .ok [(.text "retry_from_parent", .bool true)] ∧
    inWork.merged.run.outcome after = .ok [(.text "retry_from_parent", .bool true)] := by
  decide +kernel

end SettingsPlace

end ModuleResolution
