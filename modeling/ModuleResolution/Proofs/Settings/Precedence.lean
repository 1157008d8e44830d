import ModuleResolution.Proofs.Settings.Merging
import ModuleResolution.Proofs.Yaml.Changed
import ModuleResolution.Proofs.Yaml.Valued

/-! # Which scope counts

Of two entries of a field that is no list field the last one counts when sections are merged
(`Section.get?_merge`). The section of a document that is read has each text key once
(`isApart_of_sectionAt`). So for such a field the merged section has what the most specific scope
gives of those that have the field (`get?_merged`), and if there is but one section, the merged
section has what it has (`get?_merged_of_one`).
-/

set_option autoImplicit false

namespace ModuleResolution

open Yaml (Document)

namespace Section

variable {entries base merged : Mapping} {field : String}

/-- Each key is there once, unless it is an undefined number. -/
def IsApart (entries : Mapping) : Prop :=
  entries.Pairwise fun entry other => Yaml.AreApart entry.1 other.1

theorem given_cons (entry : Scalar × Value) (rest : Mapping) (field : String) :
    given (entry :: rest) field =
      if entry.1 = .text field then entry.2 :: given rest field else given rest field := by
  unfold given
  rw [List.filter_cons]
  by_cases hkey : entry.1 = .text field
  · simp [hkey]
  · simp [hkey]

/-- What is given for a field that is there once is what belongs to it. -/
theorem given_of_isApart (h : IsApart entries) (field : String) :
    given entries field = (entries.get? (.text field)).toList := by
  induction entries with
  | nil => rfl
  | cons entry rest ih =>
      obtain ⟨hfirst, hrest⟩ := List.pairwise_cons.mp h
      rw [given_cons]
      unfold Entries.get?
      rw [List.find?_cons]
      split
      · next hkey =>
          have hnone : given rest field = [] := by
            unfold given
            rw [List.map_eq_nil_iff, List.filter_eq_nil_iff]
            intro other hother hsame
            -- a text is no number
            have hundefined := hfirst other hother (by rw [hkey, of_decide_eq_true hsame])
            rw [hkey] at hundefined
            cases hundefined
          rw [hnone, hkey, beq_self_eq_true]
          rfl
      · next hkey =>
          have hne : (entry.1.asKey == (Scalar.text field).asKey) = false :=
            beq_eq_false_iff_ne.mpr fun hsame => hkey (Scalar.eq_text_of_asKey hsame)
          rw [hne]
          exact ih hrest

/-! ## Merging into a section -/

/-- Merging an entry puts something for its key, which is its value unless a list is put behind what
is there. -/
theorem mergeEntry_ok {key : Scalar} {value : Value}
    (h : mergeEntry base (key, value) = .ok merged) :
    ∃ put, merged = base.insert key put ∧
      (isListField key = false ∨ base.get? key = none → put = value) := by
  cases value with
  | list items =>
      rw [mergeEntry] at h
      split at h
      · next hfield =>
          cases hearlier : earlierItems base key with
          | error failure =>
              rw [hearlier] at h
              cases h
          | ok earlier =>
              rw [hearlier] at h
              cases h
              refine ⟨_, rfl, fun hput => ?_⟩
              have hnone := hput.resolve_left (by simp [hfield])
              rw [earlierItems, hnone] at hearlier
              cases hearlier
              rfl
      · cases h
        exact ⟨_, rfl, fun _ => rfl⟩
  -- any other value replaces what is there
  | _ =>
      cases h
      exact ⟨_, rfl, fun _ => rfl⟩

theorem merge_cons {entry : Scalar × Value} {rest : Mapping}
    (h : merge base (entry :: rest) = .ok merged) :
    ∃ middle, mergeEntry base entry = .ok middle ∧ merge middle rest = .ok merged := by
  unfold merge at h
  rw [List.foldlM_cons] at h
  cases hentry : mergeEntry base entry with
  | error failure =>
      rw [hentry] at h
      cases h
  | ok middle =>
      rw [hentry] at h
      exact ⟨middle, rfl, h⟩

/-- A field for which nothing is given keeps what it has. -/
theorem get?_merge_of_nil (h : merge base entries = .ok merged) (hgiven : given entries field = []) :
    merged.get? (.text field) = base.get? (.text field) := by
  induction entries generalizing base with
  | nil =>
      cases h
      rfl
  | cons entry rest ih =>
      obtain ⟨middle, hentry, hrest⟩ := merge_cons h
      rw [given_cons] at hgiven
      split at hgiven
      · cases hgiven
      · next hkey =>
          obtain ⟨put, rfl, -⟩ := mergeEntry_ok hentry
          rw [ih hrest hgiven, get?_insert_of_key_ne hkey]

/-- What is given once for a field that has nothing is what it has then. -/
theorem get?_merge_of_singleton (h : merge base entries = .ok merged)
    (hbase : base.get? (.text field) = none) {value : Value} (hgiven : given entries field = [value]) :
    merged.get? (.text field) = some value := by
  induction entries generalizing base with
  | nil => cases hgiven
  | cons entry rest ih =>
      obtain ⟨middle, hentry, hrest⟩ := merge_cons h
      obtain ⟨put, rfl, hput⟩ := mergeEntry_ok hentry
      rw [given_cons] at hgiven
      split at hgiven
      · next hkey =>
          obtain ⟨rfl, hnone⟩ := List.cons.inj hgiven
          rw [hkey] at hrest hput
          rw [get?_merge_of_nil hrest hnone, Entries.get?_insert_self, hput (.inr hbase)]
      · next hkey => exact ih hrest ((get?_insert_of_key_ne hkey put).trans hbase) hgiven

/-- **Of what is given for a field that is no list field the last counts.** -/
theorem get?_merge (h : merge base entries = .ok merged) (hfield : field ∉ Options.listFields) :
    merged.get? (.text field) = (given entries field).getLast?.or (base.get? (.text field)) := by
  induction entries generalizing base with
  | nil =>
      cases h
      rfl
  | cons entry rest ih =>
      obtain ⟨middle, hentry, hrest⟩ := merge_cons h
      obtain ⟨put, rfl, hput⟩ := mergeEntry_ok hentry
      rw [ih hrest, given_cons]
      split
      · next hkey =>
          have hvalue : put = entry.2 := by
            refine hput (.inl ?_)
            rw [hkey]
            simpa [isListField] using hfield
          rw [hkey, Entries.get?_insert_self, hvalue, List.getLast?_cons]
          cases (given rest field).getLast? <;> rfl
      · next hkey => rw [get?_insert_of_key_ne hkey]

end Section

namespace SettingsPlace

open Section

variable {settings : SettingsPlace} {place : Place}

/-! ## Sections of documents -/

theorem isSound_noEntries : noEntries.IsSound := by
  refine ⟨Nat.zero_lt_one, fun number => ?_⟩
  cases number with
  | zero => exact ⟨nofun, .nil⟩
  | succ number => exact trivial

theorem isSound_of_documentOf {reading : Yaml.Reading Document} {document : Document}
    (hread : ∀ document, reading = .ok document → document.IsSound)
    (h : documentOf reading = .ok document) : document.IsSound := by
  unfold documentOf at h
  split at h
  · cases h
    exact isSound_noEntries
  · cases h
  · cases h
  · next found =>
      split at h
      · cases h
        exact hread document rfl
      · cases h
        exact isSound_noEntries

theorem isSound_of_readOctets {octets : List UInt8} {document : Document}
    (h : Yaml.readOctets octets = .ok document) : document.IsSound := by
  unfold Yaml.readOctets at h
  split at h <;> exact Document.isSound_of_parse h

/-- **The document that counts at a path is sound.** -/
theorem isSound_of_documentAt {path : String} {document : Document}
    (h : documentAt place path = .ok document) : document.IsSound := by
  unfold documentAt at h
  split at h
  · exact isSound_of_documentOf (fun _ => isSound_of_readOctets) h
  · cases h
    exact isSound_noEntries

theorem isApart_sectionEntries {document : Document} (hsound : document.IsSound) :
    IsApart (sectionEntries document) := by
  unfold sectionEntries
  split
  · next values hvalue =>
      unfold sectionValue at hvalue
      split at hvalue
      · next entries hcontent =>
          cases hfield : document.field? entries Section.name with
          | none =>
              rw [hfield] at hvalue
              cases hvalue
          | some number =>
              rw [hfield] at hvalue
              have hstep : document.next? document.root (.key (.text Section.name)) =
                  some number := (Document.next?_of_key hcontent _).trans hfield
              -- the entries are those of a part of the document, in which keys are apart
              have hmirrors := (Document.isValue_valueAt hsound.isClosed
                (Document.next?_lt hsound.isClosed hstep)).mirrors
              rw [show document.valueAt number = .mapping values from hvalue] at hmirrors
              cases hmirrors with
              | @mapping _ fields _ hpart hkeys hvalues =>
                  have hparts := hsound.parts number
                  rw [hpart] at hparts
                  have hapart : (values.map (·.1)).Pairwise Yaml.AreApart := by
                    rw [← hkeys]
                    exact List.pairwise_map.mpr hparts.2
                  exact List.pairwise_map.mp hapart
      · cases hvalue
  · exact .nil

/-- **The section of a document has what is met on the way through the section and a field.** -/
theorem rel_sectionEntries {document : Document} (hclosed : document.IsClosed) (field : String) :
    Option.Rel document.Mirrors
      (document.follow document.root [.key (.text Section.name), .key (.text field)])
      ((sectionEntries document).get? (.text field)) := by
  have hnone : (∀ entries, sectionValue document ≠ .mapping entries) →
      (sectionEntries document).get? (.text field) = none := by
    intro h
    rw [sectionEntries_of_ne h]
    rfl
  -- two steps: to the section, and from there to the field
  cases hwhole : document.next? document.root (.key (.text Section.name)) with
  | none =>
      rw [Document.follow, hwhole, hnone]
      · exact .none
      · intro values hvalue
        unfold sectionValue at hvalue
        split at hvalue
        · next entries hcontent =>
            rw [Document.next?_field hcontent] at hwhole
            rw [hwhole] at hvalue
            cases hvalue
        · cases hvalue
  | some whole =>
      obtain ⟨entries, hroot⟩ := Document.exists_part_of_next?_key hwhole
      have hvalue : sectionValue document = document.valueAt whole := by
        rw [Document.next?_field hroot] at hwhole
        unfold sectionValue
        rw [show document.content = .mapping entries from hroot]
        dsimp only
        rw [hwhole]
        rfl
      have hwholeValue := Document.isValue_valueAt hclosed (Document.next?_lt hclosed hwhole)
      rw [Document.follow, hwhole, Option.bind_some, Document.follow]
      cases hpart : document.part whole with
      | mapping fields =>
          obtain ⟨values, hvalues, hmirrors⟩ := hwholeValue.of_mapping hpart
          have hentries : sectionEntries document = values := by
            unfold sectionEntries
            rw [hvalue, hvalues]
          have hrel := Document.rel_find? hmirrors (.text field)
          rw [← Document.next?_of_key hpart] at hrel
          rw [hentries]
          cases hfield : document.next? whole (.key (.text field)) <;> rw [hfield] at hrel <;>
            exact hrel
      | _ =>
          rw [hnone]
          · rw [show document.next? whole (.key (.text field)) = none by
              unfold Document.next?
              rw [hpart]]
            exact .none
          · intro values hvalues
            rw [hvalue] at hvalues
            rw [hvalues] at hwholeValue
            cases hwholeValue.mirrors with
            | mapping h _ _ => rw [h] at hpart; cases hpart

section sectionEntries

variable {document : Document} {field : String}

theorem exists_mirrors_of_follow (hclosed : document.IsClosed) {number : Nat}
    (hfollow : document.follow document.root [.key (.text Section.name), .key (.text field)] =
      some number) :
    ∃ value, (sectionEntries document).get? (.text field) = some value ∧
      document.Mirrors number value := by
  have hrel := rel_sectionEntries hclosed field
  rw [hfollow] at hrel
  cases hentry : (sectionEntries document).get? (.text field) with
  | none => rw [hentry] at hrel; cases hrel
  | some value =>
      rw [hentry] at hrel
      cases hrel with
      | some hmirrors => exact ⟨value, rfl, hmirrors⟩

theorem exists_mirrors_of_get? (hclosed : document.IsClosed) {value : Value}
    (hentry : (sectionEntries document).get? (.text field) = some value) :
    ∃ number, document.follow document.root [.key (.text Section.name), .key (.text field)] =
      some number ∧ document.Mirrors number value := by
  have hrel := rel_sectionEntries hclosed field
  rw [hentry] at hrel
  cases hfollow :
      document.follow document.root [.key (.text Section.name), .key (.text field)] with
  | none => rw [hfollow] at hrel; cases hrel
  | some number =>
      rw [hfollow] at hrel
      cases hrel with
      | some hmirrors => exact ⟨number, rfl, hmirrors⟩

end sectionEntries

/-- **The section of a scope has each text key once.** -/
theorem isApart_of_sectionAt {scope : Scope} {entries : Mapping}
    (h : settings.sectionAt place scope = .ok entries) : IsApart entries := by
  unfold sectionAt at h
  cases hdocument : documentAt place (settings.file scope) with
  | error failure =>
      rw [hdocument] at h
      cases h
  | ok document =>
      rw [hdocument] at h
      cases h
      exact isApart_sectionEntries (isSound_of_documentAt hdocument)

/-! ## The merged section -/

section merged

variable {sections : Scope → Mapping} (hhome : settings.isHomeless = false)
  (hsections : ∀ scope, settings.sectionAt place scope = .ok (sections scope))

include hhome hsections

theorem outcome_merged_of_sections :
    settings.merged.run.outcome place = merge [] (Scope.all.flatMap sections) := by
  rw [outcome_merged, hhome, ← foldlM_merge]
  simp only [hsections, Except.bind]
  rfl

/-- The sections can be merged where no misfit is among them. -/
theorem exists_merged
    (h : ∀ field ∈ Options.listFields, ¬ HasMisfit (Scope.all.flatMap sections) field) :
    ∃ merged, settings.merged.run.outcome place = .ok merged := by
  rw [outcome_merged_of_sections hhome hsections]
  have haccount := isAccounted_merge (Scope.all.flatMap sections)
  cases hmerged : merge [] (Scope.all.flatMap sections) with
  | ok merged => exact ⟨merged, rfl⟩
  | error failure =>
      rw [hmerged] at haccount
      obtain ⟨field, hfield, hmisfit⟩ := haccount
      exact absurd hmisfit (h field hfield)

/-- **For a field that is no list field the most specific scope counts that has it.** -/
theorem get?_merged {merged : Mapping} (hmerged : settings.merged.run.outcome place = .ok merged)
    {field : String} (hfield : field ∉ Options.listFields) :
    merged.get? (.text field) =
      Scope.all.reverse.findSome? fun scope => (sections scope).get? (.text field) := by
  have hgiven : ∀ scope, given (sections scope) field =
      ((sections scope).get? (.text field)).toList :=
    fun scope => given_of_isApart (isApart_of_sectionAt (hsections scope)) field
  rw [outcome_merged_of_sections hhome hsections] at hmerged
  rw [get?_merge hmerged hfield]
  have hall : given (Scope.all.flatMap sections) field =
      given (sections .user) field ++
        (given (sections .project) field ++ given (sections .machine) field) := by
    rw [← given_append, ← given_append]
    simp [Scope.all]
  have hscopes : Scope.all.reverse = [.machine, .project, .user] := rfl
  rw [hall, hgiven, hgiven, hgiven, hscopes]
  simp only [List.findSome?_cons, List.findSome?_nil]
  cases (sections .machine).get? (.text field) <;>
    cases (sections .project).get? (.text field) <;>
      cases (sections .user).get? (.text field) <;> rfl

end merged

/-- A section in which each key is there once has no misfit. -/
theorem not_hasMisfit_of_isApart {entries : Mapping} (h : IsApart entries) (field : String) :
    ¬ HasMisfit entries field := by
  rintro ⟨value, items, hpair, -⟩
  have hlength := hpair.length_le
  rw [given_of_isApart h] at hlength
  cases hfound : entries.get? (.text field) <;> simp [hfound] at hlength

/-- **If one scope alone has a section, the merged section has what that has.** -/
theorem get?_merged_of_one {scope : Scope} {entries : Mapping} (hhome : settings.isHomeless = false)
    (hentries : settings.sectionAt place scope = .ok entries)
    (hone : ∀ other, other ≠ scope → settings.sectionAt place other = .ok []) :
    ∃ merged, settings.merged.run.outcome place = .ok merged ∧
      ∀ field, merged.get? (.text field) = entries.get? (.text field) := by
  let sections (other : Scope) : Mapping := if other = scope then entries else []
  have hsections : ∀ other, settings.sectionAt place other = .ok (sections other) := by
    intro other
    show _ = Except.ok (if other = scope then entries else [])
    split
    · next hsame => rw [hsame, hentries]
    · next hother => exact hone other hother
  have hall : Scope.all.flatMap sections = entries := by
    cases scope <;> simp [Scope.all, sections]
  have hapart := isApart_of_sectionAt hentries
  -- keys that are apart are met once, so nothing is there to merge with
  obtain ⟨merged, hmerged⟩ := exists_merged hhome hsections fun field _ => by
    rw [hall]
    exact not_hasMisfit_of_isApart hapart field
  refine ⟨merged, hmerged, fun field => ?_⟩
  rw [outcome_merged_of_sections hhome hsections, hall] at hmerged
  have hgiven := given_of_isApart hapart field
  cases hfound : entries.get? (.text field) with
  | none =>
      rw [hfound] at hgiven
      exact get?_merge_of_nil hmerged hgiven
  | some value =>
      rw [hfound] at hgiven
      exact get?_merge_of_singleton hmerged rfl hgiven

end SettingsPlace

end ModuleResolution
