import ModuleResolution.Proofs.Yaml.Added
import ModuleResolution.Proofs.Yaml.Valued
import ModuleResolution.Settings.Edit

/-! # Documents that are edited

An edit puts its item or its value where its field is, and changes nothing else (`Edit.apply_of_fits`),
if the section is a mapping or missing, the field of a list is a list or missing, and what is changed
stands in one place only.
-/

set_option autoImplicit false

namespace ModuleResolution

open Yaml (Document Look Step)
open Yaml.Document

namespace Edit

def sectionPath : List Step := [.key (.text Section.name)]

def fieldPath (field : String) : List Step := [.key (.text Section.name), .key (.text field)]

/-- The path of what is changed by an edit. -/
def route : Edit → List Step
  | .add field _ => fieldPath field
  | .set _ _ => sectionPath

/-- The text that is to be added is there. -/
def IsPresent : Edit → Look → Prop
  | .add field item, look =>
    ∃ index, look (fieldPath field ++ [.item index]) = some (.scalar (.text item))
  | .set _ _, _ => False

/-- What is seen after an edit beside what was seen before: the text is the last item of the list, or
the value is that of the field, and nothing else is seen otherwise. -/
def Changes : Edit → Look → Look → Prop
  | .add field item, before, after => ∃ count,
    (before (fieldPath field) = some (.list count) ∨
      before (fieldPath field) = none ∧ count = 0) ∧
    after [] = some .mapping ∧ after sectionPath = some .mapping ∧
    after (fieldPath field) = some (.list (count + 1)) ∧
    (∀ rest, after (fieldPath field ++ .item count :: rest) = (Value.text item).look rest) ∧
    Look.AgreesOff (fieldPath field ++ [.item count]) before after
  | .set field value, before, after =>
    after [] = some .mapping ∧ after sectionPath = some .mapping ∧
    (∀ rest, after (fieldPath field ++ rest) = value.look rest) ∧
    Look.AgreesOff (fieldPath field) before after

theorem Changes.top {edit : Edit} {before after : Look} (h : edit.Changes before after) :
    after [] = some .mapping := by
  cases edit with
  | add field item =>
      obtain ⟨_, -, htop, -⟩ := h
      exact htop
  | set field value => exact h.1

/-- The section is a mapping or missing, and so is a list to which something is to be added; each of
them stands in one place only. -/
structure Fits (edit : Edit) (document : Document) : Prop where
  top : document.look [] = some .mapping
  field : document.look sectionPath = none ∨ document.look sectionPath = some .mapping
  list (field item : String) (h : edit = .add field item) :
    document.look (fieldPath field) = none ∨
      ∃ count, document.look (fieldPath field) = some (.list count)
  unshared (path : List Step) (hpath : path <+: edit.route) (number : Nat)
    (h : document.follow document.root path = some number) : document.IsOnlyAt path number

/-- What stands in one place cannot be elsewhere, so a document in which nothing is shared only needs
its section and its lists to be in order. -/
theorem fits_of_isTree {edit : Edit} {document : Document} (htree : document.IsTree)
    (htop : document.look [] = some .mapping)
    (hfield : document.look sectionPath = none ∨ document.look sectionPath = some .mapping)
    (hlist : ∀ field item, edit = .add field item →
      document.look (fieldPath field) = none ∨
        ∃ count, document.look (fieldPath field) = some (.list count)) :
    edit.Fits document := by
  refine ⟨htop, hfield, hlist, fun path hpath number h => ?_⟩
  have hnames : ∃ names : List String, edit.route = names.map fun name => .key (.text name) := by
    cases edit with
    | add field item => exact ⟨[Section.name, field], rfl⟩
    | set field value => exact ⟨[Section.name], rfl⟩
  obtain ⟨names, hroute⟩ := hnames
  rw [hroute, List.prefix_iff_eq_take] at hpath
  rw [hpath, ← List.map_take] at h ⊢
  exact htree.isOnlyAt _ h

end Edit

namespace Yaml.Document

variable {document : Document} {path : List Step} {mapping : Nat} {entries : List (Nat × Nat)}
  {name : String} {part : Part}

/-- A field that is put where it is missing, or is there: only its place is seen otherwise. -/
theorem fieldOr_spec (hclosed : document.IsClosed) (honly : document.IsOnlyAt path mapping)
    (hpart : document.part mapping = .mapping entries) (hbare : IsBare part)
    (hthere : ∀ number, document.field? entries name = some number →
      document.IsOnlyAt (path ++ [.key (.text name)]) number) :
    ∃ number after, document.fieldOr mapping entries name part = (number, after) ∧
      after.IsClosed ∧ after.IsOnlyAt (path ++ [.key (.text name)]) number ∧
      (∀ path', path' ≠ path ++ [.key (.text name)] → after.look path' = document.look path') ∧
      (document.field? entries name = some number ∧ after = document ∨
        document.look (path ++ [.key (.text name)]) = none ∧ after.part number = part) := by
  cases hfield : document.field? entries name with
  | some number =>
      exact ⟨number, document, fieldOr_of_some hfield, hclosed, hthere number hfield,
        fun _ _ => rfl, .inl ⟨rfl, rfl⟩⟩
  | none =>
      obtain ⟨number, after, heq, hclosed', honly', hnew, hlook⟩ :=
        fieldOr_of_none hclosed honly hpart hbare hfield
      -- nothing was seen behind the field, so only the place of the field itself is seen otherwise
      have hnone : ∀ rest, document.look (path ++ [.key (.text name)] ++ rest) = none := by
        intro rest
        rw [List.append_assoc, look, lookFrom_append honly.follow, List.singleton_append,
          lookFrom_cons, next?_field hpart, hfield]
        rfl
      refine ⟨number, after, heq, hclosed', honly', fun path' hpath => ?_, .inr ⟨?_, hnew⟩⟩
      · rw [hlook]
        by_cases hprefix : path ++ [.key (.text name)] <+: path'
        · obtain ⟨rest, rfl⟩ := hprefix
          rw [Look.replaced_append, hnone]
          cases rest with
          | nil => exact absurd (List.append_nil _) hpath
          | cons step rest => rfl
        · exact Look.replaced_of_not_prefix hprefix
      · rw [← List.append_nil (path ++ _), hnone]

end Yaml.Document

namespace Edit

variable {document : Document}

/-- An edit is made in the section, once that is there. -/
theorem apply_of_fieldOr {entries : List (Nat × Nat)} {whole : Nat} {middle : Document}
    (hroot : document.part document.root = .mapping entries)
    (hfieldOr : document.fieldOr document.root entries Section.name (.mapping []) = (whole, middle))
    (edit : Edit) : edit.apply document = edit.applyAt whole middle := by
  unfold apply
  rw [content, hroot]
  dsimp only
  rw [hfieldOr]

/-! ## Texts that are looked for -/

/-- A list has a text if one of its items is the text. -/
theorem mem_text_iff {items : List Nat} {values : List Value} {item : String}
    (h : List.Forall₂ document.Mirrors items values) :
    Value.text item ∈ values ↔
      ∃ index number : Nat, items[index]? = some number ∧
        document.part number = .scalar (.text item) := by
  have hpart : ∀ {number : Nat} {value : Value}, document.Mirrors number value →
      (Value.text item = value ↔ document.part number = .scalar (.text item)) := by
    intro number value hmirrors
    constructor
    · rintro rfl
      cases hmirrors
      assumption
    · exact fun hnumber => (hmirrors.eq_scalar hnumber).symm
  -- an item and its value go side by side through both lists
  induction h with
  | nil => exact ⟨nofun, fun ⟨_, _, hnone, _⟩ => by cases hnone⟩
  | @cons number value numbers values hfirst _ ih =>
      rw [List.mem_cons, hpart hfirst]
      constructor
      · rintro (hhere | hrest)
        · exact ⟨0, number, rfl, hhere⟩
        · obtain ⟨index, found, hfound, htext⟩ := ih.mp hrest
          exact ⟨index + 1, found, hfound, htext⟩
      · rintro ⟨_ | index, found, hfound, htext⟩
        · cases hfound
          exact .inl htext
        · exact .inr (ih.mpr ⟨index, found, hfound, htext⟩)

variable {list : Nat} {items : List Nat}

/-- **What adding a text to a list comes to.** -/
theorem extend_spec (hclosed : document.IsClosed) (hsize : list < document.parts.size)
    (hpart : document.part list = .list items) (item : String) :
    (∃ index number : Nat, items[index]? = some number ∧
        document.part number = .scalar (.text item)) ∧
      extend item list document = .ok none ∨
    (¬ ∃ index number : Nat, items[index]? = some number ∧
        document.part number = .scalar (.text item)) ∧
      extend item list document = .ok (some (document.append list items (.text item))) := by
  obtain ⟨values, hvalue, hvalues⟩ :=
    (isValue_valueAt hclosed hsize).of_list hpart
  have hmem : Value.text item ∈ values ↔ _ := mem_text_iff hvalues
  have hpresent : isPresent item (document.valueAt list) =
      .ok (values.any (· == .text item)) := by
    rw [hvalue]
    rfl
  have hany : values.any (· == .text item) = true ↔ Value.text item ∈ values := by
    simp
  -- whether the text is there is told by the values, which mirror the items
  unfold extend
  rw [hpresent, ← hmem]
  cases hvalues : values.any (· == .text item) with
  | true => exact .inl ⟨hany.mp hvalues, rfl⟩
  | false =>
      refine .inr ⟨fun hmem => ?_, ?_⟩
      · rw [hany.mpr hmem] at hvalues
        cases hvalues
      · simp only [hpart]
        rfl

/-! ## Texts that are there -/

/-- Where the field is there, adding to it is adding to what is there. -/
theorem apply_add_of_follow {field : String}
    (h : document.follow document.root (fieldPath field) = some list) (item : String) :
    (add field item).apply document = extend item list document := by
  obtain ⟨whole, hwhole, hfollow⟩ := follow_cons_eq_some.mp h
  obtain ⟨number, hnumber, hfollow⟩ := follow_cons_eq_some.mp hfollow
  cases hfollow
  obtain ⟨entries, hroot⟩ := exists_part_of_next?_key hwhole
  obtain ⟨fields, hfields⟩ := exists_part_of_next?_key hnumber
  rw [next?_field hroot] at hwhole
  rw [next?_field hfields] at hnumber
  rw [apply_of_fieldOr hroot (fieldOr_of_some hwhole), applyAt, hfields]
  dsimp only
  rw [fieldOr_of_some hnumber]

/-- **A text that is there is not added**, whatever else there is. -/
theorem apply_of_isPresent (hclosed : document.IsClosed) {edit : Edit}
    (h : edit.IsPresent document.look) : edit.apply document = .ok none := by
  cases edit with
  | set field value => cases h
  | add field item =>
      obtain ⟨index, hlook⟩ := h
      obtain ⟨number, hfollow, hshape⟩ := exists_of_lookFrom hlook
      rw [follow_append] at hfollow
      obtain ⟨list, hlist, hitem⟩ := Option.bind_eq_some_iff.mp hfollow
      obtain ⟨found, hfound, hsame⟩ := follow_cons_eq_some.mp hitem
      cases hsame
      obtain ⟨items, hitems, hindex⟩ := exists_part_of_next?_item hfound
      rw [apply_add_of_follow hlist]
      rcases extend_spec hclosed (follow_lt hclosed hclosed.root hlist) hitems item with
        ⟨-, h⟩ | ⟨hnot, -⟩
      · exact h
      · exact absurd ⟨index, number, hindex, part_of_shape_scalar hshape⟩ hnot

/-! ## What an edit changes -/

variable {edit : Edit}

theorem sectionPath_isPrefix_route (edit : Edit) : sectionPath <+: edit.route := by
  cases edit with
  | add field item => exact ⟨[.key (.text field)], rfl⟩
  | set field value => exact List.prefix_rfl

/-- The section that is edited is there or is added, and stands in one place. -/
theorem exists_section (hclosed : document.IsClosed) (hfits : edit.Fits document) :
    ∃ whole fields, ∃ middle : Document, edit.apply document = edit.applyAt whole middle ∧
      middle.IsClosed ∧ middle.IsOnlyAt sectionPath whole ∧ middle.part whole = .mapping fields ∧
      (∀ path, path ≠ sectionPath → middle.look path = document.look path) ∧
      (middle = document ∨ fields = []) := by
  obtain ⟨entries, hroot⟩ := exists_part_of_shape_mapping (Option.some.inj hfits.top)
  have honly : document.IsOnlyAt [] document.root :=
    hfits.unshared [] List.nil_prefix _ rfl
  obtain ⟨whole, middle, hfieldOr, hmiddle, hwhole, hlook, hnew⟩ :=
    fieldOr_spec hclosed honly hroot .mapping fun number hnumber =>
      hfits.unshared sectionPath (sectionPath_isPrefix_route edit) number
        (follow_cons_eq_some.mpr ⟨number, (next?_field hroot _).trans hnumber, rfl⟩)
  have happly : edit.apply document = edit.applyAt whole middle :=
    apply_of_fieldOr hroot hfieldOr edit
  -- a section that was there is a mapping because the edit fits it
  rcases hnew with ⟨-, rfl⟩ | ⟨-, hpart⟩
  · have hshape : middle.look sectionPath = some (middle.shape whole) := hwhole.look_self
    have hmapping : middle.shape whole = .mapping := by
      rcases hfits.field with hnone | hmapping
      · rw [hnone] at hshape
        cases hshape
      · rw [hmapping] at hshape
        exact (Option.some.inj hshape).symm
    obtain ⟨fields, hpart⟩ := exists_part_of_shape_mapping hmapping
    exact ⟨whole, fields, middle, happly, hclosed, hwhole, hpart, fun _ _ => rfl, .inl rfl⟩
  · exact ⟨whole, [], middle, happly, hmiddle, hwhole, hpart, hlook, .inr rfl⟩

/-- **What setting a field changes.** -/
theorem changes_set {field : String} {value : Value} (hclosed : document.IsClosed)
    (hfits : (set field value).Fits document) :
    ∃ after, (set field value).apply document = .ok (some after) ∧
      (set field value).Changes document.look after.look := by
  obtain ⟨whole, fields, middle, happly, hmiddle, honly, hpart, hlook, -⟩ :=
    exists_section hclosed hfits
  obtain ⟨hadded, hkeeps, hshows⟩ := shows_addValue middle hmiddle value
  have hsize := honly.lt hmiddle
  -- the value is built first, apart from all that is there, and then the field leads to it
  have hholder : (middle.addValue value).2.IsHolder sectionPath whole fields
      (middle.addValue value).1 := by
    refine ⟨honly.of_keeps hmiddle hkeeps, ?_, hshows.size, fun rest h => ?_⟩
    · rw [hkeeps.parts whole hsize not_false, hpart]
    · exact Nat.not_le_of_lt hsize (hshows.fresh rest whole h)
  refine ⟨(middle.addValue value).2.putField whole fields field (middle.addValue value).1, ?_, ?_⟩
  · rw [happly, applyAt, hpart]
  · have hadd : (middle.addValue value).2.look = middle.look := by
      rw [look, hkeeps.root, lookFrom_of_keeps hkeeps hmiddle hmiddle.root fun _ _ _ => not_false]
      rfl
    have hold : ∀ path, path ≠ sectionPath → ¬ fieldPath field <+: path →
        ((middle.addValue value).2.putField whole fields field
          (middle.addValue value).1).look path = document.look path := by
      intro path hpath hprefix
      rw [hholder.look_putField hadded, hadd, ← hlook path hpath]
      exact Look.replaced_of_not_prefix hprefix
    refine ⟨?_, ?_, fun rest => ?_, fun path hbefore hafter => hold path ?_ hafter⟩
    · have hsection : [] ≠ sectionPath := by
        intro h
        cases h
      rw [hold [] hsection fun h => by cases List.prefix_nil.mp h]
      exact hfits.top
    · rw [(hholder.isOnlyAt_putField hadded field).look_self,
        shape_putField hadded hholder.part (Nat.lt_of_lt_of_le hsize hkeeps.size)]
    · rw [hholder.look_putField hadded, hshows.look]
      exact Look.replaced_append (fieldPath field) value.look _ rest
    · rintro rfl
      exact hbefore ⟨[.key (.text field)], rfl⟩

/-- **What adding a text changes.** -/
theorem changes_add {field item : String} (hclosed : document.IsClosed)
    (hfits : (add field item).Fits document)
    (habsent : ¬ (add field item).IsPresent document.look) :
    ∃ after, (add field item).apply document = .ok (some after) ∧
      (add field item).Changes document.look after.look := by
  obtain ⟨whole, fields, middle, happly, hmiddle, honly, hpart, hlook, hsame⟩ :=
    exists_section hclosed hfits
  -- the section, then the list in it: each is there, and in one place only, or it is new
  have hthere : ∀ number, middle.field? fields field = some number →
      middle.IsOnlyAt (fieldPath field) number := by
    intro number hnumber
    rcases hsame with rfl | rfl
    · refine hfits.unshared (fieldPath field) List.prefix_rfl number ?_
      rw [show fieldPath field = sectionPath ++ [.key (.text field)] from rfl, follow_append,
        honly.follow]
      exact follow_cons_eq_some.mpr ⟨number, (next?_field hpart _).trans hnumber, rfl⟩
    · cases hnumber
  obtain ⟨list, before, hfieldOr, hbefore, hlist, hlook', hnew⟩ :=
    fieldOr_spec hmiddle honly hpart .list hthere
  have hfield : ∀ path, path ≠ fieldPath field → path ≠ sectionPath →
      before.look path = document.look path :=
    fun path hpath hpath' => (hlook' path hpath).trans (hlook path hpath')
  have hlist' : before.IsOnlyAt (fieldPath field) list := hlist
  have hshape : before.look (fieldPath field) = some (before.shape list) := hlist'.look_self
  obtain ⟨items, hitems, hcount⟩ : ∃ items, before.part list = .list items ∧
      (document.look (fieldPath field) = some (.list items.length) ∨
        document.look (fieldPath field) = none ∧ items.length = 0) := by
    have hmiddleLook : middle.look (fieldPath field) = document.look (fieldPath field) :=
      hlook _ nofun
    rcases hnew with ⟨-, rfl⟩ | ⟨hnone, hpart'⟩
    · rw [hmiddleLook] at hshape
      rcases hfits.list field item rfl with hnone | ⟨count, hcount⟩
      · rw [hnone] at hshape
        cases hshape
      · rw [hcount] at hshape
        obtain ⟨items, hitems, hlength⟩ :=
          exists_part_of_shape_list (Option.some.inj hshape).symm
        exact ⟨items, hitems, .inl (by rw [hcount, hlength])⟩
    · exact ⟨[], hpart', .inr ⟨hmiddleLook.symm.trans hnone, rfl⟩⟩
  -- the text is absent, so the list is extended
  have hextend : extend item list before =
      .ok (some (before.append list items (.text item))) := by
    rcases extend_spec hbefore (hlist'.lt hbefore) hitems item with ⟨hthere, -⟩ | ⟨-, h⟩
    · obtain ⟨index, number, hindex, htext⟩ := hthere
      refine absurd ⟨index, ?_⟩ habsent
      rw [← hfield _ (by simp) (by simp [fieldPath, sectionPath]), ← hlist'.lookFrom,
        lookFrom_cons, next?_of_item hitems, hindex, Option.bind_some, lookFrom_nil,
        shape_of_scalar htext]
    · exact h
  refine ⟨before.append list items (.text item), ?_, items.length, hcount, ?_⟩
  · rw [happly, applyAt, hpart]
    dsimp only
    rw [hfieldOr]
    exact hextend
  -- what is seen changes at the list and behind its last item, and nowhere else
  · obtain ⟨hlength, hlast, hother⟩ := look_append hbefore hlist' hitems (.text item)
    refine ⟨?_, ?_, hlength, fun rest => ?_, fun path hprefix hafter => ?_⟩
    · have htop := hother [] nofun fun h => nomatch List.prefix_nil.mp h
      exact (htop.trans (hfield [] nofun nofun)).trans hfits.top
    · rw [hother sectionPath nofun fun h => by simpa [fieldPath, sectionPath] using h.length_le,
        hlook' sectionPath (by simp [sectionPath]), honly.look_self, shape_of_mapping hpart]
    · rw [hlast]
      cases rest <;> rfl
    · have hne : path ≠ fieldPath field := by
        rintro rfl
        exact hprefix (List.prefix_append _ _)
      have hne' : path ≠ sectionPath := by
        rintro rfl
        exact hprefix ⟨[.key (.text field), .item items.length], rfl⟩
      rw [hother path hne hafter, hfield path hne hne']

/-- **What an edit changes in a document that it fits.** -/
theorem apply_of_fits (hclosed : document.IsClosed) (hfits : edit.Fits document)
    (habsent : ¬ edit.IsPresent document.look) :
    ∃ after, edit.apply document = .ok (some after) ∧
      edit.Changes document.look after.look := by
  cases edit with
  | add field item => exact changes_add hclosed hfits habsent
  | set field value => exact changes_set hclosed hfits

end Edit

end ModuleResolution
