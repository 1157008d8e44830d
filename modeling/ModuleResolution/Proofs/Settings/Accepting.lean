import ModuleResolution.Proofs.Settings.Updating

/-! # Editing what has been read

Settings that are read can be edited, as long as the section is a mapping or missing, and what was
put there is read back (`update_of_options`). Parts may be shared here: the path through the section
to the field still leads where it should (`Edit.apply_made`), even if the same part stands elsewhere
and is changed there too.
-/

set_option autoImplicit false

namespace ModuleResolution

open Yaml (Document Look Step)
open Yaml.Document

/-! ## Lists of scalars -/

namespace Yaml.Document

variable {document : Document} {number : Nat} {items : List Nat} {scalars : List Scalar}

def AreScalars (document : Document) (items : List Nat) (scalars : List Scalar) : Prop :=
  List.Forall₂ (fun item s => document.part item = .scalar s) items scalars

theorem lookFrom_of_scalar {s : Scalar} (h : document.part number = .scalar s) :
    document.lookFrom number = (Value.scalar s).look := by
  refine lookFrom_eq_of_next? (shape_of_scalar h) fun step => ?_
  rw [next?_of_scalar h]
  cases step <;> exact .none

theorem lookFrom_of_areScalars (hpart : document.part number = .list items)
    (h : document.AreScalars items scalars) :
    document.lookFrom number = (Value.list (scalars.map .scalar)).look := by
  have hitems : List.Forall₂ (fun inner below => document.lookFrom inner = below.look) items
      (scalars.map Value.scalar) := by
    rw [List.forall₂_map_right_iff]
    exact h.imp fun _ _ => lookFrom_of_scalar
  refine lookFrom_eq_of_next? ?_ fun step => ?_
  · rw [shape_of_list hpart, Value.shape, hitems.length_eq]
  · cases step with
    | key key =>
        rw [next?_of_list_key hpart]
        exact .none
    | item index =>
        rw [next?_of_item hpart]
        exact rel_getElem? hitems index

/-- What looks like a list of scalars is one. -/
theorem exists_areScalars (h : document.lookFrom number = (Value.list (scalars.map .scalar)).look) :
    ∃ items, document.part number = .list items ∧ document.AreScalars items scalars := by
  have hshape : document.shape number = .list scalars.length := by
    have hhere := congrFun h []
    rw [lookFrom_nil, Value.look, Value.shape, List.length_map] at hhere
    exact Option.some.inj hhere
  obtain ⟨items, hpart, hlength⟩ := exists_part_of_shape_list hshape
  refine ⟨items, hpart, List.forall₂_iff_get.mpr ⟨hlength, fun index hitem hscalar => ?_⟩⟩
  have hindex := congrFun h [.item index]
  rw [lookFrom_cons, next?_of_item hpart, List.getElem?_eq_getElem hitem, Option.bind_some,
    lookFrom_nil, Value.look, Value.next?, List.getElem?_map, List.getElem?_eq_getElem hscalar]
    at hindex
  exact part_of_shape_scalar (Option.some.inj hindex)

/-- What has the form of scalars other than null is the list of these scalars. -/
theorem exists_areScalars_of_forall₂ {values : List Value}
    (h : List.Forall₂ document.Mirrors items values)
    (hvalues : ∀ value ∈ values, ∃ s : Scalar, value = .scalar s ∧ s ≠ .null) :
    ∃ scalars, document.AreScalars items scalars := by
  induction h with
  | nil => exact ⟨[], .nil⟩
  | @cons item value items values hfirst _ ih =>
      obtain ⟨scalars, hscalars⟩ := ih fun value hvalue => hvalues value (List.mem_cons_of_mem _ hvalue)
      obtain ⟨s, rfl, hne⟩ := hvalues value List.mem_cons_self
      cases hfirst with
      | scalar hitem => exact ⟨s :: scalars, .cons hitem hscalars⟩
      | cut _ => exact absurd rfl hne

/-- The value of a list of scalars is the list of these scalars. -/
theorem AreScalars.eq_of_mirrors (h : document.AreScalars items scalars)
    (hpart : document.part number = .list items) {value : Value}
    (hmirrors : document.Mirrors number value) : value = .list (scalars.map .scalar) := by
  have hfinite : document.IsFinite number := by
    refine .intro number fun inner hinner => ?_
    rw [LiesIn, hpart] at hinner
    obtain ⟨s, hs⟩ := exists_of_mem_left h inner hinner
    exact isFinite_of_scalar hs
  have hitems : ∀ {values : List Value}, List.Forall₂ document.Mirrors items values →
      values = scalars.map .scalar := by
    clear hpart hfinite
    unfold AreScalars at h
    induction h with
    | nil =>
        intro values hvalues
        cases hvalues
        rfl
    | cons hfirst _ ih =>
        intro values hvalues
        cases hvalues with
        | cons hvalue hrest => rw [hvalue.eq_scalar hfirst, ih hrest, List.map_cons]
  -- only a list mirrors a list, and it is not cut off, as scalars hold nothing
  cases hmirrors with
  | scalar hpart' => rw [hpart'] at hpart; cases hpart
  | cut hcut => exact absurd hfinite hcut
  | list hpart' hvalues =>
      rw [hpart'] at hpart
      cases hpart
      rw [hitems hvalues]
  | set hpart' => rw [hpart'] at hpart; cases hpart
  | mapping hpart' _ _ => rw [hpart'] at hpart; cases hpart

theorem AreScalars.of_keeps {other : Document} (h : document.AreScalars items scalars)
    (hitems : ∀ item ∈ items, item < document.parts.size) {isChanged : Nat → Prop}
    (hkeeps : Keeps isChanged document other)
    (hchanged : ∀ index, isChanged index → ∀ s, document.part index ≠ .scalar s) :
    other.AreScalars items scalars := by
  unfold AreScalars at h ⊢
  induction h with
  | nil => exact .nil
  | @cons item s items scalars hfirst _ ih =>
      refine .cons ?_ (ih fun item hitem => hitems item (List.mem_cons_of_mem _ hitem))
      rw [hkeeps.parts item (hitems item List.mem_cons_self)
        fun hitem => hchanged item hitem s hfirst, hfirst]

theorem AreScalars.mem (h : document.AreScalars items scalars) {index : Nat} {s : Scalar}
    (hindex : items[index]? = some number) (hpart : document.part number = .scalar s) :
    s ∈ scalars := by
  unfold AreScalars at h
  induction h generalizing index with
  | nil => cases hindex
  | cons hfirst _ ih =>
      cases index with
      | zero =>
          cases hindex
          rw [hpart] at hfirst
          cases hfirst
          exact List.mem_cons_self
      | succ index => exact List.mem_cons_of_mem _ (ih hindex)

/-- A list that is reached through keys is reached when something is put behind its items. -/
theorem follow_append_of_keys (hclosed : document.IsClosed) {list : Nat}
    (hpart : document.part list = .list items) (s : Scalar) {path : List Step}
    (hkeys : ∀ step ∈ path, ∃ key, step = .key key)
    (hfollow : document.follow document.root path = some list) :
    (document.append list items s).follow (document.append list items s).root path =
      some list := by
  have hkeeps := keeps_append (follow_lt hclosed hclosed.root hfollow) hpart s
  rw [hkeeps.root, ← hfollow]
  refine follow_of_keeps hkeeps hclosed hclosed.root fun front back inner hpath hback hfront => ?_
  rintro rfl
  cases back with
  | nil => exact hback rfl
  | cons step rest =>
      obtain ⟨key, rfl⟩ := hkeys step (by rw [← hpath]; simp)
      rw [← hpath, follow_append, hfront] at hfollow
      obtain ⟨next, hnext, -⟩ := follow_cons_eq_some.mp hfollow
      rw [next?_of_list_key hpart] at hnext
      cases hnext

end Yaml.Document

/-! ## Edits that are made -/

namespace Edit

variable {edit : Edit} {document : Document}

/-- The text is in the list of the field, or the value is that of the field. -/
def IsMade : Edit → Look → Prop
  | .add field item, look => ∃ scalars : List Scalar, .text item ∈ scalars ∧
    ∀ rest, look (fieldPath field ++ rest) = (Value.list (scalars.map .scalar)).look rest
  | .set field value, look => ∀ rest, look (fieldPath field ++ rest) = value.look rest

/-- The section is a mapping or missing, and so is a list of scalars to which something is to be
added. -/
structure Suits (edit : Edit) (document : Document) : Prop where
  top : document.look [] = some .mapping
  field : document.look sectionPath = none ∨ document.look sectionPath = some .mapping
  list (field item : String) (h : edit = .add field item) :
    document.look (fieldPath field) = none ∨ ∃ scalars : List Scalar,
      ∀ rest, document.look (fieldPath field ++ rest) =
        (Value.list (scalars.map .scalar)).look rest

/-- A field that is edited is not named as the section is. -/
theorem ne_name_of_check (hcheck : edit.check = .ok ()) {field : String}
    (hfield : (∃ item, edit = .add field item) ∨ ∃ value, edit = .set field value) :
    field ≠ Section.name := by
  rintro rfl
  rcases hfield with ⟨item, rfl⟩ | ⟨value, rfl⟩
  · exact absurd hcheck (by rw [check, if_neg (by decide)]; exact nofun)
  · exact absurd hcheck (by rw [check, if_neg (by decide)]; exact nofun)

/-- A field of the section is reached when it is put there, also if the section holds itself. -/
theorem follow_fieldPath {middle after : Document} {whole number : Nat} {field : String}
    (hclosed : middle.IsClosed) (hne : field ≠ Section.name)
    (hwhole : middle.next? middle.root (.key (.text Section.name)) = some whole)
    (hkeeps : Keeps (· = whole) middle after)
    (hnext : ∀ step, after.next? whole step =
      if step = .key (.text field) then some number else middle.next? whole step) :
    after.follow after.root (fieldPath field) = some number := by
  have hroot : after.next? after.root (.key (.text Section.name)) = some whole := by
    rw [hkeeps.root]
    by_cases hsame : middle.root = whole
    · rw [hsame] at hwhole ⊢
      rw [hnext, if_neg fun h => hne (Scalar.text.inj (Step.key.inj h)).symm, hwhole]
    · rw [next?_of_keeps hkeeps hclosed hclosed.root hsame, hwhole]
  exact follow_cons_eq_some.mpr ⟨whole, hroot,
    follow_cons_eq_some.mpr ⟨number, (hnext _).trans (if_pos rfl), rfl⟩⟩

/-- The section that is edited, which is there or is added. -/
theorem exists_section_of_suits (hclosed : document.IsClosed) (hsuits : edit.Suits document) :
    ∃ whole fields, ∃ middle : Document, edit.apply document = edit.applyAt whole middle ∧
      middle.IsClosed ∧ middle.next? middle.root (.key (.text Section.name)) = some whole ∧
      middle.part whole = .mapping fields ∧ (middle = document ∨ fields = []) := by
  obtain ⟨entries, hroot⟩ := exists_part_of_shape_mapping (Option.some.inj hsuits.top)
  obtain ⟨whole, middle, hfieldOr, hmiddle, hkeeps, hnext, hnew⟩ :=
    next?_fieldOr hclosed hclosed.root hroot .mapping Section.name
  have happly : edit.apply document = edit.applyAt whole middle :=
    apply_of_fieldOr hroot hfieldOr edit
  have hwhole : middle.next? middle.root (.key (.text Section.name)) = some whole := by
    rw [hkeeps.root, hnext, if_pos rfl]
  -- a section that was there is a mapping because the edit suits it
  rcases hnew with ⟨hfield, rfl⟩ | ⟨-, hpart⟩
  · have hlook : middle.look sectionPath = some (middle.shape whole) := by
      rw [look, sectionPath, lookFrom_cons, hwhole]
      rfl
    have hmapping : middle.shape whole = .mapping := by
      rcases hsuits.field with hnone | hmapping
      · rw [hnone] at hlook
        cases hlook
      · rw [hmapping] at hlook
        exact (Option.some.inj hlook).symm
    obtain ⟨fields, hpart⟩ := exists_part_of_shape_mapping hmapping
    exact ⟨whole, fields, middle, happly, hmiddle, hwhole, hpart, .inl rfl⟩
  · exact ⟨whole, [], middle, happly, hmiddle, hwhole, hpart, .inr rfl⟩

theorem made_set {field : String} {value : Value} (hclosed : document.IsClosed)
    (hcheck : (set field value).check = .ok ()) (hsuits : (set field value).Suits document) :
    ∃ after, (set field value).apply document = .ok (some after) ∧
      (set field value).IsMade after.look := by
  obtain ⟨whole, fields, middle, happly, hmiddle, hwhole, hpart, -⟩ :=
    exists_section_of_suits hclosed hsuits
  obtain ⟨hadded, hkeeps, hshows⟩ := shows_addValue middle hmiddle value
  have hsize := next?_lt hmiddle hwhole
  have hpart' : (middle.addValue value).2.part whole = .mapping fields := by
    rw [hkeeps.parts whole hsize not_false, hpart]
  have hsize' := Nat.lt_of_lt_of_le hsize hkeeps.size
  have hkeeps' := keeps_putField hpart' hsize' (middle.addValue value).1 field
  refine ⟨(middle.addValue value).2.putField whole fields field (middle.addValue value).1, ?_,
    fun rest => ?_⟩
  · rw [happly, applyAt, hpart]
  · have hwhole' : (middle.addValue value).2.next? (middle.addValue value).2.root
        (.key (.text Section.name)) = some whole := by
      rw [hkeeps.root, next?_of_keeps hkeeps hmiddle hmiddle.root not_false, hwhole]
    have hfollow := follow_fieldPath hadded (ne_name_of_check hcheck (.inr ⟨value, rfl⟩)) hwhole'
      hkeeps' (next?_putField hadded hpart' hsize' _ field)
    rw [look, lookFrom_append hfollow, ← hshows.look]
    refine congrFun (lookFrom_of_keeps hkeeps' hadded hshows.size fun path inner hinner => ?_) rest
    -- what is added lies behind the section
    exact Nat.ne_of_gt (Nat.lt_of_lt_of_le hsize (hshows.fresh path inner hinner))

theorem made_add {field item : String} (hclosed : document.IsClosed)
    (hcheck : (add field item).check = .ok ()) (hsuits : (add field item).Suits document) :
    ((add field item).apply document = .ok none ∧ (add field item).IsMade document.look) ∨
      ∃ after, (add field item).apply document = .ok (some after) ∧
        (add field item).IsMade after.look := by
  obtain ⟨whole, fields, middle, happly, hmiddle, hwhole, hpart, hsame⟩ :=
    exists_section_of_suits hclosed hsuits
  obtain ⟨list, before, hfieldOr, hbefore, hkeeps, hnext, hnew⟩ :=
    next?_fieldOr hmiddle (next?_lt hmiddle hwhole) hpart .list field
  have hfollow := follow_fieldPath hmiddle (ne_name_of_check hcheck (.inl ⟨item, rfl⟩)) hwhole
    hkeeps hnext
  have hsize : list < before.parts.size := follow_lt hbefore hbefore.root hfollow
  -- the list is one of scalars, or it is new and has no items
  obtain ⟨items, scalars, hitems, hscalars, hdocument⟩ : ∃ items scalars,
      before.part list = .list items ∧ before.AreScalars items scalars ∧
        (before = document ∨ items = []) := by
    rcases hnew with ⟨hfield, rfl⟩ | ⟨-, hlist⟩
    · rcases hsame with rfl | rfl
      · rcases hsuits.list field item rfl with hnone | ⟨scalars, hlook⟩
        · rw [look, lookFrom, hfollow] at hnone
          cases hnone
        · have hlist : before.lookFrom list = (Value.list (scalars.map .scalar)).look :=
            funext fun rest => by rw [← hlook, look, lookFrom_append hfollow]
          obtain ⟨items, hitems, hscalars⟩ := exists_areScalars hlist
          exact ⟨items, scalars, hitems, hscalars, .inl rfl⟩
      · cases hfield
    · exact ⟨[], [], hlist, .nil, .inr rfl⟩
  have happly' : (add field item).apply document = extend item list before := by
    rw [happly, applyAt, hpart]
    dsimp only
    rw [hfieldOr]
  rcases extend_spec hbefore hsize hitems item with ⟨⟨index, number, hindex, htext⟩, hextend⟩ |
    ⟨-, hextend⟩
  -- the text is there already, or it is put behind the others
  · rcases hdocument with rfl | rfl
    · refine .inl ⟨happly'.trans hextend, scalars, hscalars.mem hindex htext, fun rest => ?_⟩
      rw [look, lookFrom_append hfollow, lookFrom_of_areScalars hitems hscalars]
    · cases hindex
  · have hkeeps' := keeps_append hsize hitems (.text item)
    have hbelow : ∀ item ∈ items, item < before.parts.size := by
      have hparts := hbefore.parts list
      rw [hitems] at hparts
      exact hparts
    have hscalars' : (before.append list items (.text item)).AreScalars
        (items ++ [before.parts.size]) (scalars ++ [.text item]) := by
      refine List.rel_append (hscalars.of_keeps hbelow hkeeps' ?_)
        (.cons (part_append_size hsize _) .nil)
      rintro _ rfl s
      rw [hitems]
      intro h
      cases h
    have hfollow' := follow_append_of_keys hbefore hitems (.text item)
      (fun step hstep => by
        rcases List.mem_pair.mp hstep with rfl | rfl <;> exact ⟨_, rfl⟩) hfollow
    refine .inr ⟨_, happly'.trans hextend, scalars ++ [.text item], by simp, fun rest => ?_⟩
    rw [look, lookFrom_append hfollow',
      lookFrom_of_areScalars (part_append hsize _) hscalars']

/-- A section that is no mapping is not edited. -/
theorem apply_of_no_mapping {whole : Nat}
    (hwhole : document.next? document.root (.key (.text Section.name)) = some whole)
    (hpart : ∀ fields, document.part whole ≠ .mapping fields) (edit : Edit) :
    edit.apply document = .error (edit.noSection (document.valueAt whole)) := by
  obtain ⟨entries, hroot⟩ := exists_part_of_next?_key hwhole
  rw [next?_field hroot] at hwhole
  rw [apply_of_fieldOr hroot (fieldOr_of_some hwhole)]
  unfold applyAt
  split
  · next fields hfields => exact absurd hfields (hpart fields)
  · rfl

/-- **An edit that suits a document is made in it**, whatever is shared. -/
theorem apply_made (hclosed : document.IsClosed) (hcheck : edit.check = .ok ())
    (hsuits : edit.Suits document) :
    (edit.apply document = .ok none ∧ edit.IsMade document.look) ∨
      ∃ after, edit.apply document = .ok (some after) ∧ edit.IsMade after.look := by
  cases edit with
  | add field item => exact made_add hclosed hcheck hsuits
  | set field value => exact .inr (made_set hclosed hcheck hsuits)

/-! ## What is read back -/

/-- The text is among what is listed for the field, or the value is that of the field. -/
def IsReadBack : Edit → Mapping → Prop
  | .add field item, entries => ∃ found items, entries.get? (.text field) = some found ∧
    found.listed = some items ∧ .text item ∈ items
  | .set field value, entries => ∃ found, entries.get? (.text field) = some found ∧
    (Look.IsDefined value.look → found.look = value.look)

/-- **What an edit has made is in the section that is read.** -/
theorem isReadBack_of_isMade (hsound : document.IsSound) (h : edit.IsMade document.look) :
    edit.IsReadBack (SettingsPlace.sectionEntries document) := by
  cases edit with
  | set field value => exact SettingsPlace.get?_sectionEntries_of_look hsound h
  | add field item =>
      obtain ⟨scalars, hitem, hlook⟩ := h
      obtain ⟨found, hfound, -⟩ := SettingsPlace.get?_sectionEntries_of_look hsound hlook
      obtain ⟨number, hnumber, -⟩ := exists_of_lookFrom (hlook [])
      rw [List.append_nil] at hnumber
      have hfrom : document.lookFrom number = (Value.list (scalars.map .scalar)).look :=
        funext fun rest => by rw [← hlook, look, lookFrom_append hnumber]
      obtain ⟨items, hitems, hscalars⟩ := exists_areScalars hfrom
      obtain ⟨value, hvalue, hmirrors⟩ :=
        SettingsPlace.exists_mirrors_of_follow hsound.isClosed hnumber
      rw [hfound] at hvalue
      cases hvalue
      obtain rfl := hscalars.eq_of_mirrors hitems hmirrors
      exact ⟨_, _, hfound, rfl, List.mem_map_of_mem hitem⟩

theorem IsReadBack.congr {entries merged : Mapping} (h : edit.IsReadBack entries)
    (hsame : ∀ field, merged.get? (.text field) = entries.get? (.text field)) :
    edit.IsReadBack merged := by
  cases edit with
  | add field item =>
      obtain ⟨found, items, hfound, hrest⟩ := h
      exact ⟨found, items, (hsame field).trans hfound, hrest⟩
  | set field value =>
      obtain ⟨found, hfound, hrest⟩ := h
      exact ⟨found, (hsame field).trans hfound, hrest⟩

/-- What holds something is a mapping. -/
theorem IsMade.look_nil (h : edit.IsMade document.look) : document.look [] = some .mapping := by
  have hfollow : ∃ field number, document.follow document.root (fieldPath field) = some number := by
    cases edit with
    | add field item =>
        obtain ⟨scalars, -, hlook⟩ := h
        obtain ⟨number, hnumber, -⟩ := exists_of_lookFrom (hlook [])
        exact ⟨field, number, by rw [← hnumber, List.append_nil]⟩
    | set field value =>
        obtain ⟨number, hnumber, -⟩ := exists_of_lookFrom (h [])
        exact ⟨field, number, by rw [← hnumber, List.append_nil]⟩
  obtain ⟨field, number, hfollow⟩ := hfollow
  obtain ⟨whole, hwhole, -⟩ := follow_cons_eq_some.mp hfollow
  obtain ⟨entries, hroot⟩ := exists_part_of_next?_key hwhole
  rw [look, lookFrom_nil, shape_of_mapping hroot]

/-- A text that is a member of a set is not added. -/
theorem apply_of_set {field item : String} {number : Nat} {members : List Scalar}
    (hclosed : document.IsClosed)
    (hfollow : document.follow document.root (fieldPath field) = some number)
    (hmirrors : document.Mirrors number (.set members)) (hitem : .text item ∈ members) :
    (add field item).apply document = .ok none := by
  have hvalue : document.valueAt number = .set members := by
    have hisValue := isValue_valueAt hclosed (follow_lt hclosed hclosed.root hfollow)
    cases hmirrors with
    | set hpart => exact hisValue.of_set hpart
  rw [apply_add_of_follow hfollow]
  unfold extend
  rw [hvalue]
  simp only [isPresent, List.contains_iff_mem.mpr hitem]
  rfl

end Edit

namespace Options

/-- Where the texts of a list are read without a problem, each item is a text or encodes one. -/
theorem exists_of_mem_readTexts {field : String} {items : List Value} {index : Nat}
    (h : (readTexts field index items).2 = []) :
    ∀ item ∈ items, ∃ s : Scalar, item = .scalar s ∧ s ≠ .null := by
  induction items generalizing index with
  | nil => exact fun item hitem => absurd hitem List.not_mem_nil
  | cons item rest ih =>
      unfold readTexts at h
      cases hitem : readText item with
      | error kind =>
          rw [hitem] at h
          cases h
      | ok text =>
          rw [hitem] at h
          intro other hother
          rcases List.mem_cons.mp hother with rfl | hother
          · unfold readText at hitem
            split at hitem
            · exact ⟨_, rfl, by simp⟩
            · exact ⟨_, rfl, by simp⟩
            · cases hitem
          · exact ih h other hother

/-- A list field of options without problems is missing, or a list or set of what texts can be. -/
theorem listed_of_ofMapping {entries : Mapping} {options : Options}
    (h : ofMapping entries = .ok options) {field : String} (hfield : field ∈ listFields) :
    entries.get? (.text field) = none ∨
      (∃ items, entries.get? (.text field) = some (.list items) ∧
        ∀ item ∈ items, ∃ s : Scalar, item = .scalar s ∧ s ≠ .null) ∨
      ∃ members, entries.get? (.text field) = some (.set members) := by
  obtain ⟨⟨_, texts⟩, htexts, rfl⟩ :=
    List.mem_map.mp (show field ∈ options.lists.map (·.1) from hfield)
  have hread := readList_of_ofMapping h htexts
  unfold readList Entries.field? at hread
  split at hread
  · next hnone => exact .inl hnone
  · next items hitems =>
      exact .inr (.inl ⟨items, hitems, exists_of_mem_readTexts (congrArg Prod.snd hread)⟩)
  · next members hmembers => exact .inr (.inr ⟨members, hmembers⟩)
  · cases congrArg Prod.snd hread

end Options

namespace SettingsPlace

variable {settings : SettingsPlace} {scope : Scope} {edit : Edit} {place : Place} {path : String}
  {used : Document}

/-! ## The only settings file -/

/-- Of the settings files that of the scope alone is there. -/
structure HasOnly (settings : SettingsPlace) (scope : Scope) (place : Place) : Prop where
  there : place.kind? (settings.file scope) = some .file
  others (other : Scope) (h : other ≠ scope) : place.kind? (settings.file other) ≠ some .file

theorem exists_merged_of_hasOnly (hhome : settings.isHomeless = false)
    (honly : settings.HasOnly scope place)
    (hused : documentAt place (settings.file scope) = .ok used) :
    ∃ merged, settings.merged.run.outcome place = .ok merged ∧
      ∀ field, merged.get? (.text field) = (sectionEntries used).get? (.text field) := by
  have hsection : settings.sectionAt place scope = .ok (sectionEntries used) := by
    rw [sectionAt, hused]
    rfl
  exact get?_merged_of_one hhome hsection fun other hother =>
    sectionAt_of_kind? (honly.others other hother)

theorem look_nil_of_documentAt (h : documentAt place path = .ok used) :
    used.look [] = some .mapping := by
  have hmapping : ∀ reading, documentOf reading = .ok used → used.look [] = some .mapping := by
    intro reading hreading
    unfold documentOf at hreading
    split at hreading
    · cases hreading
      rfl
    · cases hreading
    · cases hreading
    · split at hreading
      · next hcontent =>
          cases hreading
          rw [look, lookFrom_nil, shape_of_mapping hcontent]
      · cases hreading
        rfl
  unfold documentAt at h
  split at h
  · exact hmapping _ h
  · cases h
    rfl

/-- Something is only noted of a file that counts as a document without entries. -/
theorem notes_readFile_of_ne (h : documentAt place path = .ok used) (hne : used ≠ noEntries) :
    (readFile path).run.notes place = [] := by
  unfold documentAt at h
  split at h
  · next octets hoctets =>
      refine notes_readFile_eq_nil place hoctets fun source hsource => ?_
      rw [← hsource] at h
      unfold readDocument
      unfold documentOf at h
      cases hparse : Yaml.parse source with
      | error failure =>
          rw [hparse] at h
          cases failure with
          | malformed => exact absurd (Except.ok.inj h).symm hne
          | valueless fault => cases h
          | undecodable failure => cases h
      | ok document =>
          rw [hparse] at h
          dsimp only at h ⊢
          split at h
          · next hempty hcontent =>
              rw [hempty, hcontent]
              rfl
          · exact absurd (Except.ok.inj h).symm hne
  · exact absurd (Except.ok.inj h).symm hne

/-- Where options are built from a document, an edit suits it, or its text is there already. -/
theorem suits_or_isReadBack {entries : Mapping} {options : Options}
    (hoptions : Options.ofMapping entries = .ok options)
    (hentries : ∀ field, entries.get? (.text field) = (sectionEntries used).get? (.text field))
    (hcheck : edit.check = .ok ()) (hused : documentAt place path = .ok used)
    (hsection : used.look Edit.sectionPath = none ∨ used.look Edit.sectionPath = some .mapping)
    (hset : ∀ field item members, edit = .add field item →
      entries.get? (.text field) = some (.set members) → .text item ∈ members) :
    edit.Suits used ∨ edit.apply used = .ok none ∧ edit.IsReadBack (sectionEntries used) := by
  have htop := look_nil_of_documentAt hused
  have hclosed := (isSound_of_documentAt hused).isClosed
  cases edit with
  | set field value => exact .inl ⟨htop, hsection, nofun⟩
  | add field item =>
      have hfield : field ∈ Options.listFields := by
        unfold Edit.check at hcheck
        dsimp only at hcheck
        split at hcheck
        · next hfield => exact List.contains_iff_mem.mp hfield
        · cases hcheck
      -- options are only built where the field is missing, a list of scalars or a set
      rcases Options.listed_of_ofMapping hoptions hfield with
        hnone | ⟨items, hitems, hscalars⟩ | ⟨members, hmembers⟩
      · refine .inl ⟨htop, hsection, fun field' item' heq => .inl ?_⟩
        cases heq
        cases hlook : used.look (Edit.fieldPath field) with
        | none => rfl
        | some shape =>
            obtain ⟨number, hnumber, -⟩ := exists_of_lookFrom hlook
            obtain ⟨value, hvalue, -⟩ := exists_mirrors_of_follow hclosed hnumber
            rw [← hentries, hnone] at hvalue
            cases hvalue
      · refine .inl ⟨htop, hsection, fun field' item' heq => .inr ?_⟩
        cases heq
        obtain ⟨number, hfollow, hmirrors⟩ :=
          exists_mirrors_of_get? hclosed ((hentries field).symm.trans hitems)
        cases hmirrors with
        | list hpart hvalues =>
            obtain ⟨scalars, hare⟩ := exists_areScalars_of_forall₂ hvalues hscalars
            refine ⟨scalars, fun rest => ?_⟩
            rw [look, Edit.fieldPath, lookFrom_append hfollow, lookFrom_of_areScalars hpart hare]
      · have hentry := (hentries field).symm.trans hmembers
        obtain ⟨number, hfollow, hmirrors⟩ := exists_mirrors_of_get? hclosed hentry
        have hitem := hset field item members rfl hmembers
        exact .inr ⟨Edit.apply_of_set hclosed hfollow hmirrors hitem, _, _, hentry, rfl,
          List.mem_map_of_mem hitem⟩

/-- **Settings that are read can be edited, and the edit is read back.** If of the settings files one
alone is there, also when what was left out of it has been logged, options are built from it and its
section is a mapping or missing, then an update of its scope succeeds, and the merged section has
what was added or set. Of what is written it is asked that it can be, and that it is read again as it
was; of a set in the place of a list it is asked that it has the text already. -/
theorem update_of_options {options : Options} (hhome : settings.isHomeless = false)
    (honly : settings.HasOnly scope place)
    (hoptions : settings.options.run.outcome place = .ok (.ok options))
    (hcheck : edit.check = .ok ()) (hused : documentAt place (settings.file scope) = .ok used)
    (hsection : used.look Edit.sectionPath = none ∨ used.look Edit.sectionPath = some .mapping)
    (hset : ∀ field item members, edit = .add field item →
      (sectionEntries used).get? (.text field) = some (.set members) → .text item ∈ members)
    (hwritten : ∀ planned, (settings.plan scope edit).run.outcome place = .ok (some planned) →
      (∃ text, Yaml.write planned = .ok text) ∧ Reloads planned)
    (journal : Journal) (moment : String)
    (hlogged : settings.HasOnly scope
      (journal.placeAfter moment place ((settings.plan scope edit).run.notes place))) :
    ∃ after merged, (settings.update journal scope edit).run moment place = (.ok (), after) ∧
      settings.merged.run.outcome after = .ok merged ∧ edit.IsReadBack merged := by
  obtain ⟨entries, hentries, hsame⟩ := exists_merged_of_hasOnly hhome honly hused
  have hmapping : Options.ofMapping entries = .ok options := by
    rw [outcome_options, hentries] at hoptions
    exact Except.ok.inj hoptions
  have hsuits := suits_or_isReadBack hmapping hsame hcheck hused hsection
    fun field item members heq h => hset field item members heq ((hsame field).symm.trans h)
  have hsound := isSound_of_documentAt hused
  have hplan : (settings.plan scope edit).run.outcome place = edit.apply used :=
    outcome_plan_of_check hhome hcheck hused
  have happly : edit.apply used = .ok none ∧ edit.IsReadBack (sectionEntries used) ∨
      ∃ planned, edit.apply used = .ok (some planned) ∧ edit.IsMade planned.look := by
    rcases hsuits with hsuits | hthere
    · rcases Edit.apply_made hsound.isClosed hcheck hsuits with ⟨hnone, hmade⟩ | hsome
      · exact .inl ⟨hnone, Edit.isReadBack_of_isMade hsound hmade⟩
      · exact .inr hsome
    · exact .inl hthere
  rcases happly with ⟨hnone, hback⟩ | ⟨planned, hsome, hmade⟩
  · -- a document without entries would have been changed
    have hne : used ≠ noEntries := by
      rintro rfl
      obtain ⟨planned, hplanned⟩ := exists_apply_noEntries edit
      rw [hnone] at hplanned
      cases hplanned
    have hrun : (settings.update journal scope edit).run moment place = (.ok (), place) := by
      rw [run_update_of_isHeld hhome hcheck hused (notes_readFile_of_ne hused hne), hnone]
    exact ⟨place, entries, hrun, hentries, hback.congr hsame⟩
  · rw [hsome] at hplan
    obtain ⟨⟨text, hwrite⟩, hreloads⟩ := hwritten planned hplan
    obtain ⟨after, hstore, hoctets, hkinds⟩ := exists_run_store hlogged.there moment
    obtain ⟨loaded, hloaded, hlook⟩ :=
      isHeld_of_octetsAt hreloads hwrite hoctets hmade.look_nil
    obtain ⟨reread, hreread, hlook', -, -⟩ := exists_documentAt hloaded
    have honlyAfter : settings.HasOnly scope after := by
      refine ⟨(hkinds _).trans hlogged.there, fun other hother => ?_⟩
      rw [hkinds]
      exact hlogged.others other hother
    obtain ⟨merged, hmerged, hsame'⟩ := exists_merged_of_hasOnly hhome honlyAfter hreread
    refine ⟨after, merged, ?_, hmerged, ?_⟩
    · rw [run_update, hplan]
      dsimp only
      rw [hstore, hwrite]
      rfl
    · rw [← hlook, ← hlook'] at hmade
      exact (Edit.isReadBack_of_isMade (isSound_of_documentAt hreread) hmade).congr hsame'

/-- A text is added to the list of the only settings file. -/
theorem update_of_options_add :
    let place := placeWith none (some (Utf8.encode "resolver:\n  extra_extensions: [svelte]\n")) none
    let edit := Edit.add "extra_extensions" "vue"
    inWork.options.run.outcome place = .ok (.ok { extraExtensions := ["svelte"] }) ∧
      ∃ after merged, (inWork.update {} .project edit).run "" place = (.ok (), after) ∧
        inWork.merged.run.outcome after = .ok merged ∧ edit.IsReadBack merged := by
  intro place edit
  let document : Document :=
    ⟨#[.mapping [(1, 2)], .scalar (.text "resolver"), .mapping [(3, 4)],
      .scalar (.text "extra_extensions"), .list [5], .scalar (.text "svelte")], 0⟩
  have honly : inWork.HasOnly .project place := by
    refine ⟨by decide +kernel, fun other hother => ?_⟩
    cases other with
    | user => decide +kernel
    | project => exact absurd rfl hother
    | machine => decide +kernel
  have hoptions : inWork.options.run.outcome place =
      .ok (.ok { extraExtensions := ["svelte"] }) := by
    decide +kernel
  have hused : documentAt place (inWork.file .project) = .ok document := by decide +kernel
  -- the field holds a list, so what is said about sets is said about nothing
  have hset : ∀ field item members, edit = .add field item →
      (sectionEntries document).get? (.text field) = some (.set members) →
        .text item ∈ members := by
    intro field item members heq hmembers
    obtain ⟨rfl, rfl⟩ :=
      Edit.add.inj (show Edit.add "extra_extensions" "vue" = .add field item from heq)
    have hlist : (sectionEntries document).get? (.text "extra_extensions") =
        some (.list [.text "svelte"]) := by
      decide +kernel
    rw [hlist] at hmembers
    cases hmembers
  have hwritten : ∀ planned, (inWork.plan .project edit).run.outcome place = .ok (some planned) →
      (∃ text, Yaml.write planned = .ok text) ∧ Reloads planned := by
    intro planned hplanned
    have hplan : (inWork.plan .project edit).run.outcome place = .ok (some
        ⟨#[.mapping [(1, 2)], .scalar (.text "resolver"), .mapping [(3, 4)],
          .scalar (.text "extra_extensions"), .list [5, 6], .scalar (.text "svelte"),
          .scalar (.text "vue")], 0⟩) := by
      decide +kernel
    rw [hplan] at hplanned
    cases hplanned
    have hwrite : Yaml.write
        ⟨#[.mapping [(1, 2)], .scalar (.text "resolver"), .mapping [(3, 4)],
          .scalar (.text "extra_extensions"), .list [5, 6], .scalar (.text "svelte"),
          .scalar (.text "vue")], 0⟩ =
        .ok "resolver:\n  extra_extensions:\n  - svelte\n  - vue\n" := by
      decide +kernel
    refine ⟨⟨_, hwrite⟩, fun text htext => ⟨_, ?_, rfl⟩⟩
    rw [hwrite] at htext
    cases htext
    decide +kernel
  have hlogged : (inWork.plan .project edit).run.notes place = [] := by decide +kernel
  exact ⟨hoptions, update_of_options (by decide) honly hoptions (by decide) hused (.inr rfl) hset
    hwritten {} "" (by rw [hlogged]; exact honly)⟩

/-- Options are built from a section without a value, but nothing can be added to it or set in it. -/
theorem update_of_empty_section :
    let place := placeWith none (some (Utf8.encode "resolver:\n")) none
    inWork.options.run.outcome place = .ok (.ok {}) ∧
      ((inWork.update {} .project (.add "extra_extensions" "vue")).run "" place).1 =
        .error (.noSectionToAdd .null) ∧
      ((inWork.update {} .project (.set "retry_from_parent" (.bool true))).run "" place).1 =
        .error (.noSectionToSet .null) := by
  decide +kernel

end SettingsPlace

end ModuleResolution
