import Mathlib.Data.List.Induction
import ModuleResolution.Proofs.Settings.Reading

/-! # Merging sections

The sections of the scopes are merged entry by entry. As long as no value of a list field that is
no list stands in front of a list (`HasMisfit`), merging does not fail and each item of a list field
was given as an item for that field (`isAccounted_merge`). So it is with the options that are read
from the result (`options_of_sections`).
-/

set_option autoImplicit false

namespace ModuleResolution

/-- The items of a value that may be given for a list field. -/
def Value.listed : Value → Option (List Value)
  | .list items => some items
  | .set members => some (members.map .scalar)
  | _ => none

namespace Section

/-! ## What is given for a field -/

def given (entries : Mapping) (field : String) : List Value :=
  (entries.filter fun entry => entry.1 = .text field).map (·.2)

def IsGiven (entries : Mapping) (field : String) (item : Value) : Prop :=
  ∃ value ∈ given entries field, ∃ items, value.listed = some items ∧ item ∈ items

/-- A value that is no list is given for the field right before a list. -/
def HasMisfit (entries : Mapping) (field : String) : Prop :=
  ∃ value items, [value, .list items] <:+: given entries field ∧ value.listed = none

/-- What is there for a field after some entries comes from what they give: it is the last of it, or
a list of given items. -/
inductive IsOwn (entries : Mapping) (field : String) : Option Value → Prop
  | nothing : IsOwn entries field none
  | last {value : Value} (h : (given entries field).getLast? = some value) :
    IsOwn entries field (some value)
  | items {items : List Value} (h : ∀ item ∈ items, IsGiven entries field item) :
    IsOwn entries field (some (.list items))

section given

variable {entries : Mapping} {field : String}

theorem given_append (entries more : Mapping) (field : String) :
    given (entries ++ more) field = given entries field ++ given more field := by
  simp [given]

theorem given_self (field : String) (value : Value) :
    given [(.text field, value)] field = [value] := by
  simp [given]

theorem given_of_ne {key : Scalar} (h : key ≠ .text field) (value : Value) :
    given [(key, value)] field = [] := by
  simp [given, h]

theorem IsGiven.append {item : Value} (h : IsGiven entries field item) (more : Mapping) :
    IsGiven (entries ++ more) field item := by
  obtain ⟨value, hvalue, items, hlisted, hitem⟩ := h
  refine ⟨value, ?_, items, hlisted, hitem⟩
  rw [given_append]
  exact List.mem_append_left _ hvalue

theorem HasMisfit.append (h : HasMisfit entries field) (more : Mapping) :
    HasMisfit (entries ++ more) field := by
  obtain ⟨value, items, hpair, hlisted⟩ := h
  refine ⟨value, items, ?_, hlisted⟩
  rw [given_append]
  exact hpair.trans (List.prefix_append _ _).isInfix

/-- There is no misfit where only lists are given. -/
theorem not_hasMisfit_of_listed (h : ∀ value ∈ given entries field, value.listed ≠ none) :
    ¬ HasMisfit entries field := by
  rintro ⟨value, items, hpair, hlisted⟩
  exact h value (hpair.subset List.mem_cons_self) hlisted

/-- An entry of another field changes nothing about where things come from. -/
theorem IsOwn.append_of_ne {present : Option Value} (h : IsOwn entries field present)
    {key : Scalar} (hkey : key ≠ .text field) (value : Value) :
    IsOwn (entries ++ [(key, value)]) field present := by
  cases h with
  | nothing => exact .nothing
  | last h =>
      refine .last ?_
      rwa [given_append, given_of_ne hkey, List.append_nil]
  | items h => exact .items fun item hitem => (h item hitem).append _

/-- A value that is not put behind others is the last that was given. -/
theorem IsOwn.of_last (entries : Mapping) (field : String) (value : Value) :
    IsOwn (entries ++ [(.text field, value)]) field (some value) := by
  refine .last ?_
  rw [given_append, given_self, List.getLast?_concat]

/-- The items of what is there for a field were given for it. -/
theorem IsOwn.isGiven {value : Value} (h : IsOwn entries field (some value)) {items : List Value}
    (hlisted : value.listed = some items) : ∀ item ∈ items, IsGiven entries field item := by
  cases h with
  | items h =>
      obtain rfl := Option.some.inj hlisted
      exact h
  | last h => exact fun item hitem => ⟨value, List.mem_of_getLast? h, items, hlisted, hitem⟩

/-- What is there for a field has items, unless a list that comes next makes a misfit of it. -/
theorem IsOwn.exists_listed {value : Value} (h : IsOwn entries field (some value))
    {list : List Value} (hmisfit : ¬ HasMisfit (entries ++ [(.text field, .list list)]) field) :
    ∃ items, value.listed = some items := by
  cases h with
  | items h => exact ⟨_, rfl⟩
  | last h =>
      obtain ⟨front, hfront⟩ := List.getLast?_eq_some_iff.mp h
      refine Option.ne_none_iff_exists'.mp fun hlisted => hmisfit ⟨value, list, ?_, hlisted⟩
      rw [given_append, given_self, hfront, List.append_assoc]
      exact (List.suffix_append front _).isInfix

end given

/-! ## Merging -/

/-- Some entries account for what merging them comes to: a failure comes of a misfit, and without
one what is there for a list field is given for it. -/
def IsAccounted (entries : Mapping) : Except SettingsFailure Mapping → Prop
  | .error _ => ∃ field ∈ Options.listFields, HasMisfit entries field
  | .ok merged => ∀ field ∈ Options.listFields, ¬ HasMisfit entries field →
    IsOwn entries field (merged.get? (.text field))

theorem items?_of_listed {value : Value} {items : List Value} (h : value.listed = some items) :
    items? value = some items := by
  unfold Value.listed at h
  split at h
  · exact h
  · exact h
  · cases h

/-- What merging a list into a list field comes to. -/
theorem mergeEntry_list {field : String} (hfield : field ∈ Options.listFields) (base : Mapping)
    (items : List Value) :
    mergeEntry base (.text field, .list items) =
      (earlierItems base (.text field)).map fun earlier =>
        base.insert (.text field) (.list (earlier ++ items)) := by
  have hlist : isListField (.text field) = true := List.elem_eq_true_of_mem hfield
  simp only [mergeEntry, hlist, if_true]

/-- Any other value replaces what is there. -/
theorem mergeEntry_of_ne {key : Scalar} {value : Value}
    (h : ∀ field ∈ Options.listFields, ∀ items, key = .text field → value ≠ .list items)
    (base : Mapping) : mergeEntry base (key, value) = .ok (base.insert key value) := by
  cases value with
  | list items =>
      have hlist : isListField key = false := by
        cases key with
        | text field =>
            have hfield : field ∉ Options.listFields := fun hfield => h field hfield items rfl rfl
            simpa [isListField] using hfield
        | _ => rfl
      simp [mergeEntry, hlist]
  | _ => rfl

/-- What is there for a list field can be put in front of a list that is given, unless that list
makes a misfit of it. -/
theorem earlierItems_of_isOwn {entries base : Mapping} {field : String} {items : List Value}
    (hown : IsOwn entries field (base.get? (.text field)))
    (hmisfit : ¬ HasMisfit (entries ++ [(.text field, .list items)]) field) :
    ∃ earlier, earlierItems base (.text field) = .ok earlier ∧
      ∀ item ∈ earlier, IsGiven entries field item := by
  unfold earlierItems
  cases hpresent : base.get? (.text field) with
  | none => exact ⟨[], rfl, nofun⟩
  | some value =>
      rw [hpresent] at hown
      obtain ⟨earlier, hlisted⟩ := hown.exists_listed hmisfit
      refine ⟨earlier, ?_, hown.isGiven hlisted⟩
      simp only [items?_of_listed hlisted]

theorem isGiven_concat (entries : Mapping) (field : String) {items : List Value} {item : Value}
    (h : item ∈ items) : IsGiven (entries ++ [(.text field, .list items)]) field item := by
  refine ⟨.list items, ?_, items, rfl, h⟩
  rw [given_append, given_self]
  exact List.mem_append_right _ List.mem_cons_self

theorem get?_insert_of_key_ne {base : Mapping} {key : Scalar} {field : String}
    (h : key ≠ .text field) (value : Value) :
    (base.insert key value).get? (.text field) = base.get? (.text field) :=
  Entries.get?_insert_of_ne (fun hsame => h (Scalar.eq_text_of_asKey hsame.symm)) base value

section IsAccounted

variable {entries base : Mapping}

/-- An entry of another field is no concern of a field. -/
theorem IsAccounted.isOwn_of_ne (h : IsAccounted entries (.ok base)) {field : String}
    (hfield : field ∈ Options.listFields) {key : Scalar} (hkey : key ≠ .text field)
    {value : Value} (hmisfit : ¬ HasMisfit (entries ++ [(key, value)]) field) (new : Value) :
    IsOwn (entries ++ [(key, value)]) field ((base.insert key new).get? (.text field)) := by
  rw [get?_insert_of_key_ne hkey]
  exact (h field hfield fun hearlier => hmisfit (hearlier.append _)).append_of_ne hkey value

theorem IsAccounted.mergeEntry_list (h : IsAccounted entries (.ok base)) {field : String}
    (hfield : field ∈ Options.listFields) (items : List Value) :
    IsAccounted (entries ++ [(.text field, .list items)])
      (mergeEntry base (.text field, .list items)) := by
  have hown (hmisfit : ¬ HasMisfit (entries ++ [(.text field, .list items)]) field) :=
    earlierItems_of_isOwn (h field hfield fun hearlier => hmisfit (hearlier.append _)) hmisfit
  rw [Section.mergeEntry_list hfield]
  cases hearlier : earlierItems base (.text field) with
  | error failure =>
      refine ⟨field, hfield, ?_⟩
      -- without a misfit there would have been items
      by_contra hmisfit
      obtain ⟨earlier, hok, -⟩ := hown hmisfit
      rw [hearlier] at hok
      cases hok
  | ok earlier =>
      intro other hother hmisfit
      by_cases hsame : other = field
      · subst hsame
        obtain ⟨earlier', hok, hgiven⟩ := hown hmisfit
        obtain rfl : earlier = earlier' := Except.ok.inj (hearlier.symm.trans hok)
        rw [Entries.get?_insert_self]
        refine .items fun item hitem => ?_
        rcases List.mem_append.mp hitem with hitem | hitem
        · exact (hgiven item hitem).append _
        · exact isGiven_concat entries other hitem
      · have hkey : Scalar.text field ≠ .text other := fun hkey => by
          injection hkey with hkey
          exact hsame hkey.symm
        exact h.isOwn_of_ne hother hkey hmisfit _

/-- **One entry keeps the account.** -/
theorem IsAccounted.mergeEntry (h : IsAccounted entries (.ok base)) (entry : Scalar × Value) :
    IsAccounted (entries ++ [entry]) (mergeEntry base entry) := by
  obtain ⟨key, value⟩ := entry
  -- only a list for a list field is put behind what is there
  by_cases hlist : ∃ field ∈ Options.listFields, ∃ items, key = .text field ∧ value = .list items
  · obtain ⟨field, hfield, items, rfl, rfl⟩ := hlist
    exact h.mergeEntry_list hfield items
  · rw [mergeEntry_of_ne fun field hfield items hkey hvalue =>
      hlist ⟨field, hfield, items, hkey, hvalue⟩]
    intro field hfield hmisfit
    by_cases hkey : key = .text field
    · rw [hkey, Entries.get?_insert_self]
      exact .of_last entries field value
    · exact h.isOwn_of_ne hfield hkey hmisfit value

end IsAccounted

/-- **Entries account for what merging them comes to.** -/
theorem isAccounted_merge (entries : Mapping) : IsAccounted entries (merge [] entries) := by
  unfold merge
  -- from the right: the last entry is merged into what the entries before it come to
  induction entries using List.reverseRecOn with
  | nil => exact fun field _ _ => .nothing
  | append_singleton entries entry ih =>
      rw [List.foldlM_append]
      cases hmerged : entries.foldlM Section.mergeEntry [] with
      | error failure =>
          rw [hmerged] at ih
          obtain ⟨field, hfield, hmisfit⟩ := ih
          exact ⟨field, hfield, hmisfit.append _⟩
      | ok base =>
          rw [hmerged] at ih
          have hlast : [entry].foldlM Section.mergeEntry base = Section.mergeEntry base entry := by
            simp
          show IsAccounted _ ([entry].foldlM Section.mergeEntry base)
          rw [hlast]
          exact ih.mergeEntry entry

theorem foldlM_merge (sections : Scope → Mapping) (scopes : List Scope) (base : Mapping) :
    scopes.foldlM (fun base scope => merge base (sections scope)) base =
      merge base (scopes.flatMap sections) := by
  unfold merge
  induction scopes generalizing base with
  | nil => rfl
  | cons scope rest ih =>
      rw [List.foldlM_cons, List.flatMap_cons, List.foldlM_append]
      exact congrArg _ (funext ih)

end Section

/-! ## Options -/

namespace Options

def lists (options : Options) : List (String × List String) :=
  [("extra_extensions", options.extraExtensions),
    ("extra_excluded_extensions", options.extraExcludedExtensions),
    ("extra_package_fields", options.extraPackageFields),
    ("extra_builtin_modules", options.extraBuiltinModules)]

theorem mem_listFields_of_mem_lists {options : Options} {field : String} {texts : List String}
    (h : (field, texts) ∈ options.lists) : field ∈ listFields := by
  simp only [lists, List.mem_cons, Prod.mk.injEq, List.not_mem_nil, or_false] at h
  rcases h with ⟨rfl, -⟩ | ⟨rfl, -⟩ | ⟨rfl, -⟩ | ⟨rfl, -⟩ <;> decide

/-- The options that a mapping holds have no problem in any of their lists. -/
theorem readList_of_ofMapping {entries : Mapping} {options : Options}
    (h : ofMapping entries = .ok options) {field : String} {texts : List String}
    (hlist : (field, texts) ∈ options.lists) : readList entries field = (texts, []) := by
  unfold ofMapping at h
  dsimp only at h
  split at h
  · next hproblems =>
      simp only [List.append_eq_nil_iff] at hproblems
      obtain ⟨⟨⟨⟨⟨h₁, h₂⟩, h₃⟩, h₄⟩, -⟩, -⟩ := hproblems
      obtain rfl := Except.ok.inj h
      simp only [lists, List.mem_cons, Prod.mk.injEq, List.not_mem_nil, or_false] at hlist
      rcases hlist with ⟨rfl, rfl⟩ | ⟨rfl, rfl⟩ | ⟨rfl, rfl⟩ | ⟨rfl, rfl⟩
      · exact Prod.ext rfl h₁
      · exact Prod.ext rfl h₂
      · exact Prod.ext rfl h₃
      · exact Prod.ext rfl h₄
  · cases h

theorem exists_of_readTexts {field : String} {items : List Value} {index : Nat}
    {texts : List String} (h : readTexts field index items = (texts, [])) :
    ∀ text ∈ texts, ∃ item ∈ items, readText item = .ok text := by
  induction items generalizing index texts with
  | nil =>
      obtain rfl : [] = texts := congrArg Prod.fst h
      nofun
  | cons item rest ih =>
      unfold readTexts at h
      cases hitem : readText item with
      | error kind =>
          rw [hitem] at h
          cases congrArg Prod.snd h
      | ok text =>
          rw [hitem] at h
          obtain rfl : text :: (readTexts field (index + 1) rest).1 = texts := congrArg Prod.fst h
          have hproblems : (readTexts field (index + 1) rest).2 = [] := congrArg Prod.snd h
          have hrest : readTexts field (index + 1) rest =
              ((readTexts field (index + 1) rest).1, []) := Prod.ext rfl hproblems
          intro other hother
          rcases List.mem_cons.mp hother with rfl | hother
          · exact ⟨item, List.mem_cons_self, hitem⟩
          · obtain ⟨found, hfound, hread⟩ := ih hrest other hother
            exact ⟨found, List.mem_cons_of_mem _ hfound, hread⟩

/-- The texts of a list field are those of items of a value that may be given for it. -/
theorem exists_of_readList {entries : Mapping} {field : String} {texts : List String}
    (h : readList entries field = (texts, [])) :
    ∀ text ∈ texts, ∃ value items item, entries.get? (.text field) = some value ∧
      value.listed = some items ∧ item ∈ items ∧ readText item = .ok text := by
  intro text htext
  unfold readList Entries.field? at h
  split at h
  · obtain rfl : [] = texts := congrArg Prod.fst h
    cases htext
  · next items hpresent =>
      obtain ⟨item, hitem, hread⟩ := exists_of_readTexts h text htext
      exact ⟨_, items, item, hpresent, rfl, hitem, hread⟩
  · next members hpresent =>
      obtain ⟨item, hitem, hread⟩ := exists_of_readTexts h text htext
      exact ⟨_, _, item, hpresent, rfl, hitem, hread⟩
  · cases congrArg Prod.snd h

end Options

namespace SettingsPlace

open Section

/-- The options depend on the merged section. -/
theorem outcome_options (settings : SettingsPlace) (place : Place) :
    settings.options.run.outcome place =
      (settings.merged.run.outcome place).map Options.ofMapping := by
  unfold options
  rw [Lookup.outcome_run_bind]
  cases settings.merged.run.outcome place <;> rfl

theorem outcome_options_of_sections {settings : SettingsPlace} {place : Place}
    {sections : Scope → Mapping} (hhome : settings.isHomeless = false)
    (hsections : ∀ scope, settings.sectionAt place scope = .ok (sections scope)) :
    settings.options.run.outcome place =
      (merge [] (Scope.all.flatMap sections)).map Options.ofMapping := by
  rw [outcome_options, outcome_merged, hhome, ← foldlM_merge]
  simp only [hsections, Except.bind]
  rfl

/-- **What options come to by the sections of the scopes.** -/
theorem options_of_sections (settings : SettingsPlace) (place : Place)
    (sections : Scope → Mapping) (hhome : settings.isHomeless = false)
    (hsections : ∀ scope, settings.sectionAt place scope = .ok (sections scope)) :
    let entries := Scope.all.flatMap sections
    ((∀ field ∈ Options.listFields, ¬ HasMisfit entries field) →
      ∃ result, settings.options.run.outcome place = .ok result) ∧
    ∀ options, settings.options.run.outcome place = .ok (.ok options) →
      ∀ field texts, (field, texts) ∈ options.lists → ¬ HasMisfit entries field →
        ∀ text ∈ texts, ∃ item, IsGiven entries field item ∧ Options.readText item = .ok text := by
  intro entries
  have haccount := isAccounted_merge entries
  rw [outcome_options_of_sections hhome hsections]
  -- merging fails only at a misfit; what it gives is accounted for, field by field
  cases hmerged : merge [] entries with
  | error failure =>
      rw [hmerged] at haccount
      obtain ⟨field, hfield, hmisfit⟩ := haccount
      exact ⟨fun h => absurd hmisfit (h field hfield), nofun⟩
  | ok merged =>
      rw [hmerged] at haccount
      refine ⟨fun _ => ⟨_, rfl⟩, fun options hoptions field texts hlist hmisfit text htext => ?_⟩
      have hread := Options.readList_of_ofMapping (Except.ok.inj hoptions) hlist
      obtain ⟨value, items, item, hpresent, hlisted, hitem, htext⟩ :=
        Options.exists_of_readList hread text htext
      have hown := haccount field (Options.mem_listFields_of_mem_lists hlist) hmisfit
      rw [hpresent] at hown
      exact ⟨item, hown.isGiven hlisted item hitem, htext⟩

/-- Two scopes that give a list for the same field. -/
theorem options_of_sections_two :
    let place := placeWith (some (Utf8.encode "resolver: \x7bextra_extensions: [vue]\x7d"))
      (some (Utf8.encode "resolver: \x7bextra_extensions: [svelte]\x7d")) none
    let sections : Scope → Mapping
      | .user => [(.text "extra_extensions", .list [.text "vue"])]
      | .project => [(.text "extra_extensions", .list [.text "svelte"])]
      | .machine => []
    inWork.options.run.outcome place = .ok (.ok { extraExtensions := ["vue", "svelte"] }) ∧
      ∀ text ∈ ["vue", "svelte"], ∃ item,
        IsGiven (Scope.all.flatMap sections) "extra_extensions" item ∧
          Options.readText item = .ok text := by
  intro place sections
  have hsections : ∀ scope, inWork.sectionAt place scope = .ok (sections scope) := by
    intro scope
    cases scope <;> decide +kernel
  have houtcome : inWork.options.run.outcome place =
      .ok (.ok { extraExtensions := ["vue", "svelte"] }) :=
    (outcome_options_of_sections (by decide +kernel) hsections).trans (by decide +kernel)
  have hlisted : ∀ value ∈ given (Scope.all.flatMap sections) "extra_extensions",
      value.listed ≠ none := by
    decide +kernel
  refine ⟨houtcome, (options_of_sections inWork place sections (by decide +kernel) hsections).2 _
    houtcome "extra_extensions" _ List.mem_cons_self (not_hasMisfit_of_listed hlisted)⟩

/-- With nothing in front of a list merging fails, and a text in front of a list is taken apart. -/
theorem options_of_misfit :
    let list := Utf8.encode "resolver: \x7bextra_extensions: [svelte]\x7d"
    let before (octets : List UInt8) := placeWith (some octets) (some list) none
    let nothing := before (Utf8.encode "resolver: \x7bextra_extensions: null\x7d")
    let text := before (Utf8.encode "resolver: \x7bextra_extensions: vue\x7d")
    inWork.options.run.outcome nothing = .error (.unspreadable .null) ∧
      inWork.options.run.outcome text =
        .ok (.ok { extraExtensions := ["v", "u", "e", "svelte"] }) := by
  intro list before nothing text
  let sections (value : Value) : Scope → Mapping
    | .user => [(.text "extra_extensions", value)]
    | .project => [(.text "extra_extensions", .list [.text "svelte"])]
    | .machine => []
  have hnothing : ∀ scope, inWork.sectionAt nothing scope = .ok (sections .null scope) := by
    intro scope
    cases scope <;> decide +kernel
  have htext : ∀ scope, inWork.sectionAt text scope = .ok (sections (.text "vue") scope) := by
    intro scope
    cases scope <;> decide +kernel
  have hhome : inWork.isHomeless = false := by decide +kernel
  exact ⟨(outcome_options_of_sections hhome hnothing).trans (by decide +kernel),
    (outcome_options_of_sections hhome htext).trans (by decide +kernel)⟩

end SettingsPlace

end ModuleResolution
