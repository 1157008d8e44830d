import ModuleResolution.CommandLine.Run
import ModuleResolution.Proofs.Options.Lists
import ModuleResolution.Proofs.Resolve.Manifest
import ModuleResolution.Proofs.Resolve.Probe
import ModuleResolution.Proofs.Settings.Layers

/-! # Options that only extend

Options extend others when they add extensions and manifest fields behind theirs and exclude the
same extensions, as flags on the command line do with the options of the settings
(`Options.Extends.of_extend`). Their rules then have longer lists with the same fronts. Searches go
through these lists in order and end at the first hit, so what was found before is found again: the
file that a stem leads to, and the entry that a manifest names, in whatever order the manifest has
its fields (`Options.Extends.rules_extend`).
-/

set_option autoImplicit false

namespace ModuleResolution

/-- The options add extensions and manifest fields behind those of others, and exclude the same
extensions. -/
structure Options.Extends (wider options : Options) : Prop where
  extensions : options.extraExtensions <+: wider.extraExtensions
  fields : options.extraPackageFields <+: wider.extraPackageFields
  excluded : wider.extraExcludedExtensions = options.extraExcludedExtensions

namespace Options.Extends

variable {options wider : Options}

/-- Flags of the command line that exclude nothing extend the options of the settings. -/
theorem of_extend {command : CommandLine.ResolveCommand} (h : command.excluded = [])
    (options : Options) : (command.extend options).Extends options where
  extensions := List.prefix_append _ _
  fields := List.prefix_append _ _
  excluded := by rw [CommandLine.ResolveCommand.extend, h, List.append_nil]

/-! ## Longer lists -/

theorem fields_prefix (h : wider.Extends options) :
    options.rules.fields <+: wider.rules.fields :=
  eraseDups_prefix ((List.prefix_append_right_inj _).mpr h.fields)

theorem allowed_prefix (h : wider.Extends options) :
    options.rules.allowed <+: wider.rules.allowed := by
  have hdotted : dottedExtensions options.extraExtensions <+:
      dottedExtensions wider.extraExtensions := (h.extensions.filter _).map _
  exact eraseDups_prefix ((List.prefix_append_right_inj _).mpr hdotted)

theorem isExcluded_eq (h : wider.Extends options) :
    wider.rules.isExcluded = options.rules.isExcluded := by
  funext ending
  unfold Rules.isExcluded rules
  rw [h.excluded]

/-- **The candidates for a stem** become more, behind those that there were. -/
theorem candidates_prefix (h : wider.Extends options) (stem : String) :
    options.rules.candidates stem <+: wider.rules.candidates stem := by
  unfold Rules.candidates Rules.probeOrder
  rw [h.isExcluded_eq]
  exact ((h.allowed_prefix.filter _).map _).filter _

/-! ## First hits -/

/-- **A file that a stem leads to** is not passed over for what is added. -/
theorem firstMatch_eq_some (h : wider.Extends options) {place : Place} {stem path : String}
    (hfound : (options.rules.firstMatch stem).outcome place = some path) :
    (wider.rules.firstMatch stem).outcome place = some path := by
  rw [Rules.outcome_firstMatch] at hfound ⊢
  exact (h.candidates_prefix stem).find?_eq_some hfound

/-- A field that holds a text with characters in it names an entry. -/
theorem exists_namedEntry? {fields : List String} {entries : Mapping} {field text : String}
    (hfield : field ∈ fields) (htext : text ≠ "")
    (hholds : entries.field? field = some (.text text)) :
    ∃ named, Manifest.namedEntry? fields entries = some named := by
  have hentry : Manifest.entryIn? entries field = some text := by
    rw [Manifest.entryIn?, hholds]
    exact if_neg (by simpa using htext)
  rw [← Option.isSome_iff_exists, Manifest.namedEntry?, List.findSome?_isSome_iff]
  exact ⟨field, hfield, by rw [hentry, Option.map_some, Option.isSome_some]⟩

/-- The fields of a manifest are consulted in the order of the rules. -/
theorem namedEntry?_eq_of_perm {entries other : Mapping} (hdistinct : entries.HasDistinctKeys)
    (hperm : entries.Perm other) (fields : List String) :
    Manifest.namedEntry? fields other = Manifest.namedEntry? fields entries := by
  have hentry : Manifest.entryIn? other = Manifest.entryIn? entries := by
    funext field
    unfold Manifest.entryIn? Entries.field?
    rw [Entries.get?_eq_of_perm hdistinct hperm]
  unfold Manifest.namedEntry?
  rw [hentry]

/-- **The entry that a manifest names** stays when fields are added to those that are consulted. -/
theorem selectEntry_eq (h : wider.Extends options) {entries other : Mapping}
    (hdistinct : entries.HasDistinctKeys) (hperm : entries.Perm other) {field text : String}
    (hfield : field ∈ options.rules.fields) (htext : text ≠ "")
    (hholds : entries.field? field = some (.text text)) :
    Manifest.selectEntry wider.rules other = Manifest.selectEntry options.rules entries := by
  obtain ⟨named, hnamed⟩ := exists_namedEntry? hfield htext hholds
  have hwider : Manifest.namedEntry? wider.rules.fields entries = some named :=
    h.fields_prefix.findSome?_eq_some hnamed
  unfold Manifest.selectEntry
  rw [namedEntry?_eq_of_perm hdistinct hperm, hwider, hnamed]

/-- **Options only extend.** The extensions and the fields of the rules are the defaults and then
what is given, each once and where it first occurs, extensions with a dot in front. What is given
behind it only makes these lists longer at their ends, so that a stem that leads to a file leads to
the same file, and a manifest that names an entry in one of the fields names the same entry, in
whatever order it has them. -/
theorem rules_extend (h : wider.Extends options) :
    (∀ each ∈ [options, wider],
      KeepsFirsts Layout.extensions (dottedExtensions each.extraExtensions) each.rules.allowed ∧
      (∀ ending, ending ∈ dottedExtensions each.extraExtensions ↔
        ∃ given ∈ each.extraExtensions, given ≠ "" ∧
          ending = if given.toList.head? = some '.' then given else "." ++ given) ∧
      (∀ ending ∈ each.rules.allowed, ending.toList.head? = some '.') ∧
      KeepsFirsts Layout.packageFields each.extraPackageFields each.rules.fields) ∧
    options.rules.allowed <+: wider.rules.allowed ∧
    options.rules.fields <+: wider.rules.fields ∧
    (∀ (place : Place) (stem path : String),
      (options.rules.firstMatch stem).outcome place = some path →
      (wider.rules.firstMatch stem).outcome place = some path) ∧
    ∀ entries other : Mapping, entries.HasDistinctKeys → entries.Perm other →
      (∃ field ∈ options.rules.fields, ∃ text ≠ "",
        entries.field? field = some (.text text)) →
      Manifest.selectEntry wider.rules other = Manifest.selectEntry options.rules entries := by
  refine ⟨fun each _ => ⟨keepsFirsts_allowed each, fun ending => mem_dottedExtensions,
    fun ending => head?_of_mem_allowed, keepsFirsts_fields each⟩, h.allowed_prefix,
    h.fields_prefix, fun place stem path => h.firstMatch_eq_some, ?_⟩
  rintro entries other hdistinct hperm ⟨field, hfield, text, htext, hholds⟩
  exact h.selectEntry_eq hdistinct hperm hfield htext hholds

/-- Flags on top of the options of the settings: an empty extension, one that is there without its
dot, and a new one; fields that are there, and one that the manifest has in front. -/
theorem rules_extend_flags :
    let options : Options := { extraExtensions := ["vue", "ts"], extraPackageFields := ["browser"] }
    let command : CommandLine.ResolveCommand :=
      ⟨["./a"], none, ["", ".vue", "svelte"], [], ["main", "exports"], [], false, false, true,
        false⟩
    let wider := command.extend options
    let place : Place := ⟨.file "a.svelte" [] (.file "a.vue" [] .empty), "/"⟩
    let entries : Mapping := [(.text "exports", .text "e.js"), (.text "browser", .text "b.js")]
    wider.Extends options ∧
      wider.rules.allowed = options.rules.allowed ++ [".svelte"] ∧
      wider.rules.fields = options.rules.fields ++ ["exports"] ∧
      (wider.rules.firstMatch "/a").outcome place = some "/a.vue" ∧
      (Manifest.selectEntry wider.rules entries.reverse).outcome place = "b.js" := by
  intro options command wider place entries
  have hextends : wider.Extends options := of_extend rfl options
  obtain ⟨-, -, -, hfound, hentry⟩ := rules_extend hextends
  have hsame := hentry entries entries.reverse (by decide +kernel) (List.reverse_perm _).symm
    ⟨"browser", by decide +kernel, "b.js", by decide, by decide +kernel⟩
  refine ⟨hextends, by decide +kernel, by decide +kernel, hfound place "/a" "/a.vue" ?_, ?_⟩
  · decide +kernel
  · rw [hsame]
    decide +kernel

end Options.Extends

end ModuleResolution
