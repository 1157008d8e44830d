import ModuleResolution.Proofs.Options.Lists
import ModuleResolution.Proofs.Path.Stem
import ModuleResolution.Proofs.Resolve.Nested
import ModuleResolution.Proofs.Resolve.Verdict

/-! # Entries that are taken as they stand

A probe puts an extension behind a stem as it is allowed. An entry that a manifest names is taken
apart instead: its extension is what counts as one at the end of its file name. For an extension
with one dot and for a compound one that is the same, and the entry is given as it stands. For
another one it is not. Then the entry is taken as it stands if what its extension ends in is
allowed too, and is looked for by a probe if it is not (`Library.locate_allowed`), and that probe
puts further extensions behind it (`Library.locate_of_two_dots`).
-/

set_option autoImplicit false

namespace ModuleResolution

namespace Library

variable {rules : Rules} {place : Place} {request : Request} {name start folder : String}

/-- **A library with a manifest in its folder** is what that manifest leads to, when no script has
its name. -/
theorem locate_of_manifest_in {entries : Mapping} (hcwd : Path.isAbsolute place.cwd = true)
    (hfolder : Search.outcome place (directory place.cwd request name start) = .ok folder)
    (hscript : (rules.firstMatch folder).outcome place = none)
    (hholds : place.HasManifest (Path.join [folder, Layout.manifest]) entries) :
    Search.outcome place (locate rules place.cwd request name start) =
      Search.outcome place
        (entryFile rules request (Path.join [folder, Layout.manifest]) folder) := by
  obtain ⟨habsolute, hnormal⟩ := isAbsolute_of_directory hcwd hfolder
  obtain ⟨hlegible, hdots⟩ := Walk.isLegible_manifest
  have hexists : place.kind? folder = some .folder :=
    Disk.kind?_of_join habsolute hnormal hlegible hdots hholds.isFile
  have hvisited : Walk.visited rules place Layout.manifest folder =
      some ⟨folder, some (Path.join [folder, Layout.manifest])⟩ := by
    have hsome : (place.kind? folder).isSome = true := by rw [hexists, Option.isSome_some]
    rw [Walk.visited_of_isSome hsome, hholds.isFile, if_pos Option.isSome_some]
  rw [outcome_locate, hfolder, Except.bind, script_of_folder hexists hscript]
  dsimp only
  rw [Walk.namedEntry_of_visited hvisited, Except.bind, fileOfWalk]

/-- **An entry with an allowed extension behind a stem** is taken as it stands when that extension
is a compound one or has one dot, whether or not there is such a file. In general it is taken so if
the end of its extension that counts is allowed as well, and if that is not, what it stands for is
looked for: the entry as a stem, and the index files. -/
theorem locate_allowed (options : Options) (place : Place)
    (hcwd : Path.isAbsolute place.cwd = true) (request : Request)
    (name start folder stem extension : String) (entries : Mapping) :
    let rules := options.rules
    let manifest := Path.join [folder, Layout.manifest]
    let entry := namedBy rules manifest entries
    let outcome := Search.outcome place (locate rules place.cwd request name start)
    Search.outcome place (directory place.cwd request name start) = .ok folder →
    (rules.firstMatch folder).outcome place = none → place.HasManifest manifest entries →
    extension ∈ rules.probeOrder → Path.fileName entry = stem ++ extension →
    stem ≠ "" → '.' ∉ stem.toList →
    (∀ other ∈ rules.excluded, ¬ other.toList <:+ (stem ++ extension).toList) →
    (extension ∈ Path.compoundExtensions ∨ '.' ∉ extension.toList.tail → outcome = .ok entry) ∧
      (Path.tailExtension extension ∈ rules.allowed → outcome = .ok entry) ∧
      (Path.tailExtension extension ∉ rules.allowed → outcome =
        match (entryMatch rules entry folder).outcome place with
        | some path => .ok path
        | none => .error (.failed ⟨request, .noEntry entry manifest⟩)) := by
  intro rules manifest entry outcome hfolder hscript hholds hextension hentry hstem hdots hexcluded
  have hallowed : extension ∈ rules.allowed := (List.mem_filter.mp hextension).1
  have hhead : extension.toList.head? = some '.' := Options.head?_of_mem_allowed hallowed
  -- the stem has no part in what counts as the extension of the entry
  have hends : Path.extension entry = Path.tailExtension extension := by
    rw [Path.extension, Path.extensionWith, hentry]
    exact Path.extensionOfName_append hstem hdots (List.mem_of_head? hhead)
  have hnot : Path.tailExtension extension ∉ rules.excluded := by
    intro hmem
    apply hexcluded _ hmem
    rw [← hends, ← hentry, Path.extension, Path.extensionWith]
    exact Path.extensionOfName_suffix _ _
  have houtcome : outcome =
      if rules.isRecognized (Path.extension entry) then .ok entry
      else
        match (entryMatch rules entry folder).outcome place with
        | some path => .ok path
        | none => .error (.failed ⟨request, .noEntry entry manifest⟩) :=
    (locate_of_manifest_in hcwd hfolder hscript hholds).trans (outcome_entryFile hholds folder)
  rw [hends] at houtcome
  have hfull : Path.tailExtension extension ∈ rules.allowed → outcome = .ok entry := by
    intro hmem
    rw [houtcome, if_pos (Rules.isRecognized_iff.mpr ⟨hmem, hnot⟩)]
  refine ⟨fun hwhole => hfull ?_, hfull, fun hmem => ?_⟩
  · rcases hwhole with hcompound | hsingle
    · rwa [Path.tailExtension_of_mem hcompound]
    · rwa [Path.tailExtension_of_single hhead hsingle]
  · rw [houtcome, if_neg fun hrecognized => hmem (Rules.isRecognized_iff.mp hrecognized).1]

/-- A library whose manifest names this entry, with a file that has an extension of two dots. -/
def withMain (main : String) : Place :=
  ⟨.subfolder "p" (.subfolder "node_modules" (.subfolder "a"
    (.file "package.json" (Utf8.encode ("\x7b\"main\": \"" ++ main ++ "\"\x7d"))
      (.file "x.module.css" [] .empty)) .empty) .empty) .empty, "/p"⟩

/-- An entry with a compound extension, without there being such a file, and one with an extension
of two dots that ends in another one. -/
theorem locate_allowed_compound :
    let search := fun (extensions : List String) =>
      locate ({ extraExtensions := extensions } : Options).rules "/p" ⟨"a", "/p"⟩ "a" "/p"
    (search ["d.mts"]).outcome (withMain "x.d.mts") = .ok "/p/node_modules/a/x.d.mts" ∧
      (search ["module.css", "css"]).outcome (withMain "x.module.css") =
        .ok "/p/node_modules/a/x.module.css" := by
  intro search
  have hholds : ∀ main ∈ ["x.d.mts", "x.module.css"], (withMain main).HasManifest
      (Path.join ["/p/node_modules/a", Layout.manifest]) [(.text "main", .text main)] := by
    intro main hmain
    simp only [List.mem_cons, List.not_mem_nil, or_false] at hmain
    rcases hmain with rfl | rfl
    all_goals exact ⟨by decide +kernel, by decide +kernel, _, rfl, by decide +kernel⟩
  constructor
  · obtain ⟨hwhole, -, -⟩ := locate_allowed { extraExtensions := ["d.mts"] } (withMain "x.d.mts")
      (by decide) ⟨"a", "/p"⟩ "a" "/p" "/p/node_modules/a" "x" ".d.mts"
      [(.text "main", .text "x.d.mts")] (by decide +kernel) (by decide +kernel)
      (hholds _ (by simp)) (by decide +kernel) (by decide +kernel) (by decide) (by decide)
      (by decide +kernel)
    exact (hwhole (Or.inl (by decide))).trans (by decide +kernel)
  · obtain ⟨-, hends, -⟩ := locate_allowed { extraExtensions := ["module.css", "css"] }
      (withMain "x.module.css") (by decide) ⟨"a", "/p"⟩ "a" "/p" "/p/node_modules/a" "x"
      ".module.css" [(.text "main", .text "x.module.css")] (by decide +kernel) (by decide +kernel)
      (hholds _ (by simp)) (by decide +kernel) (by decide +kernel) (by decide) (by decide)
      (by decide +kernel)
    exact (hends (by decide +kernel)).trans (by decide +kernel)

/-- **An extension of two dots is not recognized**, though it is allowed and a probe matches it: the
file is found behind its stem, and is not found when the manifest names it. -/
theorem locate_of_two_dots :
    let rules := ({ extraExtensions := [".module.css"] } : Options).rules
    let place := withMain "x.module.css"
    let path := "/p/node_modules/a/x.module.css"
    ".module.css" ∈ rules.probeOrder ∧ rules.excluded = [] ∧
      (rules.firstMatch "/p/node_modules/a/x").outcome place = some path ∧
      Search.outcome place (locate rules "/p" ⟨"a", "/p"⟩ "a" "/p") =
        .error (.failed ⟨⟨"a", "/p"⟩, .noEntry path "/p/node_modules/a/package.json"⟩) := by
  decide +kernel

end Library

end ModuleResolution
