import ModuleResolution.Proofs.Disk.Complete
import ModuleResolution.Proofs.Path.Parts
import ModuleResolution.Proofs.Resolve.Candidates

/-! # Files by their names and by their paths

A listing tells by the bare name of a file whether the file is listed, and a probe tells by a whole
path whether the path is passed over. Since a file has the same extension by its name and by its
path, both classify every file alike (`Rules.classifiesAlike`): what is listed below a folder are
the files whose paths have an allowed extension and are not passed over.

The two tests are given here for any compound extensions. With those that are built in they are the
ones of listings and of probes (`Filter.admitsWith_compoundExtensions`, `Rules.candidates_eq`,
`Rules.exactMatch_eq`).
-/

set_option autoImplicit false

namespace ModuleResolution

/-! ## The two tests -/

/-- A file of this name is listed, given the compound extensions. -/
def Filter.admitsWith (compounds : List String) (filter : Filter) (name : String) : Bool :=
  filter.allowed.contains (Path.extensionWith compounds name) &&
    !filter.excluded.contains (Path.extensionWith compounds name)

theorem Filter.admitsWith_compoundExtensions (filter : Filter) :
    filter.admitsWith Path.compoundExtensions = filter.admits := rfl

namespace Rules

variable {compounds : List String} {rules : Rules}

/-- A probe passes over this path, given the compound extensions. -/
def vetoesWith (compounds : List String) (rules : Rules) (path : String) : Bool :=
  rules.isExcluded (Path.extensionWith compounds path)

theorem candidates_eq (rules : Rules) (stem : String) : rules.candidates stem =
    (rules.behind stem).filter fun path => !rules.vetoesWith Path.compoundExtensions path := rfl

theorem exactMatch_eq (rules : Rules) (path : String) : rules.exactMatch path =
    if rules.vetoesWith Path.compoundExtensions path then .done none else .firstFile [path] := rfl

theorem vetoesWith_iff {path : String} : rules.vetoesWith compounds path = true ↔
    Path.extensionWith compounds path ∈ rules.excluded := by
  rw [vetoesWith, isExcluded, List.contains_iff_mem]

/-- The names that a listing by the rules keeps. -/
theorem admitsWith_iff {name : String} :
    Filter.admitsWith compounds ⟨rules.allowed, rules.excluded⟩ name = true ↔
      Path.extensionWith compounds name ∈ rules.allowed ∧
        rules.vetoesWith compounds name = false := by
  simp [Filter.admitsWith, vetoesWith, isExcluded]

/-- **Names are kept by the paths that have their extension.** -/
theorem admitsWith_iff_of_eq {path name : String}
    (h : Path.extensionWith compounds path = Path.extensionWith compounds name) :
    Filter.admitsWith compounds ⟨rules.allowed, rules.excluded⟩ name = true ↔
      Path.extensionWith compounds path ∈ rules.allowed ∧
        rules.vetoesWith compounds path = false := by
  rw [admitsWith_iff, vetoesWith, vetoesWith, h]

/-! ## Below a folder -/

/-- **The path of a file** below a lawful folder has the extension of the last name on the way. -/
theorem extensionWith_pathOf {below : Folder (List UInt8)} {location : List String}
    {content : List UInt8} (hbelow : below.AllNames IsEntryName)
    (hfile : below.at? location = some (.file content)) (compounds : List String)
    (directory : String) : Path.extensionWith compounds (Listing.pathOf directory location) =
      Path.extensionWith compounds (location.getLastD "") := by
  obtain ⟨front, name, inner, rfl, hinner, hname⟩ := Disk.ne_nil_of_at?_file hfile
  obtain ⟨hlegible, hdots, -⟩ : IsEntryName name := (hbelow.at? hinner).of_get? hname
  rw [List.getLastD_concat, Listing.pathOf_concat,
    Path.extensionWith_append compounds _ hlegible hdots]

/-- **What is listed below a folder** are the files whose paths have an allowed extension and are
not passed over. -/
theorem mem_walk_admitsWith {place : Place} (hdisk : place.disk.IsLawful)
    (hnames : place.disk.HasDistinctNames) (directory : String) (location : List String) :
    location ∈ (place.shapeAt directory).walk
        (Filter.admitsWith compounds ⟨rules.allowed, rules.excluded⟩) ↔
      ∃ below content, place.disk.item place.cwd directory = .ok (.folder below) ∧
        below.at? location = some (.file content) ∧
        Path.extensionWith compounds (Listing.pathOf directory location) ∈ rules.allowed ∧
        rules.vetoesWith compounds (Listing.pathOf directory location) = false := by
  rw [Listing.mem_walk_shapeAt hnames]
  refine exists_congr fun below => exists_congr fun content => and_congr_right fun hitem =>
    and_congr_right fun hfile => admitsWith_iff_of_eq ?_
  obtain ⟨reached, -, hat⟩ := Disk.exists_at?_of_item hitem
  exact extensionWith_pathOf (Folder.AllNames.at? hdisk hat) hfile compounds directory

/-! ## Files are classified alike -/

/-- Listings by the names of files and probes by their paths agree, given the compound extensions. -/
structure ClassifiesAlike (compounds : List String) (rules : Rules) : Prop where
  /-- A listing tells by the name what can be told by the path. -/
  admits_iff : ∀ directory name, name ≠ "" → '/' ∉ name.toList → name ≠ "." → name ≠ ".." →
    (Filter.admitsWith compounds ⟨rules.allowed, rules.excluded⟩ name = true ↔
      Path.extensionWith compounds (Path.join [directory, name]) ∈ rules.allowed ∧
        rules.vetoesWith compounds (Path.join [directory, name]) = false)
  /-- A probe tells by the path what can be told by the name. -/
  vetoes_iff : ∀ directory name, name ≠ "" → '/' ∉ name.toList → name ≠ "." → name ≠ ".." →
    (rules.vetoesWith compounds (Path.join [directory, name]) = true ↔
      Path.extensionWith compounds name ∈ rules.excluded)
  mem_walk_iff : ∀ place : Place, place.disk.IsLawful → place.disk.HasDistinctNames →
    ∀ directory location,
      location ∈ (place.shapeAt directory).walk
          (Filter.admitsWith compounds ⟨rules.allowed, rules.excluded⟩) ↔
        ∃ below content, place.disk.item place.cwd directory = .ok (.folder below) ∧
          below.at? location = some (.file content) ∧
          Path.extensionWith compounds (Listing.pathOf directory location) ∈ rules.allowed ∧
          rules.vetoesWith compounds (Listing.pathOf directory location) = false

/-- **Extensions split off without loss, and files are classified alike** by their names and by
their paths, whatever extensions count as a whole. -/
theorem classifiesAlike (compounds : List String) :
    Path.SplitsExtensions compounds ∧ ∀ rules : Rules, rules.ClassifiesAlike compounds := by
  have hsplits := Path.splitsExtensions compounds
  refine ⟨hsplits, fun rules => ?_⟩
  constructor
  case admits_iff =>
    intro directory name hempty hslash hdot hdots
    exact admitsWith_iff_of_eq (hsplits.extension_join directory name hempty hslash hdot hdots)
  case vetoes_iff =>
    intro directory name hempty hslash hdot hdots
    rw [vetoesWith_iff, hsplits.extension_join directory name hempty hslash hdot hdots]
  case mem_walk_iff =>
    intro place hdisk hnames directory location
    exact mem_walk_admitsWith hdisk hnames directory location

/-- A file with an excluded compound extension beside a folder with a file of an allowed one. -/
theorem classifiesAlike_declared :
    let place : Place := ⟨.subfolder "p" (.file "..d.ts" [] (.subfolder "q" (.file "b.ts" [] .empty)
      .empty)) .empty, "/p"⟩
    let rules := ({ extraExcludedExtensions := [".d.ts"] } : Options).rules
    let path := Path.join ["/p/q//..", "..d.ts"]
    Path.clearExtension path ++ Path.extension path = path ∧
      Filter.admits ⟨rules.allowed, rules.excluded⟩ "..d.ts" = false ∧
      (rules.exactMatch path).outcome place = none ∧ path ∉ rules.candidates "/p/..d" ∧
      ["q", "b.ts"] ∈ (place.shapeAt ".").walk (Filter.admits ⟨rules.allowed, rules.excluded⟩) ∧
      rules.vetoesWith Path.compoundExtensions "./q/b.ts" = false := by
  intro place rules path
  obtain ⟨hsplits, halike⟩ := classifiesAlike Path.compoundExtensions
  have hvetoed : rules.vetoesWith Path.compoundExtensions path = true :=
    ((halike rules).vetoes_iff "/p/q//.." "..d.ts" (by decide) (by decide +kernel) (by decide)
      (by decide)).mpr (by decide +kernel)
  have hlisted : ["q", "b.ts"] ∈ (place.shapeAt ".").walk
      (Filter.admits ⟨rules.allowed, rules.excluded⟩) := by decide +kernel
  -- one veto decides the listing by name, the exact match and the candidates
  refine ⟨hsplits.lossless path (by decide +kernel), ?_, ?_, ?_, hlisted, ?_⟩
  · rw [← Filter.admitsWith_compoundExtensions, Bool.eq_false_iff, ne_eq,
      (halike rules).admits_iff "/p/q//.." "..d.ts" (by decide) (by decide +kernel) (by decide)
        (by decide), hvetoed]
    simp
  · rw [exactMatch_eq, if_pos hvetoed]
    rfl
  · rw [candidates_eq, List.mem_filter, hvetoed]
    simp
  · rw [← Filter.admitsWith_compoundExtensions, (halike rules).mem_walk_iff place
      (by decide +kernel) (by decide +kernel)] at hlisted
    obtain ⟨below, content, -, -, -, hpassed⟩ := hlisted
    exact hpassed

end Rules

end ModuleResolution
