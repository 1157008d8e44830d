import Mathlib.Control.Monad.Basic
import ModuleResolution.Proofs.Resolve.Canonical
import ModuleResolution.Proofs.Resolve.Exclusion
import ModuleResolution.Proofs.Resolve.Locality
import ModuleResolution.Proofs.Session.Transparency

/-! # What a session replies

Three statements on the paths that a session gives back. No reply to anything but a builtin has an
excluded extension, at any step: a path that was found is only remembered as long as the rules
stay the same, so it is no way around them. The reply to a path specifier is a file beside the
path that the specifier stands for, or directly below it. And a path of a file that was given back
is given for itself, up to its normal form.
-/

set_option autoImplicit false

namespace ModuleResolution.Stage

open Session (Call Event)

/-! ## Excluded extensions -/

/-- A remembered path is admitted because it was when it was found. -/
theorem admits_of_reply {places : Place → Prop} {stage : Stage} {request : Request}
    {path : String} (hfounded : Founded places stage)
    (hkind : (stage.key request).kind ≠ .builtin) (h : stage.reply request = .ok path) :
    stage.session.rules.Admits path := by
  rw [reply] at h
  rcases stage.resolve_cases request with
    ⟨found, hget, hresolved⟩ | ⟨stop, _, _, hresolved⟩ | ⟨found, _, huncached, hresolved⟩
  · rw [hresolved] at h
    cases h
    -- it was found under the rules still in force, by a request of the same class
    obtain ⟨place, other, -, hkey, hother⟩ := hfounded _ _ hget
    refine Rules.admits_of_resolve ?_ hother
    rw [hkey]
    exact hkind
  · rw [hresolved] at h
    cases h
  · rw [hresolved] at h
    cases h
    exact Rules.admits_of_resolve hkind huncached

/-- **Exclusion wins at every step of every session.** Whatever was called and however the disk
changed before, a path that is given for anything but a builtin does not have an extension that
the options in force exclude. -/
theorem extension_not_mem_excluded_of_reply_run (options : Options) (place : Place)
    (events : List Event) (specifier : String) (directory : Option String) (path : String) :
    let stage := (start options place).run events
    let request := stage.request specifier directory
    (stage.key request).kind ≠ .builtin → stage.reply request = .ok path →
      Path.extension path ∉ (inForce options events).rules.excluded := by
  intro stage request hkind h hmem
  have hfounded : Founded (fun _ => True) stage :=
    founded_run events trivial (fun _ _ => trivial) (founded_start _ options place)
  have hadmits := admits_of_reply hfounded hkind h
  rw [rules_run options place events] at hadmits
  have hexcluded : (inForce options events).rules.isExcluded (Path.extension path) = true :=
    List.elem_eq_true_of_mem hmem
  rw [hadmits] at hexcluded
  cases hexcluded

/-- A script that was found, then its extension was excluded and another one put beside it. -/
theorem extension_not_mem_excluded_of_reply_run_excluded_later :
    let options : Options := { extraExcludedExtensions := [".ts"] }
    let events : List Event :=
      [.call (.resolve "./a" none), .call (.configure options),
        .change ⟨.subfolder "p" (.file "a.ts" [] (.file "a.js" [] .empty)) .empty, "/p"⟩]
    let stage := (start {} (.alone "a.ts")).run events
    stage.reply (stage.request "./a" none) = .ok "/p/a.js" ∧
      Path.extension "/p/a.js" ∉ options.rules.excluded := by
  intro options events stage
  have hreply : stage.reply (stage.request "./a" none) = .ok "/p/a.js" := by decide +kernel
  exact ⟨hreply, extension_not_mem_excluded_of_reply_run {} (.alone "a.ts") events "./a" none
    "/p/a.js" (by decide +kernel) hreply⟩

/-! ## Path specifiers -/

/-- **A path specifier leads to a file near the path it stands for.** In a current directory that
is absolute, as those of a system are, a new session replies with the absolute path of a file, and
it is the path asked for or ends with an extension that may be matched. As long as no extension
holds a slash it is normal, and in the folder of the path asked for or directly below that path. -/
theorem reply_start_near (options : Options) (place : Place)
    (hcwd : Path.isAbsolute place.cwd = true) (specifier : String)
    (hspecifier : Specifier.namesLibrary specifier = false) (directory : Option String)
    (path : String) :
    let stage := start options place
    let request := stage.request specifier directory
    let target := Path.absoluteFrom place.cwd request.directory specifier
    stage.reply request = .ok path →
      Path.isAbsolute path = true ∧ place.kind? path = some .file ∧
      (path = target ∨ ∃ extension ∈ options.rules.allowed,
        extension ∉ options.rules.excluded ∧ extension.toList <:+ path.toList) ∧
      ((∀ extension ∈ options.extraExtensions, '/' ∉ extension.toList) →
        Path.normalize path = path ∧
        (Path.parent path = Path.parent target ∨ Path.parent path = target)) := by
  intro stage request target h
  have hkey : options.rules.cacheKey place.cwd request = .file target := by
    rw [Rules.cacheKey, if_neg (by simp [request, stage, Stage.request, Request.from, hspecifier])]
    rfl
  have habsolute : Path.isAbsolute target = true := Path.isAbsolute_absoluteFrom hcwd _ _
  have hnormal : Path.normalize target = target := Path.normalize_absoluteFrom _ _ _
  rw [reply_start, Rules.resolve, hkey] at h
  have hfind : (options.rules.probed target).find? place.isFile = some path :=
    Rules.resolveFile_eq_ok.mp h
  -- what is found is one of the paths that are probed, and these are near the target
  have hmem := List.mem_of_find?_eq_some hfind
  have hfile : place.kind? path = some .file := by
    simpa using List.find?_some hfind
  refine ⟨Rules.isAbsolute_of_mem_probed habsolute hnormal hmem, hfile,
    Rules.eq_or_suffix_of_mem_probed hmem, ?_⟩
  intro hslash
  exact Rules.parent_of_mem_probed habsolute hnormal
    (fun _ => Options.slash_not_mem_of_mem_allowed hslash) hmem hfile

/-- A stem of two dots: the extension behind it makes it a name. -/
theorem reply_start_near_two_dots :
    let stage := start {} (.alone "...ts")
    let target := Path.absoluteFrom "/p" "/p" "./...d.ts"
    stage.reply (stage.request "./...d.ts" none) = .ok "/p/...ts" ∧
      Path.normalize "/p/...ts" = "/p/...ts" ∧
      (Path.parent "/p/...ts" = Path.parent target ∨ Path.parent "/p/...ts" = target) := by
  intro stage target
  have hreply : stage.reply (stage.request "./...d.ts" none) = .ok "/p/...ts" := by
    decide +kernel
  obtain ⟨-, -, -, hnear⟩ := reply_start_near {} (.alone "...ts") (by decide +kernel)
    "./...d.ts" (by decide +kernel) none "/p/...ts" hreply
  exact ⟨hreply, hnear (by simp)⟩

/-! ## Paths that were given back -/

/-- **Given paths are canonical.** After any calls at a place that does not change, a path that is
given for anything but a builtin and leads to a file resolves to its normal form, from every
folder and whatever is resolved in between. It is normal as long as no extension holds a slash. -/
theorem reply_run_canonical (options : Options) (place : Place)
    (hcwd : Path.isAbsolute place.cwd = true) (calls : List Call) (specifier : String)
    (directory : Option String) (path : String) :
    let stage := (start options place).run (calls.map .call)
    let request := stage.request specifier directory
    (stage.key request).kind ≠ .builtin → stage.reply request = .ok path →
    place.kind? path = some .file →
    (∀ (requests : List (String × Option String)) (other : Option String),
      let later := stage.run ((requests.map fun r => Call.resolve r.1 r.2).map .call)
      later.reply (later.request path other) = .ok (Path.normalize path)) ∧
    ((∀ extension ∈ (inForce options (calls.map .call)).extraExtensions,
        '/' ∉ extension.toList) → Path.normalize path = path) := by
  intro stage request hkind hreply hfile
  have hplace : stage.place = place := place_run_of_calls _ calls
  have hrules : stage.session.rules = (inForce options (calls.map .call)).rules :=
    rules_run options place _
  have hfounded : Founded (· = stage.place) stage :=
    founded_run_of_calls (founded_start _ options place) calls
  have hresolve : Search.outcome place (stage.session.rules.resolve place.cwd request) =
      .ok path := by
    rw [← hplace]
    exact (reply_of_founded hfounded request).symm.trans hreply
  have hclass : (stage.session.rules.cacheKey place.cwd request).kind ≠ .builtin := by
    rw [← hplace]
    exact hkind
  have horigin : stage.session.rules.Origin place path :=
    Rules.origin_of_resolve hcwd hclass hresolve
  -- a path that was given for a request passes the rules, also when it is asked for itself
  constructor
  · intro requests other later
    have hlater : later.place = place := (place_run_of_calls stage _).trans hplace
    have hsame : later.session.rules = stage.session.rules := rules_run_of_resolves stage requests
    rw [reply_of_founded (founded_run_of_calls hfounded _), uncached, hsame, hlater]
    exact Rules.resolve_of_admits horigin.isAbsolute (Rules.admits_of_resolve hclass hresolve)
      hfile _
  · intro hslash
    refine horigin.normalize_eq fun extension hextension => ?_
    rw [hrules] at hextension
    exact Options.slash_not_mem_of_mem_allowed hslash hextension

/-- A script that was found behind a stem, asked for again from the root. -/
theorem reply_run_canonical_script :
    let stage := start {} (.alone "a.d.ts")
    let later := stage.run [.call (.resolve "./a" none)]
    stage.reply (stage.request "./a" none) = .ok "/p/a.d.ts" ∧
      later.reply (later.request "/p/a.d.ts" (some "/")) = .ok (Path.normalize "/p/a.d.ts") ∧
      Path.normalize "/p/a.d.ts" = "/p/a.d.ts" := by
  intro stage later
  have hreply : stage.reply (stage.request "./a" none) = .ok "/p/a.d.ts" := by decide +kernel
  obtain ⟨hagain, hnormal⟩ := reply_run_canonical {} (.alone "a.d.ts") (by decide +kernel) [] "./a"
    none "/p/a.d.ts" (by decide +kernel) hreply (by decide +kernel)
  exact ⟨hreply, hagain [("./a", none)] (some "/"), hnormal (by simp [inForce])⟩

end ModuleResolution.Stage
