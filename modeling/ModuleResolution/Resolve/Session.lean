import ModuleResolution.Resolve.Cache
import ModuleResolution.Resolve.Library

/-! # Sessions

A session resolves specifiers under the rules in force and remembers the paths it found. A
builtin is its own path; a library is located in the dependency roots above; any other specifier
is a path, made absolute and probed. A library that cannot be located is looked for once more
from the parent folder; when that does not help, the first failure stands.

The key of a request is made of texts alone: the specifier of a builtin, the specifier and the
folder of a library, the absolute path of a file. A request whose key is known asks the disk
nothing. Only found paths are remembered, and new rules start with an empty cache.
-/

set_option autoImplicit false

namespace ModuleResolution

/-- What a path is remembered under. -/
inductive CacheKey where
  | builtin (specifier : String)
  | library (specifier directory : String)
  | file (path : String)
  deriving DecidableEq, Repr

namespace CacheKey

def kind : CacheKey → RequestKind
  | .builtin _ => .builtin
  | .library _ _ => .library
  | .file _ => .file

def texts (key : CacheKey) : List String :=
  key.kind.name :: match key with
    | .builtin specifier => [specifier]
    | .library specifier directory => [specifier, directory]
    | .file path => [path]

def ofTexts? : List String → Option CacheKey
  | ["builtin", specifier] => some (.builtin specifier)
  | ["library", specifier, directory] => some (.library specifier directory)
  | ["file", path] => some (.file path)
  | _ => none

end CacheKey

namespace Rules

def cacheKey (rules : Rules) (cwd : String) (request : Request) : CacheKey :=
  if Specifier.namesLibrary request.specifier then
    if rules.builtins.contains request.specifier then .builtin request.specifier
    else .library request.specifier request.directory
  else .file (Path.absoluteFrom cwd request.directory request.specifier)

/-- A library that could not be located may be looked for from the parent folder. -/
def mayRetry (rules : Rules) (request : Request) (failure : Failure) : Bool :=
  rules.retryFromParent && failure.kind != .dependencyRootNotFound
    && failure.kind != .fileNotFound && Path.parent request.directory != request.directory

/-- The second attempt to locate a library, from the parent folder, after a first failure. -/
def retryLibrary (rules : Rules) (cwd : String) (request : Request) (first : Failure) :
    Search String :=
  let parent := Path.parent request.directory
  ExceptT.mk (.note (.retrying request.specifier request.directory parent)
    ((Library.locate rules cwd request request.specifier parent).run.bind fun
      | .error (.failed _) => .done (.error (.failed first))
      | result => .done result))

def resolveLibrary (rules : Rules) (cwd : String) (request : Request) : Search String :=
  ExceptT.mk ((Library.locate rules cwd request request.specifier request.directory).run.bind fun
    | .error (.failed failure) =>
      if rules.mayRetry request failure then (rules.retryLibrary cwd request failure).run
      else .done (.error (.failed failure))
    | result => .done result)

def resolveFile (rules : Rules) (request : Request) (path : String) : Search String := do
  match ← rules.probeFile path with
  | some found => return found
  | none => Search.fail request (.noFile path)

def resolveKey (rules : Rules) (cwd : String) (request : Request) : CacheKey → Search String
  | .builtin specifier => return specifier
  | .library _ _ => rules.resolveLibrary cwd request
  | .file path => rules.resolveFile request path

def resolve (rules : Rules) (cwd : String) (request : Request) : Search String :=
  rules.resolveKey cwd request (rules.cacheKey cwd request)

end Rules

/-- The request for a specifier from a folder, by default the current one. -/
def Request.from (cwd specifier : String) (directory : Option String) : Request :=
  ⟨specifier, Path.absolute cwd (directory.getD cwd)⟩

structure Session where
  rules : Rules
  cache : Cache CacheKey

namespace Session

def start (options : Options) : Session := ⟨options.rules, .empty⟩

/-- The session under other options; what was found before is forgotten. -/
def configure (_ : Session) (options : Options) : Session := start options

/-- Resolves a request whose key is not known yet. -/
def resolveAnew (session : Session) (cwd : String) (request : Request) (key : CacheKey) :
    Lookup (Except Stop String × Session) :=
  (session.rules.resolveKey cwd request key).run.bind fun
    | .error stop => .done (.error stop, session)
    | .ok path =>
      let (stored, cache) := session.cache.store key path
      .note (.resolved request.specifier path key.kind)
        (.done (.ok stored, { session with cache }))

/-- Resolves a request, from memory if its key is known. -/
def resolve (session : Session) (cwd : String) (request : Request) :
    Lookup (Except Stop String × Session) :=
  let key := session.rules.cacheKey cwd request
  match session.cache.get? key with
  | some path => .done (.ok path, session)
  | none => session.resolveAnew cwd request key

def describe (session : Session) : String :=
  "PathResolver(" ++ toString session.rules.allowed.length ++ " extensions, "
    ++ session.cache.describe ++ ")"

end Session

end ModuleResolution
