import ModuleResolution.Path.Basic

/-! # Specifiers

A specifier is what an import names. One that starts like a relative or an absolute path (of
either slash, or with a drive letter) names a file; every other one names a library.
-/

set_option autoImplicit false

namespace ModuleResolution.Specifier

/-- The specifier names a library rather than a file. -/
def namesLibrary (specifier : String) : Bool :=
  match specifier.toList with
  | '.' :: _ | '/' :: _ | '\\' :: _ => false
  | _ :: ':' :: slash :: _ => !(slash == '/' || slash == '\\')
  | _ => true

/-- The name of a library's type package: `@scope/name` becomes `scope__name`. -/
def sidecarName (library : String) : String :=
  match library.toList with
  | '@' :: rest =>
    if rest.contains '/' then
      String.ofList (rest.takeWhile (· != '/') ++ ['_', '_'] ++
        (rest.dropWhile (· != '/')).drop 1)
    else library
  | _ => library

end ModuleResolution.Specifier
