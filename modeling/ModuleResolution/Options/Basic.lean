import ModuleResolution.Options.Builtins
import ModuleResolution.Path.Extension

/-! # Options and rules

`Options` are what a caller adds to the defaults; `Rules` are what a resolution goes by. Options
only extend: each list of the rules starts with the defaults, holds what the caller added behind
them in the order given, and keeps the first of equal entries. Added extensions get a dot in
front, empty ones are dropped.
-/

set_option autoImplicit false

namespace ModuleResolution

inductive Fallback where
  /-- Look for a type package and in a higher dependency root. -/
  | escalate
  /-- Fail at once. -/
  | strict
  deriving DecidableEq, Repr

def Fallback.name : Fallback → String
  | .escalate => "escalate"
  | .strict => "strict"

def Fallback.ofName? (name : String) : Option Fallback :=
  if name = "escalate" then some .escalate
  else if name = "strict" then some .strict
  else none

/-- What a caller adds to the defaults. -/
structure Options where
  extraExtensions : List String := []
  extraExcludedExtensions : List String := []
  extraPackageFields : List String := []
  extraBuiltinModules : List String := []
  manifestFallback : Fallback := .escalate
  retryFromParent : Bool := true
  deriving DecidableEq, Repr

/-- What a resolution goes by. -/
structure Rules where
  /-- The extensions that may be matched, in the order in which they are tried. -/
  allowed : List String
  /-- The extensions that are never matched. -/
  excluded : List String
  /-- The manifest fields that may name an entry, in the order in which they are consulted. -/
  fields : List String
  builtins : Builtins
  fallback : Fallback
  retryFromParent : Bool
  deriving DecidableEq, Repr

/-- Extensions as a caller gives them: empty ones dropped, the others with their dot. -/
def dottedExtensions (extensions : List String) : List String :=
  (extensions.filter (· != "")).map Path.dotted

def Options.rules (options : Options) : Rules where
  allowed := (Layout.extensions ++ dottedExtensions options.extraExtensions).eraseDups
  excluded := (dottedExtensions options.extraExcludedExtensions).eraseDups
  fields := (Layout.packageFields ++ options.extraPackageFields).eraseDups
  builtins := .ofList (Layout.builtins ++ options.extraBuiltinModules)
  fallback := options.manifestFallback
  retryFromParent := options.retryFromParent

namespace Rules

/-- The extension is never matched. -/
def isExcluded (rules : Rules) (extension : String) : Bool := rules.excluded.contains extension

/-- The extension is allowed and not excluded. -/
def isRecognized (rules : Rules) (extension : String) : Bool :=
  rules.allowed.contains extension && !rules.isExcluded extension

/-- The allowed extensions without the excluded ones, in order. -/
def probeOrder (rules : Rules) : List String :=
  rules.allowed.filter fun extension => !rules.isExcluded extension

end Rules

end ModuleResolution
