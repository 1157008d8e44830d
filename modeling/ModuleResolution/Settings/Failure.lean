import ModuleResolution.Disk.Basic
import ModuleResolution.Options.Validation
import ModuleResolution.Text.Utf8
import ModuleResolution.Yaml.Literal

/-! # Failures of settings

Why settings cannot be read, merged or changed. A file that is no YAML or holds no mapping is not
among the reasons: such a file is left out.
-/

set_option autoImplicit false

namespace ModuleResolution

inductive SettingsFailure where
  /-- The home directory cannot be told. -/
  | noHome
  /-- A file that does not hold text. -/
  | undecodable (failure : Utf8.Failure)
  /-- A file with a literal that has no value, or a number that cannot be written. -/
  | valueless (fault : Yaml.Fault)
  /-- A list cannot be put behind this value. -/
  | unspreadable (value : Value)
  /-- No list can be added to in this section. -/
  | noSectionToAdd (value : Value)
  /-- No value can be set in this section. -/
  | noSectionToSet (value : Value)
  /-- A value of a list field that cannot hold anything. -/
  | unsearchable (value : Value)
  /-- A value of a list field that cannot be added to. -/
  | unextendable (value : Value)
  | notListField (name : String)
  | notScalarField (name : String)
  | unwritable (failure : DiskFailure)
  deriving DecidableEq, Repr

namespace SettingsFailure

/-- The type of a value as it is quoted. -/
def quotedType (value : Value) : String := "'" ++ value.typeName ++ "'"

def wrongField (kind name : String) (fields : List String) : String :=
  "'" ++ name ++ "' is not a " ++ kind ++ " option. Choose from: " ++ ", ".intercalate fields

def message : SettingsFailure → String
  | .noHome => "Could not determine home directory."
  | .undecodable failure => failure.message
  | .valueless fault => fault.message
  | .unspreadable value => "Value after * must be an iterable, not " ++ value.typeName
  | .noSectionToAdd value => quotedType value ++ " object has no attribute 'setdefault'"
  | .noSectionToSet (.list _) => "list indices must be integers or slices, not str"
  | .noSectionToSet value => quotedType value ++ " object does not support item assignment"
  | .unsearchable (.scalar (.octets _)) => "a bytes-like object is required, not 'str'"
  | .unsearchable value => "argument of type " ++ quotedType value ++ " is not iterable"
  | .unextendable value => quotedType value ++ " object has no attribute 'append'"
  | .notListField name => wrongField "list" name Options.listFields
  | .notScalarField name => wrongField "scalar" name Options.scalarFields
  | .unwritable failure => failure.message

end SettingsFailure

end ModuleResolution
