import ModuleResolution.Resolve.Failure
import ModuleResolution.Text.Infix
import ModuleResolution.Value.Basic

/-! # Reports

How errors are shown: on one line with the name of their kind, unless the text says it already;
and a failed resolution as a headline with its details below, or as fields.
-/

set_option autoImplicit false

namespace ModuleResolution.Report

/-- A text, or a remark when there is none. -/
def orRemark (text : String) : String :=
  if text.isEmpty then "(no additional details)" else text

/-- An error on one line, with the name of its kind in front unless the text holds it. -/
def typed (kind text : String) : String :=
  let text := orRemark text
  if Infix.holds text kind then text else kind ++ ": " ++ text

def untyped (text : String) : String := orRemark text

/-- A failed resolution as a headline and a line of details. -/
def headline (kind : String) (request : Request) (message : String) : String :=
  kind ++ ": '" ++ request.specifier ++ "' from " ++ request.directory ++ "\n  " ++ message

def fields (kind : String) (request : Request) (message : String) : Mapping :=
  [(.text "error", .text kind), (.text "message", .text message),
    (.text "from_directory", .text request.directory)]

def ofFailure (failure : Failure) : String :=
  headline failure.kind.name failure.request failure.message

def fieldsOf (failure : Failure) : Mapping :=
  fields failure.kind.name failure.request failure.message

end ModuleResolution.Report
