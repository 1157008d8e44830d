import ModuleResolution.Options.Basic
import ModuleResolution.Text.Utf8
import ModuleResolution.Value.Basic

/-! # Validation of options

Options come as a mapping with one entry for each field; a field that is not there keeps its
default and other entries do not matter. Each field is checked on its own and every problem is
reported with its place and kind. Octets may stand for the text that they encode, and a set for the
list of its members. A truth value may also be written as the number 0 or 1 or as
one of a few words, in any case of letters; a number that is not whole, or that fits no word of 64
bits, is no attempt at one.
-/

set_option autoImplicit false

namespace ModuleResolution

inductive ProblemKind where
  | notMapping
  | notList
  | notText
  /-- Octets in the place of a text that encode none. -/
  | undecodableText
  | notLiteral
  | notTruthValue
  | unreadableTruthValue
  deriving DecidableEq, Repr

/-- What a problem is with: all of the options, a field, or one item of its list. -/
inductive Spot where
  | whole
  | field (name : String)
  | item (field : String) (index : Nat)
  deriving DecidableEq, Repr

structure Problem where
  spot : Spot
  kind : ProblemKind
  deriving DecidableEq, Repr

def ProblemKind.name : ProblemKind → String
  | .notMapping => "model_type"
  | .notList => "list_type"
  | .notText => "string_type"
  | .undecodableText => "string_unicode"
  | .notLiteral => "literal_error"
  | .notTruthValue => "bool_type"
  | .unreadableTruthValue => "bool_parsing"

namespace Options

def listFields : List String :=
  ["extra_extensions", "extra_excluded_extensions", "extra_package_fields",
    "extra_builtin_modules"]

def scalarFields : List String := ["manifest_fallback", "retry_from_parent"]

/-- The text that a value stands for, which may be octets that encode it. -/
def readText : Value → Except ProblemKind String
  | .text text => .ok text
  | .scalar (.octets content) => (Utf8.decode content).mapError fun _ => .undecodableText
  | _ => .error .notText

def readTexts (field : String) (index : Nat) : List Value → List String × List Problem
  | [] => ([], [])
  | item :: rest =>
    let (texts, problems) := readTexts field (index + 1) rest
    match readText item with
    | .ok text => (text :: texts, problems)
    | .error kind => (texts, ⟨.item field index, kind⟩ :: problems)

def readList (entries : Mapping) (field : String) : List String × List Problem :=
  match entries.field? field with
  | none => ([], [])
  | some (.list items) => readTexts field 0 items
  | some (.set members) => readTexts field 0 (members.map .scalar)
  | some _ => ([], [⟨.field field, .notList⟩])

def truthWords : List (String × Bool) :=
  [("0", false), ("off", false), ("f", false), ("false", false), ("n", false), ("no", false),
    ("1", true), ("on", true), ("t", true), ("true", true), ("y", true), ("yes", true)]

/-- The least number that does not fit a signed word of 64 bits; the opposite number does. -/
def wordLimit : Int := 0x8000000000000000

/-- The integer fits a signed word of 64 bits. -/
def fitsWord (n : Int) : Bool := decide (-wordLimit ≤ n ∧ n < wordLimit)

/-- The truth value that a number stands for, which may fit a word of 64 bits. -/
def truthOfNumber (n : Int) (fits : Bool) : Except ProblemKind Bool :=
  if n = 0 then .ok false
  else if n = 1 then .ok true
  else .error (if fits then .unreadableTruthValue else .notTruthValue)

def truthOfWord (word : String) : Except ProblemKind Bool :=
  match truthWords.lookup (String.ofList (word.toList.map Char.toLower)) with
  | some b => .ok b
  | none => .error .unreadableTruthValue

/-- The truth value that a value stands for; a real number at the lower end of the words does not
count as one of them. -/
def readTruth : Value → Except ProblemKind Bool
  | .bool b => .ok b
  | .integer n => truthOfNumber n (fitsWord n)
  | .text text => truthOfWord text
  | .scalar (.octets content) =>
    match Utf8.decode content with
    | .ok text => truthOfWord text
    | .error _ => .error .unreadableTruthValue
  | .scalar (.real value) =>
    match value.whole? with
    | some n => truthOfNumber n (fitsWord n && decide (n ≠ -wordLimit))
    | none => .error .notTruthValue
  | _ => .error .notTruthValue

def readFallback (entries : Mapping) : Fallback × List Problem :=
  match entries.field? "manifest_fallback" with
  | none => (.escalate, [])
  | some (.text name) =>
    match Fallback.ofName? name with
    | some fallback => (fallback, [])
    | none => (.escalate, [⟨.field "manifest_fallback", .notLiteral⟩])
  | some _ => (.escalate, [⟨.field "manifest_fallback", .notLiteral⟩])

def readRetry (entries : Mapping) : Bool × List Problem :=
  match entries.field? "retry_from_parent" with
  | none => (true, [])
  | some value =>
    match readTruth value with
    | .ok b => (b, [])
    | .error kind => (true, [⟨.field "retry_from_parent", kind⟩])

/-- The options that a mapping holds, or every problem with it in the order of the fields. -/
def ofMapping (entries : Mapping) : Except (List Problem) Options :=
  let (extensions, problems₁) := readList entries "extra_extensions"
  let (excluded, problems₂) := readList entries "extra_excluded_extensions"
  let (fields, problems₃) := readList entries "extra_package_fields"
  let (builtins, problems₄) := readList entries "extra_builtin_modules"
  let (fallback, problems₅) := readFallback entries
  let (retry, problems₆) := readRetry entries
  match problems₁ ++ problems₂ ++ problems₃ ++ problems₄ ++ problems₅ ++ problems₆ with
  | [] => .ok ⟨extensions, excluded, fields, builtins, fallback, retry⟩
  | problems => .error problems

/-- The options of a value; nothing given means the defaults. -/
def ofValue : Value → Except (List Problem) Options
  | .null => .ok {}
  | .mapping entries => ofMapping entries
  | _ => .error [⟨.whole, .notMapping⟩]

def toMapping (options : Options) : Mapping :=
  let texts (items : List String) : Value := .list (items.map .text)
  [(.text "extra_extensions", texts options.extraExtensions),
    (.text "extra_excluded_extensions", texts options.extraExcludedExtensions),
    (.text "extra_package_fields", texts options.extraPackageFields),
    (.text "extra_builtin_modules", texts options.extraBuiltinModules),
    (.text "manifest_fallback", .text options.manifestFallback.name),
    (.text "retry_from_parent", .bool options.retryFromParent)]

end Options

end ModuleResolution
