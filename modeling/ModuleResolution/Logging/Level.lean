/-! # Log levels

How much a log record matters. A level may be asked for by its name in letters of any case; an
unknown name asks for warnings. The names `BASIC_FORMAT` and `_STYLES` are taken by settings of the
log that are no levels, so they are refused.
-/

set_option autoImplicit false

namespace ModuleResolution

inductive Level where
  | notSet
  | debug
  | info
  | warning
  | error
  | critical
  deriving DecidableEq, Repr

namespace Level

/-- The rank of a level; what matters more ranks higher. -/
def rank : Level → Nat
  | .notSet => 0
  | .debug => 10
  | .info => 20
  | .warning => 30
  | .error => 40
  | .critical => 50

def name : Level → String
  | .notSet => "NOTSET"
  | .debug => "DEBUG"
  | .info => "INFO"
  | .warning => "WARNING"
  | .error => "ERROR"
  | .critical => "CRITICAL"

def names : List (String × Level) :=
  [("NOTSET", .notSet), ("DEBUG", .debug), ("INFO", .info), ("WARNING", .warning),
    ("WARN", .warning), ("ERROR", .error), ("CRITICAL", .critical), ("FATAL", .critical)]

/-- The characters beyond ASCII whose capital letters are in ASCII, with these letters. -/
def wideCapitals : List (Nat × String) :=
  [(0xDF, "SS"), (0x131, "I"), (0x17F, "S"), (0xFB00, "FF"), (0xFB01, "FI"), (0xFB02, "FL"),
    (0xFB03, "FFI"), (0xFB04, "FFL"), (0xFB05, "ST"), (0xFB06, "ST")]

/-- The capital letters of a character, for those whose capital letters are in ASCII. -/
def capital (c : Char) : List Char :=
  match wideCapitals.lookup c.toNat with
  | some letters => letters.toList
  | none => [c.toUpper]

def capitals (text : String) : String := String.ofList (text.toList.flatMap capital)

def ofName? (text : String) : Option Level := names.lookup text

/-- A setting of the log that is no level but has a name like one. -/
inductive Setting where
  | basicFormat
  | styles
  deriving DecidableEq, Repr

def Setting.message : Setting → String
  | .basicFormat => "Unknown level: '%(levelname)s:%(name)s:%(message)s'"
  | .styles =>
    "Level not an integer or a valid string: \x7b'%': (<class 'logging.PercentStyle'>, "
      ++ "'%(levelname)s:%(name)s:%(message)s'), '\x7b': (<class 'logging.StrFormatStyle'>, "
      ++ "'\x7blevelname\x7d:\x7bname\x7d:\x7bmessage\x7d'), "
      ++ "'$': (<class 'logging.StringTemplateStyle'>, "
      ++ "'$\x7blevelname\x7d:$\x7bname\x7d:$\x7bmessage\x7d')\x7d"

def requested (text : String) : Except Setting Level :=
  match capitals text with
  | "BASIC_FORMAT" => .error .basicFormat
  | "_STYLES" => .error .styles
  | name => .ok ((ofName? name).getD .warning)

/-- Records of a level are kept where `threshold` is set; what has no level never is. -/
def passes (level threshold : Level) : Bool :=
  level != .notSet && decide (threshold.rank ≤ level.rank)

end Level

end ModuleResolution
