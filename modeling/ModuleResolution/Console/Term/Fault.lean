import ModuleResolution.Number.Limit
import ModuleResolution.Text.Hex
import ModuleResolution.Text.Printable

/-! # Faults of terms

Why a text is no term. A text that is no term in several ways has the fault that shows first when it
is read; what is wrong with the characters of the text counts more than how its tokens are put
together.
-/

set_option autoImplicit false

namespace ModuleResolution.Console.Term

inductive NumberKind where
  | decimal
  | hexadecimal
  | octal
  | binary
  | imaginary
  deriving DecidableEq, Repr

def NumberKind.name : NumberKind → String
  | .decimal => "decimal"
  | .hexadecimal => "hexadecimal"
  | .octal => "octal"
  | .binary => "binary"
  | .imaginary => "imaginary"

inductive TextFault where
  | openText (lines : Nat)
  | openLongText (lines : Nat)
  | badNumber (kind : NumberKind)
  | badDigit (digit : Char) (kind : NumberKind)
  | leadingZeros
  | badCharacter (c : Char)
  | zeroCharacter
  | tooNested
  | unmatched (bracket : Char)
  /-- A closing bracket behind an opening one of another kind, which may stand on another line. -/
  | mismatched (closing opening : Char) (line : Option Nat)
  deriving DecidableEq, Repr

def TextFault.message : TextFault → String
  | .openText lines => "unterminated string literal (detected at line " ++ toString lines ++ ")"
  | .openLongText lines =>
    "unterminated triple-quoted string literal (detected at line " ++ toString lines ++ ")"
  | .badNumber kind => "invalid " ++ kind.name ++ " literal"
  | .badDigit digit kind =>
    "invalid digit '" ++ digit.toString ++ "' in " ++ kind.name ++ " literal"
  | .leadingZeros =>
    "leading zeros in decimal integer literals are not permitted; "
      ++ "use an 0o prefix for octal integers"
  | .badCharacter c =>
    let code := "U+" ++ String.ofList (Hex.padded 'A' 4 c.toNat)
    if Printable.isPrintable c then "invalid character '" ++ c.toString ++ "' (" ++ code ++ ")"
    else "invalid non-printable character " ++ code
  | .zeroCharacter => "source code string cannot contain null bytes"
  | .tooNested => "too many nested parentheses"
  | .unmatched bracket => "unmatched '" ++ bracket.toString ++ "'"
  | .mismatched closing opening line =>
    "closing parenthesis '" ++ closing.toString ++ "' does not match opening parenthesis '"
      ++ opening.toString ++ "'" ++ (line.map fun line => " on line " ++ toString line).getD ""

inductive PatternFault where
  | loneBrace
  | openBrace
  | noTerm
  | noTermBefore (mark : Char)
  | openText
  | badForm
  | nested
  | tooNested
  | backslash
  | comment
  | unmatched (bracket : Char)
  | mismatched (closing opening : Char)
  deriving DecidableEq, Repr

def PatternFault.message : PatternFault → String
  | .loneBrace => "f-string: single '\x7d' is not allowed"
  | .openBrace => "f-string: expecting '\x7d'"
  | .noTerm => "f-string: empty expression not allowed"
  | .noTermBefore mark => "f-string: expression required before '" ++ mark.toString ++ "'"
  | .openText => "f-string: unterminated string"
  | .badForm => "f-string: invalid conversion character: expected 's', 'r', or 'a'"
  | .nested => "f-string: expressions nested too deeply"
  | .tooNested => "f-string: too many nested parenthesis"
  | .backslash => "f-string expression part cannot include a backslash"
  | .comment => "f-string expression part cannot include '#'"
  | .unmatched bracket => "f-string: unmatched '" ++ bracket.toString ++ "'"
  | .mismatched closing opening =>
    "f-string: " ++ (TextFault.mismatched closing opening none).message

inductive Fault where
  | text (fault : TextFault)
  | pattern (fault : PatternFault)
  /-- A fault of a term in braces inside of a text. -/
  | inside (fault : Fault)
  | malformed
  /-- A bracket is open at the end. -/
  | unclosed (bracket : Char)
  /-- A backslash stands before something else than the end of its line. -/
  | strayBackslash
  /-- A backslash stands at the end. -/
  | unexpectedEnd
  | unexpectedIndent
  | unevenIndent
  | mixedIndent
  | deepIndent
  /-- An escape that cannot be read: what cannot, and between which places, if it is no octet. -/
  | badEscape (first last : Nat) (what : String)
  | badOctetEscape (place : Nat)
  | beyondOctets
  | mixedTexts
  | longNumber (long : LongNumber)
  | noComma
  | noElse
  /-- An equals sign stands behind a name. -/
  | equals
  /-- Something that no value can be given to, of some kind. -/
  | unassignable (kind : String)
  | unassignableHere (kind : String)
  | unnameable (kind : String)
  | assignedArgument
  /-- A word that once was a statement stands before its argument. -/
  | statement (word : String)
  | loneStar
  | starredGroup
  | doublyStarredGroup
  | starredValue
  | starredRange
  | doublyStarredRange
  | rowRange
  | noValue
  | noColon
  | bareRange
  | positionalBehindNamed
  | positionalBehindStarred
  | starredBehindStarred
  | noDefault
  | parameterWithoutDefault
  | groupedParameters
  | nothingBeforeSlash
  | secondSlash
  | slashBehindStar
  | noCommaBehindSlash
  | nothingBehindStar
  | starDefault
  | secondStar
  | doubleStarDefault
  | behindDoubleStar
  /-- Too many parts are inside of one another, of which nothing is told. -/
  | tooDeep
  deriving DecidableEq, Repr

def Fault.message : Fault → String
  | .text fault => fault.message
  | .pattern fault => fault.message
  | .inside fault => "f-string: " ++ fault.message
  | .malformed => "invalid syntax"
  | .unclosed bracket => "'" ++ bracket.toString ++ "' was never closed"
  | .strayBackslash => "unexpected character after line continuation character"
  | .unexpectedEnd => "unexpected EOF while parsing"
  | .unexpectedIndent => "unexpected indent"
  | .unevenIndent => "unindent does not match any outer indentation level"
  | .mixedIndent => "inconsistent use of tabs and spaces in indentation"
  | .deepIndent => "too many levels of indentation"
  | .badEscape first last what =>
    "(unicode error) 'unicodeescape' codec can't decode bytes in position " ++ toString first
      ++ "-" ++ toString last ++ ": " ++ what
  | .badOctetEscape place => "(value error) invalid \\x escape at position " ++ toString place
  | .beyondOctets => "bytes can only contain ASCII literal characters"
  | .mixedTexts => "cannot mix bytes and nonbytes literals"
  | .longNumber long =>
    long.message
      ++ " - Consider hexadecimal for huge integer literals to avoid decimal conversion limits."
  | .noComma => "invalid syntax. Perhaps you forgot a comma?"
  | .noElse => "expected 'else' after 'if' expression"
  | .equals => "invalid syntax. Maybe you meant '==' or ':=' instead of '='?"
  | .unassignable kind => "cannot assign to " ++ kind
  | .unassignableHere kind =>
    "cannot assign to " ++ kind ++ " here. Maybe you meant '==' instead of '='?"
  | .unnameable kind => "cannot use assignment expressions with " ++ kind
  | .assignedArgument => "expression cannot contain assignment, perhaps you meant \"==\"?"
  | .statement word =>
    "Missing parentheses in call to '" ++ word ++ "'. Did you mean " ++ word ++ "(...)?"
  | .loneStar => "Invalid star expression"
  | .starredGroup => "cannot use starred expression here"
  | .doublyStarredGroup => "cannot use double starred expression here"
  | .starredValue => "cannot use a starred expression in a dictionary value"
  | .starredRange => "iterable unpacking cannot be used in comprehension"
  | .doublyStarredRange => "dict unpacking cannot be used in dict comprehension"
  | .rowRange => "did you forget parentheses around the comprehension target?"
  | .noValue => "expression expected after dictionary key and ':'"
  | .noColon => "':' expected after dictionary key"
  | .bareRange => "Generator expression must be parenthesized"
  | .positionalBehindNamed => "positional argument follows keyword argument"
  | .positionalBehindStarred => "positional argument follows keyword argument unpacking"
  | .starredBehindStarred =>
    "iterable argument unpacking follows keyword argument unpacking"
  | .noDefault => "expected default value expression"
  | .parameterWithoutDefault => "non-default argument follows default argument"
  | .groupedParameters => "Lambda expression parameters cannot be parenthesized"
  | .nothingBeforeSlash => "at least one argument must precede /"
  | .secondSlash => "/ may appear only once"
  | .slashBehindStar => "/ must be ahead of *"
  | .noCommaBehindSlash => "expected comma between / and *"
  | .nothingBehindStar => "named arguments must follow bare *"
  | .starDefault => "var-positional argument cannot have default value"
  | .secondStar => "* argument may appear only once"
  | .doubleStarDefault => "var-keyword argument cannot have default value"
  | .behindDoubleStar => "arguments cannot follow var-keyword argument"
  | .tooDeep => ""

end ModuleResolution.Console.Term
