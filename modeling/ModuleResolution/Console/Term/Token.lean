import ModuleResolution.Console.Term.Fault
import ModuleResolution.Text.Lines
import ModuleResolution.Text.Naming

/-! # Tokens of terms

The parameters of a handler are a term: names, numbers and quoted texts, joined by operators and
grouped by brackets. A text is split into the tokens of a term from its start on, up to where it
ends or cannot be split any further (`Stop`). Brackets have to match each other. Inside of brackets
the ends of lines do not count, and elsewhere the indentation of a line does.
-/

set_option autoImplicit false

namespace ModuleResolution.Console.Term

structure TextForm where
  /-- There are three quotes on each side. -/
  isLong : Bool := false
  isRaw : Bool := false
  isOctets : Bool := false
  /-- The text holds terms in braces. -/
  isPattern : Bool := false
  deriving DecidableEq, Repr

inductive TokenKind where
  | name (word : List Char)
  | keyword (word : List Char)
  /-- A number; `digits` is how many digits a whole number to the base ten has. -/
  | number (isImaginary : Bool) (digits : Nat)
  | text (form : TextForm) (content : List Char)
  | mark (chars : List Char)
  | lineEnd
  | indent
  | finish
  deriving DecidableEq, Repr

/-- A token on a line, with the number of brackets that are open behind it. -/
structure Token where
  kind : TokenKind
  level : Nat
  line : Nat
  deriving DecidableEq, Repr

/-- Why a text is split no further. -/
inductive Stop where
  | text (fault : TextFault)
  /-- The text is over too soon, or its lines do not go on as they have to. -/
  | lines (fault : Fault)
  deriving DecidableEq, Repr

def Stop.fault : Stop → Fault
  | .text fault => .text fault
  | .lines fault => fault

structure Tokens where
  row : Array Token
  stop : Stop
  /-- The last bracket that is open at the stop, with its line. -/
  opened : Option (Char × Nat)
  /-- The last token is only over because the text is. -/
  isCutOff : Bool

/-! ## Words -/

/-- The words that are no names. -/
def keywords : List (List Char) :=
  ["False", "None", "True", "and", "as", "assert", "async", "await", "break", "class", "continue",
    "def", "del", "elif", "else", "except", "finally", "for", "from", "global", "if", "import",
    "in", "is", "lambda", "nonlocal", "not", "or", "pass", "raise", "return", "try", "while",
    "with", "yield"].map String.toList

/-- The character may belong to a name; for one beyond ASCII this is told later. -/
def isNameLike (c : Char) : Bool := c.isAlphanum || c == '_' || decide (128 ≤ c.toNat)

def wrongCharacter? (word : List Char) : Option Char :=
  match word with
  | [] => none
  | c :: rest => if Naming.isStart c then rest.find? (!Naming.isPart ·) else some c

/-- The letters that can stand in front of a quote. -/
def textForms : List (String × TextForm) :=
  [("r", { isRaw := true }), ("u", {}), ("b", { isOctets := true }), ("f", { isPattern := true }),
    ("br", { isRaw := true, isOctets := true }), ("rb", { isRaw := true, isOctets := true }),
    ("fr", { isRaw := true, isPattern := true }), ("rf", { isRaw := true, isPattern := true })]

/-- What the letters in front of a quote say, if they can stand there. -/
def textForm? (word : List Char) : Option TextForm :=
  textForms.lookup (String.ofList (word.map Char.toLower))

/-! ## Numbers -/

def afterDigits : List Char → Except TextFault (List Char)
  | ['_'] => .error (.badNumber .decimal)
  | '_' :: d :: rest => if d.isDigit then afterDigits rest else .error (.badNumber .decimal)
  | c :: rest => if c.isDigit then afterDigits rest else .ok (c :: rest)
  | [] => .ok []

/-- The words that can stand right behind a number if they go on no further. -/
def wordsBehindNumber : List (List Char) := ["and", "else", "for", "not", "or"].map String.toList

/-- The starts of words that can stand right behind a number. -/
def startsBehindNumber : List (List Char) := ["if", "in", "is"].map String.toList

/-- The text behind a number, with which no name in ASCII may start. -/
def endNumber (kind : NumberKind) (cs : List Char) : Except TextFault (List Char) :=
  let canFollow := startsBehindNumber.any (·.isPrefixOf cs)
    || wordsBehindNumber.contains (cs.takeWhile isNameLike)
  if cs.head?.any (fun c => c.isAlphanum || c == '_') && !canFollow then .error (.badNumber kind)
  else .ok cs

/-- A number that is read up to some place. -/
structure NumberEnd where
  rest : List Char
  isImaginary : Bool := false
  isWhole : Bool := false

/-- The end of a number behind its digits; a letter may stand there. -/
def endDigits (isWhole : Bool) (cs : List Char) : Except TextFault NumberEnd := do
  match cs with
  | c :: rest =>
    if c = 'j' || c = 'J' then return { rest := ← endNumber .imaginary rest, isImaginary := true }
    else return { rest := ← endNumber .decimal cs, isWhole }
  | [] => return { rest := [], isWhole }

/-- The end of a number from where an exponent may stand. -/
def endPower (isWhole : Bool) (cs : List Char) : Except TextFault NumberEnd := do
  match cs with
  | e :: rest =>
    if e != 'e' && e != 'E' then endDigits isWhole cs
    else
      let hasSign := rest.head? = some '+' || rest.head? = some '-'
      let digits := if hasSign then rest.tail else rest
      if digits.head?.any Char.isDigit then endDigits false (← afterDigits digits)
      else if hasSign then .error (.badNumber .decimal)
      else return { rest := ← endNumber .decimal cs, isWhole }
  | [] => endDigits isWhole cs

/-- The end of a number behind its point. -/
def endPlaces (cs : List Char) : Except TextFault NumberEnd := do
  if cs.head?.any Char.isDigit then endPower false (← afterDigits cs) else endPower false cs

def endWhole (cs : List Char) : Except TextFault NumberEnd :=
  match cs with
  | '.' :: places => endPlaces places
  | _ => endPower true cs

/-- The text behind the digits of a base; an underscore may stand in front of each. -/
def afterBased (kind : NumberKind) (isDigit : Char → Bool) :
    Bool → List Char → Except TextFault (List Char)
  | _, '_' :: d :: rest =>
    if isDigit d then afterBased kind isDigit true rest else .error (wrong d)
  | _, ['_'] => .error (.badNumber kind)
  | true, c :: rest => if isDigit c then afterBased kind isDigit true rest else .ok (c :: rest)
  | false, c :: rest => if isDigit c then afterBased kind isDigit true rest else .error (wrong c)
  | true, [] => .ok []
  | false, [] => .error (.badNumber kind)
where
  /-- The fault of a character that is no digit of the base. -/
  wrong (c : Char) : TextFault :=
    if c.isDigit && kind != .hexadecimal then .badDigit c kind else .badNumber kind

def endBased (kind : NumberKind) (isDigit : Char → Bool) (cs : List Char) :
    Except TextFault NumberEnd := do
  let rest ← afterBased kind isDigit false cs
  match rest.head? with
  | some c =>
    if c.isDigit then .error (.badDigit c kind) else return { rest := ← endNumber kind rest }
  | none => return { rest }

/-- The text behind zeros and single underscores between digits. -/
def afterZeros : List Char → Except TextFault (List Char)
  | ['_'] => .error (.badNumber .decimal)
  | '_' :: d :: rest =>
    if d = '0' then afterZeros rest
    else if d.isDigit then .ok (d :: rest)
    else .error (.badNumber .decimal)
  | '0' :: rest => afterZeros rest
  | cs => .ok cs

def endZero (cs : List Char) : Except TextFault NumberEnd := do
  match cs with
  | letter :: digits =>
    if letter = 'x' || letter = 'X' then
      endBased .hexadecimal (fun c => (Hex.value? c).isSome) digits
    else if letter = 'o' || letter = 'O' then endBased .octal (fun c => '0' ≤ c && c < '8') digits
    else if letter = 'b' || letter = 'B' then endBased .binary (fun c => c = '0' || c = '1') digits
    else
      let rest ← afterZeros cs
      let isPadded := rest.head?.any Char.isDigit
      let rest ← if isPadded then afterDigits rest else pure rest
      if isPadded && !rest.head?.any (".eEjJ".toList.contains ·) then .error .leadingZeros
      else return { ← endWhole rest with isWhole := false }
  | [] => return { rest := [] }

def endOfNumber (cs : List Char) : Except TextFault NumberEnd := do
  match cs with
  | '.' :: places => endPlaces places
  | '0' :: rest => endZero rest
  | _ => endWhole (← afterDigits cs)

/-! ## Quoted texts -/

/-- A text behind an opening quote, or behind three of them, up to where it is closed, and what
stands behind that; some characters are read already, the last one first. -/
def splitQuoted (quote : Char) (isLong : Bool) (content : List Char) :
    List Char → List Char × Option (List Char)
  | [] => (content.reverse, none)
  | '\\' :: c :: rest => splitQuoted quote isLong (c :: '\\' :: content) rest
  | c :: rest =>
    if c = quote && (!isLong || [quote, quote].isPrefixOf rest) then
      (content.reverse, some (if isLong then rest.drop 2 else rest))
    else if c = '\n' && !isLong then (content.reverse, none)
    else splitQuoted quote isLong (c :: content) rest

/-- The quoted text behind a quote on some line, with a form that is known but for its quotes, and
what stands behind it. -/
def quoted (line : Nat) (form : TextForm) (quote : Char) (rest : List Char) :
    Except TextFault (TokenKind × List Char) :=
  let isLong := [quote, quote].isPrefixOf rest
  let (content, after) := splitQuoted quote isLong [] (if isLong then rest.drop 2 else rest)
  match after with
  | some after => .ok (.text { form with isLong } content, after)
  | none =>
    let lines := line + content.count '\n'
    .error (if isLong then .openLongText lines else .openText lines)

/-! ## Marks -/

/-- The marks of more than one character, the longest first. -/
def longMarks : List (List Char) :=
  ["**=", "//=", ">>=", "<<=", "...", "!=", "%=", "&=", "**", "*=", "+=", "-=", "->", "//", "/=",
    ":=", "<<", "<=", "<>", "==", ">=", ">>", "@=", "^=", "|="].map String.toList

def opening? : Char → Option Char
  | ')' => some '('
  | ']' => some '['
  | '\x7d' => some '\x7b'
  | _ => none

/-- The greatest number of brackets inside of each other. -/
def bracketLimit : Nat := 200

/-- The brackets that are open behind a mark on some line, the last one first, with their lines. -/
def bracketsBehind (line : Nat) (brackets : List (Char × Nat)) (c : Char) :
    Except TextFault (List (Char × Nat)) :=
  if "([\x7b".toList.contains c then
    if brackets.length < bracketLimit then .ok ((c, line) :: brackets) else .error .tooNested
  else match opening? c with
    | none => .ok brackets
    | some opening =>
      match brackets with
      | [] => .error (.unmatched c)
      | (last, start) :: rest =>
        if last = opening then .ok rest
        else .error (.mismatched c last (if start = line then none else some start))

/-! ## Lines -/

/-- How far a line is indented, by two measures of a tab: up to the next multiple of eight, and as
one column. -/
structure Indentation where
  columns : Nat := 0
  places : Nat := 0
  /-- The columns in front of the first backslash that ends a line of the indentation, or zero. -/
  fixedColumns : Nat := 0
  /-- The number of lines that the indentation goes on over. -/
  lines : Nat := 0

/-- The indentation at the start of a text and the text behind it; a part of it is read already. -/
def Indentation.read (indent : Indentation) : List Char → Except Fault (Indentation × List Char)
  | ' ' :: rest =>
    { indent with columns := indent.columns + 1, places := indent.places + 1 }.read rest
  | '\t' :: rest =>
    { indent with columns := 8 * (indent.columns / 8 + 1), places := indent.places + 1 }.read rest
  | '\x0c' :: rest => { indent with columns := 0, places := 0 }.read rest
  | ['\\', '\n'] => .error .unexpectedEnd
  | '\\' :: '\n' :: rest =>
    let fixedColumns := if indent.fixedColumns = 0 then indent.columns else indent.fixedColumns
    { indent with fixedColumns, lines := indent.lines + 1 }.read rest
  | '\\' :: _ => .error .strayBackslash
  | rest =>
    if indent.fixedColumns = 0 then .ok (indent, rest)
    else .ok ({ indent with columns := indent.fixedColumns, places := indent.fixedColumns }, rest)

structure Splitter where
  line : Nat := 1
  /-- The open brackets with their lines, the last one first. -/
  brackets : List (Char × Nat) := []
  /-- The indentations around the line, the last one first. -/
  indents : List (Nat × Nat) := []
  /-- A line starts here. -/
  isFresh : Bool := true
  /-- The tokens so far. -/
  row : Array Token := #[]
  /-- The last token is only over because the text is. -/
  isCutOff : Bool := false

def Splitter.push (s : Splitter) (kind : TokenKind) : Splitter :=
  { s with row := s.row.push ⟨kind, s.brackets.length, s.line⟩ }

/-- The indentations around a line that is indented so far, and whether it is further in than the
lines before. -/
def Splitter.indentTo (s : Splitter) (columns places : Nat) :
    Except Fault (List (Nat × Nat) × Bool) :=
  let (innermost, innermostPlaces) := s.indents.headD (0, 0)
  if columns = innermost then
    if places = innermostPlaces then .ok (s.indents, false) else .error .mixedIndent
  else if innermost < columns then
    if 98 < s.indents.length then .error .deepIndent
    else if places ≤ innermostPlaces then .error .mixedIndent
    else .ok ((columns, places) :: s.indents, true)
  else
    let outer := s.indents.dropWhile fun indent => decide (columns < indent.1)
    let (column, place) := outer.headD (0, 0)
    if columns != column then .error .unevenIndent
    else if places != place then .error .mixedIndent
    else .ok (outer, false)

/-- The tokens up to a stop. -/
def Splitter.stop (s : Splitter) (stop : Stop) : Tokens :=
  ⟨s.row, stop, s.brackets.head?, s.isCutOff⟩

/-- The tokens up to the end of a text that is over too soon. -/
def Splitter.stopAtEnd (s : Splitter) : Tokens :=
  s.stop (.lines (match s.brackets with
    | [] => .unexpectedEnd
    | (bracket, _) :: _ => .unclosed bracket))

/-! ## Tokens -/

/-- The word at the start of a text, or the quoted text with the letters in front of it. -/
def wordToken (line : Nat) (cs : List Char) : Except TextFault (TokenKind × List Char) := do
  let (word, after) := cs.span isNameLike
  let form? := match after with
    | '\'' :: _ | '"' :: _ => textForm? word
    | _ => none
  match form?, after with
  | some form, quote :: behind => quoted line form quote behind
  | _, _ =>
    match wrongCharacter? word with
    | some c => .error (.badCharacter c)
    | none => return (if keywords.contains word then .keyword word else .name word, after)

def numberToken (cs : List Char) : Except TextFault (TokenKind × List Char) := do
  let number ← endOfNumber cs
  let shown := cs.take (cs.length - number.rest.length)
  let digits := if number.isWhole then shown.countP Char.isDigit else 0
  return (.number number.isImaginary digits, number.rest)

/-- The token at the start of a text on some line, and the text behind it. -/
def nextToken (line : Nat) (cs : List Char) : Except TextFault (TokenKind × List Char) := do
  match cs with
  | [] => return (.finish, [])
  | c :: rest =>
    if c.isDigit || (c = '.' && rest.head?.any Char.isDigit) then numberToken cs
    else if isNameLike c then wordToken line cs
    else if c = '\'' || c = '"' then quoted line {} c rest
    else match longMarks.find? (·.isPrefixOf cs) with
      | some mark => return (.mark mark, cs.drop mark.length)
      | none =>
        if Printable.isPrintable c then return (.mark [c], rest) else .error (.badCharacter c)

/-- A token at the end of a text is only over because the text is. The end of a quoted text shows,
unless its two quotes could start a longer one, and so does that of a mark of three characters. -/
def TokenKind.isOpenEnded : TokenKind → Bool
  | .name _ | .keyword _ | .number _ _ => true
  | .mark chars => decide (chars.length < 3)
  | .text form content => content.isEmpty && !form.isLong
  | .lineEnd | .indent | .finish => false

/-- The state behind the token at the start of a text, and the text behind it. -/
def Splitter.next (s : Splitter) (cs : List Char) : Except TextFault (Splitter × List Char) := do
  let (kind, after) ← nextToken s.line cs
  let brackets ← match kind with
    | .mark [c] => bracketsBehind s.line s.brackets c
    | _ => pure s.brackets
  return ({ { s with brackets }.push kind with
    line := s.line + (cs.count '\n' - after.count '\n')
    isCutOff := after.isEmpty && kind.isOpenEnded }, after)

/-- The tokens of a text in at most so many steps. -/
def split : Nat → Splitter → List Char → Tokens
  | 0, s, _ => s.stopAtEnd
  | steps + 1, s, cs =>
    if s.isFresh then
      match Indentation.read {} cs with
      | .error fault => s.stop (.lines fault)
      | .ok (_, []) => split steps { s with isFresh := false } []
      | .ok (indent, c :: rest) =>
        let s := { s with line := s.line + indent.lines }
        if c = '#' || c = '\n' then
          split steps { s with line := s.line + 1 } ((c :: rest).dropWhile (· != '\n')).tail
        else match s.indentTo indent.columns indent.places with
          | .error fault => s.stop (.lines fault)
          | .ok (indents, isFurther) =>
            let s := if isFurther then s.push .indent else s
            split steps { s with indents, isFresh := false } (c :: rest)
    else match cs with
      | [] => if s.brackets.isEmpty then (s.push .finish).stopAtEnd else s.stopAtEnd
      | '\n' :: rest =>
        let s := if s.brackets.isEmpty then { s.push .lineEnd with isFresh := true } else s
        split steps { s with line := s.line + 1 } rest
      | ['\\', '\n'] => s.stopAtEnd
      | '\\' :: '\n' :: rest => split steps { s with line := s.line + 1 } rest
      | '\\' :: _ => s.stop (.lines .strayBackslash)
      | c :: rest =>
        if c = ' ' || c = '\t' || c = '\x0c' then split steps s rest
        else if c = '#' then split steps s (rest.dropWhile (· != '\n'))
        else match s.next cs with
          | .error fault => s.stop (.text fault)
          | .ok (s, after) => split steps s after

def Tokens.ofText (text : List Char) : Tokens :=
  let text := Lines.unifyChars text
  if text.contains '\x00' then Splitter.stop {} (.text .zeroCharacter)
  else split (2 * text.length + 2) {} text

end ModuleResolution.Console.Term
