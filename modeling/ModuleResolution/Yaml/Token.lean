import ModuleResolution.Yaml.Block
import ModuleResolution.Yaml.Directive
import ModuleResolution.Yaml.Scalar
import ModuleResolution.Yaml.Source

/-! # Tokens of a YAML text

A text becomes a row of tokens in which the indentation shows as start and end tokens of block
collections. A scalar, an alias or a flow collection may turn out to be the key of a mapping when
a colon follows it on the same line; its place among the tokens is remembered until then, one
place for each level of flow collections. A key that starts a line of a block mapping has to be
followed by its colon.

Tokens are scanned when they are asked for: no more of them than are needed to know the next one for
certain, which may still become a key. So what is wrong with a text shows only when it is reached.
-/

set_option autoImplicit false

namespace ModuleResolution.Yaml

inductive Token where
  | directive (directive : Directive)
  | documentStart
  | documentEnd
  | blockSequenceStart
  | blockMappingStart
  | blockEnd
  | flowSequenceStart
  | flowSequenceEnd
  | flowMappingStart
  | flowMappingEnd
  | blockEntry
  | flowEntry
  | key
  | value
  | anchor (name : List Char)
  | mention (name : List Char)
  | tag (tag : TagText)
  | scalar (text : List Char) (plain : Bool)
  deriving DecidableEq, Repr

/-- A place among the tokens where a key may start. -/
structure PossibleKey where
  /-- The number of flow collections around it. -/
  level : Nat
  position : Nat
  required : Bool
  index : Nat
  line : Nat
  column : Nat

structure Scanner where
  cursor : Cursor
  /-- From where on the text cannot be read. -/
  barrier : Option Barrier := none
  /-- The tokens that are scanned and not taken. -/
  tokens : List Token := []
  /-- How many tokens are taken. -/
  taken : Nat := 0
  /-- The text is over. -/
  done : Bool := false
  /-- The number of flow collections that are open. -/
  level : Nat := 0
  /-- The indentation of the innermost block collection. -/
  indent : Int := -1
  /-- The indentations of the block collections around it. -/
  outer : List Int := []
  /-- A key may start here. -/
  keyAllowed : Bool := true
  keys : List PossibleKey := []

namespace Scanner

def emit (s : Scanner) (token : Token) : Scanner := { s with tokens := s.tokens ++ [token] }

def position (s : Scanner) : Nat := s.taken + s.tokens.length

def putAt (s : Scanner) (position : Nat) (token : Token) : Scanner :=
  { s with tokens := s.tokens.insertIdx (position - s.taken) token }

/-- Here is something that is no YAML. -/
def refuse {α : Type} (s : Scanner) : Scanning α := s.cursor.refuse

def advance (s : Scanner) (n : Nat) : Scanner := { s with cursor := s.cursor.skip n }

/-- The indentation of the innermost block collection counts only outside flow collections. -/
def inFlow (s : Scanner) : Bool := s.level != 0

/-- Moves over blanks, comments and line ends. -/
def skipToToken : Nat → Scanner → Scanner
  | 0, s => s
  | steps + 1, s =>
    let cursor := s.cursor.skipWhile (· == ' ')
    let cursor :=
      if cursor.rest.head? == some '#' then cursor.skipWhile fun c => !isBreak c else cursor
    match cursor.lineEnd? with
    | some (_, cursor) =>
      skipToToken steps { s with cursor, keyAllowed := s.keyAllowed || !s.inFlow }
    | none => { s with cursor }

/-- Forgets the places that can no longer start a key, since the line is over or the key would be
too long. -/
def dropStale (s : Scanner) : Scanning Scanner :=
  let isStale (key : PossibleKey) : Bool :=
    key.line != s.cursor.line || decide (1024 < s.cursor.index - key.index)
  if s.keys.any fun key => isStale key && key.required then s.refuse
  else .ok { s with keys := s.keys.filter fun key => !isStale key }

/-- Forgets the place of this level. -/
def dropKey (s : Scanner) : Scanning Scanner :=
  if s.keys.any fun key => key.level == s.level && key.required then s.refuse
  else .ok { s with keys := s.keys.filter fun key => key.level != s.level }

/-- Remembers that a key may start here. -/
def saveKey (s : Scanner) : Scanning Scanner :=
  if s.keyAllowed then do
    let s ← s.dropKey
    let required := !s.inFlow && s.indent == (s.cursor.column : Int)
    let key : PossibleKey :=
      ⟨s.level, s.position, required, s.cursor.index, s.cursor.line, s.cursor.column⟩
    return { s with keys := key :: s.keys }
  else .ok s

/-- Ends the block collections that are indented more than a column. -/
def unwindTo (column : Int) : List Int → Scanner → Scanner
  | [], s => s
  | above :: rest, s =>
    if column < s.indent then
      unwindTo column rest ({ s with indent := above, outer := rest }.emit .blockEnd)
    else s

/-- Ends the block collections that are indented more than a column, outside flow collections. -/
def unwind (s : Scanner) (column : Int) : Scanner :=
  if s.inFlow then s else unwindTo column s.outer s

/-- Starts a block collection at a column, if that is further in than the innermost one. The
token goes to a position among the tokens. -/
def deepen (s : Scanner) (column : Nat) (token : Token) (position : Nat) : Scanner :=
  if s.indent < (column : Int) then
    { s with indent := column, outer := s.indent :: s.outer }.putAt position token
  else s

def documentMarker (s : Scanner) (token : Token) : Scanning Scanner := do
  let s ← (s.unwind (-1)).dropKey
  return ({ s with keyAllowed := false }.advance 3).emit token

def flowStart (s : Scanner) (token : Token) : Scanning Scanner := do
  let s ← s.saveKey
  return ({ s with level := s.level + 1, keyAllowed := true }.advance 1).emit token

def flowEnd (s : Scanner) (token : Token) : Scanning Scanner := do
  let s ← s.dropKey
  if s.level = 0 then s.refuse
  else return ({ s with level := s.level - 1, keyAllowed := false }.advance 1).emit token

def flowEntry (s : Scanner) : Scanning Scanner := do
  let s ← s.dropKey
  return ({ s with keyAllowed := true }.advance 1).emit .flowEntry

def blockEntry (s : Scanner) : Scanning Scanner :=
  if !s.inFlow && !s.keyAllowed then s.refuse
  else do
    let s :=
      if s.inFlow then s else s.deepen s.cursor.column .blockSequenceStart s.position
    let s ← { s with keyAllowed := true }.dropKey
    return (s.advance 1).emit .blockEntry

def explicitKey (s : Scanner) : Scanning Scanner :=
  if !s.inFlow && !s.keyAllowed then s.refuse
  else do
    let s :=
      if s.inFlow then s else s.deepen s.cursor.column .blockMappingStart s.position
    let s ← { s with keyAllowed := !s.inFlow }.dropKey
    return (s.advance 1).emit .key

def value (s : Scanner) : Scanning Scanner :=
  match s.keys.find? fun key => key.level == s.level with
  | some key =>
    let keys := s.keys.filter fun other => other.level != s.level
    let s := { s with keys, keyAllowed := false }.putAt key.position .key
    let s := if s.inFlow then s else s.deepen key.column .blockMappingStart key.position
    .ok ((s.advance 1).emit .value)
  | none =>
    if !s.inFlow && !s.keyAllowed then s.refuse
    else
      let s :=
        if s.inFlow then s else s.deepen s.cursor.column .blockMappingStart s.position
      .ok (({ s with keyAllowed := !s.inFlow }.advance 1).emit .value)

def anchor (s : Scanner) (token : List Char → Token) : Scanning Scanner := do
  let s ← s.saveKey
  let name := (s.cursor.skip 1).span TagText.isWordChar
  let after := s.cursor.skip (name.length + 1)
  let ends := match after.rest with
    | [] => true
    | c :: _ => isSpace c || "?:,]\x7d%@\x60".toList.contains c
  if name.isEmpty || !ends then after.refuse
  else return { s with cursor := after, keyAllowed := false }.emit (token name)

def tag (s : Scanner) : Scanning Scanner := do
  let s ← s.saveKey
  let (tag, cursor) ← TagText.scan s.cursor
  return { s with cursor, keyAllowed := false }.emit (.tag tag)

def directive (s : Scanner) : Scanning Scanner := do
  let s ← (s.unwind (-1)).dropKey
  let (directive, cursor) ← Directive.scan s.cursor
  return { s with cursor, keyAllowed := false }.emit (.directive directive)

def blockScalar (s : Scanner) (folded : Bool) : Scanning Scanner := do
  let s ← s.dropKey
  let (text, cursor) ← Block.scan folded s.indent s.cursor
  return { s with cursor, keyAllowed := true }.emit (.scalar text false)

def quotedScalar (s : Scanner) : Scanning Scanner := do
  let s ← s.saveKey
  let (text, cursor) ← ScalarText.quoted s.cursor
  return { s with cursor, keyAllowed := false }.emit (.scalar text false)

def plainScalar (s : Scanner) : Scanning Scanner := do
  let s ← s.saveKey
  let scanned := ScalarText.plain s.inFlow (s.indent + 1) s.cursor
  return { s with cursor := scanned.cursor, keyAllowed := scanned.brokeLine }.emit
    (.scalar scanned.text true)

/-- A plain scalar may start with a character that another one follows. -/
def startsPlain (inFlow : Bool) (c : Char) (rest : List Char) : Bool :=
  !(isSpace c || "-?:,[]\x7b\x7d#&*!|>'\"%@\x60".toList.contains c)
    || (!atSpace rest && (c == '-' || (!inFlow && (c == '?' || c == ':'))))

def fetchFrom (s : Scanner) (c : Char) (rest : List Char) : Scanning Scanner :=
  let lone := atSpace rest
  if s.cursor.column = 0 && c = '%' then s.directive
  else if s.cursor.column = 0 && s.cursor.atMarker then
    s.documentMarker (if c = '-' then .documentStart else .documentEnd)
  else
    match c with
    | '[' => s.flowStart .flowSequenceStart
    | '{' => s.flowStart .flowMappingStart
    | ']' => s.flowEnd .flowSequenceEnd
    | '}' => s.flowEnd .flowMappingEnd
    | ',' => s.flowEntry
    | '*' => s.anchor .mention
    | '&' => s.anchor .anchor
    | '!' => s.tag
    | '\'' => s.quotedScalar
    | '"' => s.quotedScalar
    | _ =>
      if c = '-' && lone then s.blockEntry
      else if c = '?' && (s.inFlow || lone) then s.explicitKey
      else if c = ':' && (s.inFlow || lone) then s.value
      else if (c = '|' || c = '>') && !s.inFlow then s.blockScalar (c = '>')
      else if startsPlain s.inFlow c rest then s.plainScalar
      else s.refuse

/-- The end of the text, where all block collections end. -/
def finish (s : Scanner) : Scanning Scanner := do
  let s ← (s.unwind (-1)).dropKey
  return { s with keys := [], keyAllowed := false, done := true }

def scanToken (s : Scanner) : Scanning Scanner := do
  let s ← (s.skipToToken (s.cursor.rest.length + 1)).dropStale
  let s := s.unwind s.cursor.column
  match s.cursor.rest with
  | [] => s.finish
  | c :: rest => s.fetchFrom c rest

def fetch (s : Scanner) : Reading Scanner :=
  Barrier.admit s.barrier (fun s => s.cursor.index) s.scanToken

/-- The next token may still become a key. -/
def isOpen (s : Scanner) : Bool := s.keys.any fun key => key.position == s.taken

/-- Scans until the next token is known for certain, in at most so many steps. -/
def fill : Nat → Scanner → Reading Scanner
  | 0, _ => .error .malformed
  | steps + 1, s =>
    if s.done then .ok s
    else if s.tokens.isEmpty then do fill steps (← s.fetch)
    else
      match s.dropStale with
      | .error halt => .error halt.failure
      | .ok s => if s.isOpen then do fill steps (← s.fetch) else .ok s

/-- Scans until the next token is known for certain. -/
def ready (s : Scanner) : Reading Scanner := s.fill (s.cursor.rest.length + 2)

def take (s : Scanner) : Scanner := { s with tokens := s.tokens.tail, taken := s.taken + 1 }

end Scanner

/-- The place after a byte order mark, which may stand at the start of a text. -/
def Cursor.afterMark (text : List Char) : Cursor :=
  if text.head? = some (Char.ofNat 0xFEFF) then (Cursor.start text).next else .start text

def Scanner.ofSource (source : Source) : Scanner :=
  { cursor := .afterMark source.text, barrier := source.barrier }

end ModuleResolution.Yaml
