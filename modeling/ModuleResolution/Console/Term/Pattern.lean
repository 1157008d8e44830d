import ModuleResolution.Console.Term.Escape

/-! # Texts with terms in braces

A quoted text may hold terms in braces, each with a form and a width behind it; the width is such a
text itself. Two braces in a row stand for one. `check` reads the text from its start on, and
each term in it by a function that is given.
-/

set_option autoImplicit false

namespace ModuleResolution.Console.Term.Pattern

/-- A stretch of a text in front of a term, of a brace that stands for itself or of the end. -/
structure Stretch where
  content : List Char
  /-- A brace that stands for itself ends the stretch. -/
  isDoubled : Bool := false
  rest : List Char

/-- A stretch with characters in front of it. -/
def Stretch.behind (chars : List Char) (stretch : Stretch) : Stretch :=
  { stretch with content := chars ++ stretch.content }

/-- The end of a stretch at a brace, which can stand for itself outside of the widths. -/
def stretchAt (isOuter : Bool) (brace : Char) (rest : List Char) :
    Except PatternFault Stretch :=
  if isOuter && rest.head? = some brace then
    .ok { content := [brace], isDoubled := true, rest := rest.tail }
  else if isOuter && brace = '\x7d' then .error .loneBrace
  else .ok { content := [], rest := brace :: rest }

/-- The stretch at the start of a text, in at most so many steps. -/
def stretch (isRaw isOuter : Bool) : Nat → List Char → Except PatternFault Stretch
  | 0, cs => .ok { content := [], rest := cs }
  | _ + 1, [] => .ok { content := [], rest := [] }
  | steps + 1, c :: rest =>
    let isBrace (c : Char) : Bool := c == '\x7b' || c == '\x7d'
    match c, rest with
    | '\\', c :: rest =>
      if isRaw then (stretch isRaw isOuter steps (c :: rest)).map (·.behind ['\\'])
      else if c = 'N' then
        let name := match rest with
          | '\x7b' :: more => '\x7b' :: more.take ((more.takeWhile (· != '\x7d')).length + 1)
          | other => other.take 1
        (stretch isRaw isOuter steps (rest.drop name.length)).map (·.behind ('\\' :: c :: name))
      else if isBrace c then (stretchAt isOuter c rest).map (·.behind ['\\'])
      else (stretch isRaw isOuter steps rest).map (·.behind ['\\', c])
    | _, _ =>
      if isBrace c then stretchAt isOuter c rest
      else (stretch isRaw isOuter steps rest).map (·.behind [c])

structure Quote where
  mark : Char
  isLong : Bool

/-- What is open at a place in a term. -/
structure Opened where
  quote : Option Quote := none
  /-- The open brackets, the last one first. -/
  brackets : List Char := []

def Opened.close (opened : Opened) (c opening : Char) : Except PatternFault Opened :=
  match opened.brackets with
  | [] => .error (.unmatched c)
  | last :: rest =>
    if last = opening then .ok { opened with brackets := rest }
    else .error (.mismatched c last)

/-- The bracket that a closing bracket closes. -/
def opening? : Char → Option Char
  | ')' => some '('
  | ']' => some '['
  | '\x7d' => some '\x7b'
  | _ => none

/-- The fault of a text that ends inside of a term. -/
def Opened.faultAtEnd (opened : Opened) : PatternFault :=
  if opened.quote.isSome then .openText
  else match opened.brackets with
    | bracket :: _ => .unmatched bracket
    | [] => .openBrace

/-- The greatest number of brackets inside of each other in a term. -/
def bracketLimit : Nat := 200

/-- The term at the start of a text, and what is behind it, in at most so many steps. -/
def term : Nat → Opened → List Char → Except PatternFault (List Char × List Char)
  | 0, opened, _ | _, opened, [] => .error opened.faultAtEnd
  | steps + 1, opened, c :: rest =>
    let behind (chars : List Char) (opened : Opened) (rest : List Char) :
        Except PatternFault (List Char × List Char) :=
      (term steps opened rest).map fun (found, rest) => (chars ++ found, rest)
    let isLong := [c, c].isPrefixOf rest
    if c = '\\' then .error .backslash
    else match opened.quote with
    | some quote =>
      if c != quote.mark || (quote.isLong && !isLong) then behind [c] opened rest
      else if quote.isLong then behind [c, c, c] { opened with quote := none } (rest.drop 2)
      else behind [c] { opened with quote := none } rest
    | none =>
      if c = '\'' || c = '"' then
        let opened := { opened with quote := some ⟨c, isLong⟩ }
        if isLong then behind [c, c, c] opened (rest.drop 2) else behind [c] opened rest
      else if "([\x7b".toList.contains c then
        if opened.brackets.length < bracketLimit then
          behind [c] { opened with brackets := c :: opened.brackets } rest
        else .error .tooNested
      else if c = '#' then .error .comment
      else if opened.brackets.isEmpty && "!=<>".toList.contains c && rest.head? = some '=' then
        behind [c, '='] opened (rest.drop 1)
      else if opened.brackets.isEmpty && "!:\x7d=".toList.contains c then .ok ([], c :: rest)
      else match opening? c with
        | some opening =>
          match opened.close c opening with
          | .ok opened => behind [c] opened rest
          | .error fault => .error fault
        | none => behind [c] opened rest

/-- The text behind an equals sign, which may stand behind a term. -/
def afterEquals (cs : List Char) : List Char :=
  match cs with
  | '=' :: rest => rest.dropWhile fun c => c == ' ' || decide (9 ≤ c.toNat ∧ c.toNat ≤ 13)
  | _ => cs

def afterForm (cs : List Char) : Except PatternFault (List Char) :=
  match cs with
  | ['!'] => .error .openBrace
  | '!' :: form :: rest => if "sra".toList.contains form then .ok rest else .error .badForm
  | _ => .ok cs

/-- The character does not count in a term. -/
def isIdle (c : Char) : Bool := [' ', '\t', '\n', '\x0c'].contains c

/-- The fault of a term that is missing in front of a text. -/
def missingTerm (rest : List Char) : PatternFault :=
  match rest with
  | c :: _ => if "!:=".toList.contains c then .noTermBefore c else .noTerm
  | [] => .noTerm

/-- Checks a text on some level of widths, in at most so many steps, and gives what is behind it;
`inner` checks a term in parentheses. -/
def checkFrom (isRaw : Bool) (inner : List Char → Except Fault Unit) :
    Nat → Nat → List Char → Except Fault (List Char)
  | 0, _, cs => .ok cs
  | steps + 1, level, cs => do
    let stretch ← (stretch isRaw (level == 0) (cs.length + 1) cs).mapError .pattern
    if !isRaw then Escape.check stretch.content
    if stretch.isDoubled then checkFrom isRaw inner steps level stretch.rest
    else match stretch.rest with
      | '\x7b' :: rest =>
        if 2 ≤ level then .error (.pattern .nested)
        else
          let (chars, rest) ← (term (rest.length + 1) {} rest).mapError .pattern
          if chars.all isIdle then .error (.pattern (missingTerm rest))
          inner ('(' :: chars ++ [')'])
          let rest ← (afterForm (afterEquals rest)).mapError .pattern
          let rest ← match rest with
            | [':'] => .error (.pattern .openBrace)
            | ':' :: width => checkFrom isRaw inner steps (level + 1) width
            | _ => pure rest
          match rest with
          | '\x7d' :: rest => checkFrom isRaw inner steps level rest
          | _ => .error (.pattern .openBrace)
      | rest =>
        if level != 0 && rest.isEmpty then .error (.pattern .openBrace) else return rest

/-- Checks a text; `inner` checks a term in parentheses. -/
def check (isRaw : Bool) (inner : List Char → Except Fault Unit) (content : List Char) :
    Except Fault Unit :=
  discard (checkFrom isRaw inner (content.length + 1) 0 content)

end ModuleResolution.Console.Term.Pattern
