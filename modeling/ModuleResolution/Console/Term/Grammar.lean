import ModuleResolution.Console.Term.Attempt

/-! # The grammar of terms

How a term is put together from its parts, and the ways in which texts that look like terms are no
terms. Each definition reads one kind of part; `part` reads those that are read once at a place.
-/

set_option autoImplicit false

namespace ModuleResolution.Console.Term.Grammar

open Attempt

variable (part : Rule → Attempt Tree)

/-! ## Expressions -/

/-- Parts in a row with commas between them, which also may stand behind the last one; a single part
without a comma stands for itself. -/
def rowOf (item : Attempt Tree) : Attempt Tree := do
  let head ← item
  let rest ← many do mark ","; item
  let comma ← optional? (mark ",")
  return if rest.isEmpty && comma.isNone then head else .row (head :: rest)

def expressions : Attempt Tree := rowOf (part .expression)

/-- Expressions in a row, each of which may have a star in front. -/
def starExpressions : Attempt Tree := rowOf (part .starExpression)

def starredOperand : Attempt Tree := do
  mark "*"
  return .starred (← part (.operation 0))

/-- An expression with a star in front, as an argument of a call. -/
def starredArgument : Attempt Tree := do
  mark "*"
  match ← optional? (part .expression) with
  | some tree => return .starred tree
  | none => tell .loneStar

def assignment : Attempt Tree := do
  discard name
  mark ":="
  discard (part .expression)
  return .naming

/-- An expression to which no value is given. -/
def unassigned : Attempt Tree := do
  let tree ← part .expression
  notAhead (mark ":=")
  return tree

def namedExpression : Attempt Tree :=
  first [assignment part, faulty (part .wrongNaming), unassigned part]

def item : Attempt Tree := first [starredOperand part, namedExpression part]

def items : Attempt (List Tree) := do
  let items ← separated (item part)
  discard (optional? (mark ","))
  return items

def choice : Attempt Tree := do
  discard (part .disjunction)
  keyword "if"
  discard (part .disjunction)
  keyword "else"
  discard (part .expression)
  return .choice

/-! ## Ranges -/

def targets : Attempt Unit := do
  discard (part .target)
  discard (many do mark ","; part .target)
  discard (optional? (mark ","))

/-- Tells of a target to which no value can be given. -/
def wrongTargets : Attempt Unit := do
  discard (optional? (keyword "async"))
  keyword "for"
  match (← starExpressions part).unassignable? with
  | some tree => tell (.unassignable tree.kind)
  | none => failure

/-- A range with its conditions. -/
def range : Attempt Unit := do
  let start ← optional? do
    discard (optional? (keyword "async"))
    keyword "for"
    targets part
    keyword "in"
  match start with
  | some _ =>
    discard (part .disjunction)
    discard (many do keyword "if"; part .disjunction)
  | none => faulty (wrongTargets part)

/-- Ranges, each inside of those in front of it. -/
def ranges : Attempt Unit := discard (several (range part))

/-- Tells of items that cannot run through ranges. -/
def wrongRanges : Attempt Unit := do
  let starred ← optional? do
    first [mark "(", mark "\x7b"]
    discard (starredArgument part)
    ranges part
  if starred.isSome then tell .starredRange
  mark "\x7b"
  discard (item part)
  mark ","
  discard (optional? (items part))
  ranges part
  tell .rowRange

/-- An expression in parentheses that runs through ranges. -/
def rangeGroup : Attempt Tree := first [
  (do
    mark "("
    discard (first [assignment part, unassigned part])
    ranges part
    mark ")"
    return .range),
  faulty (wrongRanges part)]

/-! ## Groups -/

/-- Items in parentheses. -/
def row : Attempt Tree := do
  mark "("
  let found ← optional? do
    let head ← item part
    mark ","
    let rest ← optional? (items part)
    return head :: rest.getD []
  mark ")"
  return .row (found.getD [])

/-- An expression that hands out values. -/
def yielding : Attempt Tree := do
  keyword "yield"
  let source ← optional? do
    keyword "from"
    discard (part .expression)
  if source.isNone then discard (optional? (starExpressions part))
  return .yielding

/-- Tells of an expression in parentheses with stars in front. -/
def wrongGroup : Attempt Unit := do
  let starred ← optional? do
    mark "("
    discard (starredArgument part)
    mark ")"
  if starred.isSome then tell .starredGroup
  mark "("
  mark "**"
  discard (part .expression)
  mark ")"
  tell .doublyStarredGroup

def group : Attempt Tree := first [
  (do
    mark "("
    let tree ← first [yielding part, namedExpression part]
    mark ")"
    return tree),
  faulty (wrongGroup part)]

def pair : Attempt (Option Tree × Tree) := do
  let key ← part .expression
  mark ":"
  return (key, ← part .expression)

def entry : Attempt (Option Tree × Tree) := first [
  (do mark "**"; return (none, ← part (.operation 0))),
  pair part]

/-- Tells of a value of a key that is missing or has a star in front. -/
def wrongValue : Attempt Unit := do
  discard (part .expression)
  mark ":"
  let starred ← optional? (starredOperand part)
  if starred.isSome then tell .starredValue
  ahead (first [mark "\x7d", mark ","])
  tell .noValue

/-- Tells of a key without a value. -/
def wrongPair : Attempt Unit := do
  let lone ← optional? do
    discard (part .expression)
    notAhead (mark ":")
  if lone.isSome then tell .noColon
  wrongValue part

/-- Tells of wrong entries of a mapping. -/
def wrongEntries : Attempt Unit := first [
  (do
    discard (separated (entry part))
    mark ","
    wrongPair part),
  wrongValue part]

def mapping : Attempt Tree := first [
  (do
    mark "\x7b"
    let entries ← optional? do
      let entries ← separated (entry part)
      discard (optional? (mark ","))
      return entries
    mark "\x7d"
    return .mapping (entries.getD [])),
  (do mark "\x7b"; wrongEntries part; failure)]

def set : Attempt Tree := do
  mark "\x7b"
  let items ← items part
  mark "\x7d"
  return .set items

/-- Tells of a whole mapping that cannot run through ranges. -/
def wrongMappingRanges : Attempt Unit := do
  mark "\x7b"
  mark "**"
  discard (part (.operation 0))
  ranges part
  mark "\x7d"
  tell .doublyStarredRange

/-- A mapping of entries that run through ranges. -/
def rangeMapping : Attempt Tree := first [
  (do
    mark "\x7b"
    discard (pair part)
    ranges part
    mark "\x7d"
    return .rangeMapping),
  faulty (wrongMappingRanges part)]

/-- A set of items that run through ranges. -/
def rangeSet : Attempt Tree := first [
  (do
    mark "\x7b"
    discard (namedExpression part)
    ranges part
    mark "\x7d"
    return .rangeSet),
  faulty (wrongRanges part)]

/-! ## Functions -/

/-- The end of a parameter: a comma, or the colon behind the last one. -/
def parameterEnd : Attempt Unit := first [mark ",", ahead (mark ":")]

def parameter : Attempt Unit := do
  discard name
  parameterEnd

/-- The value of a parameter that is not given. -/
def default : Attempt Unit := first [
  (do mark "="; discard (part .expression)),
  faulty (do
    mark "="
    ahead (first [mark ")", mark ","])
    tell (α := Unit) .noDefault)]

/-- A parameter that need not be given. -/
def defaultParameter : Attempt Unit := do
  discard name
  default part
  parameterEnd

/-- A parameter that may be one that need not be given. -/
def anyParameter : Attempt Unit := do
  discard name
  discard (optional? (default part))
  parameterEnd

/-- The slash behind parameters that have no names for calls. -/
def slash : Attempt Unit := do
  mark "/"
  parameterEnd

def slashed : Attempt Unit := do
  discard (several parameter)
  slash

/-- Parameters in front of a slash of which the last one need not be given. -/
def slashedDefaults : Attempt Unit := do
  discard (many parameter)
  discard (several (defaultParameter part))
  slash

/-- Tells of what is wrong with a parameter for all other named arguments. -/
def wrongDoubleStar : Attempt Unit := do
  mark "**"
  discard name
  let valued ← optional? (mark "=")
  if valued.isSome then tell .doubleStarDefault
  mark ","
  discard (first [discard name, mark "*", mark "**", mark "/"])
  tell .behindDoubleStar

/-- A parameter for all other named arguments. -/
def doubleStar : Attempt Unit := first [
  faulty wrongDoubleStar,
  (do mark "**"; parameter)]

/-- Tells of what is wrong with a star between parameters. -/
def wrongStar : Attempt Unit := do
  let lone ← optional? do
    mark "*"
    first [mark ":", (do mark ","; first [mark ":", mark "**"])]
  if lone.isSome then tell .nothingBehindStar
  let valued ← optional? do
    mark "*"
    discard name
    mark "="
  if valued.isSome then tell .starDefault
  mark "*"
  first [parameter, mark ","]
  discard (many (anyParameter part))
  mark "*"
  first [parameter, mark ","]
  tell .secondStar

/-- What stands behind the parameters by position. -/
def star : Attempt Unit := first [
  faulty (wrongStar part),
  (do
    mark "*"
    parameter
    discard (many (anyParameter part))
    discard (optional? doubleStar)),
  (do
    mark "*"
    mark ","
    discard (several (anyParameter part))
    discard (optional? doubleStar)),
  doubleStar]

def wrongParameters : Attempt Unit := first [
  (do
    discard (many parameter)
    first [slashedDefaults part, discard (several (defaultParameter part))]
    parameter
    tell .parameterWithoutDefault),
  (do
    discard (many parameter)
    mark "("
    discard (separated name)
    discard (optional? (mark ","))
    mark ")"
    tell .groupedParameters),
  (do
    mark "/"
    mark ","
    tell .nothingBeforeSlash),
  (do
    first [slashed, slashedDefaults part]
    discard (many (anyParameter part))
    mark "/"
    tell .secondSlash),
  (do
    discard (optional? (first [slashed, slashedDefaults part]))
    discard (many (anyParameter part))
    mark "*"
    first [mark ",", parameter]
    discard (many (anyParameter part))
    mark "/"
    tell .slashBehindStar),
  (do
    discard (several (anyParameter part))
    mark "/"
    mark "*"
    tell .noCommaBehindSlash)]

def parameters : Attempt Unit :=
  let defaults := many (defaultParameter part)
  let rest := optional? (star part)
  first [
    faulty (wrongParameters part),
    (do slashed; discard (many parameter); discard defaults; discard rest),
    (do slashedDefaults part; discard defaults; discard rest),
    (do discard (several parameter); discard defaults; discard rest),
    (do discard (several (defaultParameter part)); discard rest),
    star part]

def function : Attempt Tree := do
  keyword "lambda"
  discard (optional? (parameters part))
  mark ":"
  discard (part .expression)
  return .function

/-! ## Arguments of calls -/

inductive Argument where
  | starred (tree : Tree)
  | named
  /-- All named arguments that a mapping holds. -/
  | mapping

/-- The arguments of a call, the first ones of which are given by position. -/
def argumentsOf (positional : List Tree) (rest : List Argument) : Tree :=
  .arguments
    (positional ++ rest.filterMap fun
      | .starred tree => some tree
      | _ => none)
    (rest.filterMap fun
      | .starred _ => none
      | .named => some false
      | .mapping => some true)

/-- Tells of an equals sign that no name of an argument stands in front of. -/
def wrongArgument : Attempt Unit := do
  let constant ← optional? do
    let word ← take fun
      | .keyword word => some word
      | _ => none
    guard (["True", "False", "None"].any (word == ·.toList))
    mark "="
    return word
  if let some word := constant then tell (.unassignable (String.ofList word))
  let ranged ← optional? do
    discard name
    mark "="
    discard (part .expression)
    ranges part
  if ranged.isSome then tell .equals
  notAhead (do discard name; mark "=")
  discard (part .expression)
  mark "="
  tell .assignedArgument

def namedArgument : Attempt Argument := do
  discard name
  mark "="
  discard (part .expression)
  return .named

def namedOrStarred : Attempt Argument := first [
  faulty (wrongArgument part),
  namedArgument part,
  (do return .starred (← starredArgument part))]

def namedOrMapping : Attempt Argument := first [
  faulty (wrongArgument part),
  namedArgument part,
  (do mark "**"; discard (part .expression); return .mapping)]

def namedArguments : Attempt (List Argument) := first [
  (do
    let head ← separated (namedOrStarred part)
    let rest ← optional? do mark ","; separated (namedOrMapping part)
    return head ++ rest.getD []),
  separated (namedOrMapping part)]

def positionalArgument : Attempt Tree := first [
  starredArgument part,
  (do
    let tree ← first [assignment part, unassigned part]
    notAhead (mark "=")
    return tree)]

def argumentList : Attempt Tree := first [
  (do
    let positional ← separated (positionalArgument part)
    let rest ← optional? do mark ","; namedArguments part
    return argumentsOf positional (rest.getD [])),
  (do return argumentsOf [] (← namedArguments part))]

def wrongArguments : Attempt Unit := do
  let starred ← optional? do
    first [
      (do discard (separated (positionalArgument part)); mark ","; discard (namedArguments part)),
      discard (namedArguments part)]
    mark ","
    discard (separated (starredArgument part))
  if starred.isSome then tell .starredBehindStarred
  let rangeFirst ← optional? do
    discard (part .expression)
    ranges part
    mark ","
    discard (optional? (first [
      discard (argumentList part),
      (do discard (part .expression); ranges part)]))
  if rangeFirst.isSome then tell .bareRange
  let equated ← optional? do
    discard name
    mark "="
    discard (part .expression)
    ranges part
  if equated.isSome then tell .equals
  let rangeLast ← optional? do
    let arguments ← argumentList part
    ranges part
    return arguments
  match rangeLast with
  | some (.arguments positional _) =>
    if positional.length ≤ 1 then failure else tell .bareRange
  | some _ => failure
  | none =>
    let arguments ← argumentList part
    mark ","
    let range ← optional? do
      discard (part .expression)
      ranges part
    if range.isSome then tell .bareRange
    discard (argumentList part)
    match arguments with
    | .arguments _ named =>
      tell (if named.contains true then .positionalBehindStarred else .positionalBehindNamed)
    | _ => failure

def arguments : Attempt Tree := first [
  (do
    let arguments ← argumentList part
    discard (optional? (mark ","))
    ahead (mark ")")
    return arguments),
  faulty (wrongArguments part)]

/-! ## Operands -/

/-- One of the words `True`, `False` and `None`. -/
def constant : Attempt Tree := first (["True", "False", "None"].map fun word => do
  keyword word
  return .constant word.toList)

def number : Attempt Tree := do
  let (isImaginary, digits) ← take fun
    | .number isImaginary digits => some (isImaginary, digits)
    | _ => none
  if digitLimit < digits then tell (.longNumber (.read digits))
  return .number isImaginary

def text : Attempt (TextForm × List Char) := take fun
  | .text form content => some (form, content)
  | _ => none

/-- Texts behind one another. -/
def texts : Attempt Tree := do
  let texts ← several text
  match (← read).checkTexts texts with
  | .error fault => tell fault
  | .ok () =>
    return if texts.any (·.1.isPattern) then .pattern
      else if texts.any (·.1.isOctets) then .octets
      else .text

def atom : Attempt Tree := first [
  name,
  constant,
  part .texts,
  number,
  (do ahead (mark "("); first [row part, group part, rangeGroup part]),
  (do
    ahead (mark "\x7b")
    first [mapping part, set part, rangeMapping part, rangeSet part]),
  (do mark "..."; return .ellipsis)]

/-- The ways to go on behind an operand: with an attribute or with arguments. -/
def suffixes (head : Tree) : List (Attempt Tree) := [
  (do mark "."; discard name; return .attribute),
  (do return .call head (.arguments [← rangeGroup part] [])),
  (do
    mark "("
    let arguments ← optional? (part .arguments)
    mark ")"
    return .call head (arguments.getD (.arguments [] [])))]

/-- An operand with all that stands behind it. -/
def primary : Attempt Tree := do extend (fun head => first (suffixes part head)) (← atom part)

/-- An operand that may be waited for. -/
def awaited : Attempt Tree := first [
  (do keyword "await"; discard (part .primary); return .awaiting),
  part .primary]

/-! ## Targets of ranges -/

def targetGoesOn : Attempt Unit := ahead (first [mark "(", mark "[", mark "."])

/-- A part of a target behind which more stands. -/
def targetStart (start : Attempt Tree) : Attempt Tree := do
  let tree ← start
  targetGoesOn
  return tree

def targetHead : Attempt Tree := do
  extend (fun head => first ((suffixes part head).map targetStart)) (← targetStart (atom part))

def starlessTarget : Attempt Tree := first [
  (do
    discard (part .targetHead)
    mark "."
    discard name
    notAhead targetGoesOn
    return .part),
  name,
  (do mark "("; discard (part .starlessTarget); mark ")"; return .part),
  (do
    mark "("
    discard (optional? do
      discard (part .target)
      let rest ← many do mark ","; part .target
      let comma ← optional? (mark ",")
      guard (!rest.isEmpty || comma.isSome))
    mark ")"
    return .part)]

def target : Attempt Tree := first [
  (do mark "*"; notAhead (mark "*"); part .target),
  part .starlessTarget]

/-! ## Operators -/

/-- The operators with two operands, rank by rank. -/
def ranks : List (List String) :=
  [["|"], ["^"], ["&"], ["<<", ">>"], ["+", "-"], ["*", "/", "//", "%", "@"]]

def operation (rank : Nat) : Attempt Tree :=
  match ranks[rank]? with
  | some marks => do
    let operand := part (if rank + 1 < ranks.length then .operation (rank + 1) else .factor)
    let withRight (left : Tree) : Attempt Tree := first (marks.map fun chars => do
      mark chars
      return .binary chars.toList left (← operand))
    extend withRight (← operand)
  | none => failure

/-- An operand with signs in front, or with a power behind it. -/
def factor : Attempt Tree := first [
  (do mark "+"; return .signed '+' (← part .factor)),
  (do mark "-"; return .signed '-' (← part .factor)),
  (do mark "~"; return .signed '~' (← part .factor)),
  (do
    let base ← part .awaited
    match ← optional? do mark "**"; part .factor with
    | some power => return .binary "**".toList base power
    | none => return base)]

/-- An operator that compares, with its right operand; whether it asks for a member. -/
def comparison : Attempt Bool := first [
  (do
    first (["==", "!=", "<=", "<", ">=", ">"].map mark)
    discard (part (.operation 0))
    return false),
  (do keyword "not"; keyword "in"; discard (part (.operation 0)); return false),
  (do keyword "in"; discard (part (.operation 0)); return true),
  (do keyword "is"; keyword "not"; discard (part (.operation 0)); return false),
  (do keyword "is"; discard (part (.operation 0)); return false)]

/-- An operand, or comparisons of operands. -/
def comparisons : Attempt Tree := do
  let left ← part (.operation 0)
  match ← many (comparison part) with
  | isMember :: _ => return .comparison isMember left
  | [] => return left

/-- A comparison that may be denied. -/
def inversion : Attempt Tree := first [
  (do keyword "not"; discard (part .inversion); return .joined),
  comparisons part]

def joinedBy (word : String) (item : Attempt Tree) : Attempt Tree := do
  let head ← item
  let rest ← many do keyword word; item
  return if rest.isEmpty then head else .joined

/-! ## Wrong expressions -/

/-- Tells of a value that is given to what is no name, or with the wrong mark. -/
def wrongNaming : Attempt Tree := do
  let named ← optional? do
    let tree ← part .expression
    mark ":="
    discard (part .expression)
    return tree
  if let some tree := named then tell (.unnameable tree.kind)
  let noMark := notAhead (first [mark "=", mark ":="])
  let equated ← optional? do
    discard name
    mark "="
    discard (part (.operation 0))
    noMark
  if equated.isSome then tell .equals
  notAhead (first [row part, rangeGroup part, constant])
  let tree ← part (.operation 0)
  mark "="
  discard (part (.operation 0))
  noMark
  tell (.unassignableHere tree.kind)

/-- An expression in which no faults are told. -/
def plainExpression : Attempt Unit :=
  faultless (first [discard (choice part), discard (part .disjunction), discard (function part)])

/-- A name that could become a word which is a name and a keyword alike. -/
def softWord : Attempt Unit := take fun
  | .name word =>
    if ["_", "case", "match"].any fun soft => word.isPrefixOf soft.toList then some () else none
  | _ => none

/-- Tells of two expressions behind one another, and of a choice without its other case. -/
def wrongExpression : Attempt Unit := do
  let besides ← optional? do
    notAhead (first [(do discard name; discard text), softWord])
    let tree ← part .disjunction
    plainExpression part
    return tree
  match besides with
  | some tree => if tree.isStatement || (← level) = 0 then failure else tell .noComma
  | none =>
    discard (part .disjunction)
    keyword "if"
    discard (part .disjunction)
    notAhead (first [keyword "else", mark ":"])
    tell .noElse

/-- Tells of a word that once was a statement in front of its argument. -/
def wrongStatement : Attempt Unit := do
  let tree ← name
  notAhead (mark "(")
  discard (starExpressions part)
  match tree with
  | .name word => if tree.isStatement then tell (.statement (String.ofList word)) else failure
  | _ => failure

def expression : Attempt Tree := first [
  faulty (wrongExpression part),
  faulty (wrongStatement part),
  choice part,
  part .disjunction,
  function part]

/-! ## Rules -/

/-- What a rule reads. -/
def body : Rule → Attempt Tree
  | .expression => expression part
  | .starExpression => first [starredOperand part, part .expression]
  | .disjunction => joinedBy "or" (part .conjunction)
  | .conjunction => joinedBy "and" (part .inversion)
  | .inversion => inversion part
  | .operation rank => operation part rank
  | .factor => factor part
  | .awaited => awaited part
  | .primary => primary part
  | .texts => texts
  | .arguments => arguments part
  | .wrongNaming => wrongNaming part
  | .target => target part
  | .starlessTarget => starlessTarget part
  | .targetHead => targetHead part

end ModuleResolution.Console.Term.Grammar
