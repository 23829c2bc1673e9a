import MarkerLint.Script.Grammar.Functions

namespace MarkerLint.Script.Grammar

open Reader

variable (g : Grammar)

def arguments : Reader (List Item) :=
  commaList ")" do
    let start ← start
    if ← eatMark "..." then
      let _ ← g.innerAssignment
      return .other (← spanFrom start)
    else
      return .expr (← g.innerAssignment)

-- An element of an array; where there is none, its comma stands for it.
def arrayElement : Reader Item := do
  let l ← lexeme
  if l.token == .mark "," then
    return .other l.span
  else if ← eatMark "..." then
    let _ ← g.innerAssignment
    return .other (← spanFrom l.span.start)
  else
    return .expr (← g.innerAssignment)

def methodWord (word : String) : Reader Bool := do
  let second ← peekSecond
  let keyFollows := startsPropertyName second || (word == "async" && second.token == .mark "*")
  if (← atWord word) && keyFollows && !(word == "async" && second.newlineBefore) then
    advance
    return true
  else
    return false

def accessorWord : Reader Bool := do
  if ← methodWord "get" then
    return true
  else
    methodWord "set"

-- An entry of an object. Only a name or a value may stand for one that is no method.
def objectEntry : Reader Unit := do
  if ← eatMark "..." then
    let _ ← g.innerAssignment
  else
    let async ← methodWord "async"
    let accessor ← if async then pure false else accessorWord
    let generator ← eatMark "*"
    let shorthand ← atIdentifier
    g.propertyName
    if (← atMark "(") || ((← typescript) && (← atLess)) then
      g.functionHead async generator
      let _ ← g.functionBody async generator
    else if async || accessor || generator then
      fail
    else if ← eatMark ":" then
      let _ ← g.innerAssignment
    else if shorthand then
      g.optionalDefault
    else
      fail

def regex : Reader Expr := do
  let start := (← lexeme).start
  match readRegex start with
  | some behind =>
    moveTo behind
    return .other .regex ⟨start.offset, behind.offset⟩
  | none => fail

def classExpression : Reader Expr := do
  let start ← start
  let _ ← g.decorators
  return .classExpr (← g.classTail start)

def importExpression : Reader Expr := do
  let start ← start
  expectWord "import"
  if ← eatMark "." then
    let phase := (← atWord "defer") || (← atWord "source")
    let _ ← anyName
    if phase then
      expectMark "("
      g.skipArguments
      return .other .importCall (← spanFrom start)
    else
      return .other .metaProperty (← spanFrom start)
  else
    expectMark "("
    g.skipArguments
    return .other .importCall (← spanFrom start)

def construct : Reader Expr := do
  let start ← start
  expectWord "new"
  if ← eatMark "." then
    expectWord "target"
    return .other .metaProperty (← spanFrom start)
  else
    let _ ← g.constructed
    if ← eatMark "(" then
      g.skipArguments
    return .other .construct (← spanFrom start)

def wordExpression (word : String) (span : Span) : Reader Expr := do
  match word with
  | "this" =>
    advance
    return .other .this span
  | "super" =>
    advance
    return .other .super span
  | "null" =>
    advance
    return .null span
  | "true" | "false" =>
    advance
    return .boolean span
  | "class" => g.classExpression
  | "new" => g.construct
  | "import" => g.importExpression
  | _ =>
    if ← atFunction then
      return .function (← g.function span.start)
    else
      return .ident (← identifier)

def primary : Reader Expr := do
  let l ← lexeme
  match l.token with
  | .name word => g.wordExpression word l.span
  | .escapedName _ => return .ident (← identifier)
  | .number =>
    advance
    return .number l.span
  | .bigint =>
    advance
    return .other .bigint l.span
  | .string _ => return .string (← stringLiteral)
  | .template _ =>
    templateParts g.innerExpression
    return .template (← spanFrom l.span.start)
  | .privateName _ =>
    advance
    unless ← atWord "in" do fail
    return .other .privateName l.span
  | .mark "(" =>
    advance
    let e ← g.innerExpression
    expectMark ")"
    return .paren (← spanFrom l.span.start) e
  | .mark "[" =>
    advance
    let elements ← commaList "]" g.arrayElement
    return .array (← spanFrom l.span.start) elements
  | .mark "\x7b" =>
    advance
    let _ ← commaList "\x7d" g.objectEntry
    return .other .object (← spanFrom l.span.start)
  | .mark "/" | .mark "/=" => regex
  | .mark "@" => g.classExpression
  | .mark "<" =>
    if (← read).language.markup then
      return .markup (← g.markup)
    else
      fail
  | _ => fail

structure ChainMode where
  calls : Bool
  instantiations : Bool

def startsExpression : Token → Bool
  | .name w => !(["in", "instanceof", "as", "satisfies", "of"].contains w)
  | .mark m => ["(", "[", "\x7b", "/", "/=", "+", "-", "~", "!", "++", "--", "<", "@"].contains m
  | .escapedName _ | .privateName _ | .number | .bigint | .string _ | .template _ => true
  | .eof | .invalid => false

-- Type arguments behind an expression are ones only if the expression cannot go on as a comparison.
def endsInstantiation (l : Lexeme) : Bool :=
  match l.token with
  | .template _ => true
  | .mark m =>
    if m == "(" then true
    else if ["<", ">", "+", "-"].contains m then false
    else l.newlineBefore || !startsExpression l.token || m == "/"
  | t => l.newlineBefore || !startsExpression t

def propertyLink (start : Nat) (e : Expr) : Reader Expr := do
  match ← peek with
  | .privateName _ =>
    advance
    return .other .privateMember (← spanFrom start)
  | _ =>
    let property ← anyName
    return .member (← spanFrom start) e property

def callLink (start : Nat) (e : Expr) : Reader Expr := do
  expectMark "("
  let items ← g.arguments
  return .call (← spanFrom start) e items

def indexLink (start : Nat) (e : Expr) : Reader Expr := do
  expectMark "["
  let key ← g.innerExpression
  expectMark "]"
  return .index (← spanFrom start) e key

def templateLink (start : Nat) : Reader Expr := do
  templateParts g.innerExpression
  return .other .taggedTemplate (← spanFrom start)

def typedLink (start : Nat) (mode : ChainMode) (e : Expr) : Reader (Option Expr) := do
  let read ← attempt do
    let _ ← g.typeArguments
    let behind ← lexeme
    let applied := match behind.token with
      | .template _ => true
      | .mark m => m == "(" && mode.calls
      | _ => false
    unless applied || (mode.instantiations && endsInstantiation behind) do fail
  match read with
  | none => return none
  | some () =>
    match ← peek with
    | .template _ => return some (← g.templateLink start)
    | .mark "(" =>
      if mode.calls then
        return some (← g.callLink start e)
      else
        return some (.other .instantiation (← spanFrom start))
    | _ => return some (.other .instantiation (← spanFrom start))

def optionalLink (start : Nat) (e : Expr) : Reader Expr := do
  expectMark "?."
  if ← atMark "(" then
    g.callLink start e
  else if ← atMark "[" then
    g.indexLink start e
  else if (← typescript) && (← atLess) then
    let _ ← g.typeArguments
    g.callLink start e
  else
    propertyLink start e

def chainStep (start : Nat) (mode : ChainMode) : Expr × Bool → Reader (Option (Expr × Bool))
  | (e, optional) => do
    match ← peek with
    | .mark "." =>
      advance
      return some (← propertyLink start e, optional)
    | .mark "?." =>
      if mode.calls then
        return some (← g.optionalLink start e, true)
      else
        fail
    | .mark "[" => return some (← g.indexLink start e, optional)
    | .mark "(" =>
      if mode.calls then
        return some (← g.callLink start e, optional)
      else
        return none
    | .template _ =>
      if optional then
        fail
      else
        return some (← g.templateLink start, optional)
    | .mark "!" =>
      if (← typescript) && !(← atNewline) then
        advance
        return some (.nonNull (← spanFrom start) e, optional)
      else
        return none
    | _ =>
      if (← typescript) && (← atLess) then
        return (← g.typedLink start mode e).map (·, optional)
      else
        return none

def chain (mode : ChainMode) : Reader Expr := do
  let start ← start
  let first ← g.primary
  let (e, optional) ← iterate (g.chainStep start mode) (first, false)
  if optional then
    return .other .optionalChain (← spanFrom start)
  else
    return e

def anyConstructed : Reader Expr :=
  g.chain ⟨false, true⟩

def leftHandSide : Reader Expr :=
  g.chain ⟨true, true⟩

def target? : Expr → Option Target
  | .ident id => some (.ident id)
  | .paren _ inner =>
    match inner with
    | .array .. | .other .object _ => none
    | inner => target? inner
  | .member span .. | .index span .. | .array span _ => some (.other span)
  | .cast span _ | .satisfies span _ | .nonNull span _ => some (.other span)
  | .other what span =>
    if what == .object || what == .privateMember || what == .typeAssertion then some (.other span) else none
  | _ => none

-- What can be counted up or down, or be changed otherwise: a target that takes nothing apart.
def isCountable (e : Expr) : Bool :=
  match e with
  | .array .. | .other .object _ => false
  | e => (target? e).isSome

def updateExpression : Reader Expr := do
  let start ← start
  let e ← g.leftHandSide
  if ((← atMark "++") || (← atMark "--")) && !(← atNewline) then
    unless isCountable e do fail
    advance
    return .other .update (← spanFrom start)
  else
    return e

-- A name or a literal on the same line, so that the word before it can only be an operator.
def takesOperand (l : Lexeme) : Bool :=
  !l.newlineBefore && match l.token with
    | .name w => !(["in", "instanceof", "of", "as", "satisfies"].contains w)
    | .escapedName _ | .string _ | .number | .bigint | .template _ => true
    | _ => false

def typeAssertion : Reader Expr := do
  let start ← start
  unless ← eatLess do fail
  unless ← eatWord "const" do
    g.innerType
  expectMark ">"
  let _ ← g.unary
  return .other .typeAssertion (← spanFrom start)

def anyUnary : Reader Expr := do
  let start ← start
  let language := (← read).language
  if (← atAnyMark ["+", "-", "~", "!"]) || (← atAnyWord ["delete", "void", "typeof"]) then
    advance
    let _ ← g.unary
    return .other .unary (← spanFrom start)
  else if ← atAnyMark ["++", "--"] then
    advance
    let e ← g.unary
    unless isCountable e do fail
    return .other .update (← spanFrom start)
  else if (← atWord "await") && ((← read).inAsync || takesOperand (← peekSecond)) then
    unless (← read).inAsync do
      recover
    advance
    let _ ← g.unary
    return .other .await (← spanFrom start)
  else if language.typescript && !language.markup && (← atLess) then
    g.typeAssertion
  else
    g.updateExpression

-- The operator that begins with a token, and the text behind it. Only here may `>` be the first part of a mark.
def operatorAt (l : Lexeme) : Option (String × Cursor) :=
  match l.token with
  | .mark ">" =>
    [">>>=", ">>>", ">>=", ">>", ">=", ">"].findSome? fun m =>
      (Text.dropPrefix? m.toList l.start.rest).map fun rest => (m, l.start.past m.toList rest)
  | .mark m => some (m, l.behind)
  | .name w => some (w, l.behind)
  | _ => none

def strength? : String → Option Nat
  | "??" => some 1
  | "||" => some 2
  | "&&" => some 3
  | "|" => some 4
  | "^" => some 5
  | "&" => some 6
  | "==" | "!=" | "===" | "!==" => some 7
  | "<" | ">" | "<=" | ">=" | "instanceof" | "in" => some 8
  | "<<" | ">>" | ">>>" => some 9
  | "+" | "-" => some 10
  | "*" | "/" | "%" => some 11
  | "**" => some 12
  | _ => none

def annotationStrength : Nat := 8

def logicalOp? : String → Option LogicalOp
  | "&&" => some .and
  | "||" => some .or
  | "??" => some .coalesce
  | _ => none

-- One of `&&` and `||` right next to `??`, or the other way round, without parentheses.
def mixesCoalescing (op : LogicalOp) : Expr → Bool
  | .logical _ inner _ _ => (op == .coalesce) != (inner == .coalesce)
  | _ => false

-- Joins two expressions by an operator. Mixing `??` with the other two is wrong, but can be read.
def joinOperands (start : Nat) (op : String) (left right : Expr) : Reader Expr := do
  match logicalOp? op with
  | some logical =>
    if mixesCoalescing logical left || mixesCoalescing logical right then
      recover
    return .logical (← spanFrom start) logical left right
  | none => return .other .binary (← spanFrom start)

def binaryStep (start strength : Nat) (left : Expr) : Reader (Option Expr) := do
  let l ← lexeme
  let annotation := (← typescript) && !l.newlineBefore && strength < annotationStrength
  match operatorAt l with
  | none => return none
  | some ("as", _) =>
    if annotation then
      advance
      unless ← eatWord "const" do
        g.innerType
      return some (.cast (← spanFrom start) left)
    else
      return none
  | some ("satisfies", _) =>
    if annotation then
      advance
      g.innerType
      return some (.satisfies (← spanFrom start) left)
    else
      return none
  | some (op, behind) =>
    match strength? op with
    | none => return none
    | some own =>
      if own ≤ strength || (op == "in" && !(← read).allowIn) then
        return none
      else
        moveTo behind
        let right ← g.binary (if op == "**" then own - 1 else own)
        return some (← joinOperands start op left right)

def anyBinary (strength : Nat) : Reader Expr := do
  let start ← start
  let first ← g.unary
  iterate (g.binaryStep start strength) first

def assignmentOperators : List String :=
  ["=", "+=", "-=", "*=", "/=", "%=", "**=", "<<=", ">>=", ">>>=", "&=", "|=", "^=", "&&=", "||=", "??="]

def yieldExpression (returnType : Bool) : Reader Expr := do
  let start ← start
  expectWord "yield"
  let ended := (← atNewline) || (← atAnyMark [")", "]", "\x7d", ",", ";", ":"]) || (← peek) == .eof || (← atWord "in")
  unless ended do
    let _ ← eatMark "*"
    let _ ← g.assignment returnType
  return .other .yield (← spanFrom start)

def operation (returnType : Bool) : Reader Expr := do
  let start ← start
  let left ← g.binary 0
  match operatorAt (← lexeme) with
  | some (op, behind) =>
    if assignmentOperators.contains op then
      if op != "=" && !isCountable left then fail
      match target? left with
      | none => fail
      | some target =>
        moveTo behind
        let value ← g.assignment returnType
        return .assign (← spanFrom start) target value
    else if op == "?" then
      advance
      let consequent ← within (fun c => { c with allowIn := true }) (g.assignment false)
      expectMark ":"
      let alternate ← g.assignment returnType
      return .conditional (← spanFrom start) left consequent alternate
    else
      return left
  | none => return left

def anyAssignment (returnType : Bool) : Reader Expr := do
  if (← atWord "yield") && ((← read).inGenerator || takesOperand (← peekSecond)) then
    unless (← read).inGenerator do
      recover
    g.yieldExpression returnType
  else
    match ← g.arrowFunction returnType with
    | some e => return e
    | none => g.operation returnType

end MarkerLint.Script.Grammar
