import MarkerLint.Script.Grammar.Classes

namespace MarkerLint.Script.Grammar

open Reader

variable (g : Grammar)

inductive VariableKind where
  | var
  | letting
  | const
  | resource
  deriving DecidableEq

def variableKind? : Reader (Option (VariableKind × Nat)) := do
  let second ← peekSecond
  let third := second.behind.next
  let named := fun (l : Lexeme) => match l.token with
    | .name w => !(["in", "instanceof", "of"].contains w)
    | .escapedName _ => true
    | _ => false
  let patterned := fun (l : Lexeme) => l.token == .mark "[" || l.token == .mark "\x7b"
  match ← peek with
  | .name "var" => return some (.var, 1)
  | .name "const" => return some (.const, 1)
  | .name "let" => return if named second || patterned second || second.token == .name "of" then some (.letting, 1) else none
  | .name "using" => return if named second && !second.newlineBefore then some (.resource, 1) else none
  | .name "await" =>
    let resource := second.token == .name "using" && !second.newlineBefore
    return if resource && named third && !third.newlineBefore then some (.resource, 2) else none
  | _ => return none

def declarator (kind : VariableKind) : Reader (Declarator × Bool) := do
  let start ← start
  let binding ← g.binding
  if (← typescript) && !(← atNewline) then
    let _ ← eatMark "!"
  g.typeAnnotation
  let init ← if ← eatMark "=" then some <$> g.assignment true else pure none
  let needed := kind == .const || kind == .resource || match binding with
    | .pattern _ => true
    | .ident _ => false
  return (.mk (← spanFrom start) binding init, init.isNone && needed)

def declarators (kind : VariableKind) (words : Nat) : Reader (List Declarator × Bool) := do
  advance
  if words > 1 then
    advance
  let read ← separated "," (g.declarator kind)
  return (read.map (·.1), read.any (·.2))

-- A declaration of variables. A constant without a value is wrong, but can be read.
def variableDeclaration (start : Nat) (kind : VariableKind) (words : Nat) : Reader Declaration := do
  let (declarators, incomplete) ← g.declarators kind words
  if incomplete && !(← read).ambient then
    recover
  semicolon
  return .variables (← spanFrom start) declarators

def interface : Reader Unit := do
  advance
  let _ ← identifier
  g.optionalTypeParameters
  if ← eatWord "extends" then
    let _ ← separated "," g.innerType
  g.typeMembers

def typeAlias : Reader Unit := do
  advance
  let _ ← identifier
  g.optionalTypeParameters
  expectMark "="
  g.innerType
  semicolon

def enumeration : Reader Unit := do
  expectWord "enum"
  let _ ← identifier
  expectMark "\x7b"
  let _ ← commaList "\x7d" do
    g.propertyName
    g.optionalDefault

def statementBlock : Reader (List Stmt) := do
  expectMark "\x7b"
  g.statementsToBrace

def namespaceTail : Reader Unit := do
  let isGlobal ← atWord "global"
  advance
  unless isGlobal do
    match ← peek with
    | .string _ => advance
    | _ => qualifiedName
  if ← atMark "\x7b" then
    let inside := fun (c : Context) => { c with inAsync := true, inGenerator := false, inFunction := false }
    let _ ← within inside g.statementBlock
  else
    semicolon

inductive DeclarationKind where
  | variables (kind : VariableKind) (words : Nat)
  | function
  | classDecl
  | abstractClass
  | interface
  | typeAlias
  | enumeration
  | constEnumeration
  | namespaceDecl
  | declared
  deriving DecidableEq

def declarable : List String :=
  [ "const", "let", "var", "function", "class", "enum", "interface", "type", "namespace", "module", "global",
    "abstract", "async", "using", "await" ]

def declarationKind? : Reader (Option DeclarationKind) := do
  let second ← peekSecond
  let sameLine := !second.newlineBefore
  let named := match second.token with
    | .name w => !reservedWords.contains w
    | .escapedName _ => true
    | _ => false
  let quoted := match second.token with
    | .string _ => true
    | _ => false
  if ← typescript then
    match ← peek with
    | .name "interface" => if named && sameLine then return some .interface
    | .name "type" => if named && sameLine then return some .typeAlias
    | .name "enum" => return some .enumeration
    | .name "const" => if second.token == .name "enum" then return some .constEnumeration
    | .name "namespace" => if named && sameLine then return some .namespaceDecl
    | .name "module" => if (named || quoted) && sameLine then return some .namespaceDecl
    | .name "global" => if second.token == .mark "\x7b" && sameLine then return some .namespaceDecl
    | .name "abstract" => if second.token == .name "class" && sameLine then return some .abstractClass
    | .name "declare" =>
      let follows := match second.token with
        | .name w => declarable.contains w
        | _ => false
      if follows && sameLine then return some .declared
    | _ => pure ()
  if ← atFunction then
    return some .function
  else if ← atWord "class" then
    return some .classDecl
  else
    return (← variableKind?).map fun (kind, words) => .variables kind words

def plainDeclaration (start : Nat) (kind : DeclarationKind) : Reader Declaration := do
  match kind with
  | .variables kind words => g.variableDeclaration start kind words
  | .function => return .function (← g.function start)
  | .classDecl => return .classDecl (← g.classTail start)
  | .abstractClass =>
    advance
    return .classDecl (← g.classTail start)
  | .interface =>
    g.interface
    return .other (← spanFrom start)
  | .typeAlias =>
    g.typeAlias
    return .other (← spanFrom start)
  | .enumeration =>
    g.enumeration
    return .other (← spanFrom start)
  | .constEnumeration =>
    advance
    g.enumeration
    return .other (← spanFrom start)
  | .namespaceDecl =>
    g.namespaceTail
    return .other (← spanFrom start)
  | .declared => fail

-- A declaration of a kind that was found; it starts at `declare` if that comes before it.
def declaration (start : Nat) (kind : DeclarationKind) : Reader Declaration := do
  if kind == .declared then
    advance
    match ← declarationKind? with
    | some kind => within (fun c => { c with ambient := true }) (g.plainDeclaration start kind)
    | none => fail
  else
    g.plainDeclaration start kind

def condition : Reader Expr := do
  expectMark "("
  let e ← g.innerExpression
  expectMark ")"
  return e

def ifStatement (start : Nat) : Reader Stmt := do
  expectWord "if"
  let test ← g.condition
  let consequent ← g.statement
  let alternate ← if ← eatWord "else" then some <$> g.statement else pure none
  return .conditional (← spanFrom start) test consequent alternate

def loopConditions : Reader Unit := do
  unless ← atMark ";" do
    let _ ← g.innerExpression
  expectMark ";"
  unless ← atMark ")" do
    let _ ← g.innerExpression

def loopHead : Reader Unit := do
  expectMark "("
  if ← eatMark ";" then
    g.loopConditions
  else
    let incomplete ← within (fun c => { c with allowIn := false }) do
      match ← variableKind? with
      | some (kind, words) => return (← g.declarators kind words).2
      | none =>
        let _ ← g.expression
        return false
    if ← eatWord "of" then
      let _ ← g.innerAssignment
    else if ← eatWord "in" then
      let _ ← g.innerExpression
    else
      if incomplete then
        recover
      expectMark ";"
      g.loopConditions
  expectMark ")"

def forStatement : Reader Unit := do
  expectWord "for"
  let _ ← eatWord "await"
  g.loopHead
  let _ ← g.statement

def whileStatement : Reader Unit := do
  expectWord "while"
  let _ ← g.condition
  let _ ← g.statement

-- A loop with its condition at the end, where a semicolon may always be left out.
def doStatement : Reader Unit := do
  expectWord "do"
  let _ ← g.statement
  expectWord "while"
  let _ ← g.condition
  let _ ← eatMark ";"

def switchCase : Reader Unit := do
  if ← eatWord "case" then
    let _ ← g.innerExpression
  else
    expectWord "default"
  expectMark ":"
  let _ ← many do
    if (← atWord "case") || (← atWord "default") || (← atMark "\x7d") then
      return none
    else
      return some (← g.statement)

def switchStatement : Reader Unit := do
  expectWord "switch"
  let _ ← g.condition
  expectMark "\x7b"
  let _ ← many do
    if ← atMark "\x7d" then
      return none
    else
      g.switchCase
      return some ()
  expectMark "\x7d"

def tryStatement : Reader Unit := do
  expectWord "try"
  let _ ← g.statementBlock
  let caught ← eatWord "catch"
  if caught then
    if ← eatMark "(" then
      let _ ← g.binding
      g.typeAnnotation
      expectMark ")"
    let _ ← g.statementBlock
  let final ← eatWord "finally"
  if final then
    let _ ← g.statementBlock
  unless caught || final do fail

def jumpStatement : Reader Unit := do
  advance
  if (← atIdentifier) && !(← atNewline) then
    advance
  semicolon

def throwStatement : Reader Unit := do
  expectWord "throw"
  if ← atNewline then fail
  let _ ← g.innerExpression
  semicolon

-- Leaves a function. Outside one this is wrong, but can be read.
def returnStatement (start : Nat) : Reader Stmt := do
  expectWord "return"
  unless (← read).inFunction do
    recover
  let ended := (← atNewline) || (← atMark ";") || (← atMark "\x7d") || (← peek) == .eof
  let argument ← if ended then pure none else some <$> g.innerExpression
  semicolon
  return .returning (← spanFrom start) argument

def expressionStatement (start : Nat) : Reader Stmt := do
  let second ← peekSecond
  if (← atIdentifier) && second.token == .mark ":" then
    advance
    advance
    let _ ← g.statement
    return .other (← spanFrom start)
  else
    let e ← g.innerExpression
    semicolon
    return .expression (← spanFrom start) e

def other (start : Nat) (p : Reader Unit) : Reader Stmt := do
  p
  return .other (← spanFrom start)

-- A statement that begins with a word. Imports, exports and declarations are read before.
def wordStatement (start : Nat) (word : String) : Reader Stmt :=
  match word with
  | "if" => g.ifStatement start
  | "for" => other start g.forStatement
  | "while" => other start g.whileStatement
  | "do" => other start g.doStatement
  | "switch" => other start g.switchStatement
  | "try" => other start g.tryStatement
  | "throw" => other start g.throwStatement
  | "break" | "continue" => other start jumpStatement
  | "debugger" => other start do
    advance
    semicolon
  | "with" => other start do
    advance
    let _ ← g.condition
    let _ ← g.statement
  | "return" => g.returnStatement start
  | _ => g.expressionStatement start

def localStatement : Reader Stmt := do
  let start ← start
  match ← peek with
  | .mark "\x7b" =>
    let statements ← g.statementBlock
    return .block (← spanFrom start) statements
  | .mark ";" => other start advance
  | .name word =>
    match ← declarationKind? with
    | some kind => return .declaration (← g.declaration start kind)
    | none => g.wordStatement start word
  | _ => g.expressionStatement start

end MarkerLint.Script.Grammar
