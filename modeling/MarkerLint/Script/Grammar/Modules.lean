import MarkerLint.Script.Grammar.Statements

namespace MarkerLint.Script.Grammar

open Reader

variable (g : Grammar)

def moduleName : Reader ExportName := do
  match ← peek with
  | .string _ => return .string (← stringLiteral)
  | _ => return .ident (← anyName)

def importAttributes : Reader Unit := do
  let asserted := (← atWord "assert") && !(← atNewline)
  if (← atWord "with") || asserted then
    advance
    expectMark "\x7b"
    let _ ← commaList "\x7d" do
      let _ ← moduleName
      expectMark ":"
      stringLiteral

def moduleSource : Reader StringLiteral := do
  let source ← stringLiteral
  importAttributes
  return source

def isName (l : Lexeme) : Bool :=
  match l.token with
  | .name _ | .escapedName _ | .string _ => true
  | _ => false

-- Takes the word `type` off if an entry of a list begins with it, as far as it does not itself name the entry:
-- `type`, `type as x` and `type as as` do so.
def entryTypeWord : Reader Bool := do
  let second ← peekSecond
  let third := second.behind.next
  let fourth := third.behind.next
  let modifies :=
    if second.token == .name "as" then
      if third.token == .name "as" then isName fourth else !isName third
    else isName second
  if (← typescript) && (← atWord "type") && modifies then
    advance
    return true
  else
    return false

def specifier : Reader Specifier := do
  let start ← start
  let typeOnly ← entryTypeWord
  let localName ← moduleName
  let exported ← if ← eatWord "as" then moduleName else pure localName
  return ⟨← spanFrom start, typeOnly, localName, exported⟩

def specifiers : Reader (List Specifier) := do
  expectMark "\x7b"
  commaList "\x7d" specifier

-- Takes a word off that comes before what is imported, as far as it is not itself imported.
def importWord (word : String) : Reader Unit := do
  let second ← peekSecond
  let third := second.behind.next
  let modifies :=
    match second.token with
    | .mark m => m == "\x7b" || m == "*"
    | .name "from" => third.token == .name "from" || third.token == .mark "="
    | .name _ | .escapedName _ => true
    | _ => false
  if (← atWord word) && modifies then
    advance

def importEquals : Reader Unit := do
  let second ← peekSecond
  if (← atWord "require") && second.token == .mark "(" then
    advance
    advance
    let _ ← stringLiteral
    expectMark ")"
  else
    qualifiedName
  semicolon

def importClause : Reader Unit := do
  if ← eatMark "*" then
    expectWord "as"
    let _ ← identifier
  else
    let _ ← specifiers

def importDeclaration : Reader Unit := do
  expectWord "import"
  match ← peek with
  | .string _ =>
    let _ ← moduleSource
    semicolon
  | _ =>
    if ← typescript then
      importWord "type"
    importWord "defer"
    importWord "source"
    let named ← atIdentifier
    if named then
      advance
    if named && (← typescript) && (← eatMark "=") then
      importEquals
    else
      if named then
        if ← eatMark "," then
          importClause
      else
        importClause
      expectWord "from"
      let _ ← moduleSource
      semicolon

def exportAll : Reader Unit := do
  expectMark "*"
  if ← eatWord "as" then
    let _ ← moduleName
  expectWord "from"
  let _ ← moduleSource
  semicolon

def exportList (start : Nat) (typeOnly : Bool) : Reader Stmt := do
  let entries ← specifiers
  let source ← if ← eatWord "from" then some <$> moduleSource else pure none
  semicolon
  return .exportNamed (← spanFrom start) typeOnly none entries source

def defaultExport : Reader DefaultExport := do
  let start ← start
  let second ← peekSecond
  let named := match second.token with
    | .name w => !reservedWords.contains w
    | .escapedName _ => true
    | _ => false
  if ← atFunction then
    return .function (← g.function start)
  else if (← atWord "class") || (← atMark "@") then
    let _ ← g.decorators
    if (← typescript) && (← atWord "abstract") then
      advance
    return .classDecl (← g.classTail start)
  else if (← typescript) && (← atWord "abstract") && second.token == .name "class" && !second.newlineBefore then
    advance
    return .classDecl (← g.classTail start)
  else if (← typescript) && (← atWord "interface") && named && !second.newlineBefore then
    g.interface
    return .other (← spanFrom start)
  else
    let e ← g.innerAssignment
    semicolon
    return .expr e

def exportedDeclaration : Reader Declaration := do
  let start ← start
  if ← atMark "@" then
    let _ ← g.decorators
    if ← typescript then
      let _ ← eatWord "abstract"
    return .classDecl (← g.classTail start)
  else
    match ← declarationKind? with
    | some kind => g.declaration start kind
    | none => fail

def exportedImport : Reader Declaration := do
  let start ← start
  expectWord "import"
  importWord "type"
  let _ ← identifier
  expectMark "="
  importEquals
  return .other (← spanFrom start)

def exportStatement : Reader Stmt := do
  let start ← start
  expectWord "export"
  let second ← peekSecond
  let types ← typescript
  if ← atMark "*" then
    other start exportAll
  else if ← atMark "\x7b" then
    exportList start false
  else if ← eatWord "default" then
    let value ← g.defaultExport
    return .exportDefault (← spanFrom start) value
  else if types && (← atWord "type") && second.token == .mark "*" then
    advance
    other start exportAll
  else if types && (← atWord "type") && second.token == .mark "\x7b" then
    advance
    exportList start true
  else if types && (← atMark "=") then
    advance
    let _ ← g.innerExpression
    semicolon
    return .other (← spanFrom start)
  else if types && (← atWord "as") && second.token == .name "namespace" then
    advance
    advance
    let _ ← identifier
    semicolon
    return .other (← spanFrom start)
  else if types && (← atWord "import") then
    let declaration ← exportedImport
    return .exportNamed (← spanFrom start) false (some declaration) [] none
  else
    let declaration ← g.exportedDeclaration
    return .exportNamed (← spanFrom start) false (some declaration) [] none

def decoratedStatement : Reader Stmt := do
  let start ← start
  let _ ← g.decorators
  if ← atWord "export" then
    g.exportStatement
  else
    if ← typescript then
      let _ ← eatWord "abstract"
    return .declaration (.classDecl (← g.classTail start))

def anyStatement : Reader Stmt := do
  let start ← start
  let second ← peekSecond
  let imported := !(second.token == .mark "(" || second.token == .mark ".")
  if (← atWord "import") && imported then
    other start importDeclaration
  else if ← atWord "export" then
    g.exportStatement
  else if ← atMark "@" then
    g.decoratedStatement
  else
    g.localStatement

end MarkerLint.Script.Grammar
