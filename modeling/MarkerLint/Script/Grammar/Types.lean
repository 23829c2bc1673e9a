import MarkerLint.Script.Grammar.Basic

-- Types. They are read only to know where they end.

namespace MarkerLint.Script.Grammar

open Reader

variable (g : Grammar)

-- Takes one `<` off, even if it is the first part of a longer mark.
def eatLess : Reader Bool := do
  let l ← lexeme
  match l.token, l.start.rest with
  | .mark _, '<' :: rest =>
    moveTo (l.start.past ['<'] rest)
    return true
  | _, _ => return false

def atLess : Reader Bool := do
  let l ← lexeme
  match l.token, l.start.rest with
  | .mark _, '<' :: _ => return true
  | _, _ => return false

def typeArguments : Reader Span := do
  let start ← start
  unless ← eatLess do fail
  if ← atMark ">" then fail
  let _ ← commaList ">" g.innerType
  spanFrom start

def optionalTypeArguments : Reader Unit := do
  if (← atLess) && !(← atNewline) then
    let _ ← g.typeArguments

def typeParameterModifiers : List String :=
  ["const", "in", "out"]

def typeParameter : Reader Unit := do
  let _ ← many do
    let l ← peekSecond
    let another := match l.token with
      | .name w => w != "extends"
      | .escapedName _ => true
      | _ => false
    if (← atAnyWord typeParameterModifiers) && another then
      advance
      return some ()
    else
      return none
  let _ ← identifier
  if ← eatWord "extends" then
    g.innerType
  if ← eatMark "=" then
    g.innerType

def typeParameters : Reader Unit := do
  unless ← eatLess do fail
  if ← atMark ">" then fail
  let _ ← commaList ">" g.typeParameter

def optionalTypeParameters : Reader Unit := do
  if (← typescript) && (← atLess) then
    g.typeParameters

-- What a function returns: a type, or a statement about one of its parameters.
def returnType : Reader Unit := do
  let second ← peekSecond
  let nameFollows := !second.newlineBefore && match second.token with
    | .name _ | .escapedName _ => true
    | _ => false
  if (← atWord "asserts") && nameFollows && second.token != .name "is" then
    advance
    let _ ← anyName
    if !(← atNewline) && (← atWord "is") then
      advance
      g.innerType
  else if ((← atIdentifier) || (← atWord "this")) && !second.newlineBefore && second.token == .name "is" then
    advance
    advance
    g.innerType
  else
    g.innerType

def returnAnnotation : Reader Unit := do
  if (← typescript) && (← atMark ":") then
    advance
    g.returnType

def signature : Reader Unit := do
  g.optionalTypeParameters
  g.parameters
  g.returnAnnotation

def functionType : Reader Unit := do
  g.optionalTypeParameters
  g.parameters
  expectMark "=>"
  g.returnType

def qualifiedName : Reader Unit := do
  let _ ← anyName
  let _ ← many do
    if ← eatMark "." then
      match ← peek with
      | .privateName _ => advance
      | _ => let _ ← anyName
      return some ()
    else
      return none

def templateParts {α : Type} (inside : Reader α) : Reader Unit := do
  match ← peek with
  | .template true => advance
  | .template false =>
    advance
    let closed ← iterate (fun (closed : Bool) => do
      if closed then
        return none
      else
        let _ ← inside
        let l ← lexeme
        match l.token, l.start.rest with
        | .mark "\x7d", c :: rest =>
          match readTemplate (l.start.offset + c.utf8Size) rest with
          | (.template closed, behind) =>
            moveTo behind
            return some closed
          | _ => fail
        | _, _ => fail) false
    unless closed do fail
  | _ => fail

def tupleElement : Reader Unit := do
  let _ ← eatMark "..."
  let named ← attempt do
    let _ ← anyName
    let _ ← eatMark "?"
    expectMark ":"
  if named.isSome then
    let _ ← eatMark "..."
  g.innerType
  let _ ← eatMark "?"

def propertyName : Reader Unit := do
  match ← peek with
  | .name _ | .escapedName _ | .string _ | .number | .bigint | .privateName _ => advance
  | .mark "[" =>
    advance
    let _ ← g.innerExpression
    expectMark "]"
  | _ => fail

def startsPropertyName (l : Lexeme) : Bool :=
  match l.token with
  | .name _ | .escapedName _ | .string _ | .number | .bigint | .privateName _ => true
  | .mark m => m == "["
  | _ => false

def memberSeparator : Reader Unit := do
  unless (← eatMark ";") do
    unless (← eatMark ",") do
      let ended := (← atNewline) || (← atMark "\x7d")
      unless ended do fail

def indexSignature : Reader Unit := do
  expectMark "["
  let _ ← identifier
  expectMark ":"
  g.innerType
  expectMark "]"
  g.typeAnnotation

def typeMember : Reader Unit := do
  let second ← peekSecond
  if (← atMark "(") || (← atLess) then
    g.signature
  else if (← atWord "new") && (second.token == .mark "(" || second.token == .mark "<") then
    advance
    g.signature
  else
    if (← atWord "readonly") && startsPropertyName second && !second.newlineBefore then
      advance
    let second ← peekSecond
    if ((← atWord "get") || (← atWord "set")) && startsPropertyName second && !second.newlineBefore then
      advance
    let index ← attempt g.indexSignature
    if index.isNone then
      g.propertyName
      let _ ← eatMark "?"
      if (← atMark "(") || (← atLess) then
        g.signature
      else
        g.typeAnnotation
  memberSeparator

def typeMembers : Reader Unit := do
  expectMark "\x7b"
  let _ ← many do
    if ← atMark "\x7d" then
      return none
    else
      g.typeMember
      return some ()
  expectMark "\x7d"

def mappedModifier (eat : Reader Bool) : Reader Unit := do
  if (← atMark "+") || (← atMark "-") then
    advance
    unless ← eat do fail
  else
    let _ ← eat

def mappedType : Reader Unit := do
  expectMark "\x7b"
  mappedModifier (eatWord "readonly")
  expectMark "["
  let _ ← identifier
  expectWord "in"
  g.innerType
  if ← eatWord "as" then
    g.innerType
  expectMark "]"
  mappedModifier (eatMark "?")
  g.typeAnnotation
  let _ ← eatMark ";"
  let _ ← eatMark ","
  expectMark "\x7d"

def importType : Reader Unit := do
  expectWord "import"
  expectMark "("
  g.innerType
  if ← eatMark "," then
    unless ← atMark ")" do
      let _ ← g.innerAssignment
      let _ ← eatMark ","
  expectMark ")"
  if ← eatMark "." then
    qualifiedName
  g.optionalTypeArguments

def primaryType : Reader Unit := do
  match ← peek with
  | .mark "(" =>
    advance
    g.innerType
    expectMark ")"
  | .mark "[" =>
    advance
    let _ ← commaList "]" g.tupleElement
  | .mark "\x7b" =>
    let mapped ← attempt g.mappedType
    if mapped.isNone then
      g.typeMembers
  | .mark "-" =>
    advance
    match ← peek with
    | .number | .bigint => advance
    | _ => fail
  | .string _ | .number | .bigint => advance
  | .template _ => templateParts g.innerType
  | .name "typeof" =>
    advance
    if ← atWord "import" then
      g.importType
    else
      qualifiedName
      g.optionalTypeArguments
  | .name "import" => g.importType
  | .name word =>
    if ["this", "null", "true", "false", "void"].contains word then
      advance
    else if reservedWords.contains word then
      fail
    else
      qualifiedName
      g.optionalTypeArguments
  | .escapedName _ =>
    qualifiedName
    g.optionalTypeArguments
  | _ => fail

def arrayType : Reader Unit := do
  g.primaryType
  let _ ← many do
    if (← atMark "[") && !(← atNewline) then
      advance
      unless ← eatMark "]" do
        g.innerType
        expectMark "]"
      return some ()
    else
      return none

def typeOperators : List String :=
  ["keyof", "unique", "readonly"]

def operatorType : Reader Unit := do
  let _ ← many do
    if ← atAnyWord typeOperators then
      advance
      return some ()
    else
      return none
  if ← eatWord "infer" then
    let _ ← identifier
    let _ ← attempt do
      expectWord "extends"
      within (fun c => { c with allowConditionalType := false }) g.type
      if (← read).allowConditionalType && (← atMark "?") then fail
  else
    g.arrayType

def intersectionType : Reader Unit := do
  let _ ← eatMark "&"
  let _ ← separated "&" g.operatorType

def unionType : Reader Unit := do
  let _ ← eatMark "|"
  let _ ← separated "|" g.intersectionType

def conditionalType : Reader Unit := do
  g.unionType
  if (← read).allowConditionalType && !(← atNewline) && (← atWord "extends") then
    advance
    within (fun c => { c with allowConditionalType := false }) g.type
    expectMark "?"
    g.innerType
    expectMark ":"
    g.innerType

def anyType : Reader Unit := do
  let second ← peekSecond
  if ← atLess then
    g.functionType
  else if ← atMark "(" then
    let arrow ← attempt do
      g.parameters
      expectMark "=>"
    if arrow.isSome then
      g.returnType
    else
      g.conditionalType
  else if ← atWord "new" then
    advance
    g.functionType
  else if (← atWord "abstract") && second.token == .name "new" then
    advance
    advance
    g.functionType
  else
    g.conditionalType

end MarkerLint.Script.Grammar
