import MarkerLint.Script.Grammar.Bindings

namespace MarkerLint.Script.Grammar

open Reader

variable (g : Grammar)

-- From the type parameters to the end of the block. Where types are written there need not be a block.
def functionTail (async generator : Bool) : Reader (Option Body) := do
  g.functionHead async generator
  if ← atMark "\x7b" then
    return some (← g.functionBody async generator)
  else if ← typescript then
    semicolon
    return none
  else
    fail

def function (start : Nat) : Reader Func := do
  let async ← eatWord "async"
  expectWord "function"
  let generator ← eatMark "*"
  let id ← if ← atIdentifier then some <$> identifier else pure none
  let body ← g.functionTail async generator
  return .mk (← spanFrom start) id body

def atFunction : Reader Bool := do
  let second ← peekSecond
  let async := second.token == .name "function" && !second.newlineBefore
  return (← atWord "function") || ((← atWord "async") && async)

def arrowBody (start : Nat) (async returnType : Bool) : Reader Expr := do
  if ← atMark "\x7b" then
    let body ← g.functionBody async false
    return .arrowBlock (← spanFrom start) body
  else
    let inside := fun (c : Context) => { c with inAsync := async, inGenerator := false, inFunction := true }
    let result ← within inside (g.assignment returnType)
    return .arrow (← spanFrom start) result

-- The arrow, which stands on the line of what comes before it.
def arrowSign : Reader Unit := do
  if ← atNewline then fail
  expectMark "=>"

def arrowHead (async : Bool) : Reader Bool :=
  within (fun c => { c with allowIn := true, inAsync := async || c.inAsync }) do
    g.optionalTypeParameters
    g.parameters
    let typed := (← typescript) && (← atMark ":")
    g.returnAnnotation
    arrowSign
    return typed

-- An arrow function with parentheses. One with a type for its result may not be meant as one between a question
-- mark and a colon: there it counts only if a colon follows.
def parenthesizedArrow (start : Nat) (async returnType : Bool) : Reader (Option Expr) := do
  let before ← get
  match ← attempt (g.arrowHead async) with
  | none => return none
  | some typed =>
    if typed && !returnType then
      let whole ← attempt do
        let e ← g.arrowBody start async returnType
        unless ← atMark ":" do fail
        return e
      if whole.isNone then
        set before
      return whole
    else
      some <$> g.arrowBody start async returnType

-- Where markup is written, only these signs behind a name tell type parameters from a tag.
def startsTypeParameters : Reader Bool := do
  if !(← typescript) || !(← atMark "<") then
    return false
  else if !(← read).language.markup then
    return true
  else
    let second ← peekSecond
    let name := if second.token == .name "const" then second.behind.next else second
    let third := name.behind.next
    let fourth := third.behind.next
    let named := match name.token with
      | .name w => !reservedWords.contains w
      | .escapedName _ => true
      | _ => false
    return named && match third.token with
      | .mark m => m == "," || m == "="
      | .name "extends" => !(match fourth.token with
        | .mark m => m == "=" || m == ">" || m == "/"
        | _ => false)
      | _ => false

def arrowFunction (returnType : Bool) : Reader (Option Expr) := do
  let start ← start
  let second ← peekSecond
  let arrowFollows := fun (l : Lexeme) => l.token == .mark "=>" && !l.newlineBefore
  if (← atMark "(") || (← startsTypeParameters) then
    g.parenthesizedArrow start false returnType
  else if ← atIdentifier then
    if arrowFollows second then
      advance
      advance
      some <$> g.arrowBody start false returnType
    else if (← atWord "async") && !second.newlineBefore then
      let named := match second.token with
        | .name w => !reservedWords.contains w
        | .escapedName _ => true
        | _ => false
      if named && arrowFollows second.behind.next then
        advance
        advance
        advance
        some <$> g.arrowBody start true returnType
      else if second.token == .mark "(" || second.token == .mark "<" then
        let before ← get
        advance
        match ← g.parenthesizedArrow start true returnType with
        | some e => return some e
        | none =>
          set before
          return none
      else
        return none
    else
      return none
  else
    return none

end MarkerLint.Script.Grammar
