import MarkerLint.Script.Grammar.Types

namespace MarkerLint.Script.Grammar

open Reader

variable (g : Grammar)

def optionalDefault : Reader Unit := do
  if ← eatMark "=" then
    let _ ← g.innerAssignment

def objectPatternEntry : Reader Unit := do
  if ← eatMark "..." then
    let _ ← g.binding
  else
    let second ← peekSecond
    if (← atIdentifier) && second.token != .mark ":" then
      let _ ← identifier
      g.optionalDefault
    else
      g.propertyName
      expectMark ":"
      let _ ← g.binding
      g.optionalDefault

def arrayPatternEntry : Reader Unit := do
  if ← atMark "," then
    return ()
  else
    let _ ← eatMark "..."
    let _ ← g.binding
    g.optionalDefault

def anyBinding : Reader Binding := do
  let start ← start
  if ← eatMark "\x7b" then
    let _ ← commaList "\x7d" g.objectPatternEntry
    return .pattern (← spanFrom start)
  else if ← eatMark "[" then
    let _ ← commaList "]" g.arrayPatternEntry
    return .pattern (← spanFrom start)
  else
    return .ident (← identifier)

def skipArguments : Reader Unit := do
  let _ ← commaList ")" do
    let _ ← eatMark "..."
    g.innerAssignment

-- The expression behind a decorator's sign: a name or something in parentheses, with points and calls behind it.
def decorator : Reader Unit := do
  expectMark "@"
  if ← eatMark "(" then
    let _ ← g.innerExpression
    expectMark ")"
  else
    let _ ← anyName
  let _ ← many do
    if ← eatMark "." then
      match ← peek with
      | .privateName _ => advance
      | _ => let _ ← anyName
      return some ()
    else if ← eatMark "(" then
      g.skipArguments
      return some ()
    else if (← typescript) && (← atLess) then
      let _ ← g.typeArguments
      return some ()
    else
      return none

def decorators : Reader Bool := do
  let read ← many do
    if ← atMark "@" then
      g.decorator
      return some ()
    else
      return none
  return !read.isEmpty

def parameterModifiers : List String :=
  ["public", "private", "protected", "readonly", "override"]

def parameter : Reader Unit := do
  let _ ← g.decorators
  let _ ← many do
    let second ← peekSecond
    let another := match second.token with
      | .name _ | .escapedName _ => true
      | .mark m => m == "\x7b" || m == "["
      | _ => false
    if (← typescript) && (← atAnyWord parameterModifiers) && another then
      advance
      return some ()
    else
      return none
  if ← eatMark "..." then
    let _ ← g.binding
    g.typeAnnotation
  else
    if (← typescript) && (← atWord "this") then
      advance
    else
      let _ ← g.binding
    if ← typescript then
      let _ ← eatMark "?"
    g.typeAnnotation
    g.optionalDefault

def anyParameters : Reader Unit := do
  expectMark "("
  let _ ← commaList ")" g.parameter

def functionHead (async generator : Bool) : Reader Unit :=
  within (fun c => { c with allowIn := true, inAsync := async, inGenerator := generator }) g.signature

end MarkerLint.Script.Grammar
