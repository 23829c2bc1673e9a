import MarkerLint.Script.Grammar.Types

namespace MarkerLint.Script.Grammar

open Reader

variable (g : Grammar)

def tagWord : Reader String := do
  match readTagWord (← lexeme).start with
  | some (word, behind) =>
    moveTo behind
    return word
  | none => fail

-- The name of a tag. Hyphens may only stand in its first word, or in both words around a colon.
def tagName : Reader TagName := do
  let first ← tagWord
  if ← eatMark ":" then
    return .namespaced first (← tagWord)
  else
    iterate (fun (name : TagName) => do
      if ← eatMark "." then
        let property ← tagWord
        if property.contains '-' then fail
        return some (.member name property)
      else
        return none) (.plain first)

def attributeName : Reader AttributeName := do
  let first ← tagWord
  if ← eatMark ":" then
    return .namespaced first (← tagWord)
  else
    return .plain first

-- An expression in braces, in which a comma needs parentheses around it.
def markupExpression : Reader Expr := do
  match ← g.innerExpression with
  | .sequence .. => fail
  | e => return e

-- The value of an attribute. Braces with nothing between them are wrong, but can be read.
def attributeValue : Reader AttributeValue := do
  let l ← lexeme
  match readRawString l.start with
  | some (value, behind) =>
    moveTo behind
    return .string ⟨value, ⟨l.start.offset, behind.offset⟩⟩
  | none =>
    if ← eatMark "\x7b" then
      if ← eatMark "\x7d" then
        recover
        return .container (← spanFrom l.span.start) none
      else
        let e ← g.markupExpression
        expectMark "\x7d"
        return .container (← spanFrom l.span.start) (some e)
    else if ← atMark "<" then
      return .markup (← g.markup)
    else
      fail

def tagAttribute : Reader Attribute := do
  let start ← start
  if ← eatMark "\x7b" then
    expectMark "..."
    let e ← g.innerAssignment
    expectMark "\x7d"
    return .spread (← spanFrom start) e
  else
    let name ← attributeName
    if ← eatMark "=" then
      let value ← g.attributeValue
      return .named (← spanFrom start) name (some value)
    else
      return .named (← spanFrom start) name none

def childContainer : Reader Child := do
  let start ← start
  expectMark "\x7b"
  if ← eatMark "\x7d" then
    return .container (← spanFrom start) none
  else if ← eatMark "..." then
    let e ← g.innerExpression
    expectMark "\x7d"
    return .spread (← spanFrom start) e
  else
    let e ← g.markupExpression
    expectMark "\x7d"
    return .container (← spanFrom start) (some e)

def children : Reader (List Child) :=
  many do
    let cursor := (← get).behind
    let (text, behind) := takeMarkupText cursor
    if !text.isEmpty then
      moveTo behind
      return some (.text ⟨cursor.offset, behind.offset⟩)
    else
      let second ← peekSecond
      if ← atMark "\x7b" then
        return some (← g.childContainer)
      else if second.token == .mark "/" then
        return none
      else
        return some (.markup (← g.markup))

def closingTag : Reader (Option TagName) := do
  expectMark "<"
  expectMark "/"
  let name ← if ← atMark ">" then pure none else some <$> tagName
  expectMark ">"
  return name

def element (start : Nat) : Reader Markup := do
  let nameStart ← Reader.start
  let name ← tagName
  let nameSpan ← spanFrom nameStart
  let types ← if (← typescript) && (← atMark "<") then some <$> g.typeArguments else pure none
  let attributes ← many do
    if (← atMark "/") || (← atMark ">") then
      return none
    else
      return some (← g.tagAttribute)
  if ← eatMark "/" then
    expectMark ">"
    let span ← spanFrom start
    return .element span span name nameSpan types attributes []
  else
    expectMark ">"
    let opening ← spanFrom start
    let children ← g.children
    match ← closingTag with
    | none => fail
    | some closing =>
      if closing.text != name.text then
        recover
      return .element (← spanFrom start) opening name nameSpan types attributes children

def anyMarkup : Reader Markup := do
  let start ← start
  expectMark "<"
  if ← eatMark ">" then
    let children ← g.children
    match ← closingTag with
    | some _ => fail
    | none => return .fragment (← spanFrom start) children
  else
    g.element start

end MarkerLint.Script.Grammar
