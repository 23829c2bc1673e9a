import MarkerLint.Script.Grammar.Expressions

namespace MarkerLint.Script.Grammar

open Reader

variable (g : Grammar)

def plainModifiers : List String :=
  ["static", "async", "get", "set", "accessor"]

def typedModifiers : List String :=
  ["declare", "public", "private", "protected", "abstract", "override", "readonly"]

-- A word is a modifier only if a key follows. The key must stand on the same line, unless the word is `static`,
-- `get` or `set`.
def isModifier (typescript : Bool) (word : String) (second : Lexeme) : Bool :=
  let known := plainModifiers.contains word || (typescript && typedModifiers.contains word)
  let sameLine := !second.newlineBefore || ["static", "get", "set"].contains word
  let accessor := word == "get" || word == "set"
  known && sameLine && (startsPropertyName second || (second.token == .mark "*" && !accessor))

def memberModifiers : Reader (List String) :=
  many do
    let second ← peekSecond
    match ← peek with
    | .name word =>
      if isModifier (← typescript) word second then
        advance
        return some word
      else
        return none
    | _ => return none

-- The key of a member. A string in brackets is as good as the string alone.
def memberKey : Reader MethodKey := do
  let l ← lexeme
  match l.token with
  | .name _ | .escapedName _ => return .ident (← anyName)
  | .string _ => return .string (← stringLiteral)
  | .number | .bigint | .privateName _ =>
    advance
    return .other l.span
  | .mark "[" =>
    advance
    let e ← g.innerAssignment
    expectMark "]"
    match e with
    | .string literal => return .string literal
    | e => return .other e.span
  | _ => fail

def staticBlock (start : Nat) : Reader ClassMember := do
  expectWord "static"
  let _ ← g.functionBody false false
  return .other (← spanFrom start)

-- A method behind its key, without a block only where types are written.
def method (start : Nat) (key : MethodKey) (async generator : Bool) : Reader ClassMember := do
  let valueStart ← Reader.start
  let body ← g.functionTail async generator
  let valueSpan ← spanFrom valueStart
  return .method (← spanFrom start) key (.mk valueSpan none body)

def field (start : Nat) : Reader ClassMember := do
  g.typeAnnotation
  if ← eatMark "=" then
    let inside := fun (c : Context) => { c with inAsync := false, inGenerator := false, inFunction := true }
    let _ ← within inside g.innerAssignment
  semicolon
  return .other (← spanFrom start)

-- A member of a class, which starts at its decorators if it has any.
def member : Reader ClassMember := do
  let start ← start
  let _ ← g.decorators
  let second ← peekSecond
  if (← atWord "static") && second.token == .mark "\x7b" then
    g.staticBlock start
  else
    let modifiers ← memberModifiers
    let index ← if (← typescript) && (← atMark "[") then
        attempt do
          g.indexSignature
          semicolon
      else
        pure none
    if index.isSome then
      return .other (← spanFrom start)
    else
      let generator ← eatMark "*"
      let key ← g.memberKey
      if ← typescript then
        unless ← eatMark "?" do
          if !(← atNewline) then
            let _ ← eatMark "!"
      if (← atMark "(") || ((← typescript) && (← atLess)) then
        g.method start key (modifiers.contains "async") generator
      else
        g.field start

def classBody : Reader (List ClassMember) := do
  expectMark "\x7b"
  let members ← many do
    if ← eatMark ";" then
      return some none
    else if ← atMark "\x7d" then
      return none
    else
      return some (some (← g.member))
  expectMark "\x7d"
  return members.filterMap id

def superClass : Reader (Option Expr) := do
  if ← eatWord "extends" then
    let e ← g.chain ⟨true, false⟩
    if (← typescript) && (← atLess) then
      let _ ← g.typeArguments
    return some e
  else
    return none

def anyClassTail (start : Nat) : Reader Class := do
  expectWord "class"
  let id ← if (← atIdentifier) && !(← atWord "implements") then some <$> identifier else pure none
  g.optionalTypeParameters
  let parent ← g.superClass
  if (← typescript) && (← eatWord "implements") then
    let _ ← separated "," g.innerType
  let bodyStart ← Reader.start
  let members ← g.classBody
  let bodySpan ← spanFrom bodyStart
  return .mk (← spanFrom start) id parent bodySpan members

end MarkerLint.Script.Grammar
