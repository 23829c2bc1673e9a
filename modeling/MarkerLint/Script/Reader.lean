import MarkerLint.Script.Language
import MarkerLint.Script.Syntax
import MarkerLint.Script.Token

-- Readers of phrases. A reader looks at the next token, takes tokens off, and gives what it read, or fails. It runs
-- in a context that tells what is allowed where it stands.

namespace MarkerLint.Script

structure Context where
  language : Language
  allowIn : Bool := true
  inAsync : Bool := true
  inGenerator : Bool := false
  inFunction : Bool := false
  -- Declarations only describe what is defined elsewhere.
  ambient : Bool := false
  -- A type may go on with `extends`.
  allowConditionalType : Bool := true
  deriving Inhabited

structure SyntaxError where
  offset : Nat
  deriving DecidableEq, Inhabited, Repr

structure State where
  size : Nat
  behind : Cursor
  next : Lexeme
  -- Something was wrong that did not keep the script from being read.
  recovered : Bool := false
  deriving Inhabited

def State.remaining (s : State) : Nat :=
  s.size - s.behind.offset

abbrev Reader := ReaderT Context (StateT State (Except SyntaxError))

namespace Reader

variable {α β : Type}

def peek : Reader Token := do
  return (← get).next.token

def lexeme : Reader Lexeme := do
  return (← get).next

def fail : Reader α := do
  throw ⟨(← get).next.span.start⟩

def moveTo (cursor : Cursor) : Reader Unit :=
  modify fun s => { s with behind := cursor, next := cursor.next }

def advance : Reader Unit := do
  moveTo (← get).next.behind

def recover : Reader Unit :=
  modify fun s => { s with recovered := true }

def start : Reader Nat := do
  return (← get).next.span.start

def spanFrom (start : Nat) : Reader Span := do
  return ⟨start, (← get).behind.offset⟩

def atNewline : Reader Bool := do
  return (← get).next.newlineBefore

def atMark (mark : String) : Reader Bool := do
  return (← peek) == .mark mark

def atAnyMark (marks : List String) : Reader Bool := do
  match ← peek with
  | .mark m => return marks.contains m
  | _ => return false

def atWord (word : String) : Reader Bool := do
  return (← peek) == .name word

def atAnyWord (words : List String) : Reader Bool := do
  match ← peek with
  | .name w => return words.contains w
  | _ => return false

def eatMark (mark : String) : Reader Bool := do
  if ← atMark mark then
    advance
    return true
  else
    return false

def eatWord (word : String) : Reader Bool := do
  if ← atWord word then
    advance
    return true
  else
    return false

def expectMark (mark : String) : Reader Unit := do
  unless ← eatMark mark do fail

def expectWord (word : String) : Reader Unit := do
  unless ← eatWord word do fail

def typescript : Reader Bool := do
  return (← read).language.typescript

-- Reads a phrase if there is one, and otherwise leaves all as it was.
def attempt (p : Reader α) : Reader (Option α) := fun context state =>
  match p context state with
  | .ok (a, state) => .ok (some a, state)
  | .error _ => .ok (none, state)

def peekSecond : Reader Lexeme := do
  return (← get).next.behind.next

-- Repeats a step that passes on a value, until it gives none. A step must take something off.
def iterateFrom (step : α → Reader (Option α)) (context : Context) (state : State) (a : α) :
    Except SyntaxError (α × State) :=
  match step a context state with
  | .error e => .error e
  | .ok (none, state') => .ok (a, state')
  | .ok (some b, state') =>
    if state'.remaining < state.remaining then iterateFrom step context state' b
    else .error ⟨state.behind.offset⟩
termination_by state.remaining

def iterate (step : α → Reader (Option α)) (a : α) : Reader α := fun context state =>
  iterateFrom step context state a

def many (p : Reader (Option α)) : Reader (List α) := do
  let read ← iterate (fun (read : List α) => do
    match ← p with
    | some a => return some (a :: read)
    | none => return none) []
  return read.reverse

def commaList (closing : String) (p : Reader α) : Reader (List α) := do
  let items ← many do
    if ← atMark closing then
      return none
    else
      let a ← p
      unless ← eatMark "," do
        unless ← atMark closing do fail
      return some a
  expectMark closing
  return items

def separated (separator : String) (p : Reader α) : Reader (List α) := do
  let first ← p
  let others ← many do
    if ← eatMark separator then
      return some (← p)
    else
      return none
  return first :: others

-- A statement ends with a semicolon, or where a line, a block or the script ends.
def semicolon : Reader Unit := do
  unless ← eatMark ";" do
    let ended := (← atNewline) || (← atMark "\x7d") || (← peek) == .eof
    unless ended do fail

def within (change : Context → Context) (p : Reader α) : Reader α := fun context state =>
  p (change context) state

def reservedWords : List String :=
  [ "break", "case", "catch", "class", "const", "continue", "debugger", "default", "delete", "do", "else", "enum",
    "export", "extends", "false", "finally", "for", "function", "if", "import", "in", "instanceof", "new", "null",
    "return", "super", "switch", "this", "throw", "true", "try", "typeof", "var", "void", "while", "with" ]

def identifier : Reader Ident := do
  let l ← lexeme
  match l.token with
  | .name text =>
    if reservedWords.contains text then
      fail
    else
      advance
      return ⟨text, l.span⟩
  | .escapedName text =>
    advance
    return ⟨text, l.span⟩
  | _ => fail

def anyName : Reader Ident := do
  let l ← lexeme
  match l.token with
  | .name text | .escapedName text =>
    advance
    return ⟨text, l.span⟩
  | _ => fail

def atIdentifier : Reader Bool := do
  match ← peek with
  | .name text => return !reservedWords.contains text
  | .escapedName _ => return true
  | _ => return false

def stringLiteral : Reader StringLiteral := do
  let l ← lexeme
  match l.token with
  | .string value =>
    advance
    return ⟨value, l.span⟩
  | _ => fail

end Reader
end MarkerLint.Script
