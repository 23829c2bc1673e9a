import MarkerLint.Script.Reader

-- The phrases of the grammar that contain each other. Every other phrase is read by a function that takes a grammar
-- and asks it for these; `Grammar.level` ties them together.

namespace MarkerLint.Script

structure Grammar where
  statement : Reader Stmt
  -- An expression without commas. Without `returnType`, an arrow function has no type unless a colon follows.
  assignment : (returnType : Bool) → Reader Expr
  binary : (strength : Nat) → Reader Expr
  unary : Reader Expr
  constructed : Reader Expr
  type : Reader Unit
  binding : Reader Binding
  parameters : Reader Unit
  markup : Reader Markup
  classTail : (start : Nat) → Reader Class

namespace Grammar

def empty : Grammar where
  statement := Reader.fail
  assignment _ := Reader.fail
  binary _ := Reader.fail
  unary := Reader.fail
  constructed := Reader.fail
  type := Reader.fail
  binding := Reader.fail
  parameters := Reader.fail
  markup := Reader.fail
  classTail _ := Reader.fail

variable (g : Grammar)

open Reader

def expression : Reader Expr := do
  let start ← start
  let items ← separated "," (g.assignment true)
  match items with
  | [e] => return e
  | items => return .sequence (← spanFrom start) items

-- An expression in which `in` is an operator again.
def innerExpression : Reader Expr :=
  within (fun c => { c with allowIn := true }) g.expression

def innerAssignment : Reader Expr :=
  within (fun c => { c with allowIn := true }) (g.assignment true)

def innerType : Reader Unit :=
  within (fun c => { c with allowConditionalType := true }) g.type

def typeAnnotation : Reader Unit := do
  if (← typescript) && (← atMark ":") then
    advance
    g.innerType

def statementsToBrace : Reader (List Stmt) := do
  let statements ← many do
    if (← atMark "\x7d") || (← peek) == .eof then
      return none
    else
      return some (← g.statement)
  expectMark "\x7d"
  return statements

def isDirective : Stmt → Bool
  | .expression _ (.string _) => true
  | _ => false

def dropDirectives (statements : List Stmt) : List Stmt :=
  statements.dropWhile isDirective

def functionBody (async generator : Bool) : Reader Body := do
  let start ← start
  expectMark "\x7b"
  let inside := fun (c : Context) =>
    { c with allowIn := true, inAsync := async, inGenerator := generator, inFunction := true, ambient := false }
  let statements ← within inside g.statementsToBrace
  return .mk (← spanFrom start) (dropDirectives statements)

end Grammar
end MarkerLint.Script
