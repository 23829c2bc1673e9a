import MarkerLint.Policy
import MarkerLint.Outline.Place

-- Component candidates: the declarations at the top level of a module that return markup. Only the body of the
-- declaration itself counts, never a function nested in it.

namespace MarkerLint

open Outline

inductive Form where
  | binding
  | functionDeclaration
  | renderClass
  | refForwarding
  | assignment
  deriving DecidableEq, Inhabited, Repr

structure Candidate where
  name : Option String
  form : Form
  declaration : Place
  exported : Bool
  render : Place

inductive TopLevel where
  | components (candidates : List Candidate)
  -- Names that an export list, or a default export of a name, makes public.
  | exports (names : List String)
  | other

-- The markup a function returns: its body, or what the first `return` of its block hands back.
def functionRender? (function : Place) : Option Place := do
  let body ← function.child? .body
  let result ←
    if body.node.kind = .functionBody then do
      let statement ← (body.children .body).find? (·.node.kind = .returnStatement)
      statement.child? .argument
    else
      pure body
  if result.node.kind.isMarkup then some result else none

def classRender? (cls : Place) : Option Place := do
  let body ← cls.child? .body
  let method ← (body.children .body).find? fun m =>
    m.node.kind = .methodDefinition && m.node.name = some "render"
  let value ← method.child? .value
  functionRender? value

namespace Policy

-- A call of a wrapper, perhaps as a member of something, with exactly one argument.
def isWrapperCall (policy : Policy) (call : Node) : Bool :=
  call.kind = .callExpression && (call.children .arguments).length = 1 &&
    match call.child? .callee with
    | none => false
    | some callee =>
      let name :=
        match callee.kind with
        | .identifier => callee.name
        | .memberExpression => callee.identifier? .property
        | _ => none
      name.any policy.isWrapper

def wrappedFunction? (policy : Policy) (call : Place) : Option Place :=
  if policy.isWrapperCall call.node then
    match call.children .arguments with
    | [argument] =>
      match argument.node.kind with
      | .arrowFunctionExpression | .functionExpression => some argument
      | _ => none
    | _ => none
  else
    none

end Policy

structure RenderingValue where
  form : Form
  render : Place
  innerName : Option String

def renderingValue? (policy : Policy) (value : Place) : Option RenderingValue :=
  match value.node.kind with
  | .arrowFunctionExpression | .functionExpression => do
    let render ← functionRender? value
    pure ⟨.binding, render, value.node.identifier? .id⟩
  | .classExpression => do
    let render ← classRender? value
    pure ⟨.renderClass, render, value.node.identifier? .id⟩
  | .callExpression => do
    let wrapped ← policy.wrappedFunction? value
    let render ← functionRender? wrapped
    pure ⟨.refForwarding, render, wrapped.node.identifier? .id⟩
  | _ => none

def declaratorCandidate? (policy : Policy) (exported : Bool) (declarator : Place) : Option Candidate := do
  let name ← declarator.node.identifier? .id
  let init ← declarator.child? .init
  let value ← renderingValue? policy init
  pure ⟨name, value.form, declarator, exported, value.render⟩

-- An assignment to a name, or a wrapper call. A wrapped function without name counts only if exported.
def expressionCandidate? (policy : Policy) (exported : Bool) (expression : Place) : Option Candidate :=
  match expression.node.kind with
  | .assignmentExpression => do
    let name ← expression.node.identifier? .left
    let right ← expression.child? .right
    let value ← renderingValue? policy right
    pure ⟨name, .assignment, expression, exported, value.render⟩
  | .callExpression => do
    let wrapped ← policy.wrappedFunction? expression
    let name := wrapped.node.identifier? .id
    if name.isNone && !exported then
      none
    else
      let render ← functionRender? wrapped
      pure ⟨name, .refForwarding, expression, exported, render⟩
  | _ => none

def declarationCandidates (policy : Policy) (exported : Bool) (declaration : Place) : List Candidate :=
  match declaration.node.kind with
  | .variableDeclaration =>
    (declaration.children .declarations).filterMap (declaratorCandidate? policy exported)
  | .functionDeclaration =>
    ((functionRender? declaration).map fun render =>
      ⟨declaration.node.identifier? .id, .functionDeclaration, declaration, exported, render⟩).toList
  | .classDeclaration =>
    ((classRender? declaration).map fun render =>
      ⟨declaration.node.identifier? .id, .renderClass, declaration, exported, render⟩).toList
  | .expressionStatement =>
    ((declaration.child? .expression).bind (expressionCandidate? policy exported)).toList
  | _ => []

def defaultCandidates (policy : Policy) (declaration : Place) : List Candidate :=
  match declaration.node.kind with
  | .functionDeclaration | .classDeclaration => declarationCandidates policy true declaration
  | .assignmentExpression | .callExpression => (expressionCandidate? policy true declaration).toList
  | _ =>
    ((renderingValue? policy declaration).map fun value =>
      ⟨value.innerName, value.form, declaration, true, value.render⟩).toList

def TopLevel.ofCandidates : List Candidate → TopLevel
  | [] => .other
  | candidates => .components candidates

def TopLevel.ofStatement (policy : Policy) (statement : Place) : TopLevel :=
  match statement.node.kind with
  | .exportNamedDeclaration =>
    match statement.child? .declaration with
    | some declaration => .ofCandidates (declarationCandidates policy true declaration)
    | none =>
      -- A list with a source passes on the names of another module.
      if (statement.child? .source).isSome then
        .other
      else
        .exports ((statement.node.children .specifiers).filterMap (·.identifier? .localName))
  | .exportDefaultDeclaration =>
    match statement.child? .declaration with
    | none => .other
    | some declaration =>
      if declaration.node.kind = .identifier then
        .exports declaration.node.name.toList
      else
        .ofCandidates (defaultCandidates policy declaration)
  | _ => .ofCandidates (declarationCandidates policy false statement)

def TopLevel.candidates : TopLevel → List Candidate
  | components cs => cs
  | exports _ | other => []

def topLevelStatements (program : Node) : List Place :=
  (Place.root program).children .body

def candidates (policy : Policy) (program : Node) : List Candidate :=
  (topLevelStatements program).flatMap fun s => (TopLevel.ofStatement policy s).candidates

end MarkerLint
