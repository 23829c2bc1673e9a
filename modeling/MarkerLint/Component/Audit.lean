import MarkerLint.Component.Candidate
import MarkerLint.Outline.Search

-- The audit of what a component renders. The markup is searched breadth-first. Fragments and marked elements close
-- what is below them, excluded elements are looked through, and the first element left on the component's own top
-- level lacks the marker. Markup behind a nested function is the component's own only if that function is a child
-- that renders: `<Chart>{(size) => <Inner />}</Chart>`.

namespace MarkerLint

open Outline

-- `<>…</>`, or a `Fragment` without attributes.
def isFragment (node : Node) : Bool :=
  match node.kind with
  | .jsxFragment => true
  | .jsxElement =>
    let name := node.name.getD ""
    (name == "Fragment" || name == "React.Fragment" || name.endsWith ".Fragment") &&
      match node.child? .openingElement with
      | some opening => (opening.children .attributes).isEmpty
      | none => false
  | _ => false

def hasAttribute (node : Node) (name : String) : Bool :=
  match node.child? .openingElement with
  | some opening => (opening.children .attributes).any fun a => a.kind = .jsxAttribute && a.name = some name
  | none => false

-- The function is all there is in braces that are a child of markup.
def standsAsChild (function : Entry) (parent : Option Entry) : Bool :=
  function.edge = some .expression &&
    match parent with
    | some container => container.node.kind = .jsxExpressionContainer && container.edge = some .children
    | none => false

-- The way down from a function leads to what it returns: its body is markup, or its block returns markup in one of
-- its own statements.
def leadsToResult : List Entry → Bool
  | [] => false
  | body :: below =>
    body.edge = some .body &&
      if body.node.kind = .functionBody then
        match below with
        | statement :: result :: _ =>
          statement.edge = some .body && statement.node.kind = .returnStatement &&
            result.edge = some .argument && result.node.kind.isMarkup
        | _ => false
      else
        body.node.kind.isMarkup

def isRenderProp (function : Entry) (parent : Option Entry) (below : List Entry) : Bool :=
  standsAsChild function parent && leadsToResult below

def pathOfChain (chain : List Entry) : NodePath :=
  chain.filterMap Entry.via

-- Whether markup is on the component's own top level, going up the ancestors `above` with what was passed already
-- in `below`. Every function on the way must be a child that renders, and the nearest markup above must be on the
-- top level itself.
def isOwn (foreign : List NodePath) (below : List Entry) : List Entry → Bool
  | [] => true
  | ancestor :: above =>
    if ancestor.node.kind.isMarkup then
      !foreign.contains (pathOfChain (ancestor :: above))
    else if ancestor.node.kind.isFunction && !isRenderProp ancestor above.head? below then
      false
    else
      isOwn foreign (ancestor :: below) above

structure Violation where
  component : String
  target : Place
  insertionPoint : Nat
  fixText : String

namespace Violation

def openingSpan (v : Violation) : Span :=
  match v.target.node.child? .openingElement with
  | some opening => opening.span
  | none => v.target.node.span

end Violation

inductive Outcome where
  | compliant
  | excluded
  | violation (v : Violation)

structure Findings where
  target : Option Place := none
  excluded : Bool := false
  satisfied : Bool := false
  -- Markup off the top level; nothing below it is on the top level either.
  foreign : List NodePath := []

def auditVisit (policy : Policy) (base : NodePath) (found : Findings) (visit : Visit) : Walk × Findings :=
  let node := visit.node
  if !node.kind.isMarkup then
    (.descend, found)
  else if isFragment node then
    (.skip, found)
  else
    let own := isOwn found.foreign [visit.entry.toEntry] visit.ancestors
    let found := if own then found else { found with foreign := visit.path :: found.foreign }
    if hasAttribute node policy.marker then
      (.skip, { found with satisfied := found.satisfied || own })
    else if node.name.any policy.isExcluded then
      (.descend, { found with excluded := true })
    else if !own then
      (.descend, found)
    else if found.satisfied then
      (.stop, found)
    else
      (.stop, { found with target := some ⟨visit.path ++ base, node⟩ })

-- The marker goes behind the type arguments of the opening tag, or else behind its name.
def markerOffset (target : Node) : Nat :=
  let anchor? := do
    let opening ← target.child? .openingElement
    opening.child? .typeArguments <|> opening.child? .name
  match anchor? with
  | some anchor => anchor.span.stop
  | none => target.span.start

def Violation.of (policy : Policy) (component : String) (target : Place) : Violation where
  component := component
  target := target
  insertionPoint := markerOffset target.node
  fixText := s!" {policy.marker}=\"{component}\""

def findings (policy : Policy) (schema : Schema) (render : Place) : Findings :=
  search schema (auditVisit policy render.path) (some render.node) {}

-- Audits a candidate. One without a name complies: there is nothing to write into the marker.
def audit (policy : Policy) (schema : Schema) (candidate : Candidate) : Outcome :=
  match candidate.name with
  | none => .compliant
  | some component =>
    let found := findings policy schema candidate.render
    match found.target with
    | some target => .violation (.of policy component target)
    | none => if found.excluded && !found.satisfied then .excluded else .compliant

end MarkerLint
