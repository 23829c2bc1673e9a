import MarkerLint.Outline.Kind

namespace MarkerLint.Outline

-- The edges to follow for each kind, in order. An edge that is listed twice is followed twice.
structure Schema where
  edges : Kind → List Edge

namespace Schema

def empty : Schema :=
  ⟨fun _ => []⟩

def set (s : Schema) (k : Kind) (es : List Edge) : Schema :=
  ⟨fun k' => if k' = k then es else s.edges k'⟩

def sourceOrder : Kind → List Edge
  | .program => [.body]
  | .exportNamedDeclaration => [.declaration, .specifiers, .source]
  | .exportDefaultDeclaration => [.declaration]
  | .exportSpecifier => [.localName, .exported]
  | .variableDeclaration => [.declarations]
  | .variableDeclarator => [.id, .init]
  | .functionDeclaration | .functionExpression => [.id, .body]
  | .arrowFunctionExpression => [.body]
  | .classDeclaration | .classExpression => [.id, .superClass, .body]
  | .classBody => [.body]
  | .methodDefinition => [.key, .value]
  | .functionBody => [.body]
  | .blockStatement => [.body]
  | .returnStatement => [.argument]
  | .expressionStatement => [.expression]
  | .ifStatement => [.test, .consequent, .alternate]
  | .callExpression => [.callee, .arguments]
  | .memberExpression => [.object, .property]
  | .assignmentExpression => [.left, .right]
  | .conditionalExpression => [.test, .consequent, .alternate]
  | .logicalExpression => [.left, .right]
  | .sequenceExpression => [.expressions]
  | .arrayExpression => [.elements]
  | .jsxElement => [.openingElement, .children]
  | .jsxOpeningElement => [.name, .typeArguments, .attributes]
  | .jsxFragment => [.children]
  | .jsxAttribute => [.value]
  | .jsxSpreadAttribute => [.argument]
  | .jsxExpressionContainer => [.expression]
  | .jsxElementName | .jsxText | .typeArguments | .identifier | .literal | .other => []

instance : Inhabited Schema :=
  ⟨⟨sourceOrder⟩⟩

end Schema
end MarkerLint.Outline
