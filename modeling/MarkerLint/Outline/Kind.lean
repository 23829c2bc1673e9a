
namespace MarkerLint.Outline

-- What a node stands for. `other` is every construct that component analysis does not look into.
inductive Kind where
  | program
  | exportNamedDeclaration
  | exportDefaultDeclaration
  | exportSpecifier
  | variableDeclaration
  | variableDeclarator
  | functionDeclaration
  | classDeclaration
  | classBody
  | methodDefinition
  | functionBody
  | blockStatement
  | returnStatement
  | expressionStatement
  | ifStatement
  | functionExpression
  | arrowFunctionExpression
  | classExpression
  | callExpression
  | memberExpression
  | assignmentExpression
  | conditionalExpression
  | logicalExpression
  | sequenceExpression
  | arrayExpression
  | identifier
  | literal
  | jsxElement
  | jsxOpeningElement
  | jsxElementName
  | jsxFragment
  | jsxAttribute
  | jsxSpreadAttribute
  | jsxExpressionContainer
  | jsxText
  | typeArguments
  | other
  deriving DecidableEq, Inhabited, Repr

namespace Kind

-- The kinds in their order of declaration, which numbers them from zero.
def all : List Kind :=
  [program, exportNamedDeclaration, exportDefaultDeclaration, exportSpecifier, variableDeclaration,
    variableDeclarator, functionDeclaration, classDeclaration, classBody, methodDefinition, functionBody,
    blockStatement, returnStatement, expressionStatement, ifStatement, functionExpression,
    arrowFunctionExpression, classExpression, callExpression, memberExpression, assignmentExpression,
    conditionalExpression, logicalExpression, sequenceExpression, arrayExpression, identifier, literal,
    jsxElement, jsxOpeningElement, jsxElementName, jsxFragment, jsxAttribute, jsxSpreadAttribute,
    jsxExpressionContainer, jsxText, typeArguments, other]

def number (k : Kind) : Nat :=
  all.idxOf k

def isMarkup : Kind → Bool
  | jsxElement | jsxFragment => true
  | _ => false

def isFunction : Kind → Bool
  | functionDeclaration | functionExpression | arrowFunctionExpression => true
  | _ => false

def label : Kind → String
  | program => "Program"
  | exportNamedDeclaration => "ExportNamedDeclaration"
  | exportDefaultDeclaration => "ExportDefaultDeclaration"
  | exportSpecifier => "ExportSpecifier"
  | variableDeclaration => "VariableDeclaration"
  | variableDeclarator => "VariableDeclarator"
  | functionDeclaration => "FunctionDeclaration"
  | classDeclaration => "ClassDeclaration"
  | classBody => "ClassBody"
  | methodDefinition => "MethodDefinition"
  | functionBody => "FunctionBody"
  | blockStatement => "BlockStatement"
  | returnStatement => "ReturnStatement"
  | expressionStatement => "ExpressionStatement"
  | ifStatement => "IfStatement"
  | functionExpression => "FunctionExpression"
  | arrowFunctionExpression => "ArrowFunctionExpression"
  | classExpression => "ClassExpression"
  | callExpression => "CallExpression"
  | memberExpression => "MemberExpression"
  | assignmentExpression => "AssignmentExpression"
  | conditionalExpression => "ConditionalExpression"
  | logicalExpression => "LogicalExpression"
  | sequenceExpression => "SequenceExpression"
  | arrayExpression => "ArrayExpression"
  | identifier => "Identifier"
  | literal => "Literal"
  | jsxElement => "JsxElement"
  | jsxOpeningElement => "JsxOpeningElement"
  | jsxElementName => "JsxElementName"
  | jsxFragment => "JsxFragment"
  | jsxAttribute => "JsxAttribute"
  | jsxSpreadAttribute => "JsxSpreadAttribute"
  | jsxExpressionContainer => "JsxExpressionContainer"
  | jsxText => "JsxText"
  | typeArguments => "TypeArguments"
  | other => "Other"

def ofLabel? (s : String) : Option Kind :=
  all.find? (·.label == s)

end Kind

inductive Edge where
  | alternate
  | argument
  | arguments
  | attributes
  | body
  | callee
  | children
  | consequent
  | declaration
  | declarations
  | elements
  | expression
  | expressions
  | exported
  | id
  | init
  | key
  | left
  | localName
  | name
  | object
  | openingElement
  | property
  | right
  | source
  | specifiers
  | superClass
  | test
  | typeArguments
  | value
  deriving DecidableEq, Inhabited, Repr

namespace Edge

def all : List Edge :=
  [alternate, argument, arguments, attributes, body, callee, children, consequent, declaration, declarations,
    elements, expression, expressions, exported, id, init, key, left, localName, name, object, openingElement,
    property, right, source, specifiers, superClass, test, typeArguments, value]

def label : Edge → String
  | alternate => "Alternate"
  | argument => "Argument"
  | arguments => "Arguments"
  | attributes => "Attributes"
  | body => "Body"
  | callee => "Callee"
  | children => "Children"
  | consequent => "Consequent"
  | declaration => "Declaration"
  | declarations => "Declarations"
  | elements => "Elements"
  | expression => "Expression"
  | expressions => "Expressions"
  | exported => "Exported"
  | id => "Id"
  | init => "Init"
  | key => "Key"
  | left => "Left"
  | localName => "Local"
  | name => "Name"
  | object => "Object"
  | openingElement => "OpeningElement"
  | property => "Property"
  | right => "Right"
  | source => "Source"
  | specifiers => "Specifiers"
  | superClass => "SuperClass"
  | test => "Test"
  | typeArguments => "TypeArguments"
  | value => "Value"

def ofLabel? (s : String) : Option Edge :=
  all.find? (·.label == s)

end Edge
end MarkerLint.Outline
