import MarkerLint.Script.Syntax
import MarkerLint.Outline.Node

-- The outline of a module: the tree of what component analysis looks at. Parentheses and annotations of types
-- around an expression leave no trace, and what is not looked into becomes a leaf with its span.

namespace MarkerLint.Script

open Outline

def Ident.outline (id : Ident) : Node :=
  .named .identifier id.span id.name

def StringLiteral.outline (l : StringLiteral) : Node :=
  .named .literal l.span l.value

def Binding.outline : Binding → Node
  | ident id => id.outline
  | pattern span => .leaf .other span

def Target.outline : Target → Node
  | ident id => id.outline
  | other span => .leaf .other span

def ExportName.outline : ExportName → Node
  | ident id => id.outline
  | string l => l.outline

def Specifier.outline (s : Specifier) : Node :=
  .branch .exportSpecifier s.span [.one .localName s.localName.outline, .one .exported s.exported.outline]

def MethodKey.outline : MethodKey → Option String × List Link
  | ident id => (some id.name, [.one .key id.outline])
  | string l => (some l.value, [.one .key (.named .identifier l.span l.value)])
  | other _ => (none, [])

def linkIfAny (edge : Edge) : Option Node → List Link
  | none => []
  | some n => [.one edge n]

mutual

def Expr.outline : Expr → Node
  | .paren _ inner => inner.outline
  | .cast _ inner => inner.outline
  | .satisfies _ inner => inner.outline
  | .nonNull _ inner => inner.outline
  | .ident id => id.outline
  | .string l => l.outline
  | .number span => .leaf .literal span
  | .boolean span => .leaf .literal span
  | .null span => .leaf .literal span
  | .template span => .leaf .literal span
  | .arrow span result => .branch .arrowFunctionExpression span [.one .body result.outline]
  | .arrowBlock span body => .branch .arrowFunctionExpression span [.one .body body.outline]
  | .function f => f.outline .functionExpression
  | .classExpr c => c.outline .classExpression
  | .call span callee arguments =>
    .branch .callExpression span [.one .callee callee.outline, .many .arguments (Item.outlines arguments)]
  | .member span object property =>
    .branch .memberExpression span [.one .object object.outline, .one .property property.outline]
  | .index span object key =>
    .branch .memberExpression span [.one .object object.outline, .one .property key.outline]
  | .assign span target value =>
    .branch .assignmentExpression span [.one .left target.outline, .one .right value.outline]
  | .conditional span test consequent alternate =>
    .branch .conditionalExpression span [.one .test test.outline, .one .consequent consequent.outline,
      .one .alternate alternate.outline]
  | .logical span _ left right =>
    .branch .logicalExpression span [.one .left left.outline, .one .right right.outline]
  | .sequence span items => .branch .sequenceExpression span [.many .expressions (Expr.outlines items)]
  | .array span elements => .branch .arrayExpression span [.many .elements (Item.outlines elements)]
  | .markup m => m.outline
  | .other _ span => .leaf .other span

def Expr.outlines : List Expr → List Node
  | [] => []
  | e :: es => e.outline :: Expr.outlines es

def Expr.outline? : Option Expr → Option Node
  | none => none
  | some e => some e.outline

def Item.outline : Item → Node
  | .expr e => e.outline
  | .other span => .leaf .other span

def Item.outlines : List Item → List Node
  | [] => []
  | i :: is => i.outline :: Item.outlines is

def Body.outline : Body → Node
  | .mk span statements => .branch .functionBody span [.many .body (Stmt.outlines statements)]

def Body.outline? : Option Body → Option Node
  | none => none
  | some b => some b.outline

def Func.outline (kind : Kind) : Func → Node
  | .mk span id body =>
    .branch kind span (linkIfAny .id (id.map Ident.outline) ++ linkIfAny .body (Body.outline? body))

def Class.outline (kind : Kind) : Class → Node
  | .mk span id superClass bodySpan members =>
    .branch kind span (linkIfAny .id (id.map Ident.outline) ++ linkIfAny .superClass (Expr.outline? superClass) ++
      [.one .body (.branch .classBody bodySpan [.many .body (ClassMember.outlines members)])])

def ClassMember.outline : ClassMember → Node
  | .method span key value =>
    .mk .methodDefinition span key.outline.1 (key.outline.2 ++ [.one .value (value.outline .functionExpression)])
  | .other span => .leaf .other span

def ClassMember.outlines : List ClassMember → List Node
  | [] => []
  | m :: ms => m.outline :: ClassMember.outlines ms

def Markup.outline : Markup → Node
  | .element span openingSpan name nameSpan typeArguments attributes children =>
    .mk .jsxElement span (some name.text)
      [.one .openingElement (.branch .jsxOpeningElement openingSpan
          ([.one .name (.named .jsxElementName nameSpan name.text)] ++
            linkIfAny .typeArguments (typeArguments.map (.leaf .typeArguments)) ++
            [.many .attributes (Attribute.outlines attributes)])),
        .many .children (Child.outlines children)]
  | .fragment span children => .branch .jsxFragment span [.many .children (Child.outlines children)]

def Attribute.outline : Attribute → Node
  | .named span name value =>
    .mk .jsxAttribute span (some name.text) (linkIfAny .value (AttributeValue.outline? value))
  | .spread span argument => .branch .jsxSpreadAttribute span [.one .argument argument.outline]

def Attribute.outlines : List Attribute → List Node
  | [] => []
  | a :: as => a.outline :: Attribute.outlines as

def AttributeValue.outline : AttributeValue → Node
  | .string l => l.outline
  | .container span content =>
    .branch .jsxExpressionContainer span (linkIfAny .expression (Expr.outline? content))
  | .markup m => m.outline

def AttributeValue.outline? : Option AttributeValue → Option Node
  | none => none
  | some v => some v.outline

def Child.outline : Child → Node
  | .text span => .leaf .jsxText span
  | .markup m => m.outline
  | .container span content =>
    .branch .jsxExpressionContainer span (linkIfAny .expression (Expr.outline? content))
  | .spread span content => .branch .jsxExpressionContainer span [.one .expression content.outline]

def Child.outlines : List Child → List Node
  | [] => []
  | c :: cs => c.outline :: Child.outlines cs

def Stmt.outline : Stmt → Node
  | .declaration d => d.outline
  | .expression span e => .branch .expressionStatement span [.one .expression e.outline]
  | .returning span argument =>
    .branch .returnStatement span (linkIfAny .argument (Expr.outline? argument))
  | .block span statements => .branch .blockStatement span [.many .body (Stmt.outlines statements)]
  | .conditional span test consequent alternate =>
    .branch .ifStatement span ([.one .test test.outline, .one .consequent consequent.outline] ++
      linkIfAny .alternate (Stmt.outline? alternate))
  | .exportNamed span typeOnly declaration specifiers source =>
    -- Types are no values, so a list exports none of them.
    .branch .exportNamedDeclaration span
      (linkIfAny .declaration (Declaration.outline? declaration) ++
        [.many .specifiers ((specifiers.filter fun s => !typeOnly && !s.typeOnly).map Specifier.outline)] ++
        linkIfAny .source (source.map StringLiteral.outline))
  | .exportDefault span value => .branch .exportDefaultDeclaration span [.one .declaration value.outline]
  | .other span => .leaf .other span

def Stmt.outlines : List Stmt → List Node
  | [] => []
  | s :: ss => s.outline :: Stmt.outlines ss

def Stmt.outline? : Option Stmt → Option Node
  | none => none
  | some s => some s.outline

def Declaration.outline : Declaration → Node
  | .variables span declarators =>
    .branch .variableDeclaration span [.many .declarations (Declarator.outlines declarators)]
  | .function f => f.outline .functionDeclaration
  | .classDecl c => c.outline .classDeclaration
  | .other span => .leaf .other span

def Declaration.outline? : Option Declaration → Option Node
  | none => none
  | some d => some d.outline

def Declarator.outline : Declarator → Node
  | .mk span binding init =>
    .branch .variableDeclarator span ([.one .id binding.outline] ++ linkIfAny .init (Expr.outline? init))

def Declarator.outlines : List Declarator → List Node
  | [] => []
  | d :: ds => d.outline :: Declarator.outlines ds

def DefaultExport.outline : DefaultExport → Node
  | .function f => f.outline .functionDeclaration
  | .classDecl c => c.outline .classDeclaration
  | .expr e => e.outline
  | .other span => .leaf .other span

end

def Program.outline (p : Program) : Node :=
  .branch .program p.span [.many .body (Stmt.outlines p.statements)]

end MarkerLint.Script
