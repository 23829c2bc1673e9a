import MarkerLint.Text.Span

-- The syntax of JavaScript and TypeScript modules as far as components show in it. Everything else is kept only
-- with its span and a word on what it is.

namespace MarkerLint.Script

structure Ident where
  name : String
  span : Span
  deriving DecidableEq, Inhabited, Repr

structure StringLiteral where
  value : String
  span : Span
  deriving DecidableEq, Inhabited, Repr

inductive TagName where
  | plain (name : String)
  | namespaced (space name : String)
  | member (object : TagName) (property : String)
  deriving DecidableEq, Inhabited, Repr

def TagName.text : TagName → String
  | plain name => name
  | namespaced space name => space ++ ":" ++ name
  | member object property => object.text ++ "." ++ property

inductive AttributeName where
  | plain (name : String)
  | namespaced (space name : String)
  deriving DecidableEq, Inhabited, Repr

def AttributeName.text : AttributeName → String
  | plain name => name
  | namespaced space name => space ++ ":" ++ name

inductive Binding where
  | ident (id : Ident)
  | pattern (span : Span)
  deriving DecidableEq, Inhabited, Repr

inductive Target where
  | ident (id : Ident)
  | other (span : Span)
  deriving DecidableEq, Inhabited, Repr

inductive MethodKey where
  | ident (id : Ident)
  | string (literal : StringLiteral)
  | other (span : Span)
  deriving DecidableEq, Inhabited, Repr

inductive ExportName where
  | ident (id : Ident)
  | string (literal : StringLiteral)
  deriving DecidableEq, Inhabited, Repr

structure Specifier where
  span : Span
  typeOnly : Bool
  localName : ExportName
  exported : ExportName
  deriving DecidableEq, Inhabited, Repr

inductive LogicalOp where
  | and
  | or
  | coalesce
  deriving DecidableEq, Inhabited, Repr

inductive OtherExpr where
  | this
  | super
  | object
  | regex
  | bigint
  | unary
  | update
  | binary
  | await
  | yield
  | construct
  | importCall
  | metaProperty
  | taggedTemplate
  | optionalChain
  | privateMember
  | privateName
  | typeAssertion
  | instantiation
  deriving DecidableEq, Inhabited, Repr

mutual

inductive Expr where
  | paren (span : Span) (inner : Expr)
  | cast (span : Span) (inner : Expr)
  | satisfies (span : Span) (inner : Expr)
  | nonNull (span : Span) (inner : Expr)
  | ident (id : Ident)
  | string (literal : StringLiteral)
  | number (span : Span)
  | boolean (span : Span)
  | null (span : Span)
  | template (span : Span)
  | arrow (span : Span) (result : Expr)
  | arrowBlock (span : Span) (body : Body)
  | function (f : Func)
  | classExpr (c : Class)
  | call (span : Span) (callee : Expr) (arguments : List Item)
  | member (span : Span) (object : Expr) (property : Ident)
  | index (span : Span) (object key : Expr)
  | assign (span : Span) (target : Target) (value : Expr)
  | conditional (span : Span) (test consequent alternate : Expr)
  | logical (span : Span) (op : LogicalOp) (left right : Expr)
  | sequence (span : Span) (items : List Expr)
  | array (span : Span) (elements : List Item)
  | markup (m : Markup)
  | other (what : OtherExpr) (span : Span)

-- An argument of a call or an element of an array. A spread or a hole is not looked into.
inductive Item where
  | expr (e : Expr)
  | other (span : Span)

inductive Body where
  | mk (span : Span) (statements : List Stmt)

inductive Func where
  | mk (span : Span) (id : Option Ident) (body : Option Body)

inductive Class where
  | mk (span : Span) (id : Option Ident) (superClass : Option Expr) (bodySpan : Span) (members : List ClassMember)

inductive ClassMember where
  | method (span : Span) (key : MethodKey) (value : Func)
  | other (span : Span)

inductive Markup where
  | element (span openingSpan : Span) (name : TagName) (nameSpan : Span) (typeArguments : Option Span)
      (attributes : List Attribute) (children : List Child)
  | fragment (span : Span) (children : List Child)

inductive Attribute where
  | named (span : Span) (name : AttributeName) (value : Option AttributeValue)
  | spread (span : Span) (argument : Expr)

inductive AttributeValue where
  | string (literal : StringLiteral)
  | container (span : Span) (content : Option Expr)
  | markup (m : Markup)

inductive Child where
  | text (span : Span)
  | markup (m : Markup)
  | container (span : Span) (content : Option Expr)
  | spread (span : Span) (content : Expr)

inductive Stmt where
  | declaration (d : Declaration)
  | expression (span : Span) (e : Expr)
  | returning (span : Span) (argument : Option Expr)
  | block (span : Span) (statements : List Stmt)
  | conditional (span : Span) (test : Expr) (consequent : Stmt) (alternate : Option Stmt)
  | exportNamed (span : Span) (typeOnly : Bool) (declaration : Option Declaration)
      (specifiers : List Specifier) (source : Option StringLiteral)
  | exportDefault (span : Span) (value : DefaultExport)
  | other (span : Span)

inductive Declaration where
  | variables (span : Span) (declarators : List Declarator)
  | function (f : Func)
  | classDecl (c : Class)
  | other (span : Span)

inductive Declarator where
  | mk (span : Span) (binding : Binding) (init : Option Expr)

inductive DefaultExport where
  | function (f : Func)
  | classDecl (c : Class)
  | expr (e : Expr)
  | other (span : Span)

end

structure Program where
  span : Span
  statements : List Stmt

instance : Inhabited Expr :=
  ⟨.other .this {}⟩

instance : Inhabited Stmt :=
  ⟨.other {}⟩

def Func.span : Func → Span
  | .mk span _ _ => span

def Class.span : Class → Span
  | .mk span _ _ _ _ => span

def Markup.span : Markup → Span
  | .element span .. => span
  | .fragment span _ => span

def Expr.span : Expr → Span
  | paren s _ | cast s _ | satisfies s _ | nonNull s _ => s
  | ident id => id.span
  | string l => l.span
  | number s | boolean s | null s | template s => s
  | arrow s _ | arrowBlock s _ => s
  | function f => f.span
  | classExpr c => c.span
  | call s _ _ | member s _ _ | index s _ _ | assign s _ _ => s
  | conditional s _ _ _ | logical s _ _ _ => s
  | sequence s _ | array s _ => s
  | markup m => m.span
  | other _ s => s

end MarkerLint.Script
