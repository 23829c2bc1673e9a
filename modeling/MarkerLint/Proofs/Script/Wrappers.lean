import MarkerLint.Proofs.Script.Piece
import MarkerLint.Rule
import MarkerLint.Script.Outline

namespace MarkerLint.Script

open Outline

mutual

-- The expression without wrappers, around it or anywhere in it.
def Expr.bare : Expr → Expr
  | .paren _ inner | .cast _ inner | .satisfies _ inner | .nonNull _ inner => inner.bare
  | .ident id => .ident id
  | .string l => .string l
  | .number span => .number span
  | .boolean span => .boolean span
  | .null span => .null span
  | .template span => .template span
  | .arrow span result => .arrow span result.bare
  | .arrowBlock span body => .arrowBlock span body.bare
  | .function f => .function f.bare
  | .classExpr c => .classExpr c.bare
  | .call span callee arguments => .call span callee.bare (Item.bares arguments)
  | .member span object property => .member span object.bare property
  | .index span object key => .index span object.bare key.bare
  | .assign span target value => .assign span target value.bare
  | .conditional span test consequent alternate => .conditional span test.bare consequent.bare alternate.bare
  | .logical span op left right => .logical span op left.bare right.bare
  | .sequence span items => .sequence span (Expr.bares items)
  | .array span elements => .array span (Item.bares elements)
  | .markup m => .markup m.bare
  | .other what span => .other what span

def Expr.bares : List Expr → List Expr
  | [] => []
  | e :: es => e.bare :: Expr.bares es

def Expr.bare? : Option Expr → Option Expr
  | none => none
  | some e => some e.bare

def Item.bare : Item → Item
  | .expr e => .expr e.bare
  | .other span => .other span

def Item.bares : List Item → List Item
  | [] => []
  | i :: is => i.bare :: Item.bares is

def Body.bare : Body → Body
  | .mk span statements => .mk span (Stmt.bares statements)

def Body.bare? : Option Body → Option Body
  | none => none
  | some b => some b.bare

def Func.bare : Func → Func
  | .mk span id body => .mk span id (Body.bare? body)

def Class.bare : Class → Class
  | .mk span id superClass bodySpan members =>
    .mk span id (Expr.bare? superClass) bodySpan (ClassMember.bares members)

def ClassMember.bare : ClassMember → ClassMember
  | .method span key value => .method span key value.bare
  | .other span => .other span

def ClassMember.bares : List ClassMember → List ClassMember
  | [] => []
  | m :: ms => m.bare :: ClassMember.bares ms

def Markup.bare : Markup → Markup
  | .element span openingSpan name nameSpan typeArguments attributes children =>
    .element span openingSpan name nameSpan typeArguments (Attribute.bares attributes) (Child.bares children)
  | .fragment span children => .fragment span (Child.bares children)

def Attribute.bare : Attribute → Attribute
  | .named span name value => .named span name (AttributeValue.bare? value)
  | .spread span argument => .spread span argument.bare

def Attribute.bares : List Attribute → List Attribute
  | [] => []
  | a :: as => a.bare :: Attribute.bares as

def AttributeValue.bare : AttributeValue → AttributeValue
  | .string l => .string l
  | .container span content => .container span (Expr.bare? content)
  | .markup m => .markup m.bare

def AttributeValue.bare? : Option AttributeValue → Option AttributeValue
  | none => none
  | some v => some v.bare

def Child.bare : Child → Child
  | .text span => .text span
  | .markup m => .markup m.bare
  | .container span content => .container span (Expr.bare? content)
  | .spread span content => .spread span content.bare

def Child.bares : List Child → List Child
  | [] => []
  | c :: cs => c.bare :: Child.bares cs

def Stmt.bare : Stmt → Stmt
  | .declaration d => .declaration d.bare
  | .expression span e => .expression span e.bare
  | .returning span argument => .returning span (Expr.bare? argument)
  | .block span statements => .block span (Stmt.bares statements)
  | .conditional span test consequent alternate =>
    .conditional span test.bare consequent.bare (Stmt.bare? alternate)
  | .exportNamed span typeOnly declaration specifiers source =>
    .exportNamed span typeOnly (Declaration.bare? declaration) specifiers source
  | .exportDefault span value => .exportDefault span value.bare
  | .other span => .other span

def Stmt.bares : List Stmt → List Stmt
  | [] => []
  | s :: ss => s.bare :: Stmt.bares ss

def Stmt.bare? : Option Stmt → Option Stmt
  | none => none
  | some s => some s.bare

def Declaration.bare : Declaration → Declaration
  | .variables span declarators => .variables span (Declarator.bares declarators)
  | .function f => .function f.bare
  | .classDecl c => .classDecl c.bare
  | .other span => .other span

def Declaration.bare? : Option Declaration → Option Declaration
  | none => none
  | some d => some d.bare

def Declarator.bare : Declarator → Declarator
  | .mk span binding init => .mk span binding (Expr.bare? init)

def Declarator.bares : List Declarator → List Declarator
  | [] => []
  | d :: ds => d.bare :: Declarator.bares ds

def DefaultExport.bare : DefaultExport → DefaultExport
  | .function f => .function f.bare
  | .classDecl c => .classDecl c.bare
  | .expr e => .expr e.bare
  | .other span => .other span

end

-- A module without any wrapper around an expression.
def Program.bare (p : Program) : Program where
  span := p.span
  statements := Stmt.bares p.statements

mutual

theorem Expr.outline_bare : (e : Expr) → e.bare.outline = e.outline
  | .paren _ inner | .cast _ inner | .satisfies _ inner | .nonNull _ inner => inner.outline_bare
  | .ident _ | .string _ | .number _ | .boolean _ | .null _ | .template _ | .other .. => rfl
  | .arrow span result => by simp only [Expr.bare, Expr.outline, result.outline_bare]
  | .arrowBlock span body => by simp only [Expr.bare, Expr.outline, body.outline_bare]
  | .function f => f.outline_bare .functionExpression
  | .classExpr c => c.outline_bare .classExpression
  | .call span callee arguments => by
    simp only [Expr.bare, Expr.outline, callee.outline_bare, Item.outlines_bare arguments]
  | .member span object property => by simp only [Expr.bare, Expr.outline, object.outline_bare]
  | .index span object key => by simp only [Expr.bare, Expr.outline, object.outline_bare, key.outline_bare]
  | .assign span target value => by simp only [Expr.bare, Expr.outline, value.outline_bare]
  | .conditional span test consequent alternate => by
    simp only [Expr.bare, Expr.outline, test.outline_bare, consequent.outline_bare, alternate.outline_bare]
  | .logical span op left right => by simp only [Expr.bare, Expr.outline, left.outline_bare, right.outline_bare]
  | .sequence span items => by simp only [Expr.bare, Expr.outline, Expr.outlines_bare items]
  | .array span elements => by simp only [Expr.bare, Expr.outline, Item.outlines_bare elements]
  | .markup m => m.outline_bare

theorem Expr.outlines_bare : (es : List Expr) → Expr.outlines (Expr.bares es) = Expr.outlines es
  | [] => rfl
  | e :: es => by simp only [Expr.bares, Expr.outlines, e.outline_bare, Expr.outlines_bare es]

theorem Expr.outline?_bare : (o : Option Expr) → Expr.outline? (Expr.bare? o) = Expr.outline? o
  | none => rfl
  | some e => by simp only [Expr.bare?, Expr.outline?, e.outline_bare]

theorem Item.outline_bare : (i : Item) → i.bare.outline = i.outline
  | .expr e => e.outline_bare
  | .other _ => rfl

theorem Item.outlines_bare : (is : List Item) → Item.outlines (Item.bares is) = Item.outlines is
  | [] => rfl
  | i :: is => by simp only [Item.bares, Item.outlines, i.outline_bare, Item.outlines_bare is]

theorem Body.outline_bare : (b : Body) → b.bare.outline = b.outline
  | .mk span statements => by simp only [Body.bare, Body.outline, Stmt.outlines_bare statements]

theorem Body.outline?_bare : (o : Option Body) → Body.outline? (Body.bare? o) = Body.outline? o
  | none => rfl
  | some b => by simp only [Body.bare?, Body.outline?, b.outline_bare]

theorem Func.outline_bare (kind : Kind) : (f : Func) → f.bare.outline kind = f.outline kind
  | .mk span id body => by simp only [Func.bare, Func.outline, Body.outline?_bare body]

theorem Class.outline_bare (kind : Kind) : (c : Class) → c.bare.outline kind = c.outline kind
  | .mk span id superClass bodySpan members => by
    simp only [Class.bare, Class.outline, Expr.outline?_bare superClass, ClassMember.outlines_bare members]

theorem ClassMember.outline_bare : (m : ClassMember) → m.bare.outline = m.outline
  | .method span key value => by simp only [ClassMember.bare, ClassMember.outline, value.outline_bare]
  | .other _ => rfl

theorem ClassMember.outlines_bare :
    (ms : List ClassMember) → ClassMember.outlines (ClassMember.bares ms) = ClassMember.outlines ms
  | [] => rfl
  | m :: ms => by simp only [ClassMember.bares, ClassMember.outlines, m.outline_bare, ClassMember.outlines_bare ms]

theorem Markup.outline_bare : (m : Markup) → m.bare.outline = m.outline
  | .element span openingSpan name nameSpan typeArguments attributes children => by
    simp only [Markup.bare, Markup.outline, Attribute.outlines_bare attributes, Child.outlines_bare children]
  | .fragment span children => by simp only [Markup.bare, Markup.outline, Child.outlines_bare children]

theorem Attribute.outline_bare : (a : Attribute) → a.bare.outline = a.outline
  | .named span name value => by simp only [Attribute.bare, Attribute.outline, AttributeValue.outline?_bare value]
  | .spread span argument => by simp only [Attribute.bare, Attribute.outline, argument.outline_bare]

theorem Attribute.outlines_bare :
    (as : List Attribute) → Attribute.outlines (Attribute.bares as) = Attribute.outlines as
  | [] => rfl
  | a :: as => by simp only [Attribute.bares, Attribute.outlines, a.outline_bare, Attribute.outlines_bare as]

theorem AttributeValue.outline_bare : (v : AttributeValue) → v.bare.outline = v.outline
  | .string _ => rfl
  | .container span content => by simp only [AttributeValue.bare, AttributeValue.outline, Expr.outline?_bare content]
  | .markup m => m.outline_bare

theorem AttributeValue.outline?_bare :
    (o : Option AttributeValue) → AttributeValue.outline? (AttributeValue.bare? o) = AttributeValue.outline? o
  | none => rfl
  | some v => by simp only [AttributeValue.bare?, AttributeValue.outline?, v.outline_bare]

theorem Child.outline_bare : (c : Child) → c.bare.outline = c.outline
  | .text _ => rfl
  | .markup m => m.outline_bare
  | .container span content => by simp only [Child.bare, Child.outline, Expr.outline?_bare content]
  | .spread span content => by simp only [Child.bare, Child.outline, content.outline_bare]

theorem Child.outlines_bare : (cs : List Child) → Child.outlines (Child.bares cs) = Child.outlines cs
  | [] => rfl
  | c :: cs => by simp only [Child.bares, Child.outlines, c.outline_bare, Child.outlines_bare cs]

theorem Stmt.outline_bare : (s : Stmt) → s.bare.outline = s.outline
  | .declaration d => d.outline_bare
  | .expression span e => by simp only [Stmt.bare, Stmt.outline, e.outline_bare]
  | .returning span argument => by simp only [Stmt.bare, Stmt.outline, Expr.outline?_bare argument]
  | .block span statements => by simp only [Stmt.bare, Stmt.outline, Stmt.outlines_bare statements]
  | .conditional span test consequent alternate => by
    simp only [Stmt.bare, Stmt.outline, test.outline_bare, consequent.outline_bare, Stmt.outline?_bare alternate]
  | .exportNamed span typeOnly declaration specifiers source => by
    simp only [Stmt.bare, Stmt.outline, Declaration.outline?_bare declaration]
  | .exportDefault span value => by simp only [Stmt.bare, Stmt.outline, value.outline_bare]
  | .other _ => rfl

theorem Stmt.outlines_bare : (ss : List Stmt) → Stmt.outlines (Stmt.bares ss) = Stmt.outlines ss
  | [] => rfl
  | s :: ss => by simp only [Stmt.bares, Stmt.outlines, s.outline_bare, Stmt.outlines_bare ss]

theorem Stmt.outline?_bare : (o : Option Stmt) → Stmt.outline? (Stmt.bare? o) = Stmt.outline? o
  | none => rfl
  | some s => by simp only [Stmt.bare?, Stmt.outline?, s.outline_bare]

theorem Declaration.outline_bare : (d : Declaration) → d.bare.outline = d.outline
  | .variables span declarators => by
    simp only [Declaration.bare, Declaration.outline, Declarator.outlines_bare declarators]
  | .function f => f.outline_bare .functionDeclaration
  | .classDecl c => c.outline_bare .classDeclaration
  | .other _ => rfl

theorem Declaration.outline?_bare :
    (o : Option Declaration) → Declaration.outline? (Declaration.bare? o) = Declaration.outline? o
  | none => rfl
  | some d => by simp only [Declaration.bare?, Declaration.outline?, d.outline_bare]

theorem Declarator.outline_bare : (d : Declarator) → d.bare.outline = d.outline
  | .mk span binding init => by simp only [Declarator.bare, Declarator.outline, Expr.outline?_bare init]

theorem Declarator.outlines_bare :
    (ds : List Declarator) → Declarator.outlines (Declarator.bares ds) = Declarator.outlines ds
  | [] => rfl
  | d :: ds => by simp only [Declarator.bares, Declarator.outlines, d.outline_bare, Declarator.outlines_bare ds]

theorem DefaultExport.outline_bare : (x : DefaultExport) → x.bare.outline = x.outline
  | .function f => f.outline_bare .functionDeclaration
  | .classDecl c => c.outline_bare .classDeclaration
  | .expr e => e.outline_bare
  | .other _ => rfl

end

theorem Program.outline_bare (p : Program) : p.bare.outline = p.outline := by
  simp only [bare, outline, Stmt.outlines_bare p.statements]

mutual

-- The piece with what is wrapped in the place of the wrapper, everywhere.
@[simp]
def Piece.unwrap : Piece → Piece
  | .wrapper _ inner => inner.unwrap
  | .node span parts => .node span (Piece.unwrapParts parts)

@[simp]
def Piece.unwrapParts : List (List Piece) → List (List Piece)
  | [] => []
  | part :: parts => Piece.unwrapAll part :: Piece.unwrapParts parts

@[simp]
def Piece.unwrapAll : List Piece → List Piece
  | [] => []
  | p :: ps => p.unwrap :: Piece.unwrapAll ps

end

-- No piece of the module is a wrapper.
inductive Piece.Bare : Piece → Prop
  | node {span parts} : (∀ part ∈ parts, ∀ p ∈ part, Bare p) → Bare (.node span parts)

mutual

theorem Piece.bare_unwrap : (p : Piece) → p.unwrap.Bare
  | .wrapper _ inner => inner.bare_unwrap
  | .node _ parts => .node (Piece.bare_unwrapParts parts)

theorem Piece.bare_unwrapParts : (parts : List (List Piece)) → ∀ part ∈ Piece.unwrapParts parts, ∀ p ∈ part, p.Bare
  | [] => List.forall_mem_nil _
  | part :: parts => List.forall_mem_cons.mpr ⟨Piece.bare_unwrapAll part, Piece.bare_unwrapParts parts⟩

theorem Piece.bare_unwrapAll : (ps : List Piece) → ∀ p ∈ Piece.unwrapAll ps, p.Bare
  | [] => List.forall_mem_nil _
  | p :: ps => List.forall_mem_cons.mpr ⟨p.bare_unwrap, Piece.bare_unwrapAll ps⟩

end

-- What holds no expression holds no wrapper.
theorem Piece.unwrapAll_map {α : Type} {f : α → Piece} (h : ∀ a, (f a).unwrap = f a) (as : List α) :
    Piece.unwrapAll (as.map f) = as.map f := by
  induction as
  case nil => rfl
  case cons a as hi => rw [List.map_cons, unwrapAll, h, hi]

@[simp]
theorem Piece.unwrap_leaf (span : Span) : (leaf span).unwrap = leaf span :=
  rfl

@[simp]
theorem Ident.unwrap_piece (id : Ident) : id.piece.unwrap = id.piece :=
  rfl

@[simp]
theorem StringLiteral.unwrap_piece (l : StringLiteral) : l.piece.unwrap = l.piece :=
  rfl

@[simp]
theorem Binding.unwrap_piece (b : Binding) : b.piece.unwrap = b.piece := by
  cases b <;> rfl

@[simp]
theorem Target.unwrap_piece (t : Target) : t.piece.unwrap = t.piece := by
  cases t <;> rfl

@[simp]
theorem MethodKey.unwrap_piece (key : MethodKey) : key.piece.unwrap = key.piece := by
  cases key <;> rfl

@[simp]
theorem ExportName.unwrap_piece (n : ExportName) : n.piece.unwrap = n.piece := by
  cases n <;> rfl

@[simp]
theorem Specifier.unwrap_piece (s : Specifier) : s.piece.unwrap = s.piece := by
  simp [piece]

mutual

theorem Expr.piece_bare : (e : Expr) → e.bare.piece = e.piece.unwrap
  | .paren _ inner | .cast _ inner | .satisfies _ inner | .nonNull _ inner => inner.piece_bare
  | .ident _ | .string _ | .number _ | .boolean _ | .null _ | .template _ | .other .. => rfl
  | .arrow _ result => by simp [Expr.bare, Expr.piece, result.piece_bare]
  | .arrowBlock _ body => by simp [Expr.bare, Expr.piece, body.piece_bare]
  | .function f => f.piece_bare
  | .classExpr c => c.piece_bare
  | .call _ callee arguments => by simp [Expr.bare, Expr.piece, callee.piece_bare, Item.pieces_bare arguments]
  | .member _ object _ => by simp [Expr.bare, Expr.piece, object.piece_bare]
  | .index _ object key => by simp [Expr.bare, Expr.piece, object.piece_bare, key.piece_bare]
  | .assign _ _ value => by simp [Expr.bare, Expr.piece, value.piece_bare]
  | .conditional _ test consequent alternate => by
    simp [Expr.bare, Expr.piece, test.piece_bare, consequent.piece_bare, alternate.piece_bare]
  | .logical _ _ left right => by simp [Expr.bare, Expr.piece, left.piece_bare, right.piece_bare]
  | .sequence _ items => by simp [Expr.bare, Expr.piece, Expr.pieces_bare items]
  | .array _ elements => by simp [Expr.bare, Expr.piece, Item.pieces_bare elements]
  | .markup m => m.piece_bare

theorem Expr.pieces_bare : (es : List Expr) → Expr.pieces (Expr.bares es) = Piece.unwrapAll (Expr.pieces es)
  | [] => rfl
  | e :: es => by simp [Expr.bares, Expr.pieces, e.piece_bare, Expr.pieces_bare es]

theorem Expr.pieceIfAny_bare :
    (o : Option Expr) → Expr.pieceIfAny (Expr.bare? o) = Piece.unwrapAll (Expr.pieceIfAny o)
  | none => rfl
  | some e => by simp [Expr.bare?, Expr.pieceIfAny, e.piece_bare]

theorem Item.piece_bare : (i : Item) → i.bare.piece = i.piece.unwrap
  | .expr e => e.piece_bare
  | .other _ => rfl

theorem Item.pieces_bare : (is : List Item) → Item.pieces (Item.bares is) = Piece.unwrapAll (Item.pieces is)
  | [] => rfl
  | i :: is => by simp [Item.bares, Item.pieces, i.piece_bare, Item.pieces_bare is]

theorem Body.piece_bare : (b : Body) → b.bare.piece = b.piece.unwrap
  | .mk _ statements => by simp [Body.bare, Body.piece, Stmt.pieces_bare statements]

theorem Body.pieceIfAny_bare :
    (o : Option Body) → Body.pieceIfAny (Body.bare? o) = Piece.unwrapAll (Body.pieceIfAny o)
  | none => rfl
  | some b => by simp [Body.bare?, Body.pieceIfAny, b.piece_bare]

theorem Func.piece_bare : (f : Func) → f.bare.piece = f.piece.unwrap
  | .mk _ id body => by
    simp [Func.bare, Func.piece, Piece.unwrapAll_map Ident.unwrap_piece, Body.pieceIfAny_bare body]

theorem Class.piece_bare : (c : Class) → c.bare.piece = c.piece.unwrap
  | .mk _ id superClass _ members => by
    simp [Class.bare, Class.piece, Piece.unwrapAll_map Ident.unwrap_piece, Expr.pieceIfAny_bare superClass,
      ClassMember.pieces_bare members]

theorem ClassMember.piece_bare : (m : ClassMember) → m.bare.piece = m.piece.unwrap
  | .method _ _ value => by simp [ClassMember.bare, ClassMember.piece, value.piece_bare]
  | .other _ => rfl

theorem ClassMember.pieces_bare :
    (ms : List ClassMember) → ClassMember.pieces (ClassMember.bares ms) = Piece.unwrapAll (ClassMember.pieces ms)
  | [] => rfl
  | m :: ms => by simp [ClassMember.bares, ClassMember.pieces, m.piece_bare, ClassMember.pieces_bare ms]

theorem Markup.piece_bare : (m : Markup) → m.bare.piece = m.piece.unwrap
  | .element _ _ _ _ _ attributes children => by
    simp [Markup.bare, Markup.piece, Piece.unwrapAll_map Piece.unwrap_leaf, Attribute.pieces_bare attributes,
      Child.pieces_bare children]
  | .fragment _ children => by simp [Markup.bare, Markup.piece, Child.pieces_bare children]

theorem Attribute.piece_bare : (a : Attribute) → a.bare.piece = a.piece.unwrap
  | .named _ _ value => by simp [Attribute.bare, Attribute.piece, AttributeValue.pieceIfAny_bare value]
  | .spread _ argument => by simp [Attribute.bare, Attribute.piece, argument.piece_bare]

theorem Attribute.pieces_bare :
    (as : List Attribute) → Attribute.pieces (Attribute.bares as) = Piece.unwrapAll (Attribute.pieces as)
  | [] => rfl
  | a :: as => by simp [Attribute.bares, Attribute.pieces, a.piece_bare, Attribute.pieces_bare as]

theorem AttributeValue.piece_bare : (v : AttributeValue) → v.bare.piece = v.piece.unwrap
  | .string _ => rfl
  | .container _ content => by simp [AttributeValue.bare, AttributeValue.piece, Expr.pieceIfAny_bare content]
  | .markup m => m.piece_bare

theorem AttributeValue.pieceIfAny_bare : (o : Option AttributeValue) →
    AttributeValue.pieceIfAny (AttributeValue.bare? o) = Piece.unwrapAll (AttributeValue.pieceIfAny o)
  | none => rfl
  | some v => by simp [AttributeValue.bare?, AttributeValue.pieceIfAny, v.piece_bare]

theorem Child.piece_bare : (c : Child) → c.bare.piece = c.piece.unwrap
  | .text _ => rfl
  | .markup m => m.piece_bare
  | .container _ content => by simp [Child.bare, Child.piece, Expr.pieceIfAny_bare content]
  | .spread _ content => by simp [Child.bare, Child.piece, content.piece_bare]

theorem Child.pieces_bare : (cs : List Child) → Child.pieces (Child.bares cs) = Piece.unwrapAll (Child.pieces cs)
  | [] => rfl
  | c :: cs => by simp [Child.bares, Child.pieces, c.piece_bare, Child.pieces_bare cs]

theorem Stmt.piece_bare : (s : Stmt) → s.bare.piece = s.piece.unwrap
  | .declaration d => d.piece_bare
  | .expression _ e => by simp [Stmt.bare, Stmt.piece, e.piece_bare]
  | .returning _ argument => by simp [Stmt.bare, Stmt.piece, Expr.pieceIfAny_bare argument]
  | .block _ statements => by simp [Stmt.bare, Stmt.piece, Stmt.pieces_bare statements]
  | .conditional _ test consequent alternate => by
    simp [Stmt.bare, Stmt.piece, test.piece_bare, consequent.piece_bare, Stmt.pieceIfAny_bare alternate]
  | .exportNamed _ _ declaration _ _ => by
    simp [Stmt.bare, Stmt.piece, Declaration.pieceIfAny_bare declaration, Piece.unwrapAll_map Specifier.unwrap_piece,
      Piece.unwrapAll_map StringLiteral.unwrap_piece]
  | .exportDefault _ value => by simp [Stmt.bare, Stmt.piece, value.piece_bare]
  | .other _ => rfl

theorem Stmt.pieces_bare : (ss : List Stmt) → Stmt.pieces (Stmt.bares ss) = Piece.unwrapAll (Stmt.pieces ss)
  | [] => rfl
  | s :: ss => by simp [Stmt.bares, Stmt.pieces, s.piece_bare, Stmt.pieces_bare ss]

theorem Stmt.pieceIfAny_bare :
    (o : Option Stmt) → Stmt.pieceIfAny (Stmt.bare? o) = Piece.unwrapAll (Stmt.pieceIfAny o)
  | none => rfl
  | some s => by simp [Stmt.bare?, Stmt.pieceIfAny, s.piece_bare]

theorem Declaration.piece_bare : (d : Declaration) → d.bare.piece = d.piece.unwrap
  | .variables _ declarators => by simp [Declaration.bare, Declaration.piece, Declarator.pieces_bare declarators]
  | .function f => f.piece_bare
  | .classDecl c => c.piece_bare
  | .other _ => rfl

theorem Declaration.pieceIfAny_bare : (o : Option Declaration) →
    Declaration.pieceIfAny (Declaration.bare? o) = Piece.unwrapAll (Declaration.pieceIfAny o)
  | none => rfl
  | some d => by simp [Declaration.bare?, Declaration.pieceIfAny, d.piece_bare]

theorem Declarator.piece_bare : (d : Declarator) → d.bare.piece = d.piece.unwrap
  | .mk _ _ init => by simp [Declarator.bare, Declarator.piece, Expr.pieceIfAny_bare init]

theorem Declarator.pieces_bare :
    (ds : List Declarator) → Declarator.pieces (Declarator.bares ds) = Piece.unwrapAll (Declarator.pieces ds)
  | [] => rfl
  | d :: ds => by simp [Declarator.bares, Declarator.pieces, d.piece_bare, Declarator.pieces_bare ds]

theorem DefaultExport.piece_bare : (x : DefaultExport) → x.bare.piece = x.piece.unwrap
  | .function f => f.piece_bare
  | .classDecl c => c.piece_bare
  | .expr e => e.piece_bare
  | .other _ => rfl

end

theorem Program.piece_bare (p : Program) : p.bare.piece = p.piece.unwrap := by
  simp [bare, piece, Stmt.pieces_bare p.statements]

-- Without its wrappers a module is the same but for them: what they wrap is in their place, no wrapper is left and
-- no other piece is lost or moved. Its outline does not change, nor does the outline of any module that has the same
-- expressions in other wrappers. So the components, the audits and the reports are the same.
theorem wrappers_leave_no_trace (p : Program) :
    p.bare.piece = p.piece.unwrap ∧ p.bare.piece.Bare ∧ p.bare.outline = p.outline ∧
      (∀ q : Program, q.bare = p.bare → q.outline = p.outline) ∧
      ∀ (policy : Policy) (schema : Schema) (collector : Collector),
        candidates policy p.bare.outline = candidates policy p.outline ∧
        (candidates policy p.bare.outline).map (audit policy schema) =
          (candidates policy p.outline).map (audit policy schema) ∧
        MarkerRule.run policy collector p.bare.outline = MarkerRule.run policy collector p.outline := by
  have hpiece := p.piece_bare
  have houtline := p.outline_bare
  refine ⟨hpiece, hpiece ▸ p.piece.bare_unwrap, houtline, fun q hq => ?_, fun policy schema collector => ?_⟩
  · calc q.outline = q.bare.outline := q.outline_bare.symm
      _ = p.bare.outline := by rw [hq]
      _ = p.outline := houtline
  · rw [houtline]
    exact ⟨rfl, rfl, rfl⟩

namespace Sample

-- `<a/>` at an offset.
def emptyTag (start : Nat) : Markup :=
  .element ⟨start, start + 4⟩ ⟨start, start + 4⟩ (.plain "a") ⟨start + 1, start + 2⟩ none [] []

-- `export default A = ((() => (<a/>)) as T)!;`
def wrapped : Program where
  span := ⟨0, 42⟩
  statements := [.exportDefault ⟨0, 42⟩ (.expr (.assign ⟨15, 41⟩ (.ident ⟨"A", ⟨15, 16⟩⟩)
    (.nonNull ⟨19, 41⟩ (.paren ⟨19, 40⟩ (.cast ⟨20, 39⟩ (.paren ⟨20, 34⟩
      (.arrow ⟨21, 33⟩ (.paren ⟨27, 33⟩ (.markup (emptyTag 28))))))))))]

-- The same with one pair of parentheses only.
def wrappedOnce : Program where
  span := ⟨0, 42⟩
  statements := [.exportDefault ⟨0, 42⟩ (.expr (.assign ⟨15, 41⟩ (.ident ⟨"A", ⟨15, 16⟩⟩)
    (.paren ⟨19, 40⟩ (.arrow ⟨21, 33⟩ (.markup (emptyTag 28))))))]

end Sample

theorem wrappers_leave_no_trace_assigned :
    let policy : Policy := { isExcluded _ := false, marker := "id", wrappers := [] }
    Sample.wrappedOnce.bare = Sample.wrapped.bare ∧ Sample.wrappedOnce.outline = Sample.wrapped.outline ∧
      (candidates policy Sample.wrapped.bare.outline).map (·.name) = [some "A"] ∧
      candidates policy Sample.wrapped.bare.outline = candidates policy Sample.wrapped.outline := by
  intro policy
  obtain ⟨_, _, _, hsame, hread⟩ := wrappers_leave_no_trace Sample.wrapped
  have hbare : Sample.wrappedOnce.bare = Sample.wrapped.bare := rfl
  obtain ⟨hcandidates, _⟩ := hread policy default { source := [], file := "A.tsx" }
  exact ⟨hbare, hsame Sample.wrappedOnce hbare, by decide +kernel, hcandidates⟩

end MarkerLint.Script
