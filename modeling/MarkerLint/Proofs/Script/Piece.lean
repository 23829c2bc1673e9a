import MarkerLint.Proofs.Outline.Nesting
import MarkerLint.Script.Syntax

-- Modules as trees of pieces. A piece is anything that has a span of its own, whether its outline shows it or not:
-- what is only there to wrap an expression, and the entries of a list that export no value, are pieces like any
-- other. The spans that a parser gives nest as the pieces do.

namespace MarkerLint.Script

-- A piece of a module with what it consists of. A part is what stands at one position: a piece, none, or a list.
inductive Piece where
  -- Parentheses or an annotation of a type around an expression.
  | wrapper (span : Span) (inner : Piece)
  | node (span : Span) (parts : List (List Piece))

namespace Piece

def leaf (span : Span) : Piece :=
  node span []

def span : Piece → Span
  | wrapper s _ => s
  | node s _ => s

def parts : Piece → List (List Piece)
  | wrapper _ inner => [[inner]]
  | node _ ps => ps

-- A span runs forward and holds those of the pieces in it, and the pieces of a list come in order.
inductive Nests : Piece → Prop
  | mk {p : Piece} : p.span.start ≤ p.span.stop → (∀ part ∈ p.parts, ∀ q ∈ part, q.span.Inside p.span) →
    (∀ part ∈ p.parts, part.Pairwise fun q r => q.span.stop ≤ r.span.start) →
    (∀ part ∈ p.parts, ∀ q ∈ part, Nests q) → Nests p

section

variable {s : Span} {inner : Piece} {parts : List (List Piece)}

theorem nests_node :
    (node s parts).Nests ↔ s.start ≤ s.stop ∧ (∀ part ∈ parts, ∀ q ∈ part, q.span.Inside s) ∧
      (∀ part ∈ parts, part.Pairwise fun q r => q.span.stop ≤ r.span.start) ∧
      ∀ part ∈ parts, ∀ q ∈ part, q.Nests where
  mp := by
    rintro ⟨forward, inside, ordered, below⟩
    exact ⟨forward, inside, ordered, below⟩
  mpr := by
    rintro ⟨forward, inside, ordered, below⟩
    exact .mk forward inside ordered below

theorem nests_wrapper : (wrapper s inner).Nests ↔ s.start ≤ s.stop ∧ inner.span.Inside s ∧ inner.Nests where
  mp := by
    rintro ⟨forward, inside, _, below⟩
    exact ⟨forward, inside _ (.head _) _ (.head _), below _ (.head _) _ (.head _)⟩
  mpr := by
    rintro ⟨forward, inside, below⟩
    have only {P : Piece → Prop} (h : P inner) : ∀ part ∈ [[inner]], ∀ q ∈ part, P q :=
      List.forall_mem_singleton.mpr (List.forall_mem_singleton.mpr h)
    exact .mk forward (only inside) (List.forall_mem_singleton.mpr (List.pairwise_singleton _ _)) (only below)

end

theorem sizeOf_lt_of_mem_parts {p q : Piece} {part : List Piece} (hpart : part ∈ p.parts) (hq : q ∈ part) :
    sizeOf q < sizeOf p := by
  have hlt := List.sizeOf_lt_of_mem hq
  cases p
  case wrapper s inner =>
    obtain rfl := List.mem_singleton.mp hpart
    obtain rfl := List.mem_singleton.mp hq
    rw [wrapper.sizeOf_spec]
    omega
  case node s parts =>
    have hlt' := List.sizeOf_lt_of_mem (show part ∈ parts from hpart)
    rw [node.sizeOf_spec]
    omega

-- Checks the spans piece by piece.
def checkNests (p : Piece) : Bool :=
  decide (p.span.start ≤ p.span.stop) && p.parts.attach.all fun part =>
    decide (∀ q ∈ part.1, q.span.Inside p.span) &&
      decide (part.1.Pairwise fun q r => q.span.stop ≤ r.span.start) && part.1.attach.all fun q => q.1.checkNests
termination_by sizeOf p
decreasing_by exact sizeOf_lt_of_mem_parts part.2 q.2

theorem checkNests_iff {p : Piece} : p.checkNests ↔ p.Nests := by
  constructor
  case mp =>
    intro h
    fun_induction checkNests p
    case case1 p hi =>
      simp only [Bool.and_eq_true, decide_eq_true_eq, List.all_eq_true, List.mem_attach, true_imp_iff,
        Subtype.forall] at h
      obtain ⟨hforward, hparts⟩ := h
      refine .mk hforward (fun part hpart => (hparts part hpart).left.left)
        (fun part hpart => (hparts part hpart).left.right) fun part hpart q hq => ?_
      exact hi ⟨part, hpart⟩ ⟨q, hq⟩ ((hparts part hpart).right q hq)
  case mpr =>
    intro h
    induction h
    case mk p hforward hinside hordered _ hi =>
      rw [checkNests]
      simp only [Bool.and_eq_true, decide_eq_true_eq, List.all_eq_true, List.mem_attach, true_imp_iff,
        Subtype.forall]
      exact ⟨hforward, fun part hpart => ⟨⟨hinside part hpart, hordered part hpart⟩, hi part hpart⟩⟩

instance : DecidablePred Nests := fun _ =>
  decidable_of_iff _ checkNests_iff

end Piece

def Ident.piece (id : Ident) : Piece :=
  .leaf id.span

def StringLiteral.piece (l : StringLiteral) : Piece :=
  .leaf l.span

def Binding.piece : Binding → Piece
  | ident id => id.piece
  | pattern span => .leaf span

def Target.piece : Target → Piece
  | ident id => id.piece
  | other span => .leaf span

def MethodKey.piece : MethodKey → Piece
  | ident id => id.piece
  | string l => l.piece
  | other span => .leaf span

def ExportName.piece : ExportName → Piece
  | ident id => id.piece
  | string l => l.piece

def Specifier.piece (s : Specifier) : Piece :=
  .node s.span [[s.localName.piece], [s.exported.piece]]

mutual

def Expr.piece : Expr → Piece
  | .paren span inner | .cast span inner | .satisfies span inner | .nonNull span inner => .wrapper span inner.piece
  | .ident id => id.piece
  | .string l => l.piece
  | .number span | .boolean span | .null span | .template span | .other _ span => .leaf span
  | .arrow span result => .node span [[result.piece]]
  | .arrowBlock span body => .node span [[body.piece]]
  | .function f => f.piece
  | .classExpr c => c.piece
  | .call span callee arguments => .node span [[callee.piece], Item.pieces arguments]
  | .member span object property => .node span [[object.piece], [property.piece]]
  | .index span object key => .node span [[object.piece], [key.piece]]
  | .assign span target value => .node span [[target.piece], [value.piece]]
  | .conditional span test consequent alternate =>
    .node span [[test.piece], [consequent.piece], [alternate.piece]]
  | .logical span _ left right => .node span [[left.piece], [right.piece]]
  | .sequence span items => .node span [Expr.pieces items]
  | .array span elements => .node span [Item.pieces elements]
  | .markup m => m.piece

def Expr.pieces : List Expr → List Piece
  | [] => []
  | e :: es => e.piece :: Expr.pieces es

def Expr.pieceIfAny : Option Expr → List Piece
  | none => []
  | some e => [e.piece]

def Item.piece : Item → Piece
  | .expr e => e.piece
  | .other span => .leaf span

def Item.pieces : List Item → List Piece
  | [] => []
  | i :: is => i.piece :: Item.pieces is

def Body.piece : Body → Piece
  | .mk span statements => .node span [Stmt.pieces statements]

def Body.pieceIfAny : Option Body → List Piece
  | none => []
  | some b => [b.piece]

def Func.piece : Func → Piece
  | .mk span id body => .node span [id.toList.map Ident.piece, Body.pieceIfAny body]

def Class.piece : Class → Piece
  | .mk span id superClass bodySpan members =>
    .node span [id.toList.map Ident.piece, Expr.pieceIfAny superClass, [.node bodySpan [ClassMember.pieces members]]]

def ClassMember.piece : ClassMember → Piece
  | .method span key value => .node span [[key.piece], [value.piece]]
  | .other span => .leaf span

def ClassMember.pieces : List ClassMember → List Piece
  | [] => []
  | m :: ms => m.piece :: ClassMember.pieces ms

def Markup.piece : Markup → Piece
  | .element span openingSpan _ nameSpan typeArguments attributes children =>
    .node span [
      [.node openingSpan [[.leaf nameSpan], typeArguments.toList.map .leaf, Attribute.pieces attributes]],
      Child.pieces children]
  | .fragment span children => .node span [Child.pieces children]

def Attribute.piece : Attribute → Piece
  | .named span _ value => .node span [AttributeValue.pieceIfAny value]
  | .spread span argument => .node span [[argument.piece]]

def Attribute.pieces : List Attribute → List Piece
  | [] => []
  | a :: as => a.piece :: Attribute.pieces as

def AttributeValue.piece : AttributeValue → Piece
  | .string l => l.piece
  | .container span content => .node span [Expr.pieceIfAny content]
  | .markup m => m.piece

def AttributeValue.pieceIfAny : Option AttributeValue → List Piece
  | none => []
  | some v => [v.piece]

def Child.piece : Child → Piece
  | .text span => .leaf span
  | .markup m => m.piece
  | .container span content => .node span [Expr.pieceIfAny content]
  | .spread span content => .node span [[content.piece]]

def Child.pieces : List Child → List Piece
  | [] => []
  | c :: cs => c.piece :: Child.pieces cs

def Stmt.piece : Stmt → Piece
  | .declaration d => d.piece
  | .expression span e => .node span [[e.piece]]
  | .returning span argument => .node span [Expr.pieceIfAny argument]
  | .block span statements => .node span [Stmt.pieces statements]
  | .conditional span test consequent alternate =>
    .node span [[test.piece], [consequent.piece], Stmt.pieceIfAny alternate]
  | .exportNamed span _ declaration specifiers source =>
    .node span [Declaration.pieceIfAny declaration, specifiers.map Specifier.piece,
      source.toList.map StringLiteral.piece]
  | .exportDefault span value => .node span [[value.piece]]
  | .other span => .leaf span

def Stmt.pieces : List Stmt → List Piece
  | [] => []
  | s :: ss => s.piece :: Stmt.pieces ss

def Stmt.pieceIfAny : Option Stmt → List Piece
  | none => []
  | some s => [s.piece]

def Declaration.piece : Declaration → Piece
  | .variables span declarators => .node span [Declarator.pieces declarators]
  | .function f => f.piece
  | .classDecl c => c.piece
  | .other span => .leaf span

def Declaration.pieceIfAny : Option Declaration → List Piece
  | none => []
  | some d => [d.piece]

def Declarator.piece : Declarator → Piece
  | .mk span binding init => .node span [[binding.piece], Expr.pieceIfAny init]

def Declarator.pieces : List Declarator → List Piece
  | [] => []
  | d :: ds => d.piece :: Declarator.pieces ds

def DefaultExport.piece : DefaultExport → Piece
  | .function f => f.piece
  | .classDecl c => c.piece
  | .expr e => e.piece
  | .other span => .leaf span

end

def Program.piece (p : Program) : Piece :=
  .node p.span [Stmt.pieces p.statements]

end MarkerLint.Script
