import Mathlib.Data.List.Forall2
import MarkerLint.Proofs.Rule.SourceOrder
import MarkerLint.Proofs.Script.Piece
import MarkerLint.Script.Outline

namespace MarkerLint

namespace Outline

-- The property holds of every node, whatever link leads to it.
inductive Node.Throughout (P : Node → Prop) : Node → Prop
  | mk {n} : P n → (∀ l ∈ n.links, ∀ c ∈ l.nodes, Throughout P c) → Throughout P n

namespace Node.Throughout

variable {P : Node → Prop} {n : Node}

theorem here (h : n.Throughout P) : P n := by
  cases h
  assumption

theorem descent {p : Step × Node} (h : n.Throughout P) (hp : p ∈ n.descents) : p.2.Throughout P := by
  obtain ⟨l, hl, hp⟩ := List.mem_flatMap.mp hp
  obtain ⟨i, hi, rfl⟩ := List.mem_mapIdx.mp hp
  cases h
  case mk hc => exact hc l hl _ (List.getElem_mem hi)

theorem of_mem_places {q : Place} (h : n.Throughout P) (hq : q ∈ n.places) : P q.node := by
  have hbelow : q.node.Throughout P :=
    Branching.forall_mem_below (Q := fun q => q.node.Throughout P) (q := .root n) h (fun _ hr _ hp => hr.descent hp) hq
  exact hbelow.here

end Node.Throughout

-- The span of a node runs forward and holds those of all children, and the nodes of a link come in order.
structure Node.LinksNest (n : Node) : Prop where
  forward : n.span.start ≤ n.span.stop
  inside : ∀ l ∈ n.links, ∀ c ∈ l.nodes, c.span.Inside n.span
  ordered : ∀ l ∈ n.links, l.nodes.Pairwise fun a b => a.span.stop ≤ b.span.start

theorem Node.follow_cases (n : Node) (e : Edge) : n.follow e = [] ∨ ∃ l ∈ n.links, n.follow e = l.nodes := by
  unfold follow
  cases hl : n.link? e
  case none => exact .inl rfl
  case some l => exact .inr ⟨l, List.mem_of_find?_eq_some hl, rfl⟩

theorem Node.LinksNest.nestsSpans {n : Node} (h : n.LinksNest) : n.NestsSpans where
  forward := h.forward
  inside e := by
    obtain he | ⟨l, hl, he⟩ := n.follow_cases e
    · rw [he]
      exact List.forall_mem_nil _
    · exact he ▸ h.inside l hl
  ordered e := by
    obtain he | ⟨l, hl, he⟩ := n.follow_cases e
    · rw [he]
      exact .nil
    · exact he ▸ h.ordered l hl

-- An element has an opening tag with the name of the element and a list of attributes.
def Node.TagComplete (n : Node) : Prop :=
  n.kind = .jsxElement → ∃ opening name text attributes, n.child? .openingElement = some opening ∧
    opening.kind = .jsxOpeningElement ∧ opening.child? .name = some name ∧ name.name = some text ∧
    n.name = some text ∧ opening.link? .attributes = some (.many .attributes attributes)

end Outline

namespace Script

open Outline

-- What the outline of a piece is like. All that is said of spans rests on those of the piece.
structure Fits (n : Node) (p : Piece) : Prop where
  tags : n.Throughout Node.TagComplete
  nests : p.Nests → n.Throughout Node.LinksNest
  inside : p.Nests → n.span.Inside p.span

-- Nodes that show pieces of a list, in order. Some pieces of the list may be left out.
abbrev Shown (part : List Piece) (ns : List Node) : Prop :=
  List.SublistForall₂ Fits ns part

-- Links that show parts of a piece, in order. Some parts may be left out.
inductive Drawn : List (List Piece) → List Link → Prop
  | nil : Drawn [] []
  | skip {part parts links} : Drawn parts links → Drawn (part :: parts) links
  | link {part parts l links} : Shown part l.nodes → Drawn parts links → Drawn (part :: parts) (l :: links)

section

variable {p : Piece} {part : List Piece} {parts : List (List Piece)} {n c : Node} {ns : List Node} {l : Link}
  {links : List Link} {e : Edge}

namespace Shown

theorem exists_fits (h : Shown part ns) (hc : c ∈ ns) : ∃ p ∈ part, Fits c p := by
  obtain ⟨shown, hfits, hsub⟩ := List.sublistForall₂_iff.mp h
  obtain ⟨i, hi, rfl⟩ := List.getElem_of_mem hc
  have hi' : i < shown.length := hfits.length_eq ▸ hi
  exact ⟨shown[i], hsub.subset (List.getElem_mem hi'), hfits.get hi hi'⟩

-- Each node keeps within its piece, so the nodes come in the order of the pieces.
theorem pairwise (h : Shown part ns) (hnest : ∀ p ∈ part, p.Nests)
    (ho : part.Pairwise fun p q => p.span.stop ≤ q.span.start) :
    ns.Pairwise fun a b => a.span.stop ≤ b.span.start := by
  induction h
  case nil => exact .nil
  case cons c p ns part hc h hi =>
    obtain ⟨hp, hnest⟩ := List.forall_mem_cons.mp hnest
    obtain ⟨hbefore, ho⟩ := List.pairwise_cons.mp ho
    refine .cons (fun d hd => ?_) (hi hnest ho)
    obtain ⟨q, hq, hfits⟩ := Shown.exists_fits h hd
    calc c.span.stop ≤ p.span.stop := (hc.inside hp).stop
      _ ≤ q.span.start := hbefore q hq
      _ ≤ d.span.start := (hfits.inside (hnest q hq)).start
  case cons_right hi => exact hi (List.forall_mem_cons.mp hnest).right (List.pairwise_cons.mp ho).right

end Shown

namespace Drawn

theorem one (h : Fits c p) (hl : Drawn parts links) : Drawn ([p] :: parts) (.one e c :: links) :=
  .link (.cons h .nil) hl

theorem many (h : Shown part ns) (hl : Drawn parts links) : Drawn (part :: parts) (.many e ns :: links) :=
  .link h hl

theorem ifAny {o : Option Node} (h : Shown part o.toList) (hl : Drawn parts links) :
    Drawn (part :: parts) (linkIfAny e o ++ links) := by
  cases o
  case none => exact .skip hl
  case some => exact .link h hl

theorem lastIfAny {o : Option Node} (h : Shown part o.toList) : Drawn [part] (linkIfAny e o) :=
  List.append_nil (linkIfAny e o) ▸ ifAny h .nil

theorem exists_shown (h : Drawn parts links) : ∀ l ∈ links, ∃ part ∈ parts, Shown part l.nodes := by
  induction h
  case nil => exact List.forall_mem_nil _
  case skip hi =>
    intro l hl
    obtain ⟨part, hpart, h⟩ := hi l hl
    exact ⟨part, .tail _ hpart, h⟩
  case link part parts _ _ h _ hi =>
    refine List.forall_mem_cons.mpr ⟨⟨part, .head _, h⟩, fun l hl => ?_⟩
    obtain ⟨part, hpart, h⟩ := hi l hl
    exact ⟨part, .tail _ hpart, h⟩

end Drawn

namespace Fits

variable {k : Kind} {s : Span} {name : Option String}

-- A node stands for a piece with the same span.
theorem node (ht : (Node.mk k s name links).TagComplete) (h : Drawn parts links) :
    Fits (.mk k s name links) (.node s parts) where
  tags := .mk ht fun l hl c hc => by
    obtain ⟨part, _, hl⟩ := h.exists_shown l hl
    obtain ⟨p, _, hc⟩ := hl.exists_fits hc
    exact hc.tags
  nests hp := by
    obtain ⟨hforward, hinside, hordered, hbelow⟩ := Piece.nests_node.mp hp
    refine .mk ⟨hforward, fun l hl c hc => ?_, fun l hl => ?_⟩ fun l hl c hc => ?_
    · obtain ⟨part, hpart, hl⟩ := h.exists_shown l hl
      obtain ⟨p, hp, hc⟩ := hl.exists_fits hc
      exact (hc.inside (hbelow part hpart p hp)).trans (hinside part hpart p hp)
    · obtain ⟨part, hpart, hl⟩ := h.exists_shown l hl
      exact hl.pairwise (hbelow part hpart) (hordered part hpart)
    · obtain ⟨part, hpart, hl⟩ := h.exists_shown l hl
      obtain ⟨p, hp, hc⟩ := hl.exists_fits hc
      exact hc.nests (hbelow part hpart p hp)
  inside _ := .refl s

-- What is no element needs no tag.
theorem branch (hk : (k != .jsxElement) = true) (h : Drawn parts links) :
    Fits (.mk k s name links) (.node s parts) :=
  node (fun he => absurd he (bne_iff_ne.mp hk)) h

theorem leaf (hk : (k != .jsxElement) = true) : Fits (.mk k s name []) (.leaf s) :=
  branch hk .nil

-- A node that stands for what a wrapper holds keeps within the wrapper.
theorem wrapper (h : Fits n p) : Fits n (.wrapper s p) where
  tags := h.tags
  nests hp := h.nests (Piece.nests_wrapper.mp hp).right.right
  inside hp := by
    obtain ⟨_, hinside, hinner⟩ := Piece.nests_wrapper.mp hp
    exact (h.inside hinner).trans hinside

end Fits

end

theorem shown_ifAny {α : Type} {f : α → Node} {g : α → Piece} (h : ∀ a, Fits (f a) (g a)) :
    (o : Option α) → Shown (o.toList.map g) (o.map f).toList
  | none => .nil
  | some a => .cons (h a) .nil

theorem shown_filter {α : Type} {f : α → Node} {g : α → Piece} (h : ∀ a, Fits (f a) (g a)) (keep : α → Bool)
    (as : List α) : Shown (as.map g) ((as.filter keep).map f) := by
  refine List.sublistForall₂_iff.mpr ⟨(as.filter keep).map g, ?_, List.filter_sublist.map g⟩
  rw [List.forall₂_map_left_iff, List.forall₂_map_right_iff, List.forall₂_same]
  exact fun a _ => h a

theorem Ident.outline_fits (id : Ident) : Fits id.outline id.piece :=
  .leaf rfl

theorem StringLiteral.outline_fits (l : StringLiteral) : Fits l.outline l.piece :=
  .leaf rfl

theorem Binding.outline_fits : (b : Binding) → Fits b.outline b.piece
  | ident id => id.outline_fits
  | pattern _ => .leaf rfl

theorem Target.outline_fits : (t : Target) → Fits t.outline t.piece
  | ident id => id.outline_fits
  | other _ => .leaf rfl

theorem ExportName.outline_fits : (n : ExportName) → Fits n.outline n.piece
  | ident id => id.outline_fits
  | string l => l.outline_fits

theorem Specifier.outline_fits (s : Specifier) : Fits s.outline s.piece :=
  .branch rfl (.one s.localName.outline_fits (.one s.exported.outline_fits .nil))

-- A key that is no name is left out.
theorem MethodKey.outline_drawn {parts : List (List Piece)} {links : List Link} (h : Drawn parts links) :
    (key : MethodKey) → Drawn ([key.piece] :: parts) (key.outline.2 ++ links)
  | ident id => .one id.outline_fits h
  | string _ => .one (.leaf rfl) h
  | other _ => .skip h

theorem Markup.outline_tagComplete (m : Markup) : m.outline.TagComplete := by
  intro hk
  cases m
  case element _ _ name _ typeArguments attributes _ =>
    refine ⟨_, _, name.text, Attribute.outlines attributes, rfl, rfl, rfl, rfl, rfl, ?_⟩
    cases typeArguments <;> rfl
  case fragment => contradiction

mutual

theorem Expr.outline_fits : (e : Expr) → Fits e.outline e.piece
  | .paren _ inner | .cast _ inner | .satisfies _ inner | .nonNull _ inner => inner.outline_fits.wrapper
  | .ident id => id.outline_fits
  | .string l => l.outline_fits
  | .number _ | .boolean _ | .null _ | .template _ | .other .. => .leaf rfl
  | .arrow _ result => .branch rfl (.one result.outline_fits .nil)
  | .arrowBlock _ body => .branch rfl (.one body.outline_fits .nil)
  | .function f => f.outline_fits rfl
  | .classExpr c => c.outline_fits rfl
  | .call _ callee arguments => .branch rfl (.one callee.outline_fits (.many (Item.outlines_shown arguments) .nil))
  | .member _ object property => .branch rfl (.one object.outline_fits (.one property.outline_fits .nil))
  | .index _ object key => .branch rfl (.one object.outline_fits (.one key.outline_fits .nil))
  | .assign _ target value => .branch rfl (.one target.outline_fits (.one value.outline_fits .nil))
  | .conditional _ test consequent alternate =>
    .branch rfl (.one test.outline_fits (.one consequent.outline_fits (.one alternate.outline_fits .nil)))
  | .logical _ _ left right => .branch rfl (.one left.outline_fits (.one right.outline_fits .nil))
  | .sequence _ items => .branch rfl (.many (Expr.outlines_shown items) .nil)
  | .array _ elements => .branch rfl (.many (Item.outlines_shown elements) .nil)
  | .markup m => m.outline_fits

theorem Expr.outlines_shown : (es : List Expr) → Shown (Expr.pieces es) (Expr.outlines es)
  | [] => .nil
  | e :: es => .cons e.outline_fits (Expr.outlines_shown es)

theorem Expr.outline?_shown : (o : Option Expr) → Shown (Expr.pieceIfAny o) (Expr.outline? o).toList
  | none => .nil
  | some e => .cons e.outline_fits .nil

theorem Item.outline_fits : (i : Item) → Fits i.outline i.piece
  | .expr e => e.outline_fits
  | .other _ => .leaf rfl

theorem Item.outlines_shown : (is : List Item) → Shown (Item.pieces is) (Item.outlines is)
  | [] => .nil
  | i :: is => .cons i.outline_fits (Item.outlines_shown is)

theorem Body.outline_fits : (b : Body) → Fits b.outline b.piece
  | .mk _ statements => .branch rfl (.many (Stmt.outlines_shown statements) .nil)

theorem Body.outline?_shown : (o : Option Body) → Shown (Body.pieceIfAny o) (Body.outline? o).toList
  | none => .nil
  | some b => .cons b.outline_fits .nil

theorem Func.outline_fits {kind : Kind} (hk : (kind != .jsxElement) = true) :
    (f : Func) → Fits (f.outline kind) f.piece
  | .mk _ id body => .branch hk (.ifAny (shown_ifAny Ident.outline_fits id) (.lastIfAny (Body.outline?_shown body)))

theorem Class.outline_fits {kind : Kind} (hk : (kind != .jsxElement) = true) :
    (c : Class) → Fits (c.outline kind) c.piece
  | .mk _ id superClass _ members => by
    rw [Class.outline, List.append_assoc]
    exact .branch hk (.ifAny (shown_ifAny Ident.outline_fits id) (.ifAny (Expr.outline?_shown superClass)
      (.one (.branch rfl (.many (ClassMember.outlines_shown members) .nil)) .nil)))

theorem ClassMember.outline_fits : (m : ClassMember) → Fits m.outline m.piece
  | .method _ key value => .branch rfl (key.outline_drawn (.one (value.outline_fits rfl) .nil))
  | .other _ => .leaf rfl

theorem ClassMember.outlines_shown :
    (ms : List ClassMember) → Shown (ClassMember.pieces ms) (ClassMember.outlines ms)
  | [] => .nil
  | m :: ms => .cons m.outline_fits (ClassMember.outlines_shown ms)

theorem Markup.outline_fits : (m : Markup) → Fits m.outline m.piece
  | .element span openingSpan name nameSpan typeArguments attributes children =>
    .node (Markup.element span openingSpan name nameSpan typeArguments attributes children).outline_tagComplete
      (.one
        (.branch rfl (.one (.leaf rfl) (.ifAny (shown_ifAny (fun _ => .leaf rfl) typeArguments)
          (.many (Attribute.outlines_shown attributes) .nil))))
        (.many (Child.outlines_shown children) .nil))
  | .fragment _ children => .branch rfl (.many (Child.outlines_shown children) .nil)

theorem Attribute.outline_fits : (a : Attribute) → Fits a.outline a.piece
  | .named _ _ value => .branch rfl (.lastIfAny (AttributeValue.outline?_shown value))
  | .spread _ argument => .branch rfl (.one argument.outline_fits .nil)

theorem Attribute.outlines_shown : (as : List Attribute) → Shown (Attribute.pieces as) (Attribute.outlines as)
  | [] => .nil
  | a :: as => .cons a.outline_fits (Attribute.outlines_shown as)

theorem AttributeValue.outline_fits : (v : AttributeValue) → Fits v.outline v.piece
  | .string l => l.outline_fits
  | .container _ content => .branch rfl (.lastIfAny (Expr.outline?_shown content))
  | .markup m => m.outline_fits

theorem AttributeValue.outline?_shown :
    (o : Option AttributeValue) → Shown (AttributeValue.pieceIfAny o) (AttributeValue.outline? o).toList
  | none => .nil
  | some v => .cons v.outline_fits .nil

theorem Child.outline_fits : (c : Child) → Fits c.outline c.piece
  | .text _ => .leaf rfl
  | .markup m => m.outline_fits
  | .container _ content => .branch rfl (.lastIfAny (Expr.outline?_shown content))
  | .spread _ content => .branch rfl (.one content.outline_fits .nil)

theorem Child.outlines_shown : (cs : List Child) → Shown (Child.pieces cs) (Child.outlines cs)
  | [] => .nil
  | c :: cs => .cons c.outline_fits (Child.outlines_shown cs)

theorem Stmt.outline_fits : (s : Stmt) → Fits s.outline s.piece
  | .declaration d => d.outline_fits
  | .expression _ e => .branch rfl (.one e.outline_fits .nil)
  | .returning _ argument => .branch rfl (.lastIfAny (Expr.outline?_shown argument))
  | .block _ statements => .branch rfl (.many (Stmt.outlines_shown statements) .nil)
  | .conditional _ test consequent alternate =>
    .branch rfl (.one test.outline_fits (.one consequent.outline_fits (.lastIfAny (Stmt.outline?_shown alternate))))
  | .exportNamed _ _ declaration specifiers source => by
    rw [Stmt.outline, List.append_assoc]
    exact .branch rfl (.ifAny (Declaration.outline?_shown declaration)
      (.many (shown_filter Specifier.outline_fits _ specifiers)
        (.lastIfAny (shown_ifAny StringLiteral.outline_fits source))))
  | .exportDefault _ value => .branch rfl (.one value.outline_fits .nil)
  | .other _ => .leaf rfl

theorem Stmt.outlines_shown : (ss : List Stmt) → Shown (Stmt.pieces ss) (Stmt.outlines ss)
  | [] => .nil
  | s :: ss => .cons s.outline_fits (Stmt.outlines_shown ss)

theorem Stmt.outline?_shown : (o : Option Stmt) → Shown (Stmt.pieceIfAny o) (Stmt.outline? o).toList
  | none => .nil
  | some s => .cons s.outline_fits .nil

theorem Declaration.outline_fits : (d : Declaration) → Fits d.outline d.piece
  | .variables _ declarators => .branch rfl (.many (Declarator.outlines_shown declarators) .nil)
  | .function f => f.outline_fits rfl
  | .classDecl c => c.outline_fits rfl
  | .other _ => .leaf rfl

theorem Declaration.outline?_shown :
    (o : Option Declaration) → Shown (Declaration.pieceIfAny o) (Declaration.outline? o).toList
  | none => .nil
  | some d => .cons d.outline_fits .nil

theorem Declarator.outline_fits : (d : Declarator) → Fits d.outline d.piece
  | .mk _ binding init => .branch rfl (.one binding.outline_fits (.lastIfAny (Expr.outline?_shown init)))

theorem Declarator.outlines_shown : (ds : List Declarator) → Shown (Declarator.pieces ds) (Declarator.outlines ds)
  | [] => .nil
  | d :: ds => .cons d.outline_fits (Declarator.outlines_shown ds)

theorem DefaultExport.outline_fits : (x : DefaultExport) → Fits x.outline x.piece
  | .function f => f.outline_fits rfl
  | .classDecl c => c.outline_fits rfl
  | .expr e => e.outline_fits
  | .other _ => .leaf rfl

end

theorem Program.outline_fits (p : Program) : Fits p.outline p.piece :=
  .branch rfl (.many (Stmt.outlines_shown p.statements) .nil)

section

variable {policy : Policy} {schema : Schema} {program n opening name : Node} {c : Candidate} {v : Violation}

theorem target_isElement (h : audit policy schema c = .violation v) : v.target.node.kind = .jsxElement := by
  obtain ⟨_, place, _, hp, rfl⟩ := audit_eq_violation.mp h
  obtain ⟨t, _, hlacks, rfl⟩ := exists_of_target hp
  exact hlacks.element

theorem target_in (hc : c ∈ candidates policy program) (h : audit policy schema c = .violation v) :
    v.target.In program :=
  Place.within_root.mp ((target_within h).trans (candidates_declaredIn hc).render_within)

-- Where the tag has a name, a marker goes behind the name or what follows it, and never before the element.
theorem exists_anchor (ho : n.child? .openingElement = some opening) (hn : opening.child? .name = some name) :
    ∃ e anchor, opening.child? e = some anchor ∧ markerOffset n = anchor.span.stop := by
  rw [markerOffset_eq, Node.tag?, ho, Option.map_some, Option.bind_some, Node.tagView, hn]
  cases ht : opening.child? .typeArguments
  case some anchor => exact ⟨_, anchor, ht, rfl⟩
  case none => exact ⟨_, name, hn, rfl⟩

theorem markerOffset_in_tag (h : n.Every Node.NestsSpans) (ho : n.child? .openingElement = some opening)
    (hn : opening.child? .name = some name) :
    opening.span.start ≤ markerOffset n ∧ markerOffset n ≤ opening.span.stop := by
  obtain ⟨e, anchor, hanchor, hoffset⟩ := exists_anchor ho hn
  have hopening := every_of_child? h ho
  have hin := inside_of_child? hopening hanchor
  have hforward := (every_of_child? hopening hanchor).here.forward
  rw [hoffset]
  exact ⟨Nat.le_trans hin.start hforward, hin.stop⟩

end

-- Every element of an outline has a tag with its name and a list of attributes. If the spans of the module nest, so do
-- those of the outline, and whatever an audit finds fault with, the marker goes into the tag that is pointed at.
theorem outline_well_formed (p : Program) :
    (∀ q ∈ p.outline.places, q.node.TagComplete) ∧
      (p.piece.Nests → (∀ q ∈ p.outline.places, q.node.LinksNest) ∧
        ∀ (policy : Policy) (schema : Schema), ∀ c ∈ candidates policy p.outline, ∀ v,
          audit policy schema c = .violation v →
          ∃ opening, v.target.node.child? .openingElement = some opening ∧ v.openingSpan = opening.span ∧
            opening.span.start ≤ v.insertionPoint ∧ v.insertionPoint ≤ opening.span.stop) := by
  have htags : ∀ q ∈ p.outline.places, q.node.TagComplete := fun _ hq => p.outline_fits.tags.of_mem_places hq
  refine ⟨htags, fun hnest => ?_⟩
  have hlinks : ∀ q ∈ p.outline.places, q.node.LinksNest := fun _ hq =>
    (p.outline_fits.nests hnest).of_mem_places hq
  have hevery : p.outline.Every Node.NestsSpans := fun _ _ hn => (hlinks _ (Node.mem_places hn)).nestsSpans
  refine ⟨hlinks, fun policy schema c hc v hv => ?_⟩
  have hin := target_in hc hv
  obtain ⟨opening, name, _, _, hopening, _, hname, _⟩ := htags _ (Node.mem_places hin) (target_isElement hv)
  obtain ⟨hstart, hstop⟩ := markerOffset_in_tag (hevery.below hin) hopening hname
  rw [insertionPoint_of_audit hv]
  refine ⟨opening, hopening, ?_, hstart, hstop⟩
  rw [Violation.openingSpan_eq, Node.tag?, hopening]
  rfl

namespace Sample

-- `<Box<T> b/>` at offset 39.
def box : Markup :=
  .element ⟨39, 50⟩ ⟨39, 50⟩ (.plain "Box") ⟨40, 43⟩ (some ⟨43, 46⟩) [.named ⟨47, 48⟩ (.plain "b") none] []

-- `export { type T, A };` and on the next line `const A = () => (<Box<T> b/>);`
def boxed : Program where
  span := ⟨0, 53⟩
  statements := [
    .exportNamed ⟨0, 21⟩ false none
      [⟨⟨9, 15⟩, true, .ident ⟨"T", ⟨14, 15⟩⟩, .ident ⟨"T", ⟨14, 15⟩⟩⟩,
        ⟨⟨17, 18⟩, false, .ident ⟨"A", ⟨17, 18⟩⟩, .ident ⟨"A", ⟨17, 18⟩⟩⟩] none,
    .declaration (.variables ⟨22, 52⟩
      [.mk ⟨28, 51⟩ (.ident ⟨"A", ⟨28, 29⟩⟩) (some (.arrow ⟨32, 51⟩ (.paren ⟨38, 51⟩ (.markup box))))])]

end Sample

-- The marker goes behind the type arguments.
theorem outline_well_formed_boxed :
    let policy : Policy := { isExcluded _ := false, marker := "id", wrappers := [] }
    Sample.boxed.piece.Nests ∧
      (∀ q ∈ Sample.boxed.outline.places, q.node.TagComplete ∧ q.node.LinksNest) ∧
      ∃ c ∈ candidates policy Sample.boxed.outline, ∃ v opening, audit policy default c = .violation v ∧
        v.insertionPoint = 46 ∧ v.target.node.child? .openingElement = some opening ∧
        opening.span.start ≤ 46 ∧ 46 ≤ opening.span.stop := by
  intro policy
  have hnest : Sample.boxed.piece.Nests := by decide +kernel
  obtain ⟨htags, hspans⟩ := outline_well_formed Sample.boxed
  obtain ⟨hlinks, hmarker⟩ := hspans hnest
  have hfault : ∃ c ∈ candidates policy Sample.boxed.outline,
      (audit policy default c).violation?.any fun v => v.insertionPoint = 46 := by
    decide +kernel
  obtain ⟨c, hc, hv⟩ := hfault
  obtain ⟨v, hv, hpoint⟩ := (Option.any_eq_true _ _).mp hv
  have hv := violation?_eq_some.mp hv
  have hpoint := of_decide_eq_true hpoint
  obtain ⟨opening, hopening, _, hstart, hstop⟩ := hmarker policy default c hc v hv
  rw [hpoint] at hstart hstop
  exact ⟨hnest, fun q hq => ⟨htags q hq, hlinks q hq⟩, c, hc, v, opening, hv, hpoint, hopening, hstart, hstop⟩

end Script
end MarkerLint
