import Mathlib.Data.List.Nodup
import MarkerLint.Proofs.Search.Coverage
import MarkerLint.Script.Outline

namespace MarkerLint

namespace Outline

-- Links to trees whose edges are listed.
inductive LinksListed (schema : Schema) : List Link → Prop
  | nil : LinksListed schema []
  | one {e c links} : Listed schema c → LinksListed schema links → LinksListed schema (.one e c :: links)
  | many {e cs links} :
    (∀ c ∈ cs, Listed schema c) → LinksListed schema links → LinksListed schema (.many e cs :: links)

variable {schema : Schema} {links more : List Link}

namespace LinksListed

theorem append (h : LinksListed schema links) (hm : LinksListed schema more) : LinksListed schema (links ++ more) := by
  induction h
  case nil => exact hm
  case one hc _ hi => exact .one hc hi
  case many hc _ hi => exact .many hc hi

theorem listed (h : LinksListed schema links) : ∀ l ∈ links, ∀ c ∈ l.nodes, Listed schema c := by
  induction h
  case nil => exact List.forall_mem_nil _
  case one hc _ hi => exact List.forall_mem_cons.mpr ⟨List.forall_mem_singleton.mpr hc, hi⟩
  case many hc _ hi => exact List.forall_mem_cons.mpr ⟨hc, hi⟩

end LinksListed

namespace Listed

theorem of_links {k : Kind} {s : Span} {name : Option String}
    (hs : (links.map Link.edge).Sublist (schema.edges k)) (h : LinksListed schema links) :
    Listed schema (.mk k s name links) :=
  .mk hs h.listed

theorem leaf (k : Kind) (s : Span) : Listed schema (.leaf k s) :=
  of_links (List.nil_sublist _) .nil

theorem named (k : Kind) (s : Span) (name : String) : Listed schema (.named k s name) :=
  of_links (List.nil_sublist _) .nil

end Listed
end Outline

namespace Script

open Outline

theorem linkIfAny_listed {schema : Schema} {edge : Edge} {α : Type} {f : α → Node} (h : ∀ a, Listed schema (f a)) :
    (o : Option α) → LinksListed schema (linkIfAny edge (o.map f))
  | none => .nil
  | some a => .one (h a) .nil

-- A link that may be missing takes an edge of the list or leaves it out.
theorem linkIfAny_edges (e : Edge) (o : Option Node) : ((linkIfAny e o).map Link.edge).Sublist [e] := by
  cases o
  case none => exact List.nil_sublist _
  case some => exact .refl _

theorem edges_append {links more : List Link} {es es' : List Edge} (h : (links.map Link.edge).Sublist es)
    (hm : (more.map Link.edge).Sublist es') : ((links ++ more).map Link.edge).Sublist (es ++ es') := by
  rw [List.map_append]
  exact h.append hm

theorem Ident.outline_listed (id : Ident) : Listed default id.outline :=
  .named ..

theorem StringLiteral.outline_listed (l : StringLiteral) : Listed default l.outline :=
  .named ..

theorem Binding.outline_listed : (b : Binding) → Listed default b.outline
  | ident id => id.outline_listed
  | pattern _ => .leaf ..

theorem Target.outline_listed : (t : Target) → Listed default t.outline
  | ident id => id.outline_listed
  | other _ => .leaf ..

theorem ExportName.outline_listed : (n : ExportName) → Listed default n.outline
  | ident id => id.outline_listed
  | string l => l.outline_listed

theorem Specifier.outline_listed (s : Specifier) : Listed default s.outline :=
  .of_links (.refl _) (.one s.localName.outline_listed (.one s.exported.outline_listed .nil))

theorem MethodKey.outline_listed : (key : MethodKey) → LinksListed default key.outline.2
  | ident id => .one id.outline_listed .nil
  | string _ => .one (.named ..) .nil
  | other _ => .nil

theorem MethodKey.outline_edges : (key : MethodKey) → (key.outline.2.map Link.edge).Sublist [.key]
  | ident _ | string _ => .refl _
  | other _ => List.nil_sublist _

mutual

theorem Expr.outline_listed : (e : Expr) → Listed default e.outline
  | .paren _ inner | .cast _ inner | .satisfies _ inner | .nonNull _ inner => inner.outline_listed
  | .ident id => id.outline_listed
  | .string l => l.outline_listed
  | .number _ | .boolean _ | .null _ | .template _ | .other .. => .leaf ..
  | .arrow _ result => .of_links (.refl _) (.one result.outline_listed .nil)
  | .arrowBlock _ body => .of_links (.refl _) (.one body.outline_listed .nil)
  | .function f => f.outline_listed rfl
  | .classExpr c => c.outline_listed rfl
  | .call _ callee arguments =>
    .of_links (.refl _) (.one callee.outline_listed (.many (Item.outlines_listed arguments) .nil))
  | .member _ object property =>
    .of_links (.refl _) (.one object.outline_listed (.one property.outline_listed .nil))
  | .index _ object key => .of_links (.refl _) (.one object.outline_listed (.one key.outline_listed .nil))
  | .assign _ target value => .of_links (.refl _) (.one target.outline_listed (.one value.outline_listed .nil))
  | .conditional _ test consequent alternate =>
    .of_links (.refl _)
      (.one test.outline_listed (.one consequent.outline_listed (.one alternate.outline_listed .nil)))
  | .logical _ _ left right => .of_links (.refl _) (.one left.outline_listed (.one right.outline_listed .nil))
  | .sequence _ items => .of_links (.refl _) (.many (Expr.outlines_listed items) .nil)
  | .array _ elements => .of_links (.refl _) (.many (Item.outlines_listed elements) .nil)
  | .markup m => m.outline_listed

theorem Expr.outlines_listed : (es : List Expr) → ∀ n ∈ Expr.outlines es, Listed default n
  | [] => List.forall_mem_nil _
  | e :: es => List.forall_mem_cons.mpr ⟨e.outline_listed, Expr.outlines_listed es⟩

theorem Expr.link_listed {edge : Edge} : (o : Option Expr) → LinksListed default (linkIfAny edge (Expr.outline? o))
  | none => .nil
  | some e => .one e.outline_listed .nil

theorem Item.outline_listed : (i : Item) → Listed default i.outline
  | .expr e => e.outline_listed
  | .other _ => .leaf ..

theorem Item.outlines_listed : (is : List Item) → ∀ n ∈ Item.outlines is, Listed default n
  | [] => List.forall_mem_nil _
  | i :: is => List.forall_mem_cons.mpr ⟨i.outline_listed, Item.outlines_listed is⟩

theorem Body.outline_listed : (b : Body) → Listed default b.outline
  | .mk _ statements => .of_links (.refl _) (.many (Stmt.outlines_listed statements) .nil)

theorem Body.link_listed {edge : Edge} : (o : Option Body) → LinksListed default (linkIfAny edge (Body.outline? o))
  | none => .nil
  | some b => .one b.outline_listed .nil

theorem Func.outline_listed {kind : Kind} (hk : Schema.edges default kind = [.id, .body]) :
    (f : Func) → Listed default (f.outline kind)
  | .mk _ id body =>
    .of_links (hk ▸ edges_append (linkIfAny_edges ..) (linkIfAny_edges ..))
      ((linkIfAny_listed Ident.outline_listed id).append (Body.link_listed body))

theorem Class.outline_listed {kind : Kind} (hk : Schema.edges default kind = [.id, .superClass, .body]) :
    (c : Class) → Listed default (c.outline kind)
  | .mk _ id superClass _ members =>
    .of_links (hk ▸ edges_append (edges_append (linkIfAny_edges ..) (linkIfAny_edges ..)) (.refl _))
      (((linkIfAny_listed Ident.outline_listed id).append (Expr.link_listed superClass)).append
        (.one (.of_links (.refl _) (.many (ClassMember.outlines_listed members) .nil)) .nil))

theorem ClassMember.outline_listed : (m : ClassMember) → Listed default m.outline
  | .method _ key value =>
    .of_links (edges_append key.outline_edges (.refl _))
      (key.outline_listed.append (.one (value.outline_listed rfl) .nil))
  | .other _ => .leaf ..

theorem ClassMember.outlines_listed : (ms : List ClassMember) → ∀ n ∈ ClassMember.outlines ms, Listed default n
  | [] => List.forall_mem_nil _
  | m :: ms => List.forall_mem_cons.mpr ⟨m.outline_listed, ClassMember.outlines_listed ms⟩

theorem Markup.outline_listed : (m : Markup) → Listed default m.outline
  | .element _ _ _ _ typeArguments attributes children =>
    .of_links (.refl _)
      (.one
        (.of_links (edges_append (edges_append (.refl _) (linkIfAny_edges ..)) (.refl _))
          (((LinksListed.one (.named ..) .nil).append (linkIfAny_listed (fun _ => .leaf ..) typeArguments)).append
            (.many (Attribute.outlines_listed attributes) .nil)))
        (.many (Child.outlines_listed children) .nil))
  | .fragment _ children => .of_links (.refl _) (.many (Child.outlines_listed children) .nil)

theorem Attribute.outline_listed : (a : Attribute) → Listed default a.outline
  | .named _ _ value =>
    .of_links (linkIfAny_edges ..) (AttributeValue.link_listed value)
  | .spread _ argument => .of_links (.refl _) (.one argument.outline_listed .nil)

theorem Attribute.outlines_listed : (as : List Attribute) → ∀ n ∈ Attribute.outlines as, Listed default n
  | [] => List.forall_mem_nil _
  | a :: as => List.forall_mem_cons.mpr ⟨a.outline_listed, Attribute.outlines_listed as⟩

theorem AttributeValue.outline_listed : (v : AttributeValue) → Listed default v.outline
  | .string l => l.outline_listed
  | .container _ content => .of_links (linkIfAny_edges ..) (Expr.link_listed content)
  | .markup m => m.outline_listed

theorem AttributeValue.link_listed {edge : Edge} :
    (o : Option AttributeValue) → LinksListed default (linkIfAny edge (AttributeValue.outline? o))
  | none => .nil
  | some v => .one v.outline_listed .nil

theorem Child.outline_listed : (c : Child) → Listed default c.outline
  | .text _ => .leaf ..
  | .markup m => m.outline_listed
  | .container _ content => .of_links (linkIfAny_edges ..) (Expr.link_listed content)
  | .spread _ content => .of_links (.refl _) (.one content.outline_listed .nil)

theorem Child.outlines_listed : (cs : List Child) → ∀ n ∈ Child.outlines cs, Listed default n
  | [] => List.forall_mem_nil _
  | c :: cs => List.forall_mem_cons.mpr ⟨c.outline_listed, Child.outlines_listed cs⟩

theorem Stmt.outline_listed : (s : Stmt) → Listed default s.outline
  | .declaration d => d.outline_listed
  | .expression _ e => .of_links (.refl _) (.one e.outline_listed .nil)
  | .returning _ argument => .of_links (linkIfAny_edges ..) (Expr.link_listed argument)
  | .block _ statements => .of_links (.refl _) (.many (Stmt.outlines_listed statements) .nil)
  | .conditional _ test consequent alternate =>
    .of_links (edges_append (.refl _) (linkIfAny_edges ..))
      ((LinksListed.one test.outline_listed (.one consequent.outline_listed .nil)).append
        (Stmt.link_listed alternate))
  | .exportNamed _ _ declaration _ source =>
    .of_links (edges_append (edges_append (linkIfAny_edges ..) (.refl _)) (linkIfAny_edges ..))
      (((Declaration.link_listed declaration).append
        (.many (List.forall_mem_map.mpr fun s _ => s.outline_listed) .nil)).append
        (linkIfAny_listed StringLiteral.outline_listed source))
  | .exportDefault _ value => .of_links (.refl _) (.one value.outline_listed .nil)
  | .other _ => .leaf ..

theorem Stmt.outlines_listed : (ss : List Stmt) → ∀ n ∈ Stmt.outlines ss, Listed default n
  | [] => List.forall_mem_nil _
  | s :: ss => List.forall_mem_cons.mpr ⟨s.outline_listed, Stmt.outlines_listed ss⟩

theorem Stmt.link_listed {edge : Edge} : (o : Option Stmt) → LinksListed default (linkIfAny edge (Stmt.outline? o))
  | none => .nil
  | some s => .one s.outline_listed .nil

theorem Declaration.outline_listed : (d : Declaration) → Listed default d.outline
  | .variables _ declarators => .of_links (.refl _) (.many (Declarator.outlines_listed declarators) .nil)
  | .function f => f.outline_listed rfl
  | .classDecl c => c.outline_listed rfl
  | .other _ => .leaf ..

theorem Declaration.link_listed {edge : Edge} :
    (o : Option Declaration) → LinksListed default (linkIfAny edge (Declaration.outline? o))
  | none => .nil
  | some d => .one d.outline_listed .nil

theorem Declarator.outline_listed : (d : Declarator) → Listed default d.outline
  | .mk _ binding init =>
    .of_links (edges_append (.refl _) (linkIfAny_edges ..))
      ((LinksListed.one binding.outline_listed .nil).append (Expr.link_listed init))

theorem Declarator.outlines_listed : (ds : List Declarator) → ∀ n ∈ Declarator.outlines ds, Listed default n
  | [] => List.forall_mem_nil _
  | d :: ds => List.forall_mem_cons.mpr ⟨d.outline_listed, Declarator.outlines_listed ds⟩

theorem DefaultExport.outline_listed : (x : DefaultExport) → Listed default x.outline
  | .function f => f.outline_listed rfl
  | .classDecl c => c.outline_listed rfl
  | .expr e => e.outline_listed
  | .other _ => .leaf ..

end

theorem Program.outline_listed (p : Program) : Listed default p.outline :=
  .of_links (.refl _) (.many (Stmt.outlines_listed p.statements) .nil)

-- A search of an outline that always goes on visits every node, and no place twice. No node has two
-- edges of one name, and each of its edges is listed once.
theorem outline_visited_once {σ : Type} (observe : σ → Visit → σ) (p : Program) (state : σ) :
    let log := visits default (observing observe) p.outline state
    (log.map fun l => l.1.place).Perm p.outline.places ∧
      (p.outline.places.map Place.path).Nodup ∧
      ∀ q ∈ p.outline.places, (q.node.links.map Link.edge).Nodup ∧
        ∀ l ∈ q.node.links, (Schema.edges default q.node.kind).count l.edge = 1 := by
  have hbelow : (default : Schema).branching.below (.root p.outline) = p.outline.places :=
    Listed.below_eq nodup_default_edges p.outline_listed
  refine ⟨?_, ?_, fun q hq => ?_⟩
  · rw [← hbelow]
    exact visits_observing default observe p.outline state
  · rw [← hbelow]
    exact Branching.nodup_below (fun n => Schema.nodup_successors (nodup_default_edges n.kind)) _
  · have hedges := (Listed.of_mem_below p.outline_listed hq).edges
    have hnodup := nodup_default_edges q.node.kind
    refine ⟨hedges.nodup hnodup, fun l hl => ?_⟩
    exact List.count_eq_one_of_mem hnodup (hedges.subset (List.mem_map_of_mem hl))

theorem outline_visited_once_fragment :
    let p : Program := ⟨{}, [.expression {} (.markup (.fragment {} [.text {}, .spread {} (.null {})]))]⟩
    let log := visits default (observing fun n _ => n + 1) p.outline 0
    p.outline.places.length = 6 ∧ (log.map fun l => l.1.place).Perm p.outline.places ∧
      ∀ q ∈ p.outline.places, ∀ l ∈ q.node.links, (Schema.edges default q.node.kind).count l.edge = 1 := by
  intro p log
  have h := outline_visited_once (fun n _ => n + 1) p 0
  exact ⟨by decide +kernel, h.left, fun q hq => (h.right.right q hq).right⟩

end Script
end MarkerLint
