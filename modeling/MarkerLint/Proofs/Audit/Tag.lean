import MarkerLint.Component.Audit

namespace MarkerLint

namespace Outline

-- What is seen of a node without going below it.
def Node.look (n : Node) : Kind × Option String :=
  (n.kind, n.name)

-- The attributes of the opening tag, as far as the audit looks at them.
def Node.attributeLooks? (n : Node) : Option (List (Kind × Option String)) :=
  (n.child? .openingElement).map fun opening => (opening.children .attributes).map look

-- What the audit reads of an opening tag.
structure TagView where
  attributes : List (Kind × Option String)
  span : Span
  -- Where a marker goes behind the name or the type arguments.
  anchor : Option Nat

def Node.tagView (opening : Node) : TagView where
  attributes := (opening.children .attributes).map look
  span := opening.span
  anchor := ((opening.child? .typeArguments).or (opening.child? .name)).map (·.span.stop)

def Node.tag? (n : Node) : Option TagView :=
  (n.child? .openingElement).map tagView

theorem Node.attributeLooks?_eq (n : Node) : n.attributeLooks? = n.tag?.map TagView.attributes := by
  rw [attributeLooks?, tag?, Option.map_map]
  rfl

end Outline

open Outline

theorem isFragment_iff (n : Node) :
    isFragment n ↔ n.kind = .jsxFragment ∨
      n.kind = .jsxElement ∧ n.attributeLooks? = some [] ∧
        (n.name.getD "" = "Fragment" ∨ n.name.getD "" = "React.Fragment" ∨ (n.name.getD "").endsWith ".Fragment") := by
  unfold isFragment
  split
  case h_1 hk => simp [hk]
  case h_2 hk => cases hc : n.child? .openingElement <;> simp [Node.attributeLooks?, hk, hc, or_assoc, and_comm]
  case h_3 hf he => simp [show n.kind ≠ .jsxFragment from hf, show n.kind ≠ .jsxElement from he]

theorem hasAttribute_iff (n : Node) (name : String) :
    hasAttribute n name ↔ ∃ looks, n.attributeLooks? = some looks ∧ (.jsxAttribute, some name) ∈ looks := by
  unfold hasAttribute
  cases hc : n.child? .openingElement <;> simp [Node.attributeLooks?, Node.look, hc]

theorem Violation.openingSpan_eq (v : Violation) :
    v.openingSpan = (v.target.node.tag?.map TagView.span).getD v.target.node.span := by
  unfold openingSpan
  cases hc : v.target.node.child? .openingElement <;> simp [Node.tag?, Node.tagView, hc]

theorem markerOffset_eq (n : Node) : markerOffset n = (n.tag?.bind TagView.anchor).getD n.span.start := by
  unfold markerOffset
  cases hc : n.child? .openingElement
  case none => simp [Node.tag?, hc]
  case some opening =>
    cases ht : opening.child? .typeArguments <;> cases hn : opening.child? .name <;>
      simp [Node.tag?, Node.tagView, hc, ht, hn]

end MarkerLint
