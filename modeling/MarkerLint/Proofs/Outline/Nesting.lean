import MarkerLint.Proofs.Outline.Places

namespace MarkerLint

-- The span reaches over no end of the other one.
structure Span.Inside (a b : Span) : Prop where
  start : b.start ≤ a.start
  stop : a.stop ≤ b.stop

theorem Span.Inside.refl (a : Span) : a.Inside a :=
  ⟨Nat.le_refl _, Nat.le_refl _⟩

theorem Span.Inside.trans {a b c : Span} (h : a.Inside b) (h' : b.Inside c) : a.Inside c :=
  ⟨Nat.le_trans h'.start h.start, Nat.le_trans h.stop h'.stop⟩

instance (a b : Span) : Decidable (a.Inside b) :=
  decidable_of_iff (b.start ≤ a.start ∧ a.stop ≤ b.stop) ⟨fun h => ⟨h.1, h.2⟩, fun h => ⟨h.1, h.2⟩⟩

open Outline

-- The span of a node runs forward, holds those of its children, and what an edge leads to comes in order.
structure Outline.Node.NestsSpans (n : Node) : Prop where
  forward : n.span.start ≤ n.span.stop
  inside : ∀ e, ∀ c ∈ n.follow e, c.span.Inside n.span
  ordered : ∀ e, (n.follow e).Pairwise fun a b => a.span.stop ≤ b.span.start

instance : DecidablePred Node.NestsSpans := fun n =>
  decidable_of_iff
    (n.span.start ≤ n.span.stop ∧ (∀ e ∈ Edge.all, ∀ c ∈ n.follow e, c.span.Inside n.span) ∧
      ∀ e ∈ Edge.all, (n.follow e).Pairwise fun a b => a.span.stop ≤ b.span.start)
    ⟨fun ⟨hf, hi, ho⟩ => ⟨hf, fun e => hi e (Edge.mem_all e), fun e => ho e (Edge.mem_all e)⟩,
      fun h => ⟨h.forward, fun e _ => h.inside e, fun e _ => h.ordered e⟩⟩

section

variable {root n : Node} {path : NodePath} {p q r : Place} {e : Edge}

theorem inside_of_at? (h : root.Every Node.NestsSpans) (hn : root.at? path = some n) : n.span.Inside root.span := by
  induction path generalizing n
  case nil => exact Option.some.inj hn ▸ .refl _
  case cons s path hi =>
    have ⟨m, hm, hc⟩ := Option.bind_eq_some_iff.mp hn
    exact ((h path m hm).inside s.edge n (List.mem_of_getElem? hc)).trans (hi hm)

theorem inside_of_child? (h : root.Every Node.NestsSpans) (hn : root.child? e = some n) : n.span.Inside root.span :=
  h.here.inside e n (List.mem_of_getElem? (Node.follow_of_child? hn))

theorem every_of_child? {P : Node → Prop} (h : root.Every P) (hn : root.child? e = some n) : n.Every P :=
  h.follow (List.mem_of_getElem? (Node.follow_of_child? hn))

theorem Outline.Place.Within.every (h : r.Within q) {P : Node → Prop} (hq : q.node.Every P) : r.node.Every P := by
  have ⟨_, _, hat⟩ := h
  exact hq.below hat

theorem Outline.Place.Within.inside (h : r.Within q) (hq : q.node.Every Node.NestsSpans) :
    r.node.span.Inside q.node.span := by
  have ⟨_, _, hat⟩ := h
  exact inside_of_at? hq hat

theorem pairwise_children_spans (h : p.node.NestsSpans) (e : Edge) :
    (p.children e).Pairwise fun q r => q.node.span.stop ≤ r.node.span.start := by
  refine List.pairwise_iff_getElem.mpr fun i j hi hj hlt => ?_
  simp only [Place.children, List.length_mapIdx] at hi hj
  simp only [Place.children, List.getElem_mapIdx]
  have hfi := Node.follow_of_children (List.getElem?_eq_getElem hi)
  have hfj := Node.follow_of_children (List.getElem?_eq_getElem hj)
  obtain ⟨hi', hfi⟩ := List.getElem?_eq_some_iff.mp hfi
  obtain ⟨hj', hfj⟩ := List.getElem?_eq_some_iff.mp hfj
  rw [← hfi, ← hfj]
  exact List.pairwise_iff_getElem.mp (h.ordered e) i j hi' hj' hlt

end

end MarkerLint
