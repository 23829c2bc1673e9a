import Mathlib.Data.List.Forall2
import MarkerLint.Proofs.Outline.Places

-- Trees side by side. Two nodes are parallel at an edge if it leads to a single node in both or to a sequence in
-- both, and what it leads to is related step by step. All ways to go down from the one node then have a counterpart
-- in the other.

namespace MarkerLint.Outline

section

variable {α β γ δ : Type} {R : α → β → Prop} {S : γ → δ → Prop} {a : Option α} {b : Option β}

theorem rel_cases (h : Option.Rel R a b) : a = none ∧ b = none ∨ ∃ x y, a = some x ∧ b = some y ∧ R x y := by
  cases h
  case none => exact .inl ⟨rfl, rfl⟩
  case some h => exact .inr ⟨_, _, rfl, rfl, h⟩

theorem rel_bind {f : α → Option γ} {g : β → Option δ} (h : Option.Rel R a b)
    (hf : ∀ x y, R x y → Option.Rel S (f x) (g y)) : Option.Rel S (a.bind f) (b.bind g) := by
  cases h
  case none => exact .none
  case some h => exact hf _ _ h

theorem rel_map {f : α → γ} {g : β → δ} (h : Option.Rel R a b) (hf : ∀ x y, R x y → S (f x) (g y)) :
    Option.Rel S (a.map f) (b.map g) := by
  cases h
  case none => exact .none
  case some h => exact .some (hf _ _ h)

theorem rel_toList (h : Option.Rel R a b) : List.Forall₂ R a.toList b.toList := by
  cases h
  case none => exact .nil
  case some h => exact .cons h .nil

theorem rel_find? {p : α → Bool} {q : β → Bool} {l : List α} {l' : List β} (h : List.Forall₂ R l l')
    (hp : ∀ x y, R x y → q y = p x) : Option.Rel R (l.find? p) (l'.find? q) := by
  induction h
  case nil => exact .none
  case cons x y _ _ h _ hi =>
    rw [List.find?_cons, List.find?_cons, hp x y h]
    split
    · exact .some h
    · exact hi

theorem exists_of_mem {l : List α} {l' : List β} {y : β} (h : List.Forall₂ R l l') (hy : y ∈ l') :
    ∃ x ∈ l, R x y := by
  induction h
  case nil => contradiction
  case cons x _ _ _ h _ hi =>
    cases List.mem_cons.mp hy
    case inl hy => exact ⟨x, List.mem_cons_self, hy ▸ h⟩
    case inr hy =>
      have ⟨x, hx, h⟩ := hi hy
      exact ⟨x, List.mem_cons_of_mem _ hx, h⟩

theorem exists_mem_iff {P : α → Prop} {Q : β → Prop} {l : List α} {l' : List β} (h : List.Forall₂ R l l')
    (hp : ∀ x y, R x y → (Q y ↔ P x)) : (∃ y ∈ l', Q y) ↔ ∃ x ∈ l, P x := by
  induction h
  case nil => simp
  case cons h _ hi => simp [hp _ _ h, hi]

end

-- A link leads to a sequence, not to a single node.
def Link.isMany : Link → Bool
  | one .. => false
  | many .. => true

theorem Node.child?_eq (n : Node) (e : Edge) :
    n.child? e = if (n.link? e).map Link.isMany = some false then (n.follow e).head? else none := by
  rw [child?, follow]
  rcases n.link? e with _ | (_ | _) <;> simp [Link.isMany, Link.nodes]

theorem Node.children_eq (n : Node) (e : Edge) :
    n.children e = if (n.link? e).map Link.isMany = some true then n.follow e else [] := by
  rw [children, follow]
  rcases n.link? e with _ | (_ | _) <;> simp [Link.isMany, Link.nodes]

-- Lists that agree index by index are related after they are mapped.
theorem forall₂_mapIdx {α β γ δ : Type} {R : γ → δ → Prop} {l : List α} {l' : List β} {f : Nat → α → γ}
    {g : Nat → β → δ} (hl : l'.length = l.length)
    (h : ∀ i a b, l[i]? = some a → l'[i]? = some b → R (f i a) (g i b)) :
    List.Forall₂ R (l.mapIdx f) (l'.mapIdx g) := by
  refine List.forall₂_iff_get.mpr ⟨by simp [hl], fun i hi hi' => ?_⟩
  simp only [List.length_mapIdx] at hi hi'
  simpa using h i l[i] l'[i] (List.getElem?_eq_getElem hi) (List.getElem?_eq_getElem hi')

structure Parallel (R : Step → Node → Node → Prop) (n n' : Node) (e : Edge) : Prop where
  shape : (n'.link? e).map Link.isMany = (n.link? e).map Link.isMany
  length : (n'.follow e).length = (n.follow e).length
  below : ∀ i c c', (n.follow e)[i]? = some c → (n'.follow e)[i]? = some c' → R ⟨e, i⟩ c c'

namespace Parallel

variable {R : Step → Node → Node → Prop} {n n' : Node} {e : Edge}

theorem child? (p : Parallel R n n' e) : Option.Rel (R ⟨e, 0⟩) (n.child? e) (n'.child? e) := by
  rw [n.child?_eq, n'.child?_eq, p.shape]
  split
  case isFalse => exact .none
  case isTrue =>
    have hl := p.length
    cases hf : n.follow e <;> cases hf' : n'.follow e
    case nil.nil => exact .none
    case nil.cons | cons.nil => simp [hf, hf'] at hl
    case cons.cons => exact .some (p.below 0 _ _ (by simp [hf]) (by simp [hf']))

theorem map_child? (p : Parallel R n n' e) {α : Type} {f : Node → α} (hf : ∀ {s c c'}, R s c c' → f c' = f c) :
    (n'.child? e).map f = (n.child? e).map f := by
  cases rel_cases p.child?
  case inl h => rw [h.left, h.right]
  case inr h =>
    have ⟨c, c', hc, hc', hr⟩ := h
    simp [hc, hc', hf hr]

theorem length_children (p : Parallel R n n' e) : (n'.children e).length = (n.children e).length := by
  rw [n.children_eq, n'.children_eq, p.shape]
  split
  case isFalse => rfl
  case isTrue => exact p.length

theorem children (p : Parallel R n n' e) {i : Nat} {c c' : Node} (hc : (n.children e)[i]? = some c)
    (hc' : (n'.children e)[i]? = some c') : R ⟨e, i⟩ c c' :=
  p.below i c c' (Node.follow_of_children hc) (Node.follow_of_children hc')

-- What cannot tell related nodes apart gives the same for all children.
theorem map_children (p : Parallel R n n' e) {α : Type} {f : Node → α} (hf : ∀ {s c c'}, R s c c' → f c' = f c) :
    (n'.children e).map f = (n.children e).map f := by
  refine List.ext_getElem (by simp [p.length_children]) fun i hi' hi => ?_
  simp only [List.length_map] at hi hi'
  simpa using hf (p.children (List.getElem?_eq_getElem hi) (List.getElem?_eq_getElem hi'))

-- A search goes the same ways from nodes that are parallel at all edges.
theorem forall₂_successors (p : ∀ e, Parallel R n n' e) (hk : n'.kind = n.kind) (schema : Schema) :
    List.Forall₂ (fun x x' => x'.1 = x.1 ∧ R x.1 x.2 x'.2) (schema.successors n) (schema.successors n') := by
  rw [Schema.successors, Schema.successors, hk]
  induction schema.edges n.kind
  case nil => exact .nil
  case cons e edges hi =>
    refine List.rel_append (forall₂_mapIdx (p e).length fun i c c' hc hc' => ?_) hi
    exact ⟨rfl, (p e).below i c c' hc hc'⟩

end Parallel
end MarkerLint.Outline
