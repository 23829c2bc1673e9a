import Mathlib.Data.List.Forall2
import MarkerLint.Proofs.Audit.Tag
import MarkerLint.Proofs.Audit.Verdict
import MarkerLint.Proofs.Outline.Parallel

-- Marking a tree. One more attribute stands in the opening tag of every target, spans are as they may be, and all
-- else is as before. Seen from anywhere but the opening tag of a target, nothing changes.

namespace MarkerLint

open Outline

-- The path of the opening tag of a target.
def IsOpening (targets : List NodePath) (path : NodePath) : Prop :=
  ∃ t ∈ targets, path = ⟨.openingElement, 0⟩ :: t

-- One attribute of that name was put in somewhere.
def AttributeAdded (marker : String) (old new : List Node) : Prop :=
  ∃ before after extra, old = before ++ after ∧ new = before ++ extra :: after ∧
    extra.kind = .jsxAttribute ∧ extra.name = some marker

-- The second tree is the first one marked at its targets. Both stand at a path, and the targets are
-- given by their paths in the first tree. What an edge leads to in the second tree, apart from the new
-- attribute, is `kept`. Of several links with one edge only the first can be seen, so nothing is said
-- about the others.
inductive Marking (marker : String) (targets : List NodePath) : NodePath → Node → Node → Prop
  | node {path n n'} (kept : Edge → List Node)
    (kind : n'.kind = n.kind) (name : n'.name = n.name)
    (shape : ∀ e, (n'.link? e).map Link.isMany = (n.link? e).map Link.isMany)
    (added : ∀ e, e = .attributes ∧ IsOpening targets path → AttributeAdded marker (kept e) (n'.follow e))
    (same : ∀ e, ¬(e = .attributes ∧ IsOpening targets path) → n'.follow e = kept e)
    (length : ∀ e, (kept e).length = (n.follow e).length)
    (below : ∀ e i c c', (n.follow e)[i]? = some c → (kept e)[i]? = some c' →
      Marking marker targets (⟨e, i⟩ :: path) c c') :
    Marking marker targets path n n'

theorem isOpening_cons {targets : List NodePath} {path : NodePath} :
    IsOpening targets (⟨.openingElement, 0⟩ :: path) ↔ path ∈ targets := by
  simp [IsOpening]

namespace Marking

variable {marker : String} {targets : List NodePath} {path : NodePath} {n n' : Node} {e : Edge}

theorem kind_eq : Marking marker targets path n n' → n'.kind = n.kind
  | node _ kind _ _ _ _ _ _ => kind

theorem name_eq : Marking marker targets path n n' → n'.name = n.name
  | node _ _ name _ _ _ _ _ => name

-- Away from the new attributes, a node and the same node marked lead to the same.
theorem parallel (m : Marking marker targets path n n') (h : ¬(e = .attributes ∧ IsOpening targets path)) :
    Parallel (fun s => Marking marker targets (s :: path)) n n' e := by
  have ⟨_, _, _, shape, _, same, length, below⟩ := m
  refine ⟨shape e, by rw [same e h, length e], fun i c c' hc hc' => ?_⟩
  exact below e i c c' hc (same e h ▸ hc')

theorem identifier?_eq (m : Marking marker targets path n n') (he : e ≠ .attributes) :
    n'.identifier? e = n.identifier? e := by
  unfold Node.identifier?
  obtain ⟨hc, hc'⟩ | ⟨c, c', hc, hc', mc⟩ := rel_cases (m.parallel fun h => he h.left).child?
  · simp [hc, hc']
  · simp [hc, hc', mc.kind_eq, mc.name_eq]

-- The opening tags of elements that are no targets have attributes that look alike.
theorem attributeLooks?_eq (m : Marking marker targets path n n') (h : path ∉ targets) :
    n'.attributeLooks? = n.attributeLooks? := by
  obtain ⟨hc, hc'⟩ | ⟨o, o', hc, hc', mo⟩ := rel_cases (m.parallel (e := .openingElement) (by simp)).child?
  · simp [Node.attributeLooks?, hc, hc']
  · simp only [Node.attributeLooks?, hc, hc', Option.map_some, Option.some.injEq]
    refine (mo.parallel fun hp => h (isOpening_cons.mp hp.right)).map_children fun ma => ?_
    rw [Node.look, Node.look, ma.kind_eq, ma.name_eq]

theorem isFragment_eq (m : Marking marker targets path n n') (h : path ∉ targets) :
    isFragment n' = isFragment n := by
  rw [Bool.eq_iff_iff, isFragment_iff, isFragment_iff, m.attributeLooks?_eq h, m.kind_eq, m.name_eq]

theorem hasAttribute_eq (m : Marking marker targets path n n') (h : path ∉ targets) (name : String) :
    hasAttribute n' name = hasAttribute n name := by
  rw [Bool.eq_iff_iff, hasAttribute_iff, hasAttribute_iff, m.attributeLooks?_eq h]

theorem closes_eq {policy : Policy} (m : Marking marker targets path n n') (h : path ∉ targets) :
    closes policy n' = closes policy n := by
  simp [closes, isMarked, m.isFragment_eq h, m.hasAttribute_eq h, m.kind_eq]

end Marking

-- The opening tag has a place for attributes.
def HasAttributeList (n : Node) : Prop :=
  ∃ opening e attributes, n.child? .openingElement = some opening ∧
    opening.link? .attributes = some (.many e attributes)

instance (n : Node) : Decidable (HasAttributeList n) :=
  decidable_of_iff (((n.child? .openingElement).bind (·.link? .attributes)).any Link.isMany) <| by
    simp only [Option.any_eq_true, Option.bind_eq_some_iff, HasAttributeList]
    constructor
    case mp =>
      rintro ⟨l, ⟨opening, hc, hl⟩, hm⟩
      cases l
      case one => contradiction
      case many e attributes => exact ⟨opening, e, attributes, hc, hl⟩
    case mpr =>
      rintro ⟨opening, e, attributes, hc, hl⟩
      exact ⟨_, ⟨opening, hc, hl⟩, rfl⟩

theorem Marking.hasAttribute_of_mem {marker : String} {targets : List NodePath} {path : NodePath} {n n' : Node}
    (m : Marking marker targets path n n') (ht : path ∈ targets) (h : HasAttributeList n) :
    hasAttribute n' marker = true := by
  have ⟨opening, e, attributes, hc, hl⟩ := h
  obtain ⟨hn, _⟩ | ⟨o, o', ho, ho', mo⟩ := rel_cases (m.parallel (e := .openingElement) (by simp)).child?
  · simp [hc] at hn
  · obtain rfl : opening = o := Option.some.inj (hc.symm.trans ho)
    have ⟨_, _, _, shape, added, _, _, _⟩ := mo
    have hs : o'.children .attributes = o'.follow .attributes := by
      rw [Node.children_eq, shape, hl]
      rfl
    have ⟨before, after, extra, _, hf, hk, hn⟩ := added .attributes ⟨rfl, isOpening_cons.mpr ht⟩
    simp [hasAttribute, ho', hs, hf, hk, hn]

instance (targets : List NodePath) (path : NodePath) : Decidable (IsOpening targets path) :=
  inferInstanceAs (Decidable (∃ t ∈ targets, _))

-- Puts an attribute into the opening tag of every target.
mutual

def markNode (extra : Node) (targets : List NodePath) (path : NodePath) : Node → Node
  | .mk kind span name links => .mk kind span name (markLinks extra targets path links)

def markLinks (extra : Node) (targets : List NodePath) (path : NodePath) : List Link → List Link
  | [] => []
  | l :: links => markLink extra targets path l :: markLinks extra targets path links

def markLink (extra : Node) (targets : List NodePath) (path : NodePath) : Link → Link
  | .one e c => .one e (markNode extra targets (⟨e, 0⟩ :: path) c)
  | .many e cs =>
    let marked := markNodes extra targets path e 0 cs
    .many e (if e = .attributes ∧ IsOpening targets path then extra :: marked else marked)

def markNodes (extra : Node) (targets : List NodePath) (path : NodePath) (e : Edge) (i : Nat) :
    List Node → List Node
  | [] => []
  | c :: cs => markNode extra targets (⟨e, i⟩ :: path) c :: markNodes extra targets path e (i + 1) cs

end

section

variable {marker : String} {extra root : Node} {targets : List NodePath}

theorem markNodes_eq (path : NodePath) (e : Edge) (i : Nat) (cs : List Node) :
    markNodes extra targets path e i cs = cs.mapIdx fun j c => markNode extra targets (⟨e, i + j⟩ :: path) c := by
  induction cs generalizing i
  case nil => rfl
  case cons c cs hi => simp [markNodes, hi, List.mapIdx_cons, Nat.add_assoc, Nat.add_comm 1]

theorem markNode_link? (path : NodePath) (n : Node) (e : Edge) :
    (markNode extra targets path n).link? e = (n.link? e).map (markLink extra targets path) := by
  cases n
  case mk kind span name links =>
    simp only [markNode, Node.link?, Node.links]
    induction links
    case nil => rfl
    case cons l links hi =>
      have he : (markLink extra targets path l).edge = l.edge := by cases l <;> rfl
      simp only [markLinks, List.find?_cons, he, hi]
      split <;> rfl

theorem markNode_follow (path : NodePath) (n : Node) (e : Edge) :
    (markNode extra targets path n).follow e =
      let kept := (n.follow e).mapIdx fun i c => markNode extra targets (⟨e, i⟩ :: path) c
      if e = .attributes ∧ IsOpening targets path ∧ (n.link? e).map Link.isMany = some true then
        extra :: kept
      else kept := by
  rw [Node.follow, markNode_link?, Node.follow]
  cases hl : n.link? e
  case none => simp
  case some l =>
    obtain rfl : l.edge = e := by simpa using List.find?_some hl
    cases l
    case one => simp [markLink, Link.nodes, Link.isMany, Link.edge]
    case many => simp [markLink, Link.nodes, Link.isMany, Link.edge, markNodes_eq]

-- The opening tag of a target has a place for attributes.
theorem isMany_of_isOpening (hopen : ∀ t ∈ targets, ∀ x, root.at? t = some x → HasAttributeList x)
    {path : NodePath} {n : Node} (hat : root.at? path = some n) (ho : IsOpening targets path) :
    (n.link? .attributes).map Link.isMany = some true := by
  obtain ⟨t, ht, rfl⟩ := ho
  have ⟨x, hx, hn⟩ := Option.bind_eq_some_iff.mp hat
  have ⟨opening, e, attributes, hc, hl⟩ := hopen t ht x hx
  obtain rfl : opening = n := Option.some.inj ((Node.follow_of_child? hc).symm.trans hn)
  simp [hl, Link.isMany]

-- Any tree whose targets can take an attribute can be marked.
theorem marking_markNode (hk : extra.kind = .jsxAttribute) (hn : extra.name = some marker)
    (hopen : ∀ t ∈ targets, ∀ x, root.at? t = some x → HasAttributeList x) {path : NodePath} {n : Node}
    (hat : root.at? path = some n) : Marking marker targets path n (markNode extra targets path n) := by
  induction hs : sizeOf n using Nat.strongRecOn generalizing path n
  case _ size hi =>
    refine .node (fun e => (n.follow e).mapIdx fun i c => markNode extra targets (⟨e, i⟩ :: path) c)
      (by cases n; rfl) (by cases n; rfl) (fun e => ?_) (fun e he => ?_) (fun e he => ?_) (fun e => by simp)
      fun e i c c' hc hc' => ?_
    case refine_1 =>
      rw [markNode_link?]
      rcases n.link? e with _ | (_ | _) <;> rfl
    case refine_2 =>
      obtain ⟨rfl, ho⟩ := he
      refine ⟨[], _, extra, rfl, ?_, hk, hn⟩
      rw [markNode_follow]
      exact if_pos ⟨rfl, ho, isMany_of_isOpening hopen hat ho⟩
    case refine_3 =>
      rw [markNode_follow]
      exact if_neg fun h => he ⟨h.left, h.right.left⟩
    case refine_4 =>
      obtain rfl : markNode extra targets (⟨e, i⟩ :: path) c = c' := by simpa [hc] using hc'
      refine hi _ (hs ▸ Node.sizeOf_lt_of_mem_follow (List.mem_of_getElem? hc)) ?_ rfl
      simp [Node.at?, hat, hc]

end

end MarkerLint
