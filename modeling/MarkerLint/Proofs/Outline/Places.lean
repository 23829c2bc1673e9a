import Mathlib.Data.List.Basic
import MarkerLint.Outline.Search

namespace MarkerLint.Outline

theorem Node.at?_append (n : Node) (way path : NodePath) :
    n.at? (way ++ path) = (n.at? path).bind (·.at? way) := by
  induction way
  case nil => cases h : n.at? path <;> simp [at?, h]
  case cons s way hi => simp [at?, hi, Option.bind_assoc]

theorem Node.follow_of_child? {n c : Node} {e : Edge} (h : n.child? e = some c) : (n.follow e)[0]? = some c := by
  unfold child? at h
  split at h
  case h_1 hl => simpa [follow, hl, Link.nodes] using h
  case h_2 => contradiction

theorem Node.follow_of_children {n c : Node} {e : Edge} {i : Nat} (h : (n.children e)[i]? = some c) :
    (n.follow e)[i]? = some c := by
  unfold children at h
  split at h
  case h_1 hl => simpa [follow, hl, Link.nodes] using h
  case h_2 => simp at h

namespace Place

-- The place is a node of the tree at another place.
def Within (r q : Place) : Prop :=
  ∃ way, r.path = way ++ q.path ∧ q.node.at? way = some r.node

theorem Within.refl (q : Place) : q.Within q :=
  ⟨[], rfl, rfl⟩

theorem Within.trans {r q p : Place} (hr : r.Within q) (hq : q.Within p) : r.Within p := by
  have ⟨way, hp, hn⟩ := hr
  have ⟨way', hp', hn'⟩ := hq
  exact ⟨way ++ way', by simp [hp, hp'], by simp [Node.at?_append, hn', hn]⟩

theorem within_root {q : Place} {program : Node} : q.Within (root program) ↔ q.In program := by
  simp [Within, In, root]

theorem child?_eq_some {p q : Place} {e : Edge} :
    p.child? e = some q ↔ q.path = ⟨e, 0⟩ :: p.path ∧ p.node.child? e = some q.node := by
  cases q
  simp only [child?, Option.map_eq_some_iff, mk.injEq]
  constructor
  case mp =>
    rintro ⟨c, hc, rfl, rfl⟩
    exact ⟨rfl, hc⟩
  case mpr =>
    rintro ⟨rfl, hc⟩
    exact ⟨_, hc, rfl, rfl⟩

theorem mem_children {p q : Place} {e : Edge} :
    q ∈ p.children e ↔ ∃ i, q.path = ⟨e, i⟩ :: p.path ∧ (p.node.children e)[i]? = some q.node := by
  cases q
  simp only [children, List.mem_mapIdx, mk.injEq]
  constructor
  case mp =>
    rintro ⟨i, hi, rfl, rfl⟩
    exact ⟨i, rfl, List.getElem?_eq_getElem hi⟩
  case mpr =>
    rintro ⟨i, rfl, hc⟩
    have ⟨hi, hc⟩ := List.getElem?_eq_some_iff.mp hc
    exact ⟨i, hi, rfl, hc⟩

theorem child?_of_node {p : Place} {e : Edge} {c : Node} (h : p.node.child? e = some c) :
    p.child? e = some ⟨⟨e, 0⟩ :: p.path, c⟩ :=
  child?_eq_some.mpr ⟨rfl, h⟩

theorem map_node_children (p : Place) (e : Edge) : (p.children e).map node = p.node.children e := by
  apply List.ext_getElem <;> simp [children]

theorem within_of_child? {p q : Place} {e : Edge} (h : p.child? e = some q) : q.Within p := by
  have ⟨hp, hc⟩ := child?_eq_some.mp h
  exact ⟨[⟨e, 0⟩], hp, by simp [Node.at?, Node.follow_of_child? hc]⟩

theorem within_of_mem_children {p q : Place} {e : Edge} (h : q ∈ p.children e) : q.Within p := by
  have ⟨i, hp, hc⟩ := mem_children.mp h
  exact ⟨[⟨e, i⟩], hp, by simp [Node.at?, Node.follow_of_children hc]⟩

end Place

-- The property holds of every node of the tree.
def Node.Every (P : Node → Prop) (root : Node) : Prop :=
  ∀ path n, root.at? path = some n → P n

namespace Node.Every

variable {P : Node → Prop} {root n : Node} {path : NodePath}

theorem here (h : root.Every P) : P root :=
  h [] root rfl

theorem below (h : root.Every P) (hn : root.at? path = some n) : n.Every P :=
  fun way m hm => h (way ++ path) m (by simp [at?_append, hn, hm])

theorem follow {e : Edge} (h : root.Every P) (hn : n ∈ root.follow e) : n.Every P := by
  have ⟨i, hi⟩ := List.getElem?_of_mem hn
  have hat : root.at? [⟨e, i⟩] = some n := by simp [at?, hi]
  exact h.below hat

end Node.Every

theorem Edge.mem_all (e : Edge) : e ∈ Edge.all := by
  cases e <;> decide

-- Checks a property of every node, edge by edge.
def Node.checkEvery (P : Node → Prop) [DecidablePred P] (n : Node) : Bool :=
  decide (P n) && Edge.all.all fun e => (n.follow e).attach.all fun c => c.1.checkEvery P
termination_by sizeOf n
decreasing_by exact Node.sizeOf_lt_of_mem_follow c.2

section

variable {P : Node → Prop} [DecidablePred P] {root n : Node}

theorem Node.checkEvery_iff_follow :
    n.checkEvery P ↔ P n ∧ ∀ e, ∀ c ∈ n.follow e, c.checkEvery P := by
  rw [checkEvery]
  simp [Edge.mem_all]

theorem Node.checkEvery_iff : root.checkEvery P ↔ root.Every P := by
  constructor
  case mp =>
    intro h path
    -- The check goes on below every node that a path leads to.
    have hcheck : ∀ n, root.at? path = some n → n.checkEvery P := by
      induction path
      case nil => exact fun n hn => Option.some.inj hn ▸ h
      case cons s path hi =>
        intro n hn
        have ⟨m, hm, hc⟩ := Option.bind_eq_some_iff.mp hn
        exact (checkEvery_iff_follow.mp (hi m hm)).right s.edge n (List.mem_of_getElem? hc)
    exact fun n hn => (checkEvery_iff_follow.mp (hcheck n hn)).left
  case mpr =>
    intro h
    induction hs : sizeOf root using Nat.strongRecOn generalizing root
    case _ size hi =>
      refine checkEvery_iff_follow.mpr ⟨h.here, fun e c hc => ?_⟩
      exact hi (sizeOf c) (hs ▸ Node.sizeOf_lt_of_mem_follow hc) (h.follow hc) rfl

instance : Decidable (root.Every P) :=
  decidable_of_iff _ Node.checkEvery_iff

end

-- Neither place lies at or below the other. Paths lead up to the root, so what is above is a suffix.
def NodePath.Apart (p q : NodePath) : Prop :=
  ¬p <:+ q ∧ ¬q <:+ p

namespace NodePath.Apart

variable {p q p' q' : NodePath}

theorem ne (h : NodePath.Apart p q) : p ≠ q := by
  rintro rfl
  exact h.left (List.suffix_refl p)

-- What lies below places that are apart is apart.
theorem below (h : NodePath.Apart p q) (hp : p <:+ p') (hq : q <:+ q') : NodePath.Apart p' q' := by
  have comparable {r : NodePath} (hp : p <:+ r) (hq : q <:+ r) : False :=
    (List.suffix_or_suffix_of_suffix hp hq).elim h.left h.right
  exact ⟨fun hr => comparable (hp.trans hr) hq, fun hr => comparable hp (hq.trans hr)⟩

theorem siblings {s t : Step} (h : s ≠ t) : NodePath.Apart (s :: p) (t :: p) := by
  have hne : s :: p ≠ t :: p := fun he => h (List.cons.inj he).left
  exact ⟨fun hs => hne (hs.eq_of_length rfl), fun hs => hne.symm (hs.eq_of_length rfl)⟩

end NodePath.Apart

-- All children of a node, whatever their links, with the steps that lead to them.
def Node.descents (n : Node) : List (Step × Node) :=
  n.links.flatMap fun l => l.nodes.mapIdx fun i c => (⟨l.edge, i⟩, c)

theorem Node.sizeOf_lt_of_mem_descents {n : Node} {p : Step × Node} (h : p ∈ n.descents) : sizeOf p.2 < sizeOf n := by
  simp only [descents, List.mem_flatMap, List.mem_mapIdx] at h
  obtain ⟨l, hl, i, hi, rfl⟩ := h
  exact Nat.lt_trans (sizeOf_lt_of_mem_nodes (List.getElem_mem hi)) (sizeOf_lt_of_mem_links hl)

-- A way to go down from nodes, always to smaller ones.
structure Branching where
  steps : Node → List (Step × Node)
  smaller {n : Node} {p : Step × Node} : p ∈ steps n → sizeOf p.2 < sizeOf n

def Schema.branching (schema : Schema) : Branching :=
  ⟨schema.successors, schema.sizeOf_lt_of_mem_successors⟩

-- The branching that leaves nothing out.
def Branching.full : Branching :=
  ⟨Node.descents, Node.sizeOf_lt_of_mem_descents⟩

namespace Branching

variable {b : Branching}

-- A place and all that is below it.
def below (b : Branching) (q : Place) : List Place :=
  q :: (b.steps q.node).flatMap fun p => b.below ⟨p.1 :: q.path, p.2⟩
termination_by sizeOf q.node
decreasing_by exact b.smaller ‹_›

-- What a step down keeps holds of all that is below a place where it holds.
theorem forall_mem_below {Q : Place → Prop} {q r : Place} (h : Q q)
    (hstep : ∀ r, Q r → ∀ p ∈ b.steps r.node, Q ⟨p.1 :: r.path, p.2⟩) (hr : r ∈ b.below q) : Q r := by
  fun_induction b.below q
  case case1 q hi =>
    cases List.mem_cons.mp hr
    case inl hr => exact hr ▸ h
    case inr hr =>
      obtain ⟨p, hp, hr⟩ := List.mem_flatMap.mp hr
      exact hi p hp (hstep q h p hp) hr

theorem suffix_of_mem_below {q r : Place} (h : r ∈ b.below q) : q.path <:+ r.path :=
  forall_mem_below (Q := fun r => q.path <:+ r.path) (List.suffix_refl _)
    (fun _ hr p _ => hr.trans (List.suffix_cons p.1 _)) h

-- What is one step below a place that is listed is listed too.
theorem step_mem_below {q r : Place} {p : Step × Node} (hr : r ∈ b.below q) (hp : p ∈ b.steps r.node) :
    ⟨p.1 :: r.path, p.2⟩ ∈ b.below q := by
  fun_induction b.below q
  case case1 q hi =>
    rw [List.mem_cons, List.mem_flatMap] at hr ⊢
    obtain rfl | ⟨p', hp', hr⟩ := hr
    · refine .inr ⟨p, hp, ?_⟩
      rw [below]
      exact List.mem_cons_self
    · exact .inr ⟨p', hp', hi p' hp' hr⟩

-- Where no node has two steps alike, no place is listed twice.
theorem nodup_below (h : ∀ n, ((b.steps n).map Prod.fst).Nodup) (q : Place) :
    ((b.below q).map Place.path).Nodup := by
  fun_induction b.below q
  case case1 q hi =>
    simp only [List.map_cons, List.map_flatMap, List.nodup_cons, List.mem_flatMap, List.mem_map]
    constructor
    case left =>
      rintro ⟨p, _, r, hr, he⟩
      have hle := (suffix_of_mem_below hr).length_le
      rw [he, List.length_cons] at hle
      omega
    case right =>
      refine List.pairwise_flatMap.mpr ⟨hi, (List.pairwise_map.mp (h q.node)).imp fun hne => ?_⟩
      intro x hx y hy
      obtain ⟨r, hr, rfl⟩ := List.mem_map.mp hx
      obtain ⟨r', hr', rfl⟩ := List.mem_map.mp hy
      exact ((NodePath.Apart.siblings hne).below (suffix_of_mem_below hr) (suffix_of_mem_below hr')).ne

end Branching

-- All nodes of a tree with their places.
def Node.places (n : Node) : List Place :=
  Branching.full.below (.root n)

namespace Node

variable {root n c : Node} {path : NodePath} {s : Step}

theorem mem_descents (h : (n.follow s.edge)[s.slot]? = some c) : (s, c) ∈ n.descents := by
  unfold follow at h
  cases hl : n.link? s.edge
  case none => simp [hl] at h
  case some l =>
    rw [hl, Option.map_some, Option.getD_some] at h
    obtain ⟨hi, hc⟩ := List.getElem?_eq_some_iff.mp h
    have he := List.find?_some hl
    refine List.mem_flatMap.mpr ⟨l, List.mem_of_find?_eq_some hl, List.mem_mapIdx.mpr ⟨s.slot, hi, ?_⟩⟩
    rw [hc, eq_of_beq he]

-- The node that a path leads to is one of all nodes of the tree.
theorem mem_places (h : root.at? path = some n) : ⟨path, n⟩ ∈ root.places := by
  induction path generalizing n
  case nil =>
    rw [places, Branching.below, ← Option.some.inj h]
    exact List.mem_cons_self
  case cons s path hi =>
    obtain ⟨m, hm, hc⟩ := Option.bind_eq_some_iff.mp h
    exact Branching.step_mem_below (hi hm) (mem_descents hc)

end Node

namespace Schema

variable {schema : Schema} {n : Node}

-- No two successors of a node are reached by the same step.
theorem nodup_successors (h : (schema.edges n.kind).Nodup) : ((schema.successors n).map Prod.fst).Nodup := by
  refine List.pairwise_map.mpr (List.pairwise_flatMap.mpr ⟨fun e _ => ?_, h.imp fun hne x hx y hy => ?_⟩)
  · refine List.pairwise_iff_getElem.mpr fun i j hi hj h => ?_
    simp only [List.getElem_mapIdx]
    exact fun he => Nat.ne_of_lt h (Step.mk.inj he).right
  · have ⟨_, _, hx⟩ := List.mem_mapIdx.mp hx
    have ⟨_, _, hy⟩ := List.mem_mapIdx.mp hy
    rw [← hx, ← hy]
    exact fun he => hne (Step.mk.inj he).left

end Schema

theorem nodup_default_edges (k : Kind) : (Schema.edges default k).Nodup := by
  cases k <;> decide

-- The edges of every node of the tree are among those that the schema lists for its kind, in that order.
inductive Listed (schema : Schema) : Node → Prop
  | mk {n} : (n.links.map Link.edge).Sublist (schema.edges n.kind) →
    (∀ l ∈ n.links, ∀ c ∈ l.nodes, Listed schema c) → Listed schema n

namespace Listed

variable {schema : Schema} {n : Node}

theorem edges (h : Listed schema n) : (n.links.map Link.edge).Sublist (schema.edges n.kind) := by
  cases h
  assumption

theorem descent {p : Step × Node} (h : Listed schema n) (hp : p ∈ n.descents) : Listed schema p.2 := by
  have ⟨l, hl, hp⟩ := List.mem_flatMap.mp hp
  obtain ⟨i, hi, rfl⟩ := List.mem_mapIdx.mp hp
  cases h
  case mk hc => exact hc l hl _ (List.getElem_mem hi)

end Listed

theorem Node.follow_cons (k : Kind) (s : Span) (name : Option String) (l : Link) (links : List Link) (e : Edge) :
    (Node.mk k s name (l :: links)).follow e = if l.edge = e then l.nodes else (Node.mk k s name links).follow e := by
  by_cases h : l.edge = e <;> simp [follow, link?, Node.links, h]

theorem Node.follow_eq_nil {n : Node} {e : Edge} (h : e ∉ n.links.map Link.edge) : n.follow e = [] := by
  have hnone : n.link? e = none := by
    refine List.find?_eq_none.mpr fun l hl he => h ?_
    exact List.mem_map.mpr ⟨l, hl, eq_of_beq he⟩
  rw [follow, hnone]
  rfl

-- Where the edges of links are among those of a list, in that order, following the list finds every link.
theorem flatMap_follow {k : Kind} {s : Span} {name : Option String} {links : List Link} {edges : List Edge}
    {α : Type} (f : Edge → List Node → List α) (hf : ∀ e, f e [] = [])
    (hs : (links.map Link.edge).Sublist edges) (hn : edges.Nodup) :
    (edges.flatMap fun e => f e ((Node.mk k s name links).follow e)) = links.flatMap fun l => f l.edge l.nodes := by
  induction edges generalizing links
  case nil =>
    obtain rfl := List.map_eq_nil_iff.mp (List.sublist_nil.mp hs)
    rfl
  case cons e edges hi =>
    obtain ⟨he, hedges⟩ := List.nodup_cons.mp hn
    obtain hs | ⟨es, hl, hs⟩ := List.sublist_cons_iff.mp hs
    · have hnil : (Node.mk k s name links).follow e = [] := Node.follow_eq_nil fun h => he (hs.subset h)
      rw [List.flatMap_cons, hnil, hf, List.nil_append, hi hs hedges]
    · obtain ⟨l, links, rfl, rfl, rfl⟩ := List.map_eq_cons_iff.mp hl
      rw [List.flatMap_cons, List.flatMap_cons, ← hi hs hedges, Node.follow_cons, if_pos rfl]
      congr 1
      refine List.flatMap_congr fun e hmem => ?_
      rw [Node.follow_cons, if_neg fun hl : l.edge = e => he (hl ▸ hmem)]

theorem descents_eq_successors {schema : Schema} {n : Node} (hs : (n.links.map Link.edge).Sublist (schema.edges n.kind))
    (hn : (schema.edges n.kind).Nodup) : n.descents = schema.successors n := by
  let f (e : Edge) (ns : List Node) : List (Step × Node) := ns.mapIdx fun i c => (⟨e, i⟩, c)
  obtain ⟨k, s, name, links⟩ := n
  exact (flatMap_follow f (fun _ => rfl) hs hn).symm

-- Nothing of a tree is hidden from a schema that lists its edges.
theorem Listed.below_eq {schema : Schema} (hn : ∀ k, (schema.edges k).Nodup) {q : Place} (h : Listed schema q.node) :
    schema.branching.below q = Branching.full.below q := by
  fun_induction schema.branching.below q
  case case1 q hi =>
    have hd : Branching.full.steps q.node = schema.branching.steps q.node :=
      descents_eq_successors h.edges (hn q.node.kind)
    rw [Branching.below, hd]
    congr 1
    refine List.flatMap_congr fun p hp => hi p hp ?_
    rw [← hd] at hp
    exact h.descent hp

theorem Listed.of_mem_below {schema : Schema} {q r : Place} (h : Listed schema q.node)
    (hr : r ∈ Branching.full.below q) : Listed schema r.node :=
  Branching.forall_mem_below (Q := fun r => Listed schema r.node) h (fun _ hn _ hp => hn.descent hp) hr

end MarkerLint.Outline
