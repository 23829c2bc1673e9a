import Mathlib.Data.List.Lex
import MarkerLint.Proofs.Search.Trail

-- The order of a search. A position tells, step by step, which of the edges that the schema lists and which of the
-- nodes at that edge the search took. Positions are visited by depth and, at one depth, in lexicographic order; a
-- position is visited if the search went on below all that is above it and did not end before.

namespace MarkerLint.Outline

-- One step down: the rank of an edge in the list of the schema, and which of the nodes at the edge.
structure Turn where
  rank : Nat
  slot : Nat
  deriving DecidableEq, Repr

def Turn.Before (x y : Turn) : Prop :=
  x.rank < y.rank ∨ x.rank = y.rank ∧ x.slot < y.slot

-- The turns from the root of a search down to a node.
abbrev Position := List Turn

-- By depth, and at one depth lexicographically.
def Position.Before (p q : Position) : Prop :=
  p.length < q.length ∨ p.length = q.length ∧ List.Lex Turn.Before p q

-- An edge that a node does not have leads nowhere. Of several edges of one name, the first counts.
def Trail.turn? (schema : Schema) (t : Trail) (x : Turn) : Option Trail := do
  let e ← (schema.edges t.node.kind)[x.rank]?
  let n ← (t.node.follow e)[x.slot]?
  pure (t.child ⟨e, x.slot⟩ n)

-- The trail to a position of a tree.
def Schema.trailAt? (schema : Schema) (root : Node) (p : Position) : Option Trail :=
  p.foldlM (Trail.turn? schema) (Trail.root root)

namespace Turn

theorem Before.irrefl (x : Turn) : ¬x.Before x := by
  simp [Before]

theorem Before.trans {x y z : Turn} (h₁ : x.Before y) (h₂ : y.Before z) : x.Before z := by
  unfold Before at *
  omega

end Turn

namespace Position.Before

variable {p q r : Position} {x y : Turn}

theorem irrefl (p : Position) : ¬Position.Before p p := by
  simp only [Position.Before, Nat.lt_irrefl, true_and, false_or]
  exact List.lex_irrefl Turn.Before.irrefl p

theorem trans (h₁ : Position.Before p q) (h₂ : Position.Before q r) : Position.Before p r := by
  obtain h₁ | ⟨h₁, l₁⟩ := h₁ <;> obtain h₂ | ⟨h₂, l₂⟩ := h₂
  case inr.inr => exact .inr ⟨h₁.trans h₂, List.lex_trans Turn.Before.trans l₁ l₂⟩
  all_goals exact .inl (by omega)

theorem down (p : Position) (x : Turn) : Position.Before p (p ++ [x]) :=
  .inl (by simp)

theorem concat (p : Position) (h : x.Before y) : Position.Before (p ++ [x]) (p ++ [y]) :=
  .inr ⟨by simp, List.Lex.append_left _ (.rel h) p⟩

theorem across (h : Position.Before p q) : Position.Before (p ++ [x]) (q ++ [y]) := by
  obtain h | ⟨h, l⟩ := h
  case inl => exact .inl (by simpa using h)
  case inr =>
    refine .inr ⟨by simpa using h, ?_⟩
    induction l
    case nil => simp at h
    case rel h' => exact .rel h'
    case cons hi => exact .cons (hi (by simpa using h))

end Position.Before

namespace Schema

variable {schema : Schema} {n : Node}

-- The successors of a node with the turns that lead to them.
def branches (schema : Schema) (n : Node) : List (Turn × Step × Node) :=
  (schema.edges n.kind).zipIdx.flatMap fun e => (n.follow e.1).mapIdx fun i c => (⟨e.2, i⟩, ⟨e.1, i⟩, c)

theorem branches_map_snd : (schema.branches n).map Prod.snd = schema.successors n := by
  calc (schema.branches n).map Prod.snd
      = (schema.edges n.kind).zipIdx.flatMap fun e => (n.follow e.1).mapIdx fun i c => (⟨e.1, i⟩, c) := by
        simp only [branches, List.map_flatMap, List.mapIdx_eq_zipIdx_map, List.map_map]
        rfl
    _ = ((schema.edges n.kind).zipIdx.map Prod.fst).flatMap fun e => (n.follow e).mapIdx fun i c => (⟨e, i⟩, c) := by
        rw [List.flatMap_map]
    _ = schema.successors n := by
        rw [List.zipIdx_map_fst, successors]

theorem mem_branches {x : Turn} {s : Step} {c : Node} :
    (x, s, c) ∈ schema.branches n ↔
      (schema.edges n.kind)[x.rank]? = some s.edge ∧ s.slot = x.slot ∧ (n.follow s.edge)[x.slot]? = some c := by
  simp only [branches, List.mem_flatMap, List.mem_mapIdx, Prod.exists, List.mem_zipIdx_iff_getElem?]
  constructor
  case mp =>
    rintro ⟨e, r, he, i, hi, h⟩
    simp only [Prod.mk.injEq] at h
    obtain ⟨rfl, rfl, rfl⟩ := h
    exact ⟨he, rfl, List.getElem?_eq_getElem hi⟩
  case mpr =>
    obtain ⟨e, i⟩ := s
    rintro ⟨he, rfl, hc⟩
    have ⟨hi, hc⟩ := List.getElem?_eq_some_iff.mp hc
    exact ⟨e, x.rank, he, x.slot, hi, by rw [hc]⟩

theorem branches_sorted : (schema.branches n).Pairwise fun a b => a.1.Before b.1 := by
  refine List.pairwise_flatMap.mpr ⟨fun e _ => ?_, ?_⟩
  · refine List.pairwise_iff_getElem.mpr fun i j hi hj h => ?_
    simp only [List.getElem_mapIdx]
    exact .inr ⟨rfl, h⟩
  · refine List.pairwise_iff_getElem.mpr fun i j hi hj h a ha b hb => ?_
    have ⟨_, _, ha⟩ := List.mem_mapIdx.mp ha
    have ⟨_, _, hb⟩ := List.mem_mapIdx.mp hb
    simp only [List.getElem_zipIdx] at ha hb
    exact .inl (by simpa [← ha, ← hb] using h)

@[simp]
theorem trailAt?_nil (root : Node) : schema.trailAt? root [] = some (Trail.root root) :=
  rfl

theorem trailAt?_concat (root : Node) (p : Position) (x : Turn) :
    schema.trailAt? root (p ++ [x]) = (schema.trailAt? root p).bind (Trail.turn? schema · x) := by
  simp [trailAt?, List.foldlM_append, bind]

end Schema

-- A trail that knows its position.
structure Located where
  position : Position
  trail : Trail

namespace Located

variable {schema : Schema} {l m : Located}

def root (n : Node) : Located :=
  ⟨[], Trail.root n⟩

def kids (schema : Schema) (l : Located) : List Located :=
  (schema.branches l.trail.node).map fun b => ⟨l.position ++ [b.1], l.trail.child b.2.1 b.2.2⟩

def Before (l m : Located) : Prop :=
  Position.Before l.position m.position

theorem kids_map_trail (schema : Schema) (l : Located) :
    l.trail.kids schema = (l.kids schema).map Located.trail := by
  simp only [Trail.kids, kids, ← Schema.branches_map_snd, List.map_map]
  rfl

theorem mem_kids_iff :
    m ∈ l.kids schema ↔
      ∃ x, m.position = l.position ++ [x] ∧ Trail.turn? schema l.trail x = some m.trail := by
  simp only [kids, List.mem_map, Prod.exists, Trail.turn?, bind, Option.bind_eq_some_iff, pure, Option.some.injEq]
  constructor
  case mp =>
    rintro ⟨x, s, c, h, rfl⟩
    obtain ⟨he, hs, hc⟩ := Schema.mem_branches.mp h
    exact ⟨x, rfl, s.edge, he, c, hc, by rw [← hs]⟩
  case mpr =>
    rintro ⟨x, hp, e, he, c, hc, ht⟩
    refine ⟨x, ⟨e, x.slot⟩, c, Schema.mem_branches.mpr ⟨he, rfl, hc⟩, ?_⟩
    cases m
    simp_all

theorem layered (schema : Schema) : Layered (kids schema) Before where
  irrefl l := Position.Before.irrefl l.position
  trans := Position.Before.trans
  down h := by
    have ⟨x, hx, _⟩ := mem_kids_iff.mp h
    rw [Before, hx]
    exact Position.Before.down ..
  across h hk hl := by
    have ⟨x, hx, _⟩ := mem_kids_iff.mp hk
    have ⟨y, hy, _⟩ := mem_kids_iff.mp hl
    rw [Before, hx, hy]
    exact h.across
  sorted l := by
    refine List.pairwise_map.mpr (Schema.branches_sorted.imp fun h => ?_)
    exact Position.Before.concat _ h

-- What a sweep meets stands where its position says.
theorem trailAt?_of_sweep {root : Node} {log : List (Located × Walk)} {w : Walk}
    (s : Sweep (kids schema) [Located.root root] log) (h : (l, w) ∈ log) :
    schema.trailAt? root l.position = some l.trail := by
  let Stands (l : Located) : Prop := schema.trailAt? root l.position = some l.trail
  refine s.forall_visited Stands (fun l (hl : _ = _) k hk => ?_) (fun l hl => ?_) (l, w) h
  · have ⟨x, hx, ht⟩ := mem_kids_iff.mp hk
    simp only [Stands]
    rw [hx, Schema.trailAt?_concat, hl, Option.bind_some, ht]
  · rw [List.mem_singleton.mp hl]
    rfl

-- The search goes on below every proper ancestor of what it visits.
theorem ancestor_descend {root : Node} {log : List (Located × Walk)} {w : Walk}
    (s : Sweep (kids schema) [Located.root root] log) (h : (l, w) ∈ log) {q : Position}
    (hq : q <+: l.position) (hne : q ≠ l.position) : ∃ a, (a, .descend) ∈ log ∧ a.position = q := by
  induction hd : l.position.length using Nat.strongRecOn generalizing l w
  case _ d hi =>
    cases s.parent h
    case inl hr =>
      simp only [List.mem_singleton] at hr
      subst hr
      exact absurd (List.prefix_nil.mp hq) hne
    case inr hr =>
      have ⟨k, hk, hl⟩ := hr
      have ⟨x, hx, _⟩ := mem_kids_iff.mp hl
      cases List.prefix_concat_iff.mp (hx ▸ hq)
      case inl hq => exact absurd (hq.trans hx.symm) hne
      case inr hq =>
        by_cases he : q = k.position
        case pos => exact ⟨k, hk, he.symm⟩
        case neg => exact hi k.position.length (by simp [← hd, hx]) hk hq he rfl

-- A position below which the search went on at every step is met by it.
theorem met {root : Node} {log : List (Located × Walk)} (s : Sweep (kids schema) [Located.root root] log)
    (ht : schema.trailAt? root l.position = some l.trail)
    (ha : ∀ q, q <+: l.position → q ≠ l.position → ∃ a, (a, .descend) ∈ log ∧ a.position = q) :
    l ∈ [Located.root root] ∨ ∃ k, (k, .descend) ∈ log ∧ l ∈ k.kids schema := by
  obtain ⟨p, t⟩ := l
  cases List.eq_nil_or_concat p
  case inl hp =>
    subst hp
    simp only [Schema.trailAt?_nil, Option.some.injEq] at ht
    exact .inl (by simp [← ht, Located.root])
  case inr hp =>
    obtain ⟨q, x, rfl⟩ := hp
    have ⟨k, hk, hq⟩ := ha q (by simp) (by simp)
    simp only [List.concat_eq_append, Schema.trailAt?_concat, ← hq, trailAt?_of_sweep s hk,
      Option.bind_some] at ht
    exact .inr ⟨k, hk, mem_kids_iff.mpr ⟨x, by simp [hq], ht⟩⟩

theorem visited_iff {root : Node} {log : List (Located × Walk)} (s : Sweep (kids schema) [Located.root root] log)
    (p : Position) :
    (∃ l w, (l, w) ∈ log ∧ l.position = p) ↔
      (schema.trailAt? root p).isSome ∧
      (∀ q, q <+: p → q ≠ p → ∃ a, (a, .descend) ∈ log ∧ a.position = q) ∧
      ∀ a, (a, .stop) ∈ log → ¬Position.Before a.position p := by
  have hl := layered schema
  have hf := Frontier.single hl (Located.root root)
  constructor
  case mp =>
    rintro ⟨l, w, h, rfl⟩
    refine ⟨?_, fun q => ancestor_descend s h, fun a ha => ?_⟩
    · simp [trailAt?_of_sweep s h]
    · have : ¬a.Before l := s.not_after_stop hl hf ha h
      exact this
  case mpr =>
    intro ⟨ht, ha, hn⟩
    have ⟨t, ht⟩ := Option.isSome_iff_exists.mp ht
    let l : Located := ⟨p, t⟩
    have hm : l ∈ [Located.root root] ∨ ∃ k, (k, .descend) ∈ log ∧ l ∈ k.kids schema := met s ht ha
    cases s.complete hl hf hm
    case inl h =>
      have ⟨w, h⟩ := h
      exact ⟨l, w, h, rfl⟩
    case inr h =>
      have ⟨a, h, hb⟩ := h
      exact absurd hb (hn a h)

end Located

variable {σ : Type}

-- Every visit has a position, and the positions tell the whole order of the search. The visits and
-- answers are those of the visitor, and they are no more than the tree has positions.
theorem visits_in_level_order (schema : Schema) (visitor : σ → Visit → Walk × σ) (root : Node) (state : σ) :
    let log := visits schema visitor root state
    Answers visitor state log (search schema visitor (some root) state) ∧
    log.length ≤ schema.weight root ∧
    ∃ positions : List Position,
      log.map (fun l => some l.1.trail) = positions.map (schema.trailAt? root) ∧
      positions.Pairwise Position.Before ∧
      ∀ p, p ∈ positions ↔
        (schema.trailAt? root p).isSome ∧
        (∀ q, q <+: p → q ≠ p → (q, .descend) ∈ positions.zip (log.map Prod.snd)) ∧
        ∀ q, (q, .stop) ∈ positions.zip (log.map Prod.snd) → ¬Position.Before q p := by
  intro log
  have hsweep : Sweep (Trail.kids schema) [Trail.root root] (trailLog log) := visits_sweep visitor root state
  refine ⟨visits_answers visitor root state, ?_, ?_⟩
  · have := hsweep.length_le (Trail.length_subtree_kids_lt schema)
    simpa [trailLog, Trail.subtree, Schema.weight] using this
  obtain ⟨located, hs, hl⟩ := @Sweep.lift _ _ _ [Located.root root] _ _ _ (Located.kids_map_trail schema) hsweep
  let positions := located.map fun l => l.1.position
  have hw : log.map Prod.snd = located.map Prod.snd := by
    have := congrArg (List.map Prod.snd) hl
    simpa [trailLog, Function.comp_def] using this.symm
  have hz : ∀ q w, (q, w) ∈ positions.zip (log.map Prod.snd) ↔ ∃ a, (a, w) ∈ located ∧ a.position = q := by
    intro q w
    simp [hw, positions, List.zip_map', eq_comm]
  refine ⟨positions, ?_, ?_, fun p => ?_⟩
  · have := congrArg (List.map fun l => some l.1) hl
    simp only [trailLog, List.map_map] at this
    rw [List.map_map]
    refine this.symm.trans (List.map_congr_left fun l h => ?_)
    exact (Located.trailAt?_of_sweep hs h).symm
  · have := hs.sorted (Located.layered schema) (.single (Located.layered schema) _)
    simpa [positions, List.pairwise_map, Located.Before] using this
  · simp only [hz]
    refine Iff.trans ?_ ((Located.visited_iff hs p).trans ?_)
    · simp [positions]
    · simp

end MarkerLint.Outline
