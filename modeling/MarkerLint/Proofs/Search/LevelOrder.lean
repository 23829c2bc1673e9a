import MarkerLint.Proofs.Outline.Parallel
import MarkerLint.Proofs.Search.Trail

-- The listing of a tree level by level, with the subtrees below closed nodes cut off. A search that skips exactly
-- the closed nodes goes through this listing from the start, and leaves it only to stop.

namespace MarkerLint.Outline

namespace Trail

-- The kids of a trail, unless its node is closed.
def openKids (schema : Schema) (closed : Node → Bool) (t : Trail) : List Trail :=
  if closed t.node then [] else t.kids schema

theorem length_subtree_openKids_lt (schema : Schema) (closed : Node → Bool) (t : Trail) :
    ((t.openKids schema closed).flatMap (subtree schema)).length < (t.subtree schema).length := by
  unfold openKids
  split
  · exact Nat.lt_of_le_of_lt (Nat.zero_le _) (t.length_subtree_kids_lt schema)
  · exact t.length_subtree_kids_lt schema

theorem length_subtree_level_le (schema : Schema) (closed : Node → Bool) (level : List Trail) :
    ((level.flatMap (openKids schema closed)).flatMap (subtree schema)).length ≤
      (level.flatMap (subtree schema)).length := by
  induction level
  case nil => simp
  case cons t level hi =>
    have := t.length_subtree_openKids_lt schema closed
    simp only [List.flatMap_cons, List.flatMap_append, List.length_append]
    omega

end Trail

-- The trails of one level, then those of the next, and so on.
def levelOrder (schema : Schema) (closed : Node → Bool) : List Trail → List Trail
  | [] => []
  | t :: level => (t :: level) ++ levelOrder schema closed ((t :: level).flatMap (Trail.openKids schema closed))
termination_by level => (level.flatMap (Trail.subtree schema)).length
decreasing_by
  have h₁ := t.length_subtree_openKids_lt schema closed
  have h₂ := Trail.length_subtree_level_le schema closed level
  simp only [List.flatMap_cons, List.flatMap_append, List.length_append]
  omega

-- The nodes of a tree level by level.
def listing (schema : Schema) (closed : Node → Bool) (root : Node) : List Trail :=
  levelOrder schema closed [Trail.root root]

variable {schema : Schema} {closed : Node → Bool}

theorem levelOrder_eq (level : List Trail) :
    levelOrder schema closed level =
      level ++ levelOrder schema closed (level.flatMap (Trail.openKids schema closed)) := by
  cases level
  case nil => simp [levelOrder]
  case cons => rw [levelOrder]

-- An answer that goes by what is closed, whenever it does not end the search.
def Walk.Respects (closed : Node → Bool) (w : Walk) (n : Node) : Prop :=
  (w = .skip → closed n = true) ∧ (w = .descend → closed n = false)

namespace Sweep

variable {a : Trail} {queue level next : List Trail} {log : List (Trail × Walk)}

-- Where a level is used up, the next one takes its place.
theorem levelOrder_of_queue (schema : Schema) (closed : Node → Bool) (hq : a :: queue = level ++ next) :
    ∃ level' next', queue = level' ++ next' ∧
      level ++ levelOrder schema closed (next ++ level.flatMap (Trail.openKids schema closed)) =
        a :: level' ++ levelOrder schema closed (next' ++ (a :: level').flatMap (Trail.openKids schema closed)) := by
  cases level
  case cons x level =>
    simp only [List.cons_append, List.cons.injEq] at hq
    exact ⟨level, next, hq.right, hq.left ▸ rfl⟩
  case nil =>
    refine ⟨queue, [], by simp, ?_⟩
    rw [List.nil_append] at hq
    simp only [List.flatMap_nil, List.append_nil, List.nil_append, ← hq]
    exact levelOrder_eq (a :: queue)

-- The queue holds the rest of a level and the part of the next level that was brought in so far.
theorem prefix_levelOrder (s : Sweep (Trail.kids schema) queue log) (hr : ∀ l ∈ log, l.2.Respects closed l.1.node)
    (hq : queue = level ++ next) :
    ∃ rest, level ++ levelOrder schema closed (next ++ level.flatMap (Trail.openKids schema closed)) =
        log.map Prod.fst ++ rest ∧
      (rest = [] ∨ ∃ t, (t, .stop) ∈ log) := by
  induction s generalizing level next
  case done =>
    obtain ⟨rfl, rfl⟩ := List.append_eq_nil_iff.mp hq.symm
    exact ⟨[], by simp [levelOrder], .inl rfl⟩
  case stop a queue =>
    have ⟨_, _, _, he⟩ := levelOrder_of_queue schema closed hq
    exact ⟨_, he, .inr ⟨a, List.mem_cons_self⟩⟩
  case skip a queue log _ hi =>
    have ⟨level, next, hq, he⟩ := levelOrder_of_queue schema closed hq
    have ⟨ha, hr⟩ := List.forall_mem_cons.mp hr
    have ⟨rest, hl, hs⟩ := hi hr hq
    have hk : a.openKids schema closed = [] := by simp [Trail.openKids, ha.left rfl]
    refine ⟨rest, ?_, hs.imp_right fun ⟨t, ht⟩ => ⟨t, List.mem_cons_of_mem _ ht⟩⟩
    simp [he, hk, hl]
  case descend a queue log _ hi =>
    have ⟨level, next, hq, he⟩ := levelOrder_of_queue schema closed hq
    have ⟨ha, hr⟩ := List.forall_mem_cons.mp hr
    have ⟨rest, hl, hs⟩ := @hi level (next ++ a.kids schema) hr (by simp [hq])
    have hk : a.openKids schema closed = a.kids schema := by simp [Trail.openKids, ha.right rfl]
    refine ⟨rest, ?_, hs.imp_right fun ⟨t, ht⟩ => ⟨t, List.mem_cons_of_mem _ ht⟩⟩
    simp only [List.append_assoc] at hl
    simp [he, hk, hl]

-- A search that goes by what is closed either goes through the whole listing or stops on the way.
theorem listing_cases {root : Node} (s : Sweep (Trail.kids schema) [Trail.root root] log)
    (hr : ∀ l ∈ log, l.2.Respects closed l.1.node) :
    (listing schema closed root = log.map Prod.fst ∧ ∀ t, (t, .stop) ∉ log) ∨
      ∃ before t rest, log = before ++ [(t, .stop)] ∧ (∀ u, (u, .stop) ∉ before) ∧
        listing schema closed root = before.map Prod.fst ++ t :: rest := by
  have ⟨rest, he, hs⟩ := @s.prefix_levelOrder _ closed _ [] [Trail.root root] _ hr rfl
  replace he : listing schema closed root = log.map Prod.fst ++ rest := by simpa [listing] using he
  by_cases hstop : ∃ t, (t, .stop) ∈ log
  case neg =>
    have hn := not_exists.mp hstop
    cases hs
    case inl hs => exact .inl ⟨by simp [he, hs], hn⟩
    case inr hs => exact absurd hs hstop
  case pos =>
    have ⟨t, ht⟩ := hstop
    have ⟨before, after, hb⟩ := List.append_of_mem ht
    have ⟨ha, hn⟩ := s.stop_last hb
    rw [ha] at hb
    exact .inr ⟨before, t, rest, hb, hn, by simp [he, hb]⟩

end Sweep

section

variable {root : Node} {t a : Trail} {before after : List Trail}

-- The listing is what a search visits that goes by what is closed and never stops.
theorem listing_sweep (schema : Schema) (closed : Node → Bool) (root : Node) :
    ∃ log, Sweep (Trail.kids schema) [Trail.root root] log ∧ listing schema closed root = log.map Prod.fst := by
  let visitor (_ : Unit) (v : Visit) : Walk × Unit := (if closed v.node then .skip else .descend, ())
  have ⟨log, hs, ha⟩ := search_sweeps schema visitor root ()
  have hw : ∀ l ∈ trailLog log, l.2 = if closed l.1.node then .skip else .descend := by
    intro l hl
    obtain ⟨v, hm, rfl⟩ := List.mem_map.mp hl
    have ⟨_, _, hv⟩ := ha.answer v hm
    exact (Prod.mk.inj hv).left.symm
  have hr : ∀ l ∈ trailLog log, l.2.Respects closed l.1.node := by
    intro l hl
    rw [hw l hl]
    cases h : closed l.1.node <;> simp [Walk.Respects, h]
  refine ⟨_, hs, ?_⟩
  cases hs.listing_cases hr
  case inl h => exact h.left
  case inr h =>
    have ⟨before, t, _, hb, _⟩ := h
    have := hw (t, .stop) (by simp [hb])
    split at this <;> contradiction

theorem leads_of_mem_listing (h : t ∈ listing schema closed root) : Trail.Leads schema root t := by
  have ⟨log, hs, hl⟩ := listing_sweep schema closed root
  have ⟨l, hm, ht⟩ := List.mem_map.mp (hl ▸ h)
  exact ht ▸ hs.leads l hm

-- All that is above a trail of the listing is listed before it.
theorem above_before_listing (h : listing schema closed root = before ++ t :: after)
    (ha : a.entries <:+ t.above) : a ∈ before := by
  have ⟨log, hs, hl⟩ := listing_sweep schema closed root
  obtain ⟨before', after', rfl, rfl, ht⟩ := List.map_eq_append_iff.mp (hl.symm.trans h)
  obtain ⟨l, after', rfl, rfl, rfl⟩ := List.map_eq_cons_iff.mp ht
  exact List.mem_map.mpr ⟨_, hs.above_before rfl ha, rfl⟩

end

section

variable {seen : Trail → Bool} {R : Trail → Trail → Prop} {level level' : List Trail} {t t' : Trail}

-- Trails to nodes that are parallel have kids that correspond.
theorem Trail.forall₂_kids {S : Step → Node → Node → Prop} (p : ∀ e, Parallel S t.node t'.node e)
    (hk : t'.node.kind = t.node.kind)
    (h : ∀ s c c', t.child s c ∈ t.kids schema → S s c c' → R (t.child s c) (t'.child s c')) :
    List.Forall₂ R (t.kids schema) (t'.kids schema) := by
  have hs := (List.forall₂_and_left _ _).mpr ⟨fun p hp => hp, Parallel.forall₂_successors p hk schema⟩
  rw [kids, kids, List.forall₂_map_left_iff, List.forall₂_map_right_iff]
  refine hs.imp ?_
  rintro ⟨s, c⟩ ⟨s', c'⟩ ⟨hm, hs, hc⟩
  obtain rfl : s' = s := hs
  exact h _ c c' (mem_kids.mpr ⟨_, c, hm, rfl⟩) hc

theorem mem_kids_of_openKids {k : Trail} (h : k ∈ t.openKids schema closed) : k ∈ t.kids schema := by
  unfold Trail.openKids at h
  split at h
  case isTrue => contradiction
  case isFalse => exact h

-- Where the kids of what is not seen are not seen, the next level comes from what is seen of this one.
theorem filter_nextLevel (hdown : ∀ t, seen t = false → ∀ k ∈ t.kids schema, seen k = false) (level : List Trail) :
    (level.flatMap (Trail.openKids schema closed)).filter seen =
      (level.filter seen).flatMap fun t => (t.openKids schema closed).filter seen := by
  induction level
  case nil => rfl
  case cons t level hi =>
    rw [List.flatMap_cons, List.filter_append, hi]
    cases ht : seen t
    case true => simp [ht]
    case false =>
      have hn : (t.openKids schema closed).filter seen = [] :=
        List.filter_eq_nil_iff.mpr fun k hk => by simp [hdown t ht k (mem_kids_of_openKids hk)]
      simp [ht, hn]

theorem filter_levelOrder_eq_nil (hdown : ∀ t, seen t = false → ∀ k ∈ t.kids schema, seen k = false)
    (h : level.filter seen = []) : (levelOrder schema closed level).filter seen = [] := by
  fun_induction levelOrder schema closed level
  case case1 => rfl
  case case2 t level hi =>
    have hnext : ((t :: level).flatMap (Trail.openKids schema closed)).filter seen = [] := by
      rw [filter_nextLevel hdown, h, List.flatMap_nil]
    rw [List.filter_append, h, hi hnext, List.append_nil]

-- Two listings, of which only a part is seen. If what is seen of the kids corresponds, so does all that
-- is seen of the listings, whatever is listed in between.
theorem forall₂_levelOrder (hdown : ∀ t, seen t = false → ∀ k ∈ t.kids schema, seen k = false)
    (hkids : ∀ t t', R t t' → List.Forall₂ R ((t.openKids schema closed).filter seen)
      ((t'.openKids schema closed).filter seen))
    (h : List.Forall₂ R (level.filter seen) (level'.filter seen)) :
    List.Forall₂ R ((levelOrder schema closed level).filter seen) ((levelOrder schema closed level').filter seen) := by
  fun_induction levelOrder schema closed level generalizing level'
  case case1 =>
    rw [filter_levelOrder_eq_nil hdown (List.forall₂_nil_left_iff.mp h)]
    exact .nil
  case case2 t level hi =>
    rw [levelOrder_eq level', List.filter_append, List.filter_append]
    refine List.rel_append h (hi ?_)
    rw [filter_nextLevel hdown, filter_nextLevel hdown]
    exact List.rel_flatMap h hkids

end

end MarkerLint.Outline
