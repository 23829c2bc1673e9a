import Mathlib.Data.Set.Card
import MarkerLint.Proofs.Search.Coverage

-- No place is visited twice. The record of a search never loses an entry and nothing marks a node as seen. It is
-- the tree that keeps the visits apart: two nodes have different places, and a schema that lists no edge twice
-- brings each place into the queue once.

namespace MarkerLint.Outline

-- The schema leads to a node by a path. Of several edges of one name the first counts.
inductive Schema.Reaches (schema : Schema) (root : Node) : NodePath → Node → Prop
  | root : Reaches schema root [] root
  | step {path n s c} : Reaches schema root path n → s.edge ∈ schema.edges n.kind →
    (n.follow s.edge)[s.slot]? = some c → Reaches schema root (s :: path) c

namespace Schema

variable {schema : Schema} {root n : Node} {path : NodePath} {q r : Place}

theorem Reaches.mem_below (h : schema.Reaches root path n) : ⟨path, n⟩ ∈ schema.branching.below (.root root) := by
  induction h
  case root =>
    rw [Branching.below]
    exact List.mem_cons_self
  case step s c _ hs hc hi => exact Branching.step_mem_below hi (mem_successors.mpr ⟨hs, hc⟩)

theorem Reaches.of_mem_below (hq : schema.Reaches root q.path q.node) (hr : r ∈ schema.branching.below q) :
    schema.Reaches root r.path r.node := by
  refine Branching.forall_mem_below (Q := fun r => schema.Reaches root r.path r.node) hq (fun r hr p hp => ?_) hr
  obtain ⟨hs, hc⟩ := mem_successors.mp hp
  exact hr.step hs hc

-- What a schema leads to is what is listed along it.
theorem mem_below_root : r ∈ schema.branching.below (.root root) ↔ schema.Reaches root r.path r.node :=
  ⟨Reaches.of_mem_below .root, Reaches.mem_below⟩

theorem nodup_below_root (h : ∀ k, (schema.edges k).Nodup) (root : Node) :
    ((schema.branching.below (.root root)).map Place.path).Nodup :=
  Branching.nodup_below (fun n => nodup_successors (h n.kind)) _

-- A schema that lists no edge twice leads to as many places as are listed along it.
theorem ncard_reaches (h : ∀ k, (schema.edges k).Nodup) (root : Node) :
    {p : Place | schema.Reaches root p.path p.node}.ncard = (schema.branching.below (.root root)).length := by
  classical
  have hset : {p : Place | schema.Reaches root p.path p.node} = (schema.branching.below (.root root)).toFinset := by
    ext p
    simp [mem_below_root]
  rw [hset, Set.ncard_coe_finset, List.toFinset_card_of_nodup (nodup_below_root h root).of_map]

end Schema

theorem visits_in_tree {σ : Type} (schema : Schema) (visitor : σ → Visit → Walk × σ) (root : Node) (state : σ) :
    ∀ l ∈ visits schema visitor root state, l.1.place.In root := by
  intro l hl
  have hleads := (visits_sweep visitor root state).leads (l.1.trail, l.2) (List.mem_map_of_mem hl)
  exact hleads.at?_path

-- Where a schema lists no edge twice, no visitor is shown a place twice. So there are no more visits than nodes in
-- the tree, and if the search goes on everywhere, there are as many as nodes that the schema leads to.
theorem visits_no_place_twice {σ : Type} {schema : Schema} (h : ∀ k, (schema.edges k).Nodup)
    (visitor : σ → Visit → Walk × σ) (root : Node) (state : σ) :
    let log := visits schema visitor root state
    Answers visitor state log (search schema visitor (some root) state) ∧
      (∀ l ∈ log, l.1.place.In root) ∧ (log.map fun l => l.1.path).Nodup ∧ log.length ≤ root.places.length ∧
      ((∀ l ∈ log, l.2 = .descend) → log.length = {p : Place | schema.Reaches root p.path p.node}.ncard) := by
  intro log
  have hin := visits_in_tree schema visitor root state
  obtain ⟨rest, hp, hrest⟩ := exists_perm_visits schema visitor root state
  have hnodup : (log.map fun l => l.1.path).Nodup := by
    have hall := (hp.map Place.path).nodup_iff.mpr (Schema.nodup_below_root h root)
    rw [List.map_append, List.map_map] at hall
    exact hall.of_append_left
  refine ⟨visits_answers visitor root state, hin, hnodup, ?_, fun hall => ?_⟩
  · have hsub : (log.map fun l => l.1.path) ⊆ root.places.map Place.path := by
      intro path hpath
      obtain ⟨l, hl, rfl⟩ := List.mem_map.mp hpath
      exact List.mem_map_of_mem (Node.mem_places (hin l hl))
    simpa using (hnodup.subperm hsub).length_le
  · rw [Schema.ncard_reaches h, ← hp.length_eq, hrest hall, List.append_nil, List.length_map]

-- Two text nodes are visited. A third one stands at a second edge of the same name, where no search gets to.
theorem visits_no_place_twice_fragment :
    let root : Node := .branch .jsxFragment {}
      [.many .children [.leaf .jsxText {}, .leaf .jsxText {}], .many .children [.leaf .jsxText {}]]
    let log := visits default (observing fun n _ => n + 1) root 0
    (∀ k, (Schema.edges default k).Nodup) ∧ (∀ l ∈ log, l.2 = .descend) ∧
      (log.map fun l => l.1.path) = [[], [⟨.children, 0⟩], [⟨.children, 1⟩]] ∧ (log.map fun l => l.1.path).Nodup ∧
      log.length ≤ root.places.length ∧ root.places.length = 4 ∧
      {p : Place | Schema.Reaches default root p.path p.node}.ncard = 3 := by
  intro root log
  have hall : ∀ l ∈ log, l.2 = .descend := by decide +kernel
  have hlength : log.length = 3 := by decide +kernel
  obtain ⟨_, _, hnodup, hle, hcount⟩ := visits_no_place_twice nodup_default_edges (observing fun n _ => n + 1) root 0
  exact ⟨nodup_default_edges, hall, by decide +kernel, hnodup, hle, by decide +kernel, (hcount hall).symm.trans hlength⟩

end MarkerLint.Outline
