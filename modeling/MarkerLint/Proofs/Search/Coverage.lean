import MarkerLint.Proofs.Outline.Places
import MarkerLint.Proofs.Search.Trail

namespace MarkerLint.Outline

def Trail.place (t : Trail) : Place :=
  ⟨t.path, t.node⟩

def Visit.place (v : Visit) : Place :=
  ⟨v.path, v.node⟩

theorem Trail.below_place (schema : Schema) (t : Trail) :
    schema.branching.below t.place = t.place :: (t.kids schema).flatMap fun k => schema.branching.below k.place := by
  rw [Branching.below, kids, List.flatMap_map]
  rfl

-- All that is below the trails of the queue is visited, in another order, but for what the answers leave out.
theorem Sweep.exists_perm_below {schema : Schema} {queue : List Trail} {log : List (Trail × Walk)}
    (s : Sweep (Trail.kids schema) queue log) :
    ∃ rest, ((log.map fun l => l.1.place) ++ rest).Perm (queue.flatMap fun t => schema.branching.below t.place) ∧
      ((∀ l ∈ log, l.2 = .descend) → rest = []) := by
  induction s
  case done => exact ⟨[], .nil, fun _ => rfl⟩
  case stop t queue =>
    rw [List.flatMap_cons, Trail.below_place]
    exact ⟨_, .refl _, fun h => absurd (h _ List.mem_cons_self) (by simp)⟩
  case skip t queue log _ hi =>
    obtain ⟨rest, hp, _⟩ := hi
    refine ⟨rest ++ (t.kids schema).flatMap fun k => schema.branching.below k.place, ?_,
      fun h => absurd (h _ List.mem_cons_self) (by simp)⟩
    rw [List.flatMap_cons, Trail.below_place, List.map_cons, List.cons_append, List.cons_append, ← List.append_assoc]
    exact .cons _ ((hp.append_right _).trans List.perm_append_comm)
  case descend t queue log _ hi =>
    obtain ⟨rest, hp, hall⟩ := hi
    refine ⟨rest, ?_, fun h => hall (List.forall_mem_cons.mp h).right⟩
    rw [List.flatMap_append] at hp
    rw [List.flatMap_cons, Trail.below_place, List.map_cons, List.cons_append, List.cons_append]
    exact .cons _ (hp.trans List.perm_append_comm)

variable {σ : Type}

-- The visits are some of the places that the schema leads to, and all of them if the visitor always goes on.
theorem exists_perm_visits (schema : Schema) (visitor : σ → Visit → Walk × σ) (root : Node) (state : σ) :
    ∃ rest, (((visits schema visitor root state).map fun l => l.1.place) ++ rest).Perm
        (schema.branching.below (.root root)) ∧
      ((∀ l ∈ visits schema visitor root state, l.2 = .descend) → rest = []) := by
  obtain ⟨rest, hp, hrest⟩ := (visits_sweep visitor root state).exists_perm_below
  rw [List.flatMap_singleton, trailLog, List.map_map] at hp
  exact ⟨rest, hp, fun h => hrest (List.forall_mem_map.mpr h)⟩

-- A visitor that looks at every node and always goes on.
def observing (observe : σ → Visit → σ) (state : σ) (v : Visit) : Walk × σ :=
  (.descend, observe state v)

theorem visits_observing (schema : Schema) (observe : σ → Visit → σ) (root : Node) (state : σ) :
    ((visits schema (observing observe) root state).map fun l => l.1.place).Perm
      (schema.branching.below (.root root)) := by
  have hall : ∀ l ∈ visits schema (observing observe) root state, l.2 = .descend := by
    intro l hl
    have ⟨_, _, ha⟩ := (visits_answers (observing observe) root state).answer l hl
    exact (Prod.mk.inj ha).left.symm
  obtain ⟨rest, hp, hrest⟩ := exists_perm_visits schema (observing observe) root state
  rwa [hrest hall, List.append_nil] at hp

end MarkerLint.Outline
