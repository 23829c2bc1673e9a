import Mathlib.Data.List.Infix
import MarkerLint.Proofs.Search.Trail

-- The ancestors of visited nodes. A search only notes where the parent of an entry stands. A plain search copies
-- the whole list of ancestors into every item of its queue. Both show the same to their visitors, and the way up
-- from an entry never leaves the record nor runs in a circle.

namespace MarkerLint.Outline

-- What a visitor gets to know of a node.
structure View extends Entry where
  isRoot : Bool
  depth : Nat
  ancestors : List Entry

def Visit.view (v : Visit) : View where
  toEntry := v.entry.toEntry
  isRoot := v.isRoot
  depth := v.depth
  ancestors := v.ancestors

-- An item of a queue shows the copy of its ancestors.
def Trail.view (t : Trail) : View where
  toEntry := t.here
  isRoot := t.above.isEmpty
  depth := t.above.length
  ancestors := t.above

variable {σ : Type}

-- The plain search. It gives all that its visitor was shown, with the answers, and the last state.
def copyingSearch (schema : Schema) (visitor : σ → View → Walk × σ) : List Trail → σ → List (View × Walk) × σ
  | [], state => ([], state)
  | t :: queue, state =>
    match visitor state t.view with
    | (.stop, state) => ([(t.view, .stop)], state)
    | (.skip, state) => (copyingSearch schema visitor queue state).map ((t.view, .skip) :: ·) id
    | (.descend, state) =>
      (copyingSearch schema visitor (queue ++ t.kids schema) state).map ((t.view, .descend) :: ·) id
termination_by queue => (queue.flatMap (Trail.subtree schema)).length
decreasing_by
  all_goals
    have := t.length_subtree_kids_lt schema
    simp only [List.flatMap_append, List.flatMap_cons, List.length_append]
    omega

def viewLog (log : List (Visit × Walk)) : List (View × Walk) :=
  log.map fun l => (l.1.view, l.2)

-- A visitor that knows its answers beforehand.
def replay : List Walk → View → Walk × List Walk
  | [], _ => (.stop, [])
  | w :: answers, _ => (w, answers)

theorem answers_replay (log : List (Visit × Walk)) :
    Answers (fun answers v => replay answers v.view) (log.map Prod.snd) log [] := by
  induction log
  case nil => exact .nil
  case cons hi => exact .cons rfl hi

-- The answers that a search got lead the plain search along the same way.
theorem Sweep.copyingSearch_eq {schema : Schema} {visitor : σ → View → Walk × σ} {queue : List Trail}
    {log : List (Visit × Walk)} {s s' : σ} (sweep : Sweep (Trail.kids schema) queue (trailLog log))
    (answers : Answers (fun s v => visitor s v.view) s log s') (hv : ∀ l ∈ log, l.1.view = l.1.trail.view) :
    copyingSearch schema visitor queue s = (viewLog log, s') := by
  generalize hl : trailLog log = trails at sweep
  induction sweep generalizing log s
  case done =>
    obtain rfl := List.map_eq_nil_iff.mp hl
    cases answers
    rw [copyingSearch]
    rfl
  all_goals
    obtain ⟨⟨v, w⟩, rest, rfl, he, hr⟩ := List.map_eq_cons_iff.mp hl
    obtain ⟨rfl, rfl⟩ := Prod.mk.inj he
    obtain ⟨hw, hs⟩ := List.forall_mem_cons.mp hv
    simp only at hw
    obtain _ | ⟨ha, answers⟩ := answers
    rw [hw] at ha
    rw [copyingSearch, ha, viewLog, List.map_cons, hw]
  case stop =>
    obtain rfl := List.map_eq_nil_iff.mp hr
    cases answers
    rfl
  case skip hi _ | descend hi _ => exact congrArg (Prod.map (_ :: ·) id) (hi answers hs hr)

-- A visit of the entry that stands at an index of a sound record.
structure Recorded (i : Nat) (v : Visit) : Prop where
  stands : v.entries[i]? = some v.entry
  parents : ParentsFirst v.entries

-- A search goes through its record entry by entry.
theorem searchFrom_recorded {schema : Schema} (visitor : σ → Visit → Walk × σ) (entries : Array Queued)
    (cursor : Nat) (state : σ) (hp : ParentsFirst entries) :
    ∃ log, Answers visitor state log (searchFrom schema visitor entries cursor state) ∧
      ∀ l ∈ log.zipIdx cursor, Recorded l.2 l.1.1 := by
  have first {entries : Array Queued} {cursor : Nat} (hp : ParentsFirst entries) (h : cursor < entries.size) :
      Recorded cursor ⟨entries[cursor], entries⟩ :=
    ⟨Array.getElem?_eq_getElem h, hp⟩
  fun_induction searchFrom schema visitor entries cursor state
  case case1 entries cursor state h _ state' hv =>
    refine ⟨[(⟨entries[cursor], entries⟩, .stop)], .cons hv .nil, ?_⟩
    exact List.forall_mem_singleton.mpr (first hp h)
  case case2 entries cursor state h _ state' hv hi =>
    obtain ⟨log, ha, hr⟩ := hi hp
    refine ⟨(⟨entries[cursor], entries⟩, .skip) :: log, .cons hv ha, ?_⟩
    exact List.forall_mem_cons.mpr ⟨first hp h, hr⟩
  case case3 entries cursor state h _ state' hv hi =>
    obtain ⟨log, ha, hr⟩ := hi (hp.descend h _)
    refine ⟨(⟨entries[cursor], entries⟩, .descend) :: log, .cons hv ha, ?_⟩
    exact List.forall_mem_cons.mpr ⟨first hp h, hr⟩
  case case4 => exact ⟨[], .nil, by simp⟩

theorem visits_recorded {schema : Schema} {visitor : σ → Visit → Walk × σ} {root : Node} {state : σ} {i : Nat}
    {v : Visit} {w : Walk} (h : (visits schema visitor root state)[i]? = some (v, w)) : Recorded i v := by
  have ⟨log, ha, hr⟩ := @searchFrom_recorded _ schema (recording visitor) _ 0 (state, []) (.single root)
  have hl : visits schema visitor root state = log := ha.of_recording.right
  exact hr ((v, w), i) (List.mk_mem_zipIdx_iff_getElem?.mpr (hl ▸ h))

-- The way up as one goes it without a guard: what stands at an index is handed out, and the index of
-- its parent is next. There is no way up through an index behind the end of the record.
inductive Climb (entries : Array Queued) : Option Nat → List (Nat × Entry) → Prop
  | top : Climb entries none []
  | up {i e steps} : entries[i]? = some e → Climb entries e.parent steps →
    Climb entries (some i) ((i, e.toEntry) :: steps)

namespace Recorded

variable {i : Nat} {v : Visit}

theorem lt_size (r : Recorded i v) : i < v.entries.size :=
  (Array.getElem?_eq_some_iff.mp r.stands).fst

-- The parent of a visited entry stands before it, and is the nearest of the ancestors.
theorem parent (r : Recorded i v) {p : Nat} (h : v.entry.parent = some p) :
    p < i ∧ ∃ e, Recorded p ⟨e, v.entries⟩ ∧ v.ancestors = e.toEntry :: Visit.ancestors ⟨e, v.entries⟩ := by
  have hi : p < i := r.parents i v.entry p r.stands h
  have hp : p < v.entries.size := Nat.lt_trans hi r.lt_size
  refine ⟨hi, v.entries[p], ⟨Array.getElem?_eq_getElem hp, r.parents⟩, ?_⟩
  rw [Visit.ancestors, h]
  exact r.parents.chain_eq hp

-- Only the root has no ancestors.
theorem isRoot_eq (r : Recorded i v) : v.isRoot = v.ancestors.isEmpty := by
  cases hp : v.entry.parent
  case none => simp [Visit.isRoot, Visit.ancestors, hp]
  case some p =>
    obtain ⟨_, e, _, ha⟩ := r.parent hp
    simp [Visit.isRoot, hp, ha]

theorem view_eq (r : Recorded i v) : v.view = v.trail.view := by
  simp only [Visit.view, Trail.view, Visit.trail, r.isRoot_eq, Visit.depth]

-- The way up goes through the ancestors, and every index on it is smaller than the one before.
theorem climb (r : Recorded i v) :
    ∃ steps, Climb v.entries v.entry.parent steps ∧ steps.map Prod.snd = v.ancestors ∧
      (i :: steps.map Prod.fst).IsChain (· > ·) := by
  induction i using Nat.strongRecOn generalizing v
  case _ i hi =>
    cases hp : v.entry.parent
    case none => exact ⟨[], .top, by simp [Visit.ancestors, hp], by simp⟩
    case some p =>
      obtain ⟨hlt, e, he, ha⟩ := r.parent hp
      obtain ⟨steps, hc, hs, hd⟩ := hi p hlt he
      refine ⟨(p, e.toEntry) :: steps, .up he.stands hc, ?_, ?_⟩
      · rw [List.map_cons, hs, ha]
      · exact .cons_cons hlt hd

end Recorded

-- An entry was reached from the one above it by an edge that the schema lists.
def Entry.Below (schema : Schema) (e above : Entry) : Prop :=
  ∃ s, e.via = some s ∧ s.edge ∈ schema.edges above.node.kind ∧ (above.node.follow s.edge)[s.slot]? = some e.node

namespace Trail.Leads

variable {schema : Schema} {n : Node} {t : Trail}

-- The entries of a trail are the nodes on its path, each with the step that leads to it.
theorem entries_eq (h : Leads schema n t) :
    t.entries.map (fun e => (some e.node, e.via)) = t.path.tails.map fun p => (n.at? p, p.head?) := by
  induction h
  case root => rfl
  case child ht hk hi =>
    have hn := (Leads.child ht hk).at?_path
    obtain ⟨s, c, _, rfl⟩ := mem_kids.mp hk
    rw [child_path] at hn
    rw [child_path, List.tails_cons, List.map_cons, ← hi, hn]
    rfl

theorem length_above (h : Leads schema n t) : t.above.length = t.path.length := by
  have := congrArg List.length h.entries_eq
  simpa [entries] using this

theorem joined (h : Leads schema n t) : t.entries.IsChain (Entry.Below schema) := by
  induction h
  case root => exact .singleton _
  case child hk hi =>
    obtain ⟨s, c, hc, rfl⟩ := mem_kids.mp hk
    exact .cons_cons ⟨s, rfl, Schema.mem_successors.mp hc⟩ hi

end Trail.Leads

-- What the record of a search tells of the visit with index `i`.
structure Visit.Ancestry (schema : Schema) (root : Node) (i : Nat) (v : Visit) : Prop where
  stands : v.entries[i]? = some v.entry
  -- The nodes on the path up to the root, each with the step that leads to it. The root has none.
  onPath : (v.entry.toEntry :: v.ancestors).map (fun e => (some e.node, e.via)) =
    v.path.tails.map fun p => (root.at? p, p.head?)
  depth : v.depth = v.path.length
  isRoot : v.isRoot ↔ v.path = []
  joined : (v.entry.toEntry :: v.ancestors).IsChain (Entry.Below schema)
  climb : ∃ steps, Climb v.entries v.entry.parent steps ∧ steps.map Prod.snd = v.ancestors ∧
    (i :: steps.map Prod.fst).IsChain (· > ·) ∧ ∀ j ∈ i :: steps.map Prod.fst, j < v.entries.size

theorem visits_ancestry {schema : Schema} {visitor : σ → Visit → Walk × σ} {root : Node} {state : σ} {i : Nat}
    {v : Visit} {w : Walk} (h : (visits schema visitor root state)[i]? = some (v, w)) :
    v.Ancestry schema root i := by
  have hr := visits_recorded h
  have hl : v.trail.Leads schema root := by
    refine (visits_sweep visitor root state).leads (v.trail, w) ?_
    exact List.mem_map.mpr ⟨(v, w), List.mem_of_getElem? h, rfl⟩
  constructor
  case stands => exact hr.stands
  case onPath => exact hl.entries_eq
  case depth => exact hl.length_above
  case isRoot =>
    have hd : v.ancestors.length = v.path.length := hl.length_above
    rw [hr.isRoot_eq, List.isEmpty_iff_length_eq_zero, hd, List.length_eq_zero_iff]
  case joined => exact hl.joined
  case climb =>
    have ⟨steps, hc, hs, hd⟩ := hr.climb
    refine ⟨steps, hc, hs, hd, fun j hj => ?_⟩
    have hle : j ≤ i := by
      have ⟨hlt, _⟩ := List.pairwise_cons.mp (List.isChain_iff_pairwise.mp hd)
      cases List.mem_cons.mp hj
      case inl hj => exact Nat.le_of_eq hj
      case inr hj => exact Nat.le_of_lt (hlt j hj)
    exact Nat.lt_of_le_of_lt hle hr.lt_size

-- The search shows its visitor what the plain search shows, in the same order and with the same last
-- state. A visitor that looks into the record of the search is matched by its answers.
theorem search_recovers_ancestors (schema : Schema) (root : Node) :
    (∀ {σ : Type} (visitor : σ → View → Walk × σ) (state : σ),
      copyingSearch schema visitor [Trail.root root] state =
        (viewLog (visits schema (fun s v => visitor s v.view) root state),
          search schema (fun s v => visitor s v.view) (some root) state)) ∧
    ∀ {σ : Type} (visitor : σ → Visit → Walk × σ) (state : σ),
      let log := visits schema visitor root state
      copyingSearch schema replay [Trail.root root] (log.map Prod.snd) = (viewLog log, []) ∧
        ∀ (i : Nat) (v : Visit) (w : Walk), log[i]? = some (v, w) → v.Ancestry schema root i := by
  have hviews {σ : Type} (visitor : σ → Visit → Walk × σ) (state : σ) :
      ∀ l ∈ visits schema visitor root state, l.1.view = l.1.trail.view := by
    intro l hl
    have ⟨i, hi⟩ := List.getElem?_of_mem hl
    exact (visits_recorded hi).view_eq
  constructor
  case left =>
    intro σ visitor state
    exact (visits_sweep _ root state).copyingSearch_eq (visits_answers _ root state) (hviews _ state)
  case right =>
    intro σ visitor state log
    refine ⟨?_, fun i v w h => visits_ancestry h⟩
    exact (visits_sweep visitor root state).copyingSearch_eq (answers_replay log) (hviews visitor state)

theorem search_recovers_ancestors_nested :
    let text := Node.leaf .jsxText {}
    let tree := Node.branch .jsxFragment {} [.many .children [.branch .jsxFragment {} [.many .children [text]], text]]
    let log := visits default (fun _ _ => (.descend, ())) tree ()
    log.map (·.1.path) = [[], [⟨.children, 0⟩], [⟨.children, 1⟩], [⟨.children, 0⟩, ⟨.children, 0⟩]] ∧
      ∀ (i : Nat) (v : Visit) (w : Walk), log[i]? = some (v, w) → v.Ancestry default tree i :=
  ⟨by decide +kernel, ((search_recovers_ancestors ..).right ..).right⟩

end MarkerLint.Outline
