import MarkerLint.Proofs.Search.Sweep

-- Searches as queues of trails. A trail is a node with all that lies between it and the root of the search. The
-- record of a search, in which every entry points to its parent, stands for a queue of trails, and what a search
-- visits depends on the answers of its visitor only.

namespace MarkerLint.Outline

theorem Schema.mem_successors {schema : Schema} {n c : Node} {s : Step} :
    (s, c) ∈ schema.successors n ↔ s.edge ∈ schema.edges n.kind ∧ (n.follow s.edge)[s.slot]? = some c := by
  simp only [successors, List.mem_flatMap, List.mem_mapIdx, Prod.mk.injEq]
  constructor
  case mp =>
    rintro ⟨e, he, i, hi, rfl, rfl⟩
    exact ⟨he, List.getElem?_eq_getElem hi⟩
  case mpr =>
    rintro ⟨he, hc⟩
    obtain ⟨hi, hc⟩ := List.getElem?_eq_some_iff.mp hc
    exact ⟨s.edge, he, s.slot, hi, rfl, hc⟩

-- A node met by a search: its own entry and the entries above it, nearest first.
@[ext]
structure Trail where
  here : Entry
  above : List Entry := []

namespace Trail

def node (t : Trail) : Node :=
  t.here.node

def entries (t : Trail) : List Entry :=
  t.here :: t.above

def path (t : Trail) : NodePath :=
  t.entries.filterMap Entry.via

-- The trail of the node that a search starts at.
def root (n : Node) : Trail :=
  ⟨⟨n, none⟩, []⟩

-- One step further down.
def child (t : Trail) (s : Step) (n : Node) : Trail :=
  ⟨⟨n, some s⟩, t.entries⟩

def kids (schema : Schema) (t : Trail) : List Trail :=
  (schema.successors t.node).map fun p => t.child p.1 p.2

@[simp]
theorem root_node (n : Node) : (root n).node = n :=
  rfl

@[simp]
theorem root_path (n : Node) : (root n).path = [] :=
  rfl

@[simp]
theorem child_node (t : Trail) (s : Step) (n : Node) : (t.child s n).node = n :=
  rfl

@[simp]
theorem child_path (t : Trail) (s : Step) (n : Node) : (t.child s n).path = s :: t.path :=
  rfl

theorem mem_kids {schema : Schema} {t u : Trail} :
    u ∈ t.kids schema ↔ ∃ s n, (s, n) ∈ schema.successors t.node ∧ u = t.child s n := by
  simp [kids, eq_comm]

-- The trails that start at a node and go along the schema.
inductive Leads (schema : Schema) (n : Node) : Trail → Prop
  | root : Leads schema n (Trail.root n)
  | child {t k} : Leads schema n t → k ∈ t.kids schema → Leads schema n k

-- In one tree, a trail is known by its path.
theorem Leads.eq_of_path {schema : Schema} {n : Node} {t u : Trail} (ht : Leads schema n t) (hu : Leads schema n u)
    (h : t.path = u.path) : t = u := by
  induction ht generalizing u
  case root =>
    cases hu
    case root => rfl
    case child hk =>
      obtain ⟨s, c, _, rfl⟩ := mem_kids.mp hk
      simp at h
  case child t k _ hk hi =>
    obtain ⟨s, c, hc, rfl⟩ := mem_kids.mp hk
    cases hu
    case root => simp at h
    case child u hu hl =>
      obtain ⟨s', c', hc', rfl⟩ := mem_kids.mp hl
      simp only [child_path, List.cons.injEq] at h
      obtain ⟨rfl, h⟩ := h
      obtain rfl := hi hu h
      have := (Schema.mem_successors.mp hc).right.symm.trans (Schema.mem_successors.mp hc').right
      rw [Option.some.inj this]

theorem Leads.at?_path {schema : Schema} {n : Node} {t : Trail} (h : Leads schema n t) :
    n.at? t.path = some t.node := by
  induction h
  case root => rfl
  case child hk hi =>
    obtain ⟨s, c, hc, rfl⟩ := mem_kids.mp hk
    simp [Node.at?, hi, (Schema.mem_successors.mp hc).right]

theorem Leads.of_above {schema : Schema} {n : Node} {here above : Entry} {rest : List Entry}
    (h : Leads schema n ⟨here, above :: rest⟩) : Leads schema n ⟨above, rest⟩ := by
  generalize ht : (⟨here, above :: rest⟩ : Trail) = t at h
  cases h
  case root => simp [Trail.root] at ht
  case child u h hk =>
    have ⟨s, c, _, hc⟩ := mem_kids.mp hk
    have he : above :: rest = u.entries := congrArg Trail.above (ht.trans hc)
    obtain ⟨rfl, rfl⟩ := List.cons.inj he
    exact h

def subtree (schema : Schema) (t : Trail) : List Node :=
  schema.subtree t.node

theorem subtree_eq (schema : Schema) (t : Trail) :
    t.subtree schema = t.node :: (t.kids schema).flatMap (subtree schema) := by
  rw [kids, List.flatMap_map]
  exact schema.subtree_eq t.node

theorem length_subtree_kids_lt (schema : Schema) (t : Trail) :
    ((t.kids schema).flatMap (subtree schema)).length < (t.subtree schema).length := by
  rw [subtree_eq]
  exact Nat.lt_succ_self _

end Trail

def Visit.trail (v : Visit) : Trail :=
  ⟨v.entry.toEntry, v.ancestors⟩

@[simp]
theorem Visit.trail_node (v : Visit) : v.trail.node = v.node :=
  rfl

@[simp]
theorem Visit.trail_path (v : Visit) : v.trail.path = v.path :=
  rfl

-- Every entry of a record stands behind its parent.
def ParentsFirst (entries : Array Queued) : Prop :=
  ∀ (i : Nat) (e : Queued) (p : Nat), entries[i]? = some e → e.parent = some p → p < i

-- What is added to a record does not change the way up from an entry that was there before.
theorem chain_append {entries : Array Queued} {more : List Queued} {i : Nat} (h : i < entries.size) :
    chain (entries ++ more) i = chain entries i := by
  induction i using Nat.strongRecOn
  case _ i hi =>
    rw [chain, chain]
    have he : (entries ++ more)[i]? = entries[i]? := by
      rw [← Array.getElem?_toList, Array.toList_appendList, List.getElem?_append_left (by simpa using h)]
      simp
    rw [he]
    cases entries[i]?
    case none => rfl
    case some e =>
      cases hq : e.parent
      case none => simp [hq]
      case some p =>
        by_cases hp : p < i
        case pos => simp [hq, hp, hi p hp (Nat.lt_trans hp h)]
        case neg => simp [hq, hp]

namespace ParentsFirst

variable {entries : Array Queued} {cursor : Nat} {schema : Schema}

theorem single (n : Node) : ParentsFirst #[{ node := n }] := by
  intro i e p he hp
  cases i
  case zero =>
    simp only [List.size_toArray, List.length_cons, List.length_nil, Nat.zero_add, Nat.lt_add_one,
      getElem?_pos, List.getElem_toArray, List.getElem_cons_zero, Option.some.injEq] at he
    simp [← he] at hp
  case succ => simp at he

theorem descend (h : ParentsFirst entries) (hc : cursor < entries.size) (n : Node) :
    ParentsFirst (entries ++ schema.entriesBelow n cursor) := by
  intro i e p he hp
  rw [← Array.getElem?_toList, Array.toList_appendList] at he
  by_cases hi : i < entries.size
  case pos =>
    rw [List.getElem?_append_left (by simpa using hi), Array.getElem?_toList] at he
    exact h i e p he hp
  case neg =>
    rw [List.getElem?_append_right (by simpa using hi)] at he
    have hm := List.mem_of_getElem? he
    simp only [Schema.entriesBelow, List.mem_map] at hm
    obtain ⟨_, _, hq⟩ := hm
    simp only [← hq, Option.some.injEq] at hp
    omega

-- The way up from an entry starts with the entry itself.
theorem chain_eq (h : ParentsFirst entries) (hc : cursor < entries.size) :
    chain entries cursor = (Visit.trail ⟨entries[cursor], entries⟩).entries := by
  have he : entries[cursor]? = some entries[cursor] := Array.getElem?_eq_getElem hc
  rw [chain, he]
  simp only [Trail.entries, Visit.trail, Visit.ancestors]
  cases hp : entries[cursor].parent
  case none => rfl
  case some p => simp [h cursor _ p he hp]

end ParentsFirst

-- The queue that a record stands for: the trails from the cursor on.
def pending (entries : Array Queued) (cursor : Nat) : List Trail :=
  (entries.toList.drop cursor).map fun e => Visit.trail ⟨e, entries⟩

section

variable {entries : Array Queued} {cursor : Nat} {schema : Schema}

theorem pending_eq_cons (h : cursor < entries.size) :
    pending entries cursor = Visit.trail ⟨entries[cursor], entries⟩ :: pending entries (cursor + 1) := by
  have hc : cursor < entries.toList.length := by simpa using h
  rw [pending, pending, List.drop_eq_getElem_cons hc]
  simp

theorem pending_eq_nil (h : ¬cursor < entries.size) : pending entries cursor = [] := by
  simp only [pending, List.map_eq_nil_iff, List.drop_eq_nil_iff, Array.length_toList]
  omega

theorem trail_append {e : Queued} {more : List Queued} (hp : ParentsFirst entries) (he : e ∈ entries) :
    Visit.trail ⟨e, entries ++ more⟩ = Visit.trail ⟨e, entries⟩ := by
  simp only [Visit.trail, Visit.ancestors]
  cases hq : e.parent
  case none => rfl
  case some p =>
    obtain ⟨i, hi, hei⟩ := Array.mem_iff_getElem.mp he
    have := hp i e p (by simp [hi, hei]) hq
    simp [chain_append (Nat.lt_trans this hi)]

-- The children of the entry at the cursor go to the end of the queue.
theorem pending_descend (hp : ParentsFirst entries) (h : cursor < entries.size) :
    pending (entries ++ schema.entriesBelow entries[cursor].node cursor) (cursor + 1) =
      pending entries (cursor + 1) ++ (Visit.trail ⟨entries[cursor], entries⟩).kids schema := by
  have hc : cursor + 1 ≤ entries.toList.length := h
  simp only [pending, Array.toList_appendList, List.drop_append_of_le_length hc, List.map_append]
  congr 1
  case _ =>
    apply List.map_congr_left
    intro e he
    exact trail_append hp (Array.mem_toList_iff.mp (List.mem_of_mem_drop he))
  case _ =>
    simp only [Schema.entriesBelow, Trail.kids, List.map_map]
    apply List.map_congr_left
    intro p _
    simp only [Function.comp_apply, Trail.child, ← hp.chain_eq h]
    simp only [Visit.trail, Visit.ancestors, chain_append h]

end

-- The answers of a visitor to a sequence of visits, with the state passed on from visit to visit.
inductive Answers {σ : Type} (visitor : σ → Visit → Walk × σ) : σ → List (Visit × Walk) → σ → Prop
  | nil {s} : Answers visitor s [] s
  | cons {s s' s'' v w log} :
    visitor s v = (w, s') → Answers visitor s' log s'' → Answers visitor s ((v, w) :: log) s''

theorem Answers.answer {σ : Type} {visitor : σ → Visit → Walk × σ} {s s' : σ} {log : List (Visit × Walk)}
    (a : Answers visitor s log s') : ∀ l ∈ log, ∃ s s', visitor s l.1 = (l.2, s') := by
  induction a
  case nil => simp
  case cons hv _ hi => exact List.forall_mem_cons.mpr ⟨⟨_, _, hv⟩, hi⟩

def trailLog (log : List (Visit × Walk)) : List (Trail × Walk) :=
  log.map fun l => (l.1.trail, l.2)

variable {σ : Type} {schema : Schema}

theorem searchFrom_sweeps (visitor : σ → Visit → Walk × σ) (entries : Array Queued) (cursor : Nat) (state : σ)
    (hp : ParentsFirst entries) :
    ∃ log, Sweep (Trail.kids schema) (pending entries cursor) (trailLog log) ∧
      Answers visitor state log (searchFrom schema visitor entries cursor state) := by
  fun_induction searchFrom schema visitor entries cursor state
  case case1 entries cursor state h _ state' hv =>
    refine ⟨[(⟨entries[cursor], entries⟩, .stop)], ?_, .cons hv .nil⟩
    exact pending_eq_cons h ▸ .stop
  case case2 entries cursor state h _ state' hv hi =>
    have ⟨log, hs, ha⟩ := hi hp
    refine ⟨(⟨entries[cursor], entries⟩, .skip) :: log, ?_, .cons hv ha⟩
    exact pending_eq_cons h ▸ .skip hs
  case case3 entries cursor state h _ state' hv hi =>
    have ⟨log, hs, ha⟩ := hi (hp.descend h _)
    refine ⟨(⟨entries[cursor], entries⟩, .descend) :: log, ?_, .cons hv ha⟩
    exact pending_eq_cons h ▸ .descend (pending_descend hp h ▸ hs)
  case case4 entries cursor state h =>
    exact ⟨[], pending_eq_nil h ▸ .done, .nil⟩

theorem search_sweeps (schema : Schema) (visitor : σ → Visit → Walk × σ) (root : Node) (state : σ) :
    ∃ log, Sweep (Trail.kids schema) [Trail.root root] (trailLog log) ∧
      Answers visitor state log (search schema visitor (some root) state) :=
  searchFrom_sweeps visitor _ 0 state (.single root)

theorem Sweep.leads {n : Node} {log : List (Trail × Walk)} (s : Sweep (Trail.kids schema) [Trail.root n] log) :
    ∀ l ∈ log, Trail.Leads schema n l.1 := by
  refine s.forall_visited _ (fun _ ht _ hk => .child ht hk) fun t ht => ?_
  exact List.mem_singleton.mp ht ▸ .root

-- All that is above a node was visited before it, and the search went on below.
theorem Sweep.above_before {n : Node} {log before after : List (Trail × Walk)} {t a : Trail} {w : Walk}
    (s : Sweep (Trail.kids schema) [Trail.root n] log) (h : log = before ++ (t, w) :: after)
    (ha : a.entries <:+ t.above) : (a, .descend) ∈ before := by
  induction hd : before.length using Nat.strongRecOn generalizing before after t w
  case _ d hi =>
    cases s.parent_before h
    case inl hq =>
      rw [List.mem_singleton.mp hq] at ha
      simp [Trail.root, Trail.entries] at ha
    case inr hq =>
      have ⟨b, hb, hk⟩ := hq
      obtain ⟨st, c, _, rfl⟩ := Trail.mem_kids.mp hk
      cases List.suffix_cons_iff.mp ha
      case inl he =>
        simp only [Trail.entries, List.cons.injEq] at he
        exact Trail.ext he.left he.right ▸ hb
      case inr he =>
        have ⟨before', after', hb'⟩ := List.append_of_mem hb
        have hl : log = before' ++ (b, .descend) :: (after' ++ (b.child st c, w) :: after) := by simp [h, hb']
        have := hi before'.length (by simp [← hd, hb']) hl he rfl
        exact hb' ▸ List.mem_append_left _ this

-- A visitor that keeps a log of its visits and answers.
def recording (visitor : σ → Visit → Walk × σ) (state : σ × List (Visit × Walk)) (v : Visit) :
    Walk × σ × List (Visit × Walk) :=
  let answer := visitor state.1 v
  (answer.1, answer.2, state.2 ++ [(v, answer.1)])

-- The visits of a search in their order, each with the answer it got.
def visits (schema : Schema) (visitor : σ → Visit → Walk × σ) (root : Node) (state : σ) : List (Visit × Walk) :=
  (search schema (recording visitor) (some root) (state, [])).2

-- Keeping a log does not change a search.
theorem searchFrom_recording (visitor : σ → Visit → Walk × σ) (entries : Array Queued) (cursor : Nat) (state : σ)
    (log : List (Visit × Walk)) :
    (searchFrom schema (recording visitor) entries cursor (state, log)).1 =
      searchFrom schema visitor entries cursor state := by
  fun_induction searchFrom schema visitor entries cursor state generalizing log
  case case4 h =>
    rw [searchFrom]
    simp [h]
  case case1 entries cursor state h _ state' hv =>
    replace hv : visitor state ⟨entries[cursor], entries⟩ = _ := hv
    rw [searchFrom]
    simp only [h, ↓reduceDIte, recording, hv]
  case case2 entries cursor state h _ state' hv hi =>
    replace hv : visitor state ⟨entries[cursor], entries⟩ = _ := hv
    rw [searchFrom]
    simp only [h, ↓reduceDIte, recording, hv]
    exact hi _
  case case3 entries cursor state h _ state' hv hi =>
    replace hv : visitor state ⟨entries[cursor], entries⟩ = _ := hv
    rw [searchFrom]
    simp only [h, ↓reduceDIte, recording, hv]
    exact hi _

theorem Answers.of_recording {visitor : σ → Visit → Walk × σ} {s s' : σ × List (Visit × Walk)}
    {log : List (Visit × Walk)} (a : Answers (recording visitor) s log s') :
    Answers visitor s.1 log s'.1 ∧ s'.2 = s.2 ++ log := by
  induction a
  case nil => exact ⟨.nil, by simp⟩
  case cons s s' s'' v w log hv _ hi =>
    obtain ⟨rfl, rfl⟩ := Prod.mk.inj hv
    exact ⟨.cons rfl hi.left, by simp [hi.right]⟩

theorem visits_sweep (visitor : σ → Visit → Walk × σ) (root : Node) (state : σ) :
    Sweep (Trail.kids schema) [Trail.root root] (trailLog (visits schema visitor root state)) := by
  have ⟨log, hs, ha⟩ := search_sweeps schema (recording visitor) root (state, [])
  rwa [visits, ha.of_recording.right]

theorem visits_answers (visitor : σ → Visit → Walk × σ) (root : Node) (state : σ) :
    Answers visitor state (visits schema visitor root state) (search schema visitor (some root) state) := by
  have ⟨log, _, ha⟩ := search_sweeps schema (recording visitor) root (state, [])
  have h := ha.of_recording
  rw [visits, h.right]
  have he : (search schema (recording visitor) (some root) (state, [])).1 = search schema visitor (some root) state :=
    searchFrom_recording visitor _ 0 state []
  exact he ▸ h.left

end MarkerLint.Outline
