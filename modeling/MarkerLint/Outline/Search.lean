import MarkerLint.Outline.Place
import MarkerLint.Outline.Schema

-- Breadth-first search of a tree. The queue is also the record of the visits: entries are added when a node is met
-- and never removed, and a cursor moves along them. Every entry knows where its parent stands, so the ancestors of
-- a visited node are read off the record instead of being copied.

namespace MarkerLint.Outline

inductive Walk where
  | descend
  | skip
  | stop
  deriving DecidableEq, Inhabited, Repr

structure Entry where
  node : Node
  via : Option Step := none
  deriving Inhabited

namespace Entry

def edge (e : Entry) : Option Edge :=
  e.via.map Step.edge

end Entry

structure Queued extends Entry where
  parent : Option Nat := none
  deriving Inhabited

def chain (entries : Array Queued) (i : Nat) : List Entry :=
  match entries[i]? with
  | none => []
  | some e =>
    match e.parent with
    | none => [e.toEntry]
    | some p => if p < i then e.toEntry :: chain entries p else [e.toEntry]
termination_by i

structure Visit where
  entry : Queued
  entries : Array Queued

namespace Visit

def node (v : Visit) : Node :=
  v.entry.node

def edge (v : Visit) : Option Edge :=
  v.entry.edge

def ancestors (v : Visit) : List Entry :=
  match v.entry.parent with
  | none => []
  | some p => chain v.entries p

def depth (v : Visit) : Nat :=
  v.ancestors.length

def isRoot (v : Visit) : Bool :=
  v.entry.parent.isNone

def path (v : Visit) : NodePath :=
  (v.entry.toEntry :: v.ancestors).filterMap Entry.via

end Visit

namespace Schema

def successors (s : Schema) (n : Node) : List (Step × Node) :=
  (s.edges n.kind).flatMap fun e => (n.follow e).mapIdx fun i c => (⟨e, i⟩, c)

theorem sizeOf_lt_of_mem_successors {s : Schema} {n : Node} {p : Step × Node} (h : p ∈ s.successors n) :
    sizeOf p.2 < sizeOf n := by
  simp only [successors, List.mem_flatMap, List.mem_mapIdx] at h
  obtain ⟨e, -, i, hi, rfl⟩ := h
  exact Node.sizeOf_lt_of_mem_follow (List.getElem_mem hi)

-- The node, and what a search that never skips visits below it.
def subtree (s : Schema) (n : Node) : List Node :=
  n :: (s.successors n).attach.flatMap fun p => s.subtree p.1.2
termination_by sizeOf n
decreasing_by exact sizeOf_lt_of_mem_successors p.2

theorem subtree_eq (s : Schema) (n : Node) :
    s.subtree n = n :: (s.successors n).flatMap fun p => s.subtree p.2 := by
  conv => rhs; rw [← List.attach_map_subtype_val (s.successors n), List.flatMap_map]
  rw [subtree]

def weight (s : Schema) (n : Node) : Nat :=
  (s.subtree n).length

theorem weight_pos (s : Schema) (n : Node) : 0 < s.weight n := by
  rw [weight, subtree_eq]
  exact Nat.succ_pos _

end Schema

def Schema.entriesBelow (s : Schema) (n : Node) (i : Nat) : List Queued :=
  (s.successors n).map fun p => { node := p.2, via := some p.1, parent := some i }

-- The visits still to be made.
def pendingWeight (s : Schema) (entries : Array Queued) (cursor : Nat) : Nat :=
  ((entries.toList.drop cursor).flatMap fun e => s.subtree e.node).length

theorem pendingWeight_skip {s : Schema} {entries : Array Queued} {cursor : Nat} (h : cursor < entries.size) :
    pendingWeight s entries (cursor + 1) + s.weight entries[cursor].node = pendingWeight s entries cursor := by
  have hc : cursor < entries.toList.length := by simpa using h
  rw [pendingWeight, pendingWeight, List.drop_eq_getElem_cons hc, List.flatMap_cons, List.length_append, Nat.add_comm]
  rfl

theorem pendingWeight_descend {s : Schema} {entries : Array Queued} {cursor : Nat} (h : cursor < entries.size) :
    pendingWeight s (entries ++ s.entriesBelow entries[cursor].node cursor) (cursor + 1) + 1 =
      pendingWeight s entries cursor := by
  rw [← pendingWeight_skip h, Schema.weight, s.subtree_eq entries[cursor].node]
  have hc : cursor + 1 ≤ entries.toList.length := h
  simp only [pendingWeight, Array.toList_appendList, List.drop_append_of_le_length hc, List.flatMap_append,
    List.length_append, List.length_cons, Schema.entriesBelow, List.flatMap_map, Nat.add_assoc]

def searchFrom {σ : Type} (schema : Schema) (visitor : σ → Visit → Walk × σ) (entries : Array Queued)
    (cursor : Nat) (state : σ) : σ :=
  if h : cursor < entries.size then
    let entry := entries[cursor]
    match visitor state ⟨entry, entries⟩ with
    | (.stop, state) => state
    | (.skip, state) => searchFrom schema visitor entries (cursor + 1) state
    | (.descend, state) =>
      searchFrom schema visitor (entries ++ schema.entriesBelow entry.node cursor) (cursor + 1) state
  else
    state
termination_by pendingWeight schema entries cursor
decreasing_by
  · have := pendingWeight_skip (s := schema) h
    have := schema.weight_pos entries[cursor].node
    omega
  · have := pendingWeight_descend (s := schema) h
    omega

def search {σ : Type} (schema : Schema) (visitor : σ → Visit → Walk × σ) (root : Option Node) (state : σ) : σ :=
  match root with
  | none => state
  | some root => searchFrom schema visitor #[{ node := root }] 0 state

end MarkerLint.Outline
