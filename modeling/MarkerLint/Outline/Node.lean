import MarkerLint.Text.Span
import MarkerLint.Outline.Kind

-- Trees of a module's syntax. A node has a kind, a span, perhaps a name, and links to its children in the order in
-- which they were attached. A link goes to one node or to a sequence of nodes.

namespace MarkerLint.Outline

mutual

inductive Node where
  | mk (kind : Kind) (span : Span) (name : Option String) (links : List Link)

inductive Link where
  | one (edge : Edge) (child : Node)
  | many (edge : Edge) (children : List Node)

end

instance : Inhabited Node :=
  ⟨.mk .other {} none []⟩

namespace Link

def edge : Link → Edge
  | one e _ => e
  | many e _ => e

def nodes : Link → List Node
  | one _ n => [n]
  | many _ ns => ns

end Link

namespace Node

def kind : Node → Kind
  | mk k _ _ _ => k

def span : Node → Span
  | mk _ s _ _ => s

def name : Node → Option String
  | mk _ _ n _ => n

def links : Node → List Link
  | mk _ _ _ ls => ls

def leaf (kind : Kind) (span : Span) : Node :=
  mk kind span none []

def named (kind : Kind) (span : Span) (name : String) : Node :=
  mk kind span (some name) []

def branch (kind : Kind) (span : Span) (links : List Link) : Node :=
  mk kind span none links

-- The link with a given edge. Of several, the first one counts.
def link? (n : Node) (e : Edge) : Option Link :=
  n.links.find? (·.edge == e)

def child? (n : Node) (e : Edge) : Option Node :=
  match n.link? e with
  | some (.one _ c) => some c
  | _ => none

def children (n : Node) (e : Edge) : List Node :=
  match n.link? e with
  | some (.many _ cs) => cs
  | _ => []

def follow (n : Node) (e : Edge) : List Node :=
  ((n.link? e).map Link.nodes).getD []

def identifier? (n : Node) (e : Edge) : Option String :=
  match n.child? e with
  | some c => if c.kind = .identifier then c.name else none
  | none => none

theorem sizeOf_lt_of_mem_nodes {l : Link} {c : Node} (h : c ∈ l.nodes) : sizeOf c < sizeOf l := by
  cases l with
  | one e n =>
    simp only [Link.nodes, List.mem_singleton] at h
    subst h
    rw [Link.one.sizeOf_spec]
    omega
  | many e ns =>
    have := List.sizeOf_lt_of_mem (show c ∈ ns from h)
    simp
    omega

theorem sizeOf_lt_of_mem_links {n : Node} {l : Link} (h : l ∈ n.links) : sizeOf l < sizeOf n := by
  cases n with
  | mk k s m ls =>
    have := List.sizeOf_lt_of_mem (show l ∈ ls from h)
    simp
    omega

-- Following an edge leads to a smaller tree.
theorem sizeOf_lt_of_mem_follow {n c : Node} {e : Edge} (h : c ∈ n.follow e) : sizeOf c < sizeOf n := by
  unfold follow at h
  cases hl : n.link? e with
  | none => simp [hl] at h
  | some l =>
    simp only [hl, Option.map_some, Option.getD_some] at h
    exact Nat.lt_trans (sizeOf_lt_of_mem_nodes h) (sizeOf_lt_of_mem_links (List.mem_of_find?_eq_some hl))

end Node
end MarkerLint.Outline
