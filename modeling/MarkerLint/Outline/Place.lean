import MarkerLint.Outline.Node

-- Places: nodes together with the way that leads to them from the root of their tree. Two nodes that look alike are
-- told apart by their places.

namespace MarkerLint.Outline

structure Step where
  edge : Edge
  slot : Nat := 0
  deriving DecidableEq, Inhabited, Repr

-- The steps from a node back to the root, last one first.
abbrev NodePath := List Step

namespace Node

def at? (root : Node) : NodePath → Option Node
  | [] => some root
  | s :: path => (root.at? path).bind fun n => (n.follow s.edge)[s.slot]?

end Node

structure Place where
  path : NodePath := []
  node : Node
  deriving Inhabited

namespace Place

def root (n : Node) : Place :=
  ⟨[], n⟩

def In (p : Place) (root : Node) : Prop :=
  root.at? p.path = some p.node

def child? (p : Place) (e : Edge) : Option Place :=
  (p.node.child? e).map fun c => ⟨⟨e, 0⟩ :: p.path, c⟩

def children (p : Place) (e : Edge) : List Place :=
  (p.node.children e).mapIdx fun i c => ⟨⟨e, i⟩ :: p.path, c⟩

end Place
end MarkerLint.Outline
