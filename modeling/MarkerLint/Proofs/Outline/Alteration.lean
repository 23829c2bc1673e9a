import MarkerLint.Proofs.Outline.Parallel

namespace MarkerLint.Outline

-- Changes the node in one slot of a link.
def Link.alter (slot : Nat) (f : Node → Node) : Link → Link
  | one e c => one e (if slot = 0 then f c else c)
  | many e cs => many e (cs.modify slot f)

-- Changes the link that counts for an edge.
def alterLink (e : Edge) (f : Link → Link) : List Link → List Link
  | [] => []
  | l :: links => if l.edge = e then f l :: links else l :: alterLink e f links

namespace Node

-- All of a node but its links.
def face (n : Node) : Kind × Span × Option String :=
  (n.kind, n.span, n.name)

-- Changes what one step leads to.
def alterStep (n : Node) (s : Step) (f : Node → Node) : Node :=
  .mk n.kind n.span n.name (alterLink s.edge (Link.alter s.slot f) n.links)

-- Changes the node at the end of a path. Where the path leaves the tree, nothing changes.
def alterAt (n : Node) : NodePath → (Node → Node) → Node
  | [], f => f n
  | s :: path, f => n.alterAt path (·.alterStep s f)

-- The same node with other links.
def withLinks (n : Node) (links : List Link) : Node :=
  .mk n.kind n.span n.name links

-- The same node with another sequence of children.
def withChildren (n : Node) (children : List Node) : Node :=
  n.withLinks (.many .children children :: n.links.filter (·.edge ≠ .children))

end Node

section

variable {n : Node} {s : Step} {e : Edge} {f : Node → Node} {l : Link}

theorem Link.edge_alter (slot : Nat) : (l.alter slot f).edge = l.edge := by
  cases l <;> rfl

theorem Link.isMany_alter (slot : Nat) : (l.alter slot f).isMany = l.isMany := by
  cases l <;> rfl

theorem Link.nodes_alter (slot : Nat) : (l.alter slot f).nodes = l.nodes.modify slot f := by
  cases l
  case many => rfl
  case one c => cases slot <;> simp [alter, nodes]

-- Only what counts for the edge is changed.
theorem find?_alterLink {g : Link → Link} (hg : ∀ l, (g l).edge = l.edge) (e' : Edge) (links : List Link) :
    (alterLink e g links).find? (·.edge == e') =
      (links.find? (·.edge == e')).map fun l => if e' = e then g l else l := by
  induction links
  case nil => rfl
  case cons l links hi =>
    by_cases hl : l.edge = e
    case pos =>
      by_cases he : e' = e
      case pos => simp [alterLink, hl, hg, he]
      case neg =>
        have hne : (e == e') = false := by simpa using Ne.symm he
        simp [alterLink, hl, hg, he, hne]
    case neg =>
      cases hl' : l.edge == e'
      case true =>
        have he : e' ≠ e := eq_of_beq hl' ▸ hl
        simp [alterLink, hl, hl', he]
      case false => simpa [alterLink, hl, hl'] using hi

theorem Node.link?_alterStep (e : Edge) :
    (n.alterStep s f).link? e = (n.link? e).map fun l => if e = s.edge then l.alter s.slot f else l :=
  find?_alterLink (fun _ => Link.edge_alter s.slot) e n.links

theorem Node.isMany_alterStep (e : Edge) :
    ((n.alterStep s f).link? e).map Link.isMany = (n.link? e).map Link.isMany := by
  rw [link?_alterStep, Option.map_map]
  congr 1
  funext l
  by_cases he : e = s.edge <;> simp [he, Link.isMany_alter]

theorem Node.follow_alterStep (e : Edge) :
    (n.alterStep s f).follow e = if e = s.edge then (n.follow e).modify s.slot f else n.follow e := by
  rw [follow, link?_alterStep, follow]
  by_cases he : e = s.edge
  case pos => cases n.link? e <;> simp [he, Link.nodes_alter]
  case neg => cases n.link? e <;> simp [he]

theorem Node.getElem?_follow_alterStep (e : Edge) (i : Nat) :
    ((n.alterStep s f).follow e)[i]? = ((n.follow e)[i]?).map fun c => if s = ⟨e, i⟩ then f c else c := by
  obtain ⟨e', slot⟩ := s
  rw [follow_alterStep]
  by_cases he : e = e'
  case pos => simp [he, List.getElem?_modify]
  case neg => simp [he, Ne.symm he]

theorem Node.link?_withChildren (he : e ≠ .children) (children : List Node) :
    (n.withChildren children).link? e = n.link? e := by
  change (Link.many .children children :: n.links.filter (·.edge ≠ .children)).find? (·.edge == e) = _
  rw [List.find?_cons_of_neg (by simpa [Link.edge] using he.symm), List.find?_filter, link?]
  congr 1
  funext l
  cases hl : l.edge == e
  case false => simp
  case true => simp [eq_of_beq hl, he]

-- From the top, a change at a path is a change in what its first step leads to.
theorem Node.alterAt_concat (way : NodePath) : n.alterAt (way ++ [s]) f = n.alterStep s (·.alterAt way f) := by
  induction way generalizing f
  case nil => rfl
  case cons a way hi => exact hi

-- What stands at the path is changed.
theorem Node.at?_alterAt (path : NodePath) : (n.alterAt path f).at? path = (n.at? path).map f := by
  induction path generalizing f
  case nil => rfl
  case cons s path hi =>
    rw [alterAt, at?, hi, at?]
    cases n.at? path
    case none => rfl
    case some c =>
      have hs := @getElem?_follow_alterStep c s f s.edge s.slot
      simpa using hs

end

-- Nodes at one path before and after a change at the spot. The path leads toward the spot or past it, but
-- not below it.
inductive Altered (f : Node → Node) (spot : NodePath) : NodePath → Node → Node → Prop
  | toward {path n} (way : NodePath) : spot = way ++ path → Altered f spot path n (n.alterAt way f)
  | aside {path n} : NodePath.Apart spot path → Altered f spot path n n

namespace Altered

variable {f : Node → Node} {spot path : NodePath} {n n' : Node}

theorem eq_at_spot (h : Altered f spot spot n n') : n' = f n := by
  cases h
  case toward way h =>
    obtain rfl : way = [] := List.self_eq_append_left.mp h
    rfl
  case aside h => exact absurd rfl h.ne

theorem face_eq (hf : ∀ n, (f n).face = n.face) (h : Altered f spot path n n') : n'.face = n.face := by
  cases h
  case aside => rfl
  case toward way _ =>
    cases List.eq_nil_or_concat way
    case inl hw => exact hw ▸ hf n
    case inr hw =>
      have ⟨way', s, hw⟩ := hw
      rw [hw, List.concat_eq_append, Node.alterAt_concat]
      rfl

-- Away from the spot the trees stay side by side.
theorem parallel (h : Altered f spot path n n') (hne : path ≠ spot) (e : Edge) :
    Parallel (fun s => Altered f spot (s :: path)) n n' e := by
  cases h
  case aside ha =>
    refine ⟨rfl, rfl, fun i c c' hc hc' => ?_⟩
    obtain rfl : c = c' := Option.some.inj (hc.symm.trans hc')
    exact .aside (ha.below List.suffix_rfl (List.suffix_cons ..))
  case toward way hs =>
    cases List.eq_nil_or_concat way
    case inl hw => exact absurd (hw ▸ hs).symm hne
    case inr hw =>
      have ⟨way', s, hw⟩ := hw
      rw [hw, List.concat_eq_append] at hs ⊢
      rw [Node.alterAt_concat]
      refine ⟨Node.isMany_alterStep e, ?_, fun i c c' hc hc' => ?_⟩
      · rw [Node.follow_alterStep]
        split <;> simp
      · replace hs : spot = way' ++ s :: path := by simpa using hs
        rw [Node.getElem?_follow_alterStep, hc, Option.map_some, Option.some.injEq] at hc'
        by_cases hstep : s = ⟨e, i⟩
        case pos =>
          rw [if_pos hstep] at hc'
          exact hc' ▸ .toward way' (hstep ▸ hs)
        case neg =>
          rw [if_neg hstep] at hc'
          exact hc' ▸ .aside ((NodePath.Apart.siblings hstep).below ⟨way', hs.symm⟩ List.suffix_rfl)

end Altered
end MarkerLint.Outline
