import Mathlib.Logic.ExistsUnique
import MarkerLint.Component.Audit
import MarkerLint.Proofs.Component.Rendering
import MarkerLint.Proofs.Outline.Places
import MarkerLint.Proofs.Search.Trail

namespace MarkerLint

namespace Outline.Place

theorem Within.suffix {r q : Place} (h : r.Within q) : q.path <:+ r.path := by
  have ⟨way, hp, _⟩ := h
  exact ⟨way, hp.symm⟩

theorem pairwise_children (p : Place) (e : Edge) :
    (p.children e).Pairwise fun q r => NodePath.Apart q.path r.path := by
  refine List.pairwise_iff_getElem.mpr fun i j hi hj h => ?_
  simp only [children, List.getElem_mapIdx]
  exact .siblings fun he => Nat.ne_of_lt h (Step.mk.inj he).right

end Outline.Place

open Outline

variable {policy : Policy} {c d : Candidate} {q r : Place}

theorem Renders.strictly_below (h : Renders q r) : q.path <:+ r.path ∧ q.path ≠ r.path := by
  have ⟨p, e, _, hp, hr⟩ := h.handed
  have hpath := (Place.child?_eq_some.mp hr).left
  refine ⟨h.within.suffix, fun he => ?_⟩
  have hle := hp.suffix.length_le
  rw [he, hpath, List.length_cons] at hle
  omega

def Candidate.Apart (c d : Candidate) : Prop :=
  NodePath.Apart c.declaration.path d.declaration.path

namespace Candidate

-- Candidates of places that are apart are apart.
theorem DeclaredIn.apart (hc : c.DeclaredIn q) (hd : d.DeclaredIn r) (h : NodePath.Apart q.path r.path) :
    c.Apart d :=
  h.below hc.declaration.suffix hd.declaration.suffix

theorem Apart.render (h : c.Apart d) (hc : c.DeclaredIn q) (hd : d.DeclaredIn r) :
    NodePath.Apart c.render.path d.render.path :=
  h.below hc.renders.within.suffix hd.renders.within.suffix

end Candidate

-- Candidates of different children of one node, at or below the place, are related.
def Separates (R : Candidate → Candidate → Prop) (q : Place) : Prop :=
  ∀ (p : Place) (e : Edge), p.Within q →
    (p.children e).Pairwise fun r s => ∀ c d : Candidate, c.DeclaredIn r → d.DeclaredIn s → R c d

section

variable {R : Candidate → Candidate → Prop}

theorem Separates.mono (h : Separates R q) (hr : r.Within q) : Separates R r :=
  fun p e hp => h p e (hp.trans hr)

theorem pairwise_toList (o : Option Candidate) : o.toList.Pairwise R := by
  cases o
  case none => exact .nil
  case some => exact List.pairwise_singleton ..

-- Only a declaration of several variables has several candidates.
theorem pairwise_declarationCandidates (h : Separates R q) (policy : Policy) (exported : Bool) :
    (declarationCandidates policy exported q).Pairwise R := by
  unfold declarationCandidates
  split
  case h_1 =>
    refine List.pairwise_filterMap.mpr ((h q .declarations (.refl q)).imp ?_)
    intro q r h c hc d hd
    exact h c d (declaratorCandidate?_declaredIn hc) (declaratorCandidate?_declaredIn hd)
  case h_5 => exact .nil
  all_goals exact pairwise_toList _

theorem pairwise_defaultCandidates (h : Separates R q) (policy : Policy) :
    (defaultCandidates policy q).Pairwise R := by
  unfold defaultCandidates
  split
  case h_1 | h_2 => exact pairwise_declarationCandidates h policy true
  all_goals exact pairwise_toList _

theorem pairwise_ofStatement (h : Separates R q) (policy : Policy) :
    (TopLevel.ofStatement policy q).candidates.Pairwise R := by
  unfold TopLevel.ofStatement
  split
  case h_1 =>
    split
    case h_1 hd => simpa using pairwise_declarationCandidates (h.mono (Place.within_of_child? hd)) policy true
    case h_2 => split <;> exact .nil
  case h_2 =>
    split
    case h_1 => exact .nil
    case h_2 hd =>
      split
      case isTrue => exact .nil
      case isFalse => simpa using pairwise_defaultCandidates (h.mono (Place.within_of_child? hd)) policy
  case h_3 => simpa using pairwise_declarationCandidates h policy false

theorem pairwise_of_separates {program : Node} (h : Separates R (.root program)) (policy : Policy) :
    (candidates policy program).Pairwise R := by
  refine List.pairwise_flatMap.mpr ⟨fun s hs => ?_, (h _ .body (.refl _)).imp ?_⟩
  · exact pairwise_ofStatement (h.mono (Place.within_of_mem_children hs)) policy
  · intro q r h c hc d hd
    exact h c d (TopLevel.ofStatement_declaredIn hc) (TopLevel.ofStatement_declaredIn hd)

end

theorem pairwise_candidates (policy : Policy) (program : Node) :
    (candidates policy program).Pairwise Candidate.Apart := by
  refine pairwise_of_separates (fun p e _ => (p.pairwise_children e).imp ?_) policy
  intro q r h c d hc hd
  exact hc.apart hd h

-- The places that the audit of a candidate visits.
def audited (policy : Policy) (schema : Schema) (c : Candidate) : List Place :=
  (visits schema (auditVisit policy c.render.path) c.render.node {}).map fun l =>
    ⟨l.1.path ++ c.render.path, l.1.node⟩

theorem render_suffix_of_audited {schema : Schema} {p : Place} (h : p ∈ audited policy schema c) :
    c.render.path <:+ p.path := by
  obtain ⟨l, _, rfl⟩ := List.mem_map.mp h
  exact List.suffix_append ..

-- Where the markup of components is apart, a place lies in the markup of one of them at most.
theorem index_eq_of_suffix {cs : List Candidate} {path : NodePath} {i j : Nat}
    (h : cs.Pairwise fun c d => NodePath.Apart c.render.path d.render.path)
    (hc : cs[i]? = some c) (hd : cs[j]? = some d) (hci : c.render.path <:+ path) (hdj : d.render.path <:+ path) :
    i = j := by
  have apart {i j : Nat} {c d : Candidate} (hc : cs[i]? = some c) (hd : cs[j]? = some d) (hlt : i < j) :
      NodePath.Apart c.render.path d.render.path := by
    obtain ⟨hi, rfl⟩ := List.getElem?_eq_some_iff.mp hc
    obtain ⟨hj, rfl⟩ := List.getElem?_eq_some_iff.mp hd
    exact List.pairwise_iff_getElem.mp h i j hi hj hlt
  obtain hlt | he | hlt := Nat.lt_trichotomy i j
  · exact absurd rfl ((apart hc hd hlt).below hci hdj).ne
  · exact he
  · exact absurd rfl ((apart hd hc hlt).below hdj hci).ne

-- The markup of a component lies strictly below its declaration, the declarations of two components
-- differ, and neither markup lies in the other. So all that is audited belongs to one component.
theorem candidates_render_apart (policy : Policy) (program : Node) :
    (∀ c ∈ candidates policy program,
      c.declaration.In program ∧ c.render.In program ∧ c.render.node.kind.isMarkup ∧
        c.declaration.path <:+ c.render.path ∧ c.declaration.path ≠ c.render.path) ∧
    (candidates policy program).Pairwise (fun c d =>
      c.declaration.path ≠ d.declaration.path ∧ NodePath.Apart c.render.path d.render.path) ∧
    ∀ (schema : Schema), ∀ c ∈ candidates policy program, ∀ p ∈ audited policy schema c,
      ∃! i : Nat, ∃ d, (candidates policy program)[i]? = some d ∧ d.render.path <:+ p.path := by
  have hrender : (candidates policy program).Pairwise fun c d => NodePath.Apart c.render.path d.render.path := by
    refine (pairwise_candidates policy program).imp_of_mem fun hc hd h => ?_
    exact h.render (candidates_declaredIn hc) (candidates_declaredIn hd)
  refine ⟨fun c hc => ?_, ?_, fun schema c hc p hp => ?_⟩
  · have h := candidates_declaredIn hc
    exact ⟨Place.within_root.mp h.declaration, Place.within_root.mp h.render_within, h.renders.markup,
      h.renders.strictly_below⟩
  · exact (pairwise_candidates policy program).imp₂ (fun _ _ h hr => ⟨h.ne, hr⟩) hrender
  · have ⟨i, hi⟩ := List.getElem?_of_mem hc
    refine ⟨i, ⟨c, hi, render_suffix_of_audited hp⟩, ?_⟩
    rintro j ⟨d, hj, hd⟩
    exact index_eq_of_suffix hrender hj hi hd (render_suffix_of_audited hp)

namespace Sample

-- A variable that holds a function which returns an empty fragment.
def holder (name : String) : Node :=
  .branch .variableDeclarator {} [.one .id (.named .identifier {} name),
    .one .init (.branch .arrowFunctionExpression {} [.one .body (.leaf .jsxFragment {})])]

-- Two components in one declaration.
def twins : Node :=
  .branch .program {} [.many .body [.branch .variableDeclaration {} [.many .declarations [holder "A", holder "B"]]]]

end Sample

theorem candidates_render_apart_twins :
    let policy : Policy := { isExcluded _ := false, marker := "id", wrappers := [] }
    let cs := candidates policy Sample.twins
    cs.map (fun c => (audited policy default c).map Place.path) =
        [[[⟨.body, 0⟩, ⟨.init, 0⟩, ⟨.declarations, 0⟩, ⟨.body, 0⟩]],
          [[⟨.body, 0⟩, ⟨.init, 0⟩, ⟨.declarations, 1⟩, ⟨.body, 0⟩]]] ∧
      ∀ c ∈ cs, ∀ p ∈ audited policy default c, ∃! i : Nat, ∃ d, cs[i]? = some d ∧ d.render.path <:+ p.path :=
  ⟨by decide +kernel, (candidates_render_apart ..).right.right default⟩

end MarkerLint
