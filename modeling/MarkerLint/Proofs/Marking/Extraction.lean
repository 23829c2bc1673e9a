import MarkerLint.Proofs.Component.Correspondence
import MarkerLint.Proofs.Component.Rendering
import MarkerLint.Proofs.Marking.Relation
import MarkerLint.Proofs.Rule.Reporting

namespace MarkerLint

open Outline

-- A place and the same place in a marked tree.
structure Matched (marker : String) (targets : List NodePath) (q q' : Place) : Prop where
  path : q'.path = q.path
  marking : Marking marker targets q.path q.node q'.node

structure Candidate.Matched (marker : String) (targets : List NodePath) (c c' : Candidate) : Prop where
  name : c'.name = c.name
  form : c'.form = c.form
  declaration : MarkerLint.Matched marker targets c.declaration c'.declaration
  exported : c'.exported = c.exported
  render : MarkerLint.Matched marker targets c.render c'.render

structure TopLevel.Matched (marker : String) (targets : List NodePath) (t t' : TopLevel) : Prop where
  candidates : List.Forall₂ (Candidate.Matched marker targets) t.candidates t'.candidates
  names : t'.names = t.names

namespace TopLevel.Matched

variable {marker : String} {targets : List NodePath}

theorem ofCandidates {cs cs' : List Candidate} (h : List.Forall₂ (Candidate.Matched marker targets) cs cs') :
    TopLevel.Matched marker targets (.ofCandidates cs) (.ofCandidates cs') where
  candidates := by simpa using h
  names := by cases h <;> rfl

theorem ofExports {names names' : List String} (h : names' = names) :
    TopLevel.Matched marker targets (.exports names) (.exports names') :=
  ⟨.nil, h⟩

end TopLevel.Matched

namespace Matched

variable {policy : Policy} {marker : String} {targets : List NodePath} {q q' : Place} {e : Edge} {exported : Bool}

theorem correspondence (marker : String) (targets : List NodePath) : Correspondence (Matched marker targets) where
  kind_eq h := h.marking.kind_eq
  name_eq h := h.marking.name_eq
  child? h he := rel_map (h.marking.parallel fun ha => he ha.left).child? fun _ _ mc => ⟨by rw [h.path], mc⟩
  children h he :=
    have p := h.marking.parallel fun ha => he ha.left
    forall₂_mapIdx p.length_children fun _ _ _ hc hc' => ⟨by rw [h.path], p.children hc hc'⟩

theorem kind_eq (h : Matched marker targets q q') : q'.node.kind = q.node.kind :=
  h.marking.kind_eq

theorem name_eq (h : Matched marker targets q q') : q'.node.name = q.node.name :=
  h.marking.name_eq

theorem identifier?_eq (h : Matched marker targets q q') (he : e ≠ .attributes) :
    q'.node.identifier? e = q.node.identifier? e :=
  h.marking.identifier?_eq he

theorem child? (h : Matched marker targets q q') (he : e ≠ .attributes) :
    Option.Rel (Matched marker targets) (q.child? e) (q'.child? e) :=
  (correspondence marker targets).child? h he

theorem children (h : Matched marker targets q q') (he : e ≠ .attributes) :
    List.Forall₂ (Matched marker targets) (q.children e) (q'.children e) :=
  (correspondence marker targets).children h he

theorem functionRender? (h : Matched marker targets q q') :
    Option.Rel (Matched marker targets) (functionRender? q) (functionRender? q') :=
  (correspondence marker targets).functionRender? h

theorem classRender? (h : Matched marker targets q q') :
    Option.Rel (Matched marker targets) (classRender? q) (classRender? q') :=
  (correspondence marker targets).classRender? h

theorem wrappedFunction? (h : Matched marker targets q q') :
    Option.Rel (Matched marker targets) (policy.wrappedFunction? q) (policy.wrappedFunction? q') :=
  (correspondence marker targets).wrappedFunction? policy h

theorem renderingValue? (h : Matched marker targets q q') :
    Option.Rel (RenderingValue.Corresponds (Matched marker targets)) (renderingValue? policy q)
      (renderingValue? policy q') :=
  (correspondence marker targets).renderingValue? policy h

theorem declaratorCandidate? (h : Matched marker targets q q') :
    Option.Rel (Candidate.Matched marker targets) (declaratorCandidate? policy exported q)
      (declaratorCandidate? policy exported q') := by
  simp only [MarkerLint.declaratorCandidate?, Option.bind_eq_bind]
  rw [h.identifier?_eq (e := .id) (by simp)]
  cases q.node.identifier? .id
  case none => exact .none
  case some name =>
    rw [Option.bind_some, Option.bind_some]
    refine rel_bind (h.child? (by simp)) fun _ _ hi => ?_
    exact rel_bind hi.renderingValue? fun _ _ hv => .some ⟨rfl, hv.form, h, rfl, hv.render⟩

theorem expressionCandidate? (h : Matched marker targets q q') :
    Option.Rel (Candidate.Matched marker targets) (expressionCandidate? policy exported q)
      (expressionCandidate? policy exported q') := by
  unfold MarkerLint.expressionCandidate?
  rw [h.kind_eq]
  split
  case h_1 =>
    simp only [Option.bind_eq_bind]
    rw [h.identifier?_eq (e := .left) (by simp)]
    cases q.node.identifier? .left
    case none => exact .none
    case some name =>
      rw [Option.bind_some, Option.bind_some]
      refine rel_bind (h.child? (by simp)) fun _ _ hr => ?_
      exact rel_bind hr.renderingValue? fun _ _ hv => .some ⟨rfl, rfl, h, rfl, hv.render⟩
  case h_2 =>
    refine rel_bind h.wrappedFunction? fun w w' hw => ?_
    dsimp only
    rw [hw.identifier?_eq (e := .id) (by simp)]
    split
    case isTrue => exact .none
    case isFalse => exact rel_bind hw.functionRender? fun _ _ hr => .some ⟨rfl, rfl, h, rfl, hr⟩
  case h_3 => exact .none

theorem declarationCandidates (h : Matched marker targets q q') :
    List.Forall₂ (Candidate.Matched marker targets) (declarationCandidates policy exported q)
      (declarationCandidates policy exported q') := by
  unfold MarkerLint.declarationCandidates
  rw [h.kind_eq]
  split
  case h_1 => exact List.rel_filterMap (fun _ _ hd => hd.declaratorCandidate?) (h.children (by simp))
  case h_2 =>
    exact rel_toList (rel_map h.functionRender? fun _ _ hr => ⟨h.identifier?_eq (by simp), rfl, h, rfl, hr⟩)
  case h_3 =>
    exact rel_toList (rel_map h.classRender? fun _ _ hr => ⟨h.identifier?_eq (by simp), rfl, h, rfl, hr⟩)
  case h_4 => exact rel_toList (rel_bind (h.child? (by simp)) fun _ _ he => he.expressionCandidate?)
  case h_5 => exact .nil

theorem defaultCandidates (h : Matched marker targets q q') :
    List.Forall₂ (Candidate.Matched marker targets) (defaultCandidates policy q) (defaultCandidates policy q') := by
  unfold MarkerLint.defaultCandidates
  rw [h.kind_eq]
  split
  case h_1 | h_2 => exact h.declarationCandidates
  case h_3 | h_4 => exact rel_toList h.expressionCandidate?
  case h_5 =>
    exact rel_toList (rel_map h.renderingValue? fun _ _ hv => ⟨hv.innerName, hv.form, h, rfl, hv.render⟩)

theorem localNames_eq (h : Matched marker targets q q') :
    (q'.node.children .specifiers).filterMap (·.identifier? .localName) =
      (q.node.children .specifiers).filterMap (·.identifier? .localName) := by
  have hm := (h.marking.parallel (e := .specifiers) (by simp)).map_children
    fun mc => mc.identifier?_eq (e := .localName) (by simp)
  simpa [List.filterMap_map] using congrArg (List.filterMap id) hm

theorem topLevel (h : Matched marker targets q q') :
    TopLevel.Matched marker targets (.ofStatement policy q) (.ofStatement policy q') := by
  unfold TopLevel.ofStatement
  rw [h.kind_eq]
  split
  case h_1 =>
    obtain ⟨hd, hd'⟩ | ⟨d, d', hd, hd', md⟩ := rel_cases (h.child? (e := .declaration) (by simp))
    · obtain ⟨hs, hs'⟩ | ⟨_, _, hs, hs', _⟩ := rel_cases (h.child? (e := .source) (by simp))
      · simp only [hd, hd', hs, hs', Option.isSome_none, Bool.false_eq_true, ↓reduceIte]
        exact .ofExports h.localNames_eq
      · simp only [hd, hd', hs, hs', Option.isSome_some, ↓reduceIte]
        exact ⟨.nil, rfl⟩
    · simp only [hd, hd']
      exact .ofCandidates md.declarationCandidates
  case h_2 =>
    obtain ⟨hd, hd'⟩ | ⟨d, d', hd, hd', md⟩ := rel_cases (h.child? (e := .declaration) (by simp))
    · simp only [hd, hd']
      exact ⟨.nil, rfl⟩
    · simp only [hd, hd', md.kind_eq, md.name_eq]
      split
      case isTrue => exact .ofExports rfl
      case isFalse => exact .ofCandidates md.defaultCandidates
  case h_3 => exact .ofCandidates h.declarationCandidates

end Matched

section

variable {policy : Policy} {marker : String} {targets : List NodePath} {program program' : Node}

theorem forall₂_statements (m : Marking marker targets [] program program') :
    List.Forall₂ (Matched marker targets) (topLevelStatements program) (topLevelStatements program') :=
  Matched.children ⟨rfl, m⟩ (by simp)

theorem forall₂_candidates (m : Marking marker targets [] program program') :
    List.Forall₂ (Candidate.Matched marker targets) (candidates policy program) (candidates policy program') :=
  List.rel_flatMap (forall₂_statements m) fun _ _ h => h.topLevel.candidates

theorem reachable_iff (m : Marking marker targets [] program program') (name : String) :
    Reachable policy program' name ↔ Reachable policy program name := by
  refine or_congr (exists_mem_iff (forall₂_candidates m) fun c c' h => ?_)
    (exists_mem_iff (forall₂_statements m) fun s s' h => ?_)
  · rw [h.name, h.exported]
  · rw [h.topLevel.names]

end
end MarkerLint
