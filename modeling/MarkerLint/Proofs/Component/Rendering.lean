import MarkerLint.Component.Candidate
import MarkerLint.Proofs.Outline.Places

namespace MarkerLint

open Outline

-- The place is markup that a function at or below another place hands back: by its body as a whole, or
-- as the argument of a `return`.
structure Renders (q r : Place) : Prop where
  markup : r.node.kind.isMarkup
  handed : ∃ (p : Place) (e : Edge), (e = .body ∨ e = .argument) ∧ p.Within q ∧ p.child? e = some r

namespace Renders

variable {q q' r : Place}

theorem within (h : Renders q r) : r.Within q :=
  have ⟨_, _, _, hp, hr⟩ := h.handed
  (Place.within_of_child? hr).trans hp

theorem mono (h : Renders q r) (hq : q.Within q') : Renders q' r where
  markup := h.markup
  handed :=
    have ⟨p, e, he, hp, hr⟩ := h.handed
    ⟨p, e, he, hp.trans hq, hr⟩

end Renders

variable {policy : Policy} {q r : Place} {c : Candidate} {exported : Bool}

theorem functionRender?_renders (h : functionRender? q = some r) : Renders q r := by
  simp only [functionRender?, Option.bind_eq_bind, Option.bind_eq_some_iff] at h
  have ⟨body, hb, h⟩ := h
  split at h
  case isTrue =>
    simp only [Option.bind_eq_some_iff, Option.ite_none_right_eq_some, Option.some.injEq] at h
    obtain ⟨statement, hs, _, ha, hm, rfl⟩ := h
    have hs := Place.within_of_mem_children (List.mem_of_find?_eq_some hs)
    exact ⟨hm, statement, .argument, .inr rfl, hs.trans (Place.within_of_child? hb), ha⟩
  case isFalse =>
    obtain ⟨hm, rfl⟩ : body.node.kind.isMarkup ∧ body = r := by simpa using h
    exact ⟨hm, q, .body, .inl rfl, .refl q, hb⟩

theorem classRender?_renders (h : classRender? q = some r) : Renders q r := by
  simp only [classRender?, Option.bind_eq_bind, Option.bind_eq_some_iff] at h
  have ⟨body, hb, method, hm, value, hv, h⟩ := h
  have hm := Place.within_of_mem_children (List.mem_of_find?_eq_some hm)
  exact (functionRender?_renders h).mono
    ((Place.within_of_child? hv).trans (hm.trans (Place.within_of_child? hb)))

theorem wrappedFunction?_within (h : policy.wrappedFunction? q = some r) : r.Within q := by
  unfold Policy.wrappedFunction? at h
  split at h
  case isFalse => contradiction
  case isTrue =>
    split at h
    case h_2 => contradiction
    case h_1 argument ha =>
      have hw := Place.within_of_mem_children (p := q) (e := .arguments) (ha ▸ List.mem_singleton_self argument)
      split at h
      case h_3 => contradiction
      all_goals
        obtain rfl := Option.some.inj h
        exact hw

theorem renderingValue?_renders {value : RenderingValue} (h : renderingValue? policy q = some value) :
    Renders q value.render := by
  unfold renderingValue? at h
  split at h
  case h_1 | h_2 =>
    have ⟨_, hr, hv⟩ := Option.bind_eq_some_iff.mp h
    obtain rfl := Option.some.inj hv
    exact functionRender?_renders hr
  case h_3 =>
    have ⟨_, hr, hv⟩ := Option.bind_eq_some_iff.mp h
    obtain rfl := Option.some.inj hv
    exact classRender?_renders hr
  case h_4 =>
    have ⟨_, hw, h⟩ := Option.bind_eq_some_iff.mp h
    have ⟨_, hr, hv⟩ := Option.bind_eq_some_iff.mp h
    obtain rfl := Option.some.inj hv
    exact (functionRender?_renders hr).mono (wrappedFunction?_within hw)
  case h_5 => contradiction

-- The declaration lies at or below a place and the markup strictly below the declaration.
structure Candidate.DeclaredIn (c : Candidate) (q : Place) : Prop where
  declaration : c.declaration.Within q
  renders : Renders c.declaration c.render

theorem Candidate.DeclaredIn.mono {q' : Place} (h : c.DeclaredIn q) (hq : q.Within q') : c.DeclaredIn q' :=
  ⟨h.declaration.trans hq, h.renders⟩

theorem Candidate.DeclaredIn.render_within (h : c.DeclaredIn q) : c.render.Within q :=
  h.renders.within.trans h.declaration

theorem declaratorCandidate?_declaredIn (h : declaratorCandidate? policy exported q = some c) :
    c.DeclaredIn q := by
  simp only [declaratorCandidate?, Option.bind_eq_bind, Option.bind_eq_some_iff] at h
  have ⟨_, _, _, hi, _, hv, h⟩ := h
  obtain rfl := Option.some.inj h
  exact ⟨.refl q, (renderingValue?_renders hv).mono (Place.within_of_child? hi)⟩

theorem expressionCandidate?_declaredIn (h : expressionCandidate? policy exported q = some c) :
    c.DeclaredIn q := by
  unfold expressionCandidate? at h
  split at h
  case h_1 =>
    simp only [Option.bind_eq_bind, Option.bind_eq_some_iff] at h
    have ⟨_, _, _, hr, _, hv, h⟩ := h
    obtain rfl := Option.some.inj h
    exact ⟨.refl q, (renderingValue?_renders hv).mono (Place.within_of_child? hr)⟩
  case h_2 =>
    have ⟨_, hw, h⟩ := Option.bind_eq_some_iff.mp h
    dsimp only at h
    split at h
    case isTrue => contradiction
    case isFalse =>
      have ⟨_, hr, h⟩ := Option.bind_eq_some_iff.mp h
      obtain rfl := Option.some.inj h
      exact ⟨.refl q, (functionRender?_renders hr).mono (wrappedFunction?_within hw)⟩
  case h_3 => contradiction

theorem declarationCandidates_declaredIn (h : c ∈ declarationCandidates policy exported q) : c.DeclaredIn q := by
  unfold declarationCandidates at h
  split at h
  case h_1 =>
    have ⟨_, hd, hc⟩ := List.mem_filterMap.mp h
    exact (declaratorCandidate?_declaredIn hc).mono (Place.within_of_mem_children hd)
  case h_2 =>
    simp only [Option.mem_toList, Option.map_eq_some_iff] at h
    obtain ⟨_, hr, rfl⟩ := h
    exact ⟨.refl q, functionRender?_renders hr⟩
  case h_3 =>
    simp only [Option.mem_toList, Option.map_eq_some_iff] at h
    obtain ⟨_, hr, rfl⟩ := h
    exact ⟨.refl q, classRender?_renders hr⟩
  case h_4 =>
    simp only [Option.mem_toList, Option.bind_eq_some_iff] at h
    have ⟨_, he, hc⟩ := h
    exact (expressionCandidate?_declaredIn hc).mono (Place.within_of_child? he)
  case h_5 => contradiction

theorem defaultCandidates_declaredIn (h : c ∈ defaultCandidates policy q) : c.DeclaredIn q := by
  unfold defaultCandidates at h
  split at h
  case h_1 | h_2 => exact declarationCandidates_declaredIn h
  case h_3 | h_4 => exact expressionCandidate?_declaredIn (Option.mem_toList.mp h)
  case h_5 =>
    simp only [Option.mem_toList, Option.map_eq_some_iff] at h
    obtain ⟨_, hv, rfl⟩ := h
    exact ⟨.refl q, renderingValue?_renders hv⟩

@[simp]
theorem TopLevel.candidates_ofCandidates (cs : List Candidate) : (ofCandidates cs).candidates = cs := by
  cases cs <;> rfl

theorem TopLevel.ofStatement_declaredIn (h : c ∈ (ofStatement policy q).candidates) : c.DeclaredIn q := by
  unfold ofStatement at h
  split at h
  case h_1 =>
    split at h
    case h_1 hd =>
      rw [candidates_ofCandidates] at h
      exact (declarationCandidates_declaredIn h).mono (Place.within_of_child? hd)
    case h_2 => split at h <;> contradiction
  case h_2 =>
    split at h
    case h_1 => contradiction
    case h_2 hd =>
      split at h
      case isTrue => contradiction
      case isFalse =>
        rw [candidates_ofCandidates] at h
        exact (defaultCandidates_declaredIn h).mono (Place.within_of_child? hd)
  case h_3 =>
    rw [candidates_ofCandidates] at h
    exact declarationCandidates_declaredIn h

theorem candidates_declaredIn {program : Node} (h : c ∈ candidates policy program) :
    c.DeclaredIn (.root program) := by
  have ⟨_, hs, hc⟩ := List.mem_flatMap.mp h
  exact (TopLevel.ofStatement_declaredIn hc).mono (Place.within_of_mem_children hs)

end MarkerLint
