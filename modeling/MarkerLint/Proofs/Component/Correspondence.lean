import MarkerLint.Component.Candidate
import MarkerLint.Proofs.Outline.Parallel

-- What renders corresponds. Markup is looked for by kinds, names and the way down, and never in attributes. Two
-- places that cannot be told apart in this way render in the same form and under the same name, and their markup is
-- at places that correspond.

namespace MarkerLint

open Outline

theorem Outline.Place.identifier?_eq_bind (q : Place) (e : Edge) :
    q.node.identifier? e = (q.child? e).bind fun c => if c.node.kind = .identifier then c.node.name else none := by
  unfold Node.identifier? child?
  cases q.node.child? e <;> rfl

-- Places that correspond look alike, and so does all that is below them apart from attributes.
structure Correspondence (R : Place → Place → Prop) : Prop where
  kind_eq : ∀ {q q'}, R q q' → q'.node.kind = q.node.kind
  name_eq : ∀ {q q'}, R q q' → q'.node.name = q.node.name
  child? : ∀ {q q' e}, R q q' → e ≠ .attributes → Option.Rel R (q.child? e) (q'.child? e)
  children : ∀ {q q' e}, R q q' → e ≠ .attributes → List.Forall₂ R (q.children e) (q'.children e)

structure RenderingValue.Corresponds (R : Place → Place → Prop) (v v' : RenderingValue) : Prop where
  form : v'.form = v.form
  render : R v.render v'.render
  innerName : v'.innerName = v.innerName

namespace Correspondence

variable {R : Place → Place → Prop} {q q' : Place} {e : Edge}

theorem identifier?_eq (hR : Correspondence R) (h : R q q') (he : e ≠ .attributes) :
    q'.node.identifier? e = q.node.identifier? e := by
  rw [q.identifier?_eq_bind, q'.identifier?_eq_bind]
  obtain ⟨hc, hc'⟩ | ⟨c, c', hc, hc', h⟩ := rel_cases (hR.child? h he)
  · simp [hc, hc']
  · simp [hc, hc', hR.kind_eq h, hR.name_eq h]

theorem ifMarkup (hR : Correspondence R) (h : R q q') :
    Option.Rel R (if q.node.kind.isMarkup then some q else none)
      (if q'.node.kind.isMarkup then some q' else none) := by
  rw [hR.kind_eq h]
  split
  · exact .some h
  · exact .none

theorem functionRender? (hR : Correspondence R) (h : R q q') :
    Option.Rel R (functionRender? q) (functionRender? q') := by
  simp only [MarkerLint.functionRender?, Option.bind_eq_bind]
  refine rel_bind (hR.child? h (by simp)) fun body body' hb => ?_
  rw [hR.kind_eq hb]
  split
  case isTrue =>
    refine rel_bind (rel_find? (hR.children hb (by simp)) fun s s' hs => ?_) fun s s' hs => ?_
    · rw [hR.kind_eq hs]
    · exact rel_bind (hR.child? hs (by simp)) fun _ _ hr => hR.ifMarkup hr
  case isFalse => exact hR.ifMarkup hb

theorem classRender? (hR : Correspondence R) (h : R q q') : Option.Rel R (classRender? q) (classRender? q') := by
  simp only [MarkerLint.classRender?, Option.bind_eq_bind]
  refine rel_bind (hR.child? h (by simp)) fun body body' hb => ?_
  refine rel_bind (rel_find? (hR.children hb (by simp)) fun m m' hm => ?_) fun m m' hm => ?_
  · rw [hR.kind_eq hm, hR.name_eq hm]
  · exact rel_bind (hR.child? hm (by simp)) fun _ _ hv => hR.functionRender? hv

theorem isWrapperCall_eq (hR : Correspondence R) (policy : Policy) (h : R q q') :
    policy.isWrapperCall q'.node = policy.isWrapperCall q.node := by
  have hl := (hR.children (e := .arguments) h (by simp)).length_eq
  simp only [Place.children, List.length_mapIdx] at hl
  unfold Policy.isWrapperCall
  rw [hR.kind_eq h, hl]
  obtain ⟨hc, hc'⟩ | ⟨c, c', hc, hc', hcallee⟩ := rel_cases (hR.child? (e := .callee) h (by simp))
  · simp only [Place.child?, Option.map_eq_none_iff] at hc hc'
    simp [hc, hc']
  · simp [(Place.child?_eq_some.mp hc).right, (Place.child?_eq_some.mp hc').right, hR.kind_eq hcallee,
      hR.name_eq hcallee, hR.identifier?_eq (e := .property) hcallee (by simp)]

theorem wrappedFunction? (hR : Correspondence R) (policy : Policy) (h : R q q') :
    Option.Rel R (policy.wrappedFunction? q) (policy.wrappedFunction? q') := by
  unfold Policy.wrappedFunction?
  rw [hR.isWrapperCall_eq policy h]
  split
  case isFalse => exact .none
  case isTrue =>
    match q.children .arguments, q'.children .arguments, hR.children (e := .arguments) h (by simp) with
    | _, _, .nil | _, _, .cons _ (.cons _ _) => exact .none
    | _, _, .cons ha .nil =>
      dsimp only
      rw [hR.kind_eq ha]
      split
      case h_1 | h_2 => exact .some ha
      case h_3 => exact .none

theorem renderingValue? (hR : Correspondence R) (policy : Policy) (h : R q q') :
    Option.Rel (RenderingValue.Corresponds R) (renderingValue? policy q) (renderingValue? policy q') := by
  unfold MarkerLint.renderingValue?
  rw [hR.kind_eq h]
  split
  case h_1 | h_2 =>
    exact rel_bind (hR.functionRender? h) fun _ _ hr => .some ⟨rfl, hr, hR.identifier?_eq h (by simp)⟩
  case h_3 => exact rel_bind (hR.classRender? h) fun _ _ hr => .some ⟨rfl, hr, hR.identifier?_eq h (by simp)⟩
  case h_4 =>
    refine rel_bind (hR.wrappedFunction? policy h) fun _ _ hw => ?_
    exact rel_bind (hR.functionRender? hw) fun _ _ hr => .some ⟨rfl, hr, hR.identifier?_eq hw (by simp)⟩
  case h_5 => exact .none

end Correspondence
end MarkerLint
