import MarkerLint.Proofs.Audit.Verdict
import MarkerLint.Proofs.Rule.Reporting

namespace MarkerLint

open Outline

-- On the top level, and asked for the marker: the element has it or lacks it.
def Settles (policy : Policy) (t : Trail) : Prop :=
  LacksMarker policy t ∨ OwnMarked policy t

instance (policy : Policy) (t : Trail) : Decidable (Settles policy t) :=
  inferInstanceAs (Decidable (_ ∨ _))

-- What follows for a component from the listing of its markup, which stands at `base`.
def verdict (policy : Policy) (component : String) (base : NodePath) (listed : List Trail) : Outcome :=
  match listed.find? (Settles policy ·) with
  | some t =>
    if LacksMarker policy t then .violation (.of policy component ⟨t.path ++ base, t.node⟩) else .compliant
  | none => if ∃ u ∈ listed, LookedThrough policy u then .excluded else .compliant

section

variable {policy : Policy} {component : String} {base : NodePath} {listed before rest : List Trail} {t : Trail}

-- Where nothing lacks the marker, only marked elements on the top level can settle the audit.
theorem isSome_find?_settles (h : ∀ t ∈ listed, ¬LacksMarker policy t) :
    (listed.find? (Settles policy ·)).isSome ↔ ∃ u ∈ listed, OwnMarked policy u := by
  rw [List.find?_isSome]
  refine exists_congr fun u => and_congr_right fun hu => ?_
  rw [decide_eq_true_eq]
  exact or_iff_right (h u hu)

theorem verdict_of_forall (h : ∀ t ∈ listed, ¬LacksMarker policy t) :
    verdict policy component base listed =
      if (∃ u ∈ listed, LookedThrough policy u) ∧ ¬∃ u ∈ listed, OwnMarked policy u then .excluded
      else .compliant := by
  have hs := isSome_find?_settles h
  unfold verdict
  cases hf : listed.find? (Settles policy ·)
  case none =>
    rw [hf] at hs
    simp [← hs]
  case some t =>
    rw [hf] at hs
    simp [h t (List.mem_of_find?_eq_some hf), ← hs]

-- The first that lacks the marker is a violation unless a marked element on the top level precedes it.
theorem verdict_of_first (hb : ∀ u ∈ before, ¬LacksMarker policy u) (ht : LacksMarker policy t) :
    verdict policy component base (before ++ t :: rest) =
      if ∃ u ∈ before, OwnMarked policy u then .compliant
      else .violation (.of policy component ⟨t.path ++ base, t.node⟩) := by
  have hs := isSome_find?_settles hb
  unfold verdict
  rw [List.find?_append]
  cases hf : before.find? (Settles policy ·)
  case none =>
    rw [hf] at hs
    have hst : Settles policy t := .inl ht
    simp [hst, ht, ← hs]
  case some u =>
    rw [hf] at hs
    simp [hb u (List.mem_of_find?_eq_some hf), ← hs]

theorem violation?_verdict :
    (verdict policy component base listed).violation? =
      (listed.find? (Settles policy ·)).bind fun t =>
        if LacksMarker policy t then some (.of policy component ⟨t.path ++ base, t.node⟩) else none := by
  unfold verdict
  cases listed.find? (Settles policy ·)
  case none =>
    simp only [Option.bind_none]
    split <;> rfl
  case some t => by_cases ht : LacksMarker policy t <;> simp [ht, Outcome.violation?]

theorem verdict_eq_violation {v : Violation} :
    verdict policy component base listed = .violation v ↔
      ∃ t, listed.find? (Settles policy ·) = some t ∧ LacksMarker policy t ∧
        v = .of policy component ⟨t.path ++ base, t.node⟩ := by
  rw [← violation?_eq_some, violation?_verdict, Option.bind_eq_some_iff]
  simp only [Option.ite_none_right_eq_some, Option.some.injEq, @eq_comm _ v]

end

-- The search of the audit comes to the verdict on the listing.
theorem audit_eq_verdict {candidate : Candidate} {component : String} (policy : Policy) (schema : Schema)
    (hname : candidate.name = some component) :
    audit policy schema candidate =
      verdict policy component candidate.render.path (renderListing policy schema candidate.render.node) := by
  simp only [audit, hname]
  cases findings_cases policy schema candidate.render
  case inl h =>
    obtain ⟨hl, hj⟩ := h
    simp only [verdict_of_forall hl, hj.target, ← hj.excluded, ← hj.satisfied]
    simp
  case inr h =>
    obtain ⟨before, t, rest, hL, hb, ht, he⟩ := h
    simp only [hL, verdict_of_first hb ht, he.target, ← he.satisfied]
    cases (findings policy schema candidate.render).satisfied <;> simp

-- The component with other markup in the place of what it renders.
def Candidate.rendering (c : Candidate) (markup : Node) : Candidate :=
  { c with render := { c.render with node := markup } }

theorem audit_of_anonymous {candidate : Candidate} (policy : Policy) (schema : Schema) (h : candidate.name = none) :
    audit policy schema candidate = .compliant := by
  simp [audit, h]

end MarkerLint
