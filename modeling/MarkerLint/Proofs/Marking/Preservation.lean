import MarkerLint.Proofs.Audit.Decision
import MarkerLint.Proofs.Marking.Listing

namespace MarkerLint

open Outline

section

variable {policy : Policy} {schema : Schema} {candidate : Candidate} {markup : Node} {chosen : List Place}

theorem not_isOpening_of_within {r : Place} (h : ∀ p ∈ chosen, p.Within r) :
    ¬IsOpening (chosen.map Place.path) r.path := by
  rintro ⟨path, hm, he⟩
  have ⟨p, hp, hpath⟩ := List.mem_map.mp hm
  have ⟨way, hway, _⟩ := h p hp
  have hlen := congrArg List.length he
  rw [← hpath, hway, List.length_cons, List.length_append] at hlen
  omega

-- A trail that ends at the path of a place ends at its node.
theorem node_eq_of_within {r p : Place} {t : Trail} (h : p.Within r) (ht : Trail.Leads schema r.node t)
    (hpath : p.path = t.path ++ r.path) : t.node = p.node := by
  have ⟨way, hway, hat⟩ := h
  obtain rfl : way = t.path := List.append_cancel_right (hway.symm.trans hpath)
  exact Option.some.inj (ht.at?_path.symm.trans hat)

theorem markedRender_of_within
    (hchosen : ∀ p ∈ chosen, p.Within candidate.render ∧ p.node.kind = .jsxElement ∧ HasAttributeList p.node)
    (hmarking : Marking policy.marker (chosen.map Place.path) candidate.render.path candidate.render.node markup) :
    MarkedRender policy schema (chosen.map Place.path) candidate.render (candidate.rendering markup).render where
  marking := hmarking
  opening := not_isOpening_of_within fun p hp => (hchosen p hp).left
  elements := by
    intro t ht hm
    have ⟨p, hp, hpath⟩ := List.mem_map.mp hm
    have ⟨hw, hk, hl⟩ := hchosen p hp
    rw [node_eq_of_within hw ht hpath]
    exact ⟨hk, hl⟩

theorem violation?_eq_none_iff :
    (audit policy schema candidate).violation? = none ↔
      candidate.name = none ∨ (findings policy schema candidate.render).target = none := by
  rw [Option.eq_none_iff_forall_ne_some]
  simp only [ne_eq, violation?_eq_some, audit_eq_violation]
  cases candidate.name <;> cases (findings policy schema candidate.render).target <;> simp

end

-- Any elements of the markup of a component get the marker. If there was no violation before, there is none now.
theorem audit_marked_stays_clean {policy : Policy} {schema : Schema} {candidate : Candidate} {chosen : List Place}
    {markup : Node}
    (hchosen : ∀ p ∈ chosen, p.Within candidate.render ∧ p.node.kind = .jsxElement ∧ HasAttributeList p.node)
    (hmarking : Marking policy.marker (chosen.map Place.path) candidate.render.path candidate.render.node markup)
    (hclean : (audit policy schema candidate).violation? = none) :
    (audit policy schema (candidate.rendering markup)).violation? = none := by
  rw [violation?_eq_none_iff] at hclean ⊢
  refine hclean.imp id fun hnone => ?_
  have m : MarkedRender policy schema _ candidate.render (candidate.rendering markup).render :=
    markedRender_of_within hchosen hmarking
  refine m.target_eq_none fun place hplace => ?_
  rw [hnone] at hplace
  contradiction

namespace Sample

-- `<Fragment><Icon /></Fragment>`
def wrapped : Node :=
  element "Fragment" [] [element "Icon" [] []]

-- A fragment, a marked element and one without the marker, side by side in a provider.
def tray : Node :=
  element "Provider" [] [wrapped, element "Icon" [.named .jsxAttribute {} "data-component"] [], element "Label" [] []]

end Sample

-- The fragment becomes an element, and the provider hides all that was looked at before.
theorem audit_marked_stays_clean_tray :
    let candidate : Candidate := { Sample.candidate with render := .root Sample.tray }
    let chosen : List Place := [.root Sample.tray, ⟨[⟨.children, 0⟩], Sample.wrapped⟩]
    let extra := Node.named .jsxAttribute {} "data-component"
    let markup := markNode extra (chosen.map Place.path) [] Sample.tray
    (audit Sample.policy default candidate).violation? = none ∧
      (audit Sample.policy default (candidate.rendering markup)).violation? = none := by
  intro candidate chosen extra markup
  have hclean : (audit Sample.policy default candidate).violation? = none := by decide +kernel
  have hchosen : ∀ p ∈ chosen, p.Within candidate.render ∧ p.node.kind = .jsxElement ∧ HasAttributeList p.node := by
    refine List.forall_mem_cons.mpr ⟨⟨.refl _, rfl, by decide⟩, List.forall_mem_singleton.mpr ?_⟩
    exact ⟨⟨[⟨.children, 0⟩], rfl, rfl⟩, rfl, by decide⟩
  have hopen : ∀ t ∈ chosen.map Place.path, ∀ x, Sample.tray.at? t = some x → HasAttributeList x := by
    decide +kernel
  exact ⟨hclean, audit_marked_stays_clean hchosen (marking_markNode rfl rfl hopen rfl) hclean⟩

end MarkerLint
