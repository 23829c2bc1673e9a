import MarkerLint.Proofs.Marking.Extraction
import MarkerLint.Proofs.Marking.Listing

namespace MarkerLint

open Outline

-- The paths of the elements that are reported.
def reportedTargets (policy : Policy) (schema : Schema) (program : Node) : List NodePath :=
  (reported policy schema program).map (·.target.path)

section

variable {policy : Policy} {schema : Schema} {program program' : Node} {c c' : Candidate} {v : Violation} {t : Trail}

-- What is met in the markup of a component is a place of the program.
theorem trail_in (hc : c ∈ candidates policy program) (h : Trail.Leads schema c.render.node t) :
    Place.In ⟨t.path ++ c.render.path, t.node⟩ program :=
  Place.within_root.mp (.trans ⟨t.path, rfl, h.at?_path⟩ (candidates_declaredIn hc).render_within)

-- A target is an element of the program.
theorem target_of_reported (h : v ∈ reported policy schema program) :
    v.target.In program ∧ v.target.node.kind = .jsxElement := by
  have ⟨c, hc, hv⟩ := List.mem_filterMap.mp h
  obtain ⟨_, place, _, ht, rfl⟩ := audit_eq_violation.mp (publicViolation?_eq_some.mp hv).left
  obtain ⟨t, hm, hl, rfl⟩ := exists_of_target ht
  exact ⟨trail_in hc (leads_of_mem_listing hm), hl.element⟩

-- The markup of a component, and the same markup after the targets were marked.
theorem markedRender_of_matched (hc : c ∈ candidates policy program)
    (h : c.Matched policy.marker (reportedTargets policy schema program) c')
    (hopen : ∀ v ∈ reported policy schema program, HasAttributeList v.target.node) :
    MarkedRender policy schema (reportedTargets policy schema program) c.render c'.render where
  marking := h.render.marking
  opening := by
    -- Markup is handed back along other edges than the one to an opening tag.
    have ⟨p, e, he, _, hr⟩ := (candidates_declaredIn hc).renders.handed
    rintro ⟨t, _, ht⟩
    rw [(Place.child?_eq_some.mp hr).left] at ht
    obtain ⟨rfl, _⟩ : e = .openingElement ∧ _ := by simpa using ht
    simp at he
  elements := by
    intro t hl ht
    have ⟨v, hv, hp⟩ := List.mem_map.mp ht
    have ⟨hi, hk⟩ := target_of_reported hv
    have hn : v.target.node = t.node := by
      rw [Place.In, hp] at hi
      exact Option.some.inj (hi.symm.trans (trail_in hc hl))
    exact hn ▸ ⟨hk, hopen v hv⟩

-- Nothing is left to report where all that was reported is marked.
theorem reported_eq_nil (hopen : ∀ v ∈ reported policy schema program, HasAttributeList v.target.node)
    (m : Marking policy.marker (reportedTargets policy schema program) [] program program') :
    reported policy schema program' = [] := by
  refine List.filterMap_eq_nil_iff.mpr fun c' hc' => ?_
  have ⟨c, hc, h⟩ := exists_of_mem (forall₂_candidates m) hc'
  by_contra hv
  have ⟨v, hv⟩ := Option.ne_none_iff_exists'.mp hv
  have ⟨ha, name, hn, hr⟩ := publicViolation?_eq_some.mp hv
  have ⟨_, place, _, ht, _⟩ := audit_eq_violation.mp ha
  have hnone : (findings policy schema c'.render).target = none := by
    refine (markedRender_of_matched hc h hopen).target_eq_none fun place hp => ?_
    -- What the audit found before was reported, since the name was reachable before as well.
    have hn : c.name = some name := h.name ▸ hn
    have ha : audit policy schema c = .violation (.of policy name place) :=
      audit_eq_violation.mpr ⟨name, place, hn, hp, rfl⟩
    have hv := publicViolation?_eq_some.mpr ⟨ha, name, hn, (reachable_iff m name).mp hr⟩
    exact List.mem_map.mpr ⟨_, List.mem_filterMap.mpr ⟨c, hc, hv⟩, rfl⟩
  rw [hnone] at ht
  contradiction

-- The attribute can be put into any program whose targets have a place for it.
theorem marking_reported (extra : Node) (hk : extra.kind = .jsxAttribute) (hn : extra.name = some policy.marker)
    (hopen : ∀ v ∈ reported policy schema program, HasAttributeList v.target.node) :
    Marking policy.marker (reportedTargets policy schema program) [] program
      (markNode extra (reportedTargets policy schema program) [] program) := by
  refine marking_markNode hk hn (fun t ht x hx => ?_) rfl
  obtain ⟨v, hv, rfl⟩ := List.mem_map.mp ht
  have := hopen v hv
  rwa [Option.some.inj ((target_of_reported hv).left.symm.trans hx)] at this

end

-- A program is run, and every element that is reported gets the marker. Then another run reports nothing.
theorem run_marked_reports_nothing {policy : Policy} {collector again : Collector} {program program' : Node}
    (hschema : again.schema = collector.schema)
    (hopen : ∀ v ∈ reported policy collector.schema program, HasAttributeList v.target.node)
    (hmarking : Marking policy.marker (reportedTargets policy collector.schema program) [] program program') :
    (MarkerRule.run policy collector program).diagnostics =
        collector.diagnostics ++
          (reported policy collector.schema program).map (MarkerRule.diagnose policy collector) ∧
      (MarkerRule.run policy again program').diagnostics = again.diagnostics := by
  refine ⟨MarkerRule.run_diagnostics policy collector program, ?_⟩
  rw [MarkerRule.run_diagnostics, hschema, reported_eq_nil hopen hmarking]
  simp

namespace Sample

-- `export function Badge() { return … }`
def badgeModule : Node :=
  .branch .program {} [.many .body [.branch .exportNamedDeclaration {} [.one .declaration
    (.branch .functionDeclaration {} [.one .id (.named .identifier {} "Badge"),
      .one .body (.branch .functionBody {} [.many .body [
        .branch .returnStatement {} [.one .argument badge]]])])]]]

end Sample

theorem run_marked_reports_nothing_badge :
    let collector : Collector := { source := [], file := "Badge.tsx" }
    let extra := Node.named .jsxAttribute {} "data-component"
    let marked := markNode extra (reportedTargets Sample.policy default Sample.badgeModule) [] Sample.badgeModule
    (MarkerRule.run Sample.policy collector Sample.badgeModule).diagnostics.length = 1 ∧
      (MarkerRule.run Sample.policy collector marked).diagnostics = [] := by
  intro collector extra marked
  have hopen : ∀ v ∈ reported Sample.policy default Sample.badgeModule, HasAttributeList v.target.node := by
    decide +kernel
  have hmarking := marking_reported extra rfl rfl hopen
  exact ⟨by decide +kernel,
    (@run_marked_reports_nothing Sample.policy collector collector _ marked rfl hopen hmarking).right⟩

end MarkerLint
