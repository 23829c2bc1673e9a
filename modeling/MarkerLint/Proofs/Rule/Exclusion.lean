import MarkerLint.Proofs.Audit.Decision
import MarkerLint.Proofs.Rule.Fixing

-- Excluding more elements. An element that is excluded is looked through, so the audit may go further than before
-- and come to other elements. Still no component is reported that was not reported before: what a search passes
-- over now was in its way then.

namespace MarkerLint

open Outline

-- The second policy excludes all that the first one does, and maybe more.
structure Policy.ExtendedBy (first second : Policy) : Prop where
  marker : second.marker = first.marker
  wrappers : second.wrappers = first.wrappers
  excluded : ∀ name, first.isExcluded name → second.isExcluded name

-- Of a policy, only the wrappers tell which components there are and what statements export.
theorem ofStatement_congr {first second : Policy} (h : second.wrappers = first.wrappers) (statement : Place) :
    TopLevel.ofStatement second statement = TopLevel.ofStatement first statement := by
  obtain ⟨_, _, _⟩ := first
  obtain ⟨_, _, _⟩ := second
  obtain rfl := h
  rfl

theorem candidates_congr {first second : Policy} (h : second.wrappers = first.wrappers) (program : Node) :
    candidates second program = candidates first program :=
  List.flatMap_congr fun s _ => by rw [ofStatement_congr h s]

theorem reachable_congr {first second : Policy} (h : second.wrappers = first.wrappers) (program : Node)
    (name : String) : Reachable second program name ↔ Reachable first program name := by
  simp only [Reachable, candidates_congr h, ofStatement_congr h]

namespace Policy.ExtendedBy

variable {first second : Policy} {schema : Schema} {program : Node} {t : Trail} {listed : List Trail}

theorem lacksMarker (h : first.ExtendedBy second) (ht : LacksMarker second t) : LacksMarker first t where
  element := ht.element
  fragment := ht.fragment
  marker := h.marker ▸ ht.marker
  excluded := by
    cases hn : t.node.name
    case none => rfl
    case some name =>
      have hs : second.isExcluded name = false := by simpa [hn] using ht.excluded
      cases hf : first.isExcluded name
      case false => exact hf
      case true => simp [h.excluded name hf] at hs
  own := ht.own

theorem isMarked_eq (h : first.ExtendedBy second) (n : Node) : isMarked second n = isMarked first n := by
  rw [isMarked, isMarked, h.marker]

theorem ownMarked_iff (h : first.ExtendedBy second) : OwnMarked second t ↔ OwnMarked first t where
  mp ht := ⟨h.isMarked_eq t.node ▸ ht.marked, ht.own⟩
  mpr ht := ⟨h.isMarked_eq t.node ▸ ht.marked, ht.own⟩

-- Nothing more is closed, so both policies look at the same listing.
theorem renderListing_eq (h : first.ExtendedBy second) (render : Node) :
    renderListing second schema render = renderListing first schema render := by
  have hc : closes second = closes first := by
    funext n
    rw [closes, closes, h.isMarked_eq]
  rw [renderListing, renderListing, hc]

-- If what settles the audit lacks the marker under the second policy, then so does what settles it under
-- the first: the same element, or one before it that is excluded by the second policy only.
theorem lacksMarker_first (h : first.ExtendedBy second) (hf : listed.find? (Settles second ·) = some t)
    (ht : LacksMarker second t) : ∃ u, listed.find? (Settles first ·) = some u ∧ LacksMarker first u := by
  induction listed
  case nil => contradiction
  case cons a listed hi =>
    by_cases hs : Settles second a
    case pos =>
      obtain rfl : a = t := by simpa [hs] using hf
      have hl := h.lacksMarker ht
      have hs : Settles first a := .inl hl
      exact ⟨a, by simp [hs], hl⟩
    case neg =>
      replace hf : listed.find? (Settles second ·) = some t := by simpa [hs] using hf
      by_cases hs' : Settles first a
      case pos =>
        have hl : LacksMarker first a := hs'.resolve_right fun ho => hs (.inr (h.ownMarked_iff.mpr ho))
        exact ⟨a, by simp [hs'], hl⟩
      case neg =>
        have ⟨u, hu, hl⟩ := hi hf
        exact ⟨u, by simpa [hs'] using hu, hl⟩

theorem audit_violation (h : first.ExtendedBy second) {c : Candidate} {v : Violation}
    (hv : audit second schema c = .violation v) :
    ∃ w, audit first schema c = .violation w ∧ w.component = v.component := by
  have hn := name_of_audit hv
  rw [audit_eq_verdict second schema hn, verdict_eq_violation, h.renderListing_eq] at hv
  have ⟨t, hf, ht, _⟩ := hv
  have ⟨u, hu, hl⟩ := h.lacksMarker_first hf ht
  refine ⟨.of first v.component ⟨u.path ++ c.render.path, u.node⟩, ?_, rfl⟩
  rw [audit_eq_verdict first schema hn]
  exact verdict_eq_violation.mpr ⟨u, hu, hl, rfl⟩

theorem publicViolation? (h : first.ExtendedBy second) {c : Candidate} {v : Violation}
    (hv : publicViolation? second schema program c = some v) :
    ∃ w, publicViolation? first schema program c = some w ∧ w.component = v.component := by
  have ⟨ha, name, hn, hr⟩ := publicViolation?_eq_some.mp hv
  have ⟨w, hw, hc⟩ := h.audit_violation ha
  have hr := (reachable_congr h.wrappers program name).mp hr
  exact ⟨w, publicViolation?_eq_some.mpr ⟨hw, name, hn, hr⟩, hc⟩

end Policy.ExtendedBy

-- What a run reports of one component.
def componentReport? (policy : Policy) (collector : Collector) (program : Node) (c : Candidate) : Option Diagnostic :=
  (publicViolation? policy collector.schema program c).map (MarkerRule.diagnose policy collector)

theorem run_diagnostics_eq_filterMap (policy : Policy) (collector : Collector) (program : Node) :
    (MarkerRule.run policy collector program).diagnostics =
      collector.diagnostics ++ (candidates policy program).filterMap (componentReport? policy collector program) := by
  rw [MarkerRule.run_diagnostics, reported, List.map_filterMap]
  rfl

-- A program has the same components under a policy that excludes more elements. Each of them that is
-- reported under it is reported, by the same message, under the policy that excludes fewer.
theorem run_excluding_more_reports_no_more {first second : Policy} (collector : Collector) (program : Node)
    (h : first.ExtendedBy second) :
    candidates second program = candidates first program ∧
      (∀ policy, (MarkerRule.run policy collector program).diagnostics =
        collector.diagnostics ++ (candidates policy program).filterMap (componentReport? policy collector program)) ∧
      ∀ c ∈ candidates second program, ∀ d, componentReport? second collector program c = some d →
        ∃ d', componentReport? first collector program c = some d' ∧ d'.message = d.message := by
  refine ⟨candidates_congr h.wrappers program, fun policy => run_diagnostics_eq_filterMap policy collector program,
    fun c _ d hd => ?_⟩
  have ⟨v, hv, hd⟩ := Option.map_eq_some_iff.mp hd
  have ⟨w, hw, hc⟩ := h.publicViolation? hv
  refine ⟨MarkerRule.diagnose first collector w, by simp [componentReport?, hw], ?_⟩
  simp [← hd, MarkerRule.diagnose, Collector.diagnostic, hc, h.marker]

namespace Sample

-- One component has an element in a provider, and the other one has a provider only.
def providers : Node :=
  .branch .program {} [.many .body [
    component "Panel" (element "Provider" [] [element "Icon" [] []]), component "Page" (element "Provider" [] [])]]

end Sample

theorem run_excluding_more_reports_no_more_provider :
    let strict : Policy := { Sample.policy with isExcluded _ := false }
    let collector : Collector := { source := [], file := "Panel.tsx" }
    let cs := candidates Sample.policy Sample.providers
    cs.map (fun c => (componentReport? Sample.policy collector Sample.providers c).isSome) = [true, false] ∧
      cs.map (fun c => (componentReport? strict collector Sample.providers c).isSome) = [true, true] ∧
      ∀ c ∈ cs, ∀ d, componentReport? Sample.policy collector Sample.providers c = some d →
        ∃ d', componentReport? strict collector Sample.providers c = some d' ∧ d'.message = d.message := by
  intro strict collector cs
  have h : strict.ExtendedBy Sample.policy := ⟨rfl, rfl, by simp [strict]⟩
  exact ⟨by decide +kernel, by decide +kernel,
    (run_excluding_more_reports_no_more collector Sample.providers h).right.right⟩

end MarkerLint
