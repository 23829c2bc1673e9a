import MarkerLint.Lint.Linter
import MarkerLint.Proofs.Rule.Reporting
import MarkerLint.Proofs.Text.Splicing

namespace MarkerLint

open Outline

-- What fixes a violation.
def Violation.insertion (v : Violation) : Edit :=
  .insertion v.insertionPoint v.fixText

theorem Violation.isInsertion_insertion (v : Violation) : v.insertion.isInsertion :=
  Edit.isInsertion_iff.mpr rfl

theorem fixEdits_diagnose (policy : Policy) (collector : Collector) (vs : List Violation) :
    fixEdits (vs.map (MarkerRule.diagnose policy collector)) = vs.map Violation.insertion := by
  rw [fixEdits, List.flatMap_map, ← List.flatMap_pure_eq_map]
  rfl

section

variable {policy : Policy} {collector : Collector} {program : Node} {diagnostics : List Diagnostic}

-- The edits of the diagnostics that a run adds, in any order.
theorem fixEdits_perm
    (h : (collector.diagnostics ++ diagnostics).Perm (MarkerRule.run policy collector program).diagnostics) :
    (fixEdits diagnostics).Perm ((reported policy collector.schema program).map Violation.insertion) := by
  rw [MarkerRule.run_diagnostics, List.perm_append_left_iff] at h
  have hp : (fixEdits diagnostics).Perm (fixEdits _) := h.flatMap_right _
  rwa [fixEdits_diagnose] at hp

end

-- The edits that a run proposes are all made: the source is cut at the insertion points in ascending
-- order, and the texts go in between. Taking them out again gives the source back.
theorem applyFixes_only_inserts {policy : Policy} {collector : Collector} {program : Node} {result : LintResult}
    (hresult : (collector.diagnostics ++ result.diagnostics).Perm
      (MarkerRule.run policy collector program).diagnostics)
    (hboundary : ∀ v ∈ reported policy collector.schema program,
      Text.IsBoundary collector.source v.insertionPoint) :
    ∃ edits : List Edit,
      edits.Perm ((reported policy collector.schema program).map fun v => .insertion v.insertionPoint v.fixText) ∧
      edits.Pairwise (fun a b => a.span.start ≤ b.span.start) ∧
      (∀ offset, edits.filter (·.span.start = offset) =
        (fixEdits result.diagnostics).filter (·.span.start = offset)) ∧
      Edit.spliceAll 0 edits collector.source = some (result.applyFixes collector.source) ∧
      Edit.removeInserted 0 edits (result.applyFixes collector.source) = some collector.source := by
  have hperm := fixEdits_perm hresult
  have hi : ∀ e ∈ fixEdits result.diagnostics, e.isInsertion ∧ Text.IsBoundary collector.source e.span.start := by
    intro e he
    obtain ⟨v, hv, rfl⟩ := List.mem_map.mp (hperm.mem_iff.mp he)
    exact ⟨v.isInsertion_insertion, hboundary v hv⟩
  have hsort := List.mergeSort_perm (fixEdits result.diagnostics) Edit.le
  have hsplice := Edit.applyAll_insertions hi
  refine ⟨(fixEdits result.diagnostics).mergeSort Edit.le, hsort.trans hperm, ?_, fun offset => ?_, hsplice, ?_⟩
  · refine (List.pairwise_mergeSort Edit.le_trans Edit.le_total _).imp fun h => ?_
    have := Edit.le_iff.mp h
    omega
  · refine Edit.filter_mergeSort fun a ha b hb => Edit.le_iff.mpr (.inr ?_)
    have ⟨ha, hao⟩ := List.mem_filter.mp ha
    have ⟨hb, hbo⟩ := List.mem_filter.mp hb
    have ha := Edit.isInsertion_iff.mp (hi a ha).left
    have hb := Edit.isInsertion_iff.mp (hi b hb).left
    simp only [decide_eq_true_eq] at hao hbo
    omega
  · refine Edit.removeInserted_spliceAll (fun e he => ?_) hsplice
    exact (hi e (hsort.mem_iff.mp he)).left

namespace Sample

-- `<a/>` from an offset on.
def tag (name : String) (start : Nat) : Node :=
  .mk .jsxElement ⟨start, start + 4⟩ (some name)
    [.one .openingElement (.branch .jsxOpeningElement ⟨start, start + 4⟩
      [.one .name (.named .jsxElementName ⟨start + 1, start + 2⟩ name), .many .attributes []])]

-- A function that is exported and returns markup.
def component (name : String) (markup : Node) : Node :=
  .branch .exportNamedDeclaration {} [.one .declaration
    (.branch .functionDeclaration {} [.one .id (.named .identifier {} name), .one .body markup])]

-- Two components, and the one that comes first has the later element.
def swapped : Node :=
  .branch .program {} [.many .body [component "B" (tag "b" 4), component "A" (tag "a" 0)]]

end Sample

theorem applyFixes_only_inserts_swapped :
    let policy : Policy := { isExcluded _ := false, marker := "id", wrappers := [] }
    let source := "<a/><b/>".toList
    let result := ((Linter.ofPolicy policy).lintProgram source "Pair.jsx" false Sample.swapped).result
    (reported policy default Sample.swapped).map (·.insertionPoint) = [6, 2] ∧
      ∃ edits, edits.length = 2 ∧ Edit.spliceAll 0 edits source = some (result.applyFixes source) ∧
        Edit.removeInserted 0 edits (result.applyFixes source) = some source := by
  intro policy source result
  let collector : Collector :=
    { source, file := "Pair.jsx", rule := MarkerRule.info.name, severity := MarkerRule.info.severity }
  have hresult : (collector.diagnostics ++ result.diagnostics).Perm
      (MarkerRule.run policy collector Sample.swapped).diagnostics := List.mergeSort_perm ..
  have hpoints : (reported policy default Sample.swapped).map (·.insertionPoint) = [6, 2] := by decide +kernel
  have hboundary : ∀ v ∈ reported policy collector.schema Sample.swapped,
      Text.IsBoundary collector.source v.insertionPoint := by decide +kernel
  have ⟨edits, hp, _, _, hs, hr⟩ := applyFixes_only_inserts hresult hboundary
  refine ⟨hpoints, edits, ?_, hs, hr⟩
  have hlen := congrArg List.length hpoints
  rw [List.length_map] at hlen
  rw [hp.length_eq, List.length_map]
  exact hlen

end MarkerLint
