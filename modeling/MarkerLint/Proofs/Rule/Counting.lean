import MarkerLint.Lint.Linter

namespace MarkerLint

structure Collector.Counted (c : Collector) : Prop where
  errors : c.errorCount = countSeverity .error c.diagnostics
  warnings : c.warningCount = countSeverity .warning c.diagnostics

structure LintResult.Counted (r : LintResult) : Prop where
  errors : r.errorCount = countSeverity .error r.diagnostics
  warnings : r.warningCount = countSeverity .warning r.diagnostics

-- The rule reports in no other way than one by one.
def Rule.KeepsCounts (rule : Rule) : Prop :=
  ∀ c program, c.Counted → (rule.run c program).Counted

theorem countSeverity_append (s : Severity) (as bs : List Diagnostic) :
    countSeverity s (as ++ bs) = countSeverity s as + countSeverity s bs :=
  List.countP_append

namespace Collector.Counted

variable {c : Collector}

theorem report (h : c.Counted) (d : Diagnostic) : (c.report d).Counted where
  errors := by
    simp only [Collector.report, countSeverity_append, h.errors]
    cases hd : d.severity <;> simp [countSeverity, hd]
  warnings := by
    simp only [Collector.report, countSeverity_append, h.warnings]
    cases hd : d.severity <;> simp [countSeverity, hd]

theorem record (h : c.Counted) (e : Event) : (c.record e).Counted :=
  ⟨h.errors, h.warnings⟩

theorem resolve (h : c.Counted) (policy : Policy) (r : Reachability) (v : Violation) :
    (MarkerRule.resolve policy r c v).Counted := by
  unfold MarkerRule.resolve
  split
  case isTrue => exact h.report _
  case isFalse => exact h.record _

end Collector.Counted

theorem markerRule_keepsCounts (policy : Policy) : (markerRule policy).KeepsCounts := by
  intro c program h
  have hevents := List.foldlRecOn (MarkerRule.scan policy c.schema program).events Collector.record h
    fun c hc e _ => hc.record e
  exact List.foldlRecOn _ _ hevents fun c hc v _ => hc.resolve policy _ v

namespace Linter

variable {linter : Linter}

theorem runRule_counted {c : Collector} {rule : Rule} (hr : rule.KeepsCounts) (hc : c.Counted)
    (program : Outline.Node) : (linter.runRule program c rule).Counted := by
  unfold runRule
  split
  case isTrue => exact hr _ program ⟨hc.errors, hc.warnings⟩
  case isFalse => exact hc

theorem runRules_counted (hrules : ∀ rule ∈ linter.rules, rule.KeepsCounts) {c : Collector} (hc : c.Counted)
    (program : Outline.Node) : (linter.runRules program c).Counted :=
  List.foldlRecOn linter.rules _ hc fun _ hc rule hr => runRule_counted (hrules rule hr) hc program

theorem countSeverity_inSourceOrder (s : Severity) (diagnostics : List Diagnostic) :
    countSeverity s (inSourceOrder diagnostics) = countSeverity s diagnostics :=
  (List.mergeSort_perm diagnostics _).countP_eq _

theorem lint_counted (hrules : ∀ rule ∈ linter.rules, rule.KeepsCounts) (source : List Char) (file : String) :
    (linter.lint source file).result.Counted := by
  unfold lint
  split
  case h_1 => exact ⟨rfl, rfl⟩
  case h_2 parsed _ =>
    have hc := runRules_counted hrules (c := { source, file, schema := linter.schema }) ⟨rfl, rfl⟩ parsed.program.outline
    exact {
      errors := hc.errors.trans (countSeverity_inSourceOrder ..).symm
      warnings := hc.warnings.trans (countSeverity_inSourceOrder ..).symm }

theorem ofPolicy_counted (policy : Policy) (source : List Char) (file : String) :
    ((ofPolicy policy).lint source file).result.Counted := by
  refine lint_counted (fun rule hr => ?_) source file
  obtain rfl := List.mem_singleton.mp hr
  exact markerRule_keepsCounts policy

end Linter
end MarkerLint
