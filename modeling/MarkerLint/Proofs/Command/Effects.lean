import Mathlib.Algebra.GroupWithZero.Nat
import MarkerLint.Proofs.Command.Independence
import MarkerLint.Proofs.Rule.Counting

namespace MarkerLint.Command

open Files Outline

section

variable {linter : Linter} {fix : Bool} {disk : Disk} {paths : List FilePath} {p q : FilePath}

theorem Totals.of_eq (reports : List FileReport) :
    Totals.of reports =
      { errors := (reports.map (·.result.errorCount)).sum
        warnings := (reports.map (·.result.warningCount)).sum
        fixed := (reports.map (·.fixed)).sum
        fixedFiles := reports.countP (·.fixed > 0) } := by
  simp only [Totals.of, List.sum_eq_foldl, List.foldl_map]

theorem totals_errors {reports : List FileReport} (h : ∀ r ∈ reports, r.result.Counted) :
    (Totals.of reports).errors = (reports.map fun r => countSeverity .error r.result.diagnostics).sum := by
  rw [Totals.of_eq, List.map_congr_left fun r hr => (h r hr).errors]

theorem totals_warnings {reports : List FileReport} (h : ∀ r ∈ reports, r.result.Counted) :
    (Totals.of reports).warnings = (reports.map fun r => countSeverity .warning r.result.diagnostics).sum := by
  rw [Totals.of_eq, List.map_congr_left fun r hr => (h r hr).warnings]

theorem counted_of_mem_reports {policy : Policy} (h : paths.Pairwise disk.Apart) :
    ∀ r ∈ (lintAll (.ofPolicy policy) fix disk paths).1, r.result.Counted := by
  intro r hr
  rw [lintAll_eq h] at hr
  obtain ⟨p, _, hr⟩ := List.mem_filterMap.mp hr
  rw [result_of_fileReport? hr]
  exact Linter.ofPolicy_counted policy r.source p.text

end

section

variable (arguments : LintArguments) (linter : Linter) (disk : Disk) (paths : List FilePath)

end

section

variable {engine : Pattern.Engine} {arguments : LintArguments} {linter : Linter} {disk : Disk}

end

namespace Sample

def card : List Char := "export const Card = () => <a/>;".toList

-- A component without its marker, a file that is no text, and one that is never linted.
def folder : Disk where
  tree := .directory [
    .mk "Card.jsx" (.file (.text card)),
    .mk "Logo.jsx" (.file (.binary [255])),
    .mk "notes.txt" (.file (.text card))]

def patterns : List String := ["Card.jsx", "Logo.jsx"]

end Sample

end MarkerLint.Command
