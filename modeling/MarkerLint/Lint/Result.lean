import MarkerLint.Diagnostic

namespace MarkerLint

-- The diagnostics of a file, with the counts that were kept while they were collected.
structure LintResult where
  file : String
  diagnostics : List Diagnostic := []
  errorCount : Nat := 0
  warningCount : Nat := 0
  deriving DecidableEq, Inhabited, Repr

namespace LintResult

def hasErrors (r : LintResult) : Bool :=
  r.errorCount > 0

def hasDiagnostics (r : LintResult) : Bool :=
  !r.diagnostics.isEmpty

def fixableCount (r : LintResult) : Nat :=
  countFixable r.diagnostics

def applyFixes (r : LintResult) (source : List Char) : List Char :=
  MarkerLint.applyFixes r.diagnostics source

end LintResult

structure LintSummary where
  errorCount : Nat := 0
  warningCount : Nat := 0
  fileCount : Nat := 0
  fixableCount : Nat := 0
  deriving DecidableEq, Inhabited, Repr

namespace LintSummary

def add (s : LintSummary) (d : Diagnostic) : LintSummary :=
  { s with
    errorCount := if d.severity = .error then s.errorCount + 1 else s.errorCount
    warningCount := if d.severity = .warning then s.warningCount + 1 else s.warningCount
    fixableCount := if d.fix.isSome then s.fixableCount + 1 else s.fixableCount }

def hasErrors (s : LintSummary) : Bool :=
  s.errorCount > 0

def ofResults (results : List LintResult) : LintSummary :=
  let totals := results.foldl (fun s r => r.diagnostics.foldl add s) {}
  { totals with fileCount := results.length }

end LintSummary

-- The source of a file. Of several under one name the last counts; a file without source is empty.
def sourceOf (sources : List (String × List Char)) (file : String) : List Char :=
  ((sources.reverse.find? (·.1 == file)).map Prod.snd).getD []

end MarkerLint
