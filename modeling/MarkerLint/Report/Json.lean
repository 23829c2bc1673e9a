import MarkerLint.Diagnostic
import MarkerLint.Json.Value
import MarkerLint.Lint.Result
import MarkerLint.Text.LineIndex

namespace MarkerLint.Report

def severityNumber : Severity → Nat
  | .error => 2
  | .warning => 1

-- The first edit of a fix; a fix without edits is not shown.
def fixMember (d : Diagnostic) : List (String × Json) :=
  match d.fix.bind (·.edits.head?) with
  | none => []
  | some e =>
    [("fix", .object [
      ("range", .array [.number e.span.start, .number e.span.stop]),
      ("text", .text e.newText)])]

def messageJson (index : LineIndex) (d : Diagnostic) : Json :=
  let start := index.lineCol d.span.start
  let stop := index.lineCol d.span.stop
  .object ([
    ("ruleId", .text d.rule),
    ("severity", .number (severityNumber d.severity)),
    ("message", .text d.message),
    ("line", .number start.line),
    ("column", .number start.column),
    ("endLine", .number stop.line),
    ("endColumn", .number stop.column)] ++ fixMember d)

def fileJson (sources : List (String × List Char)) (r : LintResult) : Json :=
  let index := LineIndex.ofText (sourceOf sources r.file)
  .object [
    ("file", .text r.file),
    ("messages", .array (r.diagnostics.map (messageJson index))),
    ("errorCount", .number r.errorCount),
    ("warningCount", .number r.warningCount)]

def json (results : List LintResult) (sources : List (String × List Char)) : String :=
  (Json.array (results.map (fileJson sources))).pretty

end MarkerLint.Report
