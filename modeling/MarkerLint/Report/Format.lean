import MarkerLint.Report.Json
import MarkerLint.Report.Text

namespace MarkerLint

inductive ReportFormat where
  | text
  | json
  deriving DecidableEq, Inhabited, Repr

def ReportFormat.render (format : ReportFormat) (results : List LintResult)
    (sources : List (String × List Char)) : String :=
  match format with
  | .text => Report.text results sources
  | .json => Report.json results sources

end MarkerLint
