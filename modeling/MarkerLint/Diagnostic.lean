import MarkerLint.Text.Edit
import MarkerLint.Outline.Schema

namespace MarkerLint

inductive Severity where
  | error
  | warning
  deriving DecidableEq, Inhabited, Repr

structure Fix where
  message : String
  edits : List Edit
  deriving DecidableEq, Inhabited, Repr

structure Diagnostic where
  rule : String
  severity : Severity
  message : String
  span : Span
  help : Option String := none
  fix : Option Fix := none
  deriving DecidableEq, Inhabited, Repr

def fixEdits (diagnostics : List Diagnostic) : List Edit :=
  diagnostics.flatMap fun d => (d.fix.map Fix.edits).getD []

def applyFixes (diagnostics : List Diagnostic) (source : List Char) : List Char :=
  Edit.applyAll (fixEdits diagnostics) source

def countSeverity (severity : Severity) (diagnostics : List Diagnostic) : Nat :=
  diagnostics.countP (·.severity = severity)

def countFixable (diagnostics : List Diagnostic) : Nat :=
  diagnostics.countP (·.fix.isSome)

inductive Event where
  | unreadable (file : String)
  | recovered (file : String)
  | onlyExcluded (component : Option String) (offset : Nat)
  | neverExported (file component : String)
  | linted (file : String) (diagnostics : Nat)
  deriving DecidableEq, Inhabited, Repr

namespace Event

-- Only a source that cannot be read is worth a warning.
def isWarning : Event → Bool
  | unreadable _ => true
  | _ => false

def message : Event → String
  | unreadable file => s!"failed to parse {file}"
  | recovered _ => "linting despite recoverable syntax errors"
  | onlyExcluded .. => "only excluded elements at the top level"
  | neverExported .. => "skipping component that is never exported"
  | linted .. => "linted"

def component? : Event → Option String
  | onlyExcluded name _ => some (name.getD "<anonymous>")
  | neverExported _ name => some name
  | _ => none

end Event

structure Collector where
  source : List Char
  file : String
  schema : Outline.Schema := default
  rule : String := ""
  severity : Severity := .error
  diagnostics : List Diagnostic := []
  errorCount : Nat := 0
  warningCount : Nat := 0
  events : List Event := []

namespace Collector

def report (c : Collector) (d : Diagnostic) : Collector :=
  { c with
    diagnostics := c.diagnostics ++ [d]
    errorCount := if d.severity = .error then c.errorCount + 1 else c.errorCount
    warningCount := if d.severity = .warning then c.warningCount + 1 else c.warningCount }

def record (c : Collector) (e : Event) : Collector :=
  { c with events := c.events ++ [e] }

def diagnostic (c : Collector) (message : String) (span : Span) : Diagnostic :=
  { rule := c.rule, severity := c.severity, message, span }

def text? (c : Collector) (span : Span) : Option (List Char) :=
  span.slice? c.source

end Collector
end MarkerLint
