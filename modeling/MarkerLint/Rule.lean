import MarkerLint.Component.Audit
import MarkerLint.Component.Exports
import MarkerLint.Diagnostic

-- The marker rule: the top-level element of every exported component carries the marker attribute. The statements
-- of a module are read once; what lacks the marker is held back until it is known which names are exported.

namespace MarkerLint

open Outline

inductive RuleCategory where
  | instrumentation
  deriving DecidableEq, Inhabited, Repr

structure RuleInfo where
  name : String
  description : String
  category : RuleCategory
  fixable : Bool
  severity : Severity
  deriving Inhabited

structure Rule where
  info : RuleInfo
  run : Collector → Node → Collector

namespace MarkerRule

def info : RuleInfo where
  name := "hallmark/data-component"
  description := "Require the marker attribute on the top-level element of exported components"
  category := .instrumentation
  fixable := true
  severity := .error

structure Scan where
  tracker : ExportTracker := {}
  violations : List Violation := []
  events : List Event := []

def scanCandidate (policy : Policy) (schema : Schema) (scan : Scan) (candidate : Candidate) : Scan :=
  let scan :=
    match candidate.name with
    | some name => { scan with tracker := scan.tracker.declare name candidate.exported }
    | none => scan
  match audit policy schema candidate with
  | .violation v => { scan with violations := scan.violations ++ [v] }
  | .excluded =>
    { scan with
      events := scan.events ++ [.onlyExcluded candidate.name candidate.declaration.node.span.start] }
  | .compliant => scan

def scanStatement (policy : Policy) (schema : Schema) (scan : Scan) (statement : Place) : Scan :=
  match TopLevel.ofStatement policy statement with
  | .components candidates => candidates.foldl (scanCandidate policy schema) scan
  | .exports names => { scan with tracker := names.foldl ExportTracker.list scan.tracker }
  | .other => scan

def scan (policy : Policy) (schema : Schema) (program : Node) : Scan :=
  (topLevelStatements program).foldl (scanStatement policy schema) {}

def diagnose (policy : Policy) (collector : Collector) (v : Violation) : Diagnostic :=
  { collector.diagnostic
      s!"{v.component} is missing the {policy.marker} attribute for the top-level element." v.openingSpan with
    help := some s!"Add `{policy.marker}=\"{v.component}\"` to the element this component renders"
    fix := some
      { message := s!"Add {policy.marker}=\"{v.component}\""
        edits := [.insertion v.insertionPoint v.fixText] } }

def resolve (policy : Policy) (reachability : Reachability) (collector : Collector) (v : Violation) : Collector :=
  if reachability.isExported v.component then
    collector.report (diagnose policy collector v)
  else
    collector.record (.neverExported collector.file v.component)

def run (policy : Policy) (collector : Collector) (program : Node) : Collector :=
  let scan := scan policy collector.schema program
  let collector := scan.events.foldl Collector.record collector
  scan.violations.foldl (resolve policy scan.tracker.finish) collector

end MarkerRule

def markerRule (policy : Policy) : Rule where
  info := MarkerRule.info
  run := MarkerRule.run policy

end MarkerLint
