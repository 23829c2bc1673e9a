import MarkerLint.Lint.Result
import MarkerLint.Rule
import MarkerLint.Script.Outline
import MarkerLint.Script.Parse
import MarkerLint.Settings

namespace MarkerLint

structure Linter where
  rules : List Rule
  schema : Outline.Schema := default
  -- The rules that are run by name; all of them if there is no list.
  enabledRules : Option (List String) := none

structure LintRun where
  result : LintResult
  events : List Event

namespace Linter

def ofPolicy (policy : Policy) : Linter where
  rules := [markerRule policy]

def ofSettings (engine : Pattern.Engine) (settings : Settings) : Except SettingsError Linter :=
  (settings.markerOptions.compileWith engine).map ofPolicy

def isEnabled (linter : Linter) (rule : String) : Bool :=
  match linter.enabledRules with
  | some names => names.contains rule
  | none => true

def runRule (linter : Linter) (program : Outline.Node) (collector : Collector) (rule : Rule) : Collector :=
  if linter.isEnabled rule.info.name then
    rule.run { collector with rule := rule.info.name, severity := rule.info.severity } program
  else
    collector

def runRules (linter : Linter) (program : Outline.Node) (collector : Collector) : Collector :=
  linter.rules.foldl (linter.runRule program) collector

-- Diagnostics by where they start; those at one place stay in the order in which they came.
def inSourceOrder (diagnostics : List Diagnostic) : List Diagnostic :=
  diagnostics.mergeSort fun a b => a.span.start ≤ b.span.start

def lintProgram (linter : Linter) (source : List Char) (file : String) (recovered : Bool) (program : Outline.Node) :
    LintRun :=
  let collector := linter.runRules program { source, file, schema := linter.schema }
  let diagnostics := inSourceOrder collector.diagnostics
  let first := if recovered then [Event.recovered file] else []
  { result := ⟨file, diagnostics, collector.errorCount, collector.warningCount⟩
    events := first ++ collector.events ++ [.linted file diagnostics.length] }

def lint (linter : Linter) (source : List Char) (file : String) : LintRun :=
  match Script.parse (.ofFile file) source with
  | .error _ => { result := { file }, events := [.unreadable file] }
  | .ok parsed => linter.lintProgram source file parsed.recovered parsed.program.outline

def lintFiles (linter : Linter) (files : List (String × List Char)) : List LintResult × LintSummary :=
  let results := files.map fun (file, source) => (linter.lint source file).result
  (results, .ofResults results)

end Linter
end MarkerLint
