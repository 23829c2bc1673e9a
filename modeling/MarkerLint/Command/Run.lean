import MarkerLint.Command.Arguments
import MarkerLint.Files.Collect
import MarkerLint.Lint.Linter
import MarkerLint.Report.Format
import MarkerLint.Report.Summary
import MarkerLint.Text.Quoted

namespace MarkerLint.Command

open Files

inductive Notice where
  | invalidConfiguration (cause : SettingsError)
  | noFiles (patterns : List String)
  | tooManyWarnings (count limit : Nat)
  deriving DecidableEq, Inhabited, Repr

def Notice.message : Notice → String
  | invalidConfiguration cause => s!"Invalid configuration: {cause.message}"
  | noFiles patterns => "No JavaScript/TypeScript files found matching patterns: " ++ Text.quotedList patterns
  | tooManyWarnings count limit => s!"\nToo many warnings ({count} > max {limit})"

structure Completion where
  exitCode : Nat
  output : String := ""
  notices : List Notice := []
  disk : Disk

-- The configuration: a file that was named must be there, the default one need not.
def loadSettings (disk : Disk) (named : Option String) : Except SettingsError Settings :=
  let read := fun (path : FilePath) =>
    match disk.read? path with
    | none => .error .unreadable
    | some text =>
      match Settings.ofText text with
      | .error e => .error (.invalid e)
      | .ok settings => .ok settings
  match named with
  | some path => read ⟨path⟩
  | none =>
    let path : FilePath := ⟨Settings.fileName⟩
    if (disk.locate? path).isSome then read path else .ok {}

def loadLinter (engine : Pattern.Engine) (disk : Disk) (named : Option String) : Except SettingsError Linter := do
  Linter.ofSettings engine (← loadSettings disk named)

structure FileReport where
  source : List Char
  result : LintResult
  fixed : Nat := 0

-- Lints a file. If fixes are to be made and there are some, the file is written and linted again. A file that is no
-- text is passed over, and one that cannot be written stays as it is.
def lintFile (linter : Linter) (fix : Bool) (disk : Disk) (path : FilePath) : Option FileReport × Disk :=
  match disk.read? path with
  | none => (none, disk)
  | some source =>
    let result := (linter.lint source path.text).result
    if !fix || result.fixableCount = 0 then
      (some { source, result }, disk)
    else
      let fixed := result.applyFixes source
      match disk.write? path fixed with
      | none => (some { source, result }, disk)
      | some disk =>
        (some { source := fixed, result := (linter.lint fixed path.text).result, fixed := result.fixableCount }, disk)

def lintAll (linter : Linter) (fix : Bool) (disk : Disk) : List FilePath → List FileReport × Disk
  | [] => ([], disk)
  | path :: paths =>
    let (report, disk) := lintFile linter fix disk path
    let (reports, disk) := lintAll linter fix disk paths
    (report.toList ++ reports, disk)

structure Totals where
  errors : Nat
  warnings : Nat
  fixed : Nat
  fixedFiles : Nat
  deriving DecidableEq, Inhabited, Repr

def Totals.of (reports : List FileReport) : Totals where
  errors := reports.foldl (fun n r => n + r.result.errorCount) 0
  warnings := reports.foldl (fun n r => n + r.result.warningCount) 0
  fixed := reports.foldl (fun n r => n + r.fixed) 0
  fixedFiles := reports.countP (·.fixed > 0)

def reportFormat (name : String) : ReportFormat :=
  if name = "json" then .json else .text

-- The report on all files. A quiet run has none if all is well.
def reportText (arguments : LintArguments) (totals : Totals) (reports : List FileReport) : String :=
  if arguments.quiet && totals.errors = 0 && totals.warnings = 0 then ""
  else
    let sources := reports.map fun r => (r.result.file, r.source)
    let text := (reportFormat arguments.format).render (reports.map (·.result)) sources
    if text.toList.all Text.isBlank then "" else text

def closingText (arguments : LintArguments) (totals : Totals) (files : Nat) : String :=
  let fixes := if arguments.fix then s!"\n{Report.fixSummary totals.fixed totals.fixedFiles}\n" else ""
  fixes ++ s!"\n{Report.summary totals.errors totals.warnings files}\nLinted {files} files\n"

def lintCollected (arguments : LintArguments) (linter : Linter) (disk : Disk) (paths : List FilePath) : Completion :=
  let (reports, disk) := lintAll linter arguments.fix disk paths
  let totals := Totals.of reports
  let closing :=
    match reportFormat arguments.format with
    | .text => closingText arguments totals paths.length
    | .json => ""
  let output := reportText arguments totals reports ++ closing
  if totals.errors > 0 then
    { exitCode := 1, output, disk }
  else
    match arguments.maxWarnings with
    | some limit =>
      if totals.warnings > limit then
        { exitCode := 1, output, notices := [.tooManyWarnings totals.warnings limit], disk }
      else
        { exitCode := 0, output, disk }
    | none => { exitCode := 0, output, disk }

def runLint (engine : Pattern.Engine) (arguments : LintArguments) (disk : Disk) : Completion :=
  match loadLinter engine disk arguments.config with
  | .error e => { exitCode := 1, notices := [.invalidConfiguration e], disk }
  | .ok linter =>
    match collect disk arguments.patterns with
    | [] => { exitCode := 0, notices := [.noFiles arguments.patterns], disk }
    | paths => lintCollected arguments linter disk paths

-- The paths that a run may look at: the working directory, what the patterns begin with, and the configuration.
def visitedPaths (arguments : List String) : List FilePath :=
  match readArguments arguments with
  | .ok (.lint arguments) =>
    let bases := arguments.patterns.map fun pattern =>
      if Glob.isGlob pattern then (Glob.literalBase pattern.toList) else ⟨pattern⟩
    ⟨"."⟩ :: (bases ++ arguments.config.toList.map FilePath.mk)
  | _ => []

def versionText : String := "hallmark 0.3.0\n"

def helpText : String :=
  "Usage: hallmark lint [--fix] [-c FILE] [-f text|json] [--max-warnings N] [-q] [PATTERN]...\n"

-- Arguments that are refused leave everything alone.
def runWith (engine : Pattern.Engine) (arguments : List String) (disk : Disk) : Completion :=
  match readArguments arguments with
  | .error _ => { exitCode := 2, disk }
  | .ok .version => { exitCode := 0, output := versionText, disk }
  | .ok .help => { exitCode := 0, output := helpText, disk }
  | .ok (.lint arguments) => runLint engine arguments disk

def run (arguments : List String) (disk : Disk) : Completion :=
  runWith Pattern.standard arguments disk

end MarkerLint.Command
