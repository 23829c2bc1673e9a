import MarkerLint.Lint.Result
import MarkerLint.Report.Snippet

namespace MarkerLint.Report

structure Theme where
  error : String
  warning : String
  link : String
  help : String
  lineNumber : String
  highlight : String
  errorIcon : String
  warningIcon : String

def theme : Theme where
  error := "38;2;225;80;80;1"
  warning := "38;2;244;191;117;1"
  link := "38;2;92;157;255;1"
  help := "38;2;106;159;181"
  lineNumber := "2"
  highlight := "38;2;246;87;248"
  errorIcon := "×"
  warningIcon := "⚠"

def styled (style text : String) : String :=
  s!"\x1b[{style}m{text}\x1b[0m"

def blanks (n : Nat) : String :=
  String.ofList (List.replicate n ' ')

def padded (width n : Nat) : String :=
  let digits := toString n
  blanks (width - digits.length) ++ digits

def gutter (line : Line) (span : Span) : String :=
  let mark := styled theme.highlight
  let isMultiLine := line.touches span && !line.holds span
  if !isMultiLine then "    "
  else if line.span.start ≤ span.start then mark "╭" ++ mark "─" ++ mark "▶" ++ " "
  else if span.stop ≤ line.span.stop then mark "╰" ++ mark "─" ++ mark "▶" ++ " "
  else mark "│" ++ "   "

def underline (width : Nat) (line : Line) (span : Span) : String :=
  let start := line.column span.start true
  let stop := if span.start = span.stop then start + 1 else max (line.column span.stop false) (start + 1)
  let strokes := String.ofList (List.replicate (stop - start) '─')
  s!" {blanks width} · " ++ styled theme.highlight (blanks start ++ strokes) ++ "\n"

def lineRows (width : Nat) (multiLine : Bool) (span : Span) (line : Line) : String :=
  let number := styled theme.lineNumber (padded width line.number)
  let margin := if multiLine then gutter line span else ""
  let text := String.ofList (expandTabs 0 false line.text)
  s!" {number} │ {margin}{text}\n" ++
    if line.touches span && line.holds span then underline width line span else ""

-- What is written for a diagnostic; nothing if its span goes beyond the source.
def diagnosticText? (file : String) (source : List Char) (d : Diagnostic) : Option String := do
  let region ← Region.around? 1 d.span source
  let place ← Region.around? 0 d.span source
  let shown ← region.span.slice? source
  let lines := linesOf (region.skippedLines + 1) region.span.start region.span.start [] shown
  let width := ((lines.getLast?.map Line.number).getD 0 |> toString).length
  let multiLine := lines.any fun line => line.touches d.span && !line.holds d.span
  let (style, icon) := match d.severity with
    | .error => (theme.error, theme.errorIcon)
    | .warning => (theme.warning, theme.warningIcon)
  let margin := blanks (width + 2)
  let heading := s!"\n  {styled style icon} {styled style d.message}\n"
  let position := s!":{place.skippedLines + 1}:{place.column + 1}]\n"
  let location := s!"{margin}╭─[{styled theme.link file}{position}"
  let body := String.join (lines.map (lineRows width multiLine d.span))
  let help := match d.help with
    | some help => styled theme.help "  help: " ++ help ++ "\n"
    | none => ""
  pure (s!"[{d.rule}]\n" ++ heading ++ location ++ body ++ s!"{margin}╰────\n" ++ help ++ "\n")

def text (results : List LintResult) (sources : List (String × List Char)) : String :=
  String.join (results.flatMap fun r =>
    let source := sourceOf sources r.file
    r.diagnostics.filterMap (diagnosticText? r.file source))

end MarkerLint.Report
