
namespace MarkerLint.Report

def plural (n : Nat) (word : String) : String :=
  s!"{n} {word}" ++ if n = 1 then "" else "s"

def summary (errors warnings files : Nat) : String :=
  let parts :=
    (if errors > 0 then [plural errors "error"] else []) ++
      if warnings > 0 then [plural warnings "warning"] else []
  if parts.isEmpty then
    "No problems found in " ++ plural files "file"
  else
    ", ".intercalate parts ++ " in " ++ plural files "file"

def fixSummary (fixed files : Nat) : String :=
  match fixed with
  | 0 => "No fixes applied"
  | 1 => s!"Fixed 1 problem in {files} file(s)"
  | n => s!"Fixed {n} problems in {files} file(s)"

end MarkerLint.Report
