import MarkerLint.Proofs.Json.Decoding
import MarkerLint.Proofs.Report.Locations
import MarkerLint.Report.Format

namespace MarkerLint

def Json.text? : Json → Option String
  | text s => some s
  | _ => none

namespace Report

-- What a report tells about a diagnostic.
structure Message where
  rule : String
  severity : Severity
  message : String
  start : Position
  stop : Position
  edit : Option Edit

-- What a report tells about a file.
structure FileReport where
  file : String
  messages : List Message
  errorCount : Nat
  warningCount : Nat

end Report
end MarkerLint
