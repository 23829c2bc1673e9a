import MarkerLint.Main
import MarkerLint.Proofs.Search.Sweep
import MarkerLint.Proofs.Search.Trail
import MarkerLint.Proofs.Search.LevelOrder
import MarkerLint.Proofs.Search.Position
import MarkerLint.Proofs.Audit.Ownership
import MarkerLint.Proofs.Audit.Verdict
import MarkerLint.Proofs.Component.Rendering
import MarkerLint.Proofs.Marking.Relation
import MarkerLint.Proofs.Rule.Reporting
import MarkerLint.Proofs.Marking.Listing
import MarkerLint.Proofs.Marking.Extraction
import MarkerLint.Proofs.Marking.Idempotence
import MarkerLint.Proofs.Component.Separation
import MarkerLint.Proofs.Rule.Fixing
import MarkerLint.Proofs.Search.Ancestry
import MarkerLint.Proofs.Outline.Places
import MarkerLint.Proofs.Outline.Nesting
import MarkerLint.Proofs.Search.Coverage
import MarkerLint.Proofs.Script.Conformance
import MarkerLint.Proofs.Text.Acceptance
import MarkerLint.Proofs.Files.Writing
import MarkerLint.Proofs.Command.Independence
import MarkerLint.Proofs.Command.Effects
import MarkerLint.Proofs.Command.Interleaving
import MarkerLint.Proofs.Audit.Decision
import MarkerLint.Proofs.Rule.Exclusion
import MarkerLint.Proofs.Marking.Preservation
import MarkerLint.Proofs.Outline.Parallel
import MarkerLint.Proofs.Outline.Alteration
import MarkerLint.Proofs.Audit.Tag
import MarkerLint.Proofs.Audit.Noninterference
import MarkerLint.Proofs.Rule.SourceOrder
import MarkerLint.Proofs.Component.Correspondence
import MarkerLint.Proofs.Component.Tracking
import MarkerLint.Proofs.Rule.PublicNames
import MarkerLint.Proofs.Component.Contexts
import MarkerLint.Proofs.Text.Positions
import MarkerLint.Proofs.Report.Locations
import MarkerLint.Proofs.Search.Uniqueness
import MarkerLint.Proofs.Script.Piece
import MarkerLint.Proofs.Script.Wrappers
import MarkerLint.Proofs.Script.WellFormed
import MarkerLint.Proofs.Audit.Shortcut
import MarkerLint.Proofs.Files.Spelling
import MarkerLint.Proofs.Json.Grammar
import MarkerLint.Proofs.Json.Reading
import MarkerLint.Proofs.Json.Decoding
import MarkerLint.Proofs.Json.Skipping
import MarkerLint.Proofs.Report.Decoding
import MarkerLint.Proofs.Settings.Saving
