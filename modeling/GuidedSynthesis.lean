import GuidedSynthesis.Text.Blank
import GuidedSynthesis.Text.Search
import GuidedSynthesis.Text.Lines
import GuidedSynthesis.Text.Inspection
import GuidedSynthesis.Json.Printer
import GuidedSynthesis.Json.Record
import GuidedSynthesis.Syntax.Walk
import GuidedSynthesis.Failure
import GuidedSynthesis.Semantics
import GuidedSynthesis.Request
import GuidedSynthesis.Outcome
import GuidedSynthesis.Answer
import GuidedSynthesis.Prompt
import GuidedSynthesis.Toml.Document
import GuidedSynthesis.Toml.Printer
import GuidedSynthesis.Settings
import GuidedSynthesis.Synthesis
import GuidedSynthesis.Main
import GuidedSynthesis.Artifact
import GuidedSynthesis.Vetting.Structure
import GuidedSynthesis.Vetting.Constant
import GuidedSynthesis.Proofs.Diagnostic.Located
import GuidedSynthesis.Proofs.Syntax.Pieces
import GuidedSynthesis.Proofs.Vetting.Structure
import GuidedSynthesis.Proofs.Vetting.Constant
import GuidedSynthesis.Proofs.Synthesis.Loop
import GuidedSynthesis.Proofs.Synthesis.Passes
import GuidedSynthesis.Proofs.Disk.Project
import GuidedSynthesis.Proofs.Synthesis.CompiledCode
import GuidedSynthesis.Proofs.Synthesis.Answers
import GuidedSynthesis.Proofs.Synthesis.Ceiling
import GuidedSynthesis.Proofs.Text.Search
import GuidedSynthesis.Proofs.Text.Lines
import GuidedSynthesis.Proofs.Json.Compact
import GuidedSynthesis.Proofs.Json.Reading
import GuidedSynthesis.Proofs.Answer.Block
import GuidedSynthesis.Proofs.Answer.Stream
import GuidedSynthesis.Proofs.Json.Record
import GuidedSynthesis.Proofs.Service.Wire
import GuidedSynthesis.Proofs.Service.Answers
import GuidedSynthesis.Proofs.Synthesis.FirstFailure
import GuidedSynthesis.Proofs.Synthesis.Severity
import GuidedSynthesis.Proofs.Resolver.Once
import GuidedSynthesis.Proofs.Library.Gathering
import GuidedSynthesis.Proofs.Synthesis.Files
import GuidedSynthesis.Proofs.Syntax.Order
import GuidedSynthesis.Proofs.Vetting.Report
import GuidedSynthesis.Proofs.Json.Trailing
import GuidedSynthesis.Proofs.Service.Refusals
import GuidedSynthesis.Proofs.Vetting.Kept
import GuidedSynthesis.Proofs.Text.Trim
import GuidedSynthesis.Proofs.Selection.Choice
import GuidedSynthesis.Proofs.Failure.Attempts
import GuidedSynthesis.Proofs.Library.Fetches
import GuidedSynthesis.Proofs.Library.Answers
import GuidedSynthesis.Proofs.Diagnostic.Merging
import GuidedSynthesis.Proofs.Disk.Build
import GuidedSynthesis.Proofs.Disk.Artifacts
import GuidedSynthesis.Proofs.Answer.Concatenation
import GuidedSynthesis.Proofs.Library.Merging
import GuidedSynthesis.Proofs.Service.Deployment
import GuidedSynthesis.Proofs.Json.RoundTrip
import GuidedSynthesis.Proofs.Diagnostic.Distinction
import GuidedSynthesis.Proofs.Failure.Context
import GuidedSynthesis.Proofs.Prompt.Verbatim
import GuidedSynthesis.Proofs.Toml.Strings
