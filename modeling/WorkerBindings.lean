import WorkerBindings.Main
import WorkerBindings.Proofs.SymbolCache.Agreement
import WorkerBindings.Proofs.SymbolCache.Provenance
import WorkerBindings.Proofs.Binding.Lookup
import WorkerBindings.Proofs.Generator.Outputs
import WorkerBindings.Proofs.Assembly.Derivation
import WorkerBindings.Proofs.Assembly.Verdict
import WorkerBindings.Proofs.Assembly.Steadiness
import WorkerBindings.Proofs.Assembly.Bindings
import WorkerBindings.Proofs.Assembly.Content
import WorkerBindings.Proofs.Assembly.Isolation
import WorkerBindings.Proofs.Assembly.Lookups
import WorkerBindings.Proofs.Assembly.Interruption
import WorkerBindings.Proofs.Assembly.Succession
import WorkerBindings.Proofs.Text.Digits
import WorkerBindings.Proofs.Text.Pieces
import WorkerBindings.Proofs.Json.Numbers
import WorkerBindings.Proofs.Json.Strings
import WorkerBindings.Proofs.Json.Layout
import WorkerBindings.Proofs.Json.RoundTrip
import WorkerBindings.Proofs.Json.Values
import WorkerBindings.Proofs.Json.Records
import WorkerBindings.Proofs.Interval.Format
import WorkerBindings.Proofs.Interval.Grammar
import WorkerBindings.Proofs.Interval.Durations
import WorkerBindings.Proofs.Binding.Entries
import WorkerBindings.Proofs.Documents.Manifests
import WorkerBindings.Proofs.Files.Writing
import WorkerBindings.Proofs.Documents.Saving
import WorkerBindings.Proofs.Resolution.Records
import WorkerBindings.Proofs.Assembly.BindingNames
import WorkerBindings.Proofs.Resolution.Raw
import WorkerBindings.Proofs.Assembly.Runs
import WorkerBindings.Proofs.Resolution.Emitted
import WorkerBindings.Proofs.Resolution.Forms
import WorkerBindings.Proofs.Generator.Arguments
import WorkerBindings.Proofs.Documents.Asking
import WorkerBindings.Proofs.Documents.Aggregation
import WorkerBindings.Proofs.Documents.Recollection
import WorkerBindings.Proofs.Workspace.Steps
import WorkerBindings.Proofs.Workspace.Evolution
import WorkerBindings.Proofs.Assembly.Reports
import WorkerBindings.Proofs.Files.Evolution
import WorkerBindings.Proofs.Files.Locations
import WorkerBindings.Proofs.Files.Discovered
import WorkerBindings.Proofs.Command.Steps
import WorkerBindings.Proofs.Command.Modules
import WorkerBindings.Proofs.Command.Generating
import WorkerBindings.Proofs.Json.Fields
import WorkerBindings.Proofs.Binding.Order
import WorkerBindings.Proofs.Classification.Elements
import WorkerBindings.Proofs.Classification.Shapes
import WorkerBindings.Proofs.Classification.Batches
import WorkerBindings.Proofs.SymbolCache.Memoization
import WorkerBindings.Proofs.Generator.Entries
import WorkerBindings.Proofs.Generator.Standard
import WorkerBindings.Proofs.Generator.Awaiting
import WorkerBindings.Proofs.Generator.Normalization
import WorkerBindings.Proofs.Retry.Documents
import WorkerBindings.Proofs.Retry.Resolution
import WorkerBindings.Proofs.Retry.Arguments
import WorkerBindings.Proofs.Retry.Validity
import WorkerBindings.Proofs.Retry.Intervals
import WorkerBindings.Proofs.Identity.Edits
import WorkerBindings.Proofs.Identity.Absence
import WorkerBindings.Proofs.Binding.Arrangement
import WorkerBindings.Proofs.Resolution.Verdicts
import WorkerBindings.Proofs.Emission.Tiers
import WorkerBindings.Proofs.Text.Substitution
import WorkerBindings.Proofs.Diagnostics.Messages
import WorkerBindings.Proofs.Json.Nesting
import WorkerBindings.Proofs.Symbol.Attributes
import WorkerBindings.Proofs.Symbol.Modules
import WorkerBindings.Proofs.Files.Search
import WorkerBindings.Proofs.Workspace.Additions
import WorkerBindings.Proofs.Command.Precedence
import WorkerBindings.Proofs.Command.Records
import WorkerBindings.Proofs.Symbol.Constants
import WorkerBindings.Proofs.Toml.Strings
import WorkerBindings.Proofs.Toml.Members
import WorkerBindings.Proofs.Settings.Values
import WorkerBindings.Proofs.Settings.Text
import WorkerBindings.Proofs.Files.Destinations
import WorkerBindings.Proofs.Workspace.Alterations
import WorkerBindings.Proofs.Settings.Loading
import WorkerBindings.Proofs.Settings.Saving
import WorkerBindings.Proofs.Command.Setting
