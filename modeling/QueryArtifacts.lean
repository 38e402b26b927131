import QueryArtifacts.Artifact.Basic
import QueryArtifacts.Artifact.Datasource
import QueryArtifacts.Artifact.Pipe
import QueryArtifacts.Artifact.Writer
import QueryArtifacts.CommandLine.Arguments
import QueryArtifacts.CommandLine.Run
import QueryArtifacts.Decimal.Binary64
import QueryArtifacts.Decimal.Digits
import QueryArtifacts.Decimal.Layout
import QueryArtifacts.Decimal.Shortest
import QueryArtifacts.Json.Basic
import QueryArtifacts.Json.Printer
import QueryArtifacts.Json.Reader
import QueryArtifacts.Json.Record
import QueryArtifacts.Main
import QueryArtifacts.NameMap
import QueryArtifacts.Parameter.Basic
import QueryArtifacts.Parameter.Placeholder
import QueryArtifacts.Project.Basic
import QueryArtifacts.Project.Environment
import QueryArtifacts.Project.Load
import QueryArtifacts.Query.Condition
import QueryArtifacts.Query.Literal
import QueryArtifacts.Query.State
import QueryArtifacts.Query.Store
import QueryArtifacts.Query.Text
import QueryArtifacts.Query.Window
import QueryArtifacts.Record.Basic
import QueryArtifacts.Schema.Basic
import QueryArtifacts.Schema.Column
import QueryArtifacts.Template.Block
import QueryArtifacts.Template.Conditional
import QueryArtifacts.Template.Token
import QueryArtifacts.Text.Blank
import QueryArtifacts.Text.Lines
import QueryArtifacts.Text.Quoted
import QueryArtifacts.Text.Split
import QueryArtifacts.Toml.Datetime
import QueryArtifacts.Toml.Document
import QueryArtifacts.Toml.Number
import QueryArtifacts.Toml.Quoted
import QueryArtifacts.Toml.Reader
import QueryArtifacts.Toml.Record
import QueryArtifacts.Toml.Table
import QueryArtifacts.Toml.Value
import QueryArtifacts.Proofs.Query.Isolation
import QueryArtifacts.Proofs.Query.Snapshot
import QueryArtifacts.Proofs.Query.Termination
import QueryArtifacts.Proofs.Query.Acyclic
import QueryArtifacts.Proofs.Query.CallLog
import QueryArtifacts.Proofs.Template.Blocks
import QueryArtifacts.Proofs.Template.Calls
import QueryArtifacts.Proofs.Text.BraceFree
import QueryArtifacts.Proofs.Query.RelatedRuns
import QueryArtifacts.Proofs.Template.Placeholders
import QueryArtifacts.Proofs.Template.Scan
import QueryArtifacts.Proofs.Template.Drafts
import QueryArtifacts.Proofs.Artifact.Scripts
import QueryArtifacts.Proofs.Template.Insertions
import QueryArtifacts.Proofs.Text.Rows
import QueryArtifacts.Proofs.Artifact.Layout
import QueryArtifacts.Proofs.Artifact.PipeText
import QueryArtifacts.Proofs.Text.ReadQuoted
import QueryArtifacts.Proofs.Artifact.DatasourceText
import QueryArtifacts.Proofs.Artifact.ReadDatasource
import QueryArtifacts.Proofs.Project.Steps
import QueryArtifacts.Proofs.Project.Artifacts
import QueryArtifacts.Proofs.Project.Loaded
import QueryArtifacts.Proofs.CommandLine.Stream
import QueryArtifacts.Proofs.Decimal.Numeral
import QueryArtifacts.Proofs.Text.ReadDoubled
import QueryArtifacts.Proofs.Query.StringLiterals
import QueryArtifacts.Proofs.Template.BareTokens
import QueryArtifacts.Proofs.Text.Markers
import QueryArtifacts.Proofs.Project.Expansion
import QueryArtifacts.Proofs.Query.Failures
import QueryArtifacts.Proofs.Query.SetOperations
import QueryArtifacts.Proofs.Template.ClosedTexts
import QueryArtifacts.Proofs.Template.Rewrapping
import QueryArtifacts.Proofs.Artifact.Directives
import QueryArtifacts.Proofs.Query.BooleanTexts
import QueryArtifacts.Proofs.Query.Having
import QueryArtifacts.Proofs.Decimal.Digits
import QueryArtifacts.Proofs.Decimal.WholeDoubles
import QueryArtifacts.Proofs.Decimal.RoundedIntegers
import QueryArtifacts.Proofs.Query.IntegerLiterals
import QueryArtifacts.Proofs.Template.Defaults
import QueryArtifacts.Proofs.Artifact.WriterRuns
import QueryArtifacts.Proofs.Template.Decomposition
import QueryArtifacts.Proofs.Record.RoundTrip
