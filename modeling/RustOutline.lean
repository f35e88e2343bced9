import RustOutline.Command.Options
import RustOutline.Command.Run
import RustOutline.Command.Usage
import RustOutline.Decimal.Binary
import RustOutline.Decimal.Real
import RustOutline.Decimal.Shortest
import RustOutline.Decimal.Whole
import RustOutline.DocComment
import RustOutline.Failure
import RustOutline.Files
import RustOutline.Json.Printer
import RustOutline.Json.Reader
import RustOutline.Level
import RustOutline.Log.Call
import RustOutline.Log.Event
import RustOutline.Log.Hub
import RustOutline.Log.Line
import RustOutline.Main
import RustOutline.Outline.Assembly
import RustOutline.Outline.Clock
import RustOutline.Outline.Declaration
import RustOutline.Outline.Diagnostic
import RustOutline.Outline.Document
import RustOutline.Outline.ImplIndex
import RustOutline.Outline.Item
import RustOutline.Outline.Journal
import RustOutline.Outline.ModulePath
import RustOutline.Outline.ModuleSummary
import RustOutline.Outline.Response
import RustOutline.Outline.Schema
import RustOutline.Path
import RustOutline.Settings.Basic
import RustOutline.Settings.Environment
import RustOutline.Settings.Issue
import RustOutline.Settings.Load
import RustOutline.Settings.Merge
import RustOutline.Settings.Validation
import RustOutline.Text.Blank
import RustOutline.Text.Cased
import RustOutline.Text.Digit
import RustOutline.Text.Lines
import RustOutline.Text.Literal
import RustOutline.Text.LowerCase
import RustOutline.Text.Printable
import RustOutline.Text.Search
import RustOutline.Text.Similarity
import RustOutline.Text.UpperCase
import RustOutline.Tracing.Batch
import RustOutline.Tracing.Fault
import RustOutline.Tracing.Limits
import RustOutline.Tracing.Sampling
import RustOutline.Tracing.Span
import RustOutline.Tracing.Tracer
import RustOutline.Tree
import RustOutline.Tree.Dump
import RustOutline.Utf8
import RustOutline.Utf8.Stream
import RustOutline.Value
import RustOutline.Value.Display
import RustOutline.Visibility
import RustOutline.Yaml.Document
import RustOutline.Yaml.Reader
import RustOutline.Yaml.Fault
import RustOutline.Yaml.Merge
import RustOutline.Yaml.Node
import RustOutline.Yaml.Plain
import RustOutline.Yaml.Quoted
import RustOutline.Yaml.Scalar
import RustOutline.Yaml.Token
import RustOutline.Proofs.MemberContribution
import RustOutline.Proofs.PublicOutline
import RustOutline.Proofs.DeclarationAccount
import RustOutline.Proofs.ImplRetention
import RustOutline.Proofs.ErrorTransparency
import RustOutline.Proofs.RecoveryDiagnostics
import RustOutline.Proofs.SpanOrder
import RustOutline.Proofs.ModulePaths
import RustOutline.Proofs.ModuleSkeleton
import RustOutline.Proofs.FieldNames
import RustOutline.Proofs.JsonGrammar
import RustOutline.Proofs.JsonRoundTrip
import RustOutline.Proofs.CheckedSettings
import RustOutline.Proofs.NormalPaths
import RustOutline.Proofs.SchemaDecoding
import RustOutline.Proofs.SettingsFixedPoint
import RustOutline.Proofs.FieldOverlay
import RustOutline.Proofs.SourceLayers
import RustOutline.Proofs.SettingsPrecedence
import RustOutline.Proofs.TracerLifecycle
import RustOutline.Proofs.Invocation
import RustOutline.Proofs.CommandOutcome
import RustOutline.Proofs.Utf8Inverse
import RustOutline.Proofs.TextCuts
import RustOutline.Proofs.EncodableOutline
import RustOutline.Proofs.FileSpans
import RustOutline.Proofs.LoadFailures
import RustOutline.Proofs.DocumentationRun
import RustOutline.Proofs.ImplIndexing
import RustOutline.Proofs.MethodSharing
import RustOutline.Proofs.LogDelivery
import RustOutline.Proofs.LineDecoding
import RustOutline.Proofs.DocumentationLines
import RustOutline.Proofs.FaithfulCuts
import RustOutline.Proofs.ModulePreorder
import RustOutline.Proofs.OverlayPaths
import RustOutline.Proofs.StringLiterals
import RustOutline.Proofs.VisibilityForms
import RustOutline.Proofs.UsableNames
import RustOutline.Proofs.CandidateFiles
import RustOutline.Proofs.DiagnosticSnippets
