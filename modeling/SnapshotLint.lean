import SnapshotLint.Analysis
import SnapshotLint.Analyzer
import SnapshotLint.Check.Error
import SnapshotLint.Check.Session
import SnapshotLint.Command.Invocation
import SnapshotLint.Command.Outcome
import SnapshotLint.Command.Settings
import SnapshotLint.Command.Switch
import SnapshotLint.Command.Template
import SnapshotLint.Config
import SnapshotLint.Dac.Attribute
import SnapshotLint.Dac.Model
import SnapshotLint.Decimal.Binary64
import SnapshotLint.Derivation
import SnapshotLint.Describe
import SnapshotLint.Event.Hook
import SnapshotLint.Event.Kind
import SnapshotLint.FileTree
import SnapshotLint.Framework
import SnapshotLint.Glob.Expansion
import SnapshotLint.Glob.Pattern
import SnapshotLint.Graph.Events
import SnapshotLint.Graph.Model
import SnapshotLint.Hierarchy
import SnapshotLint.Json.Printer
import SnapshotLint.Json.Reader
import SnapshotLint.Json.Record
import SnapshotLint.Json.Token
import SnapshotLint.Json.Value
import SnapshotLint.LintResult
import SnapshotLint.Location
import SnapshotLint.Main
import SnapshotLint.OrderedMap
import SnapshotLint.Overriding
import SnapshotLint.Path
import SnapshotLint.Proofs.AggregatedCheck
import SnapshotLint.Proofs.BaseWalk
import SnapshotLint.Proofs.BoundTypeResolution
import SnapshotLint.Proofs.BuiltInRule
import SnapshotLint.Proofs.ClassicHookReport
import SnapshotLint.Proofs.ConservativeExtension
import SnapshotLint.Proofs.DeclarationLookup
import SnapshotLint.Proofs.EffectiveMember
import SnapshotLint.Proofs.ErrorNormalForm
import SnapshotLint.Proofs.EventChain
import SnapshotLint.Proofs.Exclusion
import SnapshotLint.Proofs.FileResult
import SnapshotLint.Proofs.FirstFailure
import SnapshotLint.Proofs.Heading
import SnapshotLint.Proofs.HookGrammar
import SnapshotLint.Proofs.HookKey
import SnapshotLint.Proofs.Interleaving
import SnapshotLint.Proofs.InterruptedCheck
import SnapshotLint.Proofs.InterruptedDac
import SnapshotLint.Proofs.InterruptedModel
import SnapshotLint.Proofs.Interruption
import SnapshotLint.Proofs.LayerOrder
import SnapshotLint.Proofs.LayerSet
import SnapshotLint.Proofs.LayeredModel
import SnapshotLint.Proofs.NameLookup
import SnapshotLint.Proofs.OverrideChain
import SnapshotLint.Proofs.OverrideResolution
import SnapshotLint.Proofs.OwnMember
import SnapshotLint.Proofs.PathSpelling
import SnapshotLint.Proofs.Reachability
import SnapshotLint.Proofs.RegisteredHandler
import SnapshotLint.Proofs.ReportOrder
import SnapshotLint.Proofs.ReportedOnce
import SnapshotLint.Proofs.ReservedFieldReport
import SnapshotLint.Proofs.RoleAgreement
import SnapshotLint.Proofs.RoundTrip
import SnapshotLint.Proofs.RuleConfiguration
import SnapshotLint.Proofs.RuleFilter
import SnapshotLint.Proofs.Scheduling
import SnapshotLint.Proofs.Segmentation
import SnapshotLint.Proofs.SortedResult
import SnapshotLint.Proofs.SuggestedHook
import SnapshotLint.Proofs.TopLayer
import SnapshotLint.Proofs.TypeOrder
import SnapshotLint.Proofs.TypeReport
import SnapshotLint.Proofs.UninterruptedCheck
import SnapshotLint.Proofs.UnsafeDefaultReport
import SnapshotLint.Proofs.WrittenRecord
import SnapshotLint.Report
import SnapshotLint.Rule.Basic
import SnapshotLint.Rule.ClassicSignature
import SnapshotLint.Rule.ExtensionConstructor
import SnapshotLint.Rule.Preset
import SnapshotLint.Rule.ReservedField
import SnapshotLint.Rule.Script
import SnapshotLint.Rule.UnsafeDefault
import SnapshotLint.Severity
import SnapshotLint.Snapshot
import SnapshotLint.Symbol.Basic
import SnapshotLint.Symbol.Codec
import SnapshotLint.Text.Alphanumeric
import SnapshotLint.Text.Blank
import SnapshotLint.Text.LetterCase
import SnapshotLint.Text.LetterCase.Runs
import SnapshotLint.Text.LineBreak
import SnapshotLint.Text.LineBreak.Class
import SnapshotLint.Text.Quoted
import SnapshotLint.Text.Segment
import SnapshotLint.Text.Unprintable
import SnapshotLint.Text.Width
import SnapshotLint.Text.Wrap
import SnapshotLint.Token
import SnapshotLint.Toml.Datetime
import SnapshotLint.Toml.Document
import SnapshotLint.Toml.Scalar
import SnapshotLint.Toml.Value
import SnapshotLint.Violation
