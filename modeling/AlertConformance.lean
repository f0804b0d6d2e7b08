import AlertConformance.Check
import AlertConformance.Client
import AlertConformance.Command.Effects
import AlertConformance.Command.Options
import AlertConformance.Command.RenderRules
import AlertConformance.Command.ValidateCases
import AlertConformance.Duration
import AlertConformance.Error
import AlertConformance.Exposition.Family
import AlertConformance.Exposition.Line
import AlertConformance.Json.Printer
import AlertConformance.Json.Reader
import AlertConformance.Json.Value
import AlertConformance.Keyed
import AlertConformance.Labels
import AlertConformance.Main
import AlertConformance.Matcher
import AlertConformance.Numeric.Binary64
import AlertConformance.Numeric.Numeral
import AlertConformance.Numeric.Shortest
import AlertConformance.Observation
import AlertConformance.Origin
import AlertConformance.Payload.Engine
import AlertConformance.Payload.Field
import AlertConformance.Payload.Notification
import AlertConformance.Receiver
import AlertConformance.Rule
import AlertConformance.Schedule
import AlertConformance.Series
import AlertConformance.Settings
import AlertConformance.Template
import AlertConformance.TestCase.Basic
import AlertConformance.TestCase.DependentRule
import AlertConformance.TestCase.LongHold
import AlertConformance.TestCase.NeverFiring
import AlertConformance.TestCase.SelfCheck
import AlertConformance.TestCase.ShortHold
import AlertConformance.TestCase.Suite
import AlertConformance.Text.Blank
import AlertConformance.Text.CodePoint
import AlertConformance.Text.Digit
import AlertConformance.Text.Literal
import AlertConformance.Text.Printable
import AlertConformance.Time.Calendar
import AlertConformance.Time.Instant
import AlertConformance.Time.Timestamp
import AlertConformance.Window
import AlertConformance.Yaml.Resolution
import AlertConformance.Yaml.RulesFile
import AlertConformance.Yaml.Scalar
import AlertConformance.Proofs.Check.Matching
import AlertConformance.Proofs.Check.Verdict
import AlertConformance.Proofs.Checked
import AlertConformance.Proofs.Duration
import AlertConformance.Proofs.Evaluation.Cadence
import AlertConformance.Proofs.Evaluation.Evaluator
import AlertConformance.Proofs.Identity
import AlertConformance.Proofs.LabelKey
import AlertConformance.Proofs.Matcher.Alarm
import AlertConformance.Proofs.Matcher.Arrival
import AlertConformance.Proofs.Matcher.Commutation
import AlertConformance.Proofs.Matcher.Conservation
import AlertConformance.Proofs.Matcher.Duplicates
import AlertConformance.Proofs.Matcher.Order
import AlertConformance.Proofs.Matcher.Progress
import AlertConformance.Proofs.Matcher.Renumbering
import AlertConformance.Proofs.Matcher.Soundness
import AlertConformance.Proofs.Matcher.Translation
import AlertConformance.Proofs.Numeric.Decimal
import AlertConformance.Proofs.Numeric.Order
import AlertConformance.Proofs.Numeric.Range
import AlertConformance.Proofs.Numeric.Whole
import AlertConformance.Proofs.Payload.Escapes
import AlertConformance.Proofs.Payload.Pages
import AlertConformance.Proofs.Receiver.Intake
import AlertConformance.Proofs.Receiver.Pipeline
import AlertConformance.Proofs.Receiver.Requests
import AlertConformance.Proofs.Receiver.Run
import AlertConformance.Proofs.Receiver.Written
import AlertConformance.Proofs.RulesDocument
import AlertConformance.Proofs.Schedule.Refusals
import AlertConformance.Proofs.Schedule.Replay
import AlertConformance.Proofs.Schedule.Rows
import AlertConformance.Proofs.Schedule.Sequence
import AlertConformance.Proofs.Schedule.Turns
import AlertConformance.Proofs.Selector
import AlertConformance.Proofs.Series.Finiteness
import AlertConformance.Proofs.TestCase.Acceptance
import AlertConformance.Proofs.TestCase.Coherence
import AlertConformance.Proofs.TestCase.Conformance
import AlertConformance.Proofs.TestCase.DependentRule
import AlertConformance.Proofs.TestCase.LongHold
import AlertConformance.Proofs.TestCase.NeverFiring
import AlertConformance.Proofs.TestCase.SelfCheck
import AlertConformance.Proofs.TestCase.ShortHold
import AlertConformance.Proofs.TestCase.SingleSeries
import AlertConformance.Proofs.TestCase.Soundness
import AlertConformance.Proofs.TestCase.Translation
import AlertConformance.Proofs.TestCase.Views
import AlertConformance.Proofs.Time.Timestamp
import AlertConformance.Proofs.Window.Boundaries
import AlertConformance.Proofs.Window.Phases
