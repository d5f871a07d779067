import BuildTelemetry.Exporter.Schedule
import BuildTelemetry.Settings.Document
import BuildTelemetry.Proofs.Accounting
import BuildTelemetry.Proofs.Suppression
import BuildTelemetry.Proofs.LastBuild
import BuildTelemetry.Proofs.Isolation
import BuildTelemetry.Proofs.Absence
import BuildTelemetry.Proofs.Order
import BuildTelemetry.Proofs.Identity
import BuildTelemetry.Proofs.MetricRules
import BuildTelemetry.Proofs.Containment
import BuildTelemetry.Proofs.IncludedBuilds
import BuildTelemetry.Proofs.Decoding
import BuildTelemetry.Proofs.Completions
import BuildTelemetry.Proofs.CounterIdentity
import BuildTelemetry.Proofs.Arity
import BuildTelemetry.Proofs.Deadlines
import BuildTelemetry.Proofs.LabelSets
import BuildTelemetry.Proofs.FailedCompletions
import BuildTelemetry.Proofs.WholeNames
import BuildTelemetry.Proofs.StuckBuilds
import BuildTelemetry.Proofs.LabelPairs
import BuildTelemetry.Proofs.SampleLabels
import BuildTelemetry.Proofs.Configurations
import BuildTelemetry.Proofs.ArityErrors
import BuildTelemetry.Proofs.StageAccounts
import BuildTelemetry.Proofs.BuildChain
import BuildTelemetry.Proofs.Floats
import BuildTelemetry.Proofs.ByteOrder
import BuildTelemetry.Proofs.CoverageReports
import BuildTelemetry.Proofs.OutputOrder
import BuildTelemetry.Proofs.Scaling
import BuildTelemetry.Proofs.ItemReports
import BuildTelemetry.Proofs.SharedSeries
