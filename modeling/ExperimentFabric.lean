import ExperimentFabric.Completion
import ExperimentFabric.CrashRecovery
import ExperimentFabric.Cancellation
import ExperimentFabric.RefusedEvidence
import ExperimentFabric.Fencing
import ExperimentFabric.Epochs
import ExperimentFabric.Invariants
import ExperimentFabric.Conformance
import ExperimentFabric.Eligibility
import ExperimentFabric.Attendance
import ExperimentFabric.Schedule
import ExperimentFabric.Messages
import ExperimentFabric.Persistence
import ExperimentFabric.Acceptance
import ExperimentFabric.Closure
import ExperimentFabric.Indexes
import ExperimentFabric.Freshness
import ExperimentFabric.Provenance
import ExperimentFabric.Reservations
import ExperimentFabric.Registrations
import ExperimentFabric.Governance
import ExperimentFabric.Presence
import ExperimentFabric.Restoration
import ExperimentFabric.RefusedRollback
import ExperimentFabric.Revival
import ExperimentFabric.Reexecution
import ExperimentFabric.RefusedCommit
import ExperimentFabric.RefusedRegistration
import ExperimentFabric.Retention
import ExperimentFabric.Atomicity
import ExperimentFabric.Acknowledgement
import ExperimentFabric.Redelivery
import ExperimentFabric.AttemptLedger
import ExperimentFabric.Selection
import ExperimentFabric.Retries
import ExperimentFabric.Concurrency
import ExperimentFabric.Measurements
import ExperimentFabric.Lib.Overlays
import ExperimentFabric.Inheritance
import ExperimentFabric.Baselines
import ExperimentFabric.ArtifactCurrency
import ExperimentFabric.FailurePolicy
import ExperimentFabric.Transport
import ExperimentFabric.Enumerators
import ExperimentFabric.Audit
import ExperimentFabric.Reporting
import ExperimentFabric.StateDigest
import ExperimentFabric.Lineages
import ExperimentFabric.Rendering
import ExperimentFabric.IdentityText
import ExperimentFabric.Seeds
import ExperimentFabric.Hashing
import ExperimentFabric.Conduct
import ExperimentFabric.Draining
import ExperimentFabric.Storage
import ExperimentFabric.Disk
