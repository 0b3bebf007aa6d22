import ExperimentFabric.Frames
import ExperimentFabric.Lib.NameTables
import ExperimentFabric.Rendering
import ExperimentFabric.Reproducibility

/-!
# Stable names

The names under which enumerators are printed and parsed.  Every enumeration has one table; a table
lists every named enumerator once and no name twice, so what is printed is parsed as the enumerator
that was printed, and nothing else is parsed.
-/

namespace ExperimentFabric

open Lib

/-- An enumeration with stable names. -/
class StableNames (E : Type) [DecidableEq E] where
  /-- The enumerators and their names. -/
  table : NameTable E Text
  /-- What is printed for a value without a name. -/
  unknown : Text
  sound : table.Sound

/-- The name of an enumerator. -/
def nameOf {E : Type} [DecidableEq E] [StableNames E] (value : E) : Text :=
  (StableNames.table : NameTable E Text).lookup (StableNames.unknown E) value

/-- The enumerator of a name. -/
def parseName {E : Type} [DecidableEq E] [StableNames E] (name : Text) : Option E :=
  (StableNames.table : NameTable E Text).reverse name

/-- The value has a name. -/
def HasName {E : Type} [DecidableEq E] [StableNames E] (value : E) : Prop :=
  value ∈ (StableNames.table : NameTable E Text).values

/-- A text is parsed as an enumerator exactly when it is the name printed for it. -/
theorem parseName_eq_some_iff {E : Type} [DecidableEq E] [StableNames E] (name : Text) (value : E) :
    parseName name = some value ↔ HasName value ∧ nameOf value = name :=
  NameTable.reverse_eq_some_iff StableNames.sound _

/-! ## The tables -/

/-- How an observation or an artifact came about. -/
inductive Provenance where
  | real | synthetic | unsupported
  deriving DecidableEq

instance : StableNames TrialState where
  table := ⟨[(.created, "CREATED"), (.ready, "READY"), (.assigned, "ASSIGNED"),
    (.running, "RUNNING"), (.observing, "OBSERVING"), (.completed, "COMPLETED"),
    (.failed, "FAILED"), (.cancelled, "CANCELLED"), (.invalid, "INVALID"),
    (.superseded, "SUPERSEDED"), (.revalidationRequired, "REVALIDATION_REQUIRED")]⟩
  unknown := "UNKNOWN"
  sound := by decide

instance : StableNames ExperimentState where
  table := ⟨[(.opened, "OPEN"), (.finalized, "FINALIZED"), (.cancelled, "CANCELLED"),
    (.superseded, "SUPERSEDED"), (.recovering, "RECOVERING")]⟩
  unknown := "UNKNOWN"
  sound := by decide

instance : StableNames BranchState where
  table := ⟨[(.active, "ACTIVE"), (.retired, "RETIRED"), (.invalid, "INVALID"),
    (.superseded, "SUPERSEDED")]⟩
  unknown := "UNKNOWN"
  sound := by decide

instance : StableNames AttemptState where
  table := ⟨[(.issued, "ISSUED"), (.running, "RUNNING"), (.published, "PUBLISHED"),
    (.completed, "COMPLETED"), (.failed, "FAILED"), (.cancelled, "CANCELLED"),
    (.abandoned, "ABANDONED"), (.revalidationRequired, "REVALIDATION_REQUIRED")]⟩
  unknown := "UNKNOWN"
  sound := by decide

instance : StableNames BranchRole where
  table := ⟨[(.baseline, "BASELINE"), (.candidate, "CANDIDATE")]⟩
  unknown := "UNKNOWN"
  sound := by decide

instance : StableNames MetricKind where
  table := ⟨[(.real, "REAL"), (.integer, "INTEGER"), (.boolean, "BOOLEAN"),
    (.categorical, "CATEGORICAL")]⟩
  unknown := "UNKNOWN"
  sound := by decide

instance : StableNames MetricDirection where
  table := ⟨[(.minimize, "MINIMIZE"), (.maximize, "MAXIMIZE"), (.target, "TARGET"),
    (.informational, "INFORMATIONAL")]⟩
  unknown := "UNKNOWN"
  sound := by decide

instance : StableNames AggregationRule where
  table := ⟨[(.none, "NONE"), (.mean, "MEAN"), (.median, "MEDIAN"), (.min, "MIN"), (.max, "MAX"),
    (.sum, "SUM"), (.majority, "MAJORITY")]⟩
  unknown := "UNKNOWN"
  sound := by decide

instance : StableNames ObservationValidity where
  table := ⟨[(.valid, "VALID"), (.invalid, "INVALID"), (.missing, "MISSING"),
    (.unsupported, "UNSUPPORTED")]⟩
  unknown := "UNKNOWN"
  sound := by decide

instance : StableNames ComparisonOp where
  table := ⟨[(.greaterThan, "GREATER_THAN"), (.lessThan, "LESS_THAN"),
    (.minImprovement, "MIN_IMPROVEMENT"), (.maxRegressionTolerance, "MAX_REGRESSION_TOLERANCE"),
    (.targetRange, "TARGET_RANGE"), (.majorityWins, "MAJORITY_WINS"),
    (.reportOnly, "REPORT_ONLY")]⟩
  unknown := "UNKNOWN"
  sound := by decide

instance : StableNames DecisionOutcome where
  table := ⟨[(.accept, "ACCEPT"), (.reject, "REJECT"), (.inconclusive, "INCONCLUSIVE"),
    (.insufficientEvidence, "INSUFFICIENT_EVIDENCE"), (.invalid, "INVALID"),
    (.cancelled, "CANCELLED"), (.superseded, "SUPERSEDED")]⟩
  unknown := "UNKNOWN"
  sound := by decide

instance : StableNames FailureKind where
  table := ⟨[(.none, "NONE"), (.executionFailure, "EXECUTION_FAILURE"),
    (.invalidObservation, "INVALID_OBSERVATION"), (.producerLoss, "PRODUCER_LOSS"),
    (.transportFailure, "TRANSPORT_FAILURE"), (.cancellation, "CANCELLATION"),
    (.policyRejection, "POLICY_REJECTION"), (.insufficientEvidence, "INSUFFICIENT_EVIDENCE"),
    (.persistenceFailure, "PERSISTENCE_FAILURE"),
    (.experimentInvalidation, "EXPERIMENT_INVALIDATION"), (.limitExceeded, "LIMIT_EXCEEDED")]⟩
  unknown := "UNKNOWN"
  sound := by decide

instance : StableNames ReproducibilityStatus where
  table := ⟨[(.reproducible, "REPRODUCIBLE"),
    (.partiallyReproducible, "PARTIALLY_REPRODUCIBLE"), (.notReproducible, "NOT_REPRODUCIBLE"),
    (.unknown, "UNKNOWN")]⟩
  unknown := "UNKNOWN"
  sound := by decide

instance : StableNames SeedPolicy where
  table := ⟨[(.fixed, "FIXED"), (.derivedPerTrial, "DERIVED_PER_TRIAL"),
    (.producerSupplied, "PRODUCER_SUPPLIED"), (.none, "NONE")]⟩
  unknown := "UNKNOWN"
  sound := by decide

instance : StableNames RetryPolicy where
  table := ⟨[(.freshAttemptSameTrial, "FRESH_ATTEMPT_SAME_TRIAL"),
    (.newTrialIdentity, "NEW_TRIAL_IDENTITY"), (.noRetry, "NO_RETRY")]⟩
  unknown := "UNKNOWN"
  sound := by decide

instance : StableNames PartialFailurePolicy where
  table := ⟨[(.tolerateIfEvidenceSufficient, "TOLERATE_IF_EVIDENCE_SUFFICIENT"),
    (.invalidateBranch, "INVALIDATE_BRANCH"), (.retryAllowed, "RETRY_ALLOWED")]⟩
  unknown := "UNKNOWN"
  sound := by decide

instance : StableNames LateEvidencePolicy where
  table := ⟨[(.rejectAndRecord, "REJECT_AND_RECORD"), (.retainHistorical, "RETAIN_HISTORICAL")]⟩
  unknown := "UNKNOWN"
  sound := by decide

instance : StableNames Provenance where
  table := ⟨[(.real, "REAL"), (.synthetic, "SYNTHETIC"), (.unsupported, "UNSUPPORTED")]⟩
  unknown := "UNKNOWN"
  sound := by decide

instance : StableNames ParameterKind where
  table := ⟨[(.text, "TEXT"), (.integer, "INTEGER"), (.real, "REAL"), (.boolean, "BOOLEAN")]⟩
  unknown := "UNKNOWN"
  sound := by decide

instance : StableNames ErrorCode where
  table := ⟨[(.ok, "OK"), (.invalidArgument, "INVALID_ARGUMENT"), (.notFound, "NOT_FOUND"),
    (.alreadyExists, "ALREADY_EXISTS"), (.staleEpoch, "STALE_EPOCH"),
    (.staleWorker, "STALE_WORKER"), (.staleGeneration, "STALE_GENERATION"),
    (.staleHypothesis, "STALE_HYPOTHESIS"), (.staleBranch, "STALE_BRANCH"),
    (.staleAttempt, "STALE_ATTEMPT"), (.unauthorized, "UNAUTHORIZED"),
    (.invalidTransition, "INVALID_TRANSITION"), (.cancelled, "CANCELLED"),
    (.insufficientEvidence, "INSUFFICIENT_EVIDENCE"),
    (.invalidObservation, "INVALID_OBSERVATION"), (.corruptPersistence, "CORRUPT_PERSISTENCE"),
    (.protocolError, "PROTOCOL_ERROR"), (.resourceExhausted, "RESOURCE_EXHAUSTED"),
    (.unsupported, "UNSUPPORTED"), (.persistenceFailure, "PERSISTENCE_FAILURE"),
    (.transportFailure, "TRANSPORT_FAILURE"), (.shuttingDown, "SHUTTING_DOWN"),
    (.internal, "INTERNAL")]⟩
  unknown := "UNKNOWN_ERROR"
  sound := by decide

instance : StableNames ErrorStage where
  table := ⟨[(.none, "NONE"), (.validation, "VALIDATION"), (.identity, "IDENTITY"),
    (.definition, "DEFINITION"), (.authority, "AUTHORITY"), (.lifecycle, "LIFECYCLE"),
    (.observation, "OBSERVATION"), (.comparison, "COMPARISON"), (.decision, "DECISION"),
    (.persistence, "PERSISTENCE"), (.transport, "TRANSPORT"), (.recovery, "RECOVERY"),
    (.shutdown, "SHUTDOWN"), (.limits, "LIMITS")]⟩
  unknown := "UNKNOWN_STAGE"
  sound := by decide

instance : StableNames Protocol.MessageType where
  table := ⟨[(.invalid, "INVALID"), (.hello, "HELLO"), (.helloAck, "HELLO_ACK"),
    (.registerWorker, "REGISTER_WORKER"), (.registerAck, "REGISTER_ACK"),
    (.claimTrial, "CLAIM_TRIAL"), (.claimResult, "CLAIM_RESULT"),
    (.publishObservation, "PUBLISH_OBSERVATION"), (.publishArtifact, "PUBLISH_ARTIFACT"),
    (.commitTrial, "COMMIT_TRIAL"), (.failTrial, "FAIL_TRIAL"), (.heartbeat, "HEARTBEAT"),
    (.ack, "ACK"), (.createExperiment, "CREATE_EXPERIMENT"), (.createTrial, "CREATE_TRIAL"),
    (.cancelTrial, "CANCEL_TRIAL"), (.cancelExperiment, "CANCEL_EXPERIMENT"),
    (.finalizeExperiment, "FINALIZE_EXPERIMENT"), (.rollback, "ROLLBACK"), (.query, "QUERY"),
    (.queryResult, "QUERY_RESULT"), (.shutdown, "SHUTDOWN"), (.errorReply, "ERROR_REPLY"),
    (.forkBranch, "FORK_BRANCH"), (.createHypothesis, "CREATE_HYPOTHESIS"),
    (.reviseHypothesis, "REVISE_HYPOTHESIS")]⟩
  unknown := "UNKNOWN"
  sound := by decide

/-! ## Printed states -/

/-- The states that messages quote are printed by their tables. -/
theorem toText_eq_nameOf :
    (∀ state : TrialState, state.toText = nameOf state) ∧
    (∀ state : ExperimentState, state.toText = nameOf state) ∧
    (∀ state : BranchState, state.toText = nameOf state) ∧
    (∀ state : AttemptState, state.toText = nameOf state) ∧
    (∀ outcome : DecisionOutcome, outcome.toText = nameOf outcome) ∧
    (∀ kind : FailureKind, kind.toText = nameOf kind) ∧
    ∀ role : BranchRole, role.toText = nameOf role := by
  refine ⟨?_, ?_, ?_, ?_, ?_, ?_, ?_⟩ <;> intro value <;> cases value <;> rfl

/-! ## Statuses -/

namespace Status

/-- The failure is a rejection by authority fencing. -/
def isStale (status : Status) : Bool :=
  status.code ∈ [ErrorCode.staleEpoch, .staleWorker, .staleGeneration, .staleHypothesis,
    .staleBranch, .staleAttempt, .unauthorized]

/-- One line that describes a status. -/
def toText (status : Status) : Text :=
  nameOf status.code ++ text " stage=" ++ nameOf status.stage ++
    if status.reason = [] then [] else text " reason=" ++ status.reason

end Status

end ExperimentFabric
