import ExperimentFabric.Identity

/-!
# Domain enumerations and lifecycles

The enumerations of the governed object model, the lifecycle predicates that every operation
consults, and the transition tables of trials, attempts, experiments and branches.
-/

namespace ExperimentFabric

/-- Kind of a canonical parameter value, in the order of its stable numbers. -/
inductive ParameterKind where
  | text | integer | real | boolean
  deriving DecidableEq, Repr

/-- Stable number of a parameter kind. -/
def ParameterKind.number : ParameterKind → Nat
  | .text => 0
  | .integer => 1
  | .real => 2
  | .boolean => 3

/-- Lifecycle of a logical trial. -/
inductive TrialState where
  | created | ready | assigned | running | observing
  | completed | failed | cancelled | invalid | superseded
  | revalidationRequired
  deriving DecidableEq, Repr

/-- Lifecycle of a persisted experiment. -/
inductive ExperimentState where
  | opened | finalized | cancelled | superseded | recovering
  deriving DecidableEq, Repr

/-- Lifecycle of a branch. -/
inductive BranchState where
  | active | retired | invalid | superseded
  deriving DecidableEq, Repr

/-- Role of a branch inside one experiment generation. -/
inductive BranchRole where
  | baseline | candidate
  deriving DecidableEq, Repr

/-- Whether an attempt is still able to commit authoritative evidence. -/
inductive AttemptState where
  | issued | running | published | completed | failed | cancelled | abandoned
  | revalidationRequired
  deriving DecidableEq, Repr

/-- Storage form of a metric value. -/
inductive MetricKind where
  | real | integer | boolean | categorical
  deriving DecidableEq, Repr

/-- Which direction is better for a metric. -/
inductive MetricDirection where
  | minimize | maximize | target | informational
  deriving DecidableEq, Repr

/-- How raw trial observations become branch evidence. -/
inductive AggregationRule where
  | none | mean | median | min | max | sum | majority
  deriving DecidableEq, Repr

/-- Validity of a single observation. -/
inductive ObservationValidity where
  | valid | invalid | missing | unsupported
  deriving DecidableEq, Repr

/-- One deterministic comparison primitive. -/
inductive ComparisonOp where
  | greaterThan | lessThan | minImprovement | maxRegressionTolerance | targetRange | majorityWins
  | reportOnly
  deriving DecidableEq, Repr

/-- Outcome of a governed comparison. -/
inductive DecisionOutcome where
  | accept | reject | inconclusive | insufficientEvidence | invalid | cancelled | superseded
  deriving DecidableEq, Repr

/-- Why an attempt or trial did not produce usable evidence. -/
inductive FailureKind where
  | none | executionFailure | invalidObservation | producerLoss | transportFailure | cancellation
  | policyRejection | insufficientEvidence | persistenceFailure | experimentInvalidation
  | limitExceeded
  deriving DecidableEq, Repr

/-- Seed policy for trial parameter generation. -/
inductive SeedPolicy where
  | fixed | derivedPerTrial | producerSupplied | none
  deriving DecidableEq, Repr

/-- How a retry relates to the logical trial identity. -/
inductive RetryPolicy where
  | freshAttemptSameTrial | newTrialIdentity | noRetry
  deriving DecidableEq, Repr

/-- What happens to the experiment when a trial fails. -/
inductive PartialFailurePolicy where
  | tolerateIfEvidenceSufficient | invalidateBranch | retryAllowed
  deriving DecidableEq, Repr

/-- What happens to evidence that arrives after its authority ended. -/
inductive LateEvidencePolicy where
  | rejectAndRecord | retainHistorical
  deriving DecidableEq, Repr

/-! ## Lifecycle predicates -/

/-- No attempt can advance the trial any further. -/
def isTerminal : TrialState → Bool
  | .completed | .failed | .cancelled | .invalid | .superseded => true
  | .created | .ready | .assigned | .running | .observing | .revalidationRequired => false

/-- The experiment accepts new authoritative mutation. -/
def isExperimentMutable (state : ExperimentState) : Bool := state = .opened

/-- The attempt can no longer publish authoritative evidence. -/
def isAttemptTerminal : AttemptState → Bool
  | .completed | .failed | .cancelled | .abandoned => true
  | .issued | .running | .published | .revalidationRequired => false

/-- The branch may receive authoritative new trial evidence. -/
def isBranchEligible (state : BranchState) : Bool := state = .active

/-! ## Transition tables -/

/-- Trial lifecycle transitions. -/
def TrialState.isValidTransition (source target : TrialState) : Bool :=
  if source = target then false
  else if isTerminal source then target = .superseded && source ≠ .superseded
  else match source with
    | .created =>
        target ∈ [.ready, .cancelled, .invalid, .superseded, .revalidationRequired]
    | .ready =>
        target ∈ [.assigned, .cancelled, .invalid, .superseded, .revalidationRequired]
    | .assigned =>
        target ∈ [.running, .observing, .ready, .failed, .cancelled, .invalid, .superseded,
          .revalidationRequired]
    | .running =>
        target ∈ [.observing, .failed, .cancelled, .invalid, .superseded, .revalidationRequired]
    | .observing =>
        target ∈ [.completed, .failed, .cancelled, .invalid, .superseded, .revalidationRequired]
    | .revalidationRequired => target ∈ [.ready, .failed, .cancelled, .invalid, .superseded]
    | _ => false

/-- Attempt lifecycle transitions. -/
def AttemptState.isValidTransition (source target : AttemptState) : Bool :=
  if source = target then false
  else if isAttemptTerminal source then false
  else match source with
    | .issued =>
        target ∈ [.running, .published, .completed, .failed, .cancelled, .abandoned,
          .revalidationRequired]
    | .running =>
        target ∈ [.published, .completed, .failed, .cancelled, .abandoned, .revalidationRequired]
    | .published => target ∈ [.completed, .failed, .cancelled, .abandoned, .revalidationRequired]
    | .revalidationRequired => target ∈ [.failed, .cancelled, .abandoned]
    | _ => false

/-- Experiment lifecycle transitions. -/
def ExperimentState.isValidTransition (source target : ExperimentState) : Bool :=
  if source = target then false
  else match source with
    | .opened => target ∈ [.finalized, .cancelled, .superseded, .recovering]
    | .recovering => target ∈ [.opened, .cancelled, .superseded]
    | .finalized | .cancelled | .superseded => target = .superseded && source ≠ .superseded

/-- Branch lifecycle transitions. -/
def BranchState.isValidTransition (source target : BranchState) : Bool :=
  if source = target then false
  else match source with
    | .active => target ∈ [.retired, .invalid, .superseded]
    | .retired => target ∈ [.active, .superseded]
    | .invalid => target = .superseded
    | .superseded => false

/-! ## Stable names -/

/-- Stable name of a trial state. -/
def TrialState.toText : TrialState → Text
  | .created => "CREATED"
  | .ready => "READY"
  | .assigned => "ASSIGNED"
  | .running => "RUNNING"
  | .observing => "OBSERVING"
  | .completed => "COMPLETED"
  | .failed => "FAILED"
  | .cancelled => "CANCELLED"
  | .invalid => "INVALID"
  | .superseded => "SUPERSEDED"
  | .revalidationRequired => "REVALIDATION_REQUIRED"

/-- Stable name of an experiment state. -/
def ExperimentState.toText : ExperimentState → Text
  | .opened => "OPEN"
  | .finalized => "FINALIZED"
  | .cancelled => "CANCELLED"
  | .superseded => "SUPERSEDED"
  | .recovering => "RECOVERING"

/-- Stable name of a branch state. -/
def BranchState.toText : BranchState → Text
  | .active => "ACTIVE"
  | .retired => "RETIRED"
  | .invalid => "INVALID"
  | .superseded => "SUPERSEDED"

/-- Stable name of an attempt state. -/
def AttemptState.toText : AttemptState → Text
  | .issued => "ISSUED"
  | .running => "RUNNING"
  | .published => "PUBLISHED"
  | .completed => "COMPLETED"
  | .failed => "FAILED"
  | .cancelled => "CANCELLED"
  | .abandoned => "ABANDONED"
  | .revalidationRequired => "REVALIDATION_REQUIRED"

/-- Stable name of a decision outcome. -/
def DecisionOutcome.toText : DecisionOutcome → Text
  | .accept => "ACCEPT"
  | .reject => "REJECT"
  | .inconclusive => "INCONCLUSIVE"
  | .insufficientEvidence => "INSUFFICIENT_EVIDENCE"
  | .invalid => "INVALID"
  | .cancelled => "CANCELLED"
  | .superseded => "SUPERSEDED"

/-- Stable name of a failure kind. -/
def FailureKind.toText : FailureKind → Text
  | .none => "NONE"
  | .executionFailure => "EXECUTION_FAILURE"
  | .invalidObservation => "INVALID_OBSERVATION"
  | .producerLoss => "PRODUCER_LOSS"
  | .transportFailure => "TRANSPORT_FAILURE"
  | .cancellation => "CANCELLATION"
  | .policyRejection => "POLICY_REJECTION"
  | .insufficientEvidence => "INSUFFICIENT_EVIDENCE"
  | .persistenceFailure => "PERSISTENCE_FAILURE"
  | .experimentInvalidation => "EXPERIMENT_INVALIDATION"
  | .limitExceeded => "LIMIT_EXCEEDED"

/-! ## Typed failures -/

/-- Error codes.  The enumeration is a byte, and a byte read back without a range check may lie
beyond the named codes: `unnamed` holds how far. -/
inductive ErrorCode where
  | ok | invalidArgument | notFound | alreadyExists | staleEpoch | staleWorker | staleGeneration
  | staleHypothesis | staleBranch | staleAttempt | unauthorized | invalidTransition | cancelled
  | insufficientEvidence | invalidObservation | corruptPersistence | protocolError
  | resourceExhausted | unsupported | persistenceFailure | transportFailure | shuttingDown
  | internal
  | unnamed (beyond : Fin 233)
  deriving DecidableEq, Repr

/-- Pipeline stage at which an error was produced. -/
inductive ErrorStage where
  | none | validation | identity | definition | authority | lifecycle | observation | comparison
  | decision | persistence | transport | recovery | shutdown | limits
  deriving DecidableEq, Repr

/-- A typed failure with stage and reason.  Success is `Except.ok`. -/
structure Status where
  /-- Error code. -/
  code : ErrorCode
  /-- Stage at which the error was produced. -/
  stage : ErrorStage
  /-- Human readable reason. -/
  reason : Text
  deriving DecidableEq

/-- A value or a typed failure. -/
abbrev Result (α : Type) := Except Status α

/-- The status describing an invalid transition. -/
def invalidTransitionStatus (what source target : Text) : Status :=
  ⟨.invalidTransition, .lifecycle,
    what ++ text ": invalid transition " ++ source ++ text " -> " ++ target⟩

end ExperimentFabric
