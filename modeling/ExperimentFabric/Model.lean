import ExperimentFabric.Domain

/-!
# The governed experiment object model

Hypotheses, metrics, policies, branches, trials, attempts, observations, artifacts and decisions,
with the fields of the runtime.  Metric values are generic in the type `R` of reals: the runtime
computes in IEEE double precision, and `MetricReal` names exactly the operations it applies.
-/

namespace ExperimentFabric

/-- Real arithmetic as the runtime uses it.  No law is assumed: comparisons are the Boolean
comparisons of the platform, so a value may differ from itself. -/
class MetricReal (R : Type) where
  /-- Conversion of an integer. -/
  ofInt : Int → R
  /-- Addition. -/
  add : R → R → R
  /-- Subtraction. -/
  sub : R → R → R
  /-- Multiplication. -/
  mul : R → R → R
  /-- Division. -/
  div : R → R → R
  /-- Negation. -/
  neg : R → R
  /-- Absolute value. -/
  fabs : R → R
  /-- The comparison `<`. -/
  lt : R → R → Bool
  /-- The comparison `<=`. -/
  le : R → R → Bool
  /-- The comparison `==`. -/
  eq : R → R → Bool
  /-- Neither infinite nor NaN. -/
  isFinite : R → Bool
  /-- The literal `1e-12`. -/
  tiny : R
  /-- Decimal rendering. -/
  toText : R → Text

/-- A SHA-256 digest. -/
abbrev Digest := List UInt8

/-- A canonical key/value parameter assignment. -/
structure ParameterAssignment where
  /-- Parameter key. -/
  key : Text
  /-- Kind of the value. -/
  kind : ParameterKind := .text
  /-- Canonical text form of the value. -/
  value : Text
  deriving DecidableEq

/-- An explicit, revisioned hypothesis. -/
structure Hypothesis where
  id : HypothesisId := .null
  revision : HypothesisRevision := .null
  statement : Text := []
  expectedDirection : Option MetricDirection := none
  expectedMetric : MetricId := .null
  parent : HypothesisId := .null
  parentRevision : HypothesisRevision := .null
  superseded : Bool := false
  supersededByRevision : HypothesisRevision := .null
  provenance : Text := []
  createdSequence : Nat := 0
  deriving DecidableEq

/-- Typed metric definition. -/
structure MetricDefinition (R : Type) where
  id : MetricId := .null
  name : Text := []
  unit : Text := []
  kind : MetricKind := .real
  direction : MetricDirection := .minimize
  aggregation : AggregationRule := .mean
  required : Bool := true
  acceptsNonFinite : Bool := false
  lowerBound : Option R := none
  upperBound : Option R := none
  targetLow : Option R := none
  targetHigh : Option R := none
  weight : Nat := 1
  priority : Nat := 0
  categories : List Text := []
  deriving DecidableEq

/-- A typed metric value; `kind` selects the meaningful member. -/
structure MetricValue (R : Type) where
  kind : MetricKind := .real
  real : R
  integer : Int := 0
  boolean : Bool := false
  category : Text := []
  deriving DecidableEq

/-- One deterministic comparison rule. -/
structure ComparisonRule (R : Type) where
  metric : MetricId
  op : ComparisonOp := .minImprovement
  threshold : R
  targetLow : R
  targetHigh : R
  priority : Nat := 0
  deriving DecidableEq

/-- Deterministic comparison policy. -/
structure ComparisonPolicy (R : Type) where
  id : PolicyId := .null
  generation : PolicyGeneration := .null
  requireBaseline : Bool := true
  minCompletedTrialsPerBranch : Nat := 1
  minValidObservationsPerRequiredMetric : Nat := 1
  rejectOnAnyInvalidObservation : Bool := false
  requireEnvironmentMatch : Bool := true
  majorityWinsMinBasisPoints : Nat := 5000
  useWeightedScore : Bool := false
  acceptScoreThreshold : R
  rules : List (ComparisonRule R) := []
  deriving DecidableEq

/-- One branch inside an experiment generation. -/
structure BranchDefinition where
  id : BranchId := .null
  name : Text := []
  role : BranchRole := .candidate
  parent : BranchId := .null
  generation : BranchGeneration := .null
  state : BranchState := .active
  parameters : List ParameterAssignment := []
  inputSet : InputSetId := .null
  inputSetPresent : Bool := false
  environment : EnvironmentId := .null
  environmentPresent : Bool := false
  environmentFingerprint : Text := []
  seed : Option UInt64 := none
  plannedTrials : Nat := 1
  createdSequence : Nat := 0
  /-- Set when this branch was created by forking another branch. -/
  forked : Bool := false
  deriving DecidableEq

/-- The canonical experiment definition for one generation. -/
structure ExperimentDefinition (R : Type) where
  id : ExperimentId := .null
  generation : ExperimentGeneration := .null
  hypothesis : HypothesisId := .null
  hypothesisRevision : HypothesisRevision := .null
  name : Text := []
  branches : List BranchDefinition := []
  metrics : List (MetricDefinition R) := []
  policy : ComparisonPolicy R
  seedPolicy : SeedPolicy := .derivedPerTrial
  experimentSeed : Option UInt64 := none
  retryPolicy : RetryPolicy := .freshAttemptSameTrial
  maxAttemptsPerTrial : Nat := 2
  partialFailurePolicy : PartialFailurePolicy := .tolerateIfEvidenceSufficient
  lateEvidencePolicy : LateEvidencePolicy := .rejectAndRecord
  parameters : List ParameterAssignment := []
  provenance : Text := []
  createdSequence : Nat := 0
  deriving DecidableEq

/-- A logical trial.  Exactly one attempt may commit its authoritative result. -/
structure TrialRecord where
  id : TrialId := .null
  experiment : ExperimentId := .null
  generation : ExperimentGeneration := .null
  branch : BranchId := .null
  branchGeneration : BranchGeneration := .null
  hypothesis : HypothesisId := .null
  hypothesisRevision : HypothesisRevision := .null
  policy : PolicyId := .null
  policyGeneration : PolicyGeneration := .null
  state : TrialState := .created
  authoritativeAttempt : TrialAttemptId := .null
  nextAttemptNumber : TrialAttemptNumber := ⟨1⟩
  attemptCount : Nat := 0
  committedAttempts : Nat := 0
  failureKind : FailureKind := .none
  failureDetail : Text := []
  seed : Option UInt64 := none
  inputSet : InputSetId := .null
  inputSetPresent : Bool := false
  environment : EnvironmentId := .null
  environmentPresent : Bool := false
  environmentFingerprint : Text := []
  artifacts : List ArtifactId := []
  payload : Text := []
  createdSequence : Nat := 0
  updatedSequence : Nat := 0
  deriving DecidableEq

/-- One execution attempt of a logical trial. -/
structure AttemptRecord where
  id : TrialAttemptId := .null
  number : TrialAttemptNumber := .null
  trial : TrialId := .null
  experiment : ExperimentId := .null
  generation : ExperimentGeneration := .null
  branch : BranchId := .null
  branchGeneration : BranchGeneration := .null
  worker : WorkerId := .null
  boot : WorkerBootId := .null
  epoch : CoordinatorEpoch := .null
  producer : ProducerId := .null
  state : AttemptState := .issued
  failureKind : FailureKind := .none
  failureDetail : Text := []
  committed : Bool := false
  issuedSequence : Nat := 0
  updatedSequence : Nat := 0
  deriving DecidableEq

/-- One metric observation emitted by one attempt. -/
structure Observation (R : Type) where
  id : ObservationId
  experiment : ExperimentId
  generation : ExperimentGeneration
  branch : BranchId
  branchGeneration : BranchGeneration
  trial : TrialId
  attempt : TrialAttemptId
  metric : MetricId
  producer : ProducerId
  worker : WorkerId
  boot : WorkerBootId
  epoch : CoordinatorEpoch
  validity : ObservationValidity := .valid
  value : MetricValue R
  detail : Text := []
  sequence : Nat := 0
  deriving DecidableEq

/-- A bounded artifact reference produced by a trial attempt. -/
structure ArtifactRecord where
  id : ArtifactId := .null
  experiment : ExperimentId := .null
  generation : ExperimentGeneration := .null
  branch : BranchId := .null
  trial : TrialId := .null
  attempt : TrialAttemptId := .null
  category : Text := []
  locator : Text := []
  contentDigest : Digest := []
  digestPresent : Bool := false
  sizePresent : Bool := false
  sizeBytes : Nat := 0
  provenance : Text := []
  /-- False once the producing generation has been superseded. -/
  current : Bool := true
  sequence : Nat := 0
  deriving DecidableEq

/-- Deterministic aggregate of one metric over one branch. -/
structure MetricAggregate (R : Type) where
  metric : MetricId
  rule : AggregationRule
  present : Bool := false
  value : R
  category : Text := []
  validCount : Nat := 0
  invalidCount : Nat := 0
  missingCount : Nat := 0
  unsupportedCount : Nat := 0
  /-- Trial-level raw values used to build the aggregate. -/
  rawValues : List R := []
  /-- Trials in the order of the comparison. -/
  trialOrder : List Text := []
  deriving DecidableEq

/-- Per-branch evidence computed from current authoritative state. -/
structure BranchEvidence (R : Type) where
  branch : BranchId
  generation : BranchGeneration
  role : BranchRole
  state : BranchState
  plannedTrials : Nat
  completedTrials : Nat
  failedTrials : Nat
  cancelledTrials : Nat
  invalidTrials : Nat
  supersededTrials : Nat
  openTrials : Nat
  aggregates : List (MetricAggregate R)
  deriving DecidableEq

/-- One rejected piece of evidence, retained for auditability. -/
structure RejectedEvidence where
  /-- Either `observation` or `artifact`. -/
  kind : Text
  identifier : Nat
  reason : ErrorCode
  detail : Text
  deriving DecidableEq

/-- One deterministic comparison factor. -/
structure ComparisonFactor (R : Type) where
  metric : MetricId
  op : ComparisonOp
  priority : Nat := 0
  threshold : R
  hasValues : Bool := false
  baselineValue : R
  candidateValue : R
  delta : R
  satisfied : Bool := false
  decisive : Bool := false
  detail : Text := []
  deriving DecidableEq

/-- Result of applying one hard evidence constraint. -/
structure ConstraintResult where
  name : Text
  passed : Bool
  detail : Text
  deriving DecidableEq

/-- An authoritative governed decision. -/
structure Decision (R : Type) where
  id : DecisionId
  experiment : ExperimentId
  generation : ExperimentGeneration
  hypothesis : HypothesisId
  hypothesisRevision : HypothesisRevision
  policy : PolicyId
  policyGeneration : PolicyGeneration
  comparedBranches : List BranchId := []
  baseline : BranchId := .null
  baselinePresent : Bool := false
  candidate : BranchId
  outcome : DecisionOutcome := .insufficientEvidence
  reasonKind : FailureKind := .insufficientEvidence
  reason : Text := []
  constraints : List ConstraintResult := []
  factors : List (ComparisonFactor R) := []
  evidence : List (BranchEvidence R) := []
  rejectedEvidence : List RejectedEvidence := []
  tieBreakRule : Text := []
  tied : Bool := false
  canonicalStateDigest : Digest := []
  sequence : Nat
  deriving DecidableEq

/-- Authority of one branch at the moment a rollback point was recorded. -/
structure BranchAuthoritySnapshot where
  branch : BranchId
  generation : BranchGeneration
  state : BranchState
  deriving DecidableEq

/-- A restorable authoritative historical point. -/
structure RollbackPoint where
  id : RollbackPointId
  experiment : ExperimentId
  generation : ExperimentGeneration
  /-- The generation a rollback left; null for points recorded by finalization. -/
  restoredFrom : ExperimentGeneration := .null
  decision : DecisionId := .null
  decisionPresent : Bool := false
  stateDigest : Digest
  authority : List BranchAuthoritySnapshot
  sequence : Nat
  deriving DecidableEq

/-! ## Bounds -/

/-- Hard bounds enforced by the runtime. -/
structure Limits where
  maxExperiments : Nat := 4096
  maxBranchesPerExperiment : Nat := 256
  maxMetricsPerExperiment : Nat := 128
  maxTrialsPerBranch : Nat := 4096
  maxAttemptsPerTrial : Nat := 8
  maxObservationsPerTrial : Nat := 1024
  maxArtifactsPerAttempt : Nat := 256
  maxObservationsPerExperiment : Nat := 2 ^ 20
  maxArtifactsPerExperiment : Nat := 2 ^ 16
  maxDecisionsPerExperiment : Nat := 1024
  maxParametersPerBranch : Nat := 256
  maxComparisonRules : Nat := 256
  maxLineageDepth : Nat := 1024
  maxNameLength : Nat := 128
  maxUnitLength : Nat := 32
  maxStatementLength : Nat := 4096
  maxPayloadTextLength : Nat := 4096
  maxLocatorLength : Nat := 1024
  maxProvenanceLength : Nat := 1024
  maxExplanationLines : Nat := 4096
  maxExplanationBytes : Nat := 2 ^ 20
  maxStateFileBytes : Nat := 2 ^ 30
  maxPersistedRecords : Nat := 2 ^ 22
  maxPersistedStringBytes : Nat := 2 ^ 20
  maxFramePayloadBytes : Nat := 2 ^ 20
  maxBatchItems : Nat := 4096
  maxRegisteredWorkers : Nat := 256
  maxConcurrentAssignmentsPerWorker : Nat := 64
  deriving DecidableEq

/-- The process-wide default limits. -/
def Limits.defaults : Limits := {}

/-- Internal coherence of a limits instance. -/
def Limits.isCoherent (limits : Limits) : Bool :=
  limits.maxExperiments ≠ 0 && limits.maxBranchesPerExperiment ≠ 0 &&
  limits.maxMetricsPerExperiment ≠ 0 && limits.maxTrialsPerBranch ≠ 0 &&
  limits.maxAttemptsPerTrial ≠ 0 && limits.maxObservationsPerTrial ≠ 0 &&
  limits.maxFramePayloadBytes ≥ 64 &&
  limits.maxNameLength ≠ 0 && limits.maxNameLength ≤ 2 ^ 20 &&
  limits.maxExplanationLines ≠ 0 && limits.maxExplanationBytes ≠ 0 &&
  limits.maxStateFileBytes ≠ 0 && limits.maxPersistedRecords ≠ 0 &&
  limits.maxLineageDepth ≠ 0 && limits.maxLineageDepth ≤ 2 ^ 20 &&
  limits.maxComparisonRules ≠ 0 && limits.maxComparisonRules ≤ 2 ^ 16

/-! ## Parameters and finite values -/

variable {R : Type} [MetricReal R]

/-- Canonical ordering for parameter lists. -/
def parameterLess (left right : ParameterAssignment) : Bool :=
  if left.key ≠ right.key then left.key < right.key
  else if left.kind ≠ right.kind then left.kind.number < right.kind.number
  else left.value < right.value

/-- Some key occurs twice. -/
def hasDuplicateParameterKey (parameters : List ParameterAssignment) : Bool :=
  ¬ (parameters.map ParameterAssignment.key).Nodup

/-- Parameters in canonical order; the sort is stable. -/
def normalizeParameters (parameters : List ParameterAssignment) : List ParameterAssignment :=
  parameters.mergeSort fun left right => !parameterLess right left

/-- Drop inherited assignments of the same key, then append the assignment. -/
def overrideParameter (inherited : List ParameterAssignment) (assignment : ParameterAssignment) :
    List ParameterAssignment :=
  inherited.filter (·.key ≠ assignment.key) ++ [assignment]

/-- A value that is neither infinite nor NaN. -/
def isFiniteValue (value : MetricValue R) : Bool :=
  match value.kind with
  | .real => MetricReal.isFinite value.real
  | .integer | .boolean | .categorical => true

/-! ## Hashes and seeds -/

/-- The 64-bit FNV-1a hash. -/
def fnv1a64 (bytes : Text) : UInt64 :=
  bytes.foldl (fun value byte => (value ^^^ byte.toUInt64) * 0x100000001B3) 0xCBF29CE484222325

/-- First output of the deterministic generator constructed from `seed`. -/
def nextU64 (seed : UInt64) : UInt64 :=
  let state := (seed ^^^ 0x9E3779B97F4A7C15) + 0x9E3779B97F4A7C15
  let first := (state ^^^ (state >>> 30)) * 0xBF58476D1CE4E5B9
  let second := (first ^^^ (first >>> 27)) * 0x94D049BB133111EB
  second ^^^ (second >>> 31)

/-- Deterministically derives a per-trial seed. -/
def deriveTrialSeed (experimentSeed ordinal : UInt64) : UInt64 :=
  nextU64 (experimentSeed ^^^ (ordinal * 0x9E3779B97F4A7C15))

/-- Canonical digests of definitions and evidence.  Their byte encodings are those of the canonical
encoder; the governance core only stores the results. -/
class CanonicalDigests (R : Type) where
  /-- Digest of an experiment definition. -/
  definitionDigest : ExperimentDefinition R → Digest
  /-- Digest of the evidence of a decision. -/
  evidenceDigest : List (BranchEvidence R) → ExperimentDefinition R → Digest

end ExperimentFabric
