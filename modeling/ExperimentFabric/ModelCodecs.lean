import ExperimentFabric.Payload
import ExperimentFabric.Authority

/-!
# Codecs of the object model

Persistence and transport share these writers and readers, so a decoded object is the same on both
paths.  Each record has its writer and its reader in the order of the runtime, the bounds within
which it is encoded faithfully, and the law that connects the three.
-/

namespace ExperimentFabric

open Lib

/-! ## Enumerations -/

instance : Enumeration ParameterKind where
  values := [.text, .integer, .real, .boolean]
  complete value := by cases value <;> decide

instance : Enumeration TrialState where
  values := [.created, .ready, .assigned, .running, .observing, .completed, .failed, .cancelled,
    .invalid, .superseded, .revalidationRequired]
  complete value := by cases value <;> decide

instance : Enumeration ExperimentState where
  values := [.opened, .finalized, .cancelled, .superseded, .recovering]
  complete value := by cases value <;> decide

instance : Enumeration BranchState where
  values := [.active, .retired, .invalid, .superseded]
  complete value := by cases value <;> decide

instance : Enumeration BranchRole where
  values := [.baseline, .candidate]
  complete value := by cases value <;> decide

instance : Enumeration AttemptState where
  values := [.issued, .running, .published, .completed, .failed, .cancelled, .abandoned,
    .revalidationRequired]
  complete value := by cases value <;> decide

instance : Enumeration MetricKind where
  values := [.real, .integer, .boolean, .categorical]
  complete value := by cases value <;> decide

instance : Enumeration MetricDirection where
  values := [.minimize, .maximize, .target, .informational]
  complete value := by cases value <;> decide

instance : Enumeration AggregationRule where
  values := [.none, .mean, .median, .min, .max, .sum, .majority]
  complete value := by cases value <;> decide

instance : Enumeration ObservationValidity where
  values := [.valid, .invalid, .missing, .unsupported]
  complete value := by cases value <;> decide

instance : Enumeration ComparisonOp where
  values := [.greaterThan, .lessThan, .minImprovement, .maxRegressionTolerance, .targetRange,
    .majorityWins, .reportOnly]
  complete value := by cases value <;> decide

instance : Enumeration DecisionOutcome where
  values := [.accept, .reject, .inconclusive, .insufficientEvidence, .invalid, .cancelled,
    .superseded]
  complete value := by cases value <;> decide

instance : Enumeration FailureKind where
  values := [.none, .executionFailure, .invalidObservation, .producerLoss, .transportFailure,
    .cancellation, .policyRejection, .insufficientEvidence, .persistenceFailure,
    .experimentInvalidation, .limitExceeded]
  complete value := by cases value <;> decide

instance : Enumeration SeedPolicy where
  values := [.fixed, .derivedPerTrial, .producerSupplied, .none]
  complete value := by cases value <;> decide

instance : Enumeration RetryPolicy where
  values := [.freshAttemptSameTrial, .newTrialIdentity, .noRetry]
  complete value := by cases value <;> decide

instance : Enumeration PartialFailurePolicy where
  values := [.tolerateIfEvidenceSufficient, .invalidateBranch, .retryAllowed]
  complete value := by cases value <;> decide

instance : Enumeration LateEvidencePolicy where
  values := [.rejectAndRecord, .retainHistorical]
  complete value := by cases value <;> decide

instance : Enumeration ErrorStage where
  values := [.none, .validation, .identity, .definition, .authority, .lifecycle, .observation,
    .comparison, .decision, .persistence, .transport, .recovery, .shutdown, .limits]
  complete value := by cases value <;> decide

/-- The named error codes, in the order of their stable numbers. -/
def ErrorCode.named : List ErrorCode :=
  [.ok, .invalidArgument, .notFound, .alreadyExists, .staleEpoch, .staleWorker, .staleGeneration,
    .staleHypothesis, .staleBranch, .staleAttempt, .unauthorized, .invalidTransition, .cancelled,
    .insufficientEvidence, .invalidObservation, .corruptPersistence, .protocolError,
    .resourceExhausted, .unsupported, .persistenceFailure, .transportFailure, .shuttingDown,
    .internal]

/-- The byte of an error code. -/
def ErrorCode.number : ErrorCode → Nat
  | .unnamed beyond => 23 + beyond
  | code => named.idxOf code

/-- The error code of a byte. -/
def ErrorCode.ofNumber (raw : Nat) : ErrorCode :=
  match named[raw]? with
  | some code => code
  | none => .unnamed (Fin.ofNat 233 (raw - 23))

theorem ErrorCode.number_lt (code : ErrorCode) : code.number < 256 := by
  cases code with
  | unnamed beyond =>
      have := beyond.isLt
      simp only [number]
      omega
  | _ => decide

theorem ErrorCode.ofNumber_number (code : ErrorCode) : ofNumber code.number = code := by
  cases code with
  | unnamed beyond =>
      have absent : named[23 + beyond.val]? = none := List.getElem?_eq_none (by simp [named])
      simp only [number, ofNumber, absent, Nat.add_sub_cancel_left]
      simp
  | _ => decide

theorem ErrorCode.number_ofNumber {raw : Nat} (byte : raw < 256) :
    (ofNumber raw).number = raw := by
  have each : ∀ raw : Fin 256, (ofNumber raw).number = raw := by decide +kernel
  exact each ⟨raw, byte⟩

/-- Append an error code. -/
def writeErrorCode (code : ErrorCode) : Text := writeU8 code.number

/-- The next error code; its range is not checked. -/
def readErrorCode : PayloadReader ErrorCode := do
  let raw ← readU8
  pure (.ofNumber raw)

theorem codes_errorCode : Codes (fun _ => True) readErrorCode writeErrorCode := by
  refine codes_u8.map ErrorCode.number fun raw code => ?_
  constructor
  · rintro ⟨byte, rfl⟩
    exact ⟨trivial, ErrorCode.number_ofNumber byte⟩
  · rintro ⟨-, rfl⟩
    exact ⟨code.number_lt, code.ofNumber_number⟩

/-! ## Parameters and metric values -/

/-- Append one parameter. -/
def writeParameter (parameter : ParameterAssignment) : Text :=
  [writeText 128 parameter.key, writeEnum parameter.kind, writeText 4096 parameter.value].flatten

/-- The next parameter. -/
def readParameter (limits : Limits) : PayloadReader ParameterAssignment := do
  let key ← readText limits 128
  let kind ← readEnum "parameter kind"
  let value ← readText limits 4096
  pure { key, kind, value }

/-- A parameter within the bounds of its codec. -/
def ParameterAssignment.Fits (limits : Limits) (parameter : ParameterAssignment) : Prop :=
  FitsText limits 128 parameter.key ∧ FitsText limits 4096 parameter.value

theorem codes_parameter (limits : Limits) :
    Codes (ParameterAssignment.Fits limits) (readParameter limits) writeParameter := by
  refine Fields.codes ?_ (fun _ => Iff.rfl) fun _ _ => rfl
  refine .field (codes_text limits (by decide)) fun key => ?_
  refine .free (codes_enum _) fun kind => ?_
  refine .only (codes_text limits (by decide)) fun value => ?_
  refine .done fun record => ?_
  cases record
  simp [and_assoc]

/-- Append parameters. -/
def writeParameters (parameters : List ParameterAssignment) : Text :=
  writeVector writeParameter parameters

/-- The next parameters. -/
def readParameters (limits : Limits) : PayloadReader (List ParameterAssignment) :=
  readVector 4096 (readParameter limits)

/-- Parameters within the bounds of their codec. -/
def FitsParameters (limits : Limits) : List ParameterAssignment → Prop :=
  FitsVector 4096 (ParameterAssignment.Fits limits)

theorem codes_parameters (limits : Limits) :
    Codes (FitsParameters limits) (readParameters limits) writeParameters :=
  codes_vector (by decide) (codes_parameter limits)

section Reals

variable {R : Type} [BitPattern R]

/-- Append a metric value. -/
def writeMetricValue (value : MetricValue R) : Text :=
  [writeEnum value.kind, writeReal value.real, writeInteger value.integer,
    writeBoolean value.boolean, writeText 128 value.category].flatten

/-- The next metric value. -/
def readMetricValue (limits : Limits) : PayloadReader (MetricValue R) := do
  let kind ← readEnum "metric kind"
  let real ← readReal
  let integer ← readInteger
  let boolean ← readBoolean
  let category ← readText limits 128
  pure { kind, real, integer, boolean, category }

/-- A metric value within the bounds of its codec. -/
def MetricValue.Fits (limits : Limits) (value : MetricValue R) : Prop :=
  FitsInteger value.integer ∧ FitsText limits 128 value.category

theorem codes_metricValue (limits : Limits) :
    Codes (MetricValue.Fits (R := R) limits) (readMetricValue limits) writeMetricValue := by
  refine Fields.codes ?_ (fun _ => Iff.rfl) fun _ _ => rfl
  refine .free (codes_enum _) fun kind => ?_
  refine .free codes_real fun real => ?_
  refine .field codes_integer fun integer => ?_
  refine .free codes_boolean fun boolean => ?_
  refine .only (codes_text limits (by decide)) fun category => ?_
  refine .done fun record => ?_
  cases record
  simp [and_assoc]

/-! ## Envelopes, observations and artifacts -/

/-- Append an authority envelope. -/
def writeEnvelope (envelope : AuthorityEnvelope) : Text :=
  [writeId envelope.epoch, writeId envelope.experiment, writeId envelope.generation,
    writeId envelope.hypothesis, writeId envelope.hypothesisRevision, writeId envelope.policy,
    writeId envelope.policyGeneration, writeId envelope.branch, writeId envelope.branchGeneration,
    writeId envelope.trial, writeId envelope.attempt, writeId envelope.worker,
    writeId envelope.boot, writeId envelope.producer].flatten

/-- The next authority envelope. -/
def readEnvelope : PayloadReader AuthorityEnvelope := do
  let epoch ← readId
  let experiment ← readId
  let generation ← readId
  let hypothesis ← readId
  let hypothesisRevision ← readId
  let policy ← readId
  let policyGeneration ← readId
  let branch ← readId
  let branchGeneration ← readId
  let trial ← readId
  let attempt ← readId
  let worker ← readId
  let boot ← readId
  let producer ← readId
  pure { epoch, experiment, generation, hypothesis, hypothesisRevision, policy, policyGeneration,
         branch, branchGeneration, trial, attempt, worker, boot, producer }

/-- An authority envelope within the bounds of its codec. -/
def AuthorityEnvelope.Fits (envelope : AuthorityEnvelope) : Prop :=
  envelope.epoch.Fits ∧ envelope.experiment.Fits ∧ envelope.generation.Fits ∧
    envelope.hypothesis.Fits ∧ envelope.hypothesisRevision.Fits ∧ envelope.policy.Fits ∧
    envelope.policyGeneration.Fits ∧ envelope.branch.Fits ∧ envelope.branchGeneration.Fits ∧
    envelope.trial.Fits ∧ envelope.attempt.Fits ∧ envelope.worker.Fits ∧ envelope.boot.Fits ∧
    envelope.producer.Fits

theorem codes_envelope :
    Codes AuthorityEnvelope.Fits readEnvelope writeEnvelope := by
  refine Fields.codes ?_ (fun _ => Iff.rfl) fun _ _ => rfl
  refine .field codes_id fun epoch => ?_
  refine .field codes_id fun experiment => ?_
  refine .field codes_id fun generation => ?_
  refine .field codes_id fun hypothesis => ?_
  refine .field codes_id fun hypothesisRevision => ?_
  refine .field codes_id fun policy => ?_
  refine .field codes_id fun policyGeneration => ?_
  refine .field codes_id fun branch => ?_
  refine .field codes_id fun branchGeneration => ?_
  refine .field codes_id fun trial => ?_
  refine .field codes_id fun attempt => ?_
  refine .field codes_id fun worker => ?_
  refine .field codes_id fun boot => ?_
  refine .only codes_id fun producer => ?_
  refine .done fun record => ?_
  cases record
  simp [and_assoc]

/-- Append an observation. -/
def writeObservation (observation : Observation R) : Text :=
  [writeId observation.id, writeId observation.experiment, writeId observation.generation,
    writeId observation.branch, writeId observation.branchGeneration, writeId observation.trial,
    writeId observation.attempt, writeId observation.metric, writeId observation.producer,
    writeId observation.worker, writeId observation.boot, writeId observation.epoch,
    writeEnum observation.validity, writeMetricValue observation.value,
    writeText 512 observation.detail, writeU64 observation.sequence].flatten

/-- The next observation. -/
def readObservation (limits : Limits) : PayloadReader (Observation R) := do
  let id ← readId
  let experiment ← readId
  let generation ← readId
  let branch ← readId
  let branchGeneration ← readId
  let trial ← readId
  let attempt ← readId
  let metric ← readId
  let producer ← readId
  let worker ← readId
  let boot ← readId
  let epoch ← readId
  let validity ← readEnum "observation validity"
  let value ← readMetricValue limits
  let detail ← readText limits 512
  let sequence ← readU64
  pure { id, experiment, generation, branch, branchGeneration, trial, attempt, metric, producer,
         worker, boot, epoch, validity, value, detail, sequence }

/-- An observation within the bounds of its codec. -/
def Observation.Fits (limits : Limits) (observation : Observation R) : Prop :=
  observation.id.Fits ∧ observation.experiment.Fits ∧ observation.generation.Fits ∧
    observation.branch.Fits ∧ observation.branchGeneration.Fits ∧ observation.trial.Fits ∧
    observation.attempt.Fits ∧ observation.metric.Fits ∧ observation.producer.Fits ∧
    observation.worker.Fits ∧ observation.boot.Fits ∧ observation.epoch.Fits ∧
    observation.value.Fits limits ∧ FitsText limits 512 observation.detail ∧
    FitsU64 observation.sequence

theorem codes_observation (limits : Limits) :
    Codes (Observation.Fits (R := R) limits) (readObservation limits) writeObservation := by
  refine Fields.codes ?_ (fun _ => Iff.rfl) fun _ _ => rfl
  refine .field codes_id fun id => ?_
  refine .field codes_id fun experiment => ?_
  refine .field codes_id fun generation => ?_
  refine .field codes_id fun branch => ?_
  refine .field codes_id fun branchGeneration => ?_
  refine .field codes_id fun trial => ?_
  refine .field codes_id fun attempt => ?_
  refine .field codes_id fun metric => ?_
  refine .field codes_id fun producer => ?_
  refine .field codes_id fun worker => ?_
  refine .field codes_id fun boot => ?_
  refine .field codes_id fun epoch => ?_
  refine .free (codes_enum _) fun validity => ?_
  refine .field (codes_metricValue limits) fun value => ?_
  refine .field (codes_text limits (by decide)) fun detail => ?_
  refine .only codes_u64 fun sequence => ?_
  refine .done fun record => ?_
  cases record
  simp [and_assoc]

/-- Append an artifact. -/
def writeArtifact (artifact : ArtifactRecord) : Text :=
  [writeId artifact.id, writeId artifact.experiment, writeId artifact.generation,
    writeId artifact.branch, writeId artifact.trial, writeId artifact.attempt,
    writeText 128 artifact.category, writeText 1024 artifact.locator,
    writeDigest artifact.contentDigest, writeBoolean artifact.digestPresent,
    writeBoolean artifact.sizePresent, writeU64 artifact.sizeBytes,
    writeText 512 artifact.provenance, writeBoolean artifact.current,
    writeU64 artifact.sequence].flatten

/-- The next artifact. -/
def readArtifact (limits : Limits) : PayloadReader ArtifactRecord := do
  let id ← readId
  let experiment ← readId
  let generation ← readId
  let branch ← readId
  let trial ← readId
  let attempt ← readId
  let category ← readText limits 128
  let locator ← readText limits 1024
  let contentDigest ← readDigest
  let digestPresent ← readBoolean
  let sizePresent ← readBoolean
  let sizeBytes ← readU64
  let provenance ← readText limits 512
  let current ← readBoolean
  let sequence ← readU64
  pure { id, experiment, generation, branch, trial, attempt, category, locator, contentDigest,
         digestPresent, sizePresent, sizeBytes, provenance, current, sequence }

/-- An artifact within the bounds of its codec. -/
def ArtifactRecord.Fits (limits : Limits) (artifact : ArtifactRecord) : Prop :=
  artifact.id.Fits ∧ artifact.experiment.Fits ∧ artifact.generation.Fits ∧ artifact.branch.Fits ∧
    artifact.trial.Fits ∧ artifact.attempt.Fits ∧ FitsText limits 128 artifact.category ∧
    FitsText limits 1024 artifact.locator ∧ FitsDigest artifact.contentDigest ∧
    FitsU64 artifact.sizeBytes ∧ FitsText limits 512 artifact.provenance ∧
    FitsU64 artifact.sequence

theorem codes_artifact (limits : Limits) :
    Codes (ArtifactRecord.Fits limits) (readArtifact limits) writeArtifact := by
  refine Fields.codes ?_ (fun _ => Iff.rfl) fun _ _ => rfl
  refine .field codes_id fun id => ?_
  refine .field codes_id fun experiment => ?_
  refine .field codes_id fun generation => ?_
  refine .field codes_id fun branch => ?_
  refine .field codes_id fun trial => ?_
  refine .field codes_id fun attempt => ?_
  refine .field (codes_text limits (by decide)) fun category => ?_
  refine .field (codes_text limits (by decide)) fun locator => ?_
  refine .field codes_digest fun contentDigest => ?_
  refine .free codes_boolean fun digestPresent => ?_
  refine .free codes_boolean fun sizePresent => ?_
  refine .field codes_u64 fun sizeBytes => ?_
  refine .field (codes_text limits (by decide)) fun provenance => ?_
  refine .free codes_boolean fun current => ?_
  refine .only codes_u64 fun sequence => ?_
  refine .done fun record => ?_
  cases record
  simp [and_assoc]

/-! ## Definitions -/

/-- Append a metric definition. -/
def writeMetricDefinition (metric : MetricDefinition R) : Text :=
  [writeId metric.id, writeText 128 metric.name, writeText 32 metric.unit, writeEnum metric.kind,
    writeEnum metric.direction, writeEnum metric.aggregation, writeBoolean metric.required,
    writeBoolean metric.acceptsNonFinite, writeOptional writeReal metric.lowerBound,
    writeOptional writeReal metric.upperBound, writeOptional writeReal metric.targetLow,
    writeOptional writeReal metric.targetHigh, writeU32 metric.weight, writeU32 metric.priority,
    writeVector (writeText 128) metric.categories].flatten

/-- The next metric definition. -/
def readMetricDefinition (limits : Limits) : PayloadReader (MetricDefinition R) := do
  let id ← readId
  let name ← readText limits 128
  let unit ← readText limits 32
  let kind ← readEnum "metric kind"
  let direction ← readEnum "metric direction"
  let aggregation ← readEnum "aggregation rule"
  let required ← readBoolean
  let acceptsNonFinite ← readBoolean
  let lowerBound ← readOptional readReal
  let upperBound ← readOptional readReal
  let targetLow ← readOptional readReal
  let targetHigh ← readOptional readReal
  let weight ← readU32
  let priority ← readU32
  let categories ← readVector 256 (readText limits 128)
  pure { id, name, unit, kind, direction, aggregation, required, acceptsNonFinite, lowerBound,
         upperBound, targetLow, targetHigh, weight, priority, categories }

/-- A metric definition within the bounds of its codec. -/
def MetricDefinition.Fits (limits : Limits) (metric : MetricDefinition R) : Prop :=
  metric.id.Fits ∧ FitsText limits 128 metric.name ∧ FitsText limits 32 metric.unit ∧
    FitsU32 metric.weight ∧ FitsU32 metric.priority ∧
    FitsVector 256 (FitsText limits 128) metric.categories

theorem codes_metricDefinition (limits : Limits) :
    Codes (MetricDefinition.Fits (R := R) limits) (readMetricDefinition limits) writeMetricDefinition := by
  refine Fields.codes ?_ (fun _ => Iff.rfl) fun _ _ => rfl
  refine .field codes_id fun id => ?_
  refine .field (codes_text limits (by decide)) fun name => ?_
  refine .field (codes_text limits (by decide)) fun unit => ?_
  refine .free (codes_enum _) fun kind => ?_
  refine .free (codes_enum _) fun direction => ?_
  refine .free (codes_enum _) fun aggregation => ?_
  refine .free codes_boolean fun required => ?_
  refine .free codes_boolean fun acceptsNonFinite => ?_
  refine .free (codes_optional_free codes_real) fun lowerBound => ?_
  refine .free (codes_optional_free codes_real) fun upperBound => ?_
  refine .free (codes_optional_free codes_real) fun targetLow => ?_
  refine .free (codes_optional_free codes_real) fun targetHigh => ?_
  refine .field codes_u32 fun weight => ?_
  refine .field codes_u32 fun priority => ?_
  refine .only (codes_vector (by decide) (codes_text limits (by decide))) fun categories => ?_
  refine .done fun record => ?_
  cases record
  simp [and_assoc]

/-- Append a comparison rule. -/
def writeComparisonRule (rule : ComparisonRule R) : Text :=
  [writeId rule.metric, writeEnum rule.op, writeReal rule.threshold, writeReal rule.targetLow,
    writeReal rule.targetHigh, writeU32 rule.priority].flatten

/-- The next comparison rule. -/
def readComparisonRule : PayloadReader (ComparisonRule R) := do
  let metric ← readId
  let op ← readEnum "comparison op"
  let threshold ← readReal
  let targetLow ← readReal
  let targetHigh ← readReal
  let priority ← readU32
  pure { metric, op, threshold, targetLow, targetHigh, priority }

/-- A comparison rule within the bounds of its codec. -/
def ComparisonRule.Fits (rule : ComparisonRule R) : Prop :=
  rule.metric.Fits ∧ FitsU32 rule.priority

theorem codes_comparisonRule :
    Codes (ComparisonRule.Fits (R := R)) readComparisonRule writeComparisonRule := by
  refine Fields.codes ?_ (fun _ => Iff.rfl) fun _ _ => rfl
  refine .field codes_id fun metric => ?_
  refine .free (codes_enum _) fun op => ?_
  refine .free codes_real fun threshold => ?_
  refine .free codes_real fun targetLow => ?_
  refine .free codes_real fun targetHigh => ?_
  refine .only codes_u32 fun priority => ?_
  refine .done fun record => ?_
  cases record
  simp [and_assoc]

/-- Append a comparison policy. -/
def writeComparisonPolicy (policy : ComparisonPolicy R) : Text :=
  [writeId policy.id, writeId policy.generation, writeBoolean policy.requireBaseline,
    writeU32 policy.minCompletedTrialsPerBranch,
    writeU32 policy.minValidObservationsPerRequiredMetric,
    writeBoolean policy.rejectOnAnyInvalidObservation, writeBoolean policy.requireEnvironmentMatch,
    writeU32 policy.majorityWinsMinBasisPoints, writeBoolean policy.useWeightedScore,
    writeReal policy.acceptScoreThreshold, writeVector writeComparisonRule policy.rules].flatten

/-- The next comparison policy. -/
def readComparisonPolicy : PayloadReader (ComparisonPolicy R) := do
  let id ← readId
  let generation ← readId
  let requireBaseline ← readBoolean
  let minCompletedTrialsPerBranch ← readU32
  let minValidObservationsPerRequiredMetric ← readU32
  let rejectOnAnyInvalidObservation ← readBoolean
  let requireEnvironmentMatch ← readBoolean
  let majorityWinsMinBasisPoints ← readU32
  let useWeightedScore ← readBoolean
  let acceptScoreThreshold ← readReal
  let rules ← readVector 256 readComparisonRule
  pure { id, generation, requireBaseline, minCompletedTrialsPerBranch,
         minValidObservationsPerRequiredMetric, rejectOnAnyInvalidObservation,
         requireEnvironmentMatch, majorityWinsMinBasisPoints, useWeightedScore,
         acceptScoreThreshold, rules }

/-- A comparison policy within the bounds of its codec. -/
def ComparisonPolicy.Fits (policy : ComparisonPolicy R) : Prop :=
  policy.id.Fits ∧ policy.generation.Fits ∧ FitsU32 policy.minCompletedTrialsPerBranch ∧
    FitsU32 policy.minValidObservationsPerRequiredMetric ∧
    FitsU32 policy.majorityWinsMinBasisPoints ∧ FitsVector 256 ComparisonRule.Fits policy.rules

theorem codes_comparisonPolicy :
    Codes (ComparisonPolicy.Fits (R := R)) readComparisonPolicy writeComparisonPolicy := by
  refine Fields.codes ?_ (fun _ => Iff.rfl) fun _ _ => rfl
  refine .field codes_id fun id => ?_
  refine .field codes_id fun generation => ?_
  refine .free codes_boolean fun requireBaseline => ?_
  refine .field codes_u32 fun minCompletedTrialsPerBranch => ?_
  refine .field codes_u32 fun minValidObservationsPerRequiredMetric => ?_
  refine .free codes_boolean fun rejectOnAnyInvalidObservation => ?_
  refine .free codes_boolean fun requireEnvironmentMatch => ?_
  refine .field codes_u32 fun majorityWinsMinBasisPoints => ?_
  refine .free codes_boolean fun useWeightedScore => ?_
  refine .free codes_real fun acceptScoreThreshold => ?_
  refine .only (codes_vector (by decide) codes_comparisonRule) fun rules => ?_
  refine .done fun record => ?_
  cases record
  simp [and_assoc]

/-- Append a branch definition. -/
def writeBranchDefinition (branch : BranchDefinition) : Text :=
  [writeId branch.id, writeText 128 branch.name, writeEnum branch.role, writeId branch.parent,
    writeId branch.generation, writeEnum branch.state, writeParameters branch.parameters,
    writeId branch.inputSet, writeBoolean branch.inputSetPresent, writeId branch.environment,
    writeBoolean branch.environmentPresent, writeText 512 branch.environmentFingerprint,
    writeOptional writeSeed branch.seed, writeU32 branch.plannedTrials,
    writeU64 branch.createdSequence, writeBoolean branch.forked].flatten

/-- The next branch definition. -/
def readBranchDefinition (limits : Limits) : PayloadReader BranchDefinition := do
  let id ← readId
  let name ← readText limits 128
  let role ← readEnum "branch role"
  let parent ← readId
  let generation ← readId
  let state ← readEnum "branch state"
  let parameters ← readParameters limits
  let inputSet ← readId
  let inputSetPresent ← readBoolean
  let environment ← readId
  let environmentPresent ← readBoolean
  let environmentFingerprint ← readText limits 512
  let seed ← readOptional readSeed
  let plannedTrials ← readU32
  let createdSequence ← readU64
  let forked ← readBoolean
  pure { id, name, role, parent, generation, state, parameters, inputSet, inputSetPresent,
         environment, environmentPresent, environmentFingerprint, seed, plannedTrials,
         createdSequence, forked }

/-- A branch definition within the bounds of its codec. -/
def BranchDefinition.Fits (limits : Limits) (branch : BranchDefinition) : Prop :=
  branch.id.Fits ∧ FitsText limits 128 branch.name ∧ branch.parent.Fits ∧ branch.generation.Fits ∧
    FitsParameters limits branch.parameters ∧ branch.inputSet.Fits ∧ branch.environment.Fits ∧
    FitsText limits 512 branch.environmentFingerprint ∧ FitsU32 branch.plannedTrials ∧
    FitsU64 branch.createdSequence

theorem codes_branchDefinition (limits : Limits) :
    Codes (BranchDefinition.Fits limits) (readBranchDefinition limits) writeBranchDefinition := by
  refine Fields.codes ?_ (fun _ => Iff.rfl) fun _ _ => rfl
  refine .field codes_id fun id => ?_
  refine .field (codes_text limits (by decide)) fun name => ?_
  refine .free (codes_enum _) fun role => ?_
  refine .field codes_id fun parent => ?_
  refine .field codes_id fun generation => ?_
  refine .free (codes_enum _) fun state => ?_
  refine .field (codes_parameters limits) fun parameters => ?_
  refine .field codes_id fun inputSet => ?_
  refine .free codes_boolean fun inputSetPresent => ?_
  refine .field codes_id fun environment => ?_
  refine .free codes_boolean fun environmentPresent => ?_
  refine .field (codes_text limits (by decide)) fun environmentFingerprint => ?_
  refine .free (codes_optional_free codes_seed) fun seed => ?_
  refine .field codes_u32 fun plannedTrials => ?_
  refine .only codes_u64 fun createdSequence => ?_
  refine .free codes_boolean fun forked => ?_
  refine .done fun record => ?_
  cases record
  simp [and_assoc]

/-- Append an experiment definition. -/
def writeExperimentDefinition (definition : ExperimentDefinition R) : Text :=
  [writeId definition.id, writeId definition.generation, writeId definition.hypothesis,
    writeId definition.hypothesisRevision, writeText 128 definition.name,
    writeVector writeBranchDefinition definition.branches,
    writeVector writeMetricDefinition definition.metrics, writeComparisonPolicy definition.policy,
    writeEnum definition.seedPolicy, writeOptional writeSeed definition.experimentSeed,
    writeEnum definition.retryPolicy, writeU32 definition.maxAttemptsPerTrial,
    writeEnum definition.partialFailurePolicy, writeEnum definition.lateEvidencePolicy,
    writeParameters definition.parameters, writeText 1024 definition.provenance,
    writeU64 definition.createdSequence].flatten

/-- The next experiment definition. -/
def readExperimentDefinition (limits : Limits) : PayloadReader (ExperimentDefinition R) := do
  let id ← readId
  let generation ← readId
  let hypothesis ← readId
  let hypothesisRevision ← readId
  let name ← readText limits 128
  let branches ← readVector 256 (readBranchDefinition limits)
  let metrics ← readVector 128 (readMetricDefinition limits)
  let policy ← readComparisonPolicy
  let seedPolicy ← readEnum "seed policy"
  let experimentSeed ← readOptional readSeed
  let retryPolicy ← readEnum "retry policy"
  let maxAttemptsPerTrial ← readU32
  let partialFailurePolicy ← readEnum "partial failure policy"
  let lateEvidencePolicy ← readEnum "late evidence policy"
  let parameters ← readParameters limits
  let provenance ← readText limits 1024
  let createdSequence ← readU64
  pure { id, generation, hypothesis, hypothesisRevision, name, branches, metrics, policy,
         seedPolicy, experimentSeed, retryPolicy, maxAttemptsPerTrial, partialFailurePolicy,
         lateEvidencePolicy, parameters, provenance, createdSequence }

/-- An experiment definition within the bounds of its codec. -/
def ExperimentDefinition.Fits (limits : Limits) (definition : ExperimentDefinition R) : Prop :=
  definition.id.Fits ∧ definition.generation.Fits ∧ definition.hypothesis.Fits ∧
    definition.hypothesisRevision.Fits ∧ FitsText limits 128 definition.name ∧
    FitsVector 256 (BranchDefinition.Fits limits) definition.branches ∧
    FitsVector 128 (MetricDefinition.Fits limits) definition.metrics ∧
    definition.policy.Fits ∧ FitsU32 definition.maxAttemptsPerTrial ∧
    FitsParameters limits definition.parameters ∧ FitsText limits 1024 definition.provenance ∧
    FitsU64 definition.createdSequence

theorem codes_experimentDefinition (limits : Limits) :
    Codes (ExperimentDefinition.Fits (R := R) limits) (readExperimentDefinition limits) writeExperimentDefinition := by
  refine Fields.codes ?_ (fun _ => Iff.rfl) fun _ _ => rfl
  refine .field codes_id fun id => ?_
  refine .field codes_id fun generation => ?_
  refine .field codes_id fun hypothesis => ?_
  refine .field codes_id fun hypothesisRevision => ?_
  refine .field (codes_text limits (by decide)) fun name => ?_
  refine .field (codes_vector (by decide) (codes_branchDefinition limits)) fun branches => ?_
  refine .field (codes_vector (by decide) (codes_metricDefinition limits)) fun metrics => ?_
  refine .field codes_comparisonPolicy fun policy => ?_
  refine .free (codes_enum _) fun seedPolicy => ?_
  refine .free (codes_optional_free codes_seed) fun experimentSeed => ?_
  refine .free (codes_enum _) fun retryPolicy => ?_
  refine .field codes_u32 fun maxAttemptsPerTrial => ?_
  refine .free (codes_enum _) fun partialFailurePolicy => ?_
  refine .free (codes_enum _) fun lateEvidencePolicy => ?_
  refine .field (codes_parameters limits) fun parameters => ?_
  refine .field (codes_text limits (by decide)) fun provenance => ?_
  refine .only codes_u64 fun createdSequence => ?_
  refine .done fun record => ?_
  cases record
  simp [and_assoc]

/-- Append a hypothesis. -/
def writeHypothesis (hypothesis : Hypothesis) : Text :=
  [writeId hypothesis.id, writeId hypothesis.revision, writeText 4096 hypothesis.statement,
    writeOptional writeEnum hypothesis.expectedDirection, writeId hypothesis.expectedMetric,
    writeId hypothesis.parent, writeId hypothesis.parentRevision,
    writeBoolean hypothesis.superseded, writeId hypothesis.supersededByRevision,
    writeText 1024 hypothesis.provenance, writeU64 hypothesis.createdSequence].flatten

/-- The next hypothesis. -/
def readHypothesis (limits : Limits) : PayloadReader Hypothesis := do
  let id ← readId
  let revision ← readId
  let statement ← readText limits 4096
  let expectedDirection ← readOptional (readEnum "metric direction")
  let expectedMetric ← readId
  let parent ← readId
  let parentRevision ← readId
  let superseded ← readBoolean
  let supersededByRevision ← readId
  let provenance ← readText limits 1024
  let createdSequence ← readU64
  pure { id, revision, statement, expectedDirection, expectedMetric, parent, parentRevision,
         superseded, supersededByRevision, provenance, createdSequence }

/-- A hypothesis within the bounds of its codec. -/
def Hypothesis.Fits (limits : Limits) (hypothesis : Hypothesis) : Prop :=
  hypothesis.id.Fits ∧ hypothesis.revision.Fits ∧ FitsText limits 4096 hypothesis.statement ∧
    hypothesis.expectedMetric.Fits ∧ hypothesis.parent.Fits ∧ hypothesis.parentRevision.Fits ∧
    hypothesis.supersededByRevision.Fits ∧ FitsText limits 1024 hypothesis.provenance ∧
    FitsU64 hypothesis.createdSequence

theorem codes_hypothesis (limits : Limits) :
    Codes (Hypothesis.Fits limits) (readHypothesis limits) writeHypothesis := by
  refine Fields.codes ?_ (fun _ => Iff.rfl) fun _ _ => rfl
  refine .field codes_id fun id => ?_
  refine .field codes_id fun revision => ?_
  refine .field (codes_text limits (by decide)) fun statement => ?_
  refine .free (codes_optional_free (codes_enum _)) fun expectedDirection => ?_
  refine .field codes_id fun expectedMetric => ?_
  refine .field codes_id fun parent => ?_
  refine .field codes_id fun parentRevision => ?_
  refine .free codes_boolean fun superseded => ?_
  refine .field codes_id fun supersededByRevision => ?_
  refine .field (codes_text limits (by decide)) fun provenance => ?_
  refine .only codes_u64 fun createdSequence => ?_
  refine .done fun record => ?_
  cases record
  simp [and_assoc]

/-! ## Trials and attempts -/

/-- Append a trial. -/
def writeTrial (trial : TrialRecord) : Text :=
  [writeId trial.id, writeId trial.experiment, writeId trial.generation, writeId trial.branch,
    writeId trial.branchGeneration, writeId trial.hypothesis, writeId trial.hypothesisRevision,
    writeId trial.policy, writeId trial.policyGeneration, writeEnum trial.state,
    writeId trial.authoritativeAttempt, writeId trial.nextAttemptNumber,
    writeU32 trial.attemptCount, writeU32 trial.committedAttempts, writeEnum trial.failureKind,
    writeText 512 trial.failureDetail, writeOptional writeSeed trial.seed, writeId trial.inputSet,
    writeBoolean trial.inputSetPresent, writeId trial.environment,
    writeBoolean trial.environmentPresent, writeText 512 trial.environmentFingerprint,
    writeVector writeId trial.artifacts, writeText 4096 trial.payload,
    writeU64 trial.createdSequence, writeU64 trial.updatedSequence].flatten

/-- The next trial. -/
def readTrial (limits : Limits) : PayloadReader TrialRecord := do
  let id ← readId
  let experiment ← readId
  let generation ← readId
  let branch ← readId
  let branchGeneration ← readId
  let hypothesis ← readId
  let hypothesisRevision ← readId
  let policy ← readId
  let policyGeneration ← readId
  let state ← readEnum "trial state"
  let authoritativeAttempt ← readId
  let nextAttemptNumber ← readId
  let attemptCount ← readU32
  let committedAttempts ← readU32
  let failureKind ← readEnum "failure kind"
  let failureDetail ← readText limits 512
  let seed ← readOptional readSeed
  let inputSet ← readId
  let inputSetPresent ← readBoolean
  let environment ← readId
  let environmentPresent ← readBoolean
  let environmentFingerprint ← readText limits 512
  let artifacts ← readVector 256 readId
  let payload ← readText limits 4096
  let createdSequence ← readU64
  let updatedSequence ← readU64
  pure { id, experiment, generation, branch, branchGeneration, hypothesis, hypothesisRevision,
         policy, policyGeneration, state, authoritativeAttempt, nextAttemptNumber, attemptCount,
         committedAttempts, failureKind, failureDetail, seed, inputSet, inputSetPresent,
         environment, environmentPresent, environmentFingerprint, artifacts, payload,
         createdSequence, updatedSequence }

/-- A trial within the bounds of its codec. -/
def TrialRecord.Fits (limits : Limits) (trial : TrialRecord) : Prop :=
  trial.id.Fits ∧ trial.experiment.Fits ∧ trial.generation.Fits ∧ trial.branch.Fits ∧
    trial.branchGeneration.Fits ∧ trial.hypothesis.Fits ∧ trial.hypothesisRevision.Fits ∧
    trial.policy.Fits ∧ trial.policyGeneration.Fits ∧ trial.authoritativeAttempt.Fits ∧
    trial.nextAttemptNumber.Fits ∧ FitsU32 trial.attemptCount ∧ FitsU32 trial.committedAttempts ∧
    FitsText limits 512 trial.failureDetail ∧ trial.inputSet.Fits ∧ trial.environment.Fits ∧
    FitsText limits 512 trial.environmentFingerprint ∧
    FitsVector 256 StrongId.Fits trial.artifacts ∧ FitsText limits 4096 trial.payload ∧
    FitsU64 trial.createdSequence ∧ FitsU64 trial.updatedSequence

theorem codes_trial (limits : Limits) :
    Codes (TrialRecord.Fits limits) (readTrial limits) writeTrial := by
  refine Fields.codes ?_ (fun _ => Iff.rfl) fun _ _ => rfl
  refine .field codes_id fun id => ?_
  refine .field codes_id fun experiment => ?_
  refine .field codes_id fun generation => ?_
  refine .field codes_id fun branch => ?_
  refine .field codes_id fun branchGeneration => ?_
  refine .field codes_id fun hypothesis => ?_
  refine .field codes_id fun hypothesisRevision => ?_
  refine .field codes_id fun policy => ?_
  refine .field codes_id fun policyGeneration => ?_
  refine .free (codes_enum _) fun state => ?_
  refine .field codes_id fun authoritativeAttempt => ?_
  refine .field codes_id fun nextAttemptNumber => ?_
  refine .field codes_u32 fun attemptCount => ?_
  refine .field codes_u32 fun committedAttempts => ?_
  refine .free (codes_enum _) fun failureKind => ?_
  refine .field (codes_text limits (by decide)) fun failureDetail => ?_
  refine .free (codes_optional_free codes_seed) fun seed => ?_
  refine .field codes_id fun inputSet => ?_
  refine .free codes_boolean fun inputSetPresent => ?_
  refine .field codes_id fun environment => ?_
  refine .free codes_boolean fun environmentPresent => ?_
  refine .field (codes_text limits (by decide)) fun environmentFingerprint => ?_
  refine .field (codes_vector (by decide) codes_id) fun artifacts => ?_
  refine .field (codes_text limits (by decide)) fun payload => ?_
  refine .field codes_u64 fun createdSequence => ?_
  refine .only codes_u64 fun updatedSequence => ?_
  refine .done fun record => ?_
  cases record
  simp [and_assoc]

/-- Append an attempt. -/
def writeAttempt (attempt : AttemptRecord) : Text :=
  [writeId attempt.id, writeId attempt.number, writeId attempt.trial, writeId attempt.experiment,
    writeId attempt.generation, writeId attempt.branch, writeId attempt.branchGeneration,
    writeId attempt.worker, writeId attempt.boot, writeId attempt.epoch, writeId attempt.producer,
    writeEnum attempt.state, writeEnum attempt.failureKind, writeText 512 attempt.failureDetail,
    writeBoolean attempt.committed, writeU64 attempt.issuedSequence,
    writeU64 attempt.updatedSequence].flatten

/-- The next attempt. -/
def readAttempt (limits : Limits) : PayloadReader AttemptRecord := do
  let id ← readId
  let number ← readId
  let trial ← readId
  let experiment ← readId
  let generation ← readId
  let branch ← readId
  let branchGeneration ← readId
  let worker ← readId
  let boot ← readId
  let epoch ← readId
  let producer ← readId
  let state ← readEnum "attempt state"
  let failureKind ← readEnum "failure kind"
  let failureDetail ← readText limits 512
  let committed ← readBoolean
  let issuedSequence ← readU64
  let updatedSequence ← readU64
  pure { id, number, trial, experiment, generation, branch, branchGeneration, worker, boot, epoch,
         producer, state, failureKind, failureDetail, committed, issuedSequence, updatedSequence }

/-- An attempt within the bounds of its codec. -/
def AttemptRecord.Fits (limits : Limits) (attempt : AttemptRecord) : Prop :=
  attempt.id.Fits ∧ attempt.number.Fits ∧ attempt.trial.Fits ∧ attempt.experiment.Fits ∧
    attempt.generation.Fits ∧ attempt.branch.Fits ∧ attempt.branchGeneration.Fits ∧
    attempt.worker.Fits ∧ attempt.boot.Fits ∧ attempt.epoch.Fits ∧ attempt.producer.Fits ∧
    FitsText limits 512 attempt.failureDetail ∧ FitsU64 attempt.issuedSequence ∧
    FitsU64 attempt.updatedSequence

theorem codes_attempt (limits : Limits) :
    Codes (AttemptRecord.Fits limits) (readAttempt limits) writeAttempt := by
  refine Fields.codes ?_ (fun _ => Iff.rfl) fun _ _ => rfl
  refine .field codes_id fun id => ?_
  refine .field codes_id fun number => ?_
  refine .field codes_id fun trial => ?_
  refine .field codes_id fun experiment => ?_
  refine .field codes_id fun generation => ?_
  refine .field codes_id fun branch => ?_
  refine .field codes_id fun branchGeneration => ?_
  refine .field codes_id fun worker => ?_
  refine .field codes_id fun boot => ?_
  refine .field codes_id fun epoch => ?_
  refine .field codes_id fun producer => ?_
  refine .free (codes_enum _) fun state => ?_
  refine .free (codes_enum _) fun failureKind => ?_
  refine .field (codes_text limits (by decide)) fun failureDetail => ?_
  refine .free codes_boolean fun committed => ?_
  refine .field codes_u64 fun issuedSequence => ?_
  refine .only codes_u64 fun updatedSequence => ?_
  refine .done fun record => ?_
  cases record
  simp [and_assoc]

/-! ## Decisions -/

/-- Append a constraint result. -/
def writeConstraint (constraint : ConstraintResult) : Text :=
  [writeText 128 constraint.name, writeBoolean constraint.passed,
    writeText 512 constraint.detail].flatten

/-- The next constraint result. -/
def readConstraint (limits : Limits) : PayloadReader ConstraintResult := do
  let name ← readText limits 128
  let passed ← readBoolean
  let detail ← readText limits 512
  pure { name, passed, detail }

/-- A constraint result within the bounds of its codec. -/
def ConstraintResult.Fits (limits : Limits) (constraint : ConstraintResult) : Prop :=
  FitsText limits 128 constraint.name ∧ FitsText limits 512 constraint.detail

theorem codes_constraint (limits : Limits) :
    Codes (ConstraintResult.Fits limits) (readConstraint limits) writeConstraint := by
  refine Fields.codes ?_ (fun _ => Iff.rfl) fun _ _ => rfl
  refine .field (codes_text limits (by decide)) fun name => ?_
  refine .free codes_boolean fun passed => ?_
  refine .only (codes_text limits (by decide)) fun detail => ?_
  refine .done fun record => ?_
  cases record
  simp [and_assoc]

/-- Append a comparison factor. -/
def writeFactor (factor : ComparisonFactor R) : Text :=
  [writeId factor.metric, writeEnum factor.op, writeU32 factor.priority,
    writeReal factor.threshold, writeBoolean factor.hasValues, writeReal factor.baselineValue,
    writeReal factor.candidateValue, writeReal factor.delta, writeBoolean factor.satisfied,
    writeBoolean factor.decisive, writeText 512 factor.detail].flatten

/-- The next comparison factor. -/
def readFactor (limits : Limits) : PayloadReader (ComparisonFactor R) := do
  let metric ← readId
  let op ← readEnum "comparison op"
  let priority ← readU32
  let threshold ← readReal
  let hasValues ← readBoolean
  let baselineValue ← readReal
  let candidateValue ← readReal
  let delta ← readReal
  let satisfied ← readBoolean
  let decisive ← readBoolean
  let detail ← readText limits 512
  pure { metric, op, priority, threshold, hasValues, baselineValue, candidateValue, delta,
         satisfied, decisive, detail }

/-- A comparison factor within the bounds of its codec. -/
def ComparisonFactor.Fits (limits : Limits) (factor : ComparisonFactor R) : Prop :=
  factor.metric.Fits ∧ FitsU32 factor.priority ∧ FitsText limits 512 factor.detail

theorem codes_factor (limits : Limits) :
    Codes (ComparisonFactor.Fits (R := R) limits) (readFactor limits) writeFactor := by
  refine Fields.codes ?_ (fun _ => Iff.rfl) fun _ _ => rfl
  refine .field codes_id fun metric => ?_
  refine .free (codes_enum _) fun op => ?_
  refine .field codes_u32 fun priority => ?_
  refine .free codes_real fun threshold => ?_
  refine .free codes_boolean fun hasValues => ?_
  refine .free codes_real fun baselineValue => ?_
  refine .free codes_real fun candidateValue => ?_
  refine .free codes_real fun delta => ?_
  refine .free codes_boolean fun satisfied => ?_
  refine .free codes_boolean fun decisive => ?_
  refine .only (codes_text limits (by decide)) fun detail => ?_
  refine .done fun record => ?_
  cases record
  simp [and_assoc]

/-- Append a metric aggregate. -/
def writeAggregate (aggregate : MetricAggregate R) : Text :=
  [writeId aggregate.metric, writeEnum aggregate.rule, writeBoolean aggregate.present,
    writeReal aggregate.value, writeText 128 aggregate.category, writeU32 aggregate.validCount,
    writeU32 aggregate.invalidCount, writeU32 aggregate.missingCount,
    writeU32 aggregate.unsupportedCount, writeVector writeReal aggregate.rawValues,
    writeVector (writeText 64) aggregate.trialOrder].flatten

/-- The next metric aggregate. -/
def readAggregate (limits : Limits) : PayloadReader (MetricAggregate R) := do
  let metric ← readId
  let rule ← readEnum "aggregation rule"
  let present ← readBoolean
  let value ← readReal
  let category ← readText limits 128
  let validCount ← readU32
  let invalidCount ← readU32
  let missingCount ← readU32
  let unsupportedCount ← readU32
  let rawValues ← readVector 4096 readReal
  let trialOrder ← readVector 4096 (readText limits 64)
  pure { metric, rule, present, value, category, validCount, invalidCount, missingCount,
         unsupportedCount, rawValues, trialOrder }

/-- A metric aggregate within the bounds of its codec. -/
def MetricAggregate.Fits (limits : Limits) (aggregate : MetricAggregate R) : Prop :=
  aggregate.metric.Fits ∧ FitsText limits 128 aggregate.category ∧ FitsU32 aggregate.validCount ∧
    FitsU32 aggregate.invalidCount ∧ FitsU32 aggregate.missingCount ∧
    FitsU32 aggregate.unsupportedCount ∧ FitsVector 4096 (fun _ => True) aggregate.rawValues ∧
    FitsVector 4096 (FitsText limits 64) aggregate.trialOrder

theorem codes_aggregate (limits : Limits) :
    Codes (MetricAggregate.Fits (R := R) limits) (readAggregate limits) writeAggregate := by
  refine Fields.codes ?_ (fun _ => Iff.rfl) fun _ _ => rfl
  refine .field codes_id fun metric => ?_
  refine .free (codes_enum _) fun rule => ?_
  refine .free codes_boolean fun present => ?_
  refine .free codes_real fun value => ?_
  refine .field (codes_text limits (by decide)) fun category => ?_
  refine .field codes_u32 fun validCount => ?_
  refine .field codes_u32 fun invalidCount => ?_
  refine .field codes_u32 fun missingCount => ?_
  refine .field codes_u32 fun unsupportedCount => ?_
  refine .field (codes_vector (by decide) codes_real) fun rawValues => ?_
  refine .only (codes_vector (by decide) (codes_text limits (by decide))) fun trialOrder => ?_
  refine .done fun record => ?_
  cases record
  simp [and_assoc]

/-- Append the evidence of a branch. -/
def writeBranchEvidence (evidence : BranchEvidence R) : Text :=
  [writeId evidence.branch, writeId evidence.generation, writeEnum evidence.role,
    writeEnum evidence.state, writeU32 evidence.plannedTrials, writeU32 evidence.completedTrials,
    writeU32 evidence.failedTrials, writeU32 evidence.cancelledTrials,
    writeU32 evidence.invalidTrials, writeU32 evidence.supersededTrials,
    writeU32 evidence.openTrials, writeVector writeAggregate evidence.aggregates].flatten

/-- The next evidence of a branch. -/
def readBranchEvidence (limits : Limits) : PayloadReader (BranchEvidence R) := do
  let branch ← readId
  let generation ← readId
  let role ← readEnum "branch role"
  let state ← readEnum "branch state"
  let plannedTrials ← readU32
  let completedTrials ← readU32
  let failedTrials ← readU32
  let cancelledTrials ← readU32
  let invalidTrials ← readU32
  let supersededTrials ← readU32
  let openTrials ← readU32
  let aggregates ← readVector 128 (readAggregate limits)
  pure { branch, generation, role, state, plannedTrials, completedTrials, failedTrials,
         cancelledTrials, invalidTrials, supersededTrials, openTrials, aggregates }

/-- The evidence of a branch within the bounds of its codec. -/
def BranchEvidence.Fits (limits : Limits) (evidence : BranchEvidence R) : Prop :=
  evidence.branch.Fits ∧ evidence.generation.Fits ∧ FitsU32 evidence.plannedTrials ∧
    FitsU32 evidence.completedTrials ∧ FitsU32 evidence.failedTrials ∧
    FitsU32 evidence.cancelledTrials ∧ FitsU32 evidence.invalidTrials ∧
    FitsU32 evidence.supersededTrials ∧ FitsU32 evidence.openTrials ∧
    FitsVector 128 (MetricAggregate.Fits limits) evidence.aggregates

theorem codes_branchEvidence (limits : Limits) :
    Codes (BranchEvidence.Fits (R := R) limits) (readBranchEvidence limits) writeBranchEvidence := by
  refine Fields.codes ?_ (fun _ => Iff.rfl) fun _ _ => rfl
  refine .field codes_id fun branch => ?_
  refine .field codes_id fun generation => ?_
  refine .free (codes_enum _) fun role => ?_
  refine .free (codes_enum _) fun state => ?_
  refine .field codes_u32 fun plannedTrials => ?_
  refine .field codes_u32 fun completedTrials => ?_
  refine .field codes_u32 fun failedTrials => ?_
  refine .field codes_u32 fun cancelledTrials => ?_
  refine .field codes_u32 fun invalidTrials => ?_
  refine .field codes_u32 fun supersededTrials => ?_
  refine .field codes_u32 fun openTrials => ?_
  refine .only (codes_vector (by decide) (codes_aggregate limits)) fun aggregates => ?_
  refine .done fun record => ?_
  cases record
  simp [and_assoc]

/-- Append a rejected piece of evidence. -/
def writeRejectedEvidence (evidence : RejectedEvidence) : Text :=
  [writeText 64 evidence.kind, writeU64 evidence.identifier, writeErrorCode evidence.reason,
    writeText 512 evidence.detail].flatten

/-- The next rejected piece of evidence. -/
def readRejectedEvidence (limits : Limits) : PayloadReader RejectedEvidence := do
  let kind ← readText limits 64
  let identifier ← readU64
  let reason ← readErrorCode
  let detail ← readText limits 512
  pure { kind, identifier, reason, detail }

/-- A rejected piece of evidence within the bounds of its codec. -/
def RejectedEvidence.Fits (limits : Limits) (evidence : RejectedEvidence) : Prop :=
  FitsText limits 64 evidence.kind ∧ FitsU64 evidence.identifier ∧
    FitsText limits 512 evidence.detail

theorem codes_rejectedEvidence (limits : Limits) :
    Codes (RejectedEvidence.Fits limits) (readRejectedEvidence limits) writeRejectedEvidence := by
  refine Fields.codes ?_ (fun _ => Iff.rfl) fun _ _ => rfl
  refine .field (codes_text limits (by decide)) fun kind => ?_
  refine .field codes_u64 fun identifier => ?_
  refine .free codes_errorCode fun reason => ?_
  refine .only (codes_text limits (by decide)) fun detail => ?_
  refine .done fun record => ?_
  cases record
  simp [and_assoc]

/-- Append a decision. -/
def writeDecision (decision : Decision R) : Text :=
  [writeId decision.id, writeId decision.experiment, writeId decision.generation,
    writeId decision.hypothesis, writeId decision.hypothesisRevision, writeId decision.policy,
    writeId decision.policyGeneration, writeVector writeId decision.comparedBranches,
    writeId decision.baseline, writeBoolean decision.baselinePresent, writeId decision.candidate,
    writeEnum decision.outcome, writeEnum decision.reasonKind, writeText 4096 decision.reason,
    writeVector writeConstraint decision.constraints, writeVector writeFactor decision.factors,
    writeVector writeBranchEvidence decision.evidence,
    writeVector writeRejectedEvidence decision.rejectedEvidence,
    writeText 256 decision.tieBreakRule, writeBoolean decision.tied,
    writeDigest decision.canonicalStateDigest, writeU64 decision.sequence].flatten

/-- The next decision. -/
def readDecision (limits : Limits) : PayloadReader (Decision R) := do
  let id ← readId
  let experiment ← readId
  let generation ← readId
  let hypothesis ← readId
  let hypothesisRevision ← readId
  let policy ← readId
  let policyGeneration ← readId
  let comparedBranches ← readVector 256 readId
  let baseline ← readId
  let baselinePresent ← readBoolean
  let candidate ← readId
  let outcome ← readEnum "decision outcome"
  let reasonKind ← readEnum "failure kind"
  let reason ← readText limits 4096
  let constraints ← readVector 512 (readConstraint limits)
  let factors ← readVector 512 (readFactor limits)
  let evidence ← readVector 256 (readBranchEvidence limits)
  let rejectedEvidence ← readVector 4096 (readRejectedEvidence limits)
  let tieBreakRule ← readText limits 256
  let tied ← readBoolean
  let canonicalStateDigest ← readDigest
  let sequence ← readU64
  pure { id, experiment, generation, hypothesis, hypothesisRevision, policy, policyGeneration,
         comparedBranches, baseline, baselinePresent, candidate, outcome, reasonKind, reason,
         constraints, factors, evidence, rejectedEvidence, tieBreakRule, tied,
         canonicalStateDigest, sequence }

/-- A decision within the bounds of its codec. -/
def Decision.Fits (limits : Limits) (decision : Decision R) : Prop :=
  decision.id.Fits ∧ decision.experiment.Fits ∧ decision.generation.Fits ∧
    decision.hypothesis.Fits ∧ decision.hypothesisRevision.Fits ∧ decision.policy.Fits ∧
    decision.policyGeneration.Fits ∧ FitsVector 256 StrongId.Fits decision.comparedBranches ∧
    decision.baseline.Fits ∧ decision.candidate.Fits ∧ FitsText limits 4096 decision.reason ∧
    FitsVector 512 (ConstraintResult.Fits limits) decision.constraints ∧
    FitsVector 512 (ComparisonFactor.Fits limits) decision.factors ∧
    FitsVector 256 (BranchEvidence.Fits limits) decision.evidence ∧
    FitsVector 4096 (RejectedEvidence.Fits limits) decision.rejectedEvidence ∧
    FitsText limits 256 decision.tieBreakRule ∧ FitsDigest decision.canonicalStateDigest ∧
    FitsU64 decision.sequence

theorem codes_decision (limits : Limits) :
    Codes (Decision.Fits (R := R) limits) (readDecision limits) writeDecision := by
  refine Fields.codes ?_ (fun _ => Iff.rfl) fun _ _ => rfl
  refine .field codes_id fun id => ?_
  refine .field codes_id fun experiment => ?_
  refine .field codes_id fun generation => ?_
  refine .field codes_id fun hypothesis => ?_
  refine .field codes_id fun hypothesisRevision => ?_
  refine .field codes_id fun policy => ?_
  refine .field codes_id fun policyGeneration => ?_
  refine .field (codes_vector (by decide) codes_id) fun comparedBranches => ?_
  refine .field codes_id fun baseline => ?_
  refine .free codes_boolean fun baselinePresent => ?_
  refine .field codes_id fun candidate => ?_
  refine .free (codes_enum _) fun outcome => ?_
  refine .free (codes_enum _) fun reasonKind => ?_
  refine .field (codes_text limits (by decide)) fun reason => ?_
  refine .field (codes_vector (by decide) (codes_constraint limits)) fun constraints => ?_
  refine .field (codes_vector (by decide) (codes_factor limits)) fun factors => ?_
  refine .field (codes_vector (by decide) (codes_branchEvidence limits)) fun evidence => ?_
  refine .field (codes_vector (by decide) (codes_rejectedEvidence limits)) fun rejectedEvidence => ?_
  refine .field (codes_text limits (by decide)) fun tieBreakRule => ?_
  refine .free codes_boolean fun tied => ?_
  refine .field codes_digest fun canonicalStateDigest => ?_
  refine .only codes_u64 fun sequence => ?_
  refine .done fun record => ?_
  cases record
  simp [and_assoc]

/-! ## Rollback points and workers -/

/-- Append the authority of a branch. -/
def writeBranchAuthority (snapshot : BranchAuthoritySnapshot) : Text :=
  [writeId snapshot.branch, writeId snapshot.generation, writeEnum snapshot.state].flatten

/-- The next authority of a branch. -/
def readBranchAuthority : PayloadReader BranchAuthoritySnapshot := do
  let branch ← readId
  let generation ← readId
  let state ← readEnum "branch state"
  pure { branch, generation, state }

/-- The authority of a branch within the bounds of its codec. -/
def BranchAuthoritySnapshot.Fits (snapshot : BranchAuthoritySnapshot) : Prop :=
  snapshot.branch.Fits ∧ snapshot.generation.Fits

theorem codes_branchAuthority :
    Codes BranchAuthoritySnapshot.Fits readBranchAuthority writeBranchAuthority := by
  refine Fields.codes ?_ (fun _ => Iff.rfl) fun _ _ => rfl
  refine .field codes_id fun branch => ?_
  refine .only codes_id fun generation => ?_
  refine .free (codes_enum _) fun state => ?_
  refine .done fun record => ?_
  cases record
  simp [and_assoc]

/-- Append a rollback point. -/
def writeRollbackPoint (point : RollbackPoint) : Text :=
  [writeId point.id, writeId point.experiment, writeId point.generation,
    writeId point.restoredFrom, writeId point.decision, writeBoolean point.decisionPresent,
    writeDigest point.stateDigest, writeVector writeBranchAuthority point.authority,
    writeU64 point.sequence].flatten

/-- The next rollback point. -/
def readRollbackPoint : PayloadReader RollbackPoint := do
  let id ← readId
  let experiment ← readId
  let generation ← readId
  let restoredFrom ← readId
  let decision ← readId
  let decisionPresent ← readBoolean
  let stateDigest ← readDigest
  let authority ← readVector 256 readBranchAuthority
  let sequence ← readU64
  pure { id, experiment, generation, restoredFrom, decision, decisionPresent, stateDigest,
         authority, sequence }

/-- A rollback point within the bounds of its codec. -/
def RollbackPoint.Fits (point : RollbackPoint) : Prop :=
  point.id.Fits ∧ point.experiment.Fits ∧ point.generation.Fits ∧ point.restoredFrom.Fits ∧
    point.decision.Fits ∧ FitsDigest point.stateDigest ∧
    FitsVector 256 BranchAuthoritySnapshot.Fits point.authority ∧ FitsU64 point.sequence

theorem codes_rollbackPoint :
    Codes RollbackPoint.Fits readRollbackPoint writeRollbackPoint := by
  refine Fields.codes ?_ (fun _ => Iff.rfl) fun _ _ => rfl
  refine .field codes_id fun id => ?_
  refine .field codes_id fun experiment => ?_
  refine .field codes_id fun generation => ?_
  refine .field codes_id fun restoredFrom => ?_
  refine .field codes_id fun decision => ?_
  refine .free codes_boolean fun decisionPresent => ?_
  refine .field codes_digest fun stateDigest => ?_
  refine .field (codes_vector (by decide) codes_branchAuthority) fun authority => ?_
  refine .only codes_u64 fun sequence => ?_
  refine .done fun record => ?_
  cases record
  simp [and_assoc]

/-- Append a worker incarnation. -/
def writeWorkerIncarnation (incarnation : WorkerIncarnation) : Text :=
  [writeId incarnation.worker, writeId incarnation.boot, writeId incarnation.epoch,
    writeId incarnation.producer, writeText 256 incarnation.endpoint,
    writeText 512 incarnation.fingerprint, writeU64 incarnation.registeredSequence,
    writeBoolean incarnation.revoked, writeEnum incarnation.revocationKind,
    writeU64 incarnation.revokedSequence].flatten

/-- The next worker incarnation. -/
def readWorkerIncarnation (limits : Limits) : PayloadReader WorkerIncarnation := do
  let worker ← readId
  let boot ← readId
  let epoch ← readId
  let producer ← readId
  let endpoint ← readText limits 256
  let fingerprint ← readText limits 512
  let registeredSequence ← readU64
  let revoked ← readBoolean
  let revocationKind ← readEnum "failure kind"
  let revokedSequence ← readU64
  pure { worker, boot, epoch, producer, endpoint, fingerprint, registeredSequence, revoked,
         revocationKind, revokedSequence }

/-- A worker incarnation within the bounds of its codec. -/
def WorkerIncarnation.Fits (limits : Limits) (incarnation : WorkerIncarnation) : Prop :=
  incarnation.worker.Fits ∧ incarnation.boot.Fits ∧ incarnation.epoch.Fits ∧
    incarnation.producer.Fits ∧ FitsText limits 256 incarnation.endpoint ∧
    FitsText limits 512 incarnation.fingerprint ∧ FitsU64 incarnation.registeredSequence ∧
    FitsU64 incarnation.revokedSequence

theorem codes_workerIncarnation (limits : Limits) :
    Codes (WorkerIncarnation.Fits limits) (readWorkerIncarnation limits) writeWorkerIncarnation := by
  refine Fields.codes ?_ (fun _ => Iff.rfl) fun _ _ => rfl
  refine .field codes_id fun worker => ?_
  refine .field codes_id fun boot => ?_
  refine .field codes_id fun epoch => ?_
  refine .field codes_id fun producer => ?_
  refine .field (codes_text limits (by decide)) fun endpoint => ?_
  refine .field (codes_text limits (by decide)) fun fingerprint => ?_
  refine .field codes_u64 fun registeredSequence => ?_
  refine .free codes_boolean fun revoked => ?_
  refine .free (codes_enum _) fun revocationKind => ?_
  refine .only codes_u64 fun revokedSequence => ?_
  refine .done fun record => ?_
  cases record
  simp [and_assoc]

end Reals

end ExperimentFabric
