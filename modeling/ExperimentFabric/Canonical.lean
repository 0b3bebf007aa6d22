import ExperimentFabric.Decision
import ExperimentFabric.Hash
import ExperimentFabric.Lib.Sorting
import ExperimentFabric.Lib.Streams
import ExperimentFabric.ModelCodecs

/-!
# Canonical encodings

The byte streams that the canonical digests are computed over.  Collections are sorted by a standard
sort, which need not be stable; parameter lists are sorted stably by all of their fields.  Words are
written as on the wire, texts after a 64-bit length and tags after a 32-bit length.
-/

namespace ExperimentFabric

open Lib

/-- The shortest decimal text of a real that reads back as it; the buffer has 64 characters. -/
class ToChars (R : Type) where
  toChars : R → Text
  toChars_length : ∀ value, (toChars value).length ≤ 64

namespace Canonical

variable {R : Type} [MetricReal R] [ToChars R]

/-- The text of a real; zeros of either sign have one text. -/
def encodeReal (value : R) : Text :=
  if !MetricReal.eq value value then text "nan"
  else if !MetricReal.isFinite value then
    if MetricReal.lt (MetricReal.ofInt 0) value then text "inf" else text "-inf"
  else if MetricReal.eq value (MetricReal.ofInt 0) then text "0"
  else ToChars.toChars value

/-! ## Writers -/

/-- Append a tag after its length. -/
def writeTag (tag : Text) : Text := writeU32 tag.length ++ tag

/-- Append a text after its length. -/
def writeText (value : Text) : Text := writeU64 value.length ++ value

/-- Append the text of a real. -/
def writeReal (value : R) : Text := writeText (encodeReal value)

/-- Append the meaningful member of a metric value. -/
def writeMetricValue (value : MetricValue R) : Text :=
  writeEnum value.kind ++
    match value.kind with
    | .real => writeReal value.real
    | .integer => writeInteger value.integer
    | .boolean => writeBoolean value.boolean
    | .categorical => writeText value.category

/-- Append a parameter. -/
def writeParameter (tag : Text) (parameter : ParameterAssignment) : Text :=
  [writeTag tag, writeText parameter.key, writeEnum parameter.kind,
    writeText parameter.value].flatten

/-- Append a parameter list in canonical order. -/
def writeParameters (parameters : List ParameterAssignment) : Text :=
  writeVector (writeParameter (text "parameter")) (normalizeParameters parameters)

/-- Append a comparison rule. -/
def writeRule (tag : Text) (rule : ComparisonRule R) : Text :=
  [writeTag tag, writeId rule.metric, writeEnum rule.op, writeReal rule.threshold,
    writeReal rule.targetLow, writeReal rule.targetHigh, writeU32 rule.priority].flatten

end Canonical

/-- The input set of a branch that has one. -/
def BranchDefinition.presentInputSet (branch : BranchDefinition) : Option InputSetId :=
  if branch.inputSetPresent then some branch.inputSet else none

/-- The environment of a branch that has one. -/
def BranchDefinition.presentEnvironment (branch : BranchDefinition) : Option EnvironmentId :=
  if branch.environmentPresent then some branch.environment else none

namespace Canonical

/-- Append a branch. -/
def writeBranch (tag : Text) (branch : BranchDefinition) : Text :=
  [writeTag tag, writeId branch.id, writeText branch.name, writeEnum branch.role,
    writeId branch.parent, writeId branch.generation, writeEnum branch.state,
    writeParameters branch.parameters, writeOptional writeId branch.presentInputSet,
    writeOptional writeId branch.presentEnvironment, writeText branch.environmentFingerprint,
    writeOptional writeSeed branch.seed, writeU32 branch.plannedTrials,
    writeBoolean branch.forked].flatten

section Evidence

variable {R : Type} [MetricReal R] [ToChars R]

/-- Append an aggregate. -/
def writeAggregate (aggregate : MetricAggregate R) : Text :=
  [writeId aggregate.metric, writeEnum aggregate.rule, writeBoolean aggregate.present,
    writeReal aggregate.value, writeText aggregate.category, writeU32 aggregate.validCount,
    writeU32 aggregate.invalidCount, writeU32 aggregate.missingCount,
    writeU32 aggregate.unsupportedCount, writeVector writeReal aggregate.rawValues].flatten

/-- Append the evidence of a branch. -/
def writeBranchEvidence (tag : Text) (evidence : BranchEvidence R) : Text :=
  [writeTag tag, writeId evidence.branch, writeId evidence.generation, writeEnum evidence.role,
    writeEnum evidence.state, writeU32 evidence.plannedTrials, writeU32 evidence.completedTrials,
    writeU32 evidence.failedTrials, writeU32 evidence.cancelledTrials,
    writeU32 evidence.invalidTrials, writeU32 evidence.supersededTrials,
    writeU32 evidence.openTrials, writeVector writeAggregate evidence.aggregates].flatten

/-- Append an observation. -/
def writeObservation (tag : Text) (observation : Observation R) : Text :=
  [writeTag tag, writeId observation.id, writeId observation.experiment,
    writeId observation.generation, writeId observation.branch,
    writeId observation.branchGeneration, writeId observation.trial, writeId observation.attempt,
    writeId observation.metric, writeId observation.producer, writeEnum observation.validity,
    writeMetricValue observation.value, writeText observation.detail].flatten

end Evidence

/-- Append a trial. -/
def writeTrial (tag : Text) (trial : TrialRecord) : Text :=
  [writeTag tag, writeId trial.id, writeId trial.branch, writeId trial.branchGeneration,
    writeId trial.generation, writeEnum trial.state, writeId trial.authoritativeAttempt,
    writeU32 trial.committedAttempts, writeEnum trial.failureKind].flatten

section Sorted

variable {R : Type} [MetricReal R] [ToChars R] [StdSort]

/-- Categories in their order. -/
def sortedCategories (categories : List Text) : List Text :=
  StdSort.sort (fun left right => left < right) categories

/-- Rules by priority, then by metric. -/
def sortedRules (rules : List (ComparisonRule R)) : List (ComparisonRule R) :=
  StdSort.sort rulePrecedes rules

/-- Branches by identity. -/
def sortedBranches (branches : List BranchDefinition) : List BranchDefinition :=
  StdSort.sort (fun left right => left.id < right.id) branches

/-- Metrics by identity. -/
def sortedMetrics (metrics : List (MetricDefinition R)) : List (MetricDefinition R) :=
  StdSort.sort (fun left right => left.id < right.id) metrics

/-- Append a metric. -/
def writeMetric (tag : Text) (metric : MetricDefinition R) : Text :=
  [writeTag tag, writeId metric.id, writeText metric.name, writeText metric.unit,
    writeEnum metric.kind, writeEnum metric.direction, writeEnum metric.aggregation,
    writeBoolean metric.required, writeBoolean metric.acceptsNonFinite,
    writeOptional writeReal metric.lowerBound, writeOptional writeReal metric.upperBound,
    writeOptional writeReal metric.targetLow, writeOptional writeReal metric.targetHigh,
    writeU32 metric.weight, writeU32 metric.priority,
    writeVector writeText (sortedCategories metric.categories)].flatten

/-- Append a comparison policy. -/
def writePolicy (tag : Text) (policy : ComparisonPolicy R) : Text :=
  [writeTag tag, writeId policy.id, writeId policy.generation, writeBoolean policy.requireBaseline,
    writeU32 policy.minCompletedTrialsPerBranch,
    writeU32 policy.minValidObservationsPerRequiredMetric,
    writeBoolean policy.rejectOnAnyInvalidObservation, writeBoolean policy.requireEnvironmentMatch,
    writeU32 policy.majorityWinsMinBasisPoints, writeBoolean policy.useWeightedScore,
    writeReal policy.acceptScoreThreshold,
    writeVector (writeRule (text "rule")) (sortedRules policy.rules)].flatten

/-! ## Streams -/

/-- What the digest of a definition is computed over; 1 is the encoding revision. -/
def definitionStream (definition : ExperimentDefinition R) : Text :=
  [writeTag (text "experiment-definition"), writeU32 1, writeId definition.id,
    writeId definition.generation, writeId definition.hypothesis,
    writeId definition.hypothesisRevision, writeText definition.name,
    writeVector (writeBranch (text "branch")) (sortedBranches definition.branches),
    writeVector (writeMetric (text "metric")) (sortedMetrics definition.metrics),
    writePolicy (text "policy") definition.policy, writeEnum definition.seedPolicy,
    writeOptional writeSeed definition.experimentSeed, writeEnum definition.retryPolicy,
    writeU32 definition.maxAttemptsPerTrial, writeEnum definition.partialFailurePolicy,
    writeEnum definition.lateEvidencePolicy, writeParameters definition.parameters,
    writeText definition.provenance].flatten

/-- What the digest of a policy is computed over. -/
def policyStream (policy : ComparisonPolicy R) : Text :=
  writePolicy (text "comparison-policy") policy

end Sorted

/-- What the digest of a branch is computed over. -/
def branchStream (branch : BranchDefinition) : Text :=
  writeBranch (text "branch-definition") branch

/-- What the digest of a hypothesis is computed over. -/
def hypothesisStream (hypothesis : Hypothesis) : Text :=
  [writeTag (text "hypothesis"), writeId hypothesis.id, writeId hypothesis.revision,
    writeText hypothesis.statement, writeOptional writeEnum hypothesis.expectedDirection,
    writeId hypothesis.expectedMetric, writeId hypothesis.parent, writeId hypothesis.parentRevision,
    writeText hypothesis.provenance].flatten

/-! ## Digests -/

/-- Digest of a branch. -/
def branchDigest (branch : BranchDefinition) : Digest := Sha256.digestOf (branchStream branch)

/-- Digest of a hypothesis. -/
def hypothesisDigest (hypothesis : Hypothesis) : Digest :=
  Sha256.digestOf (hypothesisStream hypothesis)

section Digests

variable {R : Type} [MetricReal R] [ToChars R] [StdSort]

/-- Digest of an experiment definition. -/
def definitionDigest (definition : ExperimentDefinition R) : Digest :=
  Sha256.digestOf (definitionStream definition)

/-- Digest of a comparison policy. -/
def policyDigest (policy : ComparisonPolicy R) : Digest := Sha256.digestOf (policyStream policy)

/-- Digest of the evidence of a decision. -/
def evidenceDigest (evidence : List (BranchEvidence R)) (definition : ExperimentDefinition R) :
    Digest :=
  Sha256.digestOf ([writeTag (text "experiment-evidence"), writeId definition.id,
    writeId definition.generation, writeId definition.hypothesisRevision].flatten ++
      (evidence.map (writeBranchEvidence (text "branch-evidence"))).flatten)

/-- The digests that the governance core stores. -/
@[reducible]
def canonicalDigests : CanonicalDigests R where
  definitionDigest := definitionDigest
  evidenceDigest := evidenceDigest

end Digests

end Canonical

end ExperimentFabric
