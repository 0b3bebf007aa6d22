import ExperimentFabric.Lib.Checks
import ExperimentFabric.State

/-!
# Validation of the durable state

The validator that runs on every load and on the record changed by a definition mutation.  Checks
run in the order of the runtime and report the first failure.
-/

namespace ExperimentFabric

open Lib

variable {R : Type} [MetricReal R]

namespace Validation

/-- A failure blaming the persisted image. -/
def corrupt (reason : Text) : Status := ⟨.corruptPersistence, .persistence, reason⟩

/-- A failure blaming the content of a definition. -/
def invalid (reason : Text) : Status := ⟨.invalidArgument, .validation, reason⟩

/-- A failure blaming a bound. -/
def limitsError (reason : Text) : Status := ⟨.resourceExhausted, .limits, reason⟩

/-- Highest generation value accepted from persisted state. -/
def maxGeneration : Nat := 2 ^ 32

/-- Depth bound of a branch lineage. -/
def maxLineageWalk : Nat := 4096

/-- Follow the parents of `cursor`; `remaining` further branches may still be visited. -/
def walkLineage (branches : List BranchDefinition) (context : Text) :
    Nat → List BranchId → BranchId → Check Status
  | remaining, seen, cursor =>
      if !cursor.valid then .ok ()
      else if cursor ∈ seen then
        .error (corrupt (context ++ text ": branch lineage contains a cycle"))
      else match remaining with
        | 0 => .error (corrupt (context ++ text ": branch lineage exceeds depth bound"))
        | remaining + 1 =>
            match branches.find? (·.id = cursor) with
            | none => .ok ()
            | some branch => walkLineage branches context remaining (cursor :: seen) branch.parent

/-- Branch parentage: identities, parents, the required baseline, and no cycle. -/
def validateBranchLineage (definition : ExperimentDefinition R) (context : Text) : Check Status :=
  let branches := definition.branches
  let known := branches.map BranchDefinition.id
  sequence [
    scan (fun before branch => sequence [
      require branch.id.valid (corrupt (context ++ text ": null branch identity")),
      require (branch.id ∉ before.map BranchDefinition.id)
        (corrupt (context ++ text ": duplicate branch identity"))]) [] branches,
    forEach (fun branch => sequence [
      require (!branch.parent.valid || branch.parent ∈ known)
        (corrupt (context ++ text ": branch parent does not exist")),
      require (branch.parent ≠ branch.id)
        (corrupt (context ++ text ": branch is its own parent"))]) branches,
    require (!definition.policy.requireBaseline || branches.any (·.role = .baseline))
      (corrupt (context ++ text ": policy requires a baseline branch but none is designated")),
    forEach (fun branch => walkLineage branches context maxLineageWalk [] branch.id) branches]

/-- Both bounds are declared and the lower exceeds the upper. -/
def inverted (low high : Option R) : Bool :=
  match low, high with
  | some low, some high => MetricReal.lt high low
  | _, _ => false

/-- Metrics, comparison rules and scoring of a definition. -/
def validateMetrics (definition : ExperimentDefinition R) (limits : Limits) (context : Text) :
    Check Status :=
  let metrics := definition.metrics
  let policy := definition.policy
  sequence [
    require (metrics.length ≤ limits.maxMetricsPerExperiment)
      (limitsError (context ++ text ": too many metric definitions")),
    scan (fun before metric => sequence [
      require metric.id.valid (corrupt (context ++ text ": null metric identity")),
      require (metric.id ∉ before.map MetricDefinition.id)
        (corrupt (context ++ text ": duplicate metric identity")),
      require (metric.name ≠ [] && metric.name.length ≤ limits.maxNameLength)
        (invalid (context ++ text ": metric name is empty or too long")),
      require (metric.name ∉ before.map MetricDefinition.name)
        (invalid (context ++ text ": duplicate metric name")),
      require (!(metric.kind = .categorical && metric.aggregation ≠ .majority &&
          metric.aggregation ≠ .none))
        (invalid (context ++ text ": categorical metric requires MAJORITY or NONE aggregation")),
      require (!((metric.kind = .real || metric.kind = .integer) &&
          metric.aggregation = .majority))
        (invalid (context ++ text ": numeric metric cannot use MAJORITY aggregation")),
      require (!inverted metric.lowerBound metric.upperBound)
        (invalid (context ++ text ": metric validity bounds are inverted")),
      require (!inverted metric.targetLow metric.targetHigh)
        (invalid (context ++ text ": metric target range is inverted"))]) [] metrics,
    require (policy.rules.length ≤ limits.maxComparisonRules)
      (limitsError (context ++ text ": too many comparison rules")),
    forEach (fun rule => sequence [
      require (rule.metric ∈ metrics.map MetricDefinition.id)
        (corrupt (context ++ text ": comparison rule references an unknown metric")),
      require (!(rule.op = .targetRange && MetricReal.lt rule.targetHigh rule.targetLow))
        (invalid (context ++ text ": comparison target range is inverted")),
      require (!(rule.op = .majorityWins &&
          (MetricReal.lt rule.threshold (MetricReal.ofInt 0) ||
            MetricReal.lt (MetricReal.ofInt 1) rule.threshold)))
        (invalid (context ++ text ": majority-wins threshold must be a fraction in [0,1]"))])
      policy.rules,
    require (!policy.useWeightedScore ||
        metrics.all fun metric => !(metric.required && metric.direction = .informational))
      (invalid (context ++ text ": weighted scoring requires a directional required metric")),
    require (policy.majorityWinsMinBasisPoints ≤ 10000)
      (invalid (context ++ text ": majority-wins basis points out of range"))]

/-- A generation value that is neither null nor absurd. -/
def generationInRange (generation : ExperimentGeneration) : Bool :=
  generation.value ≠ 0 && generation.value ≤ maxGeneration

/-- The definition and the current hypothesis of a record. -/
def validateDefinition (record : ExperimentRecord R) (limits : Limits) (id : ExperimentId)
    (context : Text) : Check Status :=
  let definition := record.definition
  sequence [
    require (definition.id = id)
      (corrupt (context ++ text ": definition identity does not match its record key")),
    require (generationInRange definition.generation)
      (corrupt (context ++ text ": experiment generation is out of range")),
    require (record.hypothesis.id.valid && record.hypothesis.revision.valid)
      (corrupt (context ++ text ": hypothesis identity or revision is null")),
    require (record.hypothesis.id = definition.hypothesis)
      (corrupt (context ++ text ": definition hypothesis does not match the current hypothesis")),
    require (record.hypothesis.revision = definition.hypothesisRevision)
      (corrupt (context ++
        text ": definition hypothesis revision does not match the current hypothesis")),
    require (definition.branches.length ≤ limits.maxBranchesPerExperiment)
      (limitsError (context ++ text ": too many branch definitions")),
    require (definition.branches ≠ [] : Bool)
      (invalid (context ++ text ": experiment has no branches")),
    validateBranchLineage definition context,
    validateMetrics definition limits context,
    require (!hasDuplicateParameterKey definition.parameters)
      (invalid (context ++ text ": duplicate experiment parameter key")),
    forEach (fun branch => sequence [
      require (!hasDuplicateParameterKey branch.parameters)
        (invalid (context ++ text ": duplicate branch parameter key")),
      require (branch.plannedTrials ≠ 0 && branch.plannedTrials ≤ limits.maxTrialsPerBranch)
        (limitsError (context ++ text ": branch planned trial count is out of range"))])
      definition.branches]

/-- Trials and attempts of a record, and their committed totals. -/
def validateTrials (record : ExperimentRecord R) (limits : Limits) (context : Text) :
    Check Status :=
  let definition := record.definition
  let branches := definition.branches.map BranchDefinition.id
  sequence [
    require (record.trials.size ≤ definition.branches.length * limits.maxTrialsPerBranch)
      (limitsError (context ++ text ": too many trials")),
    forEach (fun (entry : TrialId × TrialRecord) => sequence [
      require (entry.2.id = entry.1)
        (corrupt (context ++ text ": trial key does not match its identity")),
      require (entry.2.branch ∈ branches)
        (corrupt (context ++ text ": trial references an unknown branch")),
      require (generationInRange entry.2.generation)
        (corrupt (context ++ text ": trial references an out-of-range experiment generation")),
      require (entry.2.hypothesis = definition.hypothesis)
        (corrupt (context ++ text ": trial references an unknown hypothesis")),
      require (entry.2.attemptCount ≤ limits.maxAttemptsPerTrial)
        (limitsError (context ++ text ": trial attempt count exceeds the bound")),
      require (entry.2.committedAttempts ≤ 1)
        (corrupt (context ++ text ": trial records more than one authoritative completion"))])
      record.trials.entries,
    require (record.attempts.size ≤ record.trials.size * limits.maxAttemptsPerTrial)
      (limitsError (context ++ text ": too many attempts")),
    forEach (fun (entry : TrialAttemptId × AttemptRecord) => sequence [
      require (entry.2.id = entry.1)
        (corrupt (context ++ text ": attempt key does not match its identity")),
      require (record.trials.find? entry.2.trial).isSome
        (corrupt (context ++ text ": attempt references an unknown trial")),
      require entry.2.number.valid
        (corrupt (context ++ text ": attempt number must be non-zero")),
      require (entry.2.number.value ≤ limits.maxAttemptsPerTrial)
        (limitsError (context ++ text ": attempt number exceeds the configured bound"))])
      record.attempts.entries,
    require (record.attempts.values.countP AttemptRecord.committed =
        (record.trials.values.map TrialRecord.committedAttempts).sum)
      (corrupt (context ++
        text ": committed attempt count disagrees with trial completion count")),
    forEach (fun (trial : TrialRecord) =>
      require (!trial.authoritativeAttempt.valid ||
          (record.attempts.find? trial.authoritativeAttempt).isSome)
        (corrupt (context ++ text ": trial authority references an unknown attempt")))
      record.trials.values]

/-- Bounds of the evidence collections. -/
def validateSizes (record : ExperimentRecord R) (limits : Limits) (context : Text) :
    Check Status :=
  sequence [
    require (record.observations.length ≤ limits.maxObservationsPerExperiment)
      (limitsError (context ++ text ": too many observations")),
    require (record.artifacts.length ≤ limits.maxArtifactsPerExperiment)
      (limitsError (context ++ text ": too many artifacts")),
    require (record.decisions.length ≤ limits.maxDecisionsPerExperiment)
      (limitsError (context ++ text ": too many decisions")),
    require (record.rollbackPoints.length ≤ limits.maxDecisionsPerExperiment)
      (limitsError (context ++ text ": too many rollback points"))]

/-- A valid observation of the same metric on the same trial. -/
def sameValidCell (left right : Observation R) : Bool :=
  right.validity = .valid && right.trial = left.trial && right.metric = left.metric

/-- Observations of a record and their references. -/
def validateObservations (record : ExperimentRecord R) (context : Text) : Check Status :=
  let metrics := record.definition.metrics.map MetricDefinition.id
  sequence [
    scan (fun before observation => sequence [
      require observation.id.valid (corrupt (context ++ text ": null observation identity")),
      require (observation.id ∉ before.map Observation.id)
        (corrupt (context ++ text ": duplicate observation identity")),
      require (record.trials.find? observation.trial).isSome
        (corrupt (context ++ text ": observation references an unknown trial")),
      require (record.attempts.find? observation.attempt).isSome
        (corrupt (context ++ text ": observation references an unknown attempt")),
      require (observation.metric ∈ metrics)
        (corrupt (context ++ text ": observation references an unknown metric")),
      require observation.producer.valid
        (corrupt (context ++ text ": observation has a null producer identity")),
      require (generationInRange observation.generation)
        (corrupt (context ++
          text ": observation references an out-of-range experiment generation"))])
      [] record.observations,
    forEach (fun observation =>
      require (observation.validity ≠ .valid ||
          record.observations.countP (sameValidCell observation) ≤ 1)
        (corrupt (context ++
          text ": duplicate valid observation for one metric on one trial")))
      record.observations]

/-- Artifacts of a record and the references to them. -/
def validateArtifacts (record : ExperimentRecord R) (limits : Limits) (context : Text) :
    Check Status :=
  sequence [
    scan (fun before artifact => sequence [
      require artifact.id.valid (corrupt (context ++ text ": null artifact identity")),
      require (artifact.id ∉ before.map ArtifactRecord.id)
        (corrupt (context ++ text ": duplicate artifact identity")),
      require (record.trials.find? artifact.trial).isSome
        (corrupt (context ++ text ": artifact references an unknown trial")),
      require (record.attempts.find? artifact.attempt).isSome
        (corrupt (context ++ text ": artifact references an unknown attempt")),
      require (artifact.locator ≠ [] && artifact.locator.length ≤ limits.maxLocatorLength)
        (invalid (context ++ text ": artifact locator is empty or too long"))])
      [] record.artifacts,
    forEach (fun (trial : TrialRecord) =>
      forEach (fun artifact =>
        require (artifact ∈ record.artifacts.map ArtifactRecord.id)
          (corrupt (context ++ text ": trial references an unknown artifact")))
        trial.artifacts)
      record.trials.values]

/-- Decisions of a record. -/
def validateDecisions (record : ExperimentRecord R) (context : Text) : Check Status :=
  let branches := record.definition.branches.map BranchDefinition.id
  scan (fun before decision => sequence [
    require decision.id.valid (corrupt (context ++ text ": null decision identity")),
    require (decision.id ∉ before.map Decision.id)
      (corrupt (context ++ text ": duplicate decision identity")),
    require (generationInRange decision.generation)
      (corrupt (context ++ text ": decision references an out-of-range experiment generation")),
    require (decision.candidate ∈ branches)
      (corrupt (context ++ text ": decision references an unknown candidate branch")),
    require (!decision.baselinePresent || decision.baseline ∈ branches)
      (corrupt (context ++ text ": decision references an unknown baseline branch"))])
    [] record.decisions

/-- Sequence of the last rollback point of a list, zero when there is none. -/
def lastSequence (points : List RollbackPoint) : Nat :=
  (points.getLast?.map RollbackPoint.sequence).getD 0

/-- Rollback points of a record, ordered by the sequence at which they were recorded. -/
def validateRollbackPoints (record : ExperimentRecord R) (context : Text) : Check Status :=
  let branches := record.definition.branches.map BranchDefinition.id
  scan (fun before (point : RollbackPoint) => sequence [
    require point.id.valid (corrupt (context ++ text ": null rollback point identity")),
    require (point.id ∉ before.map RollbackPoint.id)
      (corrupt (context ++ text ": duplicate rollback point identity")),
    require (generationInRange point.generation)
      (corrupt (context ++
        text ": rollback point references an out-of-range experiment generation")),
    require (lastSequence before < point.sequence)
      (corrupt (context ++ text ": rollback points are not ordered by sequence")),
    require (!point.decisionPresent || point.decision ∈ record.decisions.map Decision.id)
      (corrupt (context ++ text ": rollback point references an unknown decision")),
    forEach (fun snapshot => sequence [
      require (snapshot.branch.valid && snapshot.generation.valid)
        (corrupt (context ++ text ": rollback point carries a null branch authority snapshot")),
      require (snapshot.branch ∈ branches)
        (corrupt (context ++ text ": rollback point references an unknown branch"))])
      point.authority])
    [] record.rollbackPoints

end Validation

open Validation

/-- Validate one experiment record in isolation. -/
def validateExperimentRecord (record : ExperimentRecord R) (limits : Limits) (id : ExperimentId) :
    Check Status :=
  let context := text "experiment " ++ id.toText
  sequence [
    validateDefinition record limits id context,
    validateTrials record limits context,
    validateSizes record limits context,
    validateObservations record context,
    validateArtifacts record limits context,
    validateDecisions record context,
    validateRollbackPoints record context]

/-- The watermark is at least the maximum of the identities. -/
def dominates (watermark : Nat) (identities : List Nat) : Bool :=
  identities.foldl max 0 ≤ watermark

namespace CoordinatorState

/-- Identities collected from every experiment. -/
def collect (state : CoordinatorState R)
    (identities : ExperimentId × ExperimentRecord R → List Nat) : List Nat :=
  state.experiments.entries.flatMap identities

/-- Every watermark dominates the identities of its kind that are present. -/
def watermarksDominate (state : CoordinatorState R) : Bool :=
  dominates state.watermarks.experiment (state.collect fun entry => [entry.1.value]) &&
  dominates state.watermarks.hypothesis (state.collect fun entry =>
    entry.2.hypothesis.id.value :: entry.2.definition.hypothesis.value ::
      entry.2.hypothesisHistory.map (·.id.value)) &&
  dominates state.watermarks.branch
    (state.collect fun entry => entry.2.definition.branches.map (·.id.value)) &&
  dominates state.watermarks.trial
    (state.collect fun entry => entry.2.trials.keys.map StrongId.value) &&
  dominates state.watermarks.attempt
    (state.collect fun entry => entry.2.attempts.keys.map StrongId.value) &&
  dominates state.watermarks.observation
    (state.collect fun entry => entry.2.observations.map (·.id.value)) &&
  dominates state.watermarks.artifact
    (state.collect fun entry => entry.2.artifacts.map (·.id.value)) &&
  dominates state.watermarks.decision
    (state.collect fun entry => entry.2.decisions.map (·.id.value)) &&
  dominates state.watermarks.rollback
    (state.collect fun entry => entry.2.rollbackPoints.map (·.id.value))

/-- Validate the entire durable state. -/
def validate (state : CoordinatorState R) (limits : Limits) : Check Status :=
  sequence [
    require (state.formatVersion = persistenceFormatVersion)
      (corrupt (text "state format version mismatch")),
    require (state.experiments.size ≤ limits.maxExperiments)
      (limitsError (text "state holds more experiments than the configured bound")),
    require (state.totalRecordCount ≤ limits.maxPersistedRecords)
      (limitsError (text "state holds more records than the configured bound")),
    scan (fun before (incarnation : WorkerIncarnation) => sequence [
      require (incarnation.worker.valid && incarnation.boot.valid && incarnation.epoch.valid)
        (corrupt (text "worker incarnation contains a null identity")),
      require ((incarnation.worker, incarnation.boot) ∉
          before.map fun earlier => (earlier.worker, earlier.boot))
        (corrupt (text "duplicate worker boot incarnation"))]) [] state.workers,
    forEach (fun (entry : ExperimentId × ExperimentRecord R) => sequence [
      require entry.1.valid (corrupt (text "null experiment record key")),
      validateExperimentRecord entry.2 limits entry.1]) state.experiments.entries,
    require state.watermarksDominate
      (corrupt (text "identity watermark does not dominate persisted identities"))]

end CoordinatorState

end ExperimentFabric
