import ExperimentFabric.Names
import ExperimentFabric.Decision
import ExperimentFabric.StateDigest

/-!
# Inspection

Snapshots of an experiment and the reports rendered from them.  A snapshot gathers the attempts of
each trial under it and lists everything in the order of its identity.  A report is a list of lines
that is cut at a bound.
-/

namespace ExperimentFabric

open Lib

variable {R : Type}

/-! ## Snapshots -/

/-- A trial with its attempts. -/
structure TrialSnapshot where
  trial : TrialRecord
  attempts : List AttemptRecord := []

/-- Everything a snapshot holds. -/
structure CompleteSnapshot (R : Type) extends ExperimentSnapshot R where
  hypothesis : Hypothesis
  hypothesisHistory : List Hypothesis
  state : ExperimentState
  producingEpoch : CoordinatorEpoch
  revisionSequence : Nat
  trials : List TrialSnapshot
  observations : List (Observation R)
  artifacts : List ArtifactRecord
  decisions : List (Decision R)
  rollbackPoints : List RollbackPoint
  rejectedEvidence : List RejectedEvidence
  lifecycleLog : List Text
  stateDigest : Digest

section Snapshot

variable [StdSort]

/-- Sort by a key. -/
def sortBy {α β : Type} [LinearOrder β] (key : α → β) (items : List α) : List α :=
  StdSort.sort (fun left right => key left < key right) items

/-- A trial of a record with the attempts made for it. -/
def ExperimentRecord.trialSnapshot (record : ExperimentRecord R) (entry : TrialId × TrialRecord) :
    TrialSnapshot where
  trial := entry.2
  attempts := sortBy AttemptRecord.id (record.attempts.values.filter (·.trial = entry.1))

/-- The snapshot of an experiment. -/
def Coordinator.snapshot [MetricReal R] [ToChars R] (c : Coordinator R)
    (experiment : ExperimentId) : Result (CompleteSnapshot R) := do
  let record ← demand (c.findExperiment experiment)
    ⟨.notFound, .validation, text "experiment does not exist"⟩
  return {
    definition := record.definition
    hypothesis := record.hypothesis
    hypothesisHistory := sortBy Hypothesis.revision record.hypothesisHistory
    state := record.state
    producingEpoch := c.epoch
    revisionSequence := record.revisionSequence
    trials := sortBy (·.trial.id) (record.trials.entries.map record.trialSnapshot)
    observations := sortBy Observation.id record.observations
    artifacts := sortBy ArtifactRecord.id record.artifacts
    decisions := sortBy Decision.id record.decisions
    rollbackPoints := sortBy RollbackPoint.id record.rollbackPoints
    rejectedEvidence := record.rejectedEvidence
    lifecycleLog := record.lifecycleLog
    stateDigest := c.state.experimentDigest experiment }

end Snapshot

/-! ## Reports -/

/-- The version of the runtime. -/
def versionString : Text := "1.0.0"

/-- A hexadecimal digit. -/
def hexDigit (nibble : UInt8) : UInt8 := if nibble < 10 then 48 + nibble else 87 + nibble

/-- Lowercase hexadecimal text of a digest. -/
def digestHex (digest : Digest) : Text :=
  digest.flatMap fun (byte : UInt8) => [hexDigit (byte >>> 4), hexDigit (byte &&& 15)]

namespace Inspect

/-- The text of a truth value. -/
def boolText (value : Bool) : Text := if value then text "true" else text "false"

/-- Push lines one after another. -/
def pushAll (limits : Limits) (lines added : List Text) : List Text :=
  added.foldl (fun lines line => pushLimited lines limits line) lines

/-- The name of a metric, or a stand-in. -/
def describeMetric (definition : ExperimentDefinition R) (id : MetricId) : Text :=
  match definition.metrics.find? (·.id = id) with
  | some metric => metric.name
  | none => text "metric#" ++ id.toText

/-- The text of a real, without the normalisation of zeros that digests apply. -/
def formatReal [MetricReal R] [ToChars R] (value : R) : Text :=
  if !MetricReal.eq value value then text "nan"
  else if !MetricReal.isFinite value then
    if MetricReal.lt (MetricReal.ofInt 0) value then text "inf" else text "-inf"
  else ToChars.toChars value

/-- The text of an integer. -/
def integerText (value : Int) : Text :=
  if value < 0 then text "-" ++ decimal value.natAbs else decimal value.natAbs

/-- Lines of the hypothesis and its revisions. -/
def renderHypothesis (snapshot : CompleteSnapshot R) (limits : Limits) : List Text :=
  let hypothesis := snapshot.hypothesis
  pushAll limits [] <|
    [text "hypothesis " ++ hypothesis.id.toText ++ text " revision " ++
      hypothesis.revision.toText ++
      text " statement=" ++ hypothesis.statement] ++
    (hypothesis.expectedDirection.map fun direction =>
      text "expected-direction " ++ nameOf direction).toList ++
    (if hypothesis.expectedMetric.valid then
      [text "expected-metric " ++ describeMetric snapshot.definition hypothesis.expectedMetric]
    else []) ++
    (if hypothesis.provenance = [] then [] else [text "provenance " ++ hypothesis.provenance]) ++
    [text "revision-history " ++ decimal snapshot.hypothesisHistory.length] ++
    snapshot.hypothesisHistory.map fun entry =>
      text "  revision " ++ entry.revision.toText ++ text " superseded=" ++
        boolText entry.superseded ++ text " superseded-by=" ++ entry.supersededByRevision.toText ++
        text " statement=" ++ entry.statement

/-- Lines of one branch. -/
def branchLines (branch : BranchDefinition) : List Text :=
  [text "branch " ++ branch.id.toText ++ text " name=" ++ branch.name ++ text " role=" ++
    nameOf branch.role ++ text " state=" ++ nameOf branch.state ++ text " branch-generation=" ++
    branch.generation.toText ++ text " planned-trials=" ++ decimal branch.plannedTrials ++
    text " forked=" ++ boolText branch.forked ++
    if branch.parent.valid then text " parent=" ++ branch.parent.toText else []] ++
  branch.parameters.map (fun parameter =>
    text "  parameter " ++ parameter.key ++ text "[" ++ nameOf parameter.kind ++ text "]=" ++
      parameter.value) ++
  (if branch.inputSetPresent then [text "  input-set " ++ branch.inputSet.toText] else []) ++
  (if branch.environmentPresent then [text "  environment " ++ branch.environment.toText]
    else []) ++
  (if branch.environmentFingerprint = [] then []
    else [text "  environment-fingerprint " ++ branch.environmentFingerprint]) ++
  (branch.seed.map fun seed => text "  seed " ++ decimal seed.toNat).toList

/-- Lines of the branches. -/
def renderBranches [StdSort] (snapshot : CompleteSnapshot R) (limits : Limits) : List Text :=
  pushAll limits [] ((sortBy BranchDefinition.id snapshot.definition.branches).flatMap branchLines)

/-- Lines of a snapshot.  Branches and hypothesis are inserted without regard to the bound. -/
def renderSnapshot [StdSort] (snapshot : CompleteSnapshot R) (limits : Limits) : List Text :=
  let definition := snapshot.definition
  let lines := pushAll limits []
    [text "experiment-fabric " ++ versionString,
      text "experiment " ++ definition.id.toText ++ text " name=" ++ definition.name,
      text "state " ++ nameOf snapshot.state,
      text "generation " ++ definition.generation.toText,
      text "hypothesis " ++ snapshot.hypothesis.id.toText ++ text " revision " ++
        snapshot.hypothesis.revision.toText,
      text "policy " ++ definition.policy.id.toText ++ text " generation " ++
        definition.policy.generation.toText,
      text "producing-epoch " ++ snapshot.producingEpoch.toText,
      text "state-digest " ++ digestHex snapshot.stateDigest,
      text "trials " ++ decimal snapshot.trials.length,
      text "observations " ++ decimal snapshot.observations.length,
      text "artifacts " ++ decimal snapshot.artifacts.length,
      text "decisions " ++ decimal snapshot.decisions.length,
      text "rollback-points " ++ decimal snapshot.rollbackPoints.length,
      text "rejected-evidence " ++ decimal snapshot.rejectedEvidence.length]
  let lines := lines ++ renderBranches snapshot limits ++ renderHypothesis snapshot limits
  pushAll limits lines (snapshot.lifecycleLog.map (text "log " ++ ·))

/-- The line of an attempt. -/
def attemptLine (attempt : AttemptRecord) : Text :=
  text "  attempt " ++ attempt.id.toText ++ text " number=" ++ attempt.number.toText ++
    text " state=" ++ nameOf attempt.state ++ text " worker=" ++ attempt.worker.toText ++
    text " boot=" ++ attempt.boot.toText ++ text " epoch=" ++ attempt.epoch.toText ++
    text " committed=" ++ boolText attempt.committed ++
    if attempt.failureKind = .none then [] else text " failure=" ++ nameOf attempt.failureKind

/-- Lines of one trial and its attempts. -/
def trialLines (entry : TrialSnapshot) : List Text :=
  let trial := entry.trial
  [text "trial " ++ trial.id.toText ++ text " branch=" ++ trial.branch.toText ++ text " state=" ++
    nameOf trial.state ++ text " generation=" ++ trial.generation.toText ++
    text " branch-generation=" ++ trial.branchGeneration.toText ++ text " attempts=" ++
    decimal trial.attemptCount ++ text " committed-attempts=" ++ decimal trial.committedAttempts ++
    (if trial.authoritativeAttempt.valid then
      text " authoritative-attempt=" ++ trial.authoritativeAttempt.toText else []) ++
    if trial.failureKind = .none then [] else text " failure=" ++ nameOf trial.failureKind] ++
  (if trial.failureDetail = [] then [] else [text "  failure-detail " ++ trial.failureDetail]) ++
  (trial.seed.map fun seed => text "  seed " ++ decimal seed.toNat).toList ++
  entry.attempts.map attemptLine

/-- Lines of the trials. -/
def renderTrials (snapshot : CompleteSnapshot R) (limits : Limits) : List Text :=
  pushAll limits [] (snapshot.trials.flatMap trialLines)

/-- The text of a metric value. -/
def valueText [MetricReal R] [ToChars R] (value : MetricValue R) : Text :=
  match value.kind with
  | .real => formatReal value.real
  | .integer => integerText value.integer
  | .boolean => boolText value.boolean
  | .categorical => value.category

/-- Lines of one observation. -/
def observationLines [MetricReal R] [ToChars R] (definition : ExperimentDefinition R)
    (observation : Observation R) : List Text :=
  [text "observation " ++ observation.id.toText ++ text " trial=" ++ observation.trial.toText ++
    text " branch=" ++ observation.branch.toText ++ text " metric=" ++
    describeMetric definition observation.metric ++ text " validity=" ++
    nameOf observation.validity ++ text " kind=" ++ nameOf observation.value.kind ++
    text " value=" ++ valueText observation.value ++ text " attempt=" ++
    observation.attempt.toText ++ text " producer=" ++ observation.producer.toText] ++
  if observation.detail = [] then [] else [text "  detail " ++ observation.detail]

/-- Observations are reported by trial, metric and identity. -/
def observationBefore (left right : Observation R) : Bool :=
  if left.trial ≠ right.trial then left.trial < right.trial
  else if left.metric ≠ right.metric then left.metric < right.metric
  else left.id < right.id

/-- Lines of the observations. -/
def renderObservations [MetricReal R] [ToChars R] [StdSort] (snapshot : CompleteSnapshot R)
    (limits : Limits) : List Text :=
  pushAll limits []
    ((StdSort.sort observationBefore snapshot.observations).flatMap
      (observationLines snapshot.definition))

/-- The line of a rejected piece of evidence, in both reports that list it. -/
def rejectedLine (evidence : RejectedEvidence) : Text :=
  text "rejected " ++ evidence.kind ++ text " id=" ++ decimal evidence.identifier ++
    text " reason=" ++ nameOf evidence.reason ++ text " detail=" ++ evidence.detail

/-- Lines of stale, invalid, missing and rejected evidence. -/
def renderRejectedEvidence (snapshot : CompleteSnapshot R) (limits : Limits) : List Text :=
  pushAll limits [] <|
    snapshot.rejectedEvidence.map rejectedLine ++
    (snapshot.observations.filter (·.validity ≠ .valid)).map (fun observation =>
      text "non-authoritative observation " ++ observation.id.toText ++ text " trial=" ++
        observation.trial.toText ++ text " metric=" ++
        describeMetric snapshot.definition observation.metric ++ text " validity=" ++
        nameOf observation.validity) ++
    (snapshot.trials.filter fun entry =>
      entry.trial.state = .superseded || entry.trial.state = .cancelled).map fun entry =>
        text "trial " ++ entry.trial.id.toText ++ text " state=" ++ nameOf entry.trial.state ++
          text " detail=" ++ entry.trial.failureDetail

/-- Lines of one artifact. -/
def artifactLines (artifact : ArtifactRecord) : List Text :=
  [text "artifact " ++ artifact.id.toText ++ text " trial=" ++ artifact.trial.toText ++
    text " attempt=" ++ artifact.attempt.toText ++ text " category=" ++ artifact.category ++
    text " current=" ++ boolText artifact.current ++ text " production-trusted=false" ++
    text " locator=" ++ artifact.locator] ++
  (if artifact.digestPresent then [text "  digest " ++ digestHex artifact.contentDigest]
    else []) ++
  if artifact.sizePresent then [text "  size " ++ decimal artifact.sizeBytes] else []

/-- Lines of the artifacts. -/
def renderArtifacts [StdSort] (snapshot : CompleteSnapshot R) (limits : Limits) : List Text :=
  pushAll limits [] ((sortBy ArtifactRecord.id snapshot.artifacts).flatMap artifactLines)

section Decisions

variable [MetricReal R] [ToChars R]

/-- The line of an aggregate. -/
def aggregateLine (aggregate : MetricAggregate R) : Text :=
  text "  aggregate metric=" ++ aggregate.metric.toText ++ text " rule=" ++ nameOf aggregate.rule ++
    text " present=" ++ boolText aggregate.present ++ text " value=" ++
    (if aggregate.present then formatReal aggregate.value else text "absent") ++
    (if aggregate.category = [] then [] else text " category=" ++ aggregate.category) ++
    text " valid=" ++ decimal aggregate.validCount ++ text " invalid=" ++
    decimal aggregate.invalidCount ++ text " missing=" ++ decimal aggregate.missingCount ++
    text " unsupported=" ++ decimal aggregate.unsupportedCount

/-- Lines of the evidence of one branch. -/
def renderEvidence (evidence : BranchEvidence R) (limits : Limits) : List Text :=
  pushAll limits [] <|
    [text "evidence branch " ++ evidence.branch.toText ++ text " role=" ++ nameOf evidence.role ++
      text " state=" ++ nameOf evidence.state ++ text " completed=" ++
      decimal evidence.completedTrials ++ text " failed=" ++ decimal evidence.failedTrials ++
      text " cancelled=" ++ decimal evidence.cancelledTrials ++ text " invalid=" ++
      decimal evidence.invalidTrials ++ text " superseded=" ++ decimal evidence.supersededTrials ++
      text " open=" ++ decimal evidence.openTrials] ++
    evidence.aggregates.map aggregateLine

/-- The line of a comparison factor. -/
def factorLine (factor : ComparisonFactor R) : Text :=
  text "factor metric=" ++
    (if factor.metric.valid then factor.metric.toText else text "weighted-score") ++
    text " op=" ++ nameOf factor.op ++ text " priority=" ++ decimal factor.priority ++
    text " has-values=" ++ boolText factor.hasValues ++ text " baseline=" ++
    formatReal factor.baselineValue ++ text " candidate=" ++ formatReal factor.candidateValue ++
    text " delta=" ++ formatReal factor.delta ++ text " satisfied=" ++ boolText factor.satisfied

/-- Lines of a decision.  The evidence of every branch is inserted without regard to the bound. -/
def renderDecision (decision : Decision R) (limits : Limits) : List Text :=
  let lines := pushAll limits []
    [text "decision " ++ decision.id.toText ++ text " experiment " ++ decision.experiment.toText ++
        text " generation " ++ decision.generation.toText,
      text "hypothesis " ++ decision.hypothesis.toText ++ text " revision " ++
        decision.hypothesisRevision.toText,
      text "policy " ++ decision.policy.toText ++ text " generation " ++
        decision.policyGeneration.toText,
      text "compared-branches" ++
        decision.comparedBranches.flatMap (fun branch => text " " ++ branch.toText),
      text "candidate " ++ decision.candidate.toText ++ text " baseline " ++
        if decision.baselinePresent then decision.baseline.toText else text "none",
      text "outcome " ++ nameOf decision.outcome,
      text "reason-kind " ++ nameOf decision.reasonKind,
      text "reason " ++ decision.reason]
  let lines := lines ++ decision.evidence.flatMap (renderEvidence · limits)
  pushAll limits lines <|
    decision.constraints.map (fun constraint =>
      text "constraint " ++ (if constraint.passed then text "PASS " else text "FAIL ") ++
        constraint.name ++ text " " ++ constraint.detail) ++
    decision.factors.map factorLine ++
    (if decision.tied then [text "tie-break " ++ decision.tieBreakRule] else []) ++
    decision.rejectedEvidence.map rejectedLine ++
    [text "canonical-state-digest " ++ digestHex decision.canonicalStateDigest,
      text "sequence " ++ decimal decision.sequence]

end Decisions

/-- Lines of a reproducibility record. -/
def renderReproducibility (record : ReproducibilityRecord) (limits : Limits) : List Text :=
  pushAll limits [] <|
    [text "reproducibility experiment " ++ record.experiment.toText ++ text " generation " ++
        record.generation.toText,
      text "branch " ++ record.branch.toText ++ text " branch-generation " ++
        record.branchGeneration.toText,
      text "hypothesis " ++ record.hypothesis.toText ++ text " revision " ++
        record.hypothesisRevision.toText,
      text "definition-digest " ++ digestHex record.definitionDigest,
      text "branch-definition-digest " ++ digestHex record.branchDefinitionDigest,
      text "policy-digest " ++ digestHex record.policyDigest,
      text "status " ++ nameOf record.status,
      text "seed " ++ (record.seed.map fun seed => decimal seed.toNat).getD (text "absent"),
      text "input-set " ++
        if record.inputSetPresent then record.inputSet.toText else text "absent",
      text "environment " ++
        if record.environmentPresent then record.environment.toText else text "absent"] ++
    (if record.environmentFingerprint = [] then []
      else [text "environment-fingerprint " ++ record.environmentFingerprint]) ++
    (if record.executableIdentity = [] then []
      else [text "executable-identity " ++ record.executableIdentity]) ++
    (if record.producerIdentity = [] then []
      else [text "producer-identity " ++ record.producerIdentity]) ++
    [text "valid-observations " ++ decimal record.observationCount,
      text "artifacts " ++ decimal record.artifacts.length] ++
    record.artifacts.map (text "  artifact " ++ ·.toText) ++
    record.parameters.map (fun parameter =>
      text "parameter " ++ parameter.key ++ text "=" ++ parameter.value) ++
    record.missingMaterials.map (text "missing-material " ++ ·)

/-- One line that summarizes an experiment. -/
def summarize (snapshot : CompleteSnapshot R) : Text :=
  text "experiment " ++ snapshot.definition.id.toText ++ text " name=" ++
    snapshot.definition.name ++
    text " state=" ++ nameOf snapshot.state ++ text " generation=" ++
    snapshot.definition.generation.toText ++ text " branches=" ++
    decimal snapshot.definition.branches.length ++ text " trials=" ++
    decimal snapshot.trials.length

end Inspect

end ExperimentFabric
