import ExperimentFabric.Evidence

/-!
# Decisions, finalization and rollback

Hard evidence constraints come first, then the comparison factors, then the tie rule.  Two
candidates are refused before the state of the experiment is looked at: one that does not exist and
the designated baseline.
-/

namespace ExperimentFabric

open Lib

variable {R : Type}

/-- A decision under construction: the constraints applied and the first failure among them. -/
structure Ruling where
  constraints : List ConstraintResult := []
  outcome : DecisionOutcome := .accept
  reasonKind : FailureKind := .none
  reason : Text := text
    "all hard evidence constraints passed and every decisive comparison factor was satisfied"

namespace Ruling

/-- Record the result of a constraint. -/
def add (ruling : Ruling) (name : Text) (passed : Bool) (detail : Text) : Ruling :=
  { ruling with constraints := ruling.constraints ++ [⟨name, passed, detail⟩] }

/-- Record a failure; only the first one decides the outcome. -/
def fail (ruling : Ruling) (outcome : DecisionOutcome) (kind : FailureKind) (reason : Text) :
    Ruling :=
  if ruling.outcome = .accept then
    { ruling with outcome := outcome, reasonKind := kind, reason := reason }
  else ruling

/-- Record a failure when a condition holds. -/
def failWhen (ruling : Ruling) (condition : Bool) (outcome : DecisionOutcome) (kind : FailureKind)
    (reason : Text) : Ruling :=
  if condition then ruling.fail outcome kind reason else ruling

/-- A failure for want of evidence. -/
def insufficient (ruling : Ruling) (condition : Bool) (reason : Text) : Ruling :=
  ruling.failWhen condition .insufficientEvidence .insufficientEvidence reason

end Ruling

/-! ## Hard constraints -/

/-- The experiment must be open. -/
def constrainState (state : ExperimentState) (ruling : Ruling) : Ruling :=
  let ruling := ruling.add (text "experiment_open") (state = .opened)
    (text "experiment state is " ++ state.toText)
  match state with
  | .opened => ruling
  | .cancelled => ruling.fail .cancelled .cancellation (text "the experiment was cancelled")
  | .superseded =>
      ruling.fail .superseded .experimentInvalidation (text "the experiment was superseded")
  | .recovering =>
      ruling.fail .insufficientEvidence .producerLoss
        (text "the experiment is recovering and has not reconciled its live authority")
  | .finalized =>
      ruling.fail .invalid .policyRejection
        (text "the experiment already holds an authoritative decision")

/-- The candidate branch must be eligible. -/
def constrainCandidate (candidate : BranchDefinition) (evidence : Option (BranchEvidence R))
    (ruling : Ruling) : Ruling :=
  let ruling := ruling.add (text "candidate_branch_eligible")
    (evidence.any fun entry =>
      isBranchEligible candidate.state && entry.generation = candidate.generation)
    (text "candidate branch state is " ++ candidate.state.toText)
  if evidence.isNone || !isBranchEligible candidate.state then
    match candidate.state with
    | .invalid => ruling.fail .invalid .policyRejection (text "the candidate branch is invalid")
    | .superseded =>
        ruling.fail .superseded .experimentInvalidation
          (text "the candidate branch was superseded")
    | .active | .retired =>
        ruling.fail .insufficientEvidence .insufficientEvidence
          (text "the candidate branch is not eligible for a decision")
  else ruling

/-- A required baseline must be designated, and a designated one eligible. -/
def constrainBaseline (policy : ComparisonPolicy R) (baseline : Option BranchDefinition)
    (evidence : Option (BranchEvidence R)) (ruling : Ruling) : Ruling :=
  let ruling := ruling.add (text "baseline_present") (!policy.requireBaseline || baseline.isSome)
    (if baseline.isNone then text "no baseline branch is designated"
      else text "baseline designated")
  match baseline with
  | none => ruling.insufficient policy.requireBaseline
      (text "the policy requires a baseline branch and none is designated")
  | some baseline =>
      let eligible : Bool := evidence.isSome && isBranchEligible baseline.state
      (ruling.add (text "baseline_branch_eligible") eligible
        (text "baseline branch state is " ++ baseline.state.toText)).insufficient (!eligible)
        (text "the baseline branch is not eligible for a decision")

/-- Enough completed trials on one side of the comparison. -/
def constrainCompleted (policy : ComparisonPolicy R) (name reason : Text)
    (evidence : Option (BranchEvidence R)) (ruling : Ruling) : Ruling :=
  match evidence with
  | none => ruling
  | some evidence =>
      let enough : Bool := evidence.completedTrials ≥ policy.minCompletedTrialsPerBranch
      (ruling.add name enough (text "completed=" ++ decimal evidence.completedTrials ++
        text " required=" ++ decimal policy.minCompletedTrialsPerBranch)).insufficient (!enough)
        reason

/-- The aggregate of a metric in the evidence of a branch. -/
def branchHasMetric (evidence : BranchEvidence R) (metric : MetricId) :
    Option (MetricAggregate R) :=
  evidence.aggregates.find? (·.metric = metric)

/-- Names and reasons of the metric constraints on one side of the comparison. -/
structure MetricSide where
  required : Text
  absentDetail : Text
  absentReason : Text
  observations : Text
  observationsReason : Text

/-- Metric constraints of the candidate side. -/
def candidateSide : MetricSide where
  required := text "candidate_required_metric:"
  absentDetail := text "required metric has no authoritative aggregate on the candidate branch"
  absentReason := text "a required metric has no authoritative aggregate on the candidate branch"
  observations := text "candidate_valid_observations:"
  observationsReason :=
    text "a required metric holds fewer valid observations than the policy requires"

/-- Metric constraints of the baseline side. -/
def baselineSide : MetricSide where
  required := text "baseline_required_metric:"
  absentDetail := text "required metric has no authoritative aggregate on the baseline branch"
  absentReason := text "a required metric has no authoritative aggregate on the baseline branch"
  observations := text "baseline_valid_observations:"
  observationsReason := text
    "a required metric holds fewer valid observations than the policy requires on the baseline branch"

/-- The required metric is present with enough valid observations on one side. -/
def constrainPresence (policy : ComparisonPolicy R) (name : Text) (side : MetricSide)
    (found : Option (MetricAggregate R)) (ruling : Ruling) : Ruling :=
  match found.filter MetricAggregate.present with
  | none => (ruling.add (side.required ++ name) false side.absentDetail).insufficient true
      side.absentReason
  | some aggregate =>
      let ruling := ruling.add (side.required ++ name) true (text "present")
      if aggregate.validCount < policy.minValidObservationsPerRequiredMetric then
        (ruling.add (side.observations ++ name) false
          (text "valid=" ++ decimal aggregate.validCount ++ text " required=" ++
            decimal policy.minValidObservationsPerRequiredMetric)).insufficient true
          side.observationsReason
      else ruling

/-- Invalid observations of a metric on one side. -/
def invalidObservations (evidence : Option (BranchEvidence R)) (metric : MetricId) : Nat :=
  ((evidence.bind (branchHasMetric · metric)).map MetricAggregate.invalidCount).getD 0

/-- Constraints of one required metric. -/
def constrainMetric (policy : ComparisonPolicy R)
    (candidate baseline : Option (BranchEvidence R)) (ruling : Ruling)
    (metric : MetricDefinition R) : Ruling :=
  if !metric.required then ruling
  else
    let ruling := constrainPresence policy metric.name candidateSide
      (candidate.bind (branchHasMetric · metric.id)) ruling
    let ruling :=
      match baseline with
      | none => ruling
      | some baseline =>
          constrainPresence policy metric.name baselineSide (branchHasMetric baseline metric.id)
            ruling
    if policy.rejectOnAnyInvalidObservation then
      let invalid := invalidObservations candidate metric.id + invalidObservations baseline metric.id
      (ruling.add (text "no_invalid_observations:" ++ metric.name) (invalid = 0)
        (text "invalid=" ++ decimal invalid)).failWhen (invalid ≠ 0) .invalid .invalidObservation
        (text "the policy rejects any decision supported by unresolved invalid observations")
    else ruling

/-- Completed trials of the compared branches. -/
def comparedTrials (record : ExperimentRecord R) (candidate : BranchDefinition)
    (baseline : Option BranchDefinition) : List TrialRecord :=
  record.trials.values.filter fun trial =>
    trial.state = .completed &&
      (trial.branch = candidate.id || baseline.any (trial.branch = ·.id))

/-- The compared trials ran under one environment. -/
def constrainEnvironment (record : ExperimentRecord R) (candidate : BranchDefinition)
    (baseline : Option BranchDefinition) (ruling : Ruling) : Ruling :=
  if !record.definition.policy.requireEnvironmentMatch then ruling
  else
    let declared := (comparedTrials record candidate baseline).map
      TrialRecord.environmentFingerprint
    let fingerprints := (declared.filter (· ≠ [])).dedup
    let missing := declared.countP (· = [])
    let matched : Bool := fingerprints.length ≤ 1
    let ruling := (ruling.add (text "environment_match") matched
      (if matched then fingerprints.head?.getD (text "no environment fingerprint declared")
        else text "compared branches were produced under different environment fingerprints")
      ).failWhen (!matched) .invalid .policyRejection
      (text "the compared branches were produced under different environment fingerprints")
    if missing ≠ 0 && !matched then
      { ruling with
        reason := ruling.reason ++ text "; " ++ decimal missing ++
          text " compared trials declared no environment fingerprint" }
    else ruling

/-- Evidence of a branch; the last entry wins. -/
def evidenceOf (evidence : List (BranchEvidence R)) (branch : BranchId) :
    Option (BranchEvidence R) :=
  evidence.reverse.find? (·.branch = branch)

/-- Apply the hard evidence constraints. -/
def applyConstraints (record : ExperimentRecord R) (candidate : BranchDefinition)
    (baseline : Option BranchDefinition) (evidence : List (BranchEvidence R)) : Ruling :=
  let policy := record.definition.policy
  let candidateEvidence := evidenceOf evidence candidate.id
  let baselineEvidence := baseline.bind fun branch => evidenceOf evidence branch.id
  let ruling := constrainState record.state {}
  let ruling := constrainCandidate candidate candidateEvidence ruling
  let ruling := constrainBaseline policy baseline baselineEvidence ruling
  let ruling := constrainCompleted policy (text "candidate_completed_trials") (text
    "the candidate branch holds fewer authoritative completed trials than the policy requires")
    candidateEvidence ruling
  let ruling := constrainCompleted policy (text "baseline_completed_trials") (text
    "the baseline branch holds fewer authoritative completed trials than the policy requires")
    baselineEvidence ruling
  let ruling := record.definition.metrics.foldl
    (constrainMetric policy candidateEvidence baselineEvidence) ruling
  constrainEnvironment record candidate baseline ruling

/-! ## Comparison factors -/

section Comparison

variable [MetricReal R]

/-- Signed improvement of the candidate over the baseline; positive means better. -/
def improvement (direction : MetricDirection) (baseline candidate : R) : R :=
  match direction with
  | .minimize => MetricReal.sub baseline candidate
  | .maximize | .target | .informational => MetricReal.sub candidate baseline

/-- Name of a metric, or its number when the record does not define it. -/
def metricName (record : ExperimentRecord R) (id : MetricId) : Text :=
  match record.findMetric id with
  | some metric => metric.name
  | none => text "metric#" ++ id.toText

/-- Fraction of paired trials in which the candidate improves on the baseline. -/
def winFraction (direction : MetricDirection) (baseline candidate : List R) : Option R :=
  let pairs := baseline.zip candidate
  if pairs.isEmpty then none
  else
    let wins := pairs.countP fun pair =>
      MetricReal.lt (MetricReal.ofInt 0) (improvement direction pair.1 pair.2)
    some (MetricReal.div (MetricReal.ofInt wins) (MetricReal.ofInt pairs.length))

/-- The factor of a rule whose two aggregates are present. -/
def evaluateRule (direction : MetricDirection) (name : Text) (rule : ComparisonRule R)
    (baseline candidate : MetricAggregate R) : ComparisonFactor R :=
  let gain := improvement direction baseline.value candidate.value
  let fraction := winFraction direction baseline.rawValues candidate.rawValues
  let satisfied : Bool :=
    match rule.op with
    | .greaterThan => MetricReal.lt (MetricReal.add baseline.value rule.threshold) candidate.value
    | .lessThan => MetricReal.lt candidate.value (MetricReal.sub baseline.value rule.threshold)
    | .minImprovement => MetricReal.le rule.threshold gain
    | .maxRegressionTolerance => MetricReal.le (MetricReal.neg gain) rule.threshold
    | .targetRange => MetricReal.le rule.targetLow candidate.value &&
        MetricReal.le candidate.value rule.targetHigh
    | .majorityWins => fraction.any (MetricReal.le rule.threshold ·)
    | .reportOnly => true
  { metric := rule.metric
    op := rule.op
    priority := rule.priority
    threshold := rule.threshold
    hasValues := true
    baselineValue := baseline.value
    candidateValue := candidate.value
    delta :=
      if rule.op = .majorityWins then
        fraction.getD (MetricReal.sub candidate.value baseline.value)
      else MetricReal.sub candidate.value baseline.value
    satisfied := satisfied
    decisive := true
    detail := text "metric " ++ name ++ text " baseline=" ++ MetricReal.toText baseline.value ++
      text " candidate=" ++ MetricReal.toText candidate.value ++ text " threshold=" ++
      MetricReal.toText rule.threshold }

/-- The factor of a rule that lacks an aggregate. -/
def unevaluatedRule (name : Text) (rule : ComparisonRule R) : ComparisonFactor R where
  metric := rule.metric
  op := rule.op
  priority := rule.priority
  threshold := rule.threshold
  baselineValue := MetricReal.ofInt 0
  candidateValue := MetricReal.ofInt 0
  delta := MetricReal.ofInt 0
  decisive := true
  detail := text "comparison factor " ++ name ++
    text " could not be evaluated: authoritative aggregate missing"

/-- Progress of a comparison. -/
structure Comparison (R : Type) where
  factors : List (ComparisonFactor R) := []
  anyDecisive : Bool := false
  anyDecisiveFailed : Bool := false
  anyNonzeroDelta : Bool := false
  firstFailedMetric : Text := []

/-- Append a decisive factor, noting the first failed metric. -/
def Comparison.push (comparison : Comparison R) (name : Text) (factor : ComparisonFactor R) :
    Comparison R :=
  { comparison with
    factors := comparison.factors ++ [factor]
    anyDecisiveFailed := comparison.anyDecisiveFailed || !factor.satisfied
    firstFailedMetric :=
      if !factor.satisfied && comparison.firstFailedMetric = [] then name
      else comparison.firstFailedMetric }

/-- Aggregate of a metric when it is present. -/
def presentAggregate (evidence : Option (BranchEvidence R)) (metric : MetricId) :
    Option (MetricAggregate R) :=
  (evidence.bind (branchHasMetric · metric)).filter MetricAggregate.present

/-- Apply one comparison rule. -/
def compareRule (record : ExperimentRecord R) (candidate baseline : Option (BranchEvidence R))
    (comparison : Comparison R) (rule : ComparisonRule R) : Comparison R :=
  if rule.op = .reportOnly then comparison
  else
    let comparison := { comparison with anyDecisive := true }
    let name := metricName record rule.metric
    -- The last definition of the metric decides its direction.
    let direction := ((record.definition.metrics.reverse.find? (·.id = rule.metric)).map
      MetricDefinition.direction).getD .minimize
    match presentAggregate candidate rule.metric, presentAggregate baseline rule.metric with
    | some candidate, some baseline =>
        let changed := !MetricReal.eq (MetricReal.sub candidate.value baseline.value)
          (MetricReal.ofInt 0)
        ({ comparison with anyNonzeroDelta := comparison.anyNonzeroDelta || changed }).push name
          (evaluateRule direction name rule baseline candidate)
    | _, _ => comparison.push name (unevaluatedRule name rule)

/-- Order of comparison rules: priority, then metric. -/
def rulePrecedes (left right : ComparisonRule R) : Bool :=
  if left.priority ≠ right.priority then left.priority < right.priority
  else left.metric < right.metric

/-- The weighted contribution of a required directional metric. -/
def weightedTerm (candidate baseline : Option (BranchEvidence R)) (metric : MetricDefinition R) :
    Option R :=
  if !metric.required || metric.weight = 0 || metric.direction = .informational then none
  else match presentAggregate candidate metric.id, presentAggregate baseline metric.id with
    | some candidate, some baseline =>
        let magnitude := MetricReal.fabs baseline.value
        let reference := if MetricReal.lt MetricReal.tiny magnitude then magnitude
          else MetricReal.ofInt 1
        some (MetricReal.mul (MetricReal.ofInt metric.weight)
          (MetricReal.div (improvement metric.direction baseline.value candidate.value) reference))
    | _, _ => none

/-- Append the weighted score, when the policy uses one and some metric contributes. -/
def scoreFactor (record : ExperimentRecord R) (candidate baseline : Option (BranchEvidence R))
    (comparison : Comparison R) : Comparison R :=
  let policy := record.definition.policy
  let terms := record.definition.metrics.filterMap (weightedTerm candidate baseline)
  if !policy.useWeightedScore || terms.isEmpty then comparison
  else
    let score := total terms
    comparison.push (text "weighted-score")
      { metric := .null
        op := .reportOnly
        threshold := MetricReal.ofInt 0
        hasValues := true
        baselineValue := MetricReal.ofInt 0
        candidateValue := MetricReal.ofInt 0
        delta := score
        satisfied := MetricReal.le policy.acceptScoreThreshold score
        decisive := true
        detail := text "explicit weighted score=" ++ MetricReal.toText score ++
          text " threshold=" ++ MetricReal.toText policy.acceptScoreThreshold }

/-- Run every comparison rule, in rule order, then the weighted score. -/
def compareFactors (record : ExperimentRecord R) (candidate baseline : Option (BranchEvidence R)) :
    Comparison R :=
  let rules := record.definition.policy.rules.insertionSort fun left right =>
    !rulePrecedes right left
  scoreFactor record candidate baseline
    (rules.foldl (compareRule record candidate baseline) {})

end Comparison

/-! ## Building a decision -/

variable [MetricReal R] [CanonicalDigests R]

/-- The last branch with an identity, as the decision loop finds it. -/
def candidateBranch (record : ExperimentRecord R) (id : BranchId) : Option BranchDefinition :=
  record.definition.branches.reverse.find? (·.id = id)

/-- The first baseline branch. -/
def baselineBranch (record : ExperimentRecord R) : Option BranchDefinition :=
  record.definition.branches.find? (·.role = .baseline)

/-- The parts of a decision that no comparison changes. -/
def blankDecision (record : ExperimentRecord R) (candidate : BranchId) (id : DecisionId)
    (sequence : Nat) : Decision R where
  id := id
  experiment := record.definition.id
  generation := record.definition.generation
  hypothesis := record.definition.hypothesis
  hypothesisRevision := record.definition.hypothesisRevision
  policy := record.definition.policy.id
  policyGeneration := record.definition.policy.generation
  comparedBranches := (record.definition.branches.map BranchDefinition.id).insertionSort (· ≤ ·)
  candidate := candidate
  evidence := record.computeEvidence
  rejectedEvidence := record.rejectedEvidence
  canonicalStateDigest := CanonicalDigests.evidenceDigest record.computeEvidence record.definition
  sequence := sequence

/-- Refuse a candidate before any constraint is applied. -/
def refuseCandidate (decision : Decision R) (constraint reason : Text) : Decision R :=
  { decision with
    outcome := .invalid
    reasonKind := .policyRejection
    reason := reason
    constraints := [⟨constraint, false, reason⟩] }

/-- Combine the constraints and the comparison. -/
def conclude (decision : Decision R) (ruling : Ruling) (comparison : Comparison R) : Decision R :=
  let decided :=
    { decision with
      constraints := ruling.constraints
      outcome := ruling.outcome
      reasonKind := ruling.reasonKind
      reason := ruling.reason
      factors := comparison.factors }
  if ruling.outcome ≠ .accept then decided
  else if !comparison.anyDecisive then
    { decided with
      outcome := .inconclusive
      reasonKind := .insufficientEvidence
      reason := text
        "the policy declares no decisive comparison factor; the result is reported but not decided" }
  else if comparison.anyDecisiveFailed then
    { decided with
      outcome := .reject
      reasonKind := .policyRejection
      reason := text "comparison factor failed for metric " ++ comparison.firstFailedMetric }
  else if !comparison.anyNonzeroDelta then
    { decided with
      outcome := .inconclusive
      reasonKind := .insufficientEvidence
      reason :=
        text "every decisive comparison factor is exactly equal; a tie is not an acceptance"
      tied := true
      tieBreakRule := text "exact-equality-on-all-decisive-metrics" }
  else decided

/-- Build a complete decision for a candidate branch. -/
def buildDecision (record : ExperimentRecord R) (candidate : BranchId) (id : DecisionId)
    (sequence : Nat) : Decision R :=
  let blank := blankDecision record candidate id sequence
  match candidateBranch record candidate with
  | none => refuseCandidate blank (text "candidate_exists")
      (text "the candidate branch does not exist in this experiment generation")
  | some branch =>
      let baseline := baselineBranch record
      let designated :=
        match baseline with
        | none => blank
        | some found => { blank with baseline := found.id, baselinePresent := true }
      if baseline.any (·.id = branch.id) then
        refuseCandidate designated (text "candidate_is_not_baseline")
          (text "the candidate branch is the designated baseline")
      else
        let evidence := record.computeEvidence
        conclude designated (applyConstraints record branch baseline evidence)
          (compareFactors record (evidenceOf evidence branch.id)
            (baseline.bind fun found => evidenceOf evidence found.id))

/-! ## Finalization and rollback -/

namespace ExperimentRecord

/-- Authority of every branch of the current definition. -/
def branchAuthority (record : ExperimentRecord R) : List BranchAuthoritySnapshot :=
  record.definition.branches.map fun branch => ⟨branch.id, branch.generation, branch.state⟩

/-- The state a decision leaves the experiment in. -/
def stateAfter (state : ExperimentState) : DecisionOutcome → ExperimentState
  | .accept | .reject | .invalid => .finalized
  | .cancelled => .cancelled
  | .superseded => .superseded
  | .inconclusive | .insufficientEvidence => state

/-- The outcome concludes the experiment and records a rollback point. -/
def concludes (outcome : DecisionOutcome) : Bool :=
  outcome = .accept || outcome = .reject || outcome = .invalid

/-- Record a decision, with a rollback point when it concludes the experiment. -/
def finalize (record : ExperimentRecord R) (experiment : ExperimentId) (decision : Decision R)
    (point : RollbackPointId) (sequence : Nat) : ExperimentRecord R :=
  ({ record with
      decisions := record.decisions ++ [decision]
      state := stateAfter record.state decision.outcome
      rollbackPoints := record.rollbackPoints ++
        (if concludes decision.outcome then
          [{ id := point
             experiment := experiment
             generation := record.definition.generation
             decision := decision.id
             decisionPresent := true
             stateDigest := CanonicalDigests.definitionDigest record.definition
             authority := record.branchAuthority
             sequence := sequence }]
        else [])
      revisionSequence := sequence } : ExperimentRecord R).log
    (text "experiment-finalized outcome=" ++ decision.outcome.toText ++ text " decision=" ++
      decision.id.toText)

/-- Restore the branch authority a rollback point recorded. -/
def restoreBranches (authority : List BranchAuthoritySnapshot) (branches : List BranchDefinition) :
    List BranchDefinition :=
  let restored := authority.foldl
    (fun branches snapshot => updateBranch snapshot.branch
      (fun branch => { branch with state := snapshot.state, generation := snapshot.generation })
      branches) branches
  restored.map fun branch =>
    if branch.id ∈ authority.map BranchAuthoritySnapshot.branch then branch
    else match branch.state with
      | .active => { branch with state := .retired }
      | .retired | .invalid | .superseded => { branch with state := .superseded }

/-- Return to the generation and branch authority of a rollback point. -/
def rollback (record : ExperimentRecord R) (experiment : ExperimentId) (chosen : RollbackPoint)
    (point : RollbackPointId) (reason : Text) (sequence : Nat) : ExperimentRecord R :=
  let previous := record.definition.generation
  let abandoned := record.abandonStaleLiveWork sequence
  let definition : ExperimentDefinition R :=
    { record.definition with
      generation := chosen.generation
      branches := restoreBranches chosen.authority record.definition.branches }
  ({ abandoned with
      definition := definition
      rollbackPoints := record.rollbackPoints ++
        [{ id := point
           experiment := experiment
           generation := chosen.generation
           restoredFrom := previous
           stateDigest := CanonicalDigests.definitionDigest definition
           authority := chosen.authority
           sequence := sequence }]
      state := if record.state = .finalized || record.state = .superseded then .opened
        else record.state
      revisionSequence := sequence } : ExperimentRecord R).log
    (text "rollback restored-generation=" ++ chosen.generation.toText ++
      text " from-generation=" ++ previous.toText ++ text " reason=" ++ reason)

end ExperimentRecord

namespace Coordinator

/-- The decision a candidate would receive now. -/
def evaluate (c : Coordinator R) (experiment : ExperimentId) (candidate : BranchId) :
    Result (Decision R) :=
  match c.findExperiment experiment with
  | none => .error ⟨.notFound, .decision, text "experiment does not exist"⟩
  | some record => .ok (buildDecision record candidate .null c.currentSequence)

/-- Guard of `finalizeExperiment`. -/
def finalizeGuard (c : Coordinator R) (experiment : ExperimentId) :
    Result (ExperimentRecord R) := do
  let record ← demand (c.findExperiment experiment)
    ⟨.notFound, .decision, text "experiment does not exist"⟩
  require (record.state ≠ .finalized) (lifecycleError .invalidTransition
    (text "the experiment already holds an authoritative decision"))
  require (record.decisions.length < c.limits.maxDecisionsPerExperiment)
    (limitsError (text "too many decisions"))
  return record

/-- The decision `finalizeExperiment` records. -/
def finalDecision (record : ExperimentRecord R) (candidate : BranchId) (reason : Text)
    (id : DecisionId) (sequence : Nat) : Decision R :=
  let built := buildDecision record candidate id sequence
  if reason = [] then built
  else { built with reason := built.reason ++ text "; caller reason: " ++ reason }

/-- Record a decision for a candidate. -/
def finalizeExperiment (c : Coordinator R) (experiment : ExperimentId) (candidate : BranchId)
    (reason : Text) (fault : Option SaveFault) : Coordinator R × Result (Decision R) :=
  match c.finalizeGuard experiment with
  | .error failure => (c, .error failure)
  | .ok record =>
      let c := c.nextSequence
      let sequence := c.currentSequence
      let c := c.allocDecisionId
      let decision := finalDecision record candidate reason ⟨c.state.watermarks.decision⟩ sequence
      let c := if ExperimentRecord.concludes decision.outcome then c.allocRollbackId else c
      (c.withRecord experiment
        (record.finalize experiment decision ⟨c.state.watermarks.rollback⟩ sequence)).settle fault
        id decision

/-- The last rollback point of a generation. -/
def rollbackTarget (record : ExperimentRecord R) (target : ExperimentGeneration) :
    Option RollbackPoint :=
  record.rollbackPoints.reverse.find? (·.generation = target)

/-- Guard of `rollback`. -/
def rollbackGuard (c : Coordinator R) (experiment : ExperimentId) (target : ExperimentGeneration) :
    Result (ExperimentRecord R × RollbackPoint) := do
  let record ← demand (c.findExperiment experiment) (notFound (text "experiment does not exist"))
  require (record.state ≠ .cancelled) (lifecycleError .invalidTransition
    (text "a cancelled experiment cannot be rolled back"))
  require target.valid
    ⟨.invalidArgument, .lifecycle, text "rollback target generation must be non-null"⟩
  let chosen ← demand (rollbackTarget record target)
    (notFound (text "no authoritative rollback point exists for the requested generation"))
  require (!(chosen.generation = record.definition.generation && record.state = .opened))
    (lifecycleError .invalidTransition
      (text "the experiment is already at the requested authoritative generation"))
  return (record, chosen)

/-- Return an experiment to a rollback point.  A record that fails validation stays in memory. -/
def rollback (c : Coordinator R) (experiment : ExperimentId) (target : ExperimentGeneration)
    (reason : Text) (fault : Option SaveFault) : Coordinator R × Result Unit :=
  match c.rollbackGuard experiment target with
  | .error failure => (c, .error failure)
  | .ok (record, chosen) =>
      let c := c.nextSequence
      let sequence := c.currentSequence
      let c := c.allocRollbackId
      let record :=
        record.rollback experiment chosen ⟨c.state.watermarks.rollback⟩ reason sequence
      let stored := c.withRecord experiment record
      match validateExperimentRecord record c.limits experiment with
      | .error failure => (stored, .error failure)
      | .ok () => stored.settle fault id ()

end Coordinator

end ExperimentFabric
