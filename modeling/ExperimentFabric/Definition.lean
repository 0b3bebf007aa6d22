import ExperimentFabric.Coordinator

/-!
# Definition operations

Creating experiments, revising hypotheses, forking and retiring branches, and creating trials.
Each operation first consults its guard; only a passed guard changes the coordinator.
-/

namespace ExperimentFabric

open Lib

variable {R : Type}

/-! ## Specifications -/

/-- Declarative metric specification. -/
structure MetricSpec (R : Type) where
  name : Text
  unit : Text := []
  kind : MetricKind := .real
  direction : MetricDirection := .minimize
  aggregation : AggregationRule := .mean
  required : Bool := true
  acceptsNonFinite : Bool := false
  lowerBound : Option R := none
  upperBound : Option R := none
  targetLow : Option R := none
  targetHigh : Option R := none
  weight : Nat := 1
  priority : Nat := 0
  categories : List Text := []

/-- Declarative branch specification. -/
structure BranchSpec where
  name : Text
  role : BranchRole := .candidate
  /-- Name of an earlier branch to fork from. -/
  forkFrom : Option Text := none
  parameters : List ParameterAssignment := []
  inputSet : Option Text := none
  environment : Option Text := none
  environmentFingerprint : Text := []
  seed : Option UInt64 := none
  plannedTrials : Nat := 1

/-- Declarative comparison rule, referencing metrics by name. -/
structure ComparisonRuleSpec (R : Type) where
  metric : Text
  op : ComparisonOp := .minImprovement
  threshold : R
  targetLow : R
  targetHigh : R
  priority : Nat := 0

/-- Complete declarative experiment specification. -/
structure ExperimentSpec (R : Type) where
  name : Text
  hypothesisStatement : Text
  expectedDirection : Option MetricDirection := none
  expectedMetric : Option Text := none
  provenance : Text := []
  branches : List BranchSpec
  metrics : List (MetricSpec R)
  requireBaseline : Bool := true
  minCompletedTrialsPerBranch : Nat := 1
  minValidObservationsPerRequiredMetric : Nat := 1
  rejectOnAnyInvalidObservation : Bool := false
  requireEnvironmentMatch : Bool := true
  majorityWinsMinBasisPoints : Nat := 5000
  useWeightedScore : Bool := false
  acceptScoreThreshold : R
  rules : List (ComparisonRuleSpec R) := []
  seedPolicy : SeedPolicy := .derivedPerTrial
  experimentSeed : Option UInt64 := none
  retryPolicy : RetryPolicy := .freshAttemptSameTrial
  maxAttemptsPerTrial : Nat := 2
  partialFailurePolicy : PartialFailurePolicy := .tolerateIfEvidenceSufficient
  lateEvidencePolicy : LateEvidencePolicy := .rejectAndRecord
  parameters : List ParameterAssignment := []

/-- Declarative hypothesis revision request. -/
structure HypothesisRevisionSpec where
  statement : Text
  expectedDirection : Option MetricDirection := none
  /-- Null when the revision concerns no specific metric. -/
  expectedMetric : MetricId := .null
  provenance : Text := []

/-! ## Failures -/

/-- A failure blaming a definition. -/
def definitionError (reason : Text) : Status := ⟨.invalidArgument, .definition, reason⟩

/-- A failure blaming an absent object. -/
def notFound (reason : Text) : Status := ⟨.notFound, .lifecycle, reason⟩

/-- A failure blaming a bound. -/
def limitsError (reason : Text) : Status := ⟨.resourceExhausted, .limits, reason⟩

/-- A failure blaming a lifecycle. -/
def lifecycleError (code : ErrorCode) (reason : Text) : Status := ⟨code, .lifecycle, reason⟩

/-- The coordinator no longer admits work. -/
def shuttingDown : Status := ⟨.shuttingDown, .shutdown, text "coordinator is shutting down"⟩

/-! ## Specification checks -/

/-- Admission of an experiment specification. -/
def validateSpec [MetricReal R] (spec : ExperimentSpec R) (limits : Limits) : Check Status :=
  sequence [
    require (spec.name ≠ [] && spec.name.length ≤ limits.maxNameLength)
      (definitionError (text "experiment name is empty or too long")),
    require (spec.provenance.length ≤ limits.maxProvenanceLength)
      (definitionError (text "experiment provenance text is too long")),
    require (spec.hypothesisStatement ≠ [] &&
        spec.hypothesisStatement.length ≤ limits.maxStatementLength)
      (definitionError (text "hypothesis statement is empty or too long")),
    require (!spec.metrics.isEmpty)
      (definitionError (text "experiment must declare at least one metric")),
    require (spec.metrics.length ≤ limits.maxMetricsPerExperiment)
      (limitsError (text "experiment declares more metrics than the configured bound")),
    require (!spec.branches.isEmpty)
      (definitionError (text "experiment must declare at least one branch")),
    require (spec.branches.length ≤ limits.maxBranchesPerExperiment)
      (limitsError (text "experiment declares more branches than the configured bound")),
    scan (fun before (metric : MetricSpec R) => sequence [
      require (metric.name ≠ [] && metric.name.length ≤ limits.maxNameLength)
        (definitionError (text "metric name is empty or too long")),
      require (metric.unit.length ≤ limits.maxUnitLength)
        (definitionError (text "metric unit is too long")),
      require (metric.name ∉ before.map MetricSpec.name)
        (definitionError (text "duplicate metric name")),
      require (!(metric.kind = .categorical && metric.aggregation ≠ .majority &&
          metric.aggregation ≠ .none))
        (definitionError (text "categorical metric requires MAJORITY or NONE aggregation")),
      require (!((metric.kind = .real || metric.kind = .integer) &&
          metric.aggregation = .majority))
        (definitionError (text "numeric metric cannot use MAJORITY aggregation")),
      require (!Validation.inverted metric.lowerBound metric.upperBound)
        (definitionError (text "metric validity bounds are inverted")),
      require (!Validation.inverted metric.targetLow metric.targetHigh)
        (definitionError (text "metric target range is inverted"))]) [] spec.metrics,
    scan (fun before (branch : BranchSpec) => sequence [
      require (branch.name ≠ [] && branch.name.length ≤ limits.maxNameLength)
        (definitionError (text "branch name is empty or too long")),
      require (branch.name ∉ before.map BranchSpec.name)
        (definitionError (text "duplicate branch name")),
      require (branch.forkFrom.all fun parent => before.any (·.name = parent))
        (definitionError
          (text "branch fork parent must be declared earlier in the specification")),
      require (branch.plannedTrials ≠ 0 && branch.plannedTrials ≤ limits.maxTrialsPerBranch)
        (limitsError (text "branch planned trial count is out of range")),
      require (!hasDuplicateParameterKey branch.parameters)
        (definitionError (text "duplicate branch parameter key"))]) [] spec.branches,
    require (!spec.requireBaseline || spec.branches.any (·.role = .baseline))
      (definitionError (text "policy requires a baseline branch but none is designated")),
    require (spec.rules.length ≤ limits.maxComparisonRules)
      (limitsError (text "too many comparison rules")),
    forEach (fun (rule : ComparisonRuleSpec R) => sequence [
      require (rule.metric ∈ spec.metrics.map MetricSpec.name)
        (definitionError (text "comparison rule references an unknown metric name")),
      require (!(rule.op = .targetRange && MetricReal.lt rule.targetHigh rule.targetLow))
        (definitionError (text "comparison target range is inverted")),
      require (!(rule.op = .majorityWins &&
          (MetricReal.lt rule.threshold (MetricReal.ofInt 0) ||
            MetricReal.lt (MetricReal.ofInt 1) rule.threshold)))
        (definitionError (text "majority-wins threshold must be a fraction in [0,1]"))])
      spec.rules,
    require (!hasDuplicateParameterKey spec.parameters)
      (definitionError (text "duplicate experiment parameter key")),
    require (spec.majorityWinsMinBasisPoints ≤ 10000)
      (definitionError (text "majority-wins basis points out of range")),
    require (spec.maxAttemptsPerTrial ≠ 0 && spec.maxAttemptsPerTrial ≤ limits.maxAttemptsPerTrial)
      (limitsError (text "max attempts per trial is out of range")),
    require (!spec.requireBaseline || 2 ≤ spec.branches.length)
      (definitionError
        (text "baseline comparison requires a baseline and at least one candidate branch"))]

/-! ## Building a definition -/

/-- The metric definition of a specification, under an allocated identity. -/
def MetricSpec.define (spec : MetricSpec R) (id : MetricId) : MetricDefinition R where
  id := id
  name := spec.name
  unit := spec.unit
  kind := spec.kind
  direction := spec.direction
  aggregation := spec.aggregation
  required := spec.required
  acceptsNonFinite := spec.acceptsNonFinite
  lowerBound := spec.lowerBound
  upperBound := spec.upperBound
  targetLow := spec.targetLow
  targetHigh := spec.targetHigh
  weight := spec.weight
  priority := spec.priority
  categories := spec.categories

/-- Metric definitions under consecutive identities above a watermark. -/
def defineMetrics : Nat → List (MetricSpec R) → List (MetricDefinition R)
  | _, [] => []
  | watermark, spec :: rest => spec.define ⟨watermark + 1⟩ :: defineMetrics (watermark + 1) rest

/-- The identity a metric name was resolved to. -/
def metricNamed (metrics : List (MetricDefinition R)) (name : Text) : Option MetricId :=
  (metrics.find? (·.name = name)).map MetricDefinition.id

/-- The comparison rule of a specification.  Specification checks guarantee the metric name. -/
def ComparisonRuleSpec.define (spec : ComparisonRuleSpec R) (metrics : List (MetricDefinition R)) :
    ComparisonRule R where
  metric := (metricNamed metrics spec.metric).getD .null
  op := spec.op
  threshold := spec.threshold
  targetLow := spec.targetLow
  targetHigh := spec.targetHigh
  priority := spec.priority

/-- The branch definition of a root specification. -/
def BranchSpec.define (spec : BranchSpec) (id : BranchId) (sequence : Nat) : BranchDefinition where
  id := id
  name := spec.name
  role := spec.role
  generation := ⟨1⟩
  state := .active
  parameters := normalizeParameters spec.parameters
  inputSet := (spec.inputSet.map fun set => ⟨(fnv1a64 set).toNat⟩).getD .null
  inputSetPresent := spec.inputSet.isSome
  environment := (spec.environment.map fun environment => ⟨(fnv1a64 environment).toNat⟩).getD .null
  environmentPresent := spec.environment.isSome
  environmentFingerprint := spec.environmentFingerprint
  seed := spec.seed
  plannedTrials := spec.plannedTrials
  createdSequence := sequence

/-- Inherit from the specification of the fork parent what the branch does not declare. -/
def BranchDefinition.inherit (branch : BranchDefinition) (parent : BranchId)
    (parentSpec : BranchSpec) : BranchDefinition :=
  { branch with
    parent := parent
    forked := true
    parameters := normalizeParameters
      (branch.parameters.foldl overrideParameter (normalizeParameters parentSpec.parameters))
    inputSet :=
      if branch.inputSetPresent then branch.inputSet
      else (parentSpec.inputSet.map fun set => ⟨(fnv1a64 set).toNat⟩).getD branch.inputSet
    inputSetPresent := branch.inputSetPresent || parentSpec.inputSet.isSome
    environment :=
      if branch.environmentPresent then branch.environment
      else (parentSpec.environment.map fun environment =>
        ⟨(fnv1a64 environment).toNat⟩).getD branch.environment
    environmentPresent := branch.environmentPresent || parentSpec.environment.isSome
    environmentFingerprint :=
      if branch.environmentFingerprint = [] then parentSpec.environmentFingerprint
      else branch.environmentFingerprint }

/-- Branch definitions under consecutive identities above a watermark, with the watermark reached.
`declared` holds the earlier specifications with their identities. -/
def defineBranches (sequence : Nat) :
    Nat → List (BranchId × BranchSpec) → List BranchSpec → Nat × Result (List BranchDefinition)
  | watermark, _, [] => (watermark, .ok [])
  | watermark, declared, spec :: rest =>
      let id : BranchId := ⟨watermark + 1⟩
      let root := spec.define id sequence
      let branch : Result BranchDefinition :=
        match spec.forkFrom with
        | none => .ok root
        | some name =>
            match declared.find? (·.2.name = name) with
            | none => .error (definitionError
                (text "branch fork parent must be declared earlier in the specification"))
            | some parent => .ok (root.inherit parent.1 parent.2)
      match branch with
      | .error failure => (watermark + 1, .error failure)
      | .ok branch =>
          match defineBranches sequence (watermark + 1) (declared ++ [(id, spec)]) rest with
          | (reached, .ok branches) => (reached, .ok (branch :: branches))
          | (reached, .error failure) => (reached, .error failure)

/-- The comparison policy of a specification. -/
def ExperimentSpec.policy (spec : ExperimentSpec R) (id : PolicyId)
    (metrics : List (MetricDefinition R)) : ComparisonPolicy R where
  id := id
  generation := ⟨1⟩
  requireBaseline := spec.requireBaseline
  minCompletedTrialsPerBranch := spec.minCompletedTrialsPerBranch
  minValidObservationsPerRequiredMetric := spec.minValidObservationsPerRequiredMetric
  rejectOnAnyInvalidObservation := spec.rejectOnAnyInvalidObservation
  requireEnvironmentMatch := spec.requireEnvironmentMatch
  majorityWinsMinBasisPoints := spec.majorityWinsMinBasisPoints
  useWeightedScore := spec.useWeightedScore
  acceptScoreThreshold := spec.acceptScoreThreshold
  rules := spec.rules.map (·.define metrics)

/-- The first record of an experiment. -/
def ExperimentSpec.record (spec : ExperimentSpec R) (id : ExperimentId) (hypothesis : HypothesisId)
    (policy : PolicyId) (metrics : List (MetricDefinition R)) (expectedMetric : MetricId)
    (branches : List BranchDefinition) (sequence : Nat) : ExperimentRecord R where
  definition :=
    { id := id
      generation := ⟨1⟩
      hypothesis := hypothesis
      hypothesisRevision := ⟨1⟩
      name := spec.name
      branches := branches
      metrics := metrics
      policy := spec.policy policy metrics
      seedPolicy := spec.seedPolicy
      experimentSeed := spec.experimentSeed
      retryPolicy := spec.retryPolicy
      maxAttemptsPerTrial := spec.maxAttemptsPerTrial
      partialFailurePolicy := spec.partialFailurePolicy
      lateEvidencePolicy := spec.lateEvidencePolicy
      parameters := normalizeParameters spec.parameters
      provenance := spec.provenance
      createdSequence := sequence }
  hypothesis :=
    { id := hypothesis
      revision := ⟨1⟩
      statement := spec.hypothesisStatement
      expectedDirection := spec.expectedDirection
      expectedMetric := expectedMetric
      provenance := spec.provenance
      createdSequence := sequence }
  state := .opened
  revisionSequence := sequence
  createdSequence := sequence
  lifecycleLog := [text "experiment-created generation=" ++ decimal 1]

/-! ## Closing live work -/

/-- End an attempt in a state, with the reason. -/
def AttemptRecord.finish (attempt : AttemptRecord) (state : AttemptState) (kind : FailureKind)
    (detail : Text) (sequence : Nat) : AttemptRecord :=
  { attempt with
    state := state, failureKind := kind, failureDetail := detail, updatedSequence := sequence }

/-- End a trial in a state, with the reason. -/
def TrialRecord.finish (trial : TrialRecord) (state : TrialState) (kind : FailureKind)
    (detail : Text) (sequence : Nat) : TrialRecord :=
  { trial with
    state := state, failureKind := kind, failureDetail := detail, updatedSequence := sequence }

/-- Close an attempt that is selected and not terminal yet. -/
def closeAttempt (select : AttemptRecord → Bool) (state : AttemptState) (kind : FailureKind)
    (detail : Text) (sequence : Nat) (attempt : AttemptRecord) : AttemptRecord :=
  if select attempt && !isAttemptTerminal attempt.state then
    attempt.finish state kind detail sequence
  else attempt

/-- Close a trial that is selected and not terminal yet. -/
def closeTrial (select : TrialRecord → Bool) (state : TrialState) (kind : FailureKind)
    (detail : Text) (sequence : Nat) (trial : TrialRecord) : TrialRecord :=
  if select trial && !isTerminal trial.state then trial.finish state kind detail sequence
  else trial

/-- Close the selected attempts that are not terminal yet. -/
def closeAttempts (select : AttemptRecord → Bool) (state : AttemptState) (kind : FailureKind)
    (detail : Text) (sequence : Nat) (attempts : OrderedMap TrialAttemptId AttemptRecord) :
    OrderedMap TrialAttemptId AttemptRecord :=
  attempts.mapValues (closeAttempt select state kind detail sequence)

/-- Close the selected trials that are not terminal yet. -/
def closeTrials (select : TrialRecord → Bool) (state : TrialState) (kind : FailureKind)
    (detail : Text) (sequence : Nat) (trials : OrderedMap TrialId TrialRecord) :
    OrderedMap TrialId TrialRecord :=
  trials.mapValues (closeTrial select state kind detail sequence)

namespace ExperimentRecord

/-- Abandon every live attempt and supersede every open trial. -/
def abandonStaleLiveWork (record : ExperimentRecord R) (sequence : Nat) : ExperimentRecord R :=
  { record with
    attempts := closeAttempts (fun _ => true) .abandoned .experimentInvalidation
      (text "superseded by an experiment generation change") sequence record.attempts
    trials := closeTrials (fun _ => true) .superseded .experimentInvalidation
      (text "superseded by an experiment generation change") sequence record.trials }

/-- Replace the hypothesis by its next revision and advance the experiment generation. -/
def revise (record : ExperimentRecord R) (spec : HypothesisRevisionSpec) (sequence : Nat) :
    ExperimentRecord R :=
  let revision : HypothesisRevision := ⟨record.hypothesis.revision.value + 1⟩
  let generation : ExperimentGeneration := ⟨record.definition.generation.value + 1⟩
  let revised : ExperimentRecord R :=
    { record with
      hypothesisHistory := record.hypothesisHistory ++
        [{ record.hypothesis with superseded := true, supersededByRevision := revision }]
      hypothesis :=
        { record.hypothesis with
          revision := revision
          statement := spec.statement
          expectedDirection := spec.expectedDirection
          expectedMetric := spec.expectedMetric
          provenance := spec.provenance
          createdSequence := sequence
          superseded := false
          supersededByRevision := .null }
      definition :=
        { record.definition with hypothesisRevision := revision, generation := generation }
      revisionSequence := sequence }
  (revised.abandonStaleLiveWork sequence).log
    (text "hypothesis-revised revision=" ++ revision.toText ++ text " generation=" ++
      generation.toText)

/-- The branch that forking `parent` creates. -/
def forkedBranch (parent : BranchDefinition) (spec : BranchSpec) (id : BranchId) (sequence : Nat) :
    BranchDefinition where
  id := id
  name := spec.name
  role := spec.role
  parent := parent.id
  generation := ⟨1⟩
  state := .active
  parameters := normalizeParameters
    ((normalizeParameters spec.parameters).foldl overrideParameter
      (normalizeParameters parent.parameters))
  inputSet := parent.inputSet
  inputSetPresent := parent.inputSetPresent
  environment := parent.environment
  environmentPresent := parent.environmentPresent
  environmentFingerprint := parent.environmentFingerprint
  seed := if spec.seed.isSome then spec.seed else parent.seed
  plannedTrials := spec.plannedTrials
  createdSequence := sequence
  forked := true

/-- Append a branch. -/
def fork (record : ExperimentRecord R) (branch : BranchDefinition) (sequence : Nat) :
    ExperimentRecord R :=
  ({ record with
      definition := { record.definition with branches := record.definition.branches ++ [branch] }
      revisionSequence := sequence } : ExperimentRecord R).log
    (text "branch-forked branch=" ++ branch.id.toText ++ text " parent=" ++ branch.parent.toText)

/-- Drop the last branch. -/
def unfork (record : ExperimentRecord R) : ExperimentRecord R :=
  { record with
    definition := { record.definition with branches := record.definition.branches.dropLast } }

/-- Retire a branch, supersede its open trials and abandon its live attempts. -/
def retire (record : ExperimentRecord R) (branch : BranchId) (reason : Text) (sequence : Nat) :
    ExperimentRecord R :=
  ({ record with
      definition :=
        { record.definition with
          branches := updateBranch branch
            (fun current =>
              { current with state := .retired, generation := ⟨current.generation.value + 1⟩ })
            record.definition.branches }
      trials := closeTrials (·.branch = branch) .superseded .experimentInvalidation
        (text "branch retired: " ++ reason) sequence record.trials
      attempts := closeAttempts (·.branch = branch) .abandoned .experimentInvalidation
        (text "branch retired: " ++ reason) sequence record.attempts
      revisionSequence := sequence } : ExperimentRecord R).log
    (text "branch-retired branch=" ++ branch.toText ++ text " reason=" ++ reason)

/-- Trials a branch holds at the current experiment generation. -/
def plannedTrialsHeld (record : ExperimentRecord R) (branch : BranchId) : Nat :=
  record.trials.values.countP fun trial =>
    trial.branch = branch && trial.generation = record.definition.generation

/-- The seed a new trial receives. -/
def trialSeed (record : ExperimentRecord R) (id : TrialId) : Option UInt64 :=
  match record.definition.seedPolicy with
  | .fixed => record.definition.experimentSeed
  | .derivedPerTrial =>
      some (deriveTrialSeed (record.definition.experimentSeed.getD 0) (UInt64.ofNat id.value))
  | .producerSupplied | .none => none

/-- The trial that `createTrial` adds to a branch. -/
def newTrial (record : ExperimentRecord R) (experiment : ExperimentId) (branch : BranchDefinition)
    (id : TrialId) (payload : Text) (sequence : Nat) : TrialRecord where
  id := id
  experiment := experiment
  generation := record.definition.generation
  branch := branch.id
  branchGeneration := branch.generation
  hypothesis := record.definition.hypothesis
  hypothesisRevision := record.definition.hypothesisRevision
  policy := record.definition.policy.id
  policyGeneration := record.definition.policy.generation
  state := .ready
  nextAttemptNumber := ⟨1⟩
  seed := record.trialSeed id
  inputSet := branch.inputSet
  inputSetPresent := branch.inputSetPresent
  environment := branch.environment
  environmentPresent := branch.environmentPresent
  environmentFingerprint := branch.environmentFingerprint
  payload := payload
  createdSequence := sequence
  updatedSequence := sequence

/-- Add a trial. -/
def addTrial (record : ExperimentRecord R) (trial : TrialRecord) : ExperimentRecord R :=
  ({ record with trials := record.trials.emplace trial.id trial } : ExperimentRecord R).log
    (text "trial-created trial=" ++ trial.id.toText ++ text " branch=" ++ trial.branch.toText)

/-- A trial of the record after an addition was there before it or is the one added. -/
theorem find?_addTrial {record : ExperimentRecord R} {added trial : TrialRecord} {key : TrialId}
    (found : (record.addTrial added).trials.find? key = some trial) :
    record.trials.find? key = some trial ∨ key = added.id ∧ trial = added :=
  OrderedMap.find?_emplace_cases found

/-- Remove a trial. -/
def removeTrial (record : ExperimentRecord R) (id : TrialId) : ExperimentRecord R :=
  { record with trials := record.trials.erase id }

end ExperimentRecord

namespace Coordinator

variable [MetricReal R]

/-! ## Operations -/

/-- Admit a specification as a new experiment. -/
def createExperiment (c : Coordinator R) (spec : ExperimentSpec R) (fault : Option SaveFault) :
    Coordinator R × Result ExperimentId :=
  match validateSpec spec c.limits with
  | .error failure => (c, .error failure)
  | .ok () =>
      if !c.admittingWork then (c, .error shuttingDown)
      else if c.state.experiments.size ≥ c.limits.maxExperiments then
        (c, .error (limitsError (text "too many experiments")))
      else
        let c := c.allocExperimentId
        let experiment : ExperimentId := ⟨c.state.watermarks.experiment⟩
        if (c.findExperiment experiment).isSome then
          (c, .error ⟨.alreadyExists, .identity, text "experiment identity collision"⟩)
        else
          let c := c.nextSequence
          let sequence := c.currentSequence
          let c := c.allocHypothesisId
          let hypothesis : HypothesisId := ⟨c.state.watermarks.hypothesis⟩
          let metrics := defineMetrics c.state.watermarks.metric spec.metrics
          let c := c.advance fun marks =>
            { marks with metric := marks.metric + spec.metrics.length }
          -- An unknown expected metric is refused after identities were allocated.
          match spec.expectedMetric.map (metricNamed metrics) with
          | some none => (c, .error (definitionError
              (text "hypothesis references an unknown expected metric name")))
          | expected =>
              let c := c.advance fun marks => { marks with policy := marks.policy + 1 }
              let policy : PolicyId := ⟨c.state.watermarks.policy⟩
              let branches := defineBranches sequence c.state.watermarks.branch [] spec.branches
              let c := c.advance fun marks => { marks with branch := branches.1 }
              match branches.2 with
              | .error failure => (c, .error failure)
              | .ok branches =>
                  let record := spec.record experiment hypothesis policy metrics
                    ((expected.bind id).getD .null) branches sequence
                  let stored := c.withRecord experiment record
                  match validateExperimentRecord record c.limits experiment with
                  | .error failure => (stored.eraseExperiment experiment, .error failure)
                  | .ok () => stored.settle fault (·.eraseExperiment experiment) experiment

/-- Guard of `reviseHypothesis`. -/
def reviseHypothesisGuard (c : Coordinator R) (experiment : ExperimentId)
    (spec : HypothesisRevisionSpec) : Result (ExperimentRecord R) := do
  let record ← demand (c.findExperiment experiment) (notFound (text "experiment does not exist"))
  require (isExperimentMutable record.state) (lifecycleError .invalidTransition
    (text "experiment does not accept new hypothesis revisions"))
  require (spec.statement ≠ [] && spec.statement.length ≤ c.limits.maxStatementLength)
    (definitionError (text "hypothesis statement is empty or too long"))
  require (!spec.expectedMetric.valid || (record.findMetric spec.expectedMetric).isSome)
    (definitionError (text "hypothesis references an unknown metric"))
  return record

/-- Revise the hypothesis of an experiment. -/
def reviseHypothesis (c : Coordinator R) (experiment : ExperimentId)
    (spec : HypothesisRevisionSpec) (fault : Option SaveFault) :
    Coordinator R × Result HypothesisRevision :=
  match c.reviseHypothesisGuard experiment spec with
  | .error failure => (c, .error failure)
  | .ok record =>
      let c := c.nextSequence
      let record := record.revise spec c.currentSequence
      (c.withRecord experiment record).settle fault id record.hypothesis.revision

/-- Guard of `forkBranch`. -/
def forkBranchGuard (c : Coordinator R) (experiment : ExperimentId) (parent : BranchId)
    (spec : BranchSpec) : Result (ExperimentRecord R × BranchDefinition) := do
  let record ← demand (c.findExperiment experiment) (notFound (text "experiment does not exist"))
  require (isExperimentMutable record.state) (lifecycleError .invalidTransition
    (text "experiment does not accept new branches"))
  let parentBranch ← demand (record.findBranch parent)
    (notFound (text "parent branch does not exist"))
  require (parentBranch.state ≠ .invalid && parentBranch.state ≠ .superseded)
    (lifecycleError .staleBranch (text "parent branch is not eligible for forking"))
  require (record.definition.branches.length < c.limits.maxBranchesPerExperiment)
    (limitsError (text "too many branches"))
  require (spec.name ≠ [] && spec.name.length ≤ c.limits.maxNameLength)
    (definitionError (text "branch name is empty or too long"))
  require (record.definition.branches.all (·.name ≠ spec.name))
    ⟨.alreadyExists, .definition, text "branch name already exists"⟩
  require (spec.plannedTrials ≠ 0 && spec.plannedTrials ≤ c.limits.maxTrialsPerBranch)
    (limitsError (text "branch planned trial count is out of range"))
  require (!hasDuplicateParameterKey spec.parameters)
    (definitionError (text "duplicate branch parameter key"))
  require (record.definition.branches.all fun existing =>
      !(existing.role = .baseline && spec.role = .baseline))
    (definitionError (text "an experiment generation may designate only one baseline branch"))
  return (record, parentBranch)

/-- Drop the last branch of an experiment, after a fork that was not kept. -/
def undoFork (experiment : ExperimentId) (record : ExperimentRecord R) (c : Coordinator R) :
    Coordinator R :=
  c.withRecord experiment record.unfork

/-- Fork a branch. -/
def forkBranch (c : Coordinator R) (experiment : ExperimentId) (parent : BranchId)
    (spec : BranchSpec) (fault : Option SaveFault) : Coordinator R × Result BranchId :=
  match c.forkBranchGuard experiment parent spec with
  | .error failure => (c, .error failure)
  | .ok (record, parentBranch) =>
      let c := c.nextSequence
      let sequence := c.currentSequence
      let c := c.allocBranchId
      let branch : BranchId := ⟨c.state.watermarks.branch⟩
      let record :=
        record.fork (ExperimentRecord.forkedBranch parentBranch spec branch sequence) sequence
      let stored := c.withRecord experiment record
      match validateExperimentRecord record c.limits experiment with
      | .error failure => (undoFork experiment record stored, .error failure)
      | .ok () => stored.settle fault (undoFork experiment record) branch

/-- Guard of `retireBranch`. -/
def retireBranchGuard (c : Coordinator R) (experiment : ExperimentId) (branch : BranchId) :
    Result (ExperimentRecord R) := do
  let record ← demand (c.findExperiment experiment) (notFound (text "experiment does not exist"))
  let definition ← demand (record.findBranch branch) (notFound (text "branch does not exist"))
  require (definition.state.isValidTransition .retired)
    (invalidTransitionStatus (text "branch") definition.state.toText (text "RETIRED"))
  return record

/-- Retire a branch. -/
def retireBranch (c : Coordinator R) (experiment : ExperimentId) (branch : BranchId)
    (reason : Text) (fault : Option SaveFault) : Coordinator R × Result BranchId :=
  match c.retireBranchGuard experiment branch with
  | .error failure => (c, .error failure)
  | .ok record =>
      let c := c.nextSequence
      (c.withRecord experiment (record.retire branch reason c.currentSequence)).settle fault id
        branch

/-- Guard of `createTrial`. -/
def createTrialGuard (c : Coordinator R) (experiment : ExperimentId) (branch : BranchId)
    (payload : Text) : Result (ExperimentRecord R × BranchDefinition) := do
  let record ← demand (c.findExperiment experiment) (notFound (text "experiment does not exist"))
  require (isExperimentMutable record.state) (lifecycleError .invalidTransition
    (text "experiment does not accept new trials"))
  let definition ← demand (record.findBranch branch) (notFound (text "branch does not exist"))
  require (isBranchEligible definition.state)
    (lifecycleError .staleBranch (text "branch is not eligible for new trials"))
  require (payload.length ≤ c.limits.maxPayloadTextLength)
    (limitsError (text "trial payload exceeds the configured bound"))
  require (record.plannedTrialsHeld branch < definition.plannedTrials)
    (limitsError (text "branch already holds its planned number of trials"))
  require (record.trials.size <
      record.definition.branches.length * c.limits.maxTrialsPerBranch)
    (limitsError (text "experiment holds too many trials"))
  return (record, definition)

/-- Remove a trial of an experiment, after a creation that was not kept. -/
def undoTrial (experiment : ExperimentId) (record : ExperimentRecord R) (id : TrialId)
    (c : Coordinator R) : Coordinator R :=
  c.withRecord experiment (record.removeTrial id)

/-- Create a logical trial under a branch. -/
def createTrial (c : Coordinator R) (experiment : ExperimentId) (branch : BranchId)
    (payload : Text) (fault : Option SaveFault) : Coordinator R × Result TrialId :=
  match c.createTrialGuard experiment branch payload with
  | .error failure => (c, .error failure)
  | .ok (record, definition) =>
      let c := c.nextSequence
      let sequence := c.currentSequence
      let c := c.allocTrialId
      let id : TrialId := ⟨c.state.watermarks.trial⟩
      let record := record.addTrial (record.newTrial experiment definition id payload sequence)
      let stored := c.withRecord experiment record
      match validateExperimentRecord record c.limits experiment with
      | .error failure => (undoTrial experiment record id stored, .error failure)
      | .ok () => stored.settle fault (undoTrial experiment record id) id

end Coordinator

end ExperimentFabric
