import Mathlib.Algebra.Order.Field.Rat
import ExperimentFabric.Outcome
import ExperimentFabric.Lib.Overlays

/-!
# Acceptance

An accepted candidate is traced back to the trials and observations of the record.  Metric values
are taken in an exact linearly ordered field.
-/

namespace ExperimentFabric

open Lib

/-- The operations on metric values are those of an exact linearly ordered field. -/
class ExactMetrics (R : Type) [Field R] [LinearOrder R] [MetricReal R] : Prop extends
    IsStrictOrderedRing R where
  ofInt_eq : ∀ value : Int, MetricReal.ofInt value = (value : R)
  add_eq : ∀ left right : R, MetricReal.add left right = left + right
  sub_eq : ∀ left right : R, MetricReal.sub left right = left - right
  mul_eq : ∀ left right : R, MetricReal.mul left right = left * right
  div_eq : ∀ left right : R, MetricReal.div left right = left / right
  neg_eq : ∀ value : R, MetricReal.neg value = -value
  lt_eq : ∀ left right : R, MetricReal.lt left right = decide (left < right)
  le_eq : ∀ left right : R, MetricReal.le left right = decide (left ≤ right)
  eq_eq : ∀ left right : R, MetricReal.eq left right = decide (left = right)

variable {R : Type}

/-! ## Observations behind an aggregate -/

namespace ExperimentRecord

/-- The authoritative attempt of the trial reported the metric with this validity. -/
def reports (record : ExperimentRecord R) (metric : MetricId) (validity : ObservationValidity)
    (trial : TrialRecord) : Bool :=
  record.observations.any fun observation =>
    record.inCell trial.id metric observation && observation.validity = validity

/-- The trials that count for a branch. -/
def currentTrials (record : ExperimentRecord R) (branch : BranchDefinition) : List TrialRecord :=
  record.trials.values.filter (record.isAuthoritative branch)

end ExperimentRecord

/-- The observations of a list counted on top of a summary. -/
theorem foldl_add_eq (observations : List (Observation R)) (summary : ObservationSummary R) :
    observations.foldl ObservationSummary.add summary =
      { valid := summary.valid.or (observations.find? (·.validity = .valid))
        invalid := summary.invalid + observations.countP (·.validity = .invalid)
        missing := summary.missing + observations.countP (·.validity = .missing)
        unsupported := summary.unsupported + observations.countP (·.validity = .unsupported) } := by
  induction observations generalizing summary with
  | nil => simp
  | cons first rest ih =>
      rw [List.foldl_cons, ih]
      cases kind : first.validity with
      | valid =>
          cases held : summary.valid <;>
            simp [ObservationSummary.add, kind, held]
      | invalid | missing | unsupported =>
          simp [ObservationSummary.add, kind, Nat.add_assoc, Nat.add_comm]

theorem summaryOf_cons (first : Observation R) (rest : List (Observation R)) :
    summaryOf (first :: rest) = some ((first :: rest).foldl ObservationSummary.add {}) := rfl

/-- A cell holds a valid observation exactly when its trial reports one. -/
theorem cell_valid (record : ExperimentRecord R) (trial : TrialRecord) (metric : MetricId) :
    ((record.evidenceIndex.find? (cellKey trial.id metric)).bind
      ObservationSummary.valid).isSome = record.reports metric .valid trial := by
  rw [evidenceIndex_cell, ExperimentRecord.reports, ← List.any_filter]
  cases record.observations.filter (record.inCell trial.id metric) with
  | nil => rfl
  | cons first rest =>
      rw [summaryOf_cons, Option.bind_some, foldl_add_eq]
      exact Bool.eq_iff_iff.mpr (by simp)

/-- A cell counts no invalid observation when its trial reports none. -/
theorem cell_invalid (record : ExperimentRecord R) (trial : TrialRecord) (metric : MetricId)
    {summary : ObservationSummary R}
    (found : record.evidenceIndex.find? (cellKey trial.id metric) = some summary)
    (none : summary.invalid = 0) : record.reports metric .invalid trial = false := by
  rw [evidenceIndex_cell] at found
  rw [ExperimentRecord.reports, ← List.any_filter]
  cases cell : record.observations.filter (record.inCell trial.id metric) with
  | nil => rfl
  | cons first rest =>
      rw [cell, summaryOf_cons] at found
      obtain rfl := Option.some.inj found
      rw [foldl_add_eq, Nat.add_eq_zero_iff, List.countP_eq_zero] at none
      rw [List.any_eq_false]
      exact none.2

section Aggregates

variable [MetricReal R]

/-- The aggregate of a metric over the authoritative trials of a branch. -/
def ExperimentRecord.aggregateOn (record : ExperimentRecord R) (branch : BranchDefinition)
    (metric : MetricDefinition R) : MetricAggregate R :=
  aggregate metric (record.authoritativeTrials branch.id)
    ((record.authoritativeTrials branch.id).map fun trial =>
      record.evidenceIndex.find? (cellKey trial.id metric.id))

/-- The valid observations of an aggregate are those of distinct trials. -/
theorem aggregateOn_validCount (record : ExperimentRecord R) (branch : BranchDefinition)
    (metric : MetricDefinition R) :
    (record.aggregateOn branch metric).validCount =
      (record.authoritativeTrials branch.id).countP (record.reports metric.id .valid) := by
  unfold ExperimentRecord.aggregateOn aggregate
  dsimp only
  induction record.authoritativeTrials branch.id with
  | nil => rfl
  | cons trial rest ih =>
      have here := cell_valid record trial metric.id
      rw [List.countP_cons, ← ih, List.map_cons]
      cases found : record.evidenceIndex.find? (cellKey trial.id metric.id) with
      | none =>
          rw [found] at here
          simp [← here]
      | some summary =>
          rw [found, Option.bind_some] at here
          cases held : summary.valid with
          | none =>
              rw [held] at here
              simp [← here, held]
          | some observation =>
              rw [held] at here
              simp [← here, held]

/-- A present aggregate has a valid observation. -/
theorem aggregate_present (metric : MetricDefinition R) (trials : List TrialRecord)
    (summaries : List (Option (ObservationSummary R)))
    (present : (aggregate metric trials summaries).present = true) :
    1 ≤ (aggregate metric trials summaries).validCount := by
  unfold aggregate at present ⊢
  dsimp only at present ⊢
  generalize (summaries.filterMap id).filterMap ObservationSummary.valid = observed at present ⊢
  cases observed with
  | nil => split at present <;> cases present
  | cons first rest => exact Nat.succ_le_succ (Nat.zero_le _)

/-- An aggregate without invalid observations has none in any of its trials. -/
theorem aggregateOn_clean {record : ExperimentRecord R} {branch : BranchDefinition}
    {metric : MetricDefinition R} (clean : (record.aggregateOn branch metric).invalidCount = 0)
    {trial : TrialRecord} (listed : trial ∈ record.authoritativeTrials branch.id) :
    record.reports metric.id .invalid trial = false := by
  unfold ExperimentRecord.aggregateOn aggregate at clean
  dsimp only at clean
  cases found : record.evidenceIndex.find? (cellKey trial.id metric.id) with
  | none =>
      rw [evidenceIndex_cell] at found
      rw [ExperimentRecord.reports, ← List.any_filter]
      cases cell : record.observations.filter (record.inCell trial.id metric.id) with
      | nil => rfl
      | cons first rest =>
          rw [cell] at found
          cases found
  | some summary =>
      refine cell_invalid record trial metric.id found (List.sum_eq_zero_iff.mp clean _ ?_)
      refine List.mem_map_of_mem (List.mem_filterMap.mpr ⟨some summary, ?_, rfl⟩)
      exact List.mem_map.mpr ⟨trial, listed, found⟩

/-! ## Evidence of declared branches -/

/-- With distinct branch identities, the evidence of a branch is its own. -/
theorem evidenceOf_distinct {record : ExperimentRecord R}
    (distinct : (record.definition.branches.map BranchDefinition.id).Nodup)
    {branch : BranchDefinition} (declared : branch ∈ record.definition.branches) :
    evidenceOf record.computeEvidence branch.id = some (record.branchEvidence branch) := by
  obtain ⟨_, found, lookup, rfl, held, named⟩ := evidenceOf_declared declared
  rw [lookup, List.inj_on_of_nodup_map distinct held declared named]

omit [MetricReal R] in
/-- With distinct branch identities, the authoritative trials of a branch are its current ones. -/
theorem authoritativeTrials_perm {record : ExperimentRecord R}
    (distinct : (record.definition.branches.map BranchDefinition.id).Nodup)
    {branch : BranchDefinition} (declared : branch ∈ record.definition.branches) :
    (record.authoritativeTrials branch.id).Perm (record.currentTrials branch) := by
  have found : record.findBranch branch.id = some branch :=
    (find?_key_eq_some_iff distinct).mpr ⟨declared, rfl⟩
  unfold ExperimentRecord.authoritativeTrials ExperimentRecord.currentTrials
  rw [found]
  exact List.perm_insertionSort _ _

/-- With distinct metric identities, the aggregate of a metric is its own. -/
theorem branchHasMetric_distinct {record : ExperimentRecord R}
    (distinct : (record.definition.metrics.map MetricDefinition.id).Nodup)
    (branch : BranchDefinition) {metric : MetricDefinition R}
    (declared : metric ∈ record.definition.metrics) :
    branchHasMetric (record.branchEvidence branch) metric.id =
      some (record.aggregateOn branch metric) := by
  have member : record.aggregateOn branch metric ∈ (record.branchEvidence branch).aggregates :=
    List.mem_map_of_mem (List.mem_insertionSort _ |>.mpr declared)
  have keys : ((record.branchEvidence branch).aggregates.map MetricAggregate.metric).Nodup := by
    change ((List.insertionSort _ record.definition.metrics).map _ |>.map _).Nodup
    rw [List.map_map]
    exact ((List.perm_insertionSort _ _).map MetricDefinition.id).nodup_iff.mpr distinct
  exact (find?_key_eq_some_iff keys).mpr ⟨member, rfl⟩

/-- An aggregate found on a branch is that of a declared metric. -/
theorem branchHasMetric_declared {record : ExperimentRecord R} {branch : BranchDefinition}
    {id : MetricId} {found : MetricAggregate R}
    (held : branchHasMetric (record.branchEvidence branch) id = some found) :
    ∃ metric ∈ record.definition.metrics, metric.id = id := by
  obtain ⟨metric, listed, rfl⟩ := List.mem_map.mp (List.mem_of_find?_eq_some held)
  have named := List.find?_some held
  exact ⟨metric, (List.mem_insertionSort _).mp listed, of_decide_eq_true named⟩

end Aggregates

/-! ## What acceptance asks for -/

/-- The evidence a branch brings to an accepted decision. -/
structure Supported (record : ExperimentRecord R) (branch : BranchDefinition) : Prop where
  declared : branch ∈ record.definition.branches
  active : branch.state = .active
  completed : record.definition.policy.minCompletedTrialsPerBranch ≤
    (record.currentTrials branch).length
  observed : ∀ metric ∈ record.definition.metrics, metric.required = true →
    max 1 record.definition.policy.minValidObservationsPerRequiredMetric ≤
      ((record.currentTrials branch).filter (record.reports metric.id .valid)).length
  clean : record.definition.policy.rejectOnAnyInvalidObservation = true →
    ∀ metric ∈ record.definition.metrics, metric.required = true →
      ∀ trial ∈ record.currentTrials branch, record.reports metric.id .invalid trial = false

section Field

variable [Field R] [LinearOrder R]

/-- How much better the candidate is, in the direction of the metric. -/
def MetricDirection.gain (direction : MetricDirection) (baseline candidate : R) : R :=
  if direction = .minimize then baseline - candidate else candidate - baseline

/-- What a rule asks of the aggregates of the baseline and of the candidate. -/
def ComparisonRule.Met (rule : ComparisonRule R) (direction : MetricDirection)
    (baseline candidate : MetricAggregate R) : Prop :=
  match rule.op with
  | .greaterThan => baseline.value + rule.threshold < candidate.value
  | .lessThan => candidate.value < baseline.value - rule.threshold
  | .minImprovement => rule.threshold ≤ direction.gain baseline.value candidate.value
  | .maxRegressionTolerance => -direction.gain baseline.value candidate.value ≤ rule.threshold
  | .targetRange => rule.targetLow ≤ candidate.value ∧ candidate.value ≤ rule.targetHigh
  | .majorityWins =>
      let pairs := baseline.rawValues.zip candidate.rawValues
      pairs ≠ [] ∧ rule.threshold ≤
        ((pairs.countP fun pair => 0 < direction.gain pair.1 pair.2 : Nat) : R) / (pairs.length : R)
  | .reportOnly => True

variable [MetricReal R] [ExactMetrics R]

theorem improvement_eq (direction : MetricDirection) (baseline candidate : R) :
    improvement direction baseline candidate = direction.gain baseline candidate := by
  cases direction <;> exact ExactMetrics.sub_eq _ _

/-- The factor of a rule is satisfied exactly when the rule is met. -/
theorem evaluateRule_satisfied (direction : MetricDirection) (name : Text) (rule : ComparisonRule R)
    (baseline candidate : MetricAggregate R) :
    (evaluateRule direction name rule baseline candidate).satisfied = true ↔
      rule.Met direction baseline candidate := by
  unfold evaluateRule ComparisonRule.Met winFraction
  cases rule.op with
  | greaterThan => simp [ExactMetrics.lt_eq, ExactMetrics.add_eq]
  | lessThan => simp [ExactMetrics.lt_eq, ExactMetrics.sub_eq]
  | minImprovement => simp [ExactMetrics.le_eq, improvement_eq]
  | maxRegressionTolerance => simp [ExactMetrics.le_eq, ExactMetrics.neg_eq, improvement_eq]
  | targetRange => simp [ExactMetrics.le_eq]
  | reportOnly => simp
  | majorityWins =>
      dsimp only
      cases baseline.rawValues.zip candidate.rawValues with
      | nil => simp
      | cons pair rest =>
          simp [ExactMetrics.le_eq, ExactMetrics.lt_eq, ExactMetrics.div_eq, ExactMetrics.ofInt_eq,
            improvement_eq]

/-- The two aggregates that a rule compares. -/
structure Compares (record : ExperimentRecord R) (candidate baseline : BranchDefinition)
    (rule : ComparisonRule R) (metric : MetricDefinition R) : Prop where
  declared : metric ∈ record.definition.metrics
  named : metric.id = rule.metric
  onCandidate : (record.aggregateOn candidate metric).present = true
  onBaseline : (record.aggregateOn baseline metric).present = true

/-- All that an accepted decision on a candidate rests on. -/
structure Acceptable (record : ExperimentRecord R) (id : BranchId)
    (candidate baseline : BranchDefinition) : Prop where
  opened : record.state = .opened
  named : candidate.id = id
  designated : baseline.role = .baseline
  distinct : candidate.id ≠ baseline.id
  onCandidate : Supported record candidate
  onBaseline : Supported record baseline
  decided : ∃ rule ∈ record.definition.policy.rules, rule.op ≠ .reportOnly
  met : ∀ rule ∈ record.definition.policy.rules, rule.op ≠ .reportOnly →
    ∃ metric, Compares record candidate baseline rule metric ∧
      rule.Met metric.direction (record.aggregateOn baseline metric)
        (record.aggregateOn candidate metric)
  differs : ∃ rule ∈ record.definition.policy.rules, rule.op ≠ .reportOnly ∧
    ∃ metric, Compares record candidate baseline rule metric ∧
      (record.aggregateOn candidate metric).value ≠ (record.aggregateOn baseline metric).value

end Field

/-! ## Tracing an acceptance -/

section Trace

variable [MetricReal R]

omit [MetricReal R] in
/-- The environments never turn a failed ruling into an acceptance. -/
theorem constrainEnvironment_accept {record : ExperimentRecord R} {candidate : BranchDefinition}
    {baseline : Option BranchDefinition} {ruling : Ruling}
    (accepted : (constrainEnvironment record candidate baseline ruling).outcome = .accept) :
    ruling.outcome = .accept := by
  unfold constrainEnvironment Ruling.failWhen at accepted
  split at accepted
  · exact accepted
  · dsimp only at accepted
    split at accepted
    · split at accepted
      · exact (Ruling.fail_outcome _ _ _ (by simp) accepted).elim
      · exact accepted
    · split at accepted
      · exact (Ruling.fail_outcome _ _ _ (by simp) accepted).elim
      · exact accepted

/-- A branch whose required metrics pass is supported by its trials. -/
theorem supported_of_metrics {record : ExperimentRecord R}
    (branches : (record.definition.branches.map BranchDefinition.id).Nodup)
    (metrics : (record.definition.metrics.map MetricDefinition.id).Nodup)
    {branch : BranchDefinition} (declared : branch ∈ record.definition.branches)
    (active : branch.state = .active)
    (enough : record.definition.policy.minCompletedTrialsPerBranch ≤
      (record.branchEvidence branch).completedTrials)
    (present : ∀ metric ∈ record.definition.metrics, metric.required = true →
      PresentIn record.definition.policy
        (branchHasMetric (record.branchEvidence branch) metric.id) ∧
      (record.definition.policy.rejectOnAnyInvalidObservation = true →
        invalidObservations (some (record.branchEvidence branch)) metric.id = 0)) :
    Supported record branch := by
  have trials := authoritativeTrials_perm branches declared
  refine ⟨declared, active, ?_, fun metric listed required => ?_,
    fun rejects metric listed required trial current => ?_⟩
  · rw [← trials.length_eq]
    exact enough
  · obtain ⟨⟨found, held, holds, minimum⟩, -⟩ := present metric listed required
    rw [branchHasMetric_distinct metrics branch listed] at held
    obtain rfl := Option.some.inj held
    have counted := aggregateOn_validCount record branch metric
    rw [trials.countP_eq, List.countP_eq_length_filter] at counted
    rw [← counted]
    exact max_le (aggregate_present _ _ _ holds) minimum
  · have clean := (present metric listed required).2 rejects
    rw [invalidObservations, Option.bind_some, branchHasMetric_distinct metrics branch listed]
      at clean
    exact aggregateOn_clean clean (trials.mem_iff.mpr current)

/-- A present aggregate of a branch is that of a declared metric. -/
theorem presentAggregate_declared {record : ExperimentRecord R}
    (metrics : (record.definition.metrics.map MetricDefinition.id).Nodup)
    {branch : BranchDefinition} {metric : MetricDefinition R}
    (declared : metric ∈ record.definition.metrics) {found : MetricAggregate R}
    (held : presentAggregate (some (record.branchEvidence branch)) metric.id = some found) :
    found = record.aggregateOn branch metric ∧ found.present = true := by
  rw [presentAggregate, Option.bind_some, branchHasMetric_distinct metrics branch declared,
    Option.filter_eq_some_iff] at held
  exact ⟨(Option.some.inj held.1).symm, held.2⟩

omit [MetricReal R] in
/-- With distinct metric identities, a rule compares in the direction of its metric. -/
theorem direction_distinct {record : ExperimentRecord R}
    (metrics : (record.definition.metrics.map MetricDefinition.id).Nodup)
    {metric : MetricDefinition R} (declared : metric ∈ record.definition.metrics) :
    record.direction metric.id = metric.direction := by
  have reversed : (record.definition.metrics.reverse.map MetricDefinition.id).Nodup := by
    rw [List.map_reverse]
    exact List.nodup_reverse.mpr metrics
  have found : record.definition.metrics.reverse.find? (·.id = metric.id) = some metric :=
    (find?_key_eq_some_iff reversed).mpr ⟨List.mem_reverse.mpr declared, rfl⟩
  unfold ExperimentRecord.direction
  rw [found]
  rfl

/-- A satisfied rule has both of its aggregates. -/
theorem ruleFactor_present {record : ExperimentRecord R}
    {candidate baseline : Option (BranchEvidence R)} {rule : ComparisonRule R}
    (satisfied : (ruleFactor record candidate baseline rule).satisfied = true) :
    ∃ onCandidate onBaseline, presentAggregate candidate rule.metric = some onCandidate ∧
      presentAggregate baseline rule.metric = some onBaseline := by
  unfold ruleFactor at satisfied
  split at satisfied
  · rename_i onCandidate onBaseline first second
    exact ⟨onCandidate, onBaseline, first, second⟩
  · cases satisfied

/-- A satisfied rule is met by the aggregates of a declared metric, and sees their difference. -/
theorem ruleFactor_met [Field R] [LinearOrder R] [ExactMetrics R] {record : ExperimentRecord R}
    (metrics : (record.definition.metrics.map MetricDefinition.id).Nodup)
    {candidate baseline : BranchDefinition} {rule : ComparisonRule R}
    (satisfied : (ruleFactor record (some (record.branchEvidence candidate))
      (some (record.branchEvidence baseline)) rule).satisfied = true) :
    ∃ metric, Compares record candidate baseline rule metric ∧
      rule.Met metric.direction (record.aggregateOn baseline metric)
        (record.aggregateOn candidate metric) ∧
      (ruleChanges (some (record.branchEvidence candidate))
          (some (record.branchEvidence baseline)) rule = true →
        (record.aggregateOn candidate metric).value ≠
          (record.aggregateOn baseline metric).value) := by
  obtain ⟨onCandidate, onBaseline, first, second⟩ := ruleFactor_present satisfied
  obtain ⟨metric, declared, named⟩ :=
    branchHasMetric_declared (Option.filter_eq_some_iff.mp first).1
  rw [ruleFactor, first, second] at satisfied
  rw [ruleChanges, first, second]
  rw [← named] at first second
  obtain ⟨rfl, candidatePresent⟩ := presentAggregate_declared metrics declared first
  obtain ⟨rfl, baselinePresent⟩ := presentAggregate_declared metrics declared second
  have met := (evaluateRule_satisfied _ _ rule _ _).mp satisfied
  rw [← named, direction_distinct metrics declared] at met
  refine ⟨metric, ⟨declared, named, candidatePresent, baselinePresent⟩, met, fun changes equal => ?_⟩
  simp [equal, ExactMetrics.sub_eq, ExactMetrics.ofInt_eq, ExactMetrics.eq_eq] at changes

/-- An accepted comparison has a decisive rule, satisfies all of them and sees a difference. -/
theorem concludedOutcome_accept {record : ExperimentRecord R}
    {candidate baseline : Option (BranchEvidence R)} {outcome : DecisionOutcome}
    (accepted : concludedOutcome outcome (compareFactors record candidate baseline) = .accept) :
    outcome = .accept ∧
      (∀ rule ∈ record.decisiveRules,
        (ruleFactor record candidate baseline rule).satisfied = true) ∧
      ∃ rule ∈ record.decisiveRules, ruleChanges candidate baseline rule = true := by
  unfold concludedOutcome at accepted
  split at accepted
  · rename_i refused
    exact absurd accepted refused
  · rename_i passed
    split at accepted
    · cases accepted
    · split at accepted
      · cases accepted
      · split at accepted
        · cases accepted
        · rename_i failed still
          rw [compareFactors_anyDecisiveFailed, Bool.not_eq_true, List.any_eq_false] at failed
          rw [compareFactors_anyNonzeroDelta, Bool.not_eq_true, Bool.not_eq_false',
            List.any_eq_true] at still
          refine ⟨not_not.mp passed, fun rule listed => ?_, still⟩
          have factor := failed (ruleFactor record candidate baseline rule) (by
            rw [compareFactors_factors]
            exact List.mem_append_left _ (List.mem_map_of_mem listed))
          simpa using factor

end Trace

/-- Every accepted decision rests on the trials and observations it should. -/
theorem accept_sound [Field R] [LinearOrder R] [MetricReal R] [ExactMetrics R] [CanonicalDigests R]
    {record : ExperimentRecord R}
    (branches : (record.definition.branches.map BranchDefinition.id).Nodup)
    (metrics : (record.definition.metrics.map MetricDefinition.id).Nodup)
    {id : BranchId} {decision : DecisionId} {sequence : Nat}
    (accepted : (buildDecision record id decision sequence).outcome = .accept) :
    ∃ candidate baseline, Acceptable record id candidate baseline := by
  have considered : ∃ candidate baseline, Considered record id candidate baseline := by
    by_contra refused
    push Not at refused
    have outcome := congrArg Verdict.outcome
      (buildDecision_refused record id decision sequence refused)
    change (buildDecision record id decision sequence).outcome = _ at outcome
    rw [outcome] at accepted
    cases accepted
  obtain ⟨candidate, designated, considered⟩ := considered
  have outcome := congrArg Verdict.outcome
    (buildDecision_considered record id decision sequence considered)
  change (buildDecision record id decision sequence).outcome = _ at outcome
  rw [outcome] at accepted
  obtain ⟨passed, met, changed⟩ := concludedOutcome_accept accepted
  obtain ⟨differing, differingListed, differs⟩ := changed
  -- A satisfied rule has an aggregate on the baseline, so one is designated.
  obtain ⟨baseline, rfl⟩ : ∃ baseline, designated = some baseline := by
    obtain ⟨_, _, -, second⟩ := ruleFactor_present (met differing differingListed)
    cases designated with
    | none => cases second
    | some baseline => exact ⟨baseline, rfl⟩
  have candidateDeclared : candidate ∈ record.definition.branches :=
    List.mem_reverse.mp (List.mem_of_find?_eq_some considered.declared)
  have baselineDeclared : baseline ∈ record.definition.branches :=
    List.mem_of_find?_eq_some considered.designated
  have ruling := constrainEnvironment_accept passed
  unfold evidenceRuling at ruling
  dsimp only [Option.bind_some] at ruling
  rw [evidenceOf_distinct branches candidateDeclared,
    evidenceOf_distinct branches baselineDeclared] at ruling
  rw [Option.bind_some, evidenceOf_distinct branches candidateDeclared,
    evidenceOf_distinct branches baselineDeclared] at met differs
  obtain ⟨ruling, present⟩ := constrainMetrics_accept ruling
  rw [constrainCompleted_accept, constrainCompleted_accept, constrainBaseline_accept,
    constrainCandidate_accept, constrainState_accept] at ruling
  obtain ⟨⟨⟨⟨opened, candidateActive⟩, baselineActive⟩, candidateEnough⟩, baselineEnough⟩ := ruling
  have distinct : baseline.id ≠ candidate.id := of_decide_eq_false considered.distinct
  obtain ⟨differingDeclared, differingDecides⟩ :=
    ExperimentRecord.mem_decisiveRules.mp differingListed
  obtain ⟨metric, compares, -, apart⟩ := ruleFactor_met metrics (met differing differingListed)
  have declared := List.find?_some considered.declared
  have role := List.find?_some considered.designated
  refine ⟨candidate, baseline, opened, of_decide_eq_true declared, of_decide_eq_true role,
    distinct.symm, ?_, ?_, ⟨differing, differingDeclared, differingDecides⟩,
    fun rule listed decides => ?_,
    differing, differingDeclared, differingDecides, metric, compares, apart differs⟩
  · exact supported_of_metrics branches metrics candidateDeclared candidateActive candidateEnough
      fun metric listed required => ⟨(present metric listed required).onCandidate,
        fun rejects => ((present metric listed required).clean rejects).1⟩
  · exact supported_of_metrics branches metrics baselineDeclared baselineActive baselineEnough
      fun metric listed required => ⟨(present metric listed required).onBaseline,
        fun rejects => ((present metric listed required).clean rejects).2⟩
  · obtain ⟨metric, compares, meets, -⟩ := ruleFactor_met metrics
      (met rule (ExperimentRecord.mem_decisiveRules.mpr ⟨listed, decides⟩))
    exact ⟨metric, compares, meets⟩

/-- Exact rationals are an exact linearly ordered field. -/
instance rationalExact : ExactMetrics ℚ where
  ofInt_eq _ := rfl
  add_eq _ _ := rfl
  sub_eq _ _ := rfl
  mul_eq _ _ := rfl
  div_eq _ _ := rfl
  neg_eq _ := rfl
  lt_eq _ _ := rfl
  le_eq _ _ := rfl
  eq_eq _ _ := rfl

namespace Sample

/-- The sample experiment with a rule that asks for an improvement. -/
def improvingSpec : ExperimentSpec ℚ :=
  { spec with rules := [{ metric := text "latency", threshold := 0, targetLow := 0, targetHigh := 0 }] }

/-- A trial of each branch, the candidate with half the latency. -/
def improved : Coordinator ℚ :=
  coordinator.session ([(.createExperiment improvingSpec, none),
    (.createTrial experiment baseline [], none), (.createTrial experiment candidate [], none),
    (.registerWorker { worker, boot, maxConcurrentAssignments := 2 }, none),
    (.claimTrials { epoch := coordinator.epoch, worker, boot, maxClaims := 2 }, none)] ++
    reporting worker ⟨1⟩ baseline ⟨1⟩ ⟨1⟩ ++
    [(.publishObservation ⟨coordinator.epoch, worker, boot, { observation with
        id := ⟨2⟩, trial := ⟨2⟩, attempt := ⟨2⟩, value := { real := 1 / 2 } }⟩, none),
      (.commitTrial { epoch := coordinator.epoch, worker, boot, envelope := { envelope with
        trial := ⟨2⟩, attempt := ⟨2⟩ } }, none)])

end Sample

/-- The sample candidate that improves on its baseline is accepted on its trials. -/
theorem accept_sound_sample : ∃ record candidate baseline,
    Sample.improved.findExperiment Sample.experiment = some record ∧
    (buildDecision record Sample.candidate ⟨1⟩ 0).outcome = .accept ∧
    Acceptable record Sample.candidate candidate baseline := by
  have ran : (Sample.improved.findExperiment Sample.experiment).any (fun record =>
      (record.definition.branches.map BranchDefinition.id).Nodup &&
        (record.definition.metrics.map MetricDefinition.id).Nodup &&
        (buildDecision record Sample.candidate ⟨1⟩ 0).outcome = .accept) = true := by
    decide +kernel
  obtain ⟨record, found, compared⟩ := (Option.any_eq_true _ _).mp ran
  simp only [Bool.and_eq_true, decide_eq_true_eq] at compared
  obtain ⟨⟨branches, metrics⟩, accepted⟩ := compared
  obtain ⟨candidate, baseline, acceptable⟩ := accept_sound branches metrics accepted
  exact ⟨record, candidate, baseline, found, accepted, acceptable⟩

end ExperimentFabric
