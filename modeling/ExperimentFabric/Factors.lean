import ExperimentFabric.StaleEvidence

/-!
# Comparison factors

The factors of a decision are those of its decisive rules, in rule order, and the weighted score.
The flags that decide the outcome are read off the same rules, except that the score raises none
of them but the failure.
-/

namespace ExperimentFabric

open Lib

variable {R : Type} [MetricReal R]

/-! ## The factors of the rules -/

/-- The direction in which a rule compares a metric. -/
def ExperimentRecord.direction (record : ExperimentRecord R) (metric : MetricId) :
    MetricDirection :=
  ((record.definition.metrics.reverse.find? (·.id = metric)).map
    MetricDefinition.direction).getD .minimize

/-- The rules that decide, in rule order. -/
def ExperimentRecord.decisiveRules (record : ExperimentRecord R) : List (ComparisonRule R) :=
  (record.definition.policy.rules.insertionSort fun left right => !rulePrecedes right left).filter
    (·.op ≠ .reportOnly)

omit [MetricReal R] in
theorem ExperimentRecord.mem_decisiveRules {record : ExperimentRecord R} {rule : ComparisonRule R} :
    rule ∈ record.decisiveRules ↔ rule ∈ record.definition.policy.rules ∧ rule.op ≠ .reportOnly := by
  unfold ExperimentRecord.decisiveRules
  rw [List.mem_filter, List.mem_insertionSort, decide_eq_true_eq]

/-- The factor of one decisive rule. -/
def ruleFactor (record : ExperimentRecord R) (candidate baseline : Option (BranchEvidence R))
    (rule : ComparisonRule R) : ComparisonFactor R :=
  match presentAggregate candidate rule.metric, presentAggregate baseline rule.metric with
  | some candidate, some baseline =>
      evaluateRule (record.direction rule.metric) (metricName record rule.metric) rule baseline
        candidate
  | _, _ => unevaluatedRule (metricName record rule.metric) rule

/-- The rule compares two aggregates whose difference is not zero. -/
def ruleChanges (candidate baseline : Option (BranchEvidence R)) (rule : ComparisonRule R) : Bool :=
  match presentAggregate candidate rule.metric, presentAggregate baseline rule.metric with
  | some candidate, some baseline =>
      !MetricReal.eq (MetricReal.sub candidate.value baseline.value) (MetricReal.ofInt 0)
  | _, _ => false

section Rules

variable (record : ExperimentRecord R) (candidate baseline : Option (BranchEvidence R))

theorem ruleFactor_op (rule : ComparisonRule R) :
    (ruleFactor record candidate baseline rule).op = rule.op := by
  unfold ruleFactor
  split <;> rfl

theorem ruleFactor_decisive (rule : ComparisonRule R) :
    (ruleFactor record candidate baseline rule).decisive = true := by
  unfold ruleFactor
  split <;> rfl

/-- A decisive rule adds its factor and raises the flags that the factor calls for. -/
theorem compareRule_decisive (comparison : Comparison R) {rule : ComparisonRule R}
    (decisive : rule.op ≠ .reportOnly) :
    compareRule record candidate baseline comparison rule =
      ({ comparison with
          anyDecisive := true
          anyNonzeroDelta := comparison.anyNonzeroDelta || ruleChanges candidate baseline rule
        }).push (metricName record rule.metric) (ruleFactor record candidate baseline rule) := by
  unfold compareRule
  rw [if_neg decisive]
  unfold ruleFactor ruleChanges
  cases presentAggregate candidate rule.metric with
  | none => simp
  | some onCandidate =>
      cases presentAggregate baseline rule.metric with
      | none => simp
      | some onBaseline => rfl

/-- What a list of rules adds to a comparison. -/
structure RulesCompared (rules : List (ComparisonRule R)) (start result : Comparison R) : Prop where
  factors : result.factors = start.factors ++ rules.map (ruleFactor record candidate baseline)
  anyDecisive : result.anyDecisive = (start.anyDecisive || !rules.isEmpty)
  anyDecisiveFailed : result.anyDecisiveFailed = (start.anyDecisiveFailed ||
    rules.any fun rule => !(ruleFactor record candidate baseline rule).satisfied)
  anyNonzeroDelta : result.anyNonzeroDelta = (start.anyNonzeroDelta ||
    rules.any (ruleChanges candidate baseline))

/-- The loop over the rules, by induction on the rules that remain. -/
theorem compareRules (rules : List (ComparisonRule R)) (start : Comparison R) :
    RulesCompared record candidate baseline (rules.filter (·.op ≠ .reportOnly)) start
      (rules.foldl (compareRule record candidate baseline) start) := by
  induction rules generalizing start with
  | nil => exact ⟨by simp, by simp, by simp, by simp⟩
  | cons rule rest ih =>
      rw [List.foldl_cons]
      by_cases decisive : rule.op = .reportOnly
      · rw [compareRule, if_pos decisive, List.filter_cons_of_neg (by simp [decisive])]
        exact ih start
      · rw [compareRule_decisive record candidate baseline start decisive,
          List.filter_cons_of_pos (by simp [decisive])]
        have later := ih (({ start with
          anyDecisive := true
          anyNonzeroDelta := start.anyNonzeroDelta || ruleChanges candidate baseline rule
          } : Comparison R).push (metricName record rule.metric)
            (ruleFactor record candidate baseline rule))
        refine ⟨?_, ?_, ?_, ?_⟩
        · rw [later.factors]
          simp [Comparison.push]
        · rw [later.anyDecisive]
          simp [Comparison.push]
        · rw [later.anyDecisiveFailed]
          simp [Comparison.push, Bool.or_assoc]
        · rw [later.anyNonzeroDelta]
          simp [Comparison.push, Bool.or_assoc]

/-! ## The weighted score -/

/-- The weighted contributions to the score, when the policy uses one. -/
def scoreTerms : List R :=
  if record.definition.policy.useWeightedScore then
    record.definition.metrics.filterMap (weightedTerm candidate baseline)
  else []

/-- The factor of the weighted score, when some metric contributes. -/
def scoreFactors : List (ComparisonFactor R) :=
  (scoreFactor record candidate baseline {}).factors

theorem scoreFactors_eq_nil :
    scoreFactors record candidate baseline = [] ↔ scoreTerms record candidate baseline = [] := by
  unfold scoreFactors scoreFactor scoreTerms
  dsimp only
  cases record.definition.policy.useWeightedScore with
  | false => simp
  | true => simp [Comparison.push, List.isEmpty_iff, apply_ite Comparison.factors]

/-- The score is a decisive factor without a rule, whose values are both zero. -/
theorem mem_scoreFactors {factor : ComparisonFactor R}
    (member : factor ∈ scoreFactors record candidate baseline) :
    factor.decisive = true ∧ factor.op = .reportOnly ∧
      factor.candidateValue = MetricReal.ofInt 0 ∧ factor.baselineValue = MetricReal.ofInt 0 := by
  unfold scoreFactors scoreFactor at member
  dsimp only at member
  split at member
  · cases member
  · obtain rfl := List.mem_singleton.mp member
    exact ⟨rfl, rfl, rfl, rfl⟩

/-- The score adds its factor and, when it falls short, the failure. -/
theorem scoreFactor_flags (comparison : Comparison R) :
    (scoreFactor record candidate baseline comparison).factors =
        comparison.factors ++ scoreFactors record candidate baseline ∧
      (scoreFactor record candidate baseline comparison).anyDecisive = comparison.anyDecisive ∧
      (scoreFactor record candidate baseline comparison).anyDecisiveFailed =
        (comparison.anyDecisiveFailed ||
          (scoreFactors record candidate baseline).any (!·.satisfied)) ∧
      (scoreFactor record candidate baseline comparison).anyNonzeroDelta =
        comparison.anyNonzeroDelta := by
  unfold scoreFactors scoreFactor
  dsimp only
  split
  · simp
  · simp [Comparison.push]

/-! ## The whole comparison -/

/-- The factors of a comparison. -/
theorem compareFactors_factors :
    (compareFactors record candidate baseline).factors =
      record.decisiveRules.map (ruleFactor record candidate baseline) ++
        scoreFactors record candidate baseline := by
  rw [compareFactors, (scoreFactor_flags record candidate baseline _).1,
    (compareRules record candidate baseline _ _).factors]
  rfl

/-- A comparison decides when some rule does, whatever the score. -/
theorem compareFactors_anyDecisive :
    (compareFactors record candidate baseline).anyDecisive = !record.decisiveRules.isEmpty := by
  rw [compareFactors, (scoreFactor_flags record candidate baseline _).2.1,
    (compareRules record candidate baseline _ _).anyDecisive]
  rfl

/-- A comparison fails when some factor is unsatisfied. -/
theorem compareFactors_anyDecisiveFailed :
    (compareFactors record candidate baseline).anyDecisiveFailed =
      (compareFactors record candidate baseline).factors.any (!·.satisfied) := by
  rw [compareFactors_factors, List.any_append, List.any_map, compareFactors,
    (scoreFactor_flags record candidate baseline _).2.2.1,
    (compareRules record candidate baseline _ _).anyDecisiveFailed]
  rfl

/-- A comparison sees a difference when some rule does. -/
theorem compareFactors_anyNonzeroDelta :
    (compareFactors record candidate baseline).anyNonzeroDelta =
      record.decisiveRules.any (ruleChanges candidate baseline) := by
  rw [compareFactors, (scoreFactor_flags record candidate baseline _).2.2.2,
    (compareRules record candidate baseline _ _).anyNonzeroDelta]
  rfl

end Rules

/-! ## Paired trials -/

/-- The trial values of a metric that the two sides report, in pairs. -/
def comparedPairs (candidate baseline : Option (BranchEvidence R)) (metric : MetricId) :
    List (R × R) :=
  match presentAggregate candidate metric, presentAggregate baseline metric with
  | some candidate, some baseline => baseline.rawValues.zip candidate.rawValues
  | _, _ => []

/-- The pairs in which the candidate improves on the baseline. -/
def pairsWon (direction : MetricDirection) (pairs : List (R × R)) : Nat :=
  pairs.countP fun pair => MetricReal.lt (MetricReal.ofInt 0) (improvement direction pair.1 pair.2)

/-- The share of the pairs that the candidate wins. -/
def shareWon (direction : MetricDirection) (pairs : List (R × R)) : R :=
  MetricReal.div (MetricReal.ofInt (pairsWon direction pairs)) (MetricReal.ofInt pairs.length)

/-- A majority rule is satisfied when the share of won pairs reaches its own threshold. -/
theorem ruleFactor_majority (record : ExperimentRecord R)
    (candidate baseline : Option (BranchEvidence R)) {rule : ComparisonRule R}
    (majority : rule.op = .majorityWins) :
    (ruleFactor record candidate baseline rule).satisfied = true ↔
      comparedPairs candidate baseline rule.metric ≠ [] ∧
        MetricReal.le rule.threshold (shareWon (record.direction rule.metric)
          (comparedPairs candidate baseline rule.metric)) = true := by
  unfold ruleFactor comparedPairs
  cases presentAggregate candidate rule.metric with
  | none => simp [unevaluatedRule]
  | some onCandidate =>
      cases presentAggregate baseline rule.metric with
      | none => simp [unevaluatedRule]
      | some onBaseline =>
          unfold evaluateRule winFraction
          simp only [majority]
          cases onBaseline.rawValues.zip onCandidate.rawValues with
          | nil => simp
          | cons pair rest => simp [shareWon, pairsWon]

/-- The pairs that a decision on a candidate compares for a metric. -/
def ExperimentRecord.pairs (record : ExperimentRecord R) (candidate : BranchId)
    (metric : MetricId) : List (R × R) :=
  comparedPairs (evidenceOf record.computeEvidence candidate)
    ((baselineBranch record).bind fun found => evidenceOf record.computeEvidence found.id) metric

/-- The pairs of a metric that the candidate wins. -/
def ExperimentRecord.won (record : ExperimentRecord R) (candidate : BranchId)
    (metric : MetricId) : Nat :=
  pairsWon (record.direction metric) (record.pairs candidate metric)

/-- A majority factor keeps both thresholds: that of the policy and its own. -/
structure HonoursMinimum (record : ExperimentRecord R) (candidate : BranchId)
    (factor : ComparisonFactor R) : Prop where
  compared : 0 < (record.pairs candidate factor.metric).length
  minimum : (record.pairs candidate factor.metric).length *
    record.definition.policy.majorityWinsMinBasisPoints ≤ record.won candidate factor.metric * 10000
  threshold : MetricReal.le factor.threshold (shareWon (record.direction factor.metric)
    (record.pairs candidate factor.metric)) = true

/-- The candidate wins enough pairs for the rule and too few for the policy. -/
structure BelowMinimum (record : ExperimentRecord R) (candidate : BranchId)
    (rule : ComparisonRule R) : Prop where
  compared : record.pairs candidate rule.metric ≠ []
  reached : MetricReal.le rule.threshold (shareWon (record.direction rule.metric)
    (record.pairs candidate rule.metric)) = true
  short : record.won candidate rule.metric * 10000 <
    (record.pairs candidate rule.metric).length *
      record.definition.policy.majorityWinsMinBasisPoints

section Majority

variable [CanonicalDigests R] (record : ExperimentRecord R) (id : BranchId) (decision : DecisionId)
  (sequence : Nat)

/-- The factors of a decision on a considered candidate. -/
theorem buildDecision_factors {candidate : BranchDefinition}
    {baseline : Option BranchDefinition} (considered : Considered record id candidate baseline) :
    (buildDecision record id decision sequence).factors =
      (compareFactors record (evidenceOf record.computeEvidence id)
        ((baselineBranch record).bind fun found =>
          evidenceOf record.computeEvidence found.id)).factors := by
  have declared := List.find?_some considered.declared
  have named : candidate.id = id := of_decide_eq_true declared
  have factors := congrArg Verdict.factors
    (buildDecision_considered record id decision sequence considered)
  rw [named, ← considered.designated] at factors
  exact factors

/-- A decision on a refused candidate compares nothing. -/
theorem buildDecision_factors_refused
    (refused : ∀ candidate baseline, ¬ Considered record id candidate baseline) :
    (buildDecision record id decision sequence).factors = [] :=
  congrArg Verdict.factors (buildDecision_refused record id decision sequence refused)

omit [CanonicalDigests R] in
/-- A satisfied majority rule honours the minimum of the policy unless it falls below it. -/
theorem ruleFactor_honours {rule : ComparisonRule R} (majority : rule.op = .majorityWins) :
    ((ruleFactor record (evidenceOf record.computeEvidence id)
        ((baselineBranch record).bind fun found => evidenceOf record.computeEvidence found.id)
        rule).satisfied = true → HonoursMinimum record id (ruleFactor record
          (evidenceOf record.computeEvidence id) ((baselineBranch record).bind fun found =>
            evidenceOf record.computeEvidence found.id) rule)) ↔
      ¬ BelowMinimum record id rule := by
  have metric : (ruleFactor record (evidenceOf record.computeEvidence id)
      ((baselineBranch record).bind fun found => evidenceOf record.computeEvidence found.id)
      rule).metric = rule.metric := by
    unfold ruleFactor
    split <;> rfl
  have threshold : (ruleFactor record (evidenceOf record.computeEvidence id)
      ((baselineBranch record).bind fun found => evidenceOf record.computeEvidence found.id)
      rule).threshold = rule.threshold := by
    unfold ruleFactor
    split <;> rfl
  rw [ruleFactor_majority record _ _ majority]
  constructor
  · intro honours below
    have kept := (honours ⟨below.compared, below.reached⟩).minimum
    rw [metric] at kept
    exact absurd below.short (Nat.not_lt.mpr kept)
  · rintro above ⟨compared, reached⟩
    refine ⟨?_, ?_, ?_⟩
    · rw [metric]
      exact List.length_pos_of_ne_nil compared
    · rw [metric]
      by_contra short
      exact above ⟨compared, reached, Nat.not_le.mp short⟩
    · rw [metric, threshold]
      exact reached

/-- The policy's minimum is kept exactly where no majority rule asks for less than the policy and
gets less. -/
theorem majority_minimum_iff :
    (∀ factor ∈ (buildDecision record id decision sequence).factors, factor.op = .majorityWins →
        factor.satisfied = true → HonoursMinimum record id factor) ↔
      ∀ candidate baseline, Considered record id candidate baseline →
        ∀ rule ∈ record.definition.policy.rules, rule.op = .majorityWins →
          ¬ BelowMinimum record id rule := by
  constructor
  · intro honours candidate baseline considered rule listed majority
    rw [buildDecision_factors record id decision sequence considered, compareFactors_factors]
      at honours
    refine (ruleFactor_honours record id majority).mp ?_
    refine honours _ (List.mem_append_left _ (List.mem_map_of_mem ?_)) ?_
    · exact ExperimentRecord.mem_decisiveRules.mpr ⟨listed, by simp [majority]⟩
    · rw [ruleFactor_op, majority]
  · intro above factor member majority
    by_cases refused : ∀ candidate baseline, ¬ Considered record id candidate baseline
    · rw [buildDecision_factors_refused record id decision sequence refused] at member
      cases member
    · push Not at refused
      obtain ⟨candidate, baseline, considered⟩ := refused
      rw [buildDecision_factors record id decision sequence considered, compareFactors_factors]
        at member
      rcases List.mem_append.mp member with ruled | scored
      · obtain ⟨rule, listed, rfl⟩ := List.mem_map.mp ruled
        rw [ruleFactor_op] at majority
        exact (ruleFactor_honours record id majority).mpr (above candidate baseline considered rule
          (ExperimentRecord.mem_decisiveRules.mp listed).1 majority)
      · rw [(mem_scoreFactors record _ _ scored).2.1] at majority
        cases majority

end Majority

namespace Sample

/-- The sample experiment with one majority rule that asks for no win. -/
def majoritySpec : ExperimentSpec ℚ :=
  { spec with
    rules := [{ metric := text "latency", op := .majorityWins, threshold := 0, targetLow := 0,
                targetHigh := 0 }] }

/-- One trial of each branch, both with the value one. -/
def bothRan (spec : ExperimentSpec ℚ) : Coordinator ℚ :=
  coordinator.session ([(.createExperiment spec, none),
    (.createTrial experiment baseline [], none), (.createTrial experiment candidate [], none),
    (.registerWorker { worker, boot, maxConcurrentAssignments := 2 }, none),
    (.claimTrials { epoch := coordinator.epoch, worker, boot, maxClaims := 2 }, none)] ++
    reporting worker ⟨1⟩ baseline ⟨1⟩ ⟨1⟩ ++ reporting worker ⟨1⟩ candidate ⟨2⟩ ⟨2⟩)

end Sample

/-- A candidate that wins none of its pairs satisfies a majority rule, under a policy that asks for
half of them. -/
theorem majority_minimum_ignored : ∃ record,
    (World.running (Sample.bothRan Sample.majoritySpec)).Reachable Sample.config.statePath ∧
    (Sample.bothRan Sample.majoritySpec).findExperiment Sample.experiment = some record ∧
    record.definition.policy.majorityWinsMinBasisPoints = 5000 ∧
    ∃ factor ∈ (buildDecision record Sample.candidate ⟨1⟩ 0).factors,
      factor.op = .majorityWins ∧ factor.satisfied = true ∧
        ¬ HonoursMinimum record Sample.candidate factor := by
  have ran : ((Sample.bothRan Sample.majoritySpec).findExperiment Sample.experiment).any (fun record =>
      record.definition.policy.majorityWinsMinBasisPoints = 5000 &&
        (buildDecision record Sample.candidate ⟨1⟩ 0).factors.any fun factor =>
          factor.op = .majorityWins && factor.satisfied &&
            record.won Sample.candidate factor.metric * 10000 <
              (record.pairs Sample.candidate factor.metric).length * 5000) = true := by
    decide +kernel
  obtain ⟨record, found, compared⟩ := (Option.any_eq_true _ _).mp ran
  obtain ⟨minimum, factors⟩ := Bool.and_eq_true_iff.mp compared
  obtain ⟨factor, member, short⟩ := List.any_eq_true.mp factors
  simp only [Bool.and_eq_true, decide_eq_true_eq] at minimum short
  refine ⟨record, Sample.coordinator_reachable.session _, found, minimum, factor, member,
    short.1.1, short.1.2, fun honours => ?_⟩
  have kept := honours.minimum
  rw [minimum] at kept
  exact absurd short.2 (Nat.not_lt.mpr kept)

end ExperimentFabric
