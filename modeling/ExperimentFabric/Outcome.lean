import ExperimentFabric.Factors

/-!
# Outcomes and factors

Where every hard constraint passes, the outcome is that of the listed factors, unless the weighted
score is the only factor or the compared values tie at infinity.
-/

namespace ExperimentFabric

open Lib

variable {R : Type}

/-! ## Passing constraints -/

namespace Ruling

/-- Every recorded constraint passed. -/
def Passing (ruling : Ruling) : Prop := ∀ result ∈ ruling.constraints, result.passed = true

/-- A ruling that fails names a constraint that did not pass. -/
def Consistent (ruling : Ruling) : Prop := ruling.Passing → ruling.outcome = .accept

theorem passing_add {ruling : Ruling} {name detail : Text} {passed : Bool} :
    (ruling.add name passed detail).Passing ↔ ruling.Passing ∧ passed = true := by
  unfold Passing add
  simp only [List.mem_append, List.mem_singleton, or_imp, forall_and, forall_eq]

theorem fail_constraints (ruling : Ruling) (outcome : DecisionOutcome) (kind : FailureKind)
    (reason : Text) : (ruling.fail outcome kind reason).constraints = ruling.constraints := by
  unfold fail
  split <;> rfl

/-- A constraint may fail the ruling where it does not pass. -/
theorem consistent_fail (ruling : Ruling) (name detail : Text) {passed : Bool}
    (failed : passed = false) (outcome : DecisionOutcome) (kind : FailureKind) (reason : Text) :
    ((ruling.add name passed detail).fail outcome kind reason).Consistent := by
  intro passing
  rw [Passing, fail_constraints] at passing
  have passed' := (passing_add.mp passing).2
  rw [failed] at passed'
  cases passed'

theorem Consistent.add {ruling : Ruling} (consistent : ruling.Consistent) (name detail : Text)
    (passed : Bool) : (ruling.add name passed detail).Consistent :=
  fun passing => consistent (passing_add.mp passing).1

theorem Consistent.failWhen {ruling : Ruling} (consistent : ruling.Consistent)
    (name detail : Text) {passed condition : Bool} (failed : condition = true → passed = false)
    (outcome : DecisionOutcome) (kind : FailureKind) (reason : Text) :
    ((ruling.add name passed detail).failWhen condition outcome kind reason).Consistent := by
  unfold Ruling.failWhen
  split
  · rename_i holds
    exact ruling.consistent_fail name detail (failed holds) outcome kind reason
  · exact consistent.add name detail passed

end Ruling

theorem constrainState_consistent (state : ExperimentState) :
    (constrainState state {}).Consistent := by
  have start : Ruling.Consistent {} := fun _ => rfl
  cases state with
  | opened => exact start.add _ _ _
  | cancelled | superseded | recovering | finalized => exact Ruling.consistent_fail _ _ _ (by decide) _ _ _

theorem constrainCandidate_consistent (candidate : BranchDefinition)
    (evidence : Option (BranchEvidence R)) {ruling : Ruling} (consistent : ruling.Consistent) :
    (constrainCandidate candidate evidence ruling).Consistent := by
  unfold constrainCandidate
  dsimp only
  split
  · rename_i ineligible
    have failed : (evidence.any fun entry => isBranchEligible candidate.state &&
        decide (entry.generation = candidate.generation)) = false := by
      cases evidence with
      | none => rfl
      | some entry =>
          have inactive : isBranchEligible candidate.state = false := by simpa using ineligible
          simp [inactive]
    split
    · exact ruling.consistent_fail _ _ failed _ _ _
    · exact ruling.consistent_fail _ _ failed _ _ _
    · exact ruling.consistent_fail _ _ failed _ _ _
    · exact ruling.consistent_fail _ _ failed _ _ _
  · exact consistent.add _ _ _

theorem constrainBaseline_consistent (policy : ComparisonPolicy R)
    (baseline : Option BranchDefinition) (evidence : Option (BranchEvidence R)) {ruling : Ruling}
    (consistent : ruling.Consistent) :
    (constrainBaseline policy baseline evidence ruling).Consistent := by
  unfold constrainBaseline
  cases baseline with
  | none => exact consistent.failWhen _ _ (by simp) _ _ _
  | some branch => exact (consistent.add _ _ _).failWhen _ _ Bool.eq_false_of_not_eq_true' _ _ _

theorem constrainCompleted_consistent (policy : ComparisonPolicy R) (name reason : Text)
    (evidence : Option (BranchEvidence R)) {ruling : Ruling} (consistent : ruling.Consistent) :
    (constrainCompleted policy name reason evidence ruling).Consistent := by
  unfold constrainCompleted
  cases evidence with
  | none => exact consistent
  | some entry => exact consistent.failWhen _ _ (by simp) _ _ _

theorem constrainPresence_consistent (policy : ComparisonPolicy R) (name : Text) (side : MetricSide)
    (found : Option (MetricAggregate R)) {ruling : Ruling} (consistent : ruling.Consistent) :
    (constrainPresence policy name side found ruling).Consistent := by
  unfold constrainPresence
  split
  · exact consistent.failWhen _ _ (fun _ => rfl) _ _ _
  · dsimp only
    split
    · exact (consistent.add _ _ _).failWhen _ _ (fun _ => rfl) _ _ _
    · exact consistent.add _ _ _

theorem constrainMetric_consistent (policy : ComparisonPolicy R)
    (candidate baseline : Option (BranchEvidence R)) (metric : MetricDefinition R)
    {ruling : Ruling} (consistent : ruling.Consistent) :
    (constrainMetric policy candidate baseline ruling metric).Consistent := by
  unfold constrainMetric
  split
  · exact consistent
  · dsimp only
    have onCandidate := constrainPresence_consistent policy metric.name candidateSide
      (candidate.bind (branchHasMetric · metric.id)) consistent
    cases baseline with
    | none =>
        dsimp only
        split
        · exact onCandidate.failWhen _ _ (fun found => decide_eq_false (of_decide_eq_true found)) _ _ _
        · exact onCandidate
    | some baseline =>
        have onBoth := constrainPresence_consistent policy metric.name baselineSide
          (branchHasMetric baseline metric.id) onCandidate
        dsimp only
        split
        · exact onBoth.failWhen _ _ (fun found => decide_eq_false (of_decide_eq_true found)) _ _ _
        · exact onBoth

theorem constrainEnvironment_consistent (record : ExperimentRecord R) (candidate : BranchDefinition)
    (baseline : Option BranchDefinition) {ruling : Ruling} (consistent : ruling.Consistent) :
    (constrainEnvironment record candidate baseline ruling).Consistent := by
  unfold constrainEnvironment
  split
  · exact consistent
  · dsimp only
    split
    · exact consistent.failWhen _ _ (by simp) _ _ _
    · exact consistent.failWhen _ _ (by simp) _ _ _

/-- A ruling whose constraints all pass accepts. -/
theorem applyConstraints_consistent (record : ExperimentRecord R) (candidate : BranchDefinition)
    (baseline : Option BranchDefinition) (evidence : List (BranchEvidence R)) :
    (applyConstraints record candidate baseline evidence).Consistent := by
  refine constrainEnvironment_consistent record candidate baseline ?_
  have metrics : ∀ (listed : List (MetricDefinition R)) (ruling : Ruling), ruling.Consistent →
      (listed.foldl (constrainMetric record.definition.policy (evidenceOf evidence candidate.id)
        (baseline.bind fun branch => evidenceOf evidence branch.id)) ruling).Consistent := by
    intro listed
    induction listed with
    | nil => exact fun _ consistent => consistent
    | cons metric rest ih =>
        exact fun ruling consistent => ih _ (constrainMetric_consistent _ _ _ metric consistent)
  refine metrics _ _ (constrainCompleted_consistent _ _ _ _ (constrainCompleted_consistent _ _ _ _ ?_))
  exact constrainBaseline_consistent _ _ _ (constrainCandidate_consistent _ _
    (constrainState_consistent record.state))

/-! ## The outcome and its factors -/

/-- What the tie rule relies on: a difference is zero exactly between equal values that are finite,
as the difference of two infinities is no number. -/
class ExactDifference (R : Type) [MetricReal R] : Prop where
  zero_eq : MetricReal.eq (MetricReal.ofInt 0 : R) (MetricReal.ofInt 0) = true
  sub_eq_zero : ∀ left right : R,
    MetricReal.eq (MetricReal.sub left right) (MetricReal.ofInt 0) = true ↔
      MetricReal.eq left right = true ∧ MetricReal.isFinite left = true

variable [MetricReal R]

/-- The factors a decision lists as decisive. -/
def Decision.decisiveFactors (decision : Decision R) : List (ComparisonFactor R) :=
  decision.factors.filter ComparisonFactor.decisive

/-- The two values of a factor are exactly equal. -/
def ComparisonFactor.Equal (factor : ComparisonFactor R) : Prop :=
  MetricReal.eq factor.candidateValue factor.baselineValue = true

/-- The outcome is the one the decisive factors call for. -/
structure FollowsFactors (decision : Decision R) : Prop where
  undecided : decision.decisiveFactors = [] → decision.outcome = .inconclusive
  rejected : (∃ factor ∈ decision.decisiveFactors, factor.satisfied = false) →
    decision.outcome = .reject
  tied : decision.decisiveFactors ≠ [] →
    (∀ factor ∈ decision.decisiveFactors, factor.satisfied = true) →
    (∀ factor ∈ decision.decisiveFactors, factor.Equal) →
    decision.outcome = .inconclusive ∧ decision.tied = true
  accepted : (∀ factor ∈ decision.decisiveFactors, factor.satisfied = true) →
    (∃ factor ∈ decision.decisiveFactors, ¬ factor.Equal) → decision.outcome = .accept

section Comparisons

variable (record : ExperimentRecord R) (candidate baseline : Option (BranchEvidence R))

/-- No rule decides, and the weighted score is listed as a decisive factor. -/
structure ScoreAlone : Prop where
  undecided : ∀ rule ∈ record.definition.policy.rules, rule.op = .reportOnly
  scored : scoreTerms record candidate baseline ≠ []

/-- Every decisive comparison is met by equal aggregates, and some of them are infinite. -/
structure InfiniteTie : Prop where
  met : ∀ factor ∈ (compareFactors record candidate baseline).factors, factor.satisfied = true
  equal : ∀ rule ∈ record.decisiveRules, (ruleFactor record candidate baseline rule).Equal
  infinite : ∃ rule ∈ record.decisiveRules,
    MetricReal.isFinite (ruleFactor record candidate baseline rule).candidateValue = false

omit [MetricReal R] in
theorem decisiveRules_eq_nil :
    record.decisiveRules = [] ↔
      ∀ rule ∈ record.definition.policy.rules, rule.op = .reportOnly := by
  constructor
  · intro none rule listed
    by_contra decisive
    have member := ExperimentRecord.mem_decisiveRules.mpr ⟨listed, decisive⟩
    rw [none] at member
    cases member
  · intro undecided
    refine List.eq_nil_iff_forall_not_mem.mpr fun rule member => ?_
    obtain ⟨listed, decisive⟩ := ExperimentRecord.mem_decisiveRules.mp member
    exact decisive (undecided rule listed)

/-- Every factor of a comparison is decisive. -/
theorem compareFactors_decisive :
    (compareFactors record candidate baseline).factors.filter ComparisonFactor.decisive =
      (compareFactors record candidate baseline).factors := by
  refine List.filter_eq_self.mpr fun factor member => ?_
  rw [compareFactors_factors] at member
  rcases List.mem_append.mp member with ruled | scored
  · obtain ⟨rule, -, rfl⟩ := List.mem_map.mp ruled
    exact ruleFactor_decisive record candidate baseline rule
  · exact (mem_scoreFactors record candidate baseline scored).1

/-- A satisfied rule sees no difference exactly between equal finite values. -/
theorem ruleChanges_eq_false [ExactDifference R] {rule : ComparisonRule R}
    (satisfied : (ruleFactor record candidate baseline rule).satisfied = true) :
    ruleChanges candidate baseline rule = false ↔
      (ruleFactor record candidate baseline rule).Equal ∧
        MetricReal.isFinite (ruleFactor record candidate baseline rule).candidateValue = true := by
  unfold ruleChanges ComparisonFactor.Equal
  unfold ruleFactor at satisfied ⊢
  revert satisfied
  cases presentAggregate candidate rule.metric with
  | none => exact fun satisfied => nomatch satisfied
  | some onCandidate =>
      cases presentAggregate baseline rule.metric with
      | none => exact fun satisfied => nomatch satisfied
      | some onBaseline =>
          intro _
          dsimp only
          rw [Bool.not_eq_false']
          exact ExactDifference.sub_eq_zero onCandidate.value onBaseline.value

theorem scoreFactors_equal [ExactDifference R] {factor : ComparisonFactor R}
    (scored : factor ∈ scoreFactors record candidate baseline) : factor.Equal := by
  obtain ⟨-, -, candidateZero, baselineZero⟩ := mem_scoreFactors record candidate baseline scored
  rw [ComparisonFactor.Equal, candidateZero, baselineZero]
  exact ExactDifference.zero_eq

/-- Without a failed factor, the comparison sees no difference exactly where all values are equal
and finite. -/
theorem compareFactors_tie [ExactDifference R]
    (met : ∀ factor ∈ (compareFactors record candidate baseline).factors,
      factor.satisfied = true) :
    (compareFactors record candidate baseline).anyNonzeroDelta = false ↔
      (∀ factor ∈ (compareFactors record candidate baseline).factors, factor.Equal) ∧
        ¬ InfiniteTie record candidate baseline := by
  have ruled : ∀ rule ∈ record.decisiveRules,
      ruleFactor record candidate baseline rule ∈
        (compareFactors record candidate baseline).factors := by
    intro rule listed
    rw [compareFactors_factors]
    exact List.mem_append_left _ (List.mem_map_of_mem listed)
  have still : (compareFactors record candidate baseline).anyNonzeroDelta = false ↔
      ∀ rule ∈ record.decisiveRules, (ruleFactor record candidate baseline rule).Equal ∧
        MetricReal.isFinite (ruleFactor record candidate baseline rule).candidateValue = true := by
    rw [compareFactors_anyNonzeroDelta, List.any_eq_false]
    refine forall₂_congr fun rule listed => ?_
    rw [← ruleChanges_eq_false record candidate baseline (met _ (ruled rule listed)),
      Bool.not_eq_true]
  rw [still]
  constructor
  · intro equal
    refine ⟨fun factor member => ?_, fun infinite => ?_⟩
    · rw [compareFactors_factors] at member
      rcases List.mem_append.mp member with fromRule | scored
      · obtain ⟨rule, listed, rfl⟩ := List.mem_map.mp fromRule
        exact (equal rule listed).1
      · exact scoreFactors_equal record candidate baseline scored
    · obtain ⟨rule, listed, unbounded⟩ := infinite.infinite
      rw [(equal rule listed).2] at unbounded
      cases unbounded
  · rintro ⟨equal, finite⟩ rule listed
    have each : ∀ other ∈ record.decisiveRules,
        (ruleFactor record candidate baseline other).Equal :=
      fun other member => equal _ (ruled other member)
    refine ⟨each rule listed, ?_⟩
    by_contra unbounded
    exact finite ⟨met, each, rule, listed, Bool.eq_false_iff.mpr unbounded⟩

theorem InfiniteTie.listed (infinite : InfiniteTie record candidate baseline) :
    (compareFactors record candidate baseline).factors ≠ [] := by
  obtain ⟨rule, decisive, -⟩ := infinite.infinite
  rw [compareFactors_factors]
  exact List.ne_nil_of_mem (List.mem_append_left _ (List.mem_map_of_mem decisive))

theorem InfiniteTie.all_equal [ExactDifference R] (infinite : InfiniteTie record candidate baseline) :
    ∀ factor ∈ (compareFactors record candidate baseline).factors, factor.Equal := by
  intro factor member
  rw [compareFactors_factors] at member
  rcases List.mem_append.mp member with fromRule | scored
  · obtain ⟨rule, decisive, rfl⟩ := List.mem_map.mp fromRule
    exact infinite.equal rule decisive
  · exact scoreFactors_equal record candidate baseline scored

/-- A comparison with a factor decides, unless its only factor is the score. -/
theorem compareFactors_decides (other : ¬ ScoreAlone record candidate baseline)
    (some : (compareFactors record candidate baseline).factors ≠ []) :
    (compareFactors record candidate baseline).anyDecisive = true := by
  rw [compareFactors_anyDecisive, Bool.not_eq_true', List.isEmpty_eq_false_iff]
  intro none
  refine other ⟨(decisiveRules_eq_nil record).mp none, fun unscored => some ?_⟩
  rw [compareFactors_factors, none, (scoreFactors_eq_nil record candidate baseline).mpr unscored]
  rfl

/-- The score alone lists factors of equal values, and decides nothing. -/
theorem ScoreAlone.undecisive [ExactDifference R] (alone : ScoreAlone record candidate baseline) :
    (compareFactors record candidate baseline).anyDecisive = false ∧
      (compareFactors record candidate baseline).factors ≠ [] ∧
      ∀ factor ∈ (compareFactors record candidate baseline).factors, factor.Equal := by
  have none := (decisiveRules_eq_nil record).mpr alone.undecided
  rw [compareFactors_anyDecisive, compareFactors_factors, none, List.map_nil, List.nil_append]
  refine ⟨rfl, fun empty => alone.scored
    ((scoreFactors_eq_nil record candidate baseline).mp empty), fun factor member => ?_⟩
  exact scoreFactors_equal record candidate baseline member

end Comparisons

/-! ## Decisions whose constraints pass -/

section Decisions

variable [CanonicalDigests R] (record : ExperimentRecord R) (id : BranchId) (decision : DecisionId)
  (sequence : Nat)

/-- The comparison behind a decision on a candidate. -/
def comparisonOf : Comparison R :=
  compareFactors record (evidenceOf record.computeEvidence id)
    ((baselineBranch record).bind fun found => evidenceOf record.computeEvidence found.id)

omit [MetricReal R] [CanonicalDigests R] in
theorem conclude_accepted (start : Decision R) {ruling : Ruling} (accepted : ruling.outcome = .accept)
    (comparison : Comparison R) (untied : start.tied = false) :
    (conclude start ruling comparison).outcome = concludedOutcome .accept comparison ∧
      (conclude start ruling comparison).tied = (comparison.anyDecisive &&
        !comparison.anyDecisiveFailed && !comparison.anyNonzeroDelta) := by
  unfold conclude concludedOutcome
  cases decisive : comparison.anyDecisive with
  | false => simp [accepted, untied]
  | true =>
      cases failed : comparison.anyDecisiveFailed with
      | true => simp [accepted, untied]
      | false =>
          cases changed : comparison.anyNonzeroDelta with
          | true => simp [accepted, untied]
          | false => simp [accepted]

/-- Where every hard constraint passes, the outcome is read off the comparison. -/
theorem buildDecision_passing
    (passes : ∀ result ∈ (buildDecision record id decision sequence).constraints,
      result.passed = true) :
    (buildDecision record id decision sequence).decisiveFactors =
        (comparisonOf record id).factors ∧
      (buildDecision record id decision sequence).outcome =
        concludedOutcome .accept (comparisonOf record id) ∧
      (buildDecision record id decision sequence).tied = ((comparisonOf record id).anyDecisive &&
        !(comparisonOf record id).anyDecisiveFailed &&
          !(comparisonOf record id).anyNonzeroDelta) := by
  by_cases refused : ∀ candidate baseline, ¬ Considered record id candidate baseline
  · -- A refused candidate has a constraint that did not pass.
    have constraints := congrArg Verdict.constraints
      (buildDecision_refused record id decision sequence refused)
    change (buildDecision record id decision sequence).constraints = _ at constraints
    rw [constraints] at passes
    split at passes
    · exact nomatch passes _ (List.mem_singleton_self _)
    · exact nomatch passes _ (List.mem_singleton_self _)
  · push Not at refused
    obtain ⟨candidate, baseline, considered⟩ := refused
    have declared := List.find?_some considered.declared
    have named : candidate.id = id := of_decide_eq_true declared
    have accepted : (applyConstraints record candidate baseline record.computeEvidence).outcome =
        .accept := by
      refine applyConstraints_consistent record candidate baseline record.computeEvidence ?_
      have constraints := congrArg Verdict.constraints
        (buildDecision_considered record id decision sequence considered)
      change (buildDecision record id decision sequence).constraints = _ at constraints
      rw [constraints] at passes
      rwa [Ruling.Passing, applyConstraints_eq]
    refine ⟨?_, ?_⟩
    · rw [Decision.decisiveFactors, buildDecision_factors record id decision sequence considered]
      exact compareFactors_decisive record _ _
    · unfold buildDecision
      rw [considered.declared]
      dsimp only
      rw [considered.designated, considered.distinct, if_neg Bool.false_ne_true, comparisonOf,
        considered.designated, ← named]
      refine conclude_accepted _ accepted _ ?_
      cases baseline <;> rfl

/-- Where every hard constraint passes, the outcome is that of the decisive factors exactly when the
weighted score is not the only one and no tie is at infinity. -/
theorem outcome_follows_iff [ExactDifference R]
    (passes : ∀ result ∈ (buildDecision record id decision sequence).constraints,
      result.passed = true) :
    FollowsFactors (buildDecision record id decision sequence) ↔
      ¬ ScoreAlone record (evidenceOf record.computeEvidence id)
          ((baselineBranch record).bind fun found =>
            evidenceOf record.computeEvidence found.id) ∧
        ¬ InfiniteTie record (evidenceOf record.computeEvidence id)
          ((baselineBranch record).bind fun found =>
            evidenceOf record.computeEvidence found.id) := by
  obtain ⟨factors, outcome, tied⟩ := buildDecision_passing record id decision sequence passes
  unfold comparisonOf at factors outcome tied
  generalize evidenceOf record.computeEvidence id = candidate at factors outcome tied ⊢
  generalize ((baselineBranch record).bind fun found =>
    evidenceOf record.computeEvidence found.id) = baseline at factors outcome tied ⊢
  have failed : (∃ factor ∈ (compareFactors record candidate baseline).factors,
      factor.satisfied = false) ↔
        (compareFactors record candidate baseline).anyDecisiveFailed = true := by
    rw [compareFactors_anyDecisiveFailed, List.any_eq_true]
    simp only [Bool.not_eq_true']
  have passed : (∀ factor ∈ (compareFactors record candidate baseline).factors,
      factor.satisfied = true) ↔
        (compareFactors record candidate baseline).anyDecisiveFailed = false := by
    rw [← Bool.not_eq_true, ← failed]
    simp only [not_exists, not_and, Bool.not_eq_false]
  constructor
  · intro follows
    have unsatisfied := follows.rejected
    have equal := follows.tied
    rw [factors] at unsatisfied equal
    constructor
    · intro alone
      obtain ⟨undecisive, listed, same⟩ := alone.undecisive
      rw [undecisive] at tied
      by_cases met : ∀ factor ∈ (compareFactors record candidate baseline).factors,
          factor.satisfied = true
      · have chosen := (equal listed met same).2
        rw [tied] at chosen
        cases chosen
      · push Not at met
        obtain ⟨factor, member, short⟩ := met
        have chosen := unsatisfied ⟨factor, member, Bool.eq_false_iff.mpr short⟩
        rw [outcome, concludedOutcome, undecisive] at chosen
        cases chosen
    · intro infinite
      have differs : (compareFactors record candidate baseline).anyNonzeroDelta = true := by
        by_contra still
        exact ((compareFactors_tie record candidate baseline infinite.met).mp
          (Bool.eq_false_iff.mpr still)).2 infinite
      have chosen := (equal infinite.listed infinite.met infinite.all_equal).2
      rw [tied, differs, Bool.not_true, Bool.and_false] at chosen
      cases chosen
  · rintro ⟨scored, finite⟩
    have decides := compareFactors_decides record candidate baseline scored
    refine ⟨?_, ?_, ?_, ?_⟩
    · rw [factors]
      intro none
      have undecisive : (compareFactors record candidate baseline).anyDecisive = false := by
        rw [compareFactors_factors, List.append_eq_nil_iff, List.map_eq_nil_iff] at none
        rw [compareFactors_anyDecisive, none.1]
        rfl
      rw [outcome, concludedOutcome, undecisive]
      rfl
    · rw [factors]
      rintro ⟨factor, member, short⟩
      rw [outcome, concludedOutcome, decides (List.ne_nil_of_mem member),
        failed.mp ⟨factor, member, short⟩]
      rfl
    · rw [factors]
      intro listed met equal
      have still := (compareFactors_tie record candidate baseline met).mpr ⟨equal, finite⟩
      rw [outcome, tied, concludedOutcome, decides listed, passed.mp met, still]
      exact ⟨rfl, rfl⟩
    · rw [factors]
      rintro met ⟨factor, member, unequal⟩
      have differs : (compareFactors record candidate baseline).anyNonzeroDelta = true := by
        by_contra still
        exact unequal (((compareFactors_tie record candidate baseline met).mp
          (Bool.eq_false_iff.mpr still)).1 factor member)
      rw [outcome, concludedOutcome, decides (List.ne_nil_of_mem member), passed.mp met, differs]
      rfl

end Decisions

/-- Exact rationals meet the law of differences. -/
instance rationalDifference : ExactDifference ℚ where
  zero_eq := rfl
  sub_eq_zero left right := by
    change decide (left - right = ((0 : Int) : ℚ)) = true ↔ decide (left = right) = true ∧ true = true
    simp [sub_eq_zero]

namespace Sample

/-- The sample experiment decided by a weighted score that the candidate cannot reach. -/
def scoredSpec : ExperimentSpec ℚ := { spec with useWeightedScore := true, acceptScoreThreshold := 1 }

end Sample

/-- A candidate that meets a majority rule without a difference is tied, as its factors say. -/
theorem outcome_follows_sample : ∃ record,
    (Sample.bothRan Sample.majoritySpec).findExperiment Sample.experiment = some record ∧
    FollowsFactors (buildDecision record Sample.candidate ⟨1⟩ 0) := by
  have ran : ((Sample.bothRan Sample.majoritySpec).findExperiment Sample.experiment).any (fun record =>
      (buildDecision record Sample.candidate ⟨1⟩ 0).constraints.all (·.passed) &&
        record.definition.policy.rules.any (·.op ≠ .reportOnly)) = true := by
    decide +kernel
  obtain ⟨record, found, compared⟩ := (Option.any_eq_true _ _).mp ran
  obtain ⟨passes, decisive⟩ := Bool.and_eq_true_iff.mp compared
  refine ⟨record, found, (outcome_follows_iff record Sample.candidate ⟨1⟩ 0
    (List.all_eq_true.mp passes)).mpr ⟨fun alone => ?_, fun infinite => ?_⟩⟩
  · obtain ⟨rule, listed, decides⟩ := List.any_eq_true.mp decisive
    exact of_decide_eq_true decides (alone.undecided rule listed)
  · obtain ⟨rule, -, unbounded⟩ := infinite.infinite
    cases unbounded

/-- A candidate that misses a weighted score, the only decisive factor, is not rejected. -/
theorem score_alone_undecided : ∃ record,
    (World.running (Sample.bothRan Sample.scoredSpec)).Reachable Sample.config.statePath ∧
    (Sample.bothRan Sample.scoredSpec).findExperiment Sample.experiment = some record ∧
    (∀ result ∈ (buildDecision record Sample.candidate ⟨1⟩ 0).constraints,
      result.passed = true) ∧
    ¬ FollowsFactors (buildDecision record Sample.candidate ⟨1⟩ 0) := by
  have ran : ((Sample.bothRan Sample.scoredSpec).findExperiment Sample.experiment).any (fun record =>
      (buildDecision record Sample.candidate ⟨1⟩ 0).constraints.all (·.passed) &&
        ((buildDecision record Sample.candidate ⟨1⟩ 0).decisiveFactors.any (!·.satisfied) &&
          (buildDecision record Sample.candidate ⟨1⟩ 0).outcome ≠ .reject)) = true := by
    decide +kernel
  obtain ⟨record, found, compared⟩ := (Option.any_eq_true _ _).mp ran
  simp only [Bool.and_eq_true, decide_eq_true_eq] at compared
  obtain ⟨passes, missed, undecided⟩ := compared
  obtain ⟨factor, member, short⟩ := List.any_eq_true.mp missed
  refine ⟨record, Sample.coordinator_reachable.session _, found, List.all_eq_true.mp passes,
    fun follows => undecided (follows.rejected ⟨factor, member, ?_⟩)⟩
  simpa using short

end ExperimentFabric
