import Mathlib.Data.Finset.Card
import ExperimentFabric.Descent
import ExperimentFabric.Reading

/-!
# Stale evidence and decisions

Aggregates, constraints and factors look at trials through the authority filter, so trials of earlier
generations do not reach them.  The constraint about environments is the exception: it reads every
completed trial of the compared branches.  Historical trials decide exactly where nothing else asks
for authoritative ones.
-/

namespace ExperimentFabric

open Lib

variable {R : Type}

/-- The observations that the authoritative attempt of a trial made. -/
def ExperimentRecord.authoritativeObservations (record : ExperimentRecord R) (trial : TrialRecord) :
    List (Observation R) :=
  record.observations.filter fun observation =>
    observation.trial = trial.id && observation.attempt = trial.authoritativeAttempt

/-- Two records agree on the definition, the state and the authoritative evidence. -/
structure Agree (record record' : ExperimentRecord R) : Prop where
  definition : record'.definition = record.definition
  state : record'.state = record.state
  trials : ∀ branch, record'.authoritativeTrials branch = record.authoritativeTrials branch
  observations : ∀ branch, ∀ trial ∈ record.authoritativeTrials branch,
    record'.authoritativeObservations trial = record.authoritativeObservations trial

theorem Agree.symm {record record' : ExperimentRecord R} (agree : Agree record record') :
    Agree record' record where
  definition := agree.definition.symm
  state := agree.state.symm
  trials := fun branch => (agree.trials branch).symm
  observations := fun branch trial member =>
    (agree.observations branch trial (agree.trials branch ▸ member)).symm

/-- An authoritative trial is a completed trial of its branch, stored under its identity. -/
theorem mem_authoritativeTrials {record : ExperimentRecord R} {marks : Watermarks}
    (life : Lifecycle marks record) {branch : BranchId} {trial : TrialRecord}
    (member : trial ∈ record.authoritativeTrials branch) :
    record.trials.find? trial.id = some trial ∧ trial.branch = branch ∧
      trial.state = .completed := by
  unfold ExperimentRecord.authoritativeTrials at member
  split at member
  · cases member
  · rename_i definition found
    rw [List.mem_insertionSort, List.mem_filter] at member
    obtain ⟨listed, authoritative⟩ := member
    obtain ⟨key, lookup⟩ := (OrderedMap.mem_values_iff _ _).mp listed
    simp only [ExperimentRecord.isAuthoritative, Bool.and_eq_true, decide_eq_true_eq] at authoritative
    refine ⟨?_, ?_, authoritative.1.1.1.1.1.1.2⟩
    · rw [(life.trial key trial lookup).id]
      exact lookup
    · rw [authoritative.1.1.1.1.1.1.1, ExperimentRecord.findBranch_id found]

/-- The cell of an authoritative trial holds the observations of its authoritative attempt. -/
theorem filter_inCell {record : ExperimentRecord R} {trial : TrialRecord}
    (found : record.trials.find? trial.id = some trial) (metric : MetricId) :
    record.observations.filter (record.inCell trial.id metric) =
      (record.authoritativeObservations trial).filter (·.metric = metric) := by
  unfold ExperimentRecord.authoritativeObservations
  rw [List.filter_filter]
  refine List.filter_congr fun observation _ => ?_
  unfold ExperimentRecord.inCell ExperimentRecord.isCurrent
  by_cases here : observation.trial = trial.id
  · rw [here, found]
    simp [Bool.and_comm]
  · simp [here]

theorem Agree.readsAlike {record record' : ExperimentRecord R} {marks marks' : Watermarks}
    (agree : Agree record record') (life : Lifecycle marks record)
    (life' : Lifecycle marks' record') : ReadsAlike record record' where
  state := agree.state
  policy := by rw [agree.definition]
  metrics := by rw [agree.definition]
  branches := by rw [agree.definition]
  trials := fun branch => by rw [agree.trials]
  cells := fun branch trial member metric => by
    have found := (mem_authoritativeTrials life member).1
    have found' := (mem_authoritativeTrials life' (agree.trials branch ▸ member)).1
    rw [evidenceIndex_cell, evidenceIndex_cell, filter_inCell found, filter_inCell found',
      agree.observations branch trial member]

/-! ## The constraint about environments -/

/-- The environment declared for a branch. -/
def ExperimentRecord.environmentOf (record : ExperimentRecord R) (branch : BranchId) : Text :=
  ((record.findBranch branch).map BranchDefinition.environmentFingerprint).getD []

/-- Some completed trial ran on the branch, authoritative or not. -/
def ExperimentRecord.Ran (record : ExperimentRecord R) (branch : BranchId) : Prop :=
  ∃ key trial, record.trials.find? key = some trial ∧ trial.branch = branch ∧
    trial.state = .completed

/-- Completed trials ran on both branches, under different declared environments. -/
structure Mismatched (record : ExperimentRecord R) (candidate baseline : BranchId) : Prop where
  candidateRan : record.Ran candidate
  baselineRan : record.Ran baseline
  candidateDeclared : record.environmentOf candidate ≠ []
  baselineDeclared : record.environmentOf baseline ≠ []
  different : record.environmentOf candidate ≠ record.environmentOf baseline

/-- The environments of the compared trials, each once. -/
def comparedEnvironments (record : ExperimentRecord R) (candidate : BranchDefinition)
    (baseline : Option BranchDefinition) : List Text :=
  (((comparedTrials record candidate baseline).map TrialRecord.environmentFingerprint).filter
    (· ≠ [])).dedup

theorem mem_comparedEnvironments {record : ExperimentRecord R} (identified : Identified record)
    (candidate : BranchDefinition) (baseline : Option BranchDefinition) (environment : Text) :
    environment ∈ comparedEnvironments record candidate baseline ↔ environment ≠ [] ∧
      ((record.Ran candidate.id ∧ record.environmentOf candidate.id = environment) ∨
        ∃ found, baseline = some found ∧ record.Ran found.id ∧
          record.environmentOf found.id = environment) := by
  have declared : ∀ key trial, record.trials.find? key = some trial →
      record.environmentOf trial.branch = trial.environmentFingerprint := by
    intro key trial held
    obtain ⟨branch, lookup, same⟩ := identified.environment key trial held
    rw [ExperimentRecord.environmentOf, lookup]
    exact same.symm
  unfold comparedEnvironments comparedTrials
  simp only [List.mem_dedup, List.mem_filter, List.mem_map, OrderedMap.mem_values_iff,
    Bool.and_eq_true, Bool.or_eq_true, decide_eq_true_eq, ne_eq, Option.any_eq_true]
  constructor
  · rintro ⟨⟨trial, ⟨⟨key, held⟩, completed, here⟩, rfl⟩, nonempty⟩
    refine ⟨nonempty, ?_⟩
    rcases here with here | ⟨found, designated, here⟩
    · exact .inl ⟨⟨key, trial, held, here, completed⟩, here ▸ declared key trial held⟩
    · exact .inr ⟨found, designated, ⟨key, trial, held, here, completed⟩,
        here ▸ declared key trial held⟩
  · rintro ⟨nonempty, ⟨⟨key, trial, held, here, completed⟩, rfl⟩ |
      ⟨found, designated, ⟨key, trial, held, here, completed⟩, rfl⟩⟩
    · refine ⟨⟨trial, ⟨⟨key, held⟩, completed, .inl here⟩, ?_⟩, nonempty⟩
      rw [← here, declared key trial held]
    · refine ⟨⟨trial, ⟨⟨key, held⟩, completed, .inr ⟨found, designated, here⟩⟩, ?_⟩, nonempty⟩
      rw [← here, declared key trial held]

/-- The compared trials ran under different environments exactly when two declared ones did. -/
theorem comparedEnvironments_length {record : ExperimentRecord R} (identified : Identified record)
    (candidate : BranchDefinition) (baseline : Option BranchDefinition) :
    (comparedEnvironments record candidate baseline).length ≤ 1 ↔
      ∀ found, baseline = some found → ¬ Mismatched record candidate.id found.id := by
  have members := mem_comparedEnvironments identified candidate baseline
  have nodup : (comparedEnvironments record candidate baseline).Nodup := List.nodup_dedup _
  rw [← List.toFinset_card_of_nodup nodup, Finset.card_le_one]
  simp only [List.mem_toFinset]
  constructor
  · rintro atMostOne found rfl
      ⟨candidateRan, baselineRan, candidateDeclared, baselineDeclared, different⟩
    have first := (members (record.environmentOf candidate.id)).mpr
      ⟨candidateDeclared, .inl ⟨candidateRan, rfl⟩⟩
    have second := (members (record.environmentOf found.id)).mpr
      ⟨baselineDeclared, .inr ⟨found, rfl, baselineRan, rfl⟩⟩
    exact different (atMostOne _ first _ second)
  · intro matched first firstMember second secondMember
    obtain ⟨firstDeclared, firstRan⟩ := (members first).mp firstMember
    obtain ⟨secondDeclared, secondRan⟩ := (members second).mp secondMember
    by_contra different
    rcases firstRan with ⟨ran, rfl⟩ | ⟨found, designated, ran, rfl⟩
    · rcases secondRan with ⟨-, rfl⟩ | ⟨found, designated, ran', rfl⟩
      · exact different rfl
      · exact matched found designated ⟨ran, ran', firstDeclared, secondDeclared, different⟩
    · rcases secondRan with ⟨ran', rfl⟩ | ⟨other, designated', ran', rfl⟩
      · exact matched found designated
          ⟨ran', ran, secondDeclared, firstDeclared, Ne.symm different⟩
      · obtain rfl := Option.some.inj (designated.symm.trans designated')
        exact different rfl

open Classical in
/-- The constraint about environments refuses an otherwise accepted candidate whose trials ran under
different environments, and leaves every other outcome alone. -/
theorem constrainEnvironment_verdict {record : ExperimentRecord R} (identified : Identified record)
    (candidate : BranchDefinition) (baseline : Option BranchDefinition) (ruling : Ruling) :
    (constrainEnvironment record candidate baseline ruling).outcome =
      if ruling.outcome = .accept ∧ record.definition.policy.requireEnvironmentMatch = true ∧
          ∃ found, baseline = some found ∧ Mismatched record candidate.id found.id then .invalid
      else ruling.outcome := by
  have length := comparedEnvironments_length identified candidate baseline
  have environments : (((comparedTrials record candidate baseline).map
      TrialRecord.environmentFingerprint).filter (· ≠ [])).dedup =
        comparedEnvironments record candidate baseline := rfl
  unfold constrainEnvironment
  by_cases required : record.definition.policy.requireEnvironmentMatch = true
  · dsimp only
    rw [required, environments]
    by_cases matched : (comparedEnvironments record candidate baseline).length ≤ 1
    · have nobody : ¬ ∃ found, baseline = some found ∧
          Mismatched record candidate.id found.id := by
        rintro ⟨found, designated, mismatched⟩
        exact length.mp matched found designated mismatched
      simp [matched, nobody, Ruling.failWhen, Ruling.add]
    · have somebody : ∃ found, baseline = some found ∧
          Mismatched record candidate.id found.id := by
        by_contra nobody
        exact matched (length.mpr fun found designated mismatched =>
          nobody ⟨found, designated, mismatched⟩)
      by_cases accepted : ruling.outcome = .accept
      · simp [matched, accepted, somebody, Ruling.failWhen, Ruling.add, Ruling.fail,
          apply_ite Ruling.outcome]
      · simp [matched, accepted, Ruling.failWhen, Ruling.add, Ruling.fail,
          apply_ite Ruling.outcome]
  · simp [required]

/-! ## When every other constraint passes -/

theorem Ruling.fail_outcome (ruling : Ruling) {outcome : DecisionOutcome} (kind : FailureKind)
    (reason : Text) (refuses : outcome ≠ .accept) :
    (ruling.fail outcome kind reason).outcome ≠ .accept := by
  unfold Ruling.fail
  split
  · exact refuses
  · assumption

theorem constrainState_accept (state : ExperimentState) :
    (constrainState state {}).outcome = .accept ↔ state = .opened := by
  cases state <;> simp [constrainState, Ruling.add, Ruling.fail]

theorem constrainCandidate_accept (candidate : BranchDefinition) {entry : BranchEvidence R}
    (ruling : Ruling) :
    (constrainCandidate candidate (some entry) ruling).outcome = .accept ↔
      ruling.outcome = .accept ∧ candidate.state = .active := by
  unfold constrainCandidate isBranchEligible
  by_cases accepted : ruling.outcome = .accept
  · cases candidate.state <;> simp [Ruling.add, Ruling.fail, accepted]
  · cases candidate.state <;> simp [Ruling.add, Ruling.fail, accepted]

theorem Ruling.insufficient_accept (ruling : Ruling) (condition : Bool) (reason : Text) :
    (ruling.insufficient condition reason).outcome = .accept ↔
      ruling.outcome = .accept ∧ condition = false := by
  unfold Ruling.insufficient Ruling.failWhen Ruling.fail
  cases condition with
  | false => simp
  | true =>
      by_cases accepted : ruling.outcome = .accept
      · simp [accepted]
      · simp [accepted]

theorem constrainBaseline_accept (policy : ComparisonPolicy R) (baseline : BranchDefinition)
    {entry : BranchEvidence R} (ruling : Ruling) :
    (constrainBaseline policy (some baseline) (some entry) ruling).outcome = .accept ↔
      ruling.outcome = .accept ∧ baseline.state = .active := by
  unfold constrainBaseline
  dsimp only
  rw [Ruling.insufficient_accept]
  simp [Ruling.add, isBranchEligible]

theorem constrainCompleted_accept (policy : ComparisonPolicy R) (name reason : Text)
    {entry : BranchEvidence R} (ruling : Ruling) :
    (constrainCompleted policy name reason (some entry) ruling).outcome = .accept ↔
      ruling.outcome = .accept ∧ policy.minCompletedTrialsPerBranch ≤ entry.completedTrials := by
  unfold constrainCompleted
  dsimp only
  rw [Ruling.insufficient_accept]
  simp [Ruling.add]

/-- The metric has an authoritative aggregate over enough valid observations. -/
def PresentIn (policy : ComparisonPolicy R) (found : Option (MetricAggregate R)) : Prop :=
  ∃ aggregate, found = some aggregate ∧ aggregate.present = true ∧
    policy.minValidObservationsPerRequiredMetric ≤ aggregate.validCount

theorem constrainPresence_accept {policy : ComparisonPolicy R} {name : Text} {side : MetricSide}
    {found : Option (MetricAggregate R)} {ruling : Ruling}
    (accepted : (constrainPresence policy name side found ruling).outcome = .accept) :
    ruling.outcome = .accept ∧ PresentIn policy found := by
  unfold constrainPresence at accepted
  split at accepted
  · rw [Ruling.insufficient_accept] at accepted
    cases accepted.2
  · rename_i aggregate present
    rw [Option.filter_eq_some_iff] at present
    dsimp only at accepted
    split at accepted
    · rw [Ruling.insufficient_accept] at accepted
      cases accepted.2
    · rename_i enough
      exact ⟨accepted, aggregate, present.1, present.2, Nat.not_lt.mp enough⟩

/-- What a required metric that passes has on both sides of the comparison. -/
structure MetricMet (policy : ComparisonPolicy R) (candidate baseline : BranchEvidence R)
    (metric : MetricId) : Prop where
  onCandidate : PresentIn policy (branchHasMetric candidate metric)
  onBaseline : PresentIn policy (branchHasMetric baseline metric)
  clean : policy.rejectOnAnyInvalidObservation = true →
    invalidObservations (some candidate) metric = 0 ∧ invalidObservations (some baseline) metric = 0

theorem constrainMetric_accept {policy : ComparisonPolicy R}
    {candidate baseline : BranchEvidence R} {ruling : Ruling} {metric : MetricDefinition R}
    (accepted : (constrainMetric policy (some candidate) (some baseline) ruling metric).outcome =
      .accept) :
    ruling.outcome = .accept ∧
      (metric.required = true → MetricMet policy candidate baseline metric.id) := by
  unfold constrainMetric at accepted
  split at accepted
  · rename_i optional
    refine ⟨accepted, fun required => ?_⟩
    rw [required] at optional
    cases optional
  · dsimp only at accepted
    have presence : (constrainPresence policy metric.name baselineSide
        (branchHasMetric baseline metric.id) (constrainPresence policy metric.name candidateSide
          (branchHasMetric candidate metric.id) ruling)).outcome = .accept ∧
        (policy.rejectOnAnyInvalidObservation = true →
          invalidObservations (some candidate) metric.id +
            invalidObservations (some baseline) metric.id = 0) := by
      split at accepted
      · unfold Ruling.failWhen at accepted
        split at accepted
        · exact (Ruling.fail_outcome _ _ _ (by simp) accepted).elim
        · rename_i clean
          exact ⟨accepted, fun _ => by simpa using clean⟩
      · rename_i tolerant
        exact ⟨accepted, fun rejects => absurd rejects tolerant⟩
    obtain ⟨first, onBaseline⟩ := constrainPresence_accept presence.1
    obtain ⟨start, onCandidate⟩ := constrainPresence_accept first
    exact ⟨start, fun _ => ⟨onCandidate, onBaseline,
      fun rejects => Nat.add_eq_zero_iff.mp (presence.2 rejects)⟩⟩

theorem constrainMetrics_accept {policy : ComparisonPolicy R} {candidate baseline : BranchEvidence R}
    {metrics : List (MetricDefinition R)} {ruling : Ruling}
    (accepted : (metrics.foldl (constrainMetric policy (some candidate) (some baseline))
      ruling).outcome = .accept) :
    ruling.outcome = .accept ∧ ∀ metric ∈ metrics, metric.required = true →
      MetricMet policy candidate baseline metric.id := by
  induction metrics generalizing ruling with
  | nil => exact ⟨accepted, fun _ member => nomatch member⟩
  | cons metric rest ih =>
      obtain ⟨afterFirst, later⟩ := ih accepted
      obtain ⟨start, first⟩ := constrainMetric_accept afterFirst
      refine ⟨start, fun other member => ?_⟩
      rcases List.mem_cons.mp member with rfl | member
      · exact first
      · exact later other member

theorem constrainMetrics_optional {policy : ComparisonPolicy R}
    {candidate baseline : Option (BranchEvidence R)} {metrics : List (MetricDefinition R)}
    (optional : ∀ metric ∈ metrics, metric.required = false) (ruling : Ruling) :
    metrics.foldl (constrainMetric policy candidate baseline) ruling = ruling := by
  induction metrics generalizing ruling with
  | nil => rfl
  | cons metric rest ih =>
      rw [List.foldl_cons, constrainMetric, if_pos (by simp [optional metric List.mem_cons_self])]
      exact ih (fun other member => optional other (List.mem_cons_of_mem metric member)) ruling

section Evidence

variable [MetricReal R]

/-- Every declared branch has evidence, computed from its authoritative trials. -/
theorem evidenceOf_declared {record : ExperimentRecord R} {branch : BranchDefinition}
    (declared : branch ∈ record.definition.branches) :
    ∃ entry found, evidenceOf record.computeEvidence branch.id = some entry ∧
      entry = record.branchEvidence found ∧ found ∈ record.definition.branches ∧
        found.id = branch.id := by
  have member : record.branchEvidence branch ∈ record.computeEvidence :=
    List.mem_map_of_mem (List.mem_insertionSort _ |>.mpr declared)
  cases lookup : evidenceOf record.computeEvidence branch.id with
  | none =>
      have absent := List.find?_eq_none.mp lookup _ (List.mem_reverse.mpr member)
      exact (absent (by simp [ExperimentRecord.branchEvidence])).elim
  | some entry =>
      have listed := List.mem_reverse.mp (List.mem_of_find?_eq_some lookup)
      obtain ⟨found, held, rfl⟩ := List.mem_map.mp listed
      have named := List.find?_some lookup
      exact ⟨_, found, rfl, rfl, (List.mem_insertionSort _).mp held, of_decide_eq_true named⟩

theorem aggregate_nil (metric : MetricDefinition R) :
    (aggregate metric [] []).present = false := by
  unfold aggregate
  dsimp only
  split <;> rfl

/-- No metric is present on a branch without authoritative trials. -/
theorem branchHasMetric_absent {record : ExperimentRecord R} {branch : BranchDefinition}
    (none : record.authoritativeTrials branch.id = []) (metric : MetricId)
    {found : MetricAggregate R}
    (held : branchHasMetric (record.branchEvidence branch) metric = some found) :
    found.present = false := by
  have listed := List.mem_of_find?_eq_some held
  unfold ExperimentRecord.branchEvidence at listed
  dsimp only at listed
  obtain ⟨definition, -, rfl⟩ := List.mem_map.mp listed
  rw [none]
  exact aggregate_nil definition

/-! ## Where historical trials decide -/

/-- Nothing but the constraint about environments stands in the way of the candidate, whatever
authoritative trials there are. -/
structure Unguarded (record : ExperimentRecord R) (candidate baseline : BranchDefinition) :
    Prop where
  opened : record.state = .opened
  candidateActive : candidate.state = .active
  baselineActive : baseline.state = .active
  noMinimum : record.definition.policy.minCompletedTrialsPerBranch = 0
  optional : ∀ metric ∈ record.definition.metrics, metric.required = false

/-- A candidate that passes with no authoritative trial on one side is unguarded. -/
theorem evidenceRuling_accept {record : ExperimentRecord R} {id : BranchId}
    {candidate baseline : BranchDefinition}
    (considered : Considered record id candidate (some baseline))
    (accepted : (evidenceRuling record candidate (some baseline)
      record.computeEvidence).outcome = .accept)
    (empty : record.authoritativeTrials candidate.id = [] ∨
      record.authoritativeTrials baseline.id = []) :
    Unguarded record candidate baseline := by
  obtain ⟨_, onCandidate, entryFound, rfl, -, sameCandidate⟩ := evidenceOf_declared
    (List.mem_reverse.mp (List.mem_of_find?_eq_some considered.declared))
  obtain ⟨_, onBaseline, baselineFound, rfl, -, sameBaseline⟩ := evidenceOf_declared
    (List.mem_of_find?_eq_some considered.designated)
  unfold evidenceRuling at accepted
  dsimp only [Option.bind_some] at accepted
  rw [entryFound, baselineFound] at accepted
  obtain ⟨accepted, present⟩ := constrainMetrics_accept accepted
  rw [constrainCompleted_accept, constrainCompleted_accept, constrainBaseline_accept,
    constrainCandidate_accept, constrainState_accept] at accepted
  obtain ⟨⟨⟨⟨opened, candidateActive⟩, baselineActive⟩, candidateEnough⟩, baselineEnough⟩ := accepted
  rw [← sameCandidate, ← sameBaseline] at empty
  refine ⟨opened, candidateActive, baselineActive, ?_, fun metric listed => ?_⟩
  · rcases empty with none | none
    · simpa [ExperimentRecord.branchEvidence, none] using candidateEnough
    · simpa [ExperimentRecord.branchEvidence, none] using baselineEnough
  · by_contra required
    obtain ⟨⟨first, firstHeld, firstPresent, -⟩, ⟨second, secondHeld, secondPresent, -⟩, -⟩ :=
      present metric listed (by simpa using required)
    rcases empty with none | none
    · rw [branchHasMetric_absent none metric.id firstHeld] at firstPresent
      cases firstPresent
    · rw [branchHasMetric_absent none metric.id secondHeld] at secondPresent
      cases secondPresent

theorem Unguarded.accepted {record : ExperimentRecord R} {id : BranchId}
    {candidate baseline : BranchDefinition} (unguarded : Unguarded record candidate baseline)
    (considered : Considered record id candidate (some baseline)) :
    (evidenceRuling record candidate (some baseline) record.computeEvidence).outcome = .accept := by
  obtain ⟨_, onCandidate, entryFound, rfl, -⟩ := evidenceOf_declared
    (List.mem_reverse.mp (List.mem_of_find?_eq_some considered.declared))
  obtain ⟨_, onBaseline, baselineFound, rfl, -⟩ := evidenceOf_declared
    (List.mem_of_find?_eq_some considered.designated)
  unfold evidenceRuling
  dsimp only [Option.bind_some]
  rw [entryFound, baselineFound, constrainMetrics_optional unguarded.optional,
    constrainCompleted_accept, constrainCompleted_accept, constrainBaseline_accept,
    constrainCandidate_accept, constrainState_accept, unguarded.noMinimum]
  exact ⟨⟨⟨⟨unguarded.opened, unguarded.candidateActive⟩, unguarded.baselineActive⟩,
    Nat.zero_le _⟩, Nat.zero_le _⟩

omit [MetricReal R] in
/-- Where no trial completed there is no authoritative one. -/
theorem authoritativeTrials_eq_nil {record : ExperimentRecord R} {marks : Watermarks}
    (life : Lifecycle marks record) {branch : BranchId} (idle : ¬ record.Ran branch) :
    record.authoritativeTrials branch = [] := by
  refine List.eq_nil_iff_forall_not_mem.mpr fun trial member => idle ?_
  obtain ⟨found, here, completed⟩ := mem_authoritativeTrials life member
  exact ⟨trial.id, trial, found, here, completed⟩

omit [MetricReal R] in
/-- Records that agree differ in a mismatch only where one side of the comparison has no
authoritative trial. -/
theorem Agree.mismatched {record record' : ExperimentRecord R} {marks' : Watermarks}
    (agree : Agree record record') (life' : Lifecycle marks' record') {candidate baseline : BranchId}
    (mismatched : Mismatched record candidate baseline)
    (matched : ¬ Mismatched record' candidate baseline) :
    record.authoritativeTrials candidate = [] ∨ record.authoritativeTrials baseline = [] := by
  have environments : ∀ branch, record'.environmentOf branch = record.environmentOf branch := by
    intro branch
    unfold ExperimentRecord.environmentOf ExperimentRecord.findBranch
    rw [agree.definition]
  by_cases ranCandidate : record'.Ran candidate
  · have idle : ¬ record'.Ran baseline := by
      intro ranBaseline
      refine matched ⟨ranCandidate, ranBaseline, ?_, ?_, ?_⟩
      · rw [environments]
        exact mismatched.candidateDeclared
      · rw [environments]
        exact mismatched.baselineDeclared
      · rw [environments, environments]
        exact mismatched.different
    refine .inr ?_
    rw [← agree.trials]
    exact authoritativeTrials_eq_nil life' idle
  · refine .inl ?_
    rw [← agree.trials]
    exact authoritativeTrials_eq_nil life' ranCandidate

omit [MetricReal R] in
theorem concludedOutcome_inj {outcome : DecisionOutcome} {comparison : Comparison R}
    (same : concludedOutcome .invalid comparison = concludedOutcome outcome comparison) :
    outcome ≠ .accept := by
  rintro rfl
  unfold concludedOutcome at same
  simp only [ne_eq, reduceCtorEq, not_false_eq_true, if_true, not_true_eq_false, if_false] at same
  split at same
  · cases same
  · split at same
    · cases same
    · split at same <;> cases same

/-- Nothing asks for authoritative trials, and completed trials of the two branches tell different
environments apart in one of the records only. -/
structure Exposed (record record' : ExperimentRecord R) (candidate baseline : BranchDefinition) :
    Prop extends Unguarded record candidate baseline where
  matching : record.definition.policy.requireEnvironmentMatch = true
  disagree : ¬ (Mismatched record' candidate.id baseline.id ↔
    Mismatched record candidate.id baseline.id)

section Decisions

variable {record record' : ExperimentRecord R} {marks marks' : Watermarks}

/-- Records that agree rule alike on the environments of a candidate that is not exposed. -/
theorem Agree.ruledAlike (agree : Agree record record') (life : Lifecycle marks record)
    (life' : Lifecycle marks' record') (identified : Identified record)
    (identified' : Identified record') {id : BranchId} {candidate : BranchDefinition}
    {baseline : Option BranchDefinition} (considered : Considered record id candidate baseline)
    (covered : ∀ found, baseline = some found → ¬ Exposed record record' candidate found) :
    (constrainEnvironment record' candidate baseline
        (evidenceRuling record candidate baseline record.computeEvidence)).outcome =
      (constrainEnvironment record candidate baseline
        (evidenceRuling record candidate baseline record.computeEvidence)).outcome := by
  classical
  rw [constrainEnvironment_verdict identified, constrainEnvironment_verdict identified',
    agree.definition]
  refine if_congr (and_congr_right fun accepted => and_congr_right fun matching => ?_) rfl rfl
  refine exists_congr fun found => and_congr_right fun designated => ?_
  obtain rfl := designated
  by_contra disagree
  refine covered found rfl ⟨evidenceRuling_accept considered accepted ?_, matching, disagree⟩
  -- One record is mismatched and the other is not, so one side holds no authoritative trial.
  by_cases mismatched : Mismatched record candidate.id found.id
  · refine agree.mismatched life' mismatched fun mismatched' => ?_
    exact disagree ⟨fun _ => mismatched, fun _ => mismatched'⟩
  · have mismatched' : Mismatched record' candidate.id found.id := by
      by_contra matched
      exact disagree ⟨fun holds => (matched holds).elim, fun holds => (mismatched holds).elim⟩
    have idle := agree.symm.mismatched life mismatched' mismatched
    rwa [agree.trials, agree.trials] at idle

/-- Records that agree rule differently on the environments of an exposed candidate. -/
theorem Exposed.ruledApart {candidate baseline : BranchDefinition}
    (exposed : Exposed record record' candidate baseline) (agree : Agree record record')
    (identified : Identified record) (identified' : Identified record') {id : BranchId}
    (considered : Considered record id candidate (some baseline)) (comparison : Comparison R) :
    concludedOutcome (constrainEnvironment record' candidate (some baseline)
        (evidenceRuling record candidate (some baseline) record.computeEvidence)).outcome
        comparison ≠
      concludedOutcome (constrainEnvironment record candidate (some baseline)
        (evidenceRuling record candidate (some baseline) record.computeEvidence)).outcome
        comparison := by
  classical
  have accepted := exposed.accepted considered
  rw [constrainEnvironment_verdict identified, constrainEnvironment_verdict identified',
    agree.definition, accepted, exposed.matching]
  have disagree := exposed.disagree
  by_cases mismatched : Mismatched record candidate.id baseline.id
  · have matched : ¬ Mismatched record' candidate.id baseline.id := fun mismatched' =>
      disagree ⟨fun _ => mismatched, fun _ => mismatched'⟩
    rw [if_neg (by simpa using matched), if_pos ⟨rfl, rfl, baseline, rfl, mismatched⟩]
    exact fun same => concludedOutcome_inj same.symm rfl
  · have mismatched' : Mismatched record' candidate.id baseline.id := by
      by_contra matched
      exact disagree ⟨fun holds => (matched holds).elim, fun holds => (mismatched holds).elim⟩
    rw [if_pos ⟨rfl, rfl, baseline, rfl, mismatched'⟩, if_neg (by simpa using mismatched)]
    exact fun same => concludedOutcome_inj same rfl

end Decisions

/-- Stale evidence is inert exactly where no candidate is exposed to it.  Of two reachable records
with the same definition, state and authoritative evidence, decisions have the same outcome and the
same factors unless nothing asks for authoritative trials and the environment constraint reads
completed trials that only one of the records holds. -/
theorem stale_evidence_inert_iff [CanonicalDigests R] {path path' : Text} {c c' : Coordinator R}
    (reachable : (World.running c).Reachable path)
    (reachable' : (World.running c').Reachable path') {experiment experiment' : ExperimentId}
    {record record' : ExperimentRecord R} (found : c.findExperiment experiment = some record)
    (found' : c'.findExperiment experiment' = some record') (agree : Agree record record')
    (id : BranchId) (decision decision' : DecisionId) (sequence sequence' : Nat) :
    ((buildDecision record' id decision' sequence').outcome =
        (buildDecision record id decision sequence).outcome ∧
      (buildDecision record' id decision' sequence').factors =
        (buildDecision record id decision sequence).factors) ↔
      ∀ candidate baseline, Considered record id candidate (some baseline) →
        ¬ Exposed record record' candidate baseline := by
  have life := reachable.sound.2.1 experiment record found
  have life' := reachable'.sound.2.1 experiment' record' found'
  have identified := reachable.identified found
  have identified' := reachable'.identified found'
  have alike := agree.readsAlike life life'
  have outcomes : ∀ other : Decision R, other.verdict.outcome = other.outcome := fun _ => rfl
  have factors : ∀ other : Decision R, other.verdict.factors = other.factors := fun _ => rfl
  rw [← outcomes, ← outcomes, ← factors, ← factors]
  by_cases considered : ∃ candidate baseline, Considered record id candidate baseline
  · obtain ⟨candidate, baseline, considered⟩ := considered
    have considered' : Considered record' id candidate baseline := by
      refine ⟨?_, ?_, considered.distinct⟩
      · rw [candidateBranch, agree.definition]
        exact considered.declared
      · rw [baselineBranch, agree.definition]
        exact considered.designated
    rw [buildDecision_considered record' id decision' sequence' considered',
      buildDecision_considered record id decision sequence considered]
    dsimp only
    rw [alike.evidenceRuling rfl rfl alike.computeEvidence, alike.comparison rfl rfl]
    constructor
    · rintro ⟨same, -⟩ other designated otherConsidered exposed
      obtain rfl := Option.some.inj (considered.declared.symm.trans otherConsidered.declared)
      obtain rfl := considered.designated.symm.trans otherConsidered.designated
      exact exposed.ruledApart agree identified identified' considered _ same
    · intro covered
      refine ⟨?_, rfl⟩
      rw [agree.ruledAlike life life' identified identified' considered]
      rintro designated rfl
      exact covered candidate designated considered
  · have refused : ∀ candidate baseline, ¬ Considered record id candidate baseline :=
      fun candidate baseline holds => considered ⟨candidate, baseline, holds⟩
    rw [buildDecision_refused record' id decision' sequence' (alike.refused refused),
      buildDecision_refused record id decision sequence refused]
    exact ⟨fun _ candidate baseline holds => (refused _ _ holds).elim, fun _ => ⟨rfl, rfl⟩⟩

end Evidence

/-- Records whose trials are all of earlier generations hold no authoritative evidence. -/
theorem Agree.of_past {record record' : ExperimentRecord R}
    (definition : record'.definition = record.definition) (state : record'.state = record.state)
    (past : record.trials.values.all (·.generation ≠ record.definition.generation) = true)
    (past' : record'.trials.values.all (·.generation ≠ record'.definition.generation) = true) :
    Agree record record' := by
  have none : ∀ (other : ExperimentRecord R) (branch : BranchId),
      other.trials.values.all (·.generation ≠ other.definition.generation) = true →
        other.authoritativeTrials branch = [] := by
    intro other branch past
    unfold ExperimentRecord.authoritativeTrials
    split
    · rfl
    · rename_i definition found
      rw [List.filter_eq_nil_iff.mpr, List.insertionSort_nil]
      intro trial listed authoritative
      have different := List.all_eq_true.mp past trial listed
      simp only [ExperimentRecord.isAuthoritative, Bool.and_eq_true, decide_eq_true_eq]
        at authoritative different
      exact different authoritative.1.1.1.1.2
  refine ⟨definition, state, fun branch => ?_, fun branch trial member => ?_⟩
  · rw [none record branch past, none record' branch past']
  · rw [none record branch past] at member
    cases member

namespace Sample

/-- The sample experiment with different environments and a policy that asks for no trials. -/
def splitSpec : ExperimentSpec ℚ :=
  { spec with
    branches := [
      { name := text "baseline", role := .baseline, environmentFingerprint := text "old" },
      { name := text "candidate", environmentFingerprint := text "new" }]
    metrics := [{ name := text "latency", required := false }]
    minCompletedTrialsPerBranch := 0 }

/-- The same experiment with a policy that asks for one trial of each branch. -/
def guardedSpec : ExperimentSpec ℚ := { splitSpec with minCompletedTrialsPerBranch := 1 }

/-- A worker publishes an observation of a trial it claimed and commits the trial. -/
def reporting (worker : WorkerId) (producer : ProducerId) (branch : BranchId) (trial : TrialId)
    (attempt : TrialAttemptId) : List (Request ℚ × Option SaveFault) :=
  let published := { observation with
    id := ⟨attempt.value⟩, worker, producer, branch, trial, attempt }
  let claimed := { envelope with worker, producer, branch, trial, attempt }
  [(.publishObservation ⟨coordinator.epoch, worker, boot, published⟩, none),
    (.commitTrial { epoch := coordinator.epoch, worker, boot, envelope := claimed }, none)]

/-- Revise the hypothesis, which makes every earlier trial historical. -/
def revising : Request ℚ × Option SaveFault :=
  (.reviseHypothesis experiment { statement := text "the candidate is smaller" }, none)

/-- Both branches ran before the revision. -/
def ranBefore (spec : ExperimentSpec ℚ) : Coordinator ℚ :=
  coordinator.session ([(.createExperiment spec, none),
    (.createTrial experiment baseline [], none), (.createTrial experiment candidate [], none),
    (.registerWorker { worker, boot, maxConcurrentAssignments := 2 }, none),
    (.claimTrials { epoch := coordinator.epoch, worker, boot, maxClaims := 2 }, none)] ++
    reporting worker ⟨1⟩ baseline ⟨1⟩ ⟨1⟩ ++ reporting worker ⟨1⟩ candidate ⟨2⟩ ⟨2⟩ ++ [revising])

/-- Nothing ran before the revision. -/
def idleBefore (spec : ExperimentSpec ℚ) : Coordinator ℚ :=
  coordinator.session [(.createExperiment spec, none), revising]

/-- What the two records have in common, and that no trial is of the current generation. -/
def revisedAlike (c c' : Coordinator ℚ) : Bool :=
  (c.findExperiment experiment).any fun record => (c'.findExperiment experiment).any fun record' =>
    record'.definition = record.definition && record'.state = record.state &&
      record.trials.values.all (·.generation ≠ record.definition.generation) &&
      record'.trials.values.all (·.generation ≠ record'.definition.generation)

theorem revisedAlike_agree {c c' : Coordinator ℚ} (revised : revisedAlike c c' = true) :
    ∃ record record', c.findExperiment experiment = some record ∧
      c'.findExperiment experiment = some record' ∧ Agree record record' := by
  obtain ⟨record, found, revised'⟩ := (Option.any_eq_true _ _).mp revised
  obtain ⟨record', found', same⟩ := (Option.any_eq_true _ _).mp revised'
  simp only [Bool.and_eq_true, decide_eq_true_eq] at same
  exact ⟨record, record', found, found', .of_past same.1.1.1 same.1.1.2 same.1.2 same.2⟩

end Sample

/-- With a policy that asks for trials, those that ran before the revision decide nothing. -/
theorem stale_evidence_inert_sample : ∃ record record',
    (Sample.ranBefore Sample.guardedSpec).findExperiment Sample.experiment = some record ∧
    (Sample.idleBefore Sample.guardedSpec).findExperiment Sample.experiment = some record' ∧
    (buildDecision record' Sample.candidate ⟨1⟩ 0).outcome =
      (buildDecision record Sample.candidate ⟨1⟩ 0).outcome ∧
    (buildDecision record' Sample.candidate ⟨1⟩ 0).factors =
      (buildDecision record Sample.candidate ⟨1⟩ 0).factors := by
  obtain ⟨record, record', found, found', agree⟩ :=
    Sample.revisedAlike_agree (by decide +kernel :
      Sample.revisedAlike (Sample.ranBefore Sample.guardedSpec)
        (Sample.idleBefore Sample.guardedSpec) = true)
  refine ⟨record, record', found, found', ?_⟩
  have reachable : (World.running (Sample.ranBefore Sample.guardedSpec)).Reachable
    Sample.config.statePath := Sample.coordinator_reachable.session _
  have reachable' : (World.running (Sample.idleBefore Sample.guardedSpec)).Reachable
    Sample.config.statePath := Sample.coordinator_reachable.session _
  refine (stale_evidence_inert_iff reachable reachable' found found' agree Sample.candidate
    ⟨1⟩ ⟨1⟩ 0 0).mpr fun candidate baseline _ exposed => ?_
  have asked : ((Sample.ranBefore Sample.guardedSpec).findExperiment Sample.experiment).all (fun
      record => record.definition.policy.minCompletedTrialsPerBranch ≠ 0) = true := by
    decide +kernel
  rw [found] at asked
  exact of_decide_eq_true asked exposed.noMinimum

/-- Trials that ran under different environments before a revision invalidate every decision after
it, under a policy that asks for no trials. -/
theorem stale_evidence_decides : ∃ record record',
    (World.running (Sample.ranBefore Sample.splitSpec)).Reachable Sample.config.statePath ∧
    (World.running (Sample.idleBefore Sample.splitSpec)).Reachable Sample.config.statePath ∧
    (Sample.ranBefore Sample.splitSpec).findExperiment Sample.experiment = some record ∧
    (Sample.idleBefore Sample.splitSpec).findExperiment Sample.experiment = some record' ∧
    Agree record record' ∧
    (buildDecision record' Sample.candidate ⟨1⟩ 0).outcome ≠
      (buildDecision record Sample.candidate ⟨1⟩ 0).outcome := by
  obtain ⟨record, record', found, found', agree⟩ :=
    Sample.revisedAlike_agree (by decide +kernel :
      Sample.revisedAlike (Sample.ranBefore Sample.splitSpec)
        (Sample.idleBefore Sample.splitSpec) = true)
  refine ⟨record, record', Sample.coordinator_reachable.session _,
    Sample.coordinator_reachable.session _, found, found', agree, ?_⟩
  have ran : ((Sample.ranBefore Sample.splitSpec).findExperiment Sample.experiment).map (fun record =>
      (buildDecision record Sample.candidate ⟨1⟩ 0).outcome) = some .invalid := by
    decide +kernel
  have idle : ((Sample.idleBefore Sample.splitSpec).findExperiment Sample.experiment).map
      (fun record => (buildDecision record Sample.candidate ⟨1⟩ 0).outcome) =
        some .inconclusive := by
    decide +kernel
  rw [found, Option.map_some] at ran
  rw [found', Option.map_some] at idle
  rw [Option.some.inj ran, Option.some.inj idle]
  decide

end ExperimentFabric
