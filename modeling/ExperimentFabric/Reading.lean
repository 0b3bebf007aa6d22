import ExperimentFabric.RefusedEvidence

/-!
# What a decision reads

A decision reads the branches, metrics and policy of the definition, the identities of the
authoritative trials of each branch, what the authoritative attempt of each of them reported, and the
environments of completed trials.  Two records that agree on the first three agree on the comparison
factors and on every constraint but the one about environments.
-/

namespace ExperimentFabric

open Lib

variable {R : Type}

/-! ## Cells of the evidence index -/

/-- The observation belongs to the cell of a trial and a metric. -/
def ExperimentRecord.inCell (record : ExperimentRecord R) (trial : TrialId) (metric : MetricId)
    (observation : Observation R) : Bool :=
  record.isCurrent observation && observation.trial = trial && observation.metric = metric

/-- The summary of the observations of a cell. -/
def summaryOf : List (Observation R) → Option (ObservationSummary R)
  | [] => none
  | observations => some (observations.foldl ObservationSummary.add {})

theorem summaryOf_append (observations : List (Observation R)) (last : Observation R) :
    summaryOf (observations ++ [last]) = some (((summaryOf observations).getD {}).add last) := by
  cases observations with
  | nil => rfl
  | cons first rest => simp [summaryOf]

/-- One more observation changes its own cell, when its attempt is current. -/
theorem summarize_cell (record : ExperimentRecord R) (index : EvidenceIndex R)
    (observation : Observation R) (trial : TrialId) (metric : MetricId) :
    (record.summarize index observation).find? (cellKey trial metric) =
      if record.inCell trial metric observation then
        some (((index.find? (cellKey trial metric)).getD {}).add observation)
      else index.find? (cellKey trial metric) := by
  unfold ExperimentRecord.summarize ExperimentRecord.inCell ExperimentRecord.isCurrent
  cases found : record.trials.find? observation.trial with
  | none => simp
  | some held =>
      by_cases current : observation.attempt = held.authoritativeAttempt
      · by_cases here : observation.trial = trial ∧ observation.metric = metric
        · obtain ⟨rfl, rfl⟩ := here
          simp [current]
        · have elsewhere : cellKey trial metric ≠
              cellKey observation.trial observation.metric := by
            rw [Ne, cellKey_inj]
            rintro ⟨rfl, rfl⟩
            exact here ⟨rfl, rfl⟩
          have outside : (decide (observation.trial = trial) &&
              decide (observation.metric = metric)) = false := by
            simpa using here
          simp only [current, Option.any_some, decide_true, Bool.true_and, outside, ne_eq,
            not_true_eq_false, if_false, OrderedMap.find?_assign, if_neg elsewhere,
            Bool.false_eq_true]
      · simp [current]

/-- A cell of the index summarizes the observations of the cell, in their order. -/
theorem evidenceIndex_cell (record : ExperimentRecord R) (trial : TrialId) (metric : MetricId) :
    record.evidenceIndex.find? (cellKey trial metric) =
      summaryOf (record.observations.filter (record.inCell trial metric)) := by
  -- The index is an accumulator over the observations, so the induction adds one at the end.
  have each : ∀ observations : List (Observation R),
      (observations.foldl record.summarize .empty).find? (cellKey trial metric) =
        summaryOf (observations.filter (record.inCell trial metric)) := by
    intro observations
    induction observations using List.reverseRecOn with
    | nil => rfl
    | append_singleton earlier last ih =>
        rw [List.foldl_append, List.foldl_cons, List.foldl_nil, summarize_cell, ih,
          List.filter_append]
        by_cases inside : record.inCell trial metric last = true
        · rw [if_pos inside, List.filter_singleton, inside, cond_true, summaryOf_append]
        · rw [if_neg inside, List.filter_singleton, Bool.eq_false_iff.mpr inside, cond_false,
            List.append_nil]
  exact each record.observations

/-! ## What constraints and factors use of the evidence -/

/-- The evidence of a branch without the counts of trials that are not authoritative. -/
def BranchEvidence.compared (evidence : BranchEvidence R) : BranchEvidence R :=
  { evidence with
    failedTrials := 0
    cancelledTrials := 0
    invalidTrials := 0
    supersededTrials := 0
    openTrials := 0 }

theorem evidenceOf_compared (evidence : List (BranchEvidence R)) (branch : BranchId) :
    evidenceOf (evidence.map BranchEvidence.compared) branch =
      (evidenceOf evidence branch).map BranchEvidence.compared := by
  unfold evidenceOf
  rw [← List.map_reverse, List.find?_map]
  rfl

/-- Every constraint but the one about environments. -/
def evidenceRuling (record : ExperimentRecord R) (candidate : BranchDefinition)
    (baseline : Option BranchDefinition) (evidence : List (BranchEvidence R)) : Ruling :=
  let policy := record.definition.policy
  let candidateEvidence := evidenceOf evidence candidate.id
  let baselineEvidence := baseline.bind fun branch => evidenceOf evidence branch.id
  let ruling := constrainState record.state {}
  let ruling := constrainCandidate candidate candidateEvidence ruling
  let ruling := constrainBaseline policy baseline baselineEvidence ruling
  let ruling := constrainCompleted policy (text "candidate_completed_trials") (text
    "the candidate branch holds fewer authoritative completed trials than the policy requires")
    candidateEvidence ruling
  let ruling := constrainCompleted policy (text "baseline_completed_trials") (text
    "the baseline branch holds fewer authoritative completed trials than the policy requires")
    baselineEvidence ruling
  record.definition.metrics.foldl (constrainMetric policy candidateEvidence baselineEvidence) ruling

theorem applyConstraints_eq (record : ExperimentRecord R) (candidate : BranchDefinition)
    (baseline : Option BranchDefinition) (evidence : List (BranchEvidence R)) :
    applyConstraints record candidate baseline evidence =
      constrainEnvironment record candidate baseline
        (evidenceRuling record candidate baseline evidence) := rfl

theorem constrainCandidate_compared (candidate : BranchDefinition)
    (evidence : Option (BranchEvidence R)) (ruling : Ruling) :
    constrainCandidate candidate (evidence.map BranchEvidence.compared) ruling =
      constrainCandidate candidate evidence ruling := by
  cases evidence <;> rfl

theorem constrainBaseline_compared (policy : ComparisonPolicy R)
    (baseline : Option BranchDefinition) (evidence : Option (BranchEvidence R)) (ruling : Ruling) :
    constrainBaseline policy baseline (evidence.map BranchEvidence.compared) ruling =
      constrainBaseline policy baseline evidence ruling := by
  cases evidence <;> rfl

theorem constrainCompleted_compared (policy : ComparisonPolicy R) (name reason : Text)
    (evidence : Option (BranchEvidence R)) (ruling : Ruling) :
    constrainCompleted policy name reason (evidence.map BranchEvidence.compared) ruling =
      constrainCompleted policy name reason evidence ruling := by
  cases evidence <;> rfl

theorem constrainMetric_compared (policy : ComparisonPolicy R)
    (candidate baseline : Option (BranchEvidence R)) :
    constrainMetric policy (candidate.map BranchEvidence.compared)
        (baseline.map BranchEvidence.compared) =
      constrainMetric policy candidate baseline := by
  cases candidate <;> cases baseline <;> rfl

/-- The constraints read the compared part of the evidence only. -/
theorem evidenceRuling_compared (record : ExperimentRecord R) (candidate : BranchDefinition)
    (baseline : Option BranchDefinition) (evidence : List (BranchEvidence R)) :
    evidenceRuling record candidate baseline (evidence.map BranchEvidence.compared) =
      evidenceRuling record candidate baseline evidence := by
  have baselineSide : (baseline.bind fun branch =>
      evidenceOf (evidence.map BranchEvidence.compared) branch.id) =
        (baseline.bind fun branch => evidenceOf evidence branch.id).map BranchEvidence.compared := by
    cases baseline with
    | none => rfl
    | some branch => exact evidenceOf_compared evidence branch.id
  unfold evidenceRuling
  dsimp only
  rw [evidenceOf_compared, baselineSide, constrainCandidate_compared, constrainBaseline_compared,
    constrainCompleted_compared, constrainCompleted_compared, constrainMetric_compared]

section Comparison

variable [MetricReal R]

theorem compareRule_compared (record : ExperimentRecord R)
    (candidate baseline : Option (BranchEvidence R)) :
    compareRule record (candidate.map BranchEvidence.compared)
        (baseline.map BranchEvidence.compared) = compareRule record candidate baseline := by
  cases candidate <;> cases baseline <;> rfl

theorem weightedTerm_compared (candidate baseline : Option (BranchEvidence R)) :
    weightedTerm (candidate.map BranchEvidence.compared) (baseline.map BranchEvidence.compared) =
      weightedTerm candidate baseline := by
  cases candidate <;> cases baseline <;> rfl

/-- The factors read the compared part of the evidence only. -/
theorem compareFactors_compared (record : ExperimentRecord R)
    (candidate baseline : Option (BranchEvidence R)) :
    compareFactors record (candidate.map BranchEvidence.compared)
        (baseline.map BranchEvidence.compared) = compareFactors record candidate baseline := by
  unfold compareFactors scoreFactor
  rw [compareRule_compared, weightedTerm_compared]

end Comparison

/-! ## Records that read alike -/

/-- A branch without the sequence number of its creation. -/
def BranchDefinition.undated (branch : BranchDefinition) : BranchDefinition :=
  { branch with createdSequence := 0 }

theorem BranchDefinition.id_of_undated {branch branch' : BranchDefinition}
    (same : branch'.undated = branch.undated) : branch'.id = branch.id := by
  have identity := congrArg BranchDefinition.id same
  exact identity

/-- What a summary contributes to an aggregate: the valid value and the other counts. -/
def ObservationSummary.report (summary : ObservationSummary R) :
    Option (MetricValue R) × Nat × Nat × Nat :=
  (summary.valid.map Observation.value, summary.invalid, summary.missing, summary.unsupported)

/-- Observations that a report lacks. -/
def missingIn : Option (Option (MetricValue R) × Nat × Nat × Nat) → Nat
  | none => 1
  | some report => report.2.2.1 + if report.1.isNone then 1 else 0

theorem missingOf_eq :
    (missingOf : Option (ObservationSummary R) → Nat) =
      missingIn ∘ Option.map ObservationSummary.report := by
  funext summary
  cases summary with
  | none => rfl
  | some summary => simp [missingOf, missingIn, ObservationSummary.report]

/-- Two records agree on what decisions read, environments aside. -/
structure ReadsAlike (record record' : ExperimentRecord R) : Prop where
  state : record'.state = record.state
  policy : record'.definition.policy = record.definition.policy
  metrics : record'.definition.metrics = record.definition.metrics
  branches : record'.definition.branches.map BranchDefinition.undated =
    record.definition.branches.map BranchDefinition.undated
  trials : ∀ branch, (record'.authoritativeTrials branch).map TrialRecord.id =
    (record.authoritativeTrials branch).map TrialRecord.id
  cells : ∀ branch, ∀ trial ∈ record.authoritativeTrials branch, ∀ metric,
    (record'.evidenceIndex.find? (cellKey trial.id metric)).map ObservationSummary.report =
      (record.evidenceIndex.find? (cellKey trial.id metric)).map ObservationSummary.report

section Alike

variable [MetricReal R]

/-- An aggregate reads the identities of the trials and the reports of the summaries. -/
theorem aggregate_congr (metric : MetricDefinition R) {trials trials' : List TrialRecord}
    {summaries summaries' : List (Option (ObservationSummary R))}
    (identities : trials'.map TrialRecord.id = trials.map TrialRecord.id)
    (reports : summaries'.map (Option.map ObservationSummary.report) =
      summaries.map (Option.map ObservationSummary.report)) :
    aggregate metric trials' summaries' = aggregate metric trials summaries := by
  have foundReports : ∀ all : List (Option (ObservationSummary R)),
      (all.filterMap id).map ObservationSummary.report =
        (all.map (Option.map ObservationSummary.report)).filterMap id := by
    intro all
    rw [List.map_filterMap, List.filterMap_map]
    rfl
  have found : (summaries'.filterMap id).map ObservationSummary.report =
      (summaries.filterMap id).map ObservationSummary.report := by
    rw [foundReports, foundReports, reports]
  have observedValues : ∀ all : List (ObservationSummary R),
      (all.filterMap ObservationSummary.valid).map Observation.value =
        (all.map ObservationSummary.report).filterMap Prod.fst := by
    intro all
    rw [List.map_filterMap, List.filterMap_map]
    rfl
  have observed : ((summaries'.filterMap id).filterMap ObservationSummary.valid).map
        Observation.value =
      ((summaries.filterMap id).filterMap ObservationSummary.valid).map Observation.value := by
    rw [observedValues, observedValues, found]
  have values : ∀ {α : Type} (read : MetricValue R → Option α),
      ((summaries'.filterMap id).filterMap ObservationSummary.valid).filterMap
          (fun observation => read observation.value) =
        ((summaries.filterMap id).filterMap ObservationSummary.valid).filterMap
          (fun observation => read observation.value) := by
    intro α read
    have split : ∀ all : List (Observation R),
        all.filterMap (fun observation => read observation.value) =
          (all.map Observation.value).filterMap read := by
      intro all
      rw [List.filterMap_map]
      rfl
    rw [split, split, observed]
  have valid : ((summaries'.filterMap id).filterMap ObservationSummary.valid).length =
      ((summaries.filterMap id).filterMap ObservationSummary.valid).length := by
    have lengths := congrArg List.length observed
    rwa [List.length_map, List.length_map] at lengths
  have invalid : (summaries'.filterMap id).map ObservationSummary.invalid =
      (summaries.filterMap id).map ObservationSummary.invalid := by
    have second := congrArg (List.map fun report => report.2.1) found
    rwa [List.map_map, List.map_map] at second
  have unsupported : (summaries'.filterMap id).map ObservationSummary.unsupported =
      (summaries.filterMap id).map ObservationSummary.unsupported := by
    have last := congrArg (List.map fun report => report.2.2.2) found
    rwa [List.map_map, List.map_map] at last
  have missing : summaries'.map missingOf = summaries.map missingOf := by
    have lists := congrArg (List.map missingIn) reports
    rwa [List.map_map, List.map_map, ← missingOf_eq] at lists
  have order : trials'.map (fun trial => trial.id.toText) =
      trials.map (fun trial => trial.id.toText) := by
    have texts := congrArg (List.map StrongId.toText) identities
    rwa [List.map_map, List.map_map] at texts
  unfold aggregate
  dsimp only
  rw [values numericValue, values categoryValue, valid, invalid, unsupported, missing, order]

/-- The compared evidence of a branch is the same in records that read alike. -/
theorem ReadsAlike.branchEvidence {record record' : ExperimentRecord R}
    (alike : ReadsAlike record record') (branch : BranchDefinition) :
    (record'.branchEvidence branch).compared = (record.branchEvidence branch).compared := by
  have summaries : ∀ metric : MetricId,
      ((record'.authoritativeTrials branch.id).map fun trial =>
        record'.evidenceIndex.find? (cellKey trial.id metric)).map
          (Option.map ObservationSummary.report) =
      ((record.authoritativeTrials branch.id).map fun trial =>
        record.evidenceIndex.find? (cellKey trial.id metric)).map
          (Option.map ObservationSummary.report) := by
    intro metric
    have byId : ∀ (other : ExperimentRecord R) (trials : List TrialRecord),
        (trials.map fun trial => other.evidenceIndex.find? (cellKey trial.id metric)).map
            (Option.map ObservationSummary.report) =
          (trials.map TrialRecord.id).map fun id =>
            (other.evidenceIndex.find? (cellKey id metric)).map ObservationSummary.report := by
      intro other trials
      simp only [List.map_map, Function.comp_def]
    rw [byId, byId, alike.trials, List.map_map, List.map_map]
    exact List.map_congr_left fun trial member => alike.cells branch.id trial member metric
  have completed : (record'.authoritativeTrials branch.id).length =
      (record.authoritativeTrials branch.id).length := by
    have lengths := congrArg List.length (alike.trials branch.id)
    rwa [List.length_map, List.length_map] at lengths
  unfold ExperimentRecord.branchEvidence BranchEvidence.compared
  dsimp only
  rw [completed, alike.metrics]
  congr 1
  exact List.map_congr_left fun metric _ =>
    aggregate_congr metric (alike.trials branch.id) (summaries metric.id)

/-- The compared evidence of records that read alike. -/
theorem ReadsAlike.computeEvidence {record record' : ExperimentRecord R}
    (alike : ReadsAlike record record') :
    record'.computeEvidence.map BranchEvidence.compared =
      record.computeEvidence.map BranchEvidence.compared := by
  have undated : ∀ other : ExperimentRecord R,
      other.computeEvidence.map BranchEvidence.compared =
        ((other.definition.branches.map BranchDefinition.undated).insertionSort
          fun left right => left.id ≤ right.id).map
            fun branch => (other.branchEvidence branch).compared := by
    intro other
    have sorted : (other.definition.branches.insertionSort
        fun left right => left.id ≤ right.id).map BranchDefinition.undated =
          (other.definition.branches.map BranchDefinition.undated).insertionSort
            fun left right => left.id ≤ right.id :=
      List.map_insertionSort _ _ _ _ fun _ _ _ _ => Iff.rfl
    rw [← sorted]
    unfold ExperimentRecord.computeEvidence
    rw [List.map_map, List.map_map]
    rfl
  rw [undated, undated, alike.branches]
  exact List.map_congr_left fun branch _ => alike.branchEvidence branch

/-! ## Decisions -/

omit [MetricReal R] in
theorem ReadsAlike.candidateBranch {record record' : ExperimentRecord R}
    (alike : ReadsAlike record record') (id : BranchId) :
    (ExperimentFabric.candidateBranch record' id).map BranchDefinition.undated =
      (ExperimentFabric.candidateBranch record id).map BranchDefinition.undated := by
  have undated : ∀ other : ExperimentRecord R,
      (ExperimentFabric.candidateBranch other id).map BranchDefinition.undated =
        (other.definition.branches.map BranchDefinition.undated).reverse.find? (·.id = id) := by
    intro other
    rw [← List.map_reverse, List.find?_map]
    rfl
  rw [undated, undated, alike.branches]

omit [MetricReal R] in
theorem ReadsAlike.baselineBranch {record record' : ExperimentRecord R}
    (alike : ReadsAlike record record') :
    (ExperimentFabric.baselineBranch record').map BranchDefinition.undated =
      (ExperimentFabric.baselineBranch record).map BranchDefinition.undated := by
  have undated : ∀ other : ExperimentRecord R,
      (ExperimentFabric.baselineBranch other).map BranchDefinition.undated =
        (other.definition.branches.map BranchDefinition.undated).find? (·.role = .baseline) := by
    intro other
    rw [List.find?_map]
    rfl
  rw [undated, undated, alike.branches]

omit [MetricReal R] in
theorem evidenceRuling_undated (record : ExperimentRecord R) (candidate : BranchDefinition)
    (baseline : Option BranchDefinition) (evidence : List (BranchEvidence R)) :
    evidenceRuling record candidate.undated (baseline.map BranchDefinition.undated) evidence =
      evidenceRuling record candidate baseline evidence := by
  cases baseline <;> rfl

omit [MetricReal R] in
/-- Records that read alike rule alike, environments aside. -/
theorem ReadsAlike.evidenceRuling {record record' : ExperimentRecord R}
    (alike : ReadsAlike record record') {candidate candidate' : BranchDefinition}
    {baseline baseline' : Option BranchDefinition}
    (sameCandidate : candidate'.undated = candidate.undated)
    (sameBaseline : baseline'.map BranchDefinition.undated = baseline.map BranchDefinition.undated)
    {evidence evidence' : List (BranchEvidence R)}
    (sameEvidence : evidence'.map BranchEvidence.compared = evidence.map BranchEvidence.compared) :
    ExperimentFabric.evidenceRuling record' candidate' baseline' evidence' =
      ExperimentFabric.evidenceRuling record candidate baseline evidence := by
  rw [← evidenceRuling_compared record', ← evidenceRuling_compared record,
    ← evidenceRuling_undated record', ← evidenceRuling_undated record, sameCandidate, sameBaseline,
    sameEvidence]
  unfold ExperimentFabric.evidenceRuling
  rw [alike.state, alike.policy, alike.metrics]

/-- Records that read alike compare alike. -/
theorem ReadsAlike.compareFactors {record record' : ExperimentRecord R}
    (alike : ReadsAlike record record') {candidate candidate' baseline baseline' :
      Option (BranchEvidence R)}
    (sameCandidate : candidate'.map BranchEvidence.compared =
      candidate.map BranchEvidence.compared)
    (sameBaseline : baseline'.map BranchEvidence.compared = baseline.map BranchEvidence.compared) :
    ExperimentFabric.compareFactors record' candidate' baseline' =
      ExperimentFabric.compareFactors record candidate baseline := by
  have rule : ∀ candidate baseline : Option (BranchEvidence R),
      compareRule record' candidate baseline = compareRule record candidate baseline := by
    intro candidate baseline
    funext comparison rule
    unfold compareRule metricName ExperimentRecord.findMetric
    rw [alike.metrics]
  rw [← compareFactors_compared record', ← compareFactors_compared record, sameCandidate,
    sameBaseline]
  unfold ExperimentFabric.compareFactors scoreFactor
  rw [rule, alike.policy, alike.metrics]

/-- The outcome that a ruling and a comparison give. -/
def concludedOutcome (outcome : DecisionOutcome) (comparison : Comparison R) : DecisionOutcome :=
  if outcome ≠ .accept then outcome
  else if !comparison.anyDecisive then .inconclusive
  else if comparison.anyDecisiveFailed then .reject
  else if !comparison.anyNonzeroDelta then .inconclusive
  else .accept

omit [MetricReal R] in
theorem conclude_verdict (decision : Decision R) (ruling : Ruling) (comparison : Comparison R) :
    (conclude decision ruling comparison).verdict =
      { outcome := concludedOutcome ruling.outcome comparison
        constraints := ruling.constraints
        factors := comparison.factors
        aggregates := decision.evidence.map fun evidence =>
          (evidence.branch, evidence.aggregates) } := by
  unfold conclude concludedOutcome Decision.verdict
  dsimp only
  by_cases refused : ruling.outcome ≠ .accept
  · rw [if_pos refused, if_pos refused]
  · rw [if_neg refused, if_neg refused]
    split
    · rfl
    · split
      · rfl
      · split
        · rfl
        · simpa using refused

/-- Aggregates of a record by branch. -/
def ExperimentRecord.branchAggregates (record : ExperimentRecord R) :
    List (BranchId × List (MetricAggregate R)) :=
  record.computeEvidence.map fun evidence => (evidence.branch, evidence.aggregates)

theorem ReadsAlike.branchAggregates {record record' : ExperimentRecord R}
    (alike : ReadsAlike record record') :
    record'.branchAggregates = record.branchAggregates := by
  have compared : ∀ other : ExperimentRecord R, other.branchAggregates =
      (other.computeEvidence.map BranchEvidence.compared).map
        fun evidence => (evidence.branch, evidence.aggregates) := by
    intro other
    rw [List.map_map]
    rfl
  rw [compared, compared, alike.computeEvidence]

omit [MetricReal R] in
/-- The candidate is declared and is not the designated baseline, so constraints are applied. -/
structure Considered (record : ExperimentRecord R) (id : BranchId) (candidate : BranchDefinition)
    (baseline : Option BranchDefinition) : Prop where
  declared : ExperimentFabric.candidateBranch record id = some candidate
  designated : ExperimentFabric.baselineBranch record = baseline
  distinct : baseline.any (·.id = candidate.id) = false

omit [MetricReal R] in
theorem ReadsAlike.considered {record record' : ExperimentRecord R}
    (alike : ReadsAlike record record') {id : BranchId} {candidate : BranchDefinition}
    {baseline : Option BranchDefinition} (considered : Considered record id candidate baseline) :
    ∃ candidate' baseline', Considered record' id candidate' baseline' ∧
      candidate'.undated = candidate.undated ∧
        baseline'.map BranchDefinition.undated = baseline.map BranchDefinition.undated := by
  have candidates := alike.candidateBranch id
  have baselines := alike.baselineBranch
  rw [considered.declared, Option.map_some] at candidates
  rw [considered.designated] at baselines
  obtain ⟨candidate', found, same⟩ := Option.map_eq_some_iff.mp candidates
  refine ⟨candidate', _, ⟨found, rfl, ?_⟩, same, baselines⟩
  have undated : ∀ (branch : Option BranchDefinition) (other : BranchDefinition),
      branch.any (·.id = other.id) =
        (branch.map BranchDefinition.undated).any (·.id = other.undated.id) := by
    intro branch other
    cases branch <;> rfl
  rw [undated, baselines, same, ← undated]
  exact considered.distinct

omit [MetricReal R] in
theorem ReadsAlike.symm {record record' : ExperimentRecord R} (alike : ReadsAlike record record') :
    ReadsAlike record' record where
  state := alike.state.symm
  policy := alike.policy.symm
  metrics := alike.metrics.symm
  branches := alike.branches.symm
  trials := fun branch => (alike.trials branch).symm
  cells := fun branch trial' member metric => by
    have identities := alike.trials branch
    obtain ⟨trial, held, same⟩ : ∃ trial ∈ record.authoritativeTrials branch,
        trial.id = trial'.id := by
      rw [← List.mem_map, ← identities]
      exact List.mem_map_of_mem member
    rw [← same]
    exact (alike.cells branch trial held metric).symm

omit [MetricReal R] in
theorem ReadsAlike.refused {record record' : ExperimentRecord R}
    (alike : ReadsAlike record record') {id : BranchId}
    (refused : ∀ candidate baseline, ¬ Considered record id candidate baseline) :
    ∀ candidate baseline, ¬ Considered record' id candidate baseline := by
  intro candidate' baseline' considered'
  obtain ⟨candidate, baseline, considered, -⟩ := alike.symm.considered considered'
  exact refused candidate baseline considered

omit [MetricReal R] in
theorem ReadsAlike.candidate_isNone {record record' : ExperimentRecord R}
    (alike : ReadsAlike record record') (id : BranchId) :
    (ExperimentFabric.candidateBranch record' id).isNone =
      (ExperimentFabric.candidateBranch record id).isNone := by
  have same := congrArg Option.isNone (alike.candidateBranch id)
  rwa [Option.isNone_map, Option.isNone_map] at same

section Verdict

variable [CanonicalDigests R] (record : ExperimentRecord R) (id : BranchId) (decision : DecisionId)
  (sequence : Nat)

/-- The verdict on a considered candidate. -/
theorem buildDecision_considered {candidate : BranchDefinition}
    {baseline : Option BranchDefinition} (considered : Considered record id candidate baseline) :
    (buildDecision record id decision sequence).verdict =
      { outcome := concludedOutcome (constrainEnvironment record candidate baseline
          (evidenceRuling record candidate baseline record.computeEvidence)).outcome
          (compareFactors record (evidenceOf record.computeEvidence candidate.id)
            (baseline.bind fun found => evidenceOf record.computeEvidence found.id))
        constraints := (constrainEnvironment record candidate baseline
          (evidenceRuling record candidate baseline record.computeEvidence)).constraints
        factors := (compareFactors record (evidenceOf record.computeEvidence candidate.id)
          (baseline.bind fun found => evidenceOf record.computeEvidence found.id)).factors
        aggregates := record.branchAggregates } := by
  unfold buildDecision
  rw [considered.declared, considered.designated]
  dsimp only
  rw [considered.distinct, if_neg Bool.false_ne_true, conclude_verdict, applyConstraints_eq]
  cases baseline <;> rfl

/-- The verdict on a candidate that is refused before any constraint is applied. -/
theorem buildDecision_refused
    (refused : ∀ candidate baseline, ¬ Considered record id candidate baseline) :
    (buildDecision record id decision sequence).verdict =
      { outcome := .invalid
        constraints :=
          if (candidateBranch record id).isNone then
            [⟨text "candidate_exists", false,
              text "the candidate branch does not exist in this experiment generation"⟩]
          else
            [⟨text "candidate_is_not_baseline", false,
              text "the candidate branch is the designated baseline"⟩]
        factors := []
        aggregates := record.branchAggregates } := by
  unfold buildDecision
  cases found : candidateBranch record id with
  | none => rfl
  | some candidate =>
      dsimp only
      have designated : (baselineBranch record).any (·.id = candidate.id) = true := by
        by_contra other
        exact refused candidate (baselineBranch record)
          ⟨found, rfl, Bool.eq_false_iff.mpr other⟩
      rw [designated, if_pos rfl]
      cases baselineBranch record <;> rfl

end Verdict

/-- Records that read alike compare the candidate with the baseline alike. -/
theorem ReadsAlike.comparison {record record' : ExperimentRecord R}
    (alike : ReadsAlike record record') {candidate candidate' : BranchDefinition}
    {baseline baseline' : Option BranchDefinition}
    (sameCandidate : candidate'.undated = candidate.undated)
    (sameBaseline : baseline'.map BranchDefinition.undated =
      baseline.map BranchDefinition.undated) :
    ExperimentFabric.compareFactors record' (evidenceOf record'.computeEvidence candidate'.id)
        (baseline'.bind fun found => evidenceOf record'.computeEvidence found.id) =
      ExperimentFabric.compareFactors record (evidenceOf record.computeEvidence candidate.id)
        (baseline.bind fun found => evidenceOf record.computeEvidence found.id) := by
  have identity := BranchDefinition.id_of_undated sameCandidate
  have sides : ∀ id, (evidenceOf record'.computeEvidence id).map BranchEvidence.compared =
      (evidenceOf record.computeEvidence id).map BranchEvidence.compared := by
    intro id
    rw [← evidenceOf_compared, ← evidenceOf_compared, alike.computeEvidence]
  refine alike.compareFactors (by rw [identity, sides]) ?_
  cases baseline with
  | none =>
      rw [Option.map_none, Option.map_eq_none_iff] at sameBaseline
      rw [sameBaseline]
      rfl
  | some found =>
      obtain ⟨found', rfl, same⟩ := Option.map_eq_some_iff.mp sameBaseline
      have sameId := BranchDefinition.id_of_undated same
      simp only [Option.bind_some, sameId, sides]

/-- Records that read alike give the same verdict, when their environments are ruled on alike. -/
theorem ReadsAlike.verdict [CanonicalDigests R] {record record' : ExperimentRecord R}
    (alike : ReadsAlike record record') (id : BranchId) (decision decision' : DecisionId)
    (sequence sequence' : Nat)
    (environment : ∀ {candidate candidate' baseline baseline'} (ruling : Ruling),
      Considered record id candidate baseline → Considered record' id candidate' baseline' →
      candidate'.undated = candidate.undated →
      baseline'.map BranchDefinition.undated = baseline.map BranchDefinition.undated →
        constrainEnvironment record' candidate' baseline' ruling =
          constrainEnvironment record candidate baseline ruling) :
    (buildDecision record' id decision' sequence').verdict =
      (buildDecision record id decision sequence).verdict := by
  by_cases considered : ∃ candidate baseline, Considered record id candidate baseline
  · obtain ⟨candidate, baseline, considered⟩ := considered
    obtain ⟨candidate', baseline', considered', sameCandidate, sameBaseline⟩ :=
      alike.considered considered
    rw [buildDecision_considered record' id decision' sequence' considered',
      buildDecision_considered record id decision sequence considered,
      environment _ considered considered' sameCandidate sameBaseline,
      alike.evidenceRuling sameCandidate sameBaseline alike.computeEvidence,
      alike.comparison sameCandidate sameBaseline, alike.branchAggregates]
  · have refused : ∀ candidate baseline, ¬ Considered record id candidate baseline :=
      fun candidate baseline holds => considered ⟨candidate, baseline, holds⟩
    rw [buildDecision_refused record' id decision' sequence' (alike.refused refused),
      buildDecision_refused record id decision sequence refused, alike.branchAggregates,
      alike.candidate_isNone]

end Alike

end ExperimentFabric
