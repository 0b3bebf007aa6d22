import ExperimentFabric.Acceptance

/-!
# Counts of an aggregate

An aggregate counts every observation that an authoritative attempt reported, and one more missing
observation for a trial without a valid one.
-/

namespace ExperimentFabric

open Lib

variable {R : Type}

/-! ## What a trial reports -/

namespace ExperimentRecord

/-- What the authoritative attempt of a trial observed of a metric. -/
def cell (record : ExperimentRecord R) (metric : MetricId) (trial : TrialRecord) :
    List (Observation R) :=
  record.observations.filter (record.inCell trial.id metric)

/-- The first valid observation of a metric by the authoritative attempt of a trial. -/
def validObservation (record : ExperimentRecord R) (metric : MetricId) (trial : TrialRecord) :
    Option (Observation R) :=
  (record.cell metric trial).find? (·.validity = .valid)

/-- Observations of a metric that the authoritative attempt of a trial reported as missing. -/
def missingReports (record : ExperimentRecord R) (metric : MetricId) (trial : TrialRecord) : Nat :=
  (record.cell metric trial).countP (·.validity = .missing)

theorem validObservation_isSome (record : ExperimentRecord R) (metric : MetricId)
    (trial : TrialRecord) :
    (record.validObservation metric trial).isSome = record.reports metric .valid trial := by
  rw [reports, ← List.any_filter]
  exact Bool.eq_iff_iff.mpr (by simp [validObservation, cell])

theorem missingReports_eq_zero (record : ExperimentRecord R) (metric : MetricId)
    (trial : TrialRecord) :
    record.missingReports metric trial = 0 ↔ record.reports metric .missing trial = false := by
  rw [missingReports, List.countP_eq_zero, reports, ← List.any_filter, List.any_eq_false]
  rfl

end ExperimentRecord

theorem cell_observation (record : ExperimentRecord R) (trial : TrialRecord) (metric : MetricId) :
    (record.evidenceIndex.find? (cellKey trial.id metric)).bind ObservationSummary.valid =
      record.validObservation metric trial := by
  rw [evidenceIndex_cell, ExperimentRecord.validObservation, ExperimentRecord.cell]
  cases record.observations.filter (record.inCell trial.id metric) with
  | nil => rfl
  | cons first rest =>
      rw [summaryOf_cons, Option.bind_some, foldl_add_eq]
      rfl

/-- A trial without a valid observation counts as missing once more. -/
theorem cell_missing (record : ExperimentRecord R) (trial : TrialRecord) (metric : MetricId) :
    missingOf (record.evidenceIndex.find? (cellKey trial.id metric)) =
      record.missingReports metric trial +
        if (record.validObservation metric trial).isNone then 1 else 0 := by
  rw [← cell_observation, evidenceIndex_cell, ExperimentRecord.missingReports,
    ExperimentRecord.cell]
  cases record.observations.filter (record.inCell trial.id metric) with
  | nil => rfl
  | cons first rest =>
      rw [summaryOf_cons, missingOf, Option.bind_some, foldl_add_eq]
      dsimp only
      rw [Nat.zero_add]

section Counts

variable [MetricReal R]

omit [MetricReal R] in
/-- The valid observations of an aggregate, in the order of the trials. -/
theorem aggregate_observed (record : ExperimentRecord R) (metric : MetricId)
    (trials : List TrialRecord) :
    ((trials.map fun trial => record.evidenceIndex.find? (cellKey trial.id metric)).filterMap
      id).filterMap ObservationSummary.valid = trials.filterMap (record.validObservation metric) := by
  rw [List.filterMap_map, List.filterMap_filterMap]
  refine List.filterMap_congr fun trial _ => ?_
  exact cell_observation record trial metric

theorem aggregateOn_missingCount (record : ExperimentRecord R) (branch : BranchDefinition)
    (metric : MetricDefinition R) :
    (record.aggregateOn branch metric).missingCount =
      ((record.authoritativeTrials branch.id).map fun trial =>
        record.missingReports metric.id trial +
          if (record.validObservation metric.id trial).isNone then 1 else 0).sum := by
  unfold ExperimentRecord.aggregateOn aggregate
  dsimp only
  rw [List.map_map]
  refine congrArg List.sum (List.map_congr_left fun trial _ => ?_)
  exact cell_missing record trial metric.id

/-- Every trial is counted as valid or as missing, and once more for each report of a missing
observation. -/
theorem aggregateOn_counts (record : ExperimentRecord R) (branch : BranchDefinition)
    (metric : MetricDefinition R) :
    (record.aggregateOn branch metric).validCount + (record.aggregateOn branch metric).missingCount =
      (record.authoritativeTrials branch.id).length +
        ((record.authoritativeTrials branch.id).map (record.missingReports metric.id)).sum := by
  rw [aggregateOn_validCount, aggregateOn_missingCount]
  induction record.authoritativeTrials branch.id with
  | nil => rfl
  | cons trial rest ih =>
      have held := record.validObservation_isSome metric.id trial
      rw [List.countP_cons, List.map_cons, List.map_cons, List.sum_cons, List.sum_cons,
        List.length_cons, ← held]
      cases found : record.validObservation metric.id trial with
      | none =>
          rw [Option.isSome_none, Option.isNone_none, if_pos rfl, if_neg Bool.false_ne_true]
          omega
      | some observation =>
          rw [Option.isSome_some, Option.isNone_some, if_pos rfl, if_neg Bool.false_ne_true]
          omega

/-- The counts of an aggregate account for the completed trials exactly when no authoritative
attempt reported a missing observation. -/
theorem evidence_accounting (record : ExperimentRecord R) {evidence : BranchEvidence R}
    (computed : evidence ∈ record.computeEvidence) {aggregate : MetricAggregate R}
    (listed : aggregate ∈ evidence.aggregates) :
    (aggregate.validCount = (record.authoritativeTrials evidence.branch).countP
          (record.reports aggregate.metric .valid) ∧
        aggregate.validCount + aggregate.missingCount = evidence.completedTrials) ↔
      ∀ trial ∈ record.authoritativeTrials evidence.branch,
        record.reports aggregate.metric .missing trial = false := by
  obtain ⟨branch, _, rfl⟩ := List.mem_map.mp computed
  obtain ⟨metric, _, rfl⟩ := List.mem_map.mp listed
  have valid := aggregateOn_validCount record branch metric
  have counts := aggregateOn_counts record branch metric
  have none : ((record.authoritativeTrials branch.id).map (record.missingReports metric.id)).sum =
      0 ↔ ∀ trial ∈ record.authoritativeTrials branch.id,
        record.reports metric.id .missing trial = false := by
    simp [List.sum_eq_zero_iff, ExperimentRecord.missingReports_eq_zero]
  constructor
  · rintro ⟨-, total⟩
    refine none.mp ?_
    have balance := counts.symm.trans total
    exact Nat.add_eq_left.mp balance
  · intro silent
    rw [none.mpr silent] at counts
    exact ⟨valid, counts⟩

end Counts

namespace Sample

/-- The claimed trial reports its metric as missing and is committed. -/
def unobserved : Coordinator ℚ :=
  claimed.session
    [(.publishObservation ⟨coordinator.epoch, worker, boot, { observation with
        validity := .missing }⟩, none),
      (.commitTrial { epoch := coordinator.epoch, worker, boot, envelope }, none)]

end Sample

/-- The committed trial of the sample is counted once. -/
theorem evidence_accounting_sample : ∃ record,
    Sample.committed.findExperiment Sample.experiment = some record ∧
      ∃ evidence ∈ record.computeEvidence, ∃ aggregate ∈ evidence.aggregates,
        aggregate.validCount + aggregate.missingCount = evidence.completedTrials ∧
          evidence.completedTrials = 1 := by
  have facts : (Sample.committed.findExperiment Sample.experiment).any (fun record =>
      record.computeEvidence.any fun evidence => evidence.aggregates.any fun aggregate =>
        evidence.completedTrials = 1 &&
          (record.authoritativeTrials evidence.branch).all fun trial =>
            !record.reports aggregate.metric .missing trial) = true := by decide +kernel
  obtain ⟨record, found, facts⟩ := (Option.any_eq_true _ _).mp facts
  obtain ⟨evidence, computed, facts⟩ := List.any_eq_true.mp facts
  obtain ⟨aggregate, listed, facts⟩ := List.any_eq_true.mp facts
  obtain ⟨completed, silent⟩ := Bool.and_eq_true_iff.mp facts
  have counted := (evidence_accounting record computed listed).mpr fun trial authoritative =>
    (Bool.not_eq_true' _).mp (List.all_eq_true.mp silent trial authoritative)
  exact ⟨record, found, evidence, computed, aggregate, listed, counted.2,
    of_decide_eq_true completed⟩

/-- A trial that reports its metric as missing is counted twice. -/
theorem missing_report_counted_twice : ∃ record,
    (World.running Sample.unobserved).Reachable Sample.config.statePath ∧
      Sample.unobserved.findExperiment Sample.experiment = some record ∧
      ∃ evidence ∈ record.computeEvidence, ∃ aggregate ∈ evidence.aggregates,
        evidence.completedTrials = 1 ∧ aggregate.validCount = 0 ∧ aggregate.missingCount = 2 := by
  have facts : (Sample.unobserved.findExperiment Sample.experiment).any (fun record =>
      record.computeEvidence.any fun evidence => evidence.aggregates.any fun aggregate =>
        evidence.completedTrials = 1 && (aggregate.validCount = 0 && aggregate.missingCount = 2)) =
      true := by decide +kernel
  obtain ⟨record, found, facts⟩ := (Option.any_eq_true _ _).mp facts
  obtain ⟨evidence, computed, facts⟩ := List.any_eq_true.mp facts
  obtain ⟨aggregate, listed, facts⟩ := List.any_eq_true.mp facts
  simp only [Bool.and_eq_true, decide_eq_true_eq] at facts
  exact ⟨record, Sample.claimed_reachable.session _, found, evidence, computed, aggregate, listed,
    facts⟩

end ExperimentFabric
