import ExperimentFabric.Accounting
import ExperimentFabric.Lib.Samples

/-!
# Pairs of a majority comparison

A majority comparison pairs the values of two branches by their places among the values, not by the
places of their trials.
-/

namespace ExperimentFabric

open Lib

variable {R : Type} [MetricReal R]

namespace ExperimentRecord

/-- The number a trial contributes to a metric. -/
def trialValue (record : ExperimentRecord R) (metric : MetricId) (trial : TrialRecord) : Option R :=
  (record.validObservation metric trial).bind (numericValue ·.value)

/-- The number the authoritative trial at a place contributes, in the order of trial identities. -/
def valueAt (record : ExperimentRecord R) (branch : BranchId) (metric : MetricId) (place : Nat) :
    Option R :=
  (record.authoritativeTrials branch)[place]?.bind (record.trialValue metric)

/-- The places whose trials contribute a number. -/
def valuedPlaces (record : ExperimentRecord R) (branch : BranchId) (metric : MetricId) : List Nat :=
  (List.range (record.authoritativeTrials branch).length).filter fun place =>
    (record.valueAt branch metric place).isSome

/-- The places of the trials that a majority comparison pairs. -/
def comparedPlaces (record : ExperimentRecord R) (baseline candidate : BranchId)
    (metric : MetricId) : List (Nat × Nat) :=
  (record.valuedPlaces baseline metric).zip (record.valuedPlaces candidate metric)

/-- Every place with itself, where both trials contribute a number. -/
def placesByTrial (record : ExperimentRecord R) (baseline candidate : BranchId)
    (metric : MetricId) : List (Nat × Nat) :=
  ((List.range (record.authoritativeTrials baseline).length).filter fun place =>
    (record.valueAt baseline metric place).isSome &&
      (record.valueAt candidate metric place).isSome).map fun place => (place, place)

theorem mem_valuedPlaces {record : ExperimentRecord R} {branch : BranchId} {metric : MetricId}
    {place : Nat} : place ∈ record.valuedPlaces branch metric ↔
      (record.valueAt branch metric place).isSome = true := by
  rw [valuedPlaces, List.mem_filter, List.mem_range]
  refine ⟨And.right, fun valued => ⟨?_, valued⟩⟩
  by_contra beyond
  rw [valueAt, List.getElem?_eq_none (Nat.le_of_not_lt beyond)] at valued
  cases valued

theorem placesByTrial_eq (record : ExperimentRecord R) (baseline candidate : BranchId)
    (metric : MetricId) : record.placesByTrial baseline candidate metric =
      ((record.valuedPlaces baseline metric).filter
        (· ∈ record.valuedPlaces candidate metric)).map fun place => (place, place) := by
  have onBaseline : record.valuedPlaces baseline metric =
      (List.range (record.authoritativeTrials baseline).length).filter fun place =>
        (record.valueAt baseline metric place).isSome := rfl
  rw [placesByTrial, onBaseline, List.filter_filter]
  congr 2
  funext place
  exact Bool.eq_iff_iff.mpr (by simp [mem_valuedPlaces, and_comm])

end ExperimentRecord

/-! ## The values of an aggregate -/

/-- The raw values of an aggregate are the values of the trials that have one. -/
theorem aggregateOn_rawValues (record : ExperimentRecord R) (branch : BranchDefinition)
    (metric : MetricDefinition R) : (record.aggregateOn branch metric).rawValues =
      (record.authoritativeTrials branch.id).filterMap (record.trialValue metric.id) := by
  unfold ExperimentRecord.aggregateOn aggregate
  dsimp only
  rw [aggregate_observed, List.filterMap_filterMap]
  rfl

/-- A present aggregate of a branch holds the values and the order of its trials. -/
theorem presentAggregate_values {record : ExperimentRecord R} {branch : BranchId} {metric : MetricId}
    {found : MetricAggregate R}
    (held : presentAggregate (evidenceOf record.computeEvidence branch) metric = some found) :
    found.trialOrder = (record.authoritativeTrials branch).map (·.id.toText) ∧
      found.rawValues.map some =
        (record.valuedPlaces branch metric).map (record.valueAt branch metric) := by
  obtain ⟨evidence, lookup, kept⟩ := Option.bind_eq_some_iff.mp (Option.filter_eq_some_iff.mp held).1
  obtain ⟨definition, _, rfl⟩ :=
    List.mem_map.mp (List.mem_reverse.mp (List.mem_of_find?_eq_some lookup))
  have named := List.find?_some lookup
  obtain rfl : definition.id = branch := of_decide_eq_true named
  obtain ⟨declared, _, rfl⟩ := List.mem_map.mp (List.mem_of_find?_eq_some kept)
  have measured := List.find?_some kept
  obtain rfl : declared.id = metric := of_decide_eq_true measured
  refine ⟨rfl, ?_⟩
  have values := aggregateOn_rawValues record definition declared
  exact (congrArg (List.map some) values).trans (filterMap_eq_places _ _)

/-- A majority comparison pairs the trials of two branches place by place exactly when the trials
with a value on one branch are the first ones of those on the other. -/
theorem majority_pairs_iff (record : ExperimentRecord R) {baseline candidate : BranchId}
    {metric : MetricId} {onBaseline onCandidate : MetricAggregate R}
    (baselineHeld : presentAggregate (evidenceOf record.computeEvidence baseline) metric =
      some onBaseline)
    (candidateHeld : presentAggregate (evidenceOf record.computeEvidence candidate) metric =
      some onCandidate) :
    ((onBaseline.rawValues.zip onCandidate.rawValues).map fun pair => (some pair.1, some pair.2)) =
        ((record.comparedPlaces baseline candidate metric).map fun pair =>
          (record.valueAt baseline metric pair.1, record.valueAt candidate metric pair.2)) ∧
      (record.comparedPlaces baseline candidate metric =
          record.placesByTrial baseline candidate metric ↔
        record.valuedPlaces baseline metric <+: record.valuedPlaces candidate metric ∨
          record.valuedPlaces candidate metric <+: record.valuedPlaces baseline metric) := by
  constructor
  · have paired := congrArg₂ List.zip (presentAggregate_values baselineHeld).2
      (presentAggregate_values candidateHeld).2
    rw [List.zip_map, List.zip_map] at paired
    exact paired
  · rw [record.placesByTrial_eq]
    exact zip_eq_common_iff ((List.nodup_range).filter _)

namespace Sample

/-- Two trials of each branch, and a rule that asks for a majority of the pairs. -/
def pairedSpec : ExperimentSpec ℚ :=
  { spec with
    branches := [{ name := text "baseline", role := .baseline, plannedTrials := 2 },
      { name := text "candidate", plannedTrials := 2 }]
    rules := [{ metric := text "latency", op := .majorityWins, threshold := 1, targetLow := 0,
                targetHigh := 0 }] }

/-- Publish and commit the trial with the attempt of the same number. -/
def reportAs (number : Nat) (branch : BranchId) (validity : ObservationValidity) (value : ℚ) :
    List (Request ℚ × Option SaveFault) :=
  [(.publishObservation ⟨coordinator.epoch, worker, boot, { observation with
      id := ⟨number⟩, branch, trial := ⟨number⟩, attempt := ⟨number⟩, validity,
      value := { real := value } }⟩, none),
    (.commitTrial { epoch := coordinator.epoch, worker, boot, envelope := { envelope with
      branch, trial := ⟨number⟩, attempt := ⟨number⟩ } }, none)]

/-- Two trials of each branch; the first trial of the candidate misses the metric. -/
def misaligned (first : ObservationValidity) : Coordinator ℚ :=
  coordinator.session ([(.createExperiment pairedSpec, none),
    (.createTrial experiment baseline [], none), (.createTrial experiment baseline [], none),
    (.createTrial experiment candidate [], none), (.createTrial experiment candidate [], none),
    (.registerWorker { worker, boot, maxConcurrentAssignments := 4 }, none),
    (.claimTrials { epoch := coordinator.epoch, worker, boot, maxClaims := 4 }, none)] ++
    reportAs 1 baseline .valid 3 ++ reportAs 2 baseline .valid 1 ++
    reportAs 3 candidate first 2 ++ reportAs 4 candidate .valid 2)

end Sample

/-- With every value present, the trials of the sample are paired in order. -/
theorem majority_pairs_sample : ∃ record onBaseline onCandidate,
    (Sample.misaligned .valid).findExperiment Sample.experiment = some record ∧
      presentAggregate (evidenceOf record.computeEvidence Sample.baseline) ⟨1⟩ = some onBaseline ∧
      presentAggregate (evidenceOf record.computeEvidence Sample.candidate) ⟨1⟩ =
        some onCandidate ∧
      record.comparedPlaces Sample.baseline Sample.candidate ⟨1⟩ =
        record.placesByTrial Sample.baseline Sample.candidate ⟨1⟩ := by
  have facts : ((Sample.misaligned .valid).findExperiment Sample.experiment).any (fun record =>
      (presentAggregate (evidenceOf record.computeEvidence Sample.baseline) ⟨1⟩).isSome &&
        ((presentAggregate (evidenceOf record.computeEvidence Sample.candidate) ⟨1⟩).isSome &&
          (record.valuedPlaces Sample.baseline ⟨1⟩ = [0, 1] &&
            record.valuedPlaces Sample.candidate ⟨1⟩ = [0, 1]))) = true := by decide +kernel
  obtain ⟨record, found, facts⟩ := (Option.any_eq_true _ _).mp facts
  simp only [Bool.and_eq_true, decide_eq_true_eq] at facts
  obtain ⟨baselineHeld, candidateHeld, baselinePlaces, candidatePlaces⟩ := facts
  obtain ⟨onBaseline, baselineHeld⟩ := Option.isSome_iff_exists.mp baselineHeld
  obtain ⟨onCandidate, candidateHeld⟩ := Option.isSome_iff_exists.mp candidateHeld
  refine ⟨record, onBaseline, onCandidate, found, baselineHeld, candidateHeld,
    (majority_pairs_iff record baselineHeld candidateHeld).2.mpr (.inl ?_)⟩
  rw [baselinePlaces, candidatePlaces]

/-- The values a majority comparison of the two branches pairs. -/
def Sample.pairedValues (record : ExperimentRecord ℚ) : Option (List (ℚ × ℚ)) := do
  let onBaseline ← presentAggregate (evidenceOf record.computeEvidence baseline) ⟨1⟩
  let onCandidate ← presentAggregate (evidenceOf record.computeEvidence candidate) ⟨1⟩
  return onBaseline.rawValues.zip onCandidate.rawValues

/-- Without a value on the first trial of the candidate, its second trial is compared with the first
trial of the baseline. -/
theorem majority_pairs_misaligned : ∃ record,
    (World.running (Sample.misaligned .missing)).Reachable Sample.config.statePath ∧
      (Sample.misaligned .missing).findExperiment Sample.experiment = some record ∧
      Sample.pairedValues record = some [(3, 2)] ∧
      record.comparedPlaces Sample.baseline Sample.candidate ⟨1⟩ = [(0, 1)] ∧
      record.placesByTrial Sample.baseline Sample.candidate ⟨1⟩ = [(1, 1)] ∧
      record.valueAt Sample.baseline ⟨1⟩ 1 = some 1 ∧
      record.valueAt Sample.candidate ⟨1⟩ 1 = some 2 := by
  have facts : ((Sample.misaligned .missing).findExperiment Sample.experiment).any (fun record =>
      Sample.pairedValues record = some [(3, 2)] &&
        (record.comparedPlaces Sample.baseline Sample.candidate ⟨1⟩ = [(0, 1)] &&
          (record.placesByTrial Sample.baseline Sample.candidate ⟨1⟩ = [(1, 1)] &&
            (record.valueAt Sample.baseline ⟨1⟩ 1 = some 1 &&
              record.valueAt Sample.candidate ⟨1⟩ 1 = some 2)))) = true := by
    decide +kernel
  obtain ⟨record, found, facts⟩ := (Option.any_eq_true _ _).mp facts
  simp only [Bool.and_eq_true, decide_eq_true_eq] at facts
  exact ⟨record, Sample.coordinator_reachable.session _, found, facts⟩

end ExperimentFabric
