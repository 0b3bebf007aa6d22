import ExperimentFabric.Aggregation
import ExperimentFabric.Schedule

/-!
# Presence of aggregates

Every valid observation of a reachable state has a value of the kind of its metric, so an aggregate
is present as soon as it counts a valid observation, except for the majority of a boolean metric.
-/

namespace ExperimentFabric

open Lib

variable {R : Type}

/-- The metrics are distinct and admitted, and valid observations have values of their kinds. -/
structure ExperimentRecord.Measured (record : ExperimentRecord R) : Prop where
  admitted : ∀ metric ∈ record.definition.metrics, metric.Admitted
  distinct : (record.definition.metrics.map MetricDefinition.id).Nodup
  kinds : ∀ observation ∈ record.observations, observation.validity = .valid →
    ∃ metric, record.findMetric observation.metric = some metric ∧
      observation.value.kind = metric.kind

/-- A change keeps the metrics, and a valid observation that it adds has a value of the kind of its
metric. -/
structure Measures (record after : ExperimentRecord R) : Prop where
  metrics : after.definition.metrics = record.definition.metrics
  observations : ∀ observation ∈ after.observations, observation ∈ record.observations ∨
    (observation.validity = .valid → ∃ metric, record.findMetric observation.metric = some metric ∧
      observation.value.kind = metric.kind)

theorem Measures.ofSame {record after : ExperimentRecord R}
    (metrics : after.definition.metrics = record.definition.metrics)
    (observations : after.observations = record.observations) : Measures record after :=
  ⟨metrics, fun _ member => .inl (observations ▸ member)⟩

theorem Measures.measured {record after : ExperimentRecord R} (measures : Measures record after)
    (measured : record.Measured) : after.Measured where
  admitted := by
    rw [measures.metrics]
    exact measured.admitted
  distinct := by
    rw [measures.metrics]
    exact measured.distinct
  kinds := by
    intro observation member valid
    have same : after.findMetric observation.metric = record.findMetric observation.metric := by
      rw [ExperimentRecord.findMetric, measures.metrics]
      rfl
    rw [same]
    rcases measures.observations observation member with before | added
    · exact measured.kinds observation before valid
    · exact added valid

section Steps

variable [MetricReal R] [CanonicalDigests R]

theorem Effect.measures {c : Coordinator R} {experiment : ExperimentId}
    {record after : ExperimentRecord R} {marks : Watermarks} {request : Request R}
    (effect : Effect c experiment record marks request after) : Measures record after := by
  refine ⟨effect.metrics, fun observation member => ?_⟩
  rcases effect.observing.mem member with before | added
  · exact .inl before
  · refine .inr fun valid => ?_
    obtain ⟨submitted, sequence, rfl, admission⟩ := added valid
    have kind := Coordinator.admitObservation_kind admission valid
    exact kind

omit [CanonicalDigests R] in
theorem validateExperimentRecord_metrics {record : ExperimentRecord R} {limits : Limits}
    {id : ExperimentId} (valid : validateExperimentRecord record limits id = .ok ()) :
    (∀ metric ∈ record.definition.metrics, metric.Admitted) ∧
      (record.definition.metrics.map MetricDefinition.id).Nodup := by
  simp only [validateExperimentRecord, Validation.validateDefinition, Validation.validateMetrics,
    sequence_cons_eq_ok, require_eq_ok, scan_eq_ok, decide_eq_true_eq] at valid
  obtain ⟨⟨-, -, -, -, -, -, -, -, ⟨-, metrics, -⟩, -⟩, -⟩ := valid
  constructor
  · intro metric member
    obtain ⟨front, back, split⟩ := List.append_of_mem member
    obtain ⟨-, -, -, -, categories, numbers, -⟩ := metrics front metric back split
    simp only [Bool.not_eq_true', Bool.and_eq_false_iff, Bool.or_eq_false_iff,
      decide_eq_false_iff_not, not_not] at categories numbers
    constructor
    · intro categorical
      rcases categories with (apart | majority) | none
      · exact absurd categorical apart
      · exact .inl majority
      · exact .inr none
    · rintro (real | integer)
      · exact numbers.resolve_left fun apart => apart.1 real
      · exact numbers.resolve_left fun apart => apart.2 integer
  · exact (forall_split_iff_nodup _ _).mp fun front metric back split =>
      (metrics front metric back split).2.1

theorem measured_invariant :
    RecordInvariant (fun _ _ => True) (ExperimentRecord.Measured : ExperimentRecord R → Prop) where
  logged := by
    intro record line measured
    have same : Measures record (record.log line) := .ofSame rfl rfl
    exact same.measured measured
  created := by
    intro spec limits marks expected branches record sequence _ _ defined valid
    obtain ⟨admitted, distinct⟩ := validateExperimentRecord_metrics valid
    refine ⟨admitted, distinct, fun observation member => ?_⟩
    rw [defined] at member
    exact nomatch member
  changed := fun _ effect _ measured => effect.measures.measured measured
  added := by
    intro c experiment branchId payload record branch _ measured
    have same : Measures record (record.addTrial (record.newTrial experiment branch
      ⟨c.state.watermarks.trial + 1⟩ payload (c.currentSequence + 1))) := .ofSame rfl rfl
    exact same.measured measured
  issued := by
    intro record limits key trial branch marks id worker boot epoch producer sequence _ _ _ _ _
      measured
    have same : Measures record (record.issue key
      (record.newAttempt trial id worker boot epoch producer sequence) sequence) := .ofSame rfl rfl
    exact same.measured measured
  lost := by
    intro record marks worker boot kind attemptDetail trialDetail line sequence _ measured
    refine Measures.measured (.ofSame ?_ (loseWorker_observations ..)) measured
    exact congrArg ExperimentDefinition.metrics (loseWorker_fields ..).2
  staged := by
    intro record sequence measured
    refine Measures.measured (.ofSame ?_ ?_) measured <;>
      rw [stage_forget_fields record sequence] <;> rfl
  recovered := by
    intro image config outcomes id record after _ _ same _ measured
    have definition : after.definition.metrics = record.definition.metrics :=
      congrArg (fun forgotten => forgotten.definition.metrics) same
    have observations : after.observations = record.observations :=
      congrArg (fun forgotten => forgotten.observations) same
    exact Measures.measured (.ofSame definition observations) measured

end Steps

/-! ## Presence -/

/-- Valid observations of a metric have values of its kind. -/
theorem ExperimentRecord.Measured.kind {record : ExperimentRecord R} (measured : record.Measured)
    {metric : MetricDefinition R} (declared : metric ∈ record.definition.metrics)
    {trial : TrialRecord} {observation : Observation R}
    (observed : record.validObservation metric.id trial = some observation) :
    observation.value.kind = metric.kind := by
  have valid := List.find?_some observed
  obtain ⟨member, inside⟩ := List.mem_filter.mp (List.mem_of_find?_eq_some observed)
  have named : observation.metric = metric.id :=
    of_decide_eq_true (Bool.and_eq_true_iff.mp inside).2
  obtain ⟨found, lookup, kind⟩ := measured.kinds observation member (of_decide_eq_true valid)
  have same : found.id = observation.metric := by
    have chosen := List.find?_some lookup
    exact of_decide_eq_true chosen
  rw [kind, List.inj_on_of_nodup_map measured.distinct (List.mem_of_find?_eq_some lookup) declared
    (same.trans named)]

/-- Selecting from entries that are all kept keeps one exactly when there is one. -/
theorem filterMap_isEmpty {α β : Type} {list : List α} {f : α → Option β}
    (kept : ∀ entry ∈ list, (f entry).isSome = true) : (list.filterMap f).isEmpty = list.isEmpty := by
  cases list with
  | nil => rfl
  | cons first rest =>
      obtain ⟨value, here⟩ := Option.isSome_iff_exists.mp (kept first List.mem_cons_self)
      rw [List.filterMap_cons, here]
      rfl

/-- The valid observations of the authoritative trials of a branch. -/
def ExperimentRecord.validObservations (record : ExperimentRecord R) (branch : BranchId)
    (metric : MetricId) : List (Observation R) :=
  (record.authoritativeTrials branch).filterMap (record.validObservation metric)

theorem validObservations_eq_nil {record : ExperimentRecord R} {branch : BranchId}
    {metric : MetricId} : record.validObservations branch metric = [] ↔
      ∀ trial ∈ record.authoritativeTrials branch, record.reports metric .valid trial = false := by
  rw [ExperimentRecord.validObservations, List.filterMap_eq_nil_iff]
  refine forall₂_congr fun trial _ => ?_
  rw [← record.validObservation_isSome, ← Option.isNone_iff_eq_none, Option.isSome_eq_false_iff]

/-- An aggregate of observations of the kind of its metric is present when there is one, unless it is
the majority of a boolean metric. -/
theorem aggregate_present_eq [MetricReal R] {metric : MetricDefinition R}
    (admitted : metric.Admitted) (trials : List TrialRecord)
    {summaries : List (Option (ObservationSummary R))}
    (kinds : ∀ observation ∈ (summaries.filterMap id).filterMap ObservationSummary.valid,
      observation.value.kind = metric.kind) :
    (aggregate metric trials summaries).present =
      (!((summaries.filterMap id).filterMap ObservationSummary.valid).isEmpty &&
        !(metric.kind = .boolean && metric.aggregation = .majority)) := by
  unfold aggregate
  dsimp only
  generalize (summaries.filterMap id).filterMap ObservationSummary.valid = observed at kinds ⊢
  have numbers : metric.kind ≠ .categorical →
      (observed.filterMap (numericValue ·.value)).isEmpty = observed.isEmpty := by
    intro kind
    refine filterMap_isEmpty fun observation member => ?_
    unfold numericValue
    split
    · rfl
    · rfl
    · rfl
    · rename_i categorical
      exact absurd ((kinds observation member).symm.trans categorical) kind
  cases kind : metric.kind with
  | categorical =>
      have categories : (observed.filterMap (categoryValue ·.value)).isEmpty = observed.isEmpty :=
        filterMap_isEmpty fun observation member => by
          simp [categoryValue, (kinds observation member).trans kind]
      rw [if_pos (by simp), ← categories]
      cases named : observed.filterMap (categoryValue ·.value) with
      | nil => rfl
      | cons first rest =>
          have counted := (majorityCategory_mode (List.cons_ne_nil first rest)).1
          simpa using counted
  | boolean =>
      rw [kind] at numbers
      by_cases majority : metric.aggregation = .majority
      · have none : observed.filterMap (categoryValue ·.value) = [] := by
          rw [List.filterMap_eq_nil_iff]
          intro observation member
          simp [categoryValue, (kinds observation member).trans kind]
        rw [if_pos (by simp [majority]), none]
        simp [majority]
        rfl
      · rw [if_neg (by simp [majority]), numbers (by decide)]
        simp [majority]
  | real =>
      rw [kind] at numbers
      rw [if_neg (by simp [admitted.numeric (.inl kind)]), numbers (by decide)]
      simp
  | integer =>
      rw [kind] at numbers
      rw [if_neg (by simp [admitted.numeric (.inr kind)]), numbers (by decide)]
      simp

/-- In every reachable state, an aggregate is present exactly when it counts a valid observation,
unless it is the majority of a boolean metric that has one. -/
theorem present_iff_valid [MetricReal R] [CanonicalDigests R] {path : Text} {c : Coordinator R}
    (reachable : (World.running c).Reachable path) {experiment : ExperimentId}
    {record : ExperimentRecord R} (found : c.findExperiment experiment = some record)
    (branch : BranchDefinition) {metric : MetricDefinition R}
    (declared : metric ∈ record.definition.metrics) :
    ((record.aggregateOn branch metric).present = true ↔
        0 < (record.aggregateOn branch metric).validCount) ↔
      (metric.kind = .boolean → metric.aggregation = .majority →
        ∀ trial ∈ record.authoritativeTrials branch.id,
          record.reports metric.id .valid trial = false) := by
  have upheld := reachable.holds measured_invariant.durable
  have measured : record.Measured := upheld.1 experiment record found
  have observed := aggregate_observed record metric.id (record.authoritativeTrials branch.id)
  have kinds : ∀ observation ∈ ((record.trialSummaries branch.id metric.id).filterMap
      id).filterMap ObservationSummary.valid, observation.value.kind = metric.kind := by
    intro observation member
    rw [ExperimentRecord.trialSummaries, observed] at member
    obtain ⟨trial, _, held⟩ := List.mem_filterMap.mp member
    exact measured.kind declared held
  have present : (record.aggregateOn branch metric).present =
      (!(record.validObservations branch.id metric.id).isEmpty &&
        !(metric.kind = .boolean && metric.aggregation = .majority)) := by
    have each := aggregate_present_eq (measured.admitted metric declared)
      (record.authoritativeTrials branch.id) kinds
    rw [ExperimentRecord.trialSummaries, observed] at each
    exact each
  have counted : 0 < (record.aggregateOn branch metric).validCount ↔
      record.validObservations branch.id metric.id ≠ [] := by
    have count : (record.aggregateOn branch metric).validCount =
        (record.validObservations branch.id metric.id).length := congrArg List.length observed
    rw [count, List.length_pos_iff]
  rw [present, counted, ← validObservations_eq_nil, Bool.and_eq_true, Bool.not_eq_true',
    List.isEmpty_eq_false_iff]
  by_cases empty : record.validObservations branch.id metric.id = []
  · simp [empty]
  · simp only [ne_eq, empty, not_false_eq_true, true_and, iff_true, imp_false]
    simp [imp_iff_not_or]

namespace Sample

/-- A boolean metric that is aggregated by majority. -/
def booleanSpec : ExperimentSpec ℚ :=
  { spec with metrics := [{ name := text "latency", kind := .boolean, aggregation := .majority }] }

/-- The trial of the candidate reports a boolean value. -/
def affirmed : Coordinator ℚ :=
  coordinator.session [(.createExperiment booleanSpec, none),
    (.createTrial experiment candidate [], none), (.registerWorker { worker, boot }, none),
    (.claimTrials { epoch := coordinator.epoch, worker, boot }, none),
    (.publishObservation ⟨coordinator.epoch, worker, boot, { observation with
      value := { kind := .boolean, boolean := true, real := 0 } }⟩, none),
    (.commitTrial { epoch := coordinator.epoch, worker, boot, envelope }, none)]

end Sample

/-- The aggregate of the sample metric is present with its valid observation. -/
theorem present_iff_valid_sample : ∃ record branch metric,
    Sample.committed.findExperiment Sample.experiment = some record ∧
      record.findBranch Sample.candidate = some branch ∧ metric ∈ record.definition.metrics ∧
      (record.aggregateOn branch metric).validCount = 1 ∧
      ((record.aggregateOn branch metric).present = true ↔
        0 < (record.aggregateOn branch metric).validCount) := by
  have facts : (Sample.committed.findExperiment Sample.experiment).any (fun record =>
      (record.findBranch Sample.candidate).any fun branch =>
        record.definition.metrics.any fun metric => metric.kind = .real &&
          (record.aggregateOn branch metric).validCount = 1) = true := by decide +kernel
  obtain ⟨record, found, facts⟩ := (Option.any_eq_true _ _).mp facts
  obtain ⟨branch, held, facts⟩ := (Option.any_eq_true _ _).mp facts
  obtain ⟨metric, declared, facts⟩ := List.any_eq_true.mp facts
  simp only [Bool.and_eq_true, decide_eq_true_eq] at facts
  have present := present_iff_valid Sample.committed_reachable found branch declared
  refine ⟨record, branch, metric, found, held, declared, facts.2, present.mpr fun boolean => ?_⟩
  cases facts.1.symm.trans boolean

/-- The majority of a boolean metric is absent although it counts a valid observation. -/
theorem boolean_majority_absent : ∃ record branch metric,
    (World.running Sample.affirmed).Reachable Sample.config.statePath ∧
      Sample.affirmed.findExperiment Sample.experiment = some record ∧
      record.findBranch Sample.candidate = some branch ∧ metric ∈ record.definition.metrics ∧
      metric.required = true ∧ (record.aggregateOn branch metric).validCount = 1 ∧
      (record.aggregateOn branch metric).present = false := by
  have facts : (Sample.affirmed.findExperiment Sample.experiment).any (fun record =>
      (record.findBranch Sample.candidate).any fun branch =>
        record.definition.metrics.any fun metric => metric.required &&
          ((record.aggregateOn branch metric).validCount = 1 &&
            !(record.aggregateOn branch metric).present)) = true := by decide +kernel
  obtain ⟨record, found, facts⟩ := (Option.any_eq_true _ _).mp facts
  obtain ⟨branch, held, facts⟩ := (Option.any_eq_true _ _).mp facts
  obtain ⟨metric, declared, facts⟩ := List.any_eq_true.mp facts
  simp only [Bool.and_eq_true, decide_eq_true_eq, Bool.not_eq_true'] at facts
  exact ⟨record, branch, metric, Sample.coordinator_reachable.session _, found, held, declared,
    facts⟩

end ExperimentFabric
