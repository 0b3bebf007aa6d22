import ExperimentFabric.Presence

/-!
# Stored measurements

Every valid observation of a reachable state names a metric of its experiment, has a value that the
metric admits, and is the only valid observation of its attempt for that metric.
-/

namespace ExperimentFabric

open Lib

variable {R : Type} [MetricReal R]

/-! ## Values that a metric admits -/

/-- Finite metric values stand for numbers and compare as these do, and the conversion of an integer
up to `2 ^ 53` is exact. -/
structure Represents (number : R → ℚ) : Prop where
  lt_iff : ∀ left right : R, MetricReal.isFinite left = true → MetricReal.isFinite right = true →
    (MetricReal.lt left right = true ↔ number left < number right)
  finite : ∀ value : Int, |value| ≤ 2 ^ 53 → MetricReal.isFinite (MetricReal.ofInt value : R) = true
  exact_ofInt : ∀ value : Int, |value| ≤ 2 ^ 53 → number (MetricReal.ofInt value) = value

namespace MetricDefinition

/-- A number within the finite validity bounds of a metric. -/
structure Bounds (number : R → ℚ) (metric : MetricDefinition R) (value : ℚ) : Prop where
  lower : ∀ bound, metric.lowerBound = some bound → MetricReal.isFinite bound = true →
    number bound ≤ value
  upper : ∀ bound, metric.upperBound = some bound → MetricReal.isFinite bound = true →
    value ≤ number bound

/-- A value of the kind of a metric that respects what the metric declares. -/
structure WellFormed (number : R → ℚ) (metric : MetricDefinition R) (value : MetricValue R) :
    Prop where
  kind : value.kind = metric.kind
  finite : metric.acceptsNonFinite = false → isFiniteValue value = true
  real : value.kind = .real → MetricReal.isFinite value.real = true →
    metric.Bounds number (number value.real)
  integer : value.kind = .integer → |value.integer| ≤ 2 ^ 53 → metric.Bounds number value.integer
  category : metric.kind = .categorical → metric.categories ≠ [] →
    value.category ∈ metric.categories

variable {number : R → ℚ} {metric : MetricDefinition R}

/-- The comparisons that the runtime makes with the bounds place a finite value within them. -/
theorem bounds_of_lt (represents : Represents number) {value : R}
    (finite : MetricReal.isFinite value = true)
    (lower : metric.lowerBound.all (fun bound => !MetricReal.lt value bound) = true)
    (upper : metric.upperBound.all (fun bound => !MetricReal.lt bound value) = true) :
    metric.Bounds number (number value) := by
  simp only [Option.all_eq_true, Bool.not_eq_true'] at lower upper
  constructor
  · intro bound declared finiteBound
    have above := represents.lt_iff value bound finite finiteBound
    rw [lower bound declared] at above
    exact not_lt.mp fun less => nomatch above.mpr less
  · intro bound declared finiteBound
    have below := represents.lt_iff bound value finiteBound finite
    rw [upper bound declared] at below
    exact not_lt.mp fun less => nomatch below.mpr less

theorem wellFormed_of_checkValue (represents : Represents number) {value : MetricValue R}
    (checked : Coordinator.checkValue metric value = .ok ()) : metric.WellFormed number value := by
  simp only [Coordinator.checkValue, require_bind_eq_ok, decide_eq_true_eq] at checked
  obtain ⟨kind, checked⟩ := checked
  cases finite : isFiniteValue value with
  | false =>
      simp only [finite, Bool.not_false, if_true, require_eq_ok] at checked
      -- Only a real value can fail to be finite.
      have real : value.kind = .real ∧ MetricReal.isFinite value.real = false := by
        unfold isFiniteValue at finite
        split at finite
        · exact ⟨‹_›, finite⟩
        all_goals cases finite
      constructor
      · exact kind
      · intro refuses
        cases refuses.symm.trans checked
      · intro _ number
        cases real.2.symm.trans number
      · intro integer
        cases real.1.symm.trans integer
      · intro categorical
        cases real.1.symm.trans (kind.trans categorical)
  | true =>
      simp only [finite, Bool.not_true, Bool.false_eq_true, if_false] at checked
      cases kinds : value.kind with
      | real =>
          simp only [kinds, require_bind_eq_ok, require_eq_ok] at checked
          constructor
          · exact kind
          · exact fun _ => finite
          · exact fun _ finiteReal => bounds_of_lt represents finiteReal checked.1 checked.2
          · intro integer
            cases kinds.symm.trans integer
          · intro categorical
            cases kinds.symm.trans (kind.trans categorical)
      | integer =>
          simp only [kinds, require_bind_eq_ok, require_eq_ok] at checked
          constructor
          · exact kind
          · exact fun _ => finite
          · intro real
            cases kinds.symm.trans real
          · intro _ small
            rw [← represents.exact_ofInt value.integer small]
            exact bounds_of_lt represents (represents.finite value.integer small) checked.1
              checked.2
          · intro categorical
            cases kinds.symm.trans (kind.trans categorical)
      | categorical =>
          simp only [kinds, require_eq_ok, Bool.or_eq_true, List.isEmpty_iff,
            decide_eq_true_eq] at checked
          constructor
          · exact kind
          · exact fun _ => finite
          · intro real
            cases kinds.symm.trans real
          · intro integer
            cases kinds.symm.trans integer
          · exact fun _ declared => checked.resolve_left declared
      | boolean =>
          constructor
          · exact kind
          · exact fun _ => finite
          · intro real
            cases kinds.symm.trans real
          · intro integer
            cases kinds.symm.trans integer
          · intro categorical
            cases kinds.symm.trans (kind.trans categorical)

end MetricDefinition

/-! ## Throughout every run -/

/-- The runtime has checked the values of all valid observations. -/
def ExperimentRecord.Checked (record : ExperimentRecord R) : Prop :=
  ∀ observation ∈ record.observations, observation.validity = .valid →
    ∃ metric, record.findMetric observation.metric = some metric ∧
      Coordinator.checkValue metric observation.value = .ok ()

theorem ExperimentRecord.Checked.ofSame {record after : ExperimentRecord R}
    (checked : record.Checked) (metrics : after.definition.metrics = record.definition.metrics)
    (observations : after.observations = record.observations) : after.Checked := by
  unfold ExperimentRecord.Checked ExperimentRecord.findMetric
  rw [metrics, observations]
  exact checked

variable [CanonicalDigests R]

theorem Effect.checked {c : Coordinator R} {experiment : ExperimentId}
    {record after : ExperimentRecord R} {marks : Watermarks} {request : Request R}
    (effect : Effect c experiment record marks request after) (checked : record.Checked) :
    after.Checked := by
  intro observation member valid
  have same : after.findMetric observation.metric = record.findMetric observation.metric := by
    rw [ExperimentRecord.findMetric, effect.metrics]
    rfl
  rw [same]
  rcases effect.observing.mem member with before | added
  · exact checked observation before valid
  · obtain ⟨submitted, sequence, rfl, admission⟩ := added valid
    have admissible := Coordinator.admitObservation_checked admission valid
    exact admissible

theorem checked_invariant :
    RecordInvariant (fun _ _ => True) (ExperimentRecord.Checked : ExperimentRecord R → Prop) where
  logged := fun checked => checked.ofSame rfl rfl
  created := by
    intro spec limits marks expected branches record sequence _ _ defined _ observation member
    rw [defined] at member
    exact nomatch member
  changed := fun _ effect _ checked => effect.checked checked
  added := fun _ checked => checked.ofSame rfl rfl
  issued := fun _ _ _ _ _ checked => checked.ofSame rfl rfl
  lost := by
    intro record marks worker boot kind attemptDetail trialDetail line sequence _ checked
    refine checked.ofSame ?_ (loseWorker_observations ..)
    exact congrArg ExperimentDefinition.metrics (loseWorker_fields ..).2
  staged := by
    intro record sequence checked
    apply checked.ofSame <;> rw [stage_forget_fields record sequence] <;> rfl
  recovered := by
    intro image config outcomes id record after _ _ same _ checked
    have definition := congrArg (fun forgotten => forgotten.definition.metrics) same
    have observations := congrArg ExperimentRecord.observations same
    exact checked.ofSame definition observations

omit [MetricReal R] [CanonicalDigests R] in
/-- The observations of a record have at most one valid one in each cell. -/
theorem ExperimentRecord.ObservedOnce.position_eq {record : ExperimentRecord R}
    (once : record.ObservedOnce) {position other : Nat} {observation twin : Observation R}
    (stored : record.observations[position]? = some observation)
    (second : record.observations[other]? = some twin) (valid : observation.validity = .valid)
    (same : Coordinator.sameAttemptCell observation twin = true) : other = position := by
  have twinValid : twin.validity = .valid := by
    simp only [Coordinator.sameAttemptCell, Bool.and_eq_true, decide_eq_true_eq] at same
    exact same.2
  have back : Coordinator.sameAttemptCell twin observation = true := by
    simp only [Coordinator.sameAttemptCell, Bool.and_eq_true, decide_eq_true_eq] at same ⊢
    exact ⟨⟨⟨same.1.1.1.symm, same.1.1.2.symm⟩, same.1.2.symm⟩, valid⟩
  obtain ⟨inside, held⟩ := List.getElem?_eq_some_iff.mp stored
  obtain ⟨inside', held'⟩ := List.getElem?_eq_some_iff.mp second
  have pairwise := List.pairwise_iff_getElem.mp once
  rcases lt_trichotomy other position with before | equal | after
  · have apart := pairwise other position inside' inside before
    rw [held, held', same] at apart
    cases apart valid
  · exact equal
  · have apart := pairwise position other inside inside' after
    rw [held, held', back] at apart
    cases apart twinValid

/-- In every reachable state, a valid observation has a value that its metric admits, and no other
valid observation has its trial, attempt and metric. -/
theorem valid_observations_wellFormed {number : R → ℚ} (represents : Represents number)
    {path : Text} {c : Coordinator R} (reachable : (World.running c).Reachable path)
    {experiment : ExperimentId} {record : ExperimentRecord R}
    (found : c.findExperiment experiment = some record) {position : Nat}
    {observation : Observation R} (stored : record.observations[position]? = some observation)
    (valid : observation.validity = .valid) :
    (∃ metric, record.findMetric observation.metric = some metric ∧
        metric.WellFormed number observation.value) ∧
      ∀ other twin, record.observations[other]? = some twin → twin.validity = .valid →
        twin.trial = observation.trial → twin.attempt = observation.attempt →
          twin.metric = observation.metric → other = position := by
  have checked : record.Checked :=
    (reachable.holds checked_invariant.durable).1 experiment record found
  have once : record.ObservedOnce :=
    (reachable.holds observedOnce_invariant.durable).1 experiment record found
  constructor
  · obtain ⟨metric, named, admissible⟩ :=
      checked observation (List.mem_of_getElem? stored) valid
    exact ⟨metric, named, MetricDefinition.wellFormed_of_checkValue represents admissible⟩
  · intro other twin second twinValid trial attempt metric
    refine once.position_eq stored second valid ?_
    simp [Coordinator.sameAttemptCell, trial, attempt, metric, twinValid]

namespace Sample

/-- A metric with bounds that also declares categories, although it is real. -/
def boundedSpec : ExperimentSpec ℚ :=
  { spec with
    metrics := [{ name := text "latency", lowerBound := some 0, upperBound := some 2,
                  categories := [text "fast"] }] }

/-- The trial of the candidate reports a value within the bounds. -/
def bounded : Coordinator ℚ :=
  coordinator.session [(.createExperiment boundedSpec, none),
    (.createTrial experiment candidate [], none), (.registerWorker { worker, boot }, none),
    (.claimTrials { epoch := coordinator.epoch, worker, boot }, none),
    (.publishObservation { epoch := coordinator.epoch, worker, boot, observation }, none)]

theorem bounded_reachable : (World.running bounded).Reachable config.statePath :=
  coordinator_reachable.session _

/-- Rational metric values stand for themselves. -/
theorem represents_id : Represents (id : ℚ → ℚ) where
  lt_iff := fun _ _ _ _ => decide_eq_true_iff
  finite := fun _ _ => rfl
  exact_ofInt := fun _ _ => rfl

end Sample

/-- The observation of the sample lies within the bounds of its metric. -/
theorem valid_observations_wellFormed_sample : ∃ record observation metric,
    Sample.bounded.findExperiment Sample.experiment = some record ∧
      record.observations[0]? = some observation ∧
        record.findMetric observation.metric = some metric ∧
          metric.WellFormed id observation.value := by
  have facts : (Sample.bounded.findExperiment Sample.experiment).any (fun record =>
      (record.observations[0]?).any fun observation => observation.validity = .valid) = true := by
    decide +kernel
  obtain ⟨record, found, facts⟩ := (Option.any_eq_true _ _).mp facts
  obtain ⟨observation, stored, valid⟩ := (Option.any_eq_true _ _).mp facts
  obtain ⟨⟨metric, named, wellFormed⟩, -⟩ := valid_observations_wellFormed Sample.represents_id
    Sample.bounded_reachable found stored (of_decide_eq_true valid)
  exact ⟨record, observation, metric, found, stored, named, wellFormed⟩

/-- A valid real observation has no declared category, although its metric declares categories. -/
theorem real_metric_declares_categories : ∃ record observation metric,
    (World.running Sample.bounded).Reachable Sample.config.statePath ∧
      Sample.bounded.findExperiment Sample.experiment = some record ∧
      observation ∈ record.observations ∧ observation.validity = .valid ∧
      record.findMetric observation.metric = some metric ∧ metric.kind = .real ∧
      metric.categories ≠ [] ∧ observation.value.category ∉ metric.categories := by
  have facts : (Sample.bounded.findExperiment Sample.experiment).any (fun record =>
      record.observations.any fun observation =>
        (record.findMetric observation.metric).any fun metric =>
          decide (observation.validity = .valid ∧ metric.kind = .real ∧ metric.categories ≠ [] ∧
            observation.value.category ∉ metric.categories)) = true := by decide +kernel
  obtain ⟨record, found, facts⟩ := (Option.any_eq_true _ _).mp facts
  obtain ⟨observation, member, facts⟩ := List.any_eq_true.mp facts
  obtain ⟨metric, named, facts⟩ := (Option.any_eq_true _ _).mp facts
  obtain ⟨valid, real, declares, outside⟩ := of_decide_eq_true facts
  exact ⟨record, observation, metric, Sample.bounded_reachable, found, member, valid, named, real,
    declares, outside⟩

end ExperimentFabric
