import ExperimentFabric.Observing
import ExperimentFabric.Planning
import ExperimentFabric.StaleEvidence
import ExperimentFabric.Lib.Overlays

/-!
# Schedules

Two sessions create the same experiments and trials in the same order, and the committed attempts of
their trials published the same observations.  Their decisions then agree, in whatever order and by
whatever workers the trials were claimed, observed and committed.
-/

namespace ExperimentFabric

open Lib Relation

variable {R : Type}

/-! ## One valid observation of a metric for each attempt -/

/-- No attempt holds two valid observations of one metric. -/
def ExperimentRecord.ObservedOnce (record : ExperimentRecord R) : Prop :=
  record.observations.Pairwise fun earlier later =>
    later.validity = .valid → Coordinator.sameAttemptCell later earlier = false

/-- A change keeps the observations, or adds one that no valid one stands against. -/
inductive Observes (record after : ExperimentRecord R) : Prop where
  | nothing (same : after.observations = record.observations)
  | one (observation : Observation R)
      (added : after.observations = record.observations ++ [observation])
      (single : observation.validity = .valid → ∀ earlier ∈ record.observations,
        Coordinator.sameAttemptCell observation earlier = false)

theorem Observes.once {record after : ExperimentRecord R} (observes : Observes record after)
    (once : record.ObservedOnce) : after.ObservedOnce := by
  unfold ExperimentRecord.ObservedOnce at once ⊢
  cases observes with
  | nothing same => rwa [same]
  | one observation added single =>
      rw [added, List.pairwise_append]
      refine ⟨once, List.pairwise_singleton _ _, fun earlier member later last valid => ?_⟩
      obtain rfl := List.mem_singleton.mp last
      exact single valid earlier member

section Observed

variable [MetricReal R]

variable [CanonicalDigests R]

theorem Effect.observes {c : Coordinator R} {experiment : ExperimentId}
    {record after : ExperimentRecord R} {marks : Watermarks} {request : Request R}
    (effect : Effect c experiment record marks request after) : Observes record after := by
  cases effect.observing with
  | nothing same => exact .nothing same
  | history observation added invalid => exact .one observation added fun valid => (invalid valid).elim
  | admitted observation sequence added admission =>
      exact .one { observation with sequence := sequence } added
        (Coordinator.admitObservation_ok admission).2.single

/-- In every reachable state, no attempt holds two valid observations of one metric. -/
theorem observedOnce_invariant :
    RecordInvariant (fun _ _ => True) (ExperimentRecord.ObservedOnce : ExperimentRecord R → Prop) where
  logged := fun once => once
  created := by
    intro spec limits marks expected branches record sequence _ _ defined _
    rw [defined]
    exact List.Pairwise.nil
  changed := fun _ effect _ once => effect.observes.once once
  added := fun _ once => once
  issued := fun _ _ _ _ _ once => once
  lost := fun _ once => Observes.once (.nothing (loseWorker_observations ..)) once
  staged := by
    intro record sequence once
    refine Observes.once (.nothing ?_) once
    rw [stage_forget_fields record sequence]
    rfl
  recovered := by
    intro image config outcomes id record after _ _ same _ once
    have observations := congrArg ExperimentRecord.observations same
    exact Observes.once (.nothing observations) once

end Observed

/-! ## Reports of a cell -/

/-- The summary of a cell reports the value of its first valid observation and counts the others. -/
theorem summary_report (observations : List (Observation R)) (summary : ObservationSummary R) :
    (observations.foldl ObservationSummary.add summary).report =
      ((summary.valid.or (observations.filter (·.validity = .valid)).head?).map Observation.value,
        summary.invalid + observations.countP (·.validity = .invalid),
        summary.missing + observations.countP (·.validity = .missing),
        summary.unsupported + observations.countP (·.validity = .unsupported)) := by
  induction observations generalizing summary with
  | nil => simp [ObservationSummary.report]
  | cons first rest ih =>
      rw [List.foldl_cons, ih]
      unfold ObservationSummary.add
      cases kind : first.validity <;> cases summary.valid <;> simp [kind] <;> omega

/-- What an observation reports. -/
def Observation.report (observation : Observation R) : MetricId × ObservationValidity × MetricValue R :=
  (observation.metric, observation.validity, observation.value)

/-- Cells with the same reports, in any order, have the same summary. -/
theorem summaryOf_perm {observations observations' : List (Observation R)}
    (once : observations.countP (·.validity = .valid) ≤ 1)
    (same : (observations'.map Observation.report).Perm (observations.map Observation.report)) :
    (summaryOf observations').map ObservationSummary.report =
      (summaryOf observations).map ObservationSummary.report := by
  have counts : ∀ validity, observations'.countP (·.validity = validity) =
      observations.countP (·.validity = validity) := by
    intro validity
    have reported : ∀ all : List (Observation R), all.countP (·.validity = validity) =
        (all.map Observation.report).countP (·.2.1 = validity) := by
      intro all
      rw [List.countP_map]
      rfl
    rw [reported, reported, same.countP_eq]
  have values : (observations'.filter (·.validity = .valid)).map Observation.value =
      (observations.filter (·.validity = .valid)).map Observation.value := by
    have reported : ∀ all : List (Observation R),
        (all.filter (·.validity = .valid)).map Observation.value =
          ((all.map Observation.report).filter (·.2.1 = .valid)).map (·.2.2) := by
      intro all
      rw [List.filter_map, List.map_map]
      rfl
    have perm := (same.filter (·.2.1 = .valid)).map (·.2.2)
    rw [← reported, ← reported] at perm
    refine perm_eq_of_length_le_one ?_ perm
    rw [List.length_map, ← List.countP_eq_length_filter]
    exact once
  have length : observations'.length = observations.length := by
    have lengths := same.length_eq
    rwa [List.length_map, List.length_map] at lengths
  have summary : ∀ all : List (Observation R), (summaryOf all).map ObservationSummary.report =
      if all.length = 0 then none
      else some (((all.filter (·.validity = .valid)).map Observation.value).head?,
        all.countP (·.validity = .invalid), all.countP (·.validity = .missing),
        all.countP (·.validity = .unsupported)) := by
    intro all
    cases all with
    | nil => rfl
    | cons first rest =>
        have nonempty : (first :: rest).length ≠ 0 := by simp
        have folded := summary_report (first :: rest) {}
        rw [if_neg nonempty, summaryOf, Option.map_some, folded, List.head?_map]
        · simp
        · simp
  rw [summary, summary, length, values, counts, counts, counts]

/-! ## Trials of a plan -/

namespace ExperimentRecord

variable (record : ExperimentRecord R)

/-- The trial with an identity is completed. -/
def completed (id : TrialId) : Bool := (record.trials.find? id).any (·.state = .completed)

/-- The trial counts as evidence for a branch once it is completed. -/
def planned (branch : BranchDefinition) (trial : TrialRecord) : Bool :=
  trial.branch = branch.id && trial.generation = record.definition.generation &&
    trial.branchGeneration = branch.generation &&
    trial.hypothesisRevision = record.definition.hypothesisRevision &&
    trial.policy = record.definition.policy.id &&
    trial.policyGeneration = record.definition.policy.generation

/-- Completed trials of a plan that a condition selects. -/
def completedTrials (select : TrialRecord → Bool) : List TrialRecord :=
  record.outline.trials.values.filter fun trial => select trial && record.completed trial.id

variable {record} {marks : Watermarks} (life : Lifecycle marks record)

include life

theorem completed_eq {trial : TrialRecord} (listed : trial ∈ record.trials.values) :
    record.completed trial.id = decide (trial.state = .completed) := by
  obtain ⟨key, found⟩ := (OrderedMap.mem_values_iff _ _).mp listed
  rw [completed, (life.trial key trial found).id, found]
  rfl

theorem isAuthoritative_eq {trial : TrialRecord} (listed : trial ∈ record.trials.values)
    (branch : BranchDefinition) :
    record.isAuthoritative branch trial =
      (record.outline.planned branch.undated trial.undated && record.completed trial.id) := by
  have planned : record.outline.planned branch.undated trial.undated =
    record.planned branch trial := rfl
  obtain ⟨key, found⟩ := (OrderedMap.mem_values_iff _ _).mp listed
  have count := (life.trial key trial found).count
  rw [planned, completed_eq life listed, isAuthoritative, ExperimentRecord.planned, count]
  by_cases done : trial.state = .completed
  · simp [done]
  · simp [done]

omit life in
/-- Selected completed trials are those of the plan. -/
theorem map_undated_filter {select planned : TrialRecord → Bool}
    (same : ∀ trial ∈ record.trials.values,
      select trial = (planned trial.undated && record.completed trial.id)) :
    (record.trials.values.filter select).map TrialRecord.undated =
      record.completedTrials planned := by
  rw [completedTrials, outline, OrderedMap.values_mapValues, List.filter_map]
  refine congrArg _ (List.filter_congr fun trial listed => ?_)
  rw [same trial listed]
  rfl

theorem authoritativeTrials_undated (branch : BranchId) :
    (record.authoritativeTrials branch).map TrialRecord.undated =
      match record.outline.findBranch branch with
      | none => []
      | some found => (record.completedTrials (record.outline.planned found)).insertionSort
          fun left right => left.id ≤ right.id := by
  rw [authoritativeTrials, findBranch_outline]
  cases record.findBranch branch with
  | none => rfl
  | some found =>
      dsimp only [Option.map_some]
      rw [← map_undated_filter fun trial listed => isAuthoritative_eq life listed found]
      exact List.map_insertionSort _ _ _ _ fun _ _ _ _ => Iff.rfl

theorem comparedTrials_undated (candidate : BranchDefinition)
    (baseline : Option BranchDefinition) :
    (comparedTrials record candidate baseline).map TrialRecord.undated =
      record.completedTrials fun trial =>
        trial.branch = candidate.undated.id ||
          (baseline.map BranchDefinition.undated).any (trial.branch = ·.id) := by
  refine map_undated_filter fun trial listed => ?_
  rw [completed_eq life listed, Bool.and_comm]
  cases baseline <;> rfl

end ExperimentRecord

/-! ## Records with the same plan and the same reports -/

/-- The same trials are completed, and their committed attempts published the same observations. -/
structure SameReports (record record' : ExperimentRecord R) : Prop where
  completed : ∀ id, record'.completed id = record.completed id
  reports : ∀ id trial trial', record.trials.find? id = some trial →
    record'.trials.find? id = some trial' → trial.state = .completed → trial'.state = .completed →
      ((record'.authoritativeObservations trial').map Observation.report).Perm
        ((record.authoritativeObservations trial).map Observation.report)

theorem ExperimentRecord.ObservedOnce.cell {record : ExperimentRecord R} (once : record.ObservedOnce)
    (trial : TrialRecord) (metric : MetricId) :
    ((record.authoritativeObservations trial).filter (·.metric = metric)).countP
      (·.validity = .valid) ≤ 1 := by
  rw [List.countP_eq_length_filter]
  have sublist : (((record.authoritativeObservations trial).filter (·.metric = metric)).filter
      (·.validity = .valid)).Sublist record.observations :=
    (List.filter_sublist.trans List.filter_sublist).trans List.filter_sublist
  have apart := once.sublist sublist
  -- Two valid observations of the cell would stand against each other.
  rcases listed : ((record.authoritativeObservations trial).filter (·.metric = metric)).filter
    (·.validity = .valid) with _ | ⟨first, _ | ⟨second, rest⟩⟩
  · rw [listed]
    exact Nat.zero_le 1
  · rw [listed]
    exact le_rfl
  · exfalso
    rw [listed, List.pairwise_cons] at apart
    have members : ∀ observation ∈ first :: second :: rest, observation.validity = .valid ∧
        observation.metric = metric ∧ observation.trial = trial.id ∧
          observation.attempt = trial.authoritativeAttempt := by
      intro observation member
      rw [← listed] at member
      simp only [ExperimentRecord.authoritativeObservations, List.mem_filter, Bool.and_eq_true,
        decide_eq_true_eq] at member
      exact ⟨member.2, member.1.2, member.1.1.2⟩
    obtain ⟨valid, metric₁, trial₁, attempt₁⟩ := members first (by simp)
    obtain ⟨valid₂, metric₂, trial₂, attempt₂⟩ := members second (by simp)
    have alone := apart.1 second (by simp) valid₂
    simp [Coordinator.sameAttemptCell, valid, metric₁, metric₂, trial₁, trial₂, attempt₁, attempt₂]
      at alone

section Alike

variable {record record' : ExperimentRecord R} {marks marks' : Watermarks}

theorem SameReports.completedTrials (reports : SameReports record record')
    (outline : record'.outline = record.outline) (select : TrialRecord → Bool) :
    record'.completedTrials select = record.completedTrials select := by
  unfold ExperimentRecord.completedTrials
  rw [outline]
  exact List.filter_congr fun trial _ => by rw [reports.completed]

/-- Records with the same plan and the same reports read alike. -/
theorem SameReports.readsAlike (reports : SameReports record record')
    (outline : record'.outline = record.outline) (life : Lifecycle marks record)
    (life' : Lifecycle marks' record') (once : record.ObservedOnce) : ReadsAlike record record' where
  state := congrArg (fun outline => outline.state) outline
  policy := congrArg (fun outline => outline.definition.policy) outline
  metrics := congrArg (fun outline => outline.definition.metrics) outline
  branches := congrArg (fun outline => outline.definition.branches) outline
  trials := fun branch => by
    have identities : ∀ trials : List TrialRecord, trials.map TrialRecord.id =
        (trials.map TrialRecord.undated).map TrialRecord.id := by
      intro trials
      rw [List.map_map]
      rfl
    rw [identities (record'.authoritativeTrials branch),
      identities (record.authoritativeTrials branch),
      ExperimentRecord.authoritativeTrials_undated life,
      ExperimentRecord.authoritativeTrials_undated life', outline]
    simp only [reports.completedTrials outline]
  cells := fun branch trial member metric => by
    obtain ⟨found, -, done⟩ := mem_authoritativeTrials life member
    obtain ⟨trial', found', done'⟩ : ∃ trial', record'.trials.find? trial.id = some trial' ∧
        trial'.state = .completed := by
      have completed := reports.completed trial.id
      rw [ExperimentRecord.completed, ExperimentRecord.completed, found] at completed
      simpa [done, Option.any_eq_true] using completed
    have identity := (life'.trial trial.id trial' found').id
    have cell' := filter_inCell (identity.symm ▸ found') metric
    rw [identity] at cell'
    rw [evidenceIndex_cell, evidenceIndex_cell, filter_inCell found, cell']
    refine summaryOf_perm (once.cell trial metric) ?_
    have selected : ∀ all : List (Observation R),
        (all.filter (·.metric = metric)).map Observation.report =
          (all.map Observation.report).filter (·.1 = metric) := by
      intro all
      rw [List.filter_map]
      rfl
    rw [selected, selected]
    exact (reports.reports trial.id trial trial' found found' done done').filter _

/-- Records with the same plan rule alike on environments. -/
theorem SameReports.constrainEnvironment (reports : SameReports record record')
    (outline : record'.outline = record.outline) (life : Lifecycle marks record)
    (life' : Lifecycle marks' record') {candidate candidate' : BranchDefinition}
    {baseline baseline' : Option BranchDefinition}
    (sameCandidate : candidate'.undated = candidate.undated)
    (sameBaseline : baseline'.map BranchDefinition.undated = baseline.map BranchDefinition.undated)
    (ruling : Ruling) :
    ExperimentFabric.constrainEnvironment record' candidate' baseline' ruling =
      ExperimentFabric.constrainEnvironment record candidate baseline ruling := by
  have policy : record'.definition.policy = record.definition.policy :=
    congrArg (fun outline => outline.definition.policy) outline
  have environments : ∀ trials : List TrialRecord, trials.map TrialRecord.environmentFingerprint =
      (trials.map TrialRecord.undated).map TrialRecord.environmentFingerprint := by
    intro trials
    rw [List.map_map]
    rfl
  have declared : (comparedTrials record' candidate' baseline').map
        TrialRecord.environmentFingerprint =
      (comparedTrials record candidate baseline).map TrialRecord.environmentFingerprint := by
    rw [environments (comparedTrials record' candidate' baseline'),
      environments (comparedTrials record candidate baseline),
      ExperimentRecord.comparedTrials_undated life,
      ExperimentRecord.comparedTrials_undated life', sameCandidate, sameBaseline,
      reports.completedTrials outline]
  unfold ExperimentFabric.constrainEnvironment
  rw [policy, declared]

end Alike

/-! ## Two sessions -/

section Sessions

variable [MetricReal R] [CanonicalDigests R]

omit [CanonicalDigests R] in
/-- A coordinator that starts without a saved state has planned nothing. -/
theorem create_plan_empty {config : Config} {outcomes : WriteOutcomes}
    {left : Option (CoordinatorState R)} {c : Coordinator R}
    (started : Coordinator.create config none outcomes = (left, .ok c)) : c.state.plan = {} := by
  have origin : Coordinator.origin config (none : Option (CoordinatorState R)) = {} := by
    unfold Coordinator.origin
    split <;> rfl
  have saved : (Coordinator.origin config (none : Option (CoordinatorState R))).Saved := by
    rw [origin]
    exact fun _ _ found => nomatch found
  have recovers := (Coordinator.create_spec config none outcomes saved).recovers c (by rw [started])
  rw [origin] at recovers
  refine congrArg₂ Plan.mk ?_ (OrderedMap.ext fun id => ?_)
  · rw [recovers.watermarks]
    rfl
  · rw [OrderedMap.find?_mapValues, OrderedMap.find?_empty, Option.map_eq_none_iff]
    exact Option.map_eq_none_iff.mp (recovers.records id)

/-- Decisions do not depend on the schedule.  Two sessions create the same experiments and trials in
the same order, and the committed attempts of their trials published the same observations, in any
order; then every candidate gets the same outcome, constraints, factors and aggregates. -/
theorem schedule_independent {config config' : Config} {outcomes outcomes' : WriteOutcomes}
    {left left' : Option (CoordinatorState R)} {c c' : Coordinator R}
    (started : Coordinator.create config none outcomes = (left, .ok c))
    (started' : Coordinator.create config' none outcomes' = (left', .ok c'))
    {requests requests' : List (Request R × Option SaveFault)} (scheduled : c.Scheduled requests)
    (scheduled' : c'.Scheduled requests') (created : creations requests' = creations requests)
    (reports : ∀ experiment record record',
      (c.session requests).findExperiment experiment = some record →
      (c'.session requests').findExperiment experiment = some record' → SameReports record record')
    (experiment : ExperimentId) (candidate : BranchId) :
    (c'.session requests').verdict experiment candidate =
      (c.session requests).verdict experiment candidate := by
  have plans : (c'.session requests').state.plan = (c.session requests).state.plan := by
    rw [scheduled'.plan, scheduled.plan, created, create_plan_empty started,
      create_plan_empty started']
  have reachable : (World.running (c.session requests)).Reachable config.statePath :=
    ((World.Reachable.empty _).start rfl started).session requests
  have reachable' : (World.running (c'.session requests')).Reachable config'.statePath :=
    ((World.Reachable.empty _).start rfl started').session requests'
  have outlines := congrArg (fun plan => plan.experiments.find? experiment) plans
  simp only [CoordinatorState.plan, OrderedMap.find?_mapValues] at outlines
  unfold Coordinator.verdict Coordinator.evaluate Coordinator.findExperiment
  cases found : (c.session requests).state.experiments.find? experiment with
  | none =>
      rw [found, Option.map_none, Option.map_eq_none_iff] at outlines
      rw [outlines]
  | some record =>
      rw [found, Option.map_some] at outlines
      obtain ⟨record', found', outline⟩ := Option.map_eq_some_iff.mp outlines
      rw [found']
      have alike := reports experiment record record' found found'
      have life := reachable.sound.2.1 experiment record found
      have life' := reachable'.sound.2.1 experiment record' found'
      have once := (reachable.holds observedOnce_invariant.durable).1 experiment record found
      refine congrArg Except.ok ((alike.readsAlike outline life life' once).verdict candidate _ _ _ _ ?_)
      intro chosen chosen' baseline baseline' ruling _ _ sameCandidate sameBaseline
      exact alike.constrainEnvironment outline life life' sameCandidate sameBaseline ruling

end Sessions

namespace Sample

/-- One worker runs both trials, the baseline first. -/
def oneWorker : List (Request ℚ × Option SaveFault) :=
  [(.createExperiment spec, none), (.createTrial experiment baseline [], none),
    (.createTrial experiment candidate [], none),
    (.registerWorker { worker, boot, maxConcurrentAssignments := 2 }, none),
    (.claimTrials { epoch := coordinator.epoch, worker, boot, maxClaims := 2 }, none)] ++
    reporting worker ⟨1⟩ baseline ⟨1⟩ ⟨1⟩ ++ reporting worker ⟨1⟩ candidate ⟨2⟩ ⟨2⟩

/-- Two workers run one trial each, the candidate first; the first worker claims the baseline before
the candidate is created. -/
def twoWorkers : List (Request ℚ × Option SaveFault) :=
  [(.createExperiment spec, none), (.registerWorker { worker := ⟨8⟩, boot }, none),
    (.createTrial experiment baseline [], none),
    (.claimTrials { epoch := coordinator.epoch, worker := ⟨8⟩, boot }, none),
    (.createTrial experiment candidate [], none),
    (.registerWorker { worker := ⟨9⟩, boot }, none),
    (.claimTrials { epoch := coordinator.epoch, worker := ⟨9⟩, boot }, none)] ++
    reporting ⟨9⟩ ⟨2⟩ candidate ⟨2⟩ ⟨2⟩ ++ reporting ⟨8⟩ ⟨1⟩ baseline ⟨1⟩ ⟨1⟩

/-- The same trials of the sample experiment are completed, with the same reports. -/
def reportsAlike (record record' : ExperimentRecord ℚ) : Bool :=
  record'.trials.mapValues (fun trial => decide (trial.state = .completed)) =
      record.trials.mapValues (fun trial => decide (trial.state = .completed)) &&
    record.trials.entries.all fun entry => (record'.trials.find? entry.1).all fun trial' =>
      ((record'.authoritativeObservations trial').map Observation.report).Perm
        ((record.authoritativeObservations entry.2).map Observation.report)

theorem sameReports {record record' : ExperimentRecord ℚ}
    (alike : reportsAlike record record' = true) : SameReports record record' := by
  obtain ⟨states, reports⟩ := Bool.and_eq_true_iff.mp alike
  refine ⟨fun id => ?_, fun id trial trial' found found' _ _ => ?_⟩
  · have same := congrArg (fun states => states.find? id) (of_decide_eq_true states)
    simp only [OrderedMap.find?_mapValues] at same
    have completed : ∀ other : ExperimentRecord ℚ, other.completed id =
        ((other.trials.find? id).map fun trial => decide (trial.state = .completed)).getD false := by
      intro other
      rw [ExperimentRecord.completed]
      cases other.trials.find? id <;> rfl
    rw [completed, completed, same]
  · have entry := List.all_eq_true.mp reports (id, trial)
      ((OrderedMap.mem_entries_iff _ _ _).mpr found)
    rw [found'] at entry
    exact of_decide_eq_true entry

/-- The sample sessions hold the sample experiment only, and report alike. -/
def sessionsAlike : Bool :=
  (coordinator.session oneWorker).state.experiments.keys = [experiment] &&
    ((coordinator.session oneWorker).findExperiment experiment).all fun record =>
      ((coordinator.session twoWorkers).findExperiment experiment).all fun record' =>
        reportsAlike record record'

end Sample

/-- The two sample schedules give the candidate the same verdict. -/
theorem schedule_independent_sample :
    (Sample.coordinator.session Sample.twoWorkers).verdict Sample.experiment Sample.candidate =
      (Sample.coordinator.session Sample.oneWorker).verdict Sample.experiment Sample.candidate := by
  have alike : Sample.sessionsAlike = true := by decide +kernel
  obtain ⟨only, reports⟩ := Bool.and_eq_true_iff.mp alike
  have first : Sample.coordinator.Scheduled Sample.oneWorker := by decide +kernel
  have second : Sample.coordinator.Scheduled Sample.twoWorkers := by decide +kernel
  refine schedule_independent Sample.coordinator_started Sample.coordinator_started first second rfl
    ?_ Sample.experiment Sample.candidate
  intro experiment record record' found found'
  obtain rfl : experiment = Sample.experiment := by
    have key := (OrderedMap.mem_keys_iff _ _).mpr ⟨record, found⟩
    rw [of_decide_eq_true only] at key
    exact List.mem_singleton.mp key
  rw [found, found'] at reports
  exact Sample.sameReports reports

end ExperimentFabric
