import Mathlib.Algebra.Order.BigOperators.Group.List
import ExperimentFabric.Steps
import ExperimentFabric.Session

/-!
# The influence of refused evidence

A refused publication is logged and, under the retaining policy, a refused observation is appended
as an invalid one.  The aggregation counts it when it names the authoritative attempt of a committed
trial, and the commit precondition counts it when it names a live attempt that has published
nothing.  These are the only ways in which refused evidence can influence a decision or a commit.
-/

namespace ExperimentFabric

open Lib

variable {R : Type}

/-- The record with other lists of evidence. -/
def ExperimentRecord.withEvidence (record : ExperimentRecord R) (observations : List (Observation R))
    (rejected : List RejectedEvidence) : ExperimentRecord R :=
  { record with observations := observations, rejectedEvidence := rejected }

/-- The rejection log after one more refusal. -/
def ExperimentRecord.rejections (record : ExperimentRecord R) (kind : Text) (identifier : Nat)
    (verdict : Status) : List RejectedEvidence :=
  (record.reject kind identifier verdict).rejectedEvidence

theorem reject_eq (record : ExperimentRecord R) (kind : Text) (identifier : Nat)
    (verdict : Status) :
    record.reject kind identifier verdict =
      record.withEvidence record.observations (record.rejections kind identifier verdict) := by
  unfold ExperimentRecord.rejections ExperimentRecord.reject
  split <;> rfl

/-! ## Aggregates -/

theorem cellKey_inj {trial other : TrialId} {metric metric' : MetricId} :
    cellKey trial metric = cellKey other metric' ↔ trial = other ∧ metric = metric' := by
  obtain ⟨trial⟩ := trial
  obtain ⟨other⟩ := other
  obtain ⟨metric⟩ := metric
  obtain ⟨metric'⟩ := metric'
  simp [cellKey]

/-- The observation names the authoritative attempt of its trial. -/
def ExperimentRecord.isCurrent (record : ExperimentRecord R) (observation : Observation R) : Bool :=
  (record.trials.find? observation.trial).any (observation.attempt = ·.authoritativeAttempt)

/-- An invalid observation of a current attempt is counted in its own cell and nowhere else. -/
theorem summarize_find (record : ExperimentRecord R) (index : EvidenceIndex R)
    {observation : Observation R} (invalid : observation.validity = .invalid) (key : ℕ ×ₗ ℕ) :
    (record.summarize index observation).find? key =
      if record.isCurrent observation = true ∧
          key = cellKey observation.trial observation.metric then
        some { (index.find? key).getD {} with
          invalid := ((index.find? key).getD {}).invalid + 1 }
      else index.find? key := by
  unfold ExperimentRecord.summarize ExperimentRecord.isCurrent
  cases found : record.trials.find? observation.trial with
  | none => simp
  | some trial =>
      by_cases current : observation.attempt = trial.authoritativeAttempt
      · by_cases here : key = cellKey observation.trial observation.metric
        · subst here
          simp [current, ObservationSummary.add, invalid]
        · simp [current, here]
      · simp [current]

/-- Invalid observations in a cell. -/
def invalidIn (summary : Option (ObservationSummary R)) : Nat :=
  (summary.map ObservationSummary.invalid).getD 0

theorem sum_invalid (summaries : List (Option (ObservationSummary R))) :
    ((summaries.filterMap id).map ObservationSummary.invalid).sum =
      (summaries.map invalidIn).sum := by
  induction summaries with
  | nil => rfl
  | cons summary rest ih =>
      cases summary with
      | none => simpa [invalidIn] using ih
      | some summary => simpa [invalidIn] using ih

section Evidence

variable [MetricReal R] (record : ExperimentRecord R) (observation : Observation R)
  (rejected : List RejectedEvidence)

/-- The observation falls into a cell that the aggregation of some branch reads. -/
structure Counted : Prop where
  current : record.isCurrent observation = true
  metric : ∃ metric ∈ record.definition.metrics, metric.id = observation.metric
  trial : ∃ branch ∈ record.definition.branches, ∃ trial ∈ record.authoritativeTrials branch.id,
    trial.id = observation.trial

omit [MetricReal R] in
theorem evidenceIndex_append :
    (record.withEvidence (record.observations ++ [observation]) rejected).evidenceIndex =
      record.summarize record.evidenceIndex observation := by
  unfold ExperimentRecord.evidenceIndex
  rw [show (record.withEvidence (record.observations ++ [observation]) rejected).observations =
    record.observations ++ [observation] from rfl, List.foldl_append]
  rfl

/-- An appended invalid observation that is not counted leaves the evidence alone. -/
theorem computeEvidence_uncounted (invalid : observation.validity = .invalid)
    (uncounted : ¬ Counted record observation) :
    (record.withEvidence (record.observations ++ [observation]) rejected).computeEvidence =
      record.computeEvidence := by
  refine List.map_congr_left fun branch member => ?_
  have branchKnown : branch ∈ record.definition.branches := (List.mem_insertionSort _).mp member
  have cells : ∀ metric ∈ record.definition.metrics.insertionSort
      (fun left right => left.id ≤ right.id),
      ∀ trial ∈ record.authoritativeTrials branch.id,
      (record.summarize record.evidenceIndex observation).find? (cellKey trial.id metric.id) =
        record.evidenceIndex.find? (cellKey trial.id metric.id) := by
    intro metric known trial held
    rw [summarize_find record _ invalid, if_neg]
    rintro ⟨current, same⟩
    obtain ⟨trialSame, metricSame⟩ := cellKey_inj.mp same
    exact uncounted ⟨current, ⟨metric, (List.mem_insertionSort _).mp known, metricSame⟩,
      branch, branchKnown, trial, held, trialSame⟩
  unfold ExperimentRecord.branchEvidence
  rw [evidenceIndex_append]
  dsimp only [ExperimentRecord.withEvidence]
  congr 1
  refine List.map_congr_left fun metric known => ?_
  congr 1
  exact List.map_congr_left fun trial held => cells metric known trial held

/-- An appended invalid observation that is counted changes an aggregate. -/
theorem aggregates_counted (invalid : observation.validity = .invalid)
    (counted : Counted record observation) :
    (record.withEvidence (record.observations ++ [observation]) rejected).computeEvidence.map
        (fun evidence => (evidence.branch, evidence.aggregates)) ≠
      record.computeEvidence.map (fun evidence => (evidence.branch, evidence.aggregates)) := by
  obtain ⟨current, ⟨metric, known, metricSame⟩, branch, branchKnown, trial, held, trialSame⟩ :=
    counted
  intro same
  unfold ExperimentRecord.computeEvidence at same
  rw [List.map_map, List.map_map] at same
  have sameBranch := List.map_inj_left.mp same branch ((List.mem_insertionSort _).mpr branchKnown)
  have sameAggregates := congrArg Prod.snd sameBranch
  simp only [Function.comp_apply, ExperimentRecord.branchEvidence] at sameAggregates
  rw [evidenceIndex_append] at sameAggregates
  have sameMetric := List.map_inj_left.mp sameAggregates metric
    ((List.mem_insertionSort _).mpr known)
  have counts := congrArg MetricAggregate.invalidCount sameMetric
  simp only [aggregate, sum_invalid, List.map_map] at counts
  -- Every cell keeps at least its count, and the cell of the observation gains one.
  refine (List.sum_lt_sum _ _ (fun other _ => ?_) ⟨trial, held, ?_⟩).ne' counts
  · simp only [Function.comp_apply, summarize_find record _ invalid]
    split
    · cases record.evidenceIndex.find? (cellKey other.id metric.id) <;> simp [invalidIn]
    · exact le_rfl
  · simp only [Function.comp_apply, summarize_find record _ invalid]
    rw [if_pos ⟨current, by rw [trialSame, metricSame]⟩]
    cases record.evidenceIndex.find? (cellKey trial.id metric.id) <;> simp [invalidIn]

end Evidence

/-! ## Verdicts -/

/-- The parts of a decision that evidence determines. -/
structure Verdict (R : Type) where
  outcome : DecisionOutcome
  constraints : List ConstraintResult
  factors : List (ComparisonFactor R)
  aggregates : List (BranchId × List (MetricAggregate R))

/-- The verdict of a decision. -/
def Decision.verdict (decision : Decision R) : Verdict R where
  outcome := decision.outcome
  constraints := decision.constraints
  factors := decision.factors
  aggregates := decision.evidence.map fun evidence => (evidence.branch, evidence.aggregates)

section Verdicts

variable [MetricReal R] [CanonicalDigests R]

/-- The verdict a candidate would receive now. -/
def Coordinator.verdict (c : Coordinator R) (experiment : ExperimentId) (candidate : BranchId) :
    Result (Verdict R) :=
  (c.evaluate experiment candidate).map Decision.verdict

theorem buildDecision_evidence (record : ExperimentRecord R) (candidate : BranchId)
    (id : DecisionId) (sequence : Nat) :
    (buildDecision record candidate id sequence).evidence = record.computeEvidence := by
  have kept : ∀ (decision : Decision R) (ruling : Ruling) (comparison : Comparison R),
      (conclude decision ruling comparison).evidence = decision.evidence := by
    intro decision ruling comparison
    unfold conclude
    dsimp only
    repeat' split
    all_goals rfl
  unfold buildDecision
  cases candidateBranch record candidate with
  | none => rfl
  | some branch =>
      cases baselineBranch record with
      | none =>
          dsimp only
          split
          · rfl
          · rw [kept]
            rfl
      | some baseline =>
          dsimp only
          split
          · rfl
          · rw [kept]
            rfl

/-- The verdict depends on the lists of evidence only through the evidence of the branches. -/
theorem buildDecision_verdict {record : ExperimentRecord R} {observations : List (Observation R)}
    {rejected : List RejectedEvidence}
    (same : (record.withEvidence observations rejected).computeEvidence = record.computeEvidence)
    (candidate : BranchId) (id : DecisionId) (sequence sequence' : Nat) :
    (buildDecision (record.withEvidence observations rejected) candidate id sequence').verdict =
      (buildDecision record candidate id sequence).verdict := by
  have verdicts : ∀ (decision other : Decision R) (ruling : Ruling) (comparison : Comparison R),
      decision.evidence = other.evidence →
        (conclude decision ruling comparison).verdict =
          (conclude other ruling comparison).verdict := by
    intro decision other ruling comparison equal
    unfold conclude Decision.verdict
    dsimp only
    repeat' split
    all_goals simp only [equal]
  have refused : ∀ (decision other : Decision R) (constraint reason : Text),
      decision.evidence = other.evidence → decision.factors = other.factors →
        (refuseCandidate decision constraint reason).verdict =
          (refuseCandidate other constraint reason).verdict := by
    intro decision other constraint reason equal factors
    simp only [Decision.verdict, refuseCandidate, equal, factors]
  have blank : (blankDecision (record.withEvidence observations rejected) candidate id
      sequence').evidence = (blankDecision record candidate id sequence).evidence := same
  unfold buildDecision
  rw [show candidateBranch (record.withEvidence observations rejected) candidate =
      candidateBranch record candidate from rfl,
    show baselineBranch (record.withEvidence observations rejected) = baselineBranch record from rfl,
    same]
  cases candidateBranch record candidate with
  | none => exact refused _ _ _ _ blank rfl
  | some branch =>
      cases baselineBranch record with
      | none =>
          dsimp only
          split
          · exact refused _ _ _ _ blank rfl
          · exact verdicts _ _ _ _ blank
      | some baseline =>
          dsimp only
          split
          · exact refused _ _ _ _ blank rfl
          · exact verdicts _ _ _ _ blank

/-- The decisions of a coordinator after one record received other lists of evidence. -/
theorem verdict_withEvidence {c c' : Coordinator R} {experiment : ExperimentId}
    {record : ExperimentRecord R} {observations : List (Observation R)}
    {rejected : List RejectedEvidence} (found : c.findExperiment experiment = some record)
    (stored : c'.state.experiments =
      c.state.experiments.assign experiment (record.withEvidence observations rejected))
    (same : (record.withEvidence observations rejected).computeEvidence = record.computeEvidence)
    (other : ExperimentId) (candidate : BranchId) :
    c'.verdict other candidate = c.verdict other candidate := by
  unfold Coordinator.verdict Coordinator.evaluate Coordinator.findExperiment
  rw [stored, OrderedMap.find?_assign]
  by_cases here : other = experiment
  · subst here
    rw [if_pos rfl, show c.state.experiments.find? other = some record from found]
    exact congrArg Except.ok (buildDecision_verdict same candidate _ _ _)
  · rw [if_neg here]
    cases c.state.experiments.find? other with
    | none => rfl
    | some held =>
        exact congrArg Except.ok (show (buildDecision held candidate .null
          c'.currentSequence).verdict = _ from buildDecision_verdict rfl candidate _ _ _)

end Verdicts

/-! ## Commits -/

/-- Two records that a commit cannot tell apart, up to the evidence it holds. -/
structure RecordsAlike (record record' : ExperimentRecord R) : Prop where
  definition : record'.definition = record.definition
  trials : record'.trials = record.trials
  artifacts : record'.artifacts.length = record.artifacts.length
  lifecycleLog : record'.lifecycleLog.length = record.lifecycleLog.length

/-- Two coordinators that register artifacts alike; the second holds `offset` more records. -/
structure Coordinator.Alike (offset : Nat) (c c' : Coordinator R) : Prop where
  config : c'.config = c.config
  artifactIndex : c'.artifactIndex = c.artifactIndex
  format : c'.state.formatVersion = c.state.formatVersion
  absent : ∀ experiment, c.findExperiment experiment = none →
    c'.findExperiment experiment = none
  present : ∀ experiment record, c.findExperiment experiment = some record →
    ∃ record', c'.findExperiment experiment = some record' ∧ RecordsAlike record record'
  count : c'.state.totalRecordCount = c.state.totalRecordCount + offset

/-- Replacing a record on both sides. -/
theorem Coordinator.Alike.assign {offset : Nat} {c c' next next' : Coordinator R}
    (alike : Coordinator.Alike offset c c') {experiment : ExperimentId}
    {record record' after after' : ExperimentRecord R}
    (found : c.findExperiment experiment = some record)
    (found' : c'.findExperiment experiment = some record')
    (config : next'.config = next.config)
    (artifactIndex : next'.artifactIndex = next.artifactIndex)
    (format : next'.state.formatVersion = next.state.formatVersion)
    (stored : next.state.experiments = c.state.experiments.assign experiment after)
    (stored' : next'.state.experiments = c'.state.experiments.assign experiment after')
    (workers : next.state.workers = c.state.workers)
    (workers' : next'.state.workers = c'.state.workers)
    (records : RecordsAlike after after')
    (growth : after'.recordCount + record.recordCount = after.recordCount + record'.recordCount) :
    Coordinator.Alike offset next next' where
  config := config
  artifactIndex := artifactIndex
  format := format
  absent := fun other absent => by
    rw [findExperiment, stored, OrderedMap.find?_assign] at absent
    rw [findExperiment, stored', OrderedMap.find?_assign]
    split at absent
    · cases absent
    · rename_i different
      rw [if_neg different]
      exact alike.absent other absent
  present := fun other held lookup => by
    rw [findExperiment, stored, OrderedMap.find?_assign] at lookup
    rw [findExperiment, stored', OrderedMap.find?_assign]
    split at lookup
    · rename_i here
      obtain rfl := Option.some.inj lookup
      exact ⟨after', by rw [if_pos here], records⟩
    · rename_i different
      rw [if_neg different]
      exact alike.present other held lookup
  count := by
    have total := CoordinatorState.totalRecordCount_assign found stored workers
    have total' := CoordinatorState.totalRecordCount_assign found' stored' workers'
    have offset := alike.count
    omega

theorem pushArtifact_recordCount (record : ExperimentRecord R) (trial : TrialId)
    (artifact : ArtifactRecord) :
    (record.pushArtifact trial artifact).recordCount = record.recordCount + 1 := by
  simp only [ExperimentRecord.recordCount, ExperimentRecord.pushArtifact, OrderedMap.size_modify,
    List.length_append, List.length_singleton]
  omega

/-- Advancing the sequence counter changes nothing a commit compares. -/
theorem Coordinator.Alike.nextSequence {offset : Nat} {c c' : Coordinator R}
    (alike : Coordinator.Alike offset c c') :
    Coordinator.Alike offset c.nextSequence c'.nextSequence :=
  ⟨alike.config, alike.artifactIndex, alike.format, alike.absent, alike.present, alike.count⟩

/-- Artifacts are registered alike. -/
theorem registerArtifacts_alike (envelope : AuthorityEnvelope) (artifacts : List ArtifactRecord)
    {offset : Nat} {c c' : Coordinator R} (alike : Coordinator.Alike offset c c') :
    (Coordinator.registerArtifacts envelope c' artifacts).2 =
        (Coordinator.registerArtifacts envelope c artifacts).2 ∧
      Coordinator.Alike offset (Coordinator.registerArtifacts envelope c artifacts).1
        (Coordinator.registerArtifacts envelope c' artifacts).1 := by
  induction artifacts generalizing c c' with
  | nil => exact ⟨rfl, alike⟩
  | cons submitted rest ih =>
      cases lookup : c.findExperiment envelope.experiment with
      | none =>
          simp only [Coordinator.registerArtifacts, lookup, alike.absent _ lookup]
          exact ⟨trivial, alike⟩
      | some record =>
          obtain ⟨record', lookup', records⟩ := alike.present _ _ lookup
          have trials : record'.trials.find? envelope.trial =
              record.trials.find? envelope.trial := by rw [records.trials]
          have limits : c'.limits = c.limits := by
            rw [Coordinator.limits, Coordinator.limits, alike.config]
          simp only [Coordinator.registerArtifacts, lookup, lookup']
          rw [trials]
          cases held : record.trials.find? envelope.trial with
          | none => exact ⟨rfl, alike⟩
          | some trial =>
              dsimp only
              by_cases full : record.artifacts.length ≥ c.limits.maxArtifactsPerExperiment
              · rw [if_pos full, if_pos (by rw [limits, records.artifacts]; exact full)]
                exact ⟨rfl, alike⟩
              rw [if_neg full, if_neg (by rw [limits, records.artifacts]; exact full)]
              by_cases many : trial.artifacts.length ≥ c.limits.maxArtifactsPerAttempt
              · rw [if_pos many, if_pos (by rw [limits]; exact many)]
                exact ⟨rfl, alike⟩
              rw [if_neg many, if_neg (by rw [limits]; exact many)]
              by_cases unusable : (decide (submitted.locator = []) ||
                  decide (submitted.locator.length > c.limits.maxLocatorLength)) = true
              · rw [if_pos unusable, if_pos (by rw [limits]; exact unusable)]
                exact ⟨rfl, alike⟩
              rw [if_neg unusable, if_neg (by rw [limits]; exact unusable)]
              have positions : c'.nextSequence.artifactsOf record'.definition.id =
                  c.nextSequence.artifactsOf record.definition.id := by
                simp [Coordinator.artifactsOf, alike.artifactIndex, records.definition]
              by_cases taken : ((c.nextSequence.artifactsOf record.definition.id).find?
                  (Coordinator.submittedArtifact record trial envelope.attempt submitted
                    c.nextSequence.currentSequence).id).isSome = true
              · rw [if_pos taken, if_pos (by rw [positions]; exact taken)]
                exact ⟨rfl, alike.nextSequence⟩
              rw [if_neg taken, if_neg (by rw [positions]; exact taken)]
              refine ih (alike.nextSequence.assign lookup lookup' alike.config ?_
                alike.format rfl rfl rfl rfl ⟨records.definition, ?_, ?_,
                records.lifecycleLog⟩ ?_)
              · simp only [Coordinator.storeArtifact, Coordinator.indexArtifacts, positions]
                simp [records.definition, records.artifacts, alike.artifactIndex,
                  Coordinator.submittedArtifact]
              · simp [ExperimentRecord.pushArtifact, records.trials, Coordinator.submittedArtifact]
              · simp [ExperimentRecord.pushArtifact, records.artifacts]
              · rw [pushArtifact_recordCount, pushArtifact_recordCount]
                omega

/-- Registering artifacts keeps the format, removes no record and writes no lifecycle line. -/
theorem registerArtifacts_grows (envelope : AuthorityEnvelope) (artifacts : List ArtifactRecord)
    {c : Coordinator R} {record : ExperimentRecord R}
    (found : c.findExperiment envelope.experiment = some record) :
    (Coordinator.registerArtifacts envelope c artifacts).1.state.formatVersion =
        c.state.formatVersion ∧
      c.state.totalRecordCount ≤
        (Coordinator.registerArtifacts envelope c artifacts).1.state.totalRecordCount ∧
      ∃ after, (Coordinator.registerArtifacts envelope c artifacts).1.findExperiment
        envelope.experiment = some after ∧ after.lifecycleLog = record.lifecycleLog := by
  induction artifacts generalizing c record with
  | nil => exact ⟨rfl, le_rfl, record, found, rfl⟩
  | cons submitted rest ih =>
      simp only [Coordinator.registerArtifacts, found]
      split
      · exact ⟨rfl, le_rfl, record, found, rfl⟩
      · rename_i trial held
        split
        · exact ⟨rfl, le_rfl, record, found, rfl⟩
        · split
          · exact ⟨rfl, le_rfl, record, found, rfl⟩
          · split
            · exact ⟨rfl, le_rfl, record, found, rfl⟩
            · split
              · exact ⟨rfl, le_rfl, record, found, rfl⟩
              · let artifact := Coordinator.submittedArtifact record trial envelope.attempt
                  submitted c.nextSequence.currentSequence
                have stored : (c.nextSequence.storeArtifact envelope.experiment record
                    envelope.trial artifact).findExperiment envelope.experiment =
                      some (record.pushArtifact envelope.trial artifact) := by
                  simp [Coordinator.storeArtifact]
                obtain ⟨format, larger, after, ended, log⟩ := ih stored
                refine ⟨format, le_trans ?_ larger, after, ended, log⟩
                have total : (c.nextSequence.storeArtifact envelope.experiment record
                    envelope.trial artifact).state.totalRecordCount + record.recordCount =
                      c.state.totalRecordCount +
                        (record.pushArtifact envelope.trial artifact).recordCount :=
                  CoordinatorState.totalRecordCount_assign found rfl rfl
                rw [pushArtifact_recordCount] at total
                omega

/-- When a commit succeeds. -/
theorem Coordinator.commitTrial_ok_iff (c : Coordinator R) (request : CommitTrialRequest)
    (fault : Option SaveFault) :
    (c.commitTrial request fault).2 = .ok () ↔
      ∃ check, c.commitTrialGuard request = .ok check ∧
        observationsHeld check.record check.trial.id check.attempt.id ≠ 0 ∧
        (registerArtifacts request.envelope c.nextSequence request.artifacts).2 = .ok () ∧
        check.attempt.state.isValidTransition .completed = true ∧
        ∃ record, (registerArtifacts request.envelope c.nextSequence
            request.artifacts).1.findExperiment request.envelope.experiment = some record ∧
          ((registerArtifacts request.envelope c.nextSequence request.artifacts).1.withRecord
            request.envelope.experiment (record.complete request.envelope.trial
              request.envelope.attempt (c.currentSequence + 1))).Savable fault := by
  unfold commitTrial
  cases guarded : c.commitTrialGuard request with
  | error failure => simp
  | ok check =>
      obtain ⟨-, -, -, found, admitted⟩ :=
        (c.checkEnvelope_eq_ok _ _).mp (commitTrialGuard_ok guarded)
      have unfinished : check.trial.state ≠ .completed := fun done => by
        have isOpen := admitted.trialOpen
        simp [done, isTerminal] at isOpen
      obtain ⟨-, -, after, stored, -⟩ := registerArtifacts_grows request.envelope request.artifacts
        (show c.nextSequence.findExperiment request.envelope.experiment = some check.record from
          found)
      simp only [unfinished, decide_false, Bool.false_and, Bool.false_eq_true, if_false,
        Except.ok.injEq, exists_eq_left']
      by_cases empty : observationsHeld check.record check.trial.id check.attempt.id = 0
      · simp [empty]
      · rw [if_neg empty]
        cases registration : registerArtifacts request.envelope c.nextSequence
            request.artifacts with
        | mk registered result =>
            rw [registration] at stored
            cases result with
            | error failure => simp
            | ok done =>
                dsimp only at stored ⊢
                by_cases allowed : check.attempt.state.isValidTransition .completed = true
                · rw [if_neg (by simp [allowed]), stored]
                  dsimp only
                  rw [settle_ok_iff]
                  simp [empty, allowed]
                · rw [if_pos (by simpa using allowed)]
                  simp [allowed]

/-! ## Refused publications -/

/-- A publication was refused: one record has longer lists of evidence and nothing a decision or a
commit compares with has changed. -/
structure EvidenceRefused (c c' : Coordinator R) (experiment : ExperimentId)
    (record : ExperimentRecord R) (observations : List (Observation R))
    (rejected : List RejectedEvidence) : Prop where
  found : c.findExperiment experiment = some record
  stored : c'.state.experiments =
    c.state.experiments.assign experiment (record.withEvidence observations rejected)
  config : c'.config = c.config
  epoch : c'.epoch = c.epoch
  admittingWork : c'.admittingWork = c.admittingWork
  liveWorkers : c'.liveWorkers = c.liveWorkers
  artifactIndex : c'.artifactIndex = c.artifactIndex
  workers : c'.state.workers = c.state.workers
  format : c'.state.formatVersion = c.state.formatVersion

theorem Admitted.withEvidence {record : ExperimentRecord R} {envelope : AuthorityEnvelope}
    {branch : BranchDefinition} {trial : TrialRecord} {attempt : AttemptRecord}
    (observations : List (Observation R)) (rejected : List RejectedEvidence) :
    Admitted (record.withEvidence observations rejected) envelope branch trial attempt ↔
      Admitted record envelope branch trial attempt := by
  constructor
  all_goals
    rintro ⟨⟩
    constructor <;> assumption

namespace EvidenceRefused

variable {c c' : Coordinator R} {experiment : ExperimentId} {record : ExperimentRecord R}
  {observations : List (Observation R)} {rejected : List RejectedEvidence}
  (refused : EvidenceRefused c c' experiment record observations rejected)

include refused

theorem find (other : ExperimentId) : c'.findExperiment other =
    if other = experiment then some (record.withEvidence observations rejected)
    else c.findExperiment other := by
  rw [Coordinator.findExperiment, refused.stored, OrderedMap.find?_assign]
  split_ifs <;> rfl

/-- An envelope is accepted afterwards exactly when it was accepted before. -/
theorem checkEnvelope (envelope : AuthorityEnvelope) (branch : BranchDefinition)
    (trial : TrialRecord) (attempt : AttemptRecord) (held : ExperimentRecord R) :
    c'.checkEnvelope envelope = .ok ⟨held, branch, trial, attempt⟩ ↔
      ∃ before, c.checkEnvelope envelope = .ok ⟨before, branch, trial, attempt⟩ ∧
        held = if envelope.experiment = experiment then
          record.withEvidence observations rejected else before := by
  have authority : c'.HoldsAuthority envelope ↔ c.HoldsAuthority envelope := by
    constructor <;> rintro ⟨epoch, live⟩
    · exact ⟨epoch.trans refused.epoch, by
        simpa only [Coordinator.findLiveWorker, refused.liveWorkers] using live⟩
    · exact ⟨epoch.trans refused.epoch.symm, by
        simpa only [Coordinator.findLiveWorker, refused.liveWorkers] using live⟩
  simp only [Coordinator.checkEnvelope_eq_ok, refused.admittingWork, authority, refused.find]
  by_cases here : envelope.experiment = experiment
  · simp only [here, refused.found]
    constructor
    · rintro ⟨wellFormed, admitting, holds, same, admitted⟩
      obtain rfl := Option.some.inj same
      exact ⟨record, ⟨wellFormed, admitting, holds, rfl,
        (Admitted.withEvidence observations rejected).mp admitted⟩, rfl⟩
    · rintro ⟨before, ⟨wellFormed, admitting, holds, same, admitted⟩, rfl⟩
      obtain rfl := Option.some.inj same
      exact ⟨wellFormed, admitting, holds, rfl,
        (Admitted.withEvidence observations rejected).mpr admitted⟩
  · simp only [if_neg here]
    constructor
    · rintro ⟨wellFormed, admitting, holds, found, admitted⟩
      exact ⟨held, ⟨wellFormed, admitting, holds, found, admitted⟩, rfl⟩
    · rintro ⟨before, accepted, rfl⟩
      exact accepted

theorem commitTrialGuard (request : CommitTrialRequest) (branch : BranchDefinition)
    (trial : TrialRecord) (attempt : AttemptRecord) (held : ExperimentRecord R) :
    c'.commitTrialGuard request = .ok ⟨held, branch, trial, attempt⟩ ↔
      ∃ before, c.commitTrialGuard request = .ok ⟨before, branch, trial, attempt⟩ ∧
        held = if request.envelope.experiment = experiment then
          record.withEvidence observations rejected else before := by
  simp only [Coordinator.commitTrialGuard, require_bind_eq_ok, refused.checkEnvelope]
  constructor
  · rintro ⟨transport, before, accepted, equal⟩
    exact ⟨before, ⟨transport, accepted⟩, equal⟩
  · rintro ⟨before, ⟨transport, accepted⟩, equal⟩
    exact ⟨transport, before, accepted, equal⟩

/-- Commits register the same artifacts afterwards, over `offset` more records. -/
theorem alike (offset : Nat)
    (growth : (record.withEvidence observations rejected).recordCount =
      record.recordCount + offset) : Coordinator.Alike offset c c' where
  config := refused.config
  artifactIndex := refused.artifactIndex
  format := refused.format
  absent := fun other absent => by
    have different : other ≠ experiment := fun same => by
      rw [same, refused.found] at absent
      cases absent
    rw [refused.find, if_neg different, absent]
  present := fun other held lookup => by
    rw [refused.find]
    by_cases here : other = experiment
    · subst here
      obtain rfl := Option.some.inj (refused.found.symm.trans lookup)
      exact ⟨_, if_pos rfl, rfl, rfl, rfl, rfl⟩
    · exact ⟨held, by rw [if_neg here, lookup], rfl, rfl, rfl, rfl⟩
  count := by
    have total := CoordinatorState.totalRecordCount_assign refused.found refused.stored
      refused.workers
    omega

end EvidenceRefused

/-- Lifecycle lines the next event adds: a full log drops one for it. -/
def ExperimentRecord.logGrowth (record : ExperimentRecord R) : Nat :=
  if record.lifecycleLog.length < 65536 then 1 else 0

theorem log_recordCount (record : ExperimentRecord R) (line : Text) :
    (record.log line).recordCount = record.recordCount + record.logGrowth := by
  unfold ExperimentRecord.recordCount ExperimentRecord.log ExperimentRecord.logGrowth
  simp only [List.length_append, List.length_singleton]
  by_cases full : record.lifecycleLog.length ≥ 65536
  · rw [if_pos full, if_neg (by omega), List.length_tail]
    omega
  · rw [if_neg full, if_pos (by omega)]
    omega

theorem complete_recordCount (record : ExperimentRecord R) (trial : TrialId)
    (attempt : TrialAttemptId) (sequence : Nat) :
    (record.complete trial attempt sequence).recordCount = record.recordCount + record.logGrowth := by
  unfold ExperimentRecord.complete
  rw [log_recordCount]
  simp only [ExperimentRecord.recordCount, OrderedMap.size_modify]
  rfl

/-- Records of a coordinator that commits a trial. -/
theorem Coordinator.commit_count {c : Coordinator R} {experiment : ExperimentId}
    {record : ExperimentRecord R} (found : c.findExperiment experiment = some record)
    (trial : TrialId) (attempt : TrialAttemptId) (sequence : Nat) :
    (c.withRecord experiment (record.complete trial attempt sequence)).state.totalRecordCount =
      c.state.totalRecordCount + record.logGrowth := by
  have total : (c.withRecord experiment (record.complete trial attempt
      sequence)).state.totalRecordCount + record.recordCount = c.state.totalRecordCount +
        (record.complete trial attempt sequence).recordCount :=
    CoordinatorState.totalRecordCount_assign found rfl rfl
  rw [complete_recordCount] at total
  omega

/-- The state still fits the record bound when it grows by `growth` records. -/
def Coordinator.Fits (c : Coordinator R) (growth : Nat) : Prop :=
  c.config.statePath = [] ∨ (c.state.formatVersion = persistenceFormatVersion ∧
    c.state.totalRecordCount + growth ≤ c.limits.maxPersistedRecords)

/-- A state in which one record has grown can be saved when the state before has room for it. -/
theorem Coordinator.savable_iff_fits {c prepared : Coordinator R} {experiment : ExperimentId}
    {record after : ExperimentRecord R} {growth : Nat}
    (found : c.findExperiment experiment = some record)
    (stored : prepared.state.experiments = c.state.experiments.assign experiment after)
    (workers : prepared.state.workers = c.state.workers) (config : prepared.config = c.config)
    (format : prepared.state.formatVersion = c.state.formatVersion)
    (grown : after.recordCount = record.recordCount + growth) :
    prepared.Savable none ↔ c.Fits growth := by
  have total := CoordinatorState.totalRecordCount_assign found stored workers
  have count : prepared.state.totalRecordCount = c.state.totalRecordCount + growth := by omega
  unfold Coordinator.Savable Coordinator.Fits Coordinator.limits
  rw [config, format, count]
  simp

/-- A commit that a refused publication turned from refused to accepted lacked observations. -/
theorem EvidenceRefused.commit_flip {c c' : Coordinator R} {experiment : ExperimentId}
    {record : ExperimentRecord R} {observations : List (Observation R)}
    {rejected : List RejectedEvidence}
    (refused : EvidenceRefused c c' experiment record observations rejected) (offset : Nat)
    (growth : (record.withEvidence observations rejected).recordCount =
      record.recordCount + offset)
    {request : CommitTrialRequest} {fault : Option SaveFault}
    (before : (c.commitTrial request fault).2 ≠ .ok ())
    (after : (c'.commitTrial request fault).2 = .ok ()) :
    request.envelope.experiment = experiment ∧
      ∃ branch trial attempt,
        c.checkEnvelope request.envelope = .ok ⟨record, branch, trial, attempt⟩ ∧
        Coordinator.observationsHeld record trial.id attempt.id = 0 ∧
        Coordinator.observationsHeld (record.withEvidence observations rejected) trial.id
          attempt.id ≠ 0 ∧
        attempt.state.isValidTransition .completed = true ∧
        c.Fits (offset + record.logGrowth) := by
  obtain ⟨⟨held', branch, trial, attempt⟩, guarded', published, registered', allowed, stored',
    found', savable'⟩ := (c'.commitTrial_ok_iff request fault).mp after
  obtain ⟨held, guarded, same⟩ := (refused.commitTrialGuard ..).mp guarded'
  obtain ⟨-, -, -, found, -⟩ :=
    (c.checkEnvelope_eq_ok _ _).mp (Coordinator.commitTrialGuard_ok guarded)
  have startFound : c.nextSequence.findExperiment request.envelope.experiment = some held := found
  obtain ⟨result, alike⟩ := registerArtifacts_alike request.envelope request.artifacts
    (refused.alike offset growth).nextSequence
  obtain ⟨format, larger, stored, lookup, log⟩ :=
    registerArtifacts_grows request.envelope request.artifacts startFound
  have config := (Coordinator.registerArtifacts_sameProcess request.envelope request.artifacts
    c.nextSequence).config
  obtain ⟨stored'', lookup'', records⟩ := alike.present _ _ lookup
  obtain rfl := Option.some.inj (found'.symm.trans lookup'')
  have logs : stored'.logGrowth = held.logGrowth ∧ stored.logGrowth = held.logGrowth := by
    unfold ExperimentRecord.logGrowth
    rw [records.lifecycleLog, log]
    exact ⟨rfl, rfl⟩
  have total := alike.count
  have larger : c.state.totalRecordCount ≤ _ := larger
  have start : c.state.formatVersion = c.nextSequence.state.formatVersion := rfl
  -- The second coordinator could save, and the first one would have had fewer records to save.
  have savable : c.config.statePath = [] ∨ (c.state.formatVersion = persistenceFormatVersion ∧
      (Coordinator.registerArtifacts request.envelope c.nextSequence
        request.artifacts).1.state.totalRecordCount + offset + held.logGrowth ≤
          c.limits.maxPersistedRecords ∧ fault = none) := by
    unfold Coordinator.Savable at savable'
    rw [Coordinator.commit_count found', total, logs.1] at savable'
    simp only [Coordinator.withRecord, Coordinator.withExperiments, Coordinator.limits, alike.config,
      alike.format, config, format] at savable'
    exact savable'
  have unpublished : Coordinator.observationsHeld held trial.id attempt.id = 0 := by
    by_contra nonempty
    refine before ((c.commitTrial_ok_iff request fault).mpr ⟨⟨held, branch, trial, attempt⟩,
      guarded, nonempty, result ▸ registered', allowed, stored, lookup, ?_⟩)
    unfold Coordinator.Savable
    rw [Coordinator.commit_count lookup, logs.2]
    simp only [Coordinator.withRecord, Coordinator.withExperiments, Coordinator.limits, config,
      format]
    refine savable.imp id fun ⟨current, fits, sound⟩ => ⟨current, ?_, sound⟩
    exact le_trans (by omega) fits
  have here : request.envelope.experiment = experiment := by
    by_contra elsewhere
    rw [if_neg elsewhere] at same
    exact published (same ▸ unpublished)
  rw [if_pos here] at same
  obtain rfl : record = held := Option.some.inj (refused.found.symm.trans (here ▸ found))
  refine ⟨here, branch, trial, attempt, Coordinator.commitTrialGuard_ok guarded, unpublished,
    same ▸ published, allowed, savable.imp id fun ⟨current, fits, _⟩ => ⟨current, ?_⟩⟩
  exact le_trans (by omega) fits

/-- Entries the next refusal adds: a full rejection log takes none. -/
def ExperimentRecord.rejectGrowth (record : ExperimentRecord R) : Nat :=
  if record.rejectedEvidence.length < 65536 then 1 else 0

theorem rejections_length (record : ExperimentRecord R) (kind : Text) (identifier : Nat)
    (verdict : Status) :
    (record.rejections kind identifier verdict).length =
      record.rejectedEvidence.length + record.rejectGrowth := by
  unfold ExperimentRecord.rejections ExperimentRecord.reject ExperimentRecord.rejectGrowth
  split
  · simp
  · rfl

/-- A refusal adds what it retains and its rejection. -/
theorem recordCount_withEvidence (record : ExperimentRecord R) (observations : List (Observation R))
    (kind : Text) (identifier : Nat) (verdict : Status) :
    (record.withEvidence observations (record.rejections kind identifier verdict)).recordCount +
        record.observations.length =
      record.recordCount + (observations.length + record.rejectGrowth) := by
  simp only [ExperimentRecord.recordCount, ExperimentRecord.withEvidence, rejections_length]
  omega

theorem observationsHeld_withEvidence (record : ExperimentRecord R) (retained : Observation R)
    (rejected : List RejectedEvidence) (trial : TrialId) (attempt : TrialAttemptId) :
    Coordinator.observationsHeld
        (record.withEvidence (record.observations ++ [retained]) rejected) trial attempt =
      Coordinator.observationsHeld record trial attempt +
        if retained.trial = trial ∧ retained.attempt = attempt then 1 else 0 := by
  simp [Coordinator.observationsHeld, ExperimentRecord.withEvidence, List.countP_append,
    List.countP_singleton]

section Influence

variable [MetricReal R]

/-- A retained observation makes a commit possible: it names a live attempt that has published
nothing, and the state with it can still be saved. -/
structure EnablesCommit (c : Coordinator R) (record : ExperimentRecord R)
    (observation : Observation R) : Prop where
  unpublished :
    Coordinator.observationsHeld record observation.trial observation.attempt = 0
  live : ∃ envelope branch trial attempt, envelope.experiment = observation.experiment ∧
    c.checkEnvelope envelope = .ok ⟨record, branch, trial, attempt⟩ ∧
    trial.id = observation.trial ∧ attempt.id = observation.attempt ∧
    attempt.state.isValidTransition .completed = true
  fits : c.Fits (1 + record.rejectGrowth + record.logGrowth)

/-- A refused observation of the record will be retained and counted. -/
def Influential (c : Coordinator R) (record : ExperimentRecord R) (observation : Observation R) :
    Prop :=
  record.retains c.limits = true ∧
    (Counted record observation ∨ EnablesCommit c record observation)

omit [MetricReal R] in
/-- What a refused observation leaves in the coordinator. -/
theorem Coordinator.rejectObservation_refused {c : Coordinator R} {record : ExperimentRecord R}
    {observation : Observation R} (verdict : Status)
    (found : c.findExperiment observation.experiment = some record) :
    EvidenceRefused c (c.rejectObservation record observation verdict) observation.experiment record
      (record.observations ++ if record.retains c.limits then
        [historical observation verdict (c.currentSequence + 1)] else [])
      (record.rejections (text "observation") observation.id.value verdict) := by
  unfold rejectObservation
  dsimp only
  by_cases retained : record.retains c.limits = true
  · rw [if_pos retained, if_pos retained]
    refine ⟨found, ?_, rfl, rfl, rfl, rfl, rfl, rfl, rfl⟩
    rw [reject_eq]
    rfl
  · rw [if_neg retained, if_neg retained]
    refine ⟨found, ?_, rfl, rfl, rfl, rfl, rfl, rfl, rfl⟩
    rw [reject_eq, List.append_nil]
    rfl

omit [MetricReal R] in
/-- Saving keeps what a refused publication left. -/
theorem EvidenceRefused.persistLocked {c c' : Coordinator R} {experiment : ExperimentId}
    {record : ExperimentRecord R} {observations : List (Observation R)}
    {rejected : List RejectedEvidence}
    (refused : EvidenceRefused c c' experiment record observations rejected)
    (fault : Option SaveFault) :
    EvidenceRefused c (c'.persistLocked fault).1 experiment record observations rejected :=
  ⟨refused.found, by simpa using refused.stored, by simpa using refused.config,
    by simpa using refused.epoch, by simpa using refused.admittingWork,
    by simpa using refused.liveWorkers, by simpa using refused.artifactIndex,
    by simpa using refused.workers, by simpa using refused.format⟩

theorem Coordinator.publishObservation_refused {c : Coordinator R}
    {request : PublishObservationRequest R} {record : ExperimentRecord R} {verdict : Status}
    (found : c.findExperiment request.observation.experiment = some record)
    (refused : c.checkEnvelope (observationEnvelope request record) = .error verdict)
    (fault : Option SaveFault) :
    (c.publishObservation request fault).1 =
      ((c.rejectObservation record request.observation verdict).persistLocked fault).1 := by
  rw [← settle_id_fst _ fault ()]
  simp only [publishObservation, found, refused]
  split
  · rename_i settled
    rw [settled]
  · rename_i settled
    rw [settled]

omit [MetricReal R] in
theorem Coordinator.publishArtifact_refused {c : Coordinator R} {request : PublishArtifactRequest}
    {record : ExperimentRecord R} {envelope : AuthorityEnvelope} {verdict : Status}
    (found : c.findExperiment request.artifact.experiment = some record)
    (built : artifactEnvelope request record = .ok envelope)
    (refused : c.checkEnvelope envelope = .error verdict) (fault : Option SaveFault) :
    EvidenceRefused c (c.publishArtifact request fault).1 request.artifact.experiment record
      record.observations
      (record.rejections (text "artifact") request.artifact.id.value verdict) := by
  have ended : (c.publishArtifact request fault).1 = ((c.withRecord request.artifact.experiment
      (record.reject (text "artifact") request.artifact.id.value verdict)).persistLocked
        fault).1 := by
    rw [← settle_id_fst _ fault ()]
    simp only [publishArtifact, found, built, refused]
    split
    · rename_i settled
      rw [settled]
    · rename_i settled
      rw [settled]
  have logged : EvidenceRefused c (c.withRecord request.artifact.experiment
      (record.reject (text "artifact") request.artifact.id.value verdict))
      request.artifact.experiment record record.observations
      (record.rejections (text "artifact") request.artifact.id.value verdict) := by
    refine ⟨found, ?_, rfl, rfl, rfl, rfl, rfl, rfl, rfl⟩
    rw [← reject_eq]
    rfl
  rw [ended]
  exact logged.persistLocked fault

variable [CanonicalDigests R]

/-- Decisions are the same and no refused commit has become possible. -/
structure SameOutcomes (c c' : Coordinator R) : Prop where
  verdicts : ∀ experiment candidate,
    c'.verdict experiment candidate = c.verdict experiment candidate
  commits : ∀ request fault, (c.commitTrial request fault).2 ≠ .ok () →
    (c'.commitTrial request fault).2 ≠ .ok ()

/-- A refusal that retains no observation influences nothing. -/
theorem EvidenceRefused.sameOutcomes {c c' : Coordinator R} {experiment : ExperimentId}
    {record : ExperimentRecord R} {kind : Text} {identifier : Nat} {verdict : Status}
    (refused : EvidenceRefused c c' experiment record record.observations
      (record.rejections kind identifier verdict)) : SameOutcomes c c' where
  verdicts := verdict_withEvidence refused.found refused.stored rfl
  commits := fun request fault before after => by
    have growth : (record.withEvidence record.observations
        (record.rejections kind identifier verdict)).recordCount =
          record.recordCount + record.rejectGrowth := by
      have counted := recordCount_withEvidence record record.observations kind identifier verdict
      omega
    obtain ⟨-, branch, trial, attempt, -, unpublished, published, -⟩ :=
      refused.commit_flip record.rejectGrowth growth before after
    exact published unpublished

section Retained

variable {c c' : Coordinator R} {record : ExperimentRecord R} {observation retained : Observation R}
  {identifier : Nat} {verdict : Status}

omit [MetricReal R] [CanonicalDigests R] in
/-- Whether an observation is counted depends on its trial, its attempt and its metric. -/
theorem counted_congr (trial : retained.trial = observation.trial)
    (attempt : retained.attempt = observation.attempt)
    (metric : retained.metric = observation.metric) :
    Counted record retained ↔ Counted record observation := by
  constructor
  all_goals
    rintro ⟨current, known, held⟩
    refine ⟨?_, ?_, ?_⟩
    · simpa [ExperimentRecord.isCurrent, trial, attempt] using current
    · simpa [metric] using known
    · simpa [trial] using held

omit [MetricReal R] [CanonicalDigests R] in
theorem recordCount_retained (record : ExperimentRecord R) (retained : Observation R)
    (identifier : Nat) (verdict : Status) :
    (record.withEvidence (record.observations ++ [retained])
        (record.rejections (text "observation") identifier verdict)).recordCount =
      record.recordCount + (1 + record.rejectGrowth) := by
  have counted := recordCount_withEvidence record (record.observations ++ [retained])
    (text "observation") identifier verdict
  rw [List.length_append, List.length_singleton] at counted
  omega

omit [MetricReal R] [CanonicalDigests R] in
/-- A retained observation that makes a commit possible turns the answer of one. -/
theorem EvidenceRefused.enables_flips
    (refused : EvidenceRefused c c' observation.experiment record
      (record.observations ++ [retained])
      (record.rejections (text "observation") identifier verdict))
    (trial : retained.trial = observation.trial) (attempt : retained.attempt = observation.attempt)
    (enables : EnablesCommit c record observation) :
    ∃ request, (c.commitTrial request none).2 ≠ .ok () ∧ (c'.commitTrial request none).2 = .ok () := by
  have growth := recordCount_retained record retained identifier verdict
  obtain ⟨unpublished, ⟨envelope, branch, trialHeld, attemptHeld, here, accepted, trialSame,
    attemptSame, allowed⟩, fits⟩ := enables
  -- The commit that presents the live envelope and no artifact.
  let request : CommitTrialRequest :=
    { epoch := envelope.epoch, worker := envelope.worker, boot := envelope.boot, envelope }
  have guarded : c.commitTrialGuard request = .ok ⟨record, branch, trialHeld, attemptHeld⟩ := by
    simp [Coordinator.commitTrialGuard, Coordinator.transportMatches, request, accepted]
  refine ⟨request, ?_, ?_⟩
  · intro committed
    obtain ⟨check, guarded', published, -⟩ := (c.commitTrial_ok_iff request none).mp committed
    obtain rfl := Except.ok.inj (guarded.symm.trans guarded')
    rw [trialSame, attemptSame] at published
    exact published unpublished
  · have guarded' := (refused.commitTrialGuard request branch trialHeld attemptHeld _).mpr
      ⟨record, guarded, rfl⟩
    rw [if_pos here] at guarded'
    have lookup : c'.nextSequence.findExperiment request.envelope.experiment =
        some (record.withEvidence (record.observations ++ [retained])
          (record.rejections (text "observation") identifier verdict)) :=
      (refused.find _).trans (if_pos here)
    refine (c'.commitTrial_ok_iff request none).mpr
      ⟨_, guarded', ?_, rfl, allowed, _, lookup, ?_⟩
    · rw [observationsHeld_withEvidence, trialSame, attemptSame, if_pos ⟨trial, attempt⟩]
      omega
    · have total := (refused.alike _ growth).count
      have count := Coordinator.commit_count lookup request.envelope.trial
        request.envelope.attempt (c'.currentSequence + 1)
      have limits : c'.limits = c.limits := congrArg Config.limits refused.config
      refine fits.imp (fun empty => (congrArg Config.statePath refused.config).trans empty) ?_
      rintro ⟨format, bound⟩
      refine ⟨refused.format.trans format, count.le.trans ?_, rfl⟩
      change c'.state.totalRecordCount + record.logGrowth ≤ c'.limits.maxPersistedRecords
      rw [limits, total]
      omega

/-- A retained observation influences nothing exactly when it is neither counted nor makes a commit
possible. -/
theorem EvidenceRefused.sameOutcomes_iff
    (refused : EvidenceRefused c c' observation.experiment record
      (record.observations ++ [retained])
      (record.rejections (text "observation") identifier verdict))
    (invalid : retained.validity = .invalid) (trial : retained.trial = observation.trial)
    (attempt : retained.attempt = observation.attempt)
    (metric : retained.metric = observation.metric) :
    SameOutcomes c c' ↔ ¬ (Counted record observation ∨ EnablesCommit c record observation) := by
  have counted : Counted record retained ↔ Counted record observation :=
    counted_congr trial attempt metric
  constructor
  · rintro ⟨verdicts, commits⟩ (isCounted | enables)
    · have same := verdicts observation.experiment .null
      unfold Coordinator.verdict Coordinator.evaluate at same
      rw [refused.find, if_pos rfl, refused.found] at same
      have aggregates := congrArg Verdict.aggregates (Except.ok.inj same)
      simp only [Decision.verdict, buildDecision_evidence] at aggregates
      exact aggregates_counted record retained _ invalid (counted.mpr isCounted) aggregates
    · obtain ⟨request, before, after⟩ := refused.enables_flips trial attempt enables
      exact commits request none before after
  · intro uninfluential
    rw [not_or] at uninfluential
    have same := computeEvidence_uncounted record retained
      (record.rejections (text "observation") identifier verdict) invalid
      (fun isCounted => uninfluential.1 (counted.mp isCounted))
    refine ⟨verdict_withEvidence refused.found refused.stored same, ?_⟩
    intro request fault before after
    obtain ⟨here, branch, trialHeld, attemptHeld, accepted, unpublished, published, allowed, fits⟩ :=
      refused.commit_flip _ (recordCount_retained record retained identifier verdict) before after
    rw [observationsHeld_withEvidence, unpublished] at published
    have named : retained.trial = trialHeld.id ∧ retained.attempt = attemptHeld.id := by
      by_contra other
      simp [other] at published
    refine uninfluential.2 ⟨?_, ⟨request.envelope, branch, trialHeld, attemptHeld, here, accepted,
      named.1.symm.trans trial, named.2.symm.trans attempt, allowed⟩, fits⟩
    rw [← trial, ← attempt, named.1, named.2]
    exact unpublished

end Retained

/-- A publication whose envelope the coordinator refuses. -/
inductive Coordinator.RefusesEvidence (c : Coordinator R) : Request R → Prop where
  | observation {request : PublishObservationRequest R} {record : ExperimentRecord R}
      {verdict : Status}
      (found : c.findExperiment request.observation.experiment = some record)
      (refused : c.checkEnvelope (observationEnvelope request record) = .error verdict) :
      RefusesEvidence c (.publishObservation request)
  | artifact {request : PublishArtifactRequest} {record : ExperimentRecord R}
      {envelope : AuthorityEnvelope} {verdict : Status}
      (found : c.findExperiment request.artifact.experiment = some record)
      (built : artifactEnvelope request record = .ok envelope)
      (refused : c.checkEnvelope envelope = .error verdict) :
      RefusesEvidence c (.publishArtifact request)

/-- A refused publication leaves every decision as it was and every refused commit refused exactly
when it is not an observation that is retained and then counted. -/
theorem refused_evidence_inert_iff {c : Coordinator R} {request : Request R}
    (refuses : c.RefusesEvidence request) (fault : Option SaveFault) :
    SameOutcomes c (c.perform request fault).1 ↔
      ∀ publication record, request = .publishObservation publication →
        c.findExperiment publication.observation.experiment = some record →
          ¬ Influential c record publication.observation := by
  cases refuses with
  | @observation publication record verdict found refused =>
      have left := (Coordinator.rejectObservation_refused verdict found).persistLocked fault
      rw [← Coordinator.publishObservation_refused found refused fault] at left
      have only : (∀ other held, Request.publishObservation publication =
          .publishObservation other → c.findExperiment other.observation.experiment = some held →
            ¬ Influential c held other.observation) ↔
          ¬ Influential c record publication.observation := by
        constructor
        · exact fun all => all publication record rfl found
        · rintro inert other held ⟨⟩ lookup
          obtain rfl := Option.some.inj (found.symm.trans lookup)
          exact inert
      rw [only]
      change SameOutcomes c (c.publishObservation publication fault).1 ↔ _
      by_cases retained : record.retains c.limits = true
      · rw [if_pos retained] at left
        rw [left.sameOutcomes_iff rfl rfl rfl rfl, Influential, and_iff_right retained]
      · rw [if_neg retained, List.append_nil] at left
        exact ⟨fun _ influential => retained influential.1, fun _ => left.sameOutcomes⟩
  | @artifact publication record envelope verdict found built refused =>
      have left := Coordinator.publishArtifact_refused found built refused fault
      exact ⟨fun _ _ _ named => (by cases named), fun _ => left.sameOutcomes⟩

end Influence

namespace Sample

/-- The sample experiment under the policy that retains late evidence. -/
def retainingSpec : ExperimentSpec ℚ := { spec with lateEvidencePolicy := .retainHistorical }

/-- The coordinator after the claim, under the retaining policy. -/
def retaining : Coordinator ℚ :=
  coordinator.session [(.createExperiment retainingSpec, none),
    (.createTrial experiment candidate [], none), (.registerWorker { worker, boot }, none),
    (.claimTrials { epoch := coordinator.epoch, worker, boot }, none)]

theorem retaining_reachable : (World.running retaining).Reachable config.statePath :=
  coordinator_reachable.session _

/-- The publication of the worker. -/
def current : PublishObservationRequest ℚ :=
  { epoch := coordinator.epoch, worker, boot, observation }

/-- The same publication under the epoch of another coordinator. -/
def stale : PublishObservationRequest ℚ := { epoch := ⟨2⟩, worker, boot, observation }

/-- The commit of the claimed trial. -/
def commit : CommitTrialRequest := { epoch := coordinator.epoch, worker, boot, envelope }

/-- The coordinator after the publication, under the retaining policy. -/
def retainingPublished : Coordinator ℚ := (retaining.perform (.publishObservation current) none).1

theorem refuses_stale {c : Coordinator ℚ}
    (refused : ((c.findExperiment experiment).map fun record =>
      (c.checkEnvelope (observationEnvelope stale record)).isOk) = some false) :
    c.RefusesEvidence (.publishObservation stale) := by
  obtain ⟨record, found, rejected⟩ := Option.map_eq_some_iff.mp refused
  cases verdict : c.checkEnvelope (observationEnvelope stale record) with
  | ok check => simp [verdict, Except.isOk, Except.toBool] at rejected
  | error failure => exact .observation found verdict

end Sample

/-- A refused observation of a trial that has published and is not committed influences nothing. -/
theorem refused_evidence_inert_sample : SameOutcomes Sample.retainingPublished
    (Sample.retainingPublished.perform (.publishObservation Sample.stale) none).1 := by
  refine (refused_evidence_inert_iff (Sample.refuses_stale (by decide +kernel)) none).mpr ?_
  rintro publication record ⟨⟩ found ⟨-, counted | enables⟩
  · have uncommitted : (Sample.retainingPublished.findExperiment Sample.experiment).all (fun record =>
        record.definition.branches.all fun branch =>
          (record.authoritativeTrials branch.id).isEmpty) = true := by
      decide +kernel
    obtain ⟨branch, known, trial, held, -⟩ := counted.trial
    rw [show Sample.retainingPublished.findExperiment Sample.experiment = some record from found]
      at uncommitted
    have empty := List.isEmpty_iff.mp (List.all_eq_true.mp uncommitted branch known)
    rw [empty] at held
    cases held
  · have published : (Sample.retainingPublished.findExperiment Sample.experiment).all (fun record =>
        Coordinator.observationsHeld record Sample.trial ⟨1⟩ ≠ 0) = true := by
      decide +kernel
    rw [show Sample.retainingPublished.findExperiment Sample.experiment = some record from found]
      at published
    exact of_decide_eq_true published enables.unpublished

/-- A refused observation of a claimed trial that has published nothing lets the trial be
committed. -/
theorem refused_evidence_counted :
    (World.running Sample.retaining).Reachable Sample.config.statePath ∧
      Sample.retaining.RefusesEvidence (.publishObservation Sample.stale) ∧
      ¬ SameOutcomes Sample.retaining
        (Sample.retaining.perform (.publishObservation Sample.stale) none).1 := by
  refine ⟨Sample.retaining_reachable, Sample.refuses_stale (by decide +kernel), fun same => ?_⟩
  have before : (Sample.retaining.commitTrial Sample.commit none).2.isOk = false := by
    decide +kernel
  have after : ((Sample.retaining.perform (.publishObservation Sample.stale) none).1.commitTrial
      Sample.commit none).2.isOk = true := by
    decide +kernel
  have refused := same.commits Sample.commit none fun accepted => by
    rw [accepted] at before
    cases before
  cases result : ((Sample.retaining.perform (.publishObservation Sample.stale) none).1.commitTrial
      Sample.commit none).2 with
  | ok done => exact refused result
  | error failure =>
      rw [result] at after
      cases after

end ExperimentFabric
