import ExperimentFabric.Conformance
import ExperimentFabric.Governance
import ExperimentFabric.Indexes

/-!
# What a failed save leaves in memory

A request that cannot be saved reports a failure, but most requests leave in memory what they could
not save.  The experiments, the worker records, the live table and the indexes are compared before
and after, and the requests that a failed save leaves without a trace are told from the others.
-/

namespace ExperimentFabric

open Lib

variable {R : Type}

/-! ## The memory of a coordinator -/

/-- A record without its lifecycle log. -/
def ExperimentRecord.unlogged (record : ExperimentRecord R) : ExperimentRecord R :=
  { record with lifecycleLog := [] }

/-- The memory is as before, counters and lifecycle logs apart. -/
structure Coordinator.SameMemory (c c' : Coordinator R) : Prop where
  experiments : c'.state.experiments.mapValues ExperimentRecord.unlogged =
    c.state.experiments.mapValues ExperimentRecord.unlogged
  workers : c'.state.workers = c.state.workers
  liveWorkers : c'.liveWorkers = c.liveWorkers
  observations : ∀ experiment, c'.observationsOf experiment = c.observationsOf experiment
  artifacts : ∀ experiment, c'.artifactsOf experiment = c.artifactsOf experiment

/-- A reply that reports a failure and carries no result. -/
def Reply.emptyFailure : Reply R → Bool
  | .registration reply => !reply.status.isOk && !reply.accepted && !reply.producer.valid
  | .claim reply => !reply.status.isOk && reply.assignments.isEmpty
  | reply => !reply.succeeded

section Memory

variable {c c' : Coordinator R} {experiment : ExperimentId} {before after : ExperimentRecord R}

theorem Coordinator.SameMemory.record (same : c.SameMemory c')
    (found : c.findExperiment experiment = some before)
    (found' : c'.findExperiment experiment = some after) : after.unlogged = before.unlogged := by
  have lookup := congrArg (OrderedMap.find? · experiment) same.experiments
  simp only [OrderedMap.find?_mapValues] at lookup
  rw [show c.state.experiments.find? experiment = some before from found,
    show c'.state.experiments.find? experiment = some after from found'] at lookup
  exact Option.some.inj lookup

/-- The degradation flag is not part of the memory. -/
theorem sameMemory_degraded_iff (prepared : Coordinator R) :
    c.SameMemory { prepared with persistenceDegraded := true } ↔ c.SameMemory prepared :=
  ⟨fun same => ⟨same.1, same.2, same.3, same.4, same.5⟩,
    fun same => ⟨same.1, same.2, same.3, same.4, same.5⟩⟩

/-- Where one record is replaced, the memory is as before exactly when that record is. -/
theorem sameMemory_assign_iff (found : c.findExperiment experiment = some before)
    (stored : c'.state.experiments = c.state.experiments.assign experiment after)
    (workers : c'.state.workers = c.state.workers) (liveWorkers : c'.liveWorkers = c.liveWorkers)
    (observations : ∀ id, c'.observationsOf id = c.observationsOf id)
    (artifacts : ∀ id, c'.artifactsOf id = c.artifactsOf id) :
    c.SameMemory c' ↔ after.unlogged = before.unlogged := by
  constructor
  · intro same
    refine same.record found ?_
    rw [Coordinator.findExperiment, stored, OrderedMap.find?_assign_self]
  · intro same
    refine ⟨?_, workers, liveWorkers, observations, artifacts⟩
    have held : (c.state.experiments.mapValues ExperimentRecord.unlogged).find? experiment =
        some before.unlogged := by
      rw [OrderedMap.find?_mapValues, show c.state.experiments.find? experiment = some before
        from found, Option.map_some]
    rw [stored, OrderedMap.mapValues_assign, same]
    exact OrderedMap.assign_self held

end Memory

/-! ## Lost incarnations -/

/-- The incarnation was revoked already, for the same reason, and holds nothing. -/
structure Coordinator.AlreadyRevoked (c : Coordinator R) (worker : WorkerId) (boot : WorkerBootId)
    (kind : FailureKind) : Prop where
  live : ∃ live, c.findLiveWorker worker boot = some live ∧ live.revoked = true ∧
    live.revocationKind = kind
  workers : ∀ incarnation ∈ c.state.workers, incarnation.worker = worker →
    incarnation.boot = boot → incarnation.revoked = true
  attempts : ∀ experiment record, c.findExperiment experiment = some record →
    record.liveAttemptsOf worker boot = []

section Revocation

variable {worker : WorkerId} {boot : WorkerBootId} {kind : FailureKind}
  {attemptDetail trialDetail line : Text} {sequence : Nat}

theorem revokeIncarnation_eq_self_iff (incarnation : WorkerIncarnation) :
    revokeIncarnation worker boot kind sequence incarnation = incarnation ↔
      (incarnation.worker = worker → incarnation.boot = boot → incarnation.revoked = true) := by
  unfold revokeIncarnation
  split
  · rename_i named
    simp only [Bool.and_eq_true, decide_eq_true_eq, Bool.not_eq_true'] at named
    obtain ⟨⟨same, sameBoot⟩, unrevoked⟩ := named
    constructor
    · intro unchanged
      have revoked := congrArg WorkerIncarnation.revoked unchanged
      exact nomatch unrevoked.symm.trans revoked.symm
    · intro revoked
      exact nomatch unrevoked.symm.trans (revoked same sameBoot)
  · rename_i other
    simp only [Bool.and_eq_true, decide_eq_true_eq, Bool.not_eq_true', not_and,
      Bool.not_eq_false] at other
    exact ⟨fun _ same sameBoot => other ⟨same, sameBoot⟩, fun _ => rfl⟩

/-- A record is untouched by the loss of an incarnation exactly when that held no live attempt. -/
theorem loseWorker_unlogged_iff (record : ExperimentRecord R) :
    (record.loseWorker worker boot kind attemptDetail trialDetail sequence line).unlogged =
      record.unlogged ↔ record.liveAttemptsOf worker boot = [] := by
  constructor
  · intro same
    have attempts : (record.loseWorker worker boot kind attemptDetail trialDetail sequence
        line).attempts = record.attempts := congrArg (fun record => record.attempts) same
    refine List.eq_nil_iff_forall_not_mem.mpr fun entry member => ?_
    simp only [ExperimentRecord.liveAttemptsOf, List.mem_filter, Bool.and_eq_true,
      Bool.not_eq_true', decide_eq_true_eq] at member
    obtain ⟨listed, named, isOpen⟩ := member
    have found := (OrderedMap.mem_entries_iff _ _ _).mp listed
    rw [← attempts] at found
    exact (Coordinator.loseWorker_open found isOpen).2 named
  · intro none
    unfold ExperimentRecord.loseWorker
    rw [none]
    rfl

theorem revoking_find? (c : Coordinator R) (reason : Text) (experiment : ExperimentId) :
    (c.revoking worker boot kind reason).findExperiment experiment =
      (c.findExperiment experiment).map (ExperimentRecord.loseWorker worker boot kind reason reason
        (c.currentSequence + 1)
        (text "worker-revoked worker=" ++ worker.toText ++ text " reason=" ++ reason)) :=
  OrderedMap.find?_mapValues ..

theorem revoking_sameMemory_iff {c : Coordinator R} {reason : Text} {live : LiveWorker}
    (known : c.findLiveWorker worker boot = some live) :
    c.SameMemory (c.revoking worker boot kind reason) ↔ c.AlreadyRevoked worker boot kind := by
  have entry : c.liveWorkers.find? (workerKey worker boot) = some live := known
  constructor
  · intro same
    refine ⟨⟨live, known, ?_⟩, fun incarnation member => ?_, fun experiment record found => ?_⟩
    · have lookup := congrArg (OrderedMap.find? · (workerKey worker boot)) same.liveWorkers
      simp only [Coordinator.revoking, Coordinator.nextSequence, OrderedMap.find?_modify, if_true,
        entry, Option.map_some, Option.some.injEq] at lookup
      exact ⟨(congrArg LiveWorker.revoked lookup).symm,
        (congrArg LiveWorker.revocationKind lookup).symm⟩
    · have unchanged := List.map_inj_left.mp (same.workers.trans (List.map_id _).symm) incarnation
        member
      exact (revokeIncarnation_eq_self_iff incarnation).mp unchanged
    · have lost : (c.revoking worker boot kind reason).findExperiment experiment = _ :=
        revoking_find? c reason experiment
      rw [found, Option.map_some] at lost
      exact (loseWorker_unlogged_iff record).mp (same.record found lost)
  · rintro ⟨⟨_, lookup, revoked, sameKind⟩, workers, attempts⟩
    obtain rfl := Option.some.inj (known.symm.trans lookup)
    refine ⟨?_, ?_, ?_, fun _ => rfl, fun _ => rfl⟩
    · ext1 experiment
      have lost : (c.revoking worker boot kind reason).findExperiment experiment = _ :=
        revoking_find? c reason experiment
      simp only [Coordinator.findExperiment] at lost
      rw [OrderedMap.find?_mapValues, OrderedMap.find?_mapValues, lost, Option.map_map]
      refine Option.map_congr fun record found => ?_
      exact (loseWorker_unlogged_iff record).mpr (attempts experiment record found)
    · refine (List.map_inj_left.mpr fun incarnation member => ?_).trans (List.map_id _)
      exact (revokeIncarnation_eq_self_iff incarnation).mpr (workers incarnation member)
    · have unchanged : c.liveWorkers.modify (workerKey worker boot) (fun entry =>
          { entry with revoked := true, revocationKind := kind }) = c.liveWorkers := by
        refine OrderedMap.modify_self fun other lookup => ?_
        obtain rfl := Option.some.inj (entry.symm.trans lookup)
        rw [← revoked, ← sameKind]
      exact unchanged

end Revocation

/-! ## Records whose change is undone -/

section Undone

variable {record : ExperimentRecord R} {trialKey : TrialId} {attemptKey : TrialAttemptId}
  {trial : TrialRecord} {attempt : AttemptRecord} {c : Coordinator R}

/-- Dropping a branch that was just forked restores the record, the stamp of its last revision
apart. -/
theorem unfork_unlogged_iff (branch : BranchDefinition) (sequence : Nat) :
    (record.fork branch sequence).unfork.unlogged = record.unlogged ↔
      record.revisionSequence = sequence := by
  have undone : (record.fork branch sequence).unfork.unlogged =
      { record.unlogged with revisionSequence := sequence } := by
    simp [ExperimentRecord.fork, ExperimentRecord.unfork, ExperimentRecord.log,
      ExperimentRecord.unlogged]
  rw [undone]
  constructor
  · intro same
    exact (congrArg (fun record => record.revisionSequence) same).symm
  · rintro rfl
    rfl

/-- Observing moves a trial and an attempt that were not observed yet. -/
theorem ExperimentRecord.observe_moved (record : ExperimentRecord R) (trial : TrialRecord)
    (attempt : AttemptRecord) (trialKey : TrialId) (attemptKey : TrialAttemptId) (sequence : Nat) :
    (record.observe trial attempt trialKey attemptKey sequence).1.trials =
        (if trial.state = .assigned ∨ trial.state = .running then
          record.trials.modify trialKey (·.observing (sequence + 1))
        else record.trials) ∧
      ∃ later, (record.observe trial attempt trialKey attemptKey sequence).1.attempts =
        (if attempt.state = .issued then record.attempts.modify attemptKey (·.started later)
        else record.attempts) := by
  have allowed : trial.state = .assigned ∨ trial.state = .running →
      trial.state.isValidTransition .observing = true := by
    rintro (assigned | running)
    · rw [assigned]
      rfl
    · rw [running]
      rfl
  by_cases unobserved : trial.state = .assigned ∨ trial.state = .running
  · by_cases issued : attempt.state = .issued
    · simp [ExperimentRecord.observe, allowed unobserved, unobserved, issued]
      exact ⟨_, rfl⟩
    · simp [ExperimentRecord.observe, allowed unobserved, unobserved, issued]
  · by_cases issued : attempt.state = .issued
    · simp [ExperimentRecord.observe, unobserved, issued]
      exact ⟨_, rfl⟩
    · simp [ExperimentRecord.observe, unobserved, issued]

/-- Observing leaves a trace unless the trial and the attempt were observed already. -/
theorem observe_unlogged_iff (trialFound : record.trials.find? trialKey = some trial)
    (attemptFound : record.attempts.find? attemptKey = some attempt) (sequence : Nat) :
    (record.observe trial attempt trialKey attemptKey sequence).1.unlogged = record.unlogged ↔
      trial.state ≠ .assigned ∧ trial.state ≠ .running ∧ attempt.state ≠ .issued := by
  obtain ⟨movedTrials, later, movedAttempts⟩ := record.observe_moved trial attempt trialKey
    attemptKey sequence
  constructor
  · intro same
    have trials : (record.observe trial attempt trialKey attemptKey sequence).1.trials =
        record.trials := congrArg (fun record => record.trials) same
    have attempts : (record.observe trial attempt trialKey attemptKey sequence).1.attempts =
        record.attempts := congrArg (fun record => record.attempts) same
    have unmoved : ¬ (trial.state = .assigned ∨ trial.state = .running) := by
      intro unobserved
      rw [if_pos unobserved, trials] at movedTrials
      have lookup := congrArg (OrderedMap.find? · trialKey) movedTrials
      simp only [OrderedMap.find?_modify, if_true, trialFound, Option.map_some,
        Option.some.injEq] at lookup
      have state := congrArg TrialRecord.state lookup
      rw [TrialRecord.observing] at state
      simp [state] at unobserved
    refine ⟨fun assigned => unmoved (.inl assigned), fun running => unmoved (.inr running),
      fun issued => ?_⟩
    rw [if_pos issued, attempts] at movedAttempts
    have lookup := congrArg (OrderedMap.find? · attemptKey) movedAttempts
    simp only [OrderedMap.find?_modify, if_true, attemptFound, Option.map_some,
      Option.some.injEq] at lookup
    have state := congrArg AttemptRecord.state lookup
    exact nomatch issued.symm.trans state
  · rintro ⟨assigned, running, issued⟩
    simp [ExperimentRecord.observe, assigned, running, issued]

/-- Touching a trial leaves a trace unless it carries the stamp already. -/
theorem touch_unlogged_iff (trialFound : record.trials.find? trialKey = some trial)
    (sequence : Nat) : (record.touch trialKey sequence).unlogged = record.unlogged ↔
      trial.updatedSequence = sequence := by
  constructor
  · intro same
    have trials : (record.touch trialKey sequence).trials = record.trials :=
      congrArg (fun record => record.trials) same
    have lookup := congrArg (OrderedMap.find? · trialKey) trials
    simp only [ExperimentRecord.touch, OrderedMap.find?_modify, if_true, trialFound,
      Option.map_some, Option.some.injEq] at lookup
    exact (congrArg TrialRecord.updatedSequence lookup).symm
  · rintro rfl
    have same : record.trials.modify trialKey (·.touch trial.updatedSequence) = record.trials := by
      refine OrderedMap.modify_self fun other found => ?_
      obtain rfl := Option.some.inj (trialFound.symm.trans found)
      rfl
    rw [ExperimentRecord.touch, same]

theorem reject_unlogged_iff (record : ExperimentRecord R) (kind : Text) (identifier : Nat)
    (verdict : Status) : (record.reject kind identifier verdict).unlogged = record.unlogged ↔
      65536 ≤ record.rejectedEvidence.length := by
  unfold ExperimentRecord.reject
  split
  · rename_i room
    refine ⟨fun same => ?_, fun full => absurd room (by omega)⟩
    have longer := congrArg (fun record => record.rejectedEvidence.length) same
    simp [ExperimentRecord.unlogged] at longer
  · rename_i full
    exact ⟨fun _ => by omega, fun _ => rfl⟩

theorem rejectObservation_sameMemory_iff {record : ExperimentRecord R}
    {observation : Observation R}
    (found : c.findExperiment observation.experiment = some record) (verdict : Status) :
    c.SameMemory (c.rejectObservation record observation verdict) ↔
      65536 ≤ record.rejectedEvidence.length ∧ record.retains c.limits = false := by
  cases retained : record.retains c.limits with
  | true =>
      refine ⟨fun same => ?_, fun impossible => nomatch impossible.2⟩
      have held : (c.rejectObservation record observation verdict).findExperiment
          observation.experiment = some ((record.reject (text "observation") observation.id.value
            verdict).pushObservation (Coordinator.historical observation verdict
              (c.currentSequence + 1))) := by
        rw [Coordinator.rejectObservation, if_pos retained]
        exact OrderedMap.find?_assign_self ..
      have longer := congrArg (fun record => record.observations.length) (same.record found held)
      have kept := (Coordinator.reject_evidence record (text "observation") observation.id.value
        verdict).1
      simp [ExperimentRecord.unlogged, ExperimentRecord.pushObservation, kept] at longer
  | false =>
      rw [Coordinator.rejectObservation, if_neg (by rw [retained]; decide), and_iff_left rfl, ← reject_unlogged_iff record (text "observation") observation.id.value
        verdict]
      exact sameMemory_assign_iff found rfl rfl rfl (fun _ => rfl) fun _ => rfl

/-! ### Requests that show -/

/-- A retired branch has another generation. -/
theorem retire_unlogged_ne {record : ExperimentRecord R} {branch : BranchId}
    {current : BranchDefinition} (found : record.findBranch branch = some current) (reason : Text)
    (sequence : Nat) : (record.retire branch reason sequence).unlogged ≠ record.unlogged := by
  intro held
  have branches := congrArg (fun record => record.findBranch branch) held
  have retired : (record.retire branch reason sequence).findBranch branch =
      (record.findBranch branch).map fun current =>
        { current with state := .retired, generation := ⟨current.generation.value + 1⟩ } := by
    refine (ExperimentRecord.find?_updateBranch branch branch ?_ record.definition.branches).trans
      (if_pos rfl)
    exact fun _ => rfl
  rw [found, Option.map_some] at retired
  have later := Option.some.inj (retired.symm.trans (branches.trans found))
  have number := congrArg (fun branch => branch.generation.value) later
  simp at number

/-- A completed trial is no longer open. -/
theorem complete_unlogged_ne {record before : ExperimentRecord R} {trial : TrialRecord}
    {trialKey : TrialId} (found : before.trials.find? trialKey = some trial)
    (isOpen : isTerminal trial.state = false) (attemptKey : TrialAttemptId) (sequence : Nat) :
    (record.complete trialKey attemptKey sequence).unlogged ≠ before.unlogged := by
  intro held
  have trials := congrArg (fun record => record.trials.find? trialKey) held
  have completed : (record.trials.find? trialKey).map (·.commit sequence) = some trial :=
    ((OrderedMap.find?_modify ..).trans (if_pos rfl)).symm.trans (trials.trans found)
  obtain ⟨earlier, -, same⟩ := Option.map_eq_some_iff.mp completed
  rw [← same] at isOpen
  cases isOpen

/-- A failed attempt is no longer open. -/
theorem fail_unlogged_ne {record : ExperimentRecord R} {attempt : AttemptRecord}
    {attemptKey : TrialAttemptId} (found : record.attempts.find? attemptKey = some attempt)
    (isOpen : isAttemptTerminal attempt.state = false) (trial : TrialRecord) (trialKey : TrialId)
    (kind : FailureKind) (detail : Text) (retry : Bool) (sequence : Nat) :
    (record.fail trial trialKey attemptKey kind detail retry sequence).unlogged ≠
      record.unlogged := by
  intro held
  have attempts := congrArg (fun record => record.attempts.find? attemptKey) held
  have failed : (record.fail trial trialKey attemptKey kind detail retry
      sequence).attempts.find? attemptKey = some (attempt.finish .failed kind detail sequence) := by
    refine (congrArg (OrderedMap.find? · attemptKey) (fail_attempts ..)).trans ?_
    refine ((OrderedMap.find?_modify ..).trans (if_pos rfl)).trans ?_
    rw [found, Option.map_some]
  have ended := Option.some.inj (failed.symm.trans (attempts.trans found))
  rw [← ended] at isOpen
  cases isOpen

/-- A cancelled trial is no longer open. -/
theorem cancelTrial_unlogged_ne {record : ExperimentRecord R} {held : TrialRecord} {trial : TrialId}
    (found : record.trials.find? trial = some held) (isOpen : isTerminal held.state = false)
    (reason : Text) (sequence : Nat) :
    (record.cancelTrial trial reason sequence).unlogged ≠ record.unlogged := by
  intro same
  have trials := congrArg (fun record => record.trials.find? trial) same
  have cancelled : (record.cancelTrial trial reason sequence).trials.find? trial =
      some (held.finish .cancelled .cancellation reason sequence) := by
    refine ((OrderedMap.find?_modify ..).trans (if_pos rfl)).trans ?_
    rw [found, Option.map_some]
  have ended := Option.some.inj (cancelled.symm.trans (trials.trans found))
  rw [← ended] at isOpen
  cases isOpen

end Undone

/-! ## Failed saves -/

section Failures

variable [MetricReal R] [CanonicalDigests R]

/-- Saving fails during the request. -/
def Coordinator.SaveFails (c : Coordinator R) (request : Request R) (fault : Option SaveFault) :
    Prop :=
  ∃ prepared undo answer, Saving c request prepared undo answer ∧
    c.perform request fault = prepared.endWith fault undo answer ∧ ¬ prepared.Savable fault

/-- A failed save of the request leaves no trace: the operation undoes all that it has done, or
finds all of it done already. -/
def Coordinator.LeavesNoTrace (c : Coordinator R) : Request R → Prop
  | .createExperiment _ | .createTrial _ _ _ | .save | .stopServer => True
  | .forkBranch experiment _ _ => ∃ record, c.findExperiment experiment = some record ∧
      record.revisionSequence = c.currentSequence + 1
  | .revokeWorker worker boot kind _ => c.AlreadyRevoked worker boot kind
  | .publishObservation request =>
      ∃ record, c.findExperiment request.observation.experiment = some record ∧
        match c.checkEnvelope (observationEnvelope request record) with
        | .error _ => 65536 ≤ record.rejectedEvidence.length ∧ record.retains c.limits = false
        | .ok check => check.trial.state ≠ .assigned ∧ check.trial.state ≠ .running ∧
            check.attempt.state ≠ .issued
  | .publishArtifact request =>
      ∃ record envelope, c.findExperiment request.artifact.experiment = some record ∧
        artifactEnvelope request record = .ok envelope ∧
        match c.checkEnvelope envelope with
        | .error _ => 65536 ≤ record.rejectedEvidence.length
        | .ok check => check.trial.updatedSequence = c.currentSequence + 2
  | _ => False

variable {c : Coordinator R} {request : Request R}

omit [CanonicalDigests R] in
/-- What is left of an accepted observation that could not be saved. -/
theorem undoObservation_sameMemory_iff (named : c.Named)
    {request : PublishObservationRequest R} {record : ExperimentRecord R} {check : EnvelopeCheck R}
    {admitted : Observation R}
    (accepted : c.checkEnvelope (observationEnvelope request record) = .ok check)
    (admission : c.admitObservation check.record request.observation = .ok (some admitted)) :
    c.SameMemory (Coordinator.undoObservation request.observation.experiment
        request.observation.id
        ((check.record.pushObservation
          { admitted with sequence := c.currentSequence + 1 }).observe check.trial check.attempt
            request.observation.trial request.observation.attempt (c.currentSequence + 1)).1
        { c.observing check request.observation admitted with persistenceDegraded := true }) ↔
      check.trial.state ≠ .assigned ∧ check.trial.state ≠ .running ∧
        check.attempt.state ≠ .issued := by
  obtain ⟨-, -, -, found, envelope⟩ := (c.checkEnvelope_eq_ok _ _).mp accepted
  have identity := named _ _ found
  obtain ⟨rfl, allowed⟩ := Coordinator.admitObservation_ok admission
  have free := allowed.free
  rw [identity] at free
  rw [← observe_unlogged_iff envelope.trialFound envelope.attemptFound (c.currentSequence + 1)]
  have dropped := observe_pushObservation_dropLast check.record
    { request.observation with sequence := c.currentSequence + 1 } check.trial check.attempt
    request.observation.trial request.observation.attempt (c.currentSequence + 1)
  have definition := (observe_fields (check.record.pushObservation
    { request.observation with sequence := c.currentSequence + 1 }) check.trial check.attempt
    request.observation.trial request.observation.attempt (c.currentSequence + 1)).2
  refine sameMemory_assign_iff found ?_ rfl rfl (fun other => ?_) fun _ => rfl
  · exact (OrderedMap.assign_assign ..).trans
      (congrArg (c.state.experiments.assign request.observation.experiment) dropped)
  · simp only [Coordinator.undoObservation, Coordinator.observing, Coordinator.observationsOf,
      Coordinator.indexObservations, identity]
    rw [definition, ExperimentRecord.pushObservation, identity]
    exact Coordinator.erased_positions free _ other

omit [MetricReal R] [CanonicalDigests R] in
/-- What is left of an accepted artifact that could not be saved. -/
theorem undoArtifact_sameMemory_iff (named : c.Named) {request : PublishArtifactRequest}
    {record : ExperimentRecord R} {envelope : AuthorityEnvelope} {check : EnvelopeCheck R}
    (built : artifactEnvelope request record = .ok envelope)
    (accepted : c.checkEnvelope envelope = .ok check)
    (admission : c.admitArtifact check.record check.trial request.artifact = .ok true) :
    c.SameMemory (Coordinator.undoArtifact request.artifact.experiment request.artifact.trial
        request.artifact.id (c.heldArtifact check request.artifact)
        { c.holding check request.artifact with persistenceDegraded := true }) ↔
      check.trial.updatedSequence = c.currentSequence + 2 := by
  obtain ⟨-, -, -, found, admitted⟩ := (c.checkEnvelope_eq_ok _ _).mp accepted
  have trialFound := admitted.trialFound
  rw [Coordinator.artifactEnvelope_experiment built] at found
  rw [Coordinator.artifactEnvelope_trial built] at trialFound
  have identity := named _ _ found
  have free := (Coordinator.admitArtifact_ok admission).free
  rw [identity] at free
  rw [← touch_unlogged_iff trialFound]
  refine sameMemory_assign_iff found ?_ rfl rfl (fun _ => rfl) fun other => ?_
  · exact (OrderedMap.assign_assign ..).trans
      (congrArg (c.state.experiments.assign request.artifact.experiment)
        (dropArtifact_touch_pushArtifact ..))
  · simp only [Coordinator.undoArtifact, Coordinator.holding, Coordinator.artifactsOf,
      Coordinator.indexArtifacts, identity]
    rw [show (c.heldArtifact check request.artifact).definition = check.record.definition from
      rfl, identity]
    exact Coordinator.erased_positions free _ other

/-- A request leaves in memory what could not be saved, unless it leaves no trace. -/
theorem Saving.undone_iff {prepared : Coordinator R} {undo : Coordinator R → Coordinator R}
    {answer : Check Status → Reply R} (saves : Saving c request prepared undo answer)
    (consistent : c.state.Consistent) (named : c.Named) (failure : Status) :
    (answer (.error failure)).emptyFailure = true ∧
        c.SameMemory (undo { prepared with persistenceDegraded := true }) ↔
      c.LeavesNoTrace request := by
  cases saves with
  | @create spec expected branch branches record accepted admitting room absent metrics known
      defined built valid =>
      refine iff_of_true ⟨rfl, ?_⟩ trivial
      have erased := OrderedMap.erase_assign _ _ record absent
      exact ⟨congrArg (OrderedMap.mapValues · ExperimentRecord.unlogged) erased, rfl, rfl,
        fun _ => rfl, fun _ => rfl⟩
  | @revise experiment spec record guarded =>
      refine iff_of_false (fun kept => ?_) id
      have found := (Coordinator.reviseHypothesisGuard_ok guarded).found
      have held := kept.2.record found (OrderedMap.find?_assign_self ..)
      have longer := congrArg (fun record => record.hypothesisHistory.length) held
      simp [ExperimentRecord.unlogged, ExperimentRecord.revise, ExperimentRecord.log,
        ExperimentRecord.abandonStaleLiveWork] at longer
  | @fork experiment parent spec record forked parentBranch guarded built valid =>
      subst built
      have found := (Coordinator.forkBranchGuard_ok guarded).found
      refine Iff.trans (and_iff_right rfl) (Iff.trans (sameMemory_assign_iff found
        (OrderedMap.assign_assign ..) rfl rfl (fun _ => rfl) fun _ => rfl) ?_)
      rw [unfork_unlogged_iff]
      constructor
      · exact fun stamped => ⟨record, found, stamped⟩
      · rintro ⟨_, lookup, stamped⟩
        obtain rfl := Option.some.inj (found.symm.trans lookup)
        exact stamped
  | @retire experiment branch reason record guarded =>
      refine iff_of_false (fun kept => ?_) id
      obtain ⟨found, definition, branchFound, -⟩ := Coordinator.retireBranchGuard_ok guarded
      exact retire_unlogged_ne branchFound reason _
        (kept.2.record found (OrderedMap.find?_assign_self ..))
  | @addTrial experiment branchId payload record added branch guarded built valid =>
      subst built
      have found := (Coordinator.createTrialGuard_ok guarded).found
      refine iff_of_true ⟨rfl, Iff.mpr (sameMemory_assign_iff found
        (OrderedMap.assign_assign ..) rfl rfl (fun _ => rfl) fun _ => rfl) ?_⟩ trivial
      refine ExperimentRecord.ext rfl rfl rfl rfl rfl rfl ?_ rfl rfl rfl rfl rfl rfl rfl
      exact (consistent _ record found).addTrialUndone (Nat.lt_succ_self _)
  | @register registration guarded unknown fresh =>
      refine iff_of_false (fun kept => ?_) id
      have longer := congrArg List.length kept.2.workers
      simp [Coordinator.addWorker, replacing_workers_length] at longer
  | revoke known =>
      refine Iff.trans (and_iff_right rfl) (Iff.trans (sameMemory_degraded_iff _) ?_)
      exact revoking_sameMemory_iff known
  | @claim claim live guarded issued =>
      refine iff_of_false (fun kept => issued ?_) id
      have empty := kept.1
      simp only [Reply.emptyFailure, Bool.and_eq_true, List.isEmpty_iff] at empty
      exact empty.2
  | @refuseObservation publication record verdict found refused =>
      refine Iff.trans (and_iff_right rfl) (Iff.trans (sameMemory_degraded_iff _)
        (Iff.trans (rejectObservation_sameMemory_iff found verdict) ?_))
      simp only [Coordinator.LeavesNoTrace, found, Option.some.injEq, exists_eq_left']
      rw [refused]
  | @publishObservation publication record check admitted found accepted admission =>
      refine Iff.trans (and_iff_right rfl)
        (Iff.trans (undoObservation_sameMemory_iff named accepted admission) ?_)
      simp only [Coordinator.LeavesNoTrace, found, Option.some.injEq, exists_eq_left']
      rw [accepted]
  | @refuseArtifact publication record envelope verdict found built refused =>
      refine Iff.trans (and_iff_right rfl) (Iff.trans (sameMemory_assign_iff found rfl rfl rfl
        (fun _ => rfl) fun _ => rfl) ?_)
      rw [reject_unlogged_iff]
      constructor
      · intro full
        exact ⟨record, envelope, found, built, by rw [refused]; exact full⟩
      · rintro ⟨_, _, lookup, same, full⟩
        obtain rfl := Option.some.inj (found.symm.trans lookup)
        obtain rfl := Except.ok.inj (built.symm.trans same)
        rw [refused] at full
        exact full
  | @publishArtifact publication record envelope check found built accepted admission =>
      refine Iff.trans (and_iff_right rfl)
        (Iff.trans (undoArtifact_sameMemory_iff named built accepted admission) ?_)
      constructor
      · intro stamped
        exact ⟨record, envelope, found, built, by rw [accepted]; exact stamped⟩
      · rintro ⟨_, _, lookup, same, stamped⟩
        obtain rfl := Option.some.inj (found.symm.trans lookup)
        obtain rfl := Except.ok.inj (built.symm.trans same)
        rw [accepted] at stamped
        exact stamped
  | @commit request check registered record guarded evidence accepted allowed found' =>
      refine iff_of_false (fun kept => ?_) id
      obtain ⟨-, -, -, found, admitted⟩ :=
        (c.checkEnvelope_eq_ok _ _).mp (Coordinator.commitTrialGuard_ok guarded)
      exact complete_unlogged_ne admitted.trialFound admitted.trialOpen _ _
        (kept.2.record found (OrderedMap.find?_assign_self ..))
  | @fail request check guarded =>
      refine iff_of_false (fun kept => ?_) id
      obtain ⟨-, -, -, found, admitted⟩ :=
        (c.checkEnvelope_eq_ok _ _).mp (Coordinator.failTrialGuard_ok guarded).1
      exact fail_unlogged_ne admitted.attemptFound admitted.attemptOpen _ _ _ _ _ _
        (kept.2.record found (OrderedMap.find?_assign_self ..))
  | @cancelTrial trial reason experiment record held owner isOpen =>
      refine iff_of_false (fun kept => ?_) id
      obtain ⟨found, trialFound⟩ := c.ownerOf_eq_some owner
      exact cancelTrial_unlogged_ne trialFound isOpen reason _
        (kept.2.record found (OrderedMap.find?_assign_self ..))
  | @cancel experiment reason record found allowed =>
      refine iff_of_false (fun kept => ?_) id
      have held := kept.2.record found (OrderedMap.find?_assign_self ..)
      have cancelled : ExperimentState.cancelled = record.state :=
        congrArg (fun record => record.state) held
      rw [← cancelled] at allowed
      cases allowed
  | @finalize experiment candidate reason record decision guarded decided =>
      refine iff_of_false (fun kept => ?_) id
      have found := (Coordinator.finalizeGuard_ok guarded).found
      have held := kept.2.record found (OrderedMap.find?_assign_self ..)
      have longer := congrArg (fun record => record.decisions.length) held
      simp [ExperimentRecord.unlogged, ExperimentRecord.finalize, ExperimentRecord.log] at longer
  | @rollback experiment target reason record restored chosen guarded built valid =>
      subst built
      refine iff_of_false (fun kept => ?_) id
      have found := (Coordinator.rollbackGuard_ok guarded).found
      have held := kept.2.record found (OrderedMap.find?_assign_self ..)
      have longer := congrArg (fun record => record.rollbackPoints.length) held
      simp [ExperimentRecord.unlogged, ExperimentRecord.rollback, ExperimentRecord.log,
        ExperimentRecord.abandonStaleLiveWork] at longer
  | save => exact iff_of_true ⟨rfl, rfl, rfl, rfl, fun _ => rfl, fun _ => rfl⟩ trivial
  | stopServer => exact iff_of_true ⟨rfl, rfl, rfl, rfl, fun _ => rfl, fun _ => rfl⟩ trivial

/-- Storage-failure atomicity.  When saving fails during a request, the request reports a failure
without a result and leaves the memory as it was exactly when it is one that leaves no trace. -/
theorem storage_failure_atomic_iff {path : Text} (reachable : (World.running c).Reachable path)
    {fault : Option SaveFault} (fails : c.SaveFails request fault) :
    (c.perform request fault).2.emptyFailure = true ∧ c.SameMemory (c.perform request fault).1 ↔
      c.LeavesNoTrace request := by
  obtain ⟨prepared, undo, answer, saves, performed, unsavable⟩ := fails
  have named : c.Named := fun experiment record found =>
    (reachable.sound.2.2.1.placed experiment record found).identity
  rcases prepared.endWith_cases fault undo answer with ⟨savable, -⟩ | ⟨-, failure, ended⟩
  · exact (unsavable savable).elim
  · rw [performed, ended]
    exact saves.undone_iff reachable.sound.2.1 named failure

theorem cancelExperiment_saveFails {experiment : ExperimentId} {reason : Text}
    {record : ExperimentRecord R} {fault : SaveFault} (hasPath : c.config.statePath ≠ [])
    (found : c.findExperiment experiment = some record)
    (allowed : record.state.isValidTransition .cancelled = true) :
    c.SaveFails (.cancelExperiment experiment reason) (some fault) := by
  refine ⟨_, _, _, .cancel found allowed, ?_, ?_⟩
  · have uncancelled : record.state ≠ .cancelled := fun same => by
      rw [same] at allowed
      cases allowed
    rw [Coordinator.perform, Coordinator.cancelExperiment, found]
    dsimp only
    rw [if_neg uncancelled, if_neg (by simp [allowed])]
    exact Coordinator.settle_status ..
  · rintro (noPath | ⟨-, -, succeeds⟩)
    · exact hasPath noPath
    · cases succeeds

theorem createTrial_saveFails {experiment : ExperimentId} {branchId : BranchId} {payload : Text}
    {record : ExperimentRecord R} {branch : BranchDefinition} {fault : SaveFault}
    (hasPath : c.config.statePath ≠ [])
    (guarded : c.createTrialGuard experiment branchId payload = .ok (record, branch))
    (valid : validateExperimentRecord (record.addTrial (record.newTrial experiment branch
      ⟨c.state.watermarks.trial + 1⟩ payload (c.currentSequence + 1))) c.limits experiment =
        .ok ()) :
    c.SaveFails (.createTrial experiment branchId payload) (some fault) := by
  refine ⟨_, _, _, .addTrial guarded rfl valid, ?_, ?_⟩
  · rw [Coordinator.perform, Coordinator.createTrial, guarded]
    dsimp only
    split
    · rename_i failure refused
      cases refused.symm.trans valid
    · exact Coordinator.settle_map ..
  · rintro (noPath | ⟨-, -, succeeds⟩)
    · exact hasPath noPath
    · cases succeeds

end Failures

/-- The coordinator that holds the sample experiment. -/
def Sample.founded : Coordinator ℚ :=
  Sample.coordinator.session [(.createExperiment Sample.spec, none)]

/-- A trial that could not be saved is gone from the memory of the sample. -/
theorem storage_failure_atomic_sample :
    (Sample.founded.perform (.createTrial Sample.experiment Sample.candidate [])
        (some .replace)).2.emptyFailure = true ∧
      Sample.founded.SameMemory (Sample.founded.perform
        (.createTrial Sample.experiment Sample.candidate []) (some .replace)).1 := by
  have accepted : (Sample.founded.createTrial Sample.experiment Sample.candidate []
      none).2.isOk = true := by decide +kernel
  have hasPath : Sample.founded.config.statePath ≠ [] := by decide +kernel
  have fails : Sample.founded.SaveFails (.createTrial Sample.experiment Sample.candidate [])
      (some .replace) := by
    unfold Coordinator.createTrial at accepted
    split at accepted
    · cases accepted
    · rename_i record branch guarded
      dsimp only at accepted
      split at accepted
      · cases accepted
      · rename_i valid
        exact createTrial_saveFails hasPath guarded valid
  have reachable : (World.running Sample.founded).Reachable Sample.config.statePath :=
    Sample.coordinator_reachable.session _
  exact (storage_failure_atomic_iff reachable fails).mpr trivial

/-- A cancellation that could not be saved stays in memory. -/
theorem storage_failure_not_atomic : ∃ (c : Coordinator ℚ) (request : Request ℚ)
    (fault : Option SaveFault), (World.running c).Reachable Sample.config.statePath ∧
      c.SaveFails request fault ∧
      ((c.perform request fault).1.findExperiment Sample.experiment).map
        ExperimentRecord.state = some .cancelled ∧
      ¬ ((c.perform request fault).2.emptyFailure = true ∧
        c.SameMemory (c.perform request fault).1) := by
  have opened : (Sample.claimed.findExperiment Sample.experiment).map ExperimentRecord.state =
      some .opened := by decide +kernel
  have cancelled : ((Sample.claimed.perform (.cancelExperiment Sample.experiment [])
      (some .replace)).1.findExperiment Sample.experiment).map ExperimentRecord.state =
        some .cancelled := by decide +kernel
  have hasPath : Sample.claimed.config.statePath ≠ [] := by decide +kernel
  obtain ⟨record, found, isOpen⟩ := Option.map_eq_some_iff.mp opened
  obtain ⟨after, found', state⟩ := Option.map_eq_some_iff.mp cancelled
  refine ⟨Sample.claimed, .cancelExperiment Sample.experiment [], some .replace,
    Sample.claimed_reachable, cancelExperiment_saveFails hasPath found (by rw [isOpen]; rfl),
    cancelled, fun kept => ?_⟩
  have same : after.state = record.state :=
    congrArg (fun record => record.state) (kept.2.record found found')
  rw [state, isOpen] at same
  cases same

end ExperimentFabric
