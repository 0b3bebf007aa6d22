import ExperimentFabric.Authorization

/-!
# Live attempts and live incarnations

Every live attempt belongs to the current epoch and to an incarnation that is registered, not
revoked, and still has the producer identity the attempt was issued to.  Losing an incarnation ends
its attempts in the same step, and a start ends all of them.
-/

namespace ExperimentFabric

open Lib Relation

variable {R : Type}

/-! ## The live worker table -/

namespace Coordinator

/-- An operation that undoes nothing in the live worker table leaves it as it prepared it. -/
theorem settle_liveWorkers {α : Type} (c : Coordinator R) (fault : Option SaveFault)
    {undo : Coordinator R → Coordinator R}
    (kept : ∀ unsaved, (undo unsaved).liveWorkers = unsaved.liveWorkers) (value : α) :
    (c.settle fault undo value).1.liveWorkers = c.liveWorkers := by
  have saved := c.persistLocked_liveWorkers fault true
  rcases c.settle_cases fault undo value with ⟨_, persisted, ended⟩ |
    ⟨_, failure, persisted, ended⟩
  · rw [ended]
    rwa [persisted] at saved
  · rw [ended, kept]
    rwa [persisted] at saved

@[simp]
theorem settle_id_liveWorkers {α : Type} (c : Coordinator R) (fault : Option SaveFault)
    (value : α) : (c.settle fault id value).1.liveWorkers = c.liveWorkers :=
  c.settle_liveWorkers fault (fun _ => rfl) value

theorem registerArtifacts_liveWorkers (envelope : AuthorityEnvelope)
    (artifacts : List ArtifactRecord) (c : Coordinator R) :
    (registerArtifacts envelope c artifacts).1.liveWorkers = c.liveWorkers := by
  let property (reached : Coordinator R) : Prop := reached.liveWorkers = c.liveWorkers
  have kept : property (registerArtifacts envelope c artifacts).1 :=
    registerArtifacts_keeps envelope (fun _ same => same) (fun _ _ _ _ same _ _ _ _ => same)
      artifacts rfl
  exact kept

section Operations

variable (c : Coordinator R) (fault : Option SaveFault)

theorem reviseHypothesis_liveWorkers (experiment : ExperimentId) (spec : HypothesisRevisionSpec) :
    (c.reviseHypothesis experiment spec fault).1.liveWorkers = c.liveWorkers := by
  unfold reviseHypothesis
  split
  · rfl
  · rw [settle_id_liveWorkers]
    rfl

theorem forkBranch_liveWorkers [MetricReal R] (experiment : ExperimentId) (parent : BranchId)
    (spec : BranchSpec) :
    (c.forkBranch experiment parent spec fault).1.liveWorkers = c.liveWorkers := by
  unfold forkBranch
  split
  · rfl
  · dsimp only
    split
    · rfl
    · refine (settle_liveWorkers _ fault ?_ _).trans ?_
      · exact fun _ => rfl
      · rfl

theorem retireBranch_liveWorkers (experiment : ExperimentId) (branch : BranchId) (reason : Text) :
    (c.retireBranch experiment branch reason fault).1.liveWorkers = c.liveWorkers := by
  unfold retireBranch
  split
  · rfl
  · rw [settle_id_liveWorkers]
    rfl

theorem createTrial_liveWorkers [MetricReal R] (experiment : ExperimentId) (branch : BranchId)
    (payload : Text) :
    (c.createTrial experiment branch payload fault).1.liveWorkers = c.liveWorkers := by
  unfold createTrial
  split
  · rfl
  · dsimp only
    split
    · rfl
    · refine (settle_liveWorkers _ fault ?_ _).trans ?_
      · exact fun _ => rfl
      · rfl

theorem createExperiment_liveWorkers [MetricReal R] (spec : ExperimentSpec R) :
    (c.createExperiment spec fault).1.liveWorkers = c.liveWorkers := by
  unfold createExperiment
  split
  · rfl
  · split
    · rfl
    · split
      · rfl
      · dsimp only
        split
        · rfl
        · split
          · rfl
          · split
            · rfl
            · split
              · simp
              · refine (settle_liveWorkers _ fault ?_ _).trans ?_
                · exact fun _ => rfl
                · simp

theorem publishObservation_liveWorkers [MetricReal R] (request : PublishObservationRequest R) :
    (c.publishObservation request fault).1.liveWorkers = c.liveWorkers := by
  unfold publishObservation
  dsimp only
  split
  · rfl
  · rename_i probe probeFound
    split
    · rename_i verdict refused
      have recorded : (c.rejectObservation probe request.observation verdict).liveWorkers =
          c.liveWorkers := by
        unfold rejectObservation
        dsimp only
        split <;> rfl
      have ended := ((c.rejectObservation probe request.observation
        verdict).settle_id_liveWorkers fault ()).trans recorded
      split
      · rename_i settled
        rwa [settled] at ended
      · rename_i settled
        rwa [settled] at ended
    · split
      · rfl
      · rfl
      · refine (settle_liveWorkers _ fault ?_ _).trans ?_
        · exact fun _ => rfl
        · rfl

theorem publishArtifact_liveWorkers (request : PublishArtifactRequest) :
    (c.publishArtifact request fault).1.liveWorkers = c.liveWorkers := by
  unfold publishArtifact
  dsimp only
  split
  · rfl
  · rename_i probe probeFound
    split
    · rfl
    · split
      · rename_i verdict refused
        have ended := (c.withRecord request.artifact.experiment (probe.reject (text "artifact")
          request.artifact.id.value verdict)).settle_id_liveWorkers fault ()
        split
        · rename_i settled
          rwa [settled] at ended
        · rename_i settled
          rwa [settled] at ended
      · split
        · rfl
        · rfl
        · refine (settle_liveWorkers _ fault ?_ _).trans ?_
          · exact fun _ => rfl
          · rfl

theorem commitTrial_liveWorkers (request : CommitTrialRequest) :
    (c.commitTrial request fault).1.liveWorkers = c.liveWorkers := by
  let kept (later : Coordinator R) : Prop := later.liveWorkers = c.liveWorkers
  apply commitTrial_keeps kept kept rfl
    (registerArtifacts_liveWorkers request.envelope request.artifacts c.nextSequence)
  · exact fun _ same => same
  · exact fun _ _ _ same => same
  · exact fun _ _ same => (settle_id_liveWorkers ..).trans same

theorem failTrial_liveWorkers (request : FailTrialRequest) :
    (c.failTrial request fault).1.liveWorkers = c.liveWorkers := by
  unfold failTrial
  split
  · rfl
  · rw [settle_id_liveWorkers]
    rfl

theorem cancelTrial_liveWorkers (trial : TrialId) (reason : Text) :
    (c.cancelTrial trial reason fault).1.liveWorkers = c.liveWorkers := by
  unfold cancelTrial
  split
  · rfl
  · split
    · split <;> rfl
    · rw [settle_id_liveWorkers]
      rfl

theorem cancelExperiment_liveWorkers (experiment : ExperimentId) (reason : Text) :
    (c.cancelExperiment experiment reason fault).1.liveWorkers = c.liveWorkers := by
  unfold cancelExperiment
  split
  · rfl
  · split
    · rfl
    · split
      · rfl
      · rw [settle_id_liveWorkers]
        rfl

theorem finalizeExperiment_liveWorkers [MetricReal R] [CanonicalDigests R]
    (experiment : ExperimentId) (candidate : BranchId) (reason : Text) :
    (c.finalizeExperiment experiment candidate reason fault).1.liveWorkers = c.liveWorkers := by
  unfold finalizeExperiment
  split
  · rfl
  · rw [settle_id_liveWorkers]
    split <;> rfl

theorem rollback_liveWorkers [MetricReal R] [CanonicalDigests R] (experiment : ExperimentId)
    (target : ExperimentGeneration) (reason : Text) :
    (c.rollback experiment target reason fault).1.liveWorkers = c.liveWorkers := by
  unfold rollback
  split
  · rfl
  · dsimp only
    split
    · rfl
    · rw [settle_id_liveWorkers]
      rfl

theorem startServer_liveWorkers (started : Result Unit) :
    (c.startServer started).1.liveWorkers = c.liveWorkers := by
  unfold startServer
  split
  · rfl
  · split <;> rfl

theorem stopServer_liveWorkers : (c.stopServer fault).1.liveWorkers = c.liveWorkers := by
  unfold stopServer
  split
  · rfl
  · rw [save, settle_id_liveWorkers]

end Operations

/-- Requests that may write to the live worker table. -/
def writesWorkers : Request R → Bool
  | .registerWorker _ | .revokeWorker .. | .heartbeat _ | .claimTrials _ => true
  | _ => false

/-- All other requests leave the live worker table alone. -/
theorem perform_liveWorkers [MetricReal R] [CanonicalDigests R] (c : Coordinator R)
    (request : Request R) (fault : Option SaveFault) (quiet : writesWorkers request = false) :
    (c.perform request fault).1.liveWorkers = c.liveWorkers := by
  cases request with
  | createExperiment spec => exact c.createExperiment_liveWorkers fault spec
  | reviseHypothesis experiment spec => exact c.reviseHypothesis_liveWorkers fault experiment spec
  | forkBranch experiment parent spec => exact c.forkBranch_liveWorkers fault experiment parent spec
  | retireBranch experiment branch reason =>
      exact c.retireBranch_liveWorkers fault experiment branch reason
  | createTrial experiment branch payload =>
      exact c.createTrial_liveWorkers fault experiment branch payload
  | registerWorker request => cases quiet
  | revokeWorker worker boot kind reason => cases quiet
  | heartbeat request => cases quiet
  | claimTrials request => cases quiet
  | publishObservation request => exact c.publishObservation_liveWorkers fault request
  | publishArtifact request => exact c.publishArtifact_liveWorkers fault request
  | commitTrial request => exact c.commitTrial_liveWorkers fault request
  | failTrial request => exact c.failTrial_liveWorkers fault request
  | cancelTrial trial reason => exact c.cancelTrial_liveWorkers fault trial reason
  | cancelExperiment experiment reason => exact c.cancelExperiment_liveWorkers fault experiment reason
  | finalizeExperiment experiment candidate reason =>
      exact c.finalizeExperiment_liveWorkers fault experiment candidate reason
  | rollback experiment target reason => exact c.rollback_liveWorkers fault experiment target reason
  | save => exact c.settle_id_liveWorkers fault ()
  | requestShutdown => rfl
  | startServer started => exact c.startServer_liveWorkers started
  | stopServer => exact c.stopServer_liveWorkers fault

/-! ## Losing an incarnation -/

/-- After a list of attempts was lost, an open attempt is one that the list does not name. -/
theorem loseAttempts_open (kind : FailureKind) (attemptDetail trialDetail : Text) (sequence : Nat)
    (lost : List (TrialAttemptId × AttemptRecord)) (record : ExperimentRecord R)
    {id : TrialAttemptId} {attempt : AttemptRecord}
    (found : (lost.foldl (ExperimentRecord.loseAttempt kind attemptDetail trialDetail sequence)
      record).attempts.find? id = some attempt)
    (isOpen : isAttemptTerminal attempt.state = false) :
    record.attempts.find? id = some attempt ∧ id ∉ lost.map Prod.fst := by
  induction lost generalizing record with
  | nil => exact ⟨found, by simp⟩
  | cons entry rest ih =>
      obtain ⟨earlier, elsewhere⟩ := ih _ found
      rcases OrderedMap.find?_modify_cases earlier with ⟨-, before, -, rfl⟩ | ⟨other, earlier⟩
      · simp [AttemptRecord.finish, isAttemptTerminal] at isOpen
      · refine ⟨earlier, ?_⟩
        rw [List.map_cons, List.mem_cons, not_or]
        exact ⟨other, elsewhere⟩

/-- A lost incarnation has no open attempt left. -/
theorem loseWorker_open {worker : WorkerId} {boot : WorkerBootId} {kind : FailureKind}
    {attemptDetail trialDetail : Text} {sequence : Nat} {line : Text}
    {record : ExperimentRecord R} {id : TrialAttemptId} {attempt : AttemptRecord}
    (found : (record.loseWorker worker boot kind attemptDetail trialDetail sequence
      line).attempts.find? id = some attempt)
    (isOpen : isAttemptTerminal attempt.state = false) :
    record.attempts.find? id = some attempt ∧ ¬ (attempt.worker = worker ∧ attempt.boot = boot) := by
  have folded : ((record.liveAttemptsOf worker boot).foldl (ExperimentRecord.loseAttempt kind
      attemptDetail trialDetail sequence) record).attempts.find? id = some attempt := by
    unfold ExperimentRecord.loseWorker at found
    dsimp only at found
    split at found <;> exact found
  obtain ⟨earlier, spared⟩ := loseAttempts_open _ _ _ _ _ _ folded isOpen
  refine ⟨earlier, fun ⟨sameWorker, sameBoot⟩ => spared ?_⟩
  refine List.mem_map.mpr ⟨(id, attempt), List.mem_filter.mpr ⟨?_, ?_⟩, rfl⟩
  · exact (OrderedMap.mem_entries_iff _ _ _).mpr earlier
  · simp [sameWorker, sameBoot, isOpen]

theorem workerKey_inj {worker worker' : WorkerId} {boot boot' : WorkerBootId}
    (same : workerKey worker boot = workerKey worker' boot') : worker = worker' ∧ boot = boot' := by
  have pair := Prod.mk.inj (toLex_inj.mp same)
  exact ⟨congrArg StrongId.mk pair.1, congrArg StrongId.mk pair.2⟩

/-! ## The invariant -/

/-- The incarnation is registered, not revoked, and has the given producer identity. -/
def HasProducer (c : Coordinator R) (worker : WorkerId) (boot : WorkerBootId)
    (producer : ProducerId) : Prop :=
  ∃ live, c.findLiveWorker worker boot = some live ∧ live.revoked = false ∧
    live.producer = producer

/-- Every live attempt belongs to this epoch and to an incarnation that holds its authority. -/
def LiveAuthority (c : Coordinator R) : Prop :=
  ∀ experiment record id attempt, c.findExperiment experiment = some record →
    record.attempts.find? id = some attempt → isAttemptTerminal attempt.state = false →
      attempt.epoch = c.epoch ∧ c.HasProducer attempt.worker attempt.boot attempt.producer

theorem issuedTo_of_fixed {attempt attempt' : AttemptRecord}
    (fixed : attempt'.fixed = attempt.fixed) :
    attempt'.epoch = attempt.epoch ∧ attempt'.worker = attempt.worker ∧
      attempt'.boot = attempt.boot ∧ attempt'.producer = attempt.producer := by
  have epoch := congrArg AttemptRecord.epoch fixed
  have worker := congrArg AttemptRecord.worker fixed
  have boot := congrArg AttemptRecord.boot fixed
  have producer := congrArg AttemptRecord.producer fixed
  exact ⟨epoch, worker, boot, producer⟩

/-- Authority is kept when no attempt is issued and no incarnation loses it. -/
theorem LiveAuthority.keep {c c' : Coordinator R} (authority : c.LiveAuthority)
    (from_ : c.state.LiveFrom c'.state) (epoch : c'.epoch = c.epoch)
    (workers : ∀ worker boot producer, c.HasProducer worker boot producer →
      c'.HasProducer worker boot producer) : c'.LiveAuthority := by
  intro experiment record' id attempt' found lookup isOpen
  obtain ⟨record, attempt, earlier, there, wasOpen, fixed⟩ :=
    from_ experiment record' id attempt' found lookup isOpen
  obtain ⟨sameEpoch, held⟩ := authority experiment record id attempt earlier there wasOpen
  obtain ⟨attemptEpoch, worker, boot, producer⟩ := issuedTo_of_fixed fixed
  rw [epoch, attemptEpoch, worker, boot, producer]
  exact ⟨sameEpoch, workers _ _ _ held⟩

theorem HasProducer.ofEq {c c' : Coordinator R} (same : c'.liveWorkers = c.liveWorkers)
    (worker : WorkerId) (boot : WorkerBootId) (producer : ProducerId)
    (held : c.HasProducer worker boot producer) : c'.HasProducer worker boot producer := by
  unfold HasProducer findLiveWorker
  rwa [same]

/-- Updating the load of an incarnation takes no authority away. -/
theorem HasProducer.modify {c c' : Coordinator R} {key : WorkerKey}
    {change : LiveWorker → LiveWorker}
    (changed : c'.liveWorkers = c.liveWorkers.modify key change)
    (kept : ∀ live, (change live).revoked = live.revoked ∧ (change live).producer = live.producer)
    (worker : WorkerId) (boot : WorkerBootId) (producer : ProducerId)
    (held : c.HasProducer worker boot producer) : c'.HasProducer worker boot producer := by
  obtain ⟨live, found, unrevoked, same⟩ := held
  unfold HasProducer findLiveWorker
  rw [changed, OrderedMap.find?_modify]
  split
  · rename_i here
    refine ⟨change live, ?_, (kept live).1.trans unrevoked, (kept live).2.trans same⟩
    rw [← here]
    exact congrArg (Option.map change) found
  · exact ⟨live, found, unrevoked, same⟩

/-- Losing an incarnation keeps the authority of the others, and it holds no attempt any more. -/
theorem LiveAuthority.lose {c c' : Coordinator R} (authority : c.LiveAuthority)
    {worker : WorkerId} {boot : WorkerBootId} {kind : FailureKind}
    {attemptDetail trialDetail : Text} {sequence : Nat} {line : Text}
    (epoch : c'.epoch = c.epoch)
    (workers : ∀ key, key ≠ workerKey worker boot →
      c'.liveWorkers.find? key = c.liveWorkers.find? key)
    (experiments : c'.state.experiments = c.state.experiments.mapValues
      (ExperimentRecord.loseWorker worker boot kind attemptDetail trialDetail sequence line)) :
    c'.LiveAuthority := by
  intro experiment record' id attempt found lookup isOpen
  rw [findExperiment, experiments, OrderedMap.find?_mapValues] at found
  obtain ⟨record, earlier, rfl⟩ := Option.map_eq_some_iff.mp found
  obtain ⟨there, spared⟩ := loseWorker_open lookup isOpen
  obtain ⟨sameEpoch, live, liveFound, unrevoked, producer⟩ :=
    authority experiment record id attempt earlier there isOpen
  refine ⟨sameEpoch.trans epoch.symm, live, ?_, unrevoked, producer⟩
  rw [findLiveWorker, workers]
  · exact liveFound
  · exact fun same => spared (workerKey_inj same)

end Coordinator

end ExperimentFabric
