import ExperimentFabric.Moves

/-!
# What an operation does to the file

An operation saves at most once, as its last act.  It leaves the file alone, fails to write it and
degrades the coordinator, or leaves in it exactly the state it ends with.
-/

namespace ExperimentFabric

open Lib

variable {R : Type}

namespace Coordinator

/-- The same process, before anything is saved. -/
structure SameProcess (c c' : Coordinator R) : Prop where
  config : c'.config = c.config
  epoch : c'.epoch = c.epoch
  image : c'.image = c.image
  degraded : c'.persistenceDegraded = c.persistenceDegraded

theorem SameProcess.refl (c : Coordinator R) : SameProcess c c := ⟨rfl, rfl, rfl, rfl⟩

theorem SameProcess.trans {first second third : Coordinator R} (earlier : SameProcess first second)
    (later : SameProcess second third) : SameProcess first third :=
  ⟨later.config.trans earlier.config, later.epoch.trans earlier.epoch,
    later.image.trans earlier.image, later.degraded.trans earlier.degraded⟩

/-- How an operation ends for the file. -/
inductive SaveOutcome (c c' : Coordinator R) : Prop where
  | untouched (image : c'.image = c.image)
      (degraded : c'.persistenceDegraded = c.persistenceDegraded)
  | failed (image : c'.image = c.image) (degraded : c'.persistenceDegraded = true)
  | written (image : c'.image = some c'.state) (degraded : c'.persistenceDegraded = false)
      (hasPath : c.config.statePath ≠ [])

/-- What an operation does to its process and to the file. -/
structure Operated (c c' : Coordinator R) : Prop where
  config : c'.config = c.config
  epoch : c'.epoch = c.epoch
  outcome : SaveOutcome c c'

theorem SameProcess.operated {c c' : Coordinator R} (same : SameProcess c c') : Operated c c' :=
  ⟨same.config, same.epoch, .untouched same.image same.degraded⟩

theorem sameProcess_operated {c c' : Coordinator R} (config : c'.config = c.config)
    (epoch : c'.epoch = c.epoch) (image : c'.image = c.image)
    (degraded : c'.persistenceDegraded = c.persistenceDegraded) : Operated c c' :=
  SameProcess.operated ⟨config, epoch, image, degraded⟩

theorem Operated.refl (c : Coordinator R) : Operated c c := (SameProcess.refl c).operated

/-- Saving as the last act of an operation. -/
theorem SameProcess.settle {α : Type} {base c : Coordinator R} (same : SameProcess base c)
    (fault : Option SaveFault) {undo : Coordinator R → Coordinator R} (value : α)
    (kept : ∀ unsaved, SameProcess unsaved (undo unsaved)) :
    Operated base (c.settle fault undo value).1 := by
  unfold Coordinator.settle
  rcases c.persistLocked_cases fault true with ⟨persisted, -⟩ | ⟨failure, persisted⟩ |
    ⟨persisted, hasPath⟩
  · rw [persisted]
    exact same.operated
  · rw [persisted]
    have undone := kept { c with persistenceDegraded := true }
    exact ⟨undone.config.trans same.config, undone.epoch.trans same.epoch,
      .failed (undone.image.trans same.image) undone.degraded⟩
  · rw [persisted]
    exact ⟨same.config, same.epoch, .written rfl rfl (same.config ▸ hasPath)⟩

theorem SameProcess.settle_id {α : Type} {base c : Coordinator R} (same : SameProcess base c)
    (fault : Option SaveFault) (value : α) : Operated base (c.settle fault id value).1 :=
  same.settle fault value .refl

/-! ## Loops that save nothing -/

theorem replaceIncarnations_sameProcess (sequence : Nat) (replaced : List LiveWorker)
    (c : Coordinator R) : SameProcess c (replaced.foldl (replaceIncarnation sequence) c) := by
  induction replaced generalizing c with
  | nil => exact .refl c
  | cons live rest ih =>
      have first : SameProcess c (replaceIncarnation sequence c live) := ⟨rfl, rfl, rfl, rfl⟩
      exact first.trans (ih _)

section Claims

variable {request : ClaimTrialRequest} {producer : ProducerId} {property : ClaimProgress R → Prop}

/-- What every trial of a claim keeps, the loop over one experiment keeps. -/
theorem claimExperiment_keeps (each : ∀ progress experiment key, property progress →
      property (claimTrial request producer experiment progress key))
    {progress : ClaimProgress R} (holds : property progress) (experiment : ExperimentId) :
    property (claimExperiment request producer progress experiment) := by
  have keys : ∀ (keys : List TrialId) (progress : ClaimProgress R), property progress →
      property (keys.foldl (claimTrial request producer experiment) progress) := by
    intro keys
    induction keys with
    | nil => exact fun _ held => held
    | cons key rest ih => exact fun progress held => ih _ (each progress experiment key held)
  unfold claimExperiment
  split
  · exact holds
  · split
    · exact holds
    · split
      · exact holds
      · exact keys _ progress holds

/-- What every trial of a claim keeps, the whole claim keeps. -/
theorem claimLoop_keeps (c : Coordinator R) (live : LiveWorker)
    (each : ∀ progress experiment key, property progress →
      property (claimTrial request live.producer experiment progress key))
    (start : ∀ budget, property { coordinator := c, budget := budget }) :
    property (c.claimLoop request live) := by
  have experiments : ∀ (experiments : List ExperimentId) (progress : ClaimProgress R),
      property progress →
        property (experiments.foldl (claimExperiment request live.producer) progress) := by
    intro experiments
    induction experiments with
    | nil => exact fun _ held => held
    | cons experiment rest ih =>
        exact fun progress held => ih _ (claimExperiment_keeps each held experiment)
  exact experiments _ _ (start _)

end Claims

theorem claimTrial_sameProcess (request : ClaimTrialRequest) (producer : ProducerId)
    (experiment : ExperimentId) (progress : ClaimProgress R) (key : TrialId) :
    SameProcess progress.coordinator
      (claimTrial request producer experiment progress key).coordinator := by
  unfold claimTrial
  split
  · exact .refl _
  · split
    · exact .refl _
    · split
      · exact .refl _
      · split
        · exact .refl _
        · exact ⟨rfl, rfl, rfl, rfl⟩

theorem claimExperiment_sameProcess (request : ClaimTrialRequest) (producer : ProducerId)
    (progress : ClaimProgress R) (experiment : ExperimentId) :
    SameProcess progress.coordinator
      (claimExperiment request producer progress experiment).coordinator := by
  let property (reached : ClaimProgress R) : Prop :=
    SameProcess progress.coordinator reached.coordinator
  have start : property progress := .refl _
  refine claimExperiment_keeps ?_ start experiment
  exact fun reached _ key same => same.trans (claimTrial_sameProcess request producer _ reached key)

theorem claimLoop_sameProcess (c : Coordinator R) (request : ClaimTrialRequest)
    (live : LiveWorker) : SameProcess c (c.claimLoop request live).coordinator := by
  let property (reached : ClaimProgress R) : Prop := SameProcess c reached.coordinator
  have looped : property (c.claimLoop request live) := by
    refine claimLoop_keeps c live ?_ fun _ => .refl c
    exact fun reached _ key same =>
      same.trans (claimTrial_sameProcess request live.producer _ reached key)
  exact looped

theorem registerArtifacts_sameProcess (envelope : AuthorityEnvelope)
    (artifacts : List ArtifactRecord) (c : Coordinator R) :
    SameProcess c (registerArtifacts envelope c artifacts).1 := by
  let property (reached : Coordinator R) : Prop := SameProcess c reached
  have kept : property (registerArtifacts envelope c artifacts).1 := by
    refine registerArtifacts_keeps envelope ?_ ?_ artifacts (SameProcess.refl c)
    · exact fun _ same => same.trans ⟨rfl, rfl, rfl, rfl⟩
    · exact fun _ _ _ _ same _ _ _ _ => same.trans ⟨rfl, rfl, rfl, rfl⟩
  exact kept

/-! ## Operations -/

section Operations

variable (c : Coordinator R)

theorem reviseHypothesis_operated (experiment : ExperimentId) (spec : HypothesisRevisionSpec)
    (fault : Option SaveFault) :
    Operated c (c.reviseHypothesis experiment spec fault).1 := by
  unfold reviseHypothesis
  split
  · exact .refl c
  · refine SameProcess.settle_id ?_ fault _
    exact ⟨rfl, rfl, rfl, rfl⟩

theorem retireBranch_operated (experiment : ExperimentId) (branch : BranchId) (reason : Text)
    (fault : Option SaveFault) :
    Operated c (c.retireBranch experiment branch reason fault).1 := by
  unfold retireBranch
  split
  · exact .refl c
  · refine SameProcess.settle_id ?_ fault _
    exact ⟨rfl, rfl, rfl, rfl⟩

theorem registerWorker_operated (request : RegisterWorkerRequest) (fault : Option SaveFault) :
    Operated c (c.registerWorker request fault).1 := by
  unfold registerWorker
  split
  · exact .refl c
  · split
    · split <;> exact .refl c
    · have counted : SameProcess c c.nextSequence := ⟨rfl, rfl, rfl, rfl⟩
      have replaced := counted.trans (replaceIncarnations_sameProcess
        c.nextSequence.currentSequence (c.nextSequence.replacedBy request.worker request.boot)
        c.nextSequence)
      dsimp only
      split
      · exact replaced.operated
      · have added : ∀ later : Coordinator R, SameProcess later (later.addWorker request) :=
          fun _ => ⟨rfl, rfl, rfl, rfl⟩
        have ended := (replaced.trans (added _)).settle_id fault ()
        split
        · rename_i settled
          rw [settled] at ended
          exact ended
        · rename_i settled
          rw [settled] at ended
          exact ended

theorem revokeWorker_operated (worker : WorkerId) (boot : WorkerBootId) (kind : FailureKind)
    (reason : Text) (fault : Option SaveFault) :
    Operated c (c.revokeWorker worker boot kind reason fault).1 := by
  unfold revokeWorker
  split
  · exact .refl c
  · refine SameProcess.settle_id ?_ fault _
    exact ⟨rfl, rfl, rfl, rfl⟩

theorem heartbeat_operated (request : HeartbeatRequest) :
    Operated c (c.heartbeat request).1 := by
  unfold heartbeat
  split
  · exact .refl c
  · exact sameProcess_operated rfl rfl rfl rfl

theorem claimTrials_operated (request : ClaimTrialRequest) (fault : Option SaveFault) :
    Operated c (c.claimTrials request fault).1 := by
  unfold claimTrials
  split
  · exact .refl c
  · rename_i live guarded
    have claimed := c.claimLoop_sameProcess request live
    have counted : ∀ (later : Coordinator R) active issued,
        SameProcess later (later.countAssignments request active issued) :=
      fun _ _ _ => ⟨rfl, rfl, rfl, rfl⟩
    dsimp only
    split
    · exact (claimed.trans (counted _ _ _)).operated
    · exact (claimed.trans (counted _ _ _)).settle_id fault ()

theorem publishArtifact_operated (request : PublishArtifactRequest) (fault : Option SaveFault) :
    Operated c (c.publishArtifact request fault).1 := by
  unfold publishArtifact
  dsimp only
  split
  · exact .refl c
  · rename_i probe probeFound
    split
    · exact .refl c
    · split
      · rename_i verdict refused
        have recorded : SameProcess c (c.withRecord request.artifact.experiment
            (probe.reject (text "artifact") request.artifact.id.value verdict)) :=
          ⟨rfl, rfl, rfl, rfl⟩
        have ended := recorded.settle_id fault ()
        split
        · rename_i settled
          rw [settled] at ended
          exact ended
        · rename_i settled
          rw [settled] at ended
          exact ended
      · split
        · exact .refl c
        · exact .refl c
        · refine SameProcess.settle ?_ fault _ ?_
          · exact ⟨rfl, rfl, rfl, rfl⟩
          · exact fun _ => ⟨rfl, rfl, rfl, rfl⟩

theorem failTrial_operated (request : FailTrialRequest) (fault : Option SaveFault) :
    Operated c (c.failTrial request fault).1 := by
  unfold failTrial
  split
  · exact .refl c
  · refine SameProcess.settle_id ?_ fault _
    exact ⟨rfl, rfl, rfl, rfl⟩

theorem cancelTrial_operated (trial : TrialId) (reason : Text) (fault : Option SaveFault) :
    Operated c (c.cancelTrial trial reason fault).1 := by
  unfold cancelTrial
  split
  · exact .refl c
  · split
    · split <;> exact .refl c
    · refine SameProcess.settle_id ?_ fault _
      exact ⟨rfl, rfl, rfl, rfl⟩

theorem cancelExperiment_operated (experiment : ExperimentId) (reason : Text)
    (fault : Option SaveFault) :
    Operated c (c.cancelExperiment experiment reason fault).1 := by
  unfold cancelExperiment
  split
  · exact .refl c
  · split
    · exact .refl c
    · split
      · exact .refl c
      · refine SameProcess.settle_id ?_ fault _
        exact ⟨rfl, rfl, rfl, rfl⟩

theorem startServer_operated (started : Result Unit) :
    Operated c (c.startServer started).1 := by
  unfold startServer
  split
  · exact .refl c
  · split
    · exact .refl c
    · exact sameProcess_operated rfl rfl rfl rfl

theorem stopServer_operated (fault : Option SaveFault) :
    Operated c (c.stopServer fault).1 := by
  unfold stopServer
  split
  · exact .refl c
  · refine SameProcess.settle_id ?_ fault ()
    exact ⟨rfl, rfl, rfl, rfl⟩

variable [MetricReal R]

omit [MetricReal R] in
theorem commitTrial_operated (request : CommitTrialRequest) (fault : Option SaveFault) :
    Operated c (c.commitTrial request fault).1 := by
  have counted : SameProcess c c.nextSequence := ⟨rfl, rfl, rfl, rfl⟩
  apply commitTrial_keeps (SameProcess c) (Operated c) (.refl c)
    (counted.trans (registerArtifacts_sameProcess request.envelope request.artifacts c.nextSequence))
  · exact fun _ same => same.operated
  · exact fun _ _ _ same => sameProcess_operated same.config same.epoch same.image same.degraded
  · intro later record same
    have stored : SameProcess later (later.withRecord request.envelope.experiment record) :=
      ⟨rfl, rfl, rfl, rfl⟩
    exact (same.trans stored).settle_id fault ()

theorem createExperiment_operated (spec : ExperimentSpec R) (fault : Option SaveFault) :
    Operated c (c.createExperiment spec fault).1 := by
  unfold createExperiment
  split
  · exact .refl c
  · split
    · exact .refl c
    · split
      · exact .refl c
      · dsimp only
        split
        · exact sameProcess_operated rfl rfl rfl rfl
        · split
          · exact sameProcess_operated rfl rfl rfl rfl
          · split
            · exact sameProcess_operated rfl rfl rfl rfl
            · split
              · apply sameProcess_operated <;> simp
              · refine SameProcess.settle ?_ fault _ ?_
                · constructor <;> simp
                · exact fun _ => ⟨rfl, rfl, rfl, rfl⟩

theorem forkBranch_operated (experiment : ExperimentId) (parent : BranchId) (spec : BranchSpec)
    (fault : Option SaveFault) :
    Operated c (c.forkBranch experiment parent spec fault).1 := by
  unfold forkBranch
  split
  · exact .refl c
  · dsimp only
    split
    · exact sameProcess_operated rfl rfl rfl rfl
    · refine SameProcess.settle ?_ fault _ ?_
      · exact ⟨rfl, rfl, rfl, rfl⟩
      · exact fun _ => ⟨rfl, rfl, rfl, rfl⟩

theorem createTrial_operated (experiment : ExperimentId) (branch : BranchId) (payload : Text)
    (fault : Option SaveFault) :
    Operated c (c.createTrial experiment branch payload fault).1 := by
  unfold createTrial
  split
  · exact .refl c
  · dsimp only
    split
    · exact sameProcess_operated rfl rfl rfl rfl
    · refine SameProcess.settle ?_ fault _ ?_
      · exact ⟨rfl, rfl, rfl, rfl⟩
      · exact fun _ => ⟨rfl, rfl, rfl, rfl⟩

theorem publishObservation_operated (request : PublishObservationRequest R)
    (fault : Option SaveFault) :
    Operated c (c.publishObservation request fault).1 := by
  unfold publishObservation
  dsimp only
  split
  · exact .refl c
  · rename_i probe probeFound
    split
    · rename_i verdict refused
      have recorded : SameProcess c (c.rejectObservation probe request.observation verdict) := by
        unfold rejectObservation
        dsimp only
        split <;> exact ⟨rfl, rfl, rfl, rfl⟩
      have ended := recorded.settle_id fault ()
      split
      · rename_i settled
        rw [settled] at ended
        exact ended
      · rename_i settled
        rw [settled] at ended
        exact ended
    · split
      · exact .refl c
      · exact .refl c
      · refine SameProcess.settle ?_ fault _ ?_
        · exact ⟨rfl, rfl, rfl, rfl⟩
        · exact fun _ => ⟨rfl, rfl, rfl, rfl⟩

variable [CanonicalDigests R]

theorem finalizeExperiment_operated (experiment : ExperimentId) (candidate : BranchId) (reason : Text)
    (fault : Option SaveFault) :
    Operated c (c.finalizeExperiment experiment candidate reason fault).1 := by
  unfold finalizeExperiment
  split
  · exact .refl c
  · refine SameProcess.settle_id ?_ fault _
    split <;> exact ⟨rfl, rfl, rfl, rfl⟩

theorem rollback_operated (experiment : ExperimentId) (target : ExperimentGeneration) (reason : Text)
    (fault : Option SaveFault) :
    Operated c (c.rollback experiment target reason fault).1 := by
  unfold rollback
  split
  · exact .refl c
  · dsimp only
    split
    · exact sameProcess_operated rfl rfl rfl rfl
    · refine SameProcess.settle_id ?_ fault _
      exact ⟨rfl, rfl, rfl, rfl⟩

/-- Every request keeps the process and saves at most once, as its last act. -/
theorem perform_operated (request : Request R) (fault : Option SaveFault) :
    Operated c (c.perform request fault).1 := by
  cases request with
  | createExperiment spec => exact c.createExperiment_operated spec fault
  | reviseHypothesis experiment spec => exact c.reviseHypothesis_operated experiment spec fault
  | forkBranch experiment parent spec => exact c.forkBranch_operated experiment parent spec fault
  | retireBranch experiment branch reason =>
      exact c.retireBranch_operated experiment branch reason fault
  | createTrial experiment branch payload =>
      exact c.createTrial_operated experiment branch payload fault
  | registerWorker request => exact c.registerWorker_operated request fault
  | revokeWorker worker boot kind reason =>
      exact c.revokeWorker_operated worker boot kind reason fault
  | heartbeat request => exact c.heartbeat_operated request
  | claimTrials request => exact c.claimTrials_operated request fault
  | publishObservation request => exact c.publishObservation_operated request fault
  | publishArtifact request => exact c.publishArtifact_operated request fault
  | commitTrial request => exact c.commitTrial_operated request fault
  | failTrial request => exact c.failTrial_operated request fault
  | cancelTrial trial reason => exact c.cancelTrial_operated trial reason fault
  | cancelExperiment experiment reason => exact c.cancelExperiment_operated experiment reason fault
  | finalizeExperiment experiment candidate reason =>
      exact c.finalizeExperiment_operated experiment candidate reason fault
  | rollback experiment target reason => exact c.rollback_operated experiment target reason fault
  | save => exact (SameProcess.refl c).settle_id fault ()
  | requestShutdown => exact sameProcess_operated rfl rfl rfl rfl
  | startServer started => exact c.startServer_operated started
  | stopServer => exact c.stopServer_operated fault

end Operations

end Coordinator

end ExperimentFabric
