import ExperimentFabric.Cancellation
import ExperimentFabric.Registrations
import ExperimentFabric.Retention

/-!
# What the file backs

A request that is answered without being saved relies on what earlier requests have saved.  As long
as no write has failed since the last one that succeeded, the file has every observation and every
cancellation of the memory, and every unrevoked incarnation of the live table.
-/

namespace ExperimentFabric

open Lib

variable {R : Type}

/-! ## Records -/

/-- The filed record has the observations and the cancellations of the other one. -/
structure BackedBy (filed record : ExperimentRecord R) : Prop where
  observations : record.observations = filed.observations
  trials : OrderedMap.Evolves (NotEntering .cancelled) filed.trials record.trials
  state : record.state = .cancelled → filed.state = .cancelled

theorem BackedBy.refl (record : ExperimentRecord R) : BackedBy record record :=
  ⟨rfl, .refl fun _ => id, id⟩

theorem BackedBy.trans {first second third : ExperimentRecord R} (earlier : BackedBy first second)
    (later : BackedBy second third) : BackedBy first third :=
  ⟨later.observations.trans earlier.observations,
    earlier.trials.trans (fun _ _ _ earlier later entered => earlier (later entered)) later.trials,
    fun cancelled => earlier.state (later.state cancelled)⟩

/-- A record with the same observations, trials and state. -/
theorem BackedBy.ofSame {filed record : ExperimentRecord R}
    (observations : record.observations = filed.observations)
    (trials : record.trials = filed.trials) (state : record.state = filed.state) :
    BackedBy filed record :=
  ⟨observations, trials ▸ .refl fun _ => id, fun cancelled => state ▸ cancelled⟩

theorem loseWorker_backed (worker : WorkerId) (boot : WorkerBootId) (kind : FailureKind)
    (attemptDetail trialDetail : Text) (sequence : Nat) (line : Text)
    (record : ExperimentRecord R) :
    BackedBy record
      (record.loseWorker worker boot kind attemptDetail trialDetail sequence line) := by
  obtain ⟨trials, attempts, lines, same⟩ :=
    loseWorker_frame worker boot kind attemptDetail trialDetail sequence line record
  have released := loseAttempts_notEntering (by decide : TrialState.cancelled ≠ .ready)
    (by decide) kind attemptDetail trialDetail sequence (record.liveAttemptsOf worker boot) record
  refine ⟨by rw [same], ?_, fun cancelled => by rwa [same] at cancelled⟩
  unfold ExperimentRecord.loseWorker
  dsimp only
  split <;> exact released

theorem pushArtifact_backed (record : ExperimentRecord R) (trialKey : TrialId)
    (artifact : ArtifactRecord) : BackedBy record (record.pushArtifact trialKey artifact) := by
  have held : OrderedMap.Evolves (NotEntering .cancelled) record.trials
      (record.trials.modify trialKey (·.hold artifact.id)) := .modify (fun _ => id) fun _ _ => id
  exact ⟨rfl, held, id⟩

theorem unfork_backed (record : ExperimentRecord R) (branch : BranchDefinition) (sequence : Nat) :
    BackedBy record (record.fork branch sequence).unfork := .ofSame rfl rfl rfl

theorem issue_backed (record : ExperimentRecord R) (key : TrialId) (attempt : AttemptRecord)
    (sequence : Nat) : BackedBy record (record.issue key attempt sequence) := by
  have assigned : OrderedMap.Evolves (NotEntering .cancelled) record.trials
      (record.issue key attempt sequence).trials := by
    unfold ExperimentRecord.issue
    dsimp only
    apply OrderedMap.Evolves.modify
    · exact fun _ => id
    · exact fun _ _ impossible => nomatch impossible
  exact ⟨rfl, assigned, id⟩

theorem rollback_backed [CanonicalDigests R] (record : ExperimentRecord R)
    (experiment : ExperimentId) (chosen : RollbackPoint) (point : RollbackPointId) (reason : Text)
    (sequence : Nat) :
    BackedBy record (record.rollback experiment chosen point reason sequence) := by
  refine ⟨rfl, closeTrials_notEntering _ (by decide) _ _ _ _, ?_⟩
  unfold ExperimentRecord.rollback
  dsimp only [ExperimentRecord.log]
  split
  · exact fun impossible => nomatch impossible
  · exact id

theorem stage_backed (record : ExperimentRecord R) (sequence : Nat) :
    BackedBy record (record.stage sequence).2 := by
  unfold ExperimentRecord.stage
  dsimp only
  rw [ExperimentRecord.logAll_eq]
  refine ⟨rfl, .traverse fun progress trial => ?_, ?_⟩
  · unfold stageTrial NotEntering
    split
    · exact id
    · exact fun impossible => nomatch impossible
  · dsimp only
    split
    · exact fun impossible => nomatch impossible
    · exact id

theorem resolve_backed (record : ExperimentRecord R) (sequence : Nat) :
    BackedBy record (record.resolve sequence).2 := by
  unfold ExperimentRecord.resolve
  dsimp only
  rw [ExperimentRecord.logAll_eq]
  refine ⟨rfl, .traverse fun progress trial => ?_, id⟩
  unfold ExperimentRecord.resolveTrial ExperimentRecord.resolvedTrial NotEntering
  split
  · exact id
  · dsimp only
    split <;> exact fun impossible => nomatch impossible

/-! ## States -/

/-- Every experiment of the other state is backed by the one of the filed state. -/
def CoordinatorState.Backs (filed state : CoordinatorState R) : Prop :=
  OrderedMap.Evolves BackedBy filed.experiments state.experiments

theorem CoordinatorState.Backs.refl (state : CoordinatorState R) : state.Backs state :=
  OrderedMap.Evolves.refl .refl

theorem CoordinatorState.Backs.trans {first second third : CoordinatorState R}
    (earlier : first.Backs second) (later : second.Backs third) : first.Backs third :=
  OrderedMap.Evolves.trans (fun _ _ _ earlier later => BackedBy.trans earlier later) earlier later

theorem CoordinatorState.Backs.ofEq {filed state : CoordinatorState R}
    (same : state.experiments = filed.experiments) : filed.Backs state := by
  unfold CoordinatorState.Backs
  rw [same]
  exact .refl .refl

/-- Replacing one record by one that it backs. -/
theorem CoordinatorState.Backs.assign {filed state : CoordinatorState R} {id : ExperimentId}
    {before after : ExperimentRecord R} (found : filed.experiments.find? id = some before)
    (backed : BackedBy before after)
    (stored : state.experiments = filed.experiments.assign id after) : filed.Backs state := by
  unfold CoordinatorState.Backs
  rw [stored]
  exact .assign .refl found backed

/-- The incarnation is on record, unrevoked, under this producer and this epoch. -/
def CoordinatorState.Registers (state : CoordinatorState R) (worker : WorkerId)
    (boot : WorkerBootId) (producer : ProducerId) (epoch : CoordinatorEpoch) : Prop :=
  ∃ incarnation ∈ state.workers, incarnation.worker = worker ∧ incarnation.boot = boot ∧
    incarnation.producer = producer ∧ incarnation.epoch = epoch ∧ incarnation.revoked = false

namespace Coordinator

/-- The state in the file; an absent file is an empty state. -/
def file (c : Coordinator R) : CoordinatorState R := c.image.getD {}

/-! ## Incarnations on record -/

/-- Every unrevoked incarnation of the live table is on record. -/
def LiveRecorded (c : Coordinator R) : Prop :=
  ∀ worker boot live, c.findLiveWorker worker boot = some live → live.revoked = false →
    c.state.Registers worker boot live.producer c.epoch

theorem LiveRecorded.kept {c c' : Coordinator R} (recorded : c.LiveRecorded)
    (epoch : c'.epoch = c.epoch)
    (table : OrderedMap.Evolves LiveKept c.liveWorkers c'.liveWorkers)
    (workers : c'.state.workers = c.state.workers) : c'.LiveRecorded := by
  intro worker boot live' found unrevoked
  obtain ⟨live, before, kept⟩ := table.source found
  have held := recorded worker boot live before (kept.unrevoked unrevoked)
  unfold CoordinatorState.Registers at held ⊢
  rwa [workers, kept.producer, epoch]

/-- Revoking an incarnation in the table and on record spares the others. -/
theorem LiveRecorded.lose {c c' : Coordinator R} {worker : WorkerId} {boot : WorkerBootId}
    {kind : FailureKind} {sequence : Nat} (recorded : c.LiveRecorded) (epoch : c'.epoch = c.epoch)
    (table : c'.liveWorkers = c.liveWorkers.modify (workerKey worker boot) fun entry =>
      { entry with revoked := true, revocationKind := kind })
    (workers : c'.state.workers =
      c.state.workers.map (revokeIncarnation worker boot kind sequence)) : c'.LiveRecorded := by
  intro other otherBoot live found unrevoked
  rw [findLiveWorker, table] at found
  rcases OrderedMap.find?_modify_cases found with ⟨-, old, -, rfl⟩ | ⟨apart, found⟩
  · cases unrevoked
  · obtain ⟨incarnation, member, rfl, rfl, producer, recordedEpoch, valid⟩ :=
      recorded other otherBoot live found unrevoked
    refine ⟨incarnation, ?_, rfl, rfl, producer, recordedEpoch.trans epoch.symm, valid⟩
    rw [workers]
    refine List.mem_map.mpr ⟨incarnation, member, ?_⟩
    unfold revokeIncarnation
    rw [if_neg]
    intro chosen
    simp only [Bool.and_eq_true, decide_eq_true_eq] at chosen
    obtain ⟨⟨rfl, rfl⟩, -⟩ := chosen
    exact apart rfl

theorem LiveRecorded.replacing {c : Coordinator R} (recorded : c.LiveRecorded)
    (request : RegisterWorkerRequest) : (c.replacing request).LiveRecorded := by
  have replaced : ∀ (sequence : Nat) (workers : List LiveWorker) (c : Coordinator R),
      c.LiveRecorded → (workers.foldl (replaceIncarnation sequence) c).LiveRecorded := by
    intro sequence workers
    induction workers with
    | nil => exact fun _ recorded => recorded
    | cons live rest ih =>
        intro c recorded
        exact ih _ (recorded.lose rfl rfl rfl)
  exact replaced _ _ c.nextSequence recorded

theorem LiveRecorded.registering {c : Coordinator R} (recorded : c.LiveRecorded)
    {request : RegisterWorkerRequest}
    (unknown : c.findLiveWorker request.worker request.boot = none) :
    ((c.replacing request).addWorker request).LiveRecorded := by
  intro worker boot live found unrevoked
  rcases addWorker_find unknown found with ⟨here, -, -, -, producer⟩ | ⟨-, before⟩
  · obtain ⟨rfl, rfl⟩ := workerKey_inj here
    exact ⟨_, List.mem_append_right _ List.mem_cons_self, rfl, rfl, producer.symm, rfl, rfl⟩
  · obtain ⟨incarnation, member, same⟩ :=
      recorded.replacing request worker boot live before unrevoked
    exact ⟨incarnation, List.mem_append_left _ member, same⟩

/-! ## Requests that do not save -/

theorem replacing_backs (c : Coordinator R) (request : RegisterWorkerRequest) :
    c.state.Backs (c.replacing request).state := by
  have replaced : ∀ (sequence : Nat) (workers : List LiveWorker) (c : Coordinator R),
      c.state.Backs (workers.foldl (replaceIncarnation sequence) c).state := by
    intro sequence workers
    induction workers with
    | nil => exact fun c => .refl c.state
    | cons live rest ih =>
        intro c
        have first : c.state.Backs (replaceIncarnation sequence c live).state :=
          OrderedMap.Evolves.mapValues fun record => loseWorker_backed ..
        exact first.trans (ih _)
  have counted : c.state.Backs c.nextSequence.state := .ofEq rfl
  exact counted.trans (replaced _ _ c.nextSequence)

theorem registerArtifacts_backs (envelope : AuthorityEnvelope) (artifacts : List ArtifactRecord)
    (c : Coordinator R) : c.state.Backs (registerArtifacts envelope c artifacts).1.state := by
  let property (reached : Coordinator R) : Prop := c.state.Backs reached.state
  have kept : property (registerArtifacts envelope c artifacts).1 := by
    refine registerArtifacts_keeps envelope ?_ ?_ artifacts (CoordinatorState.Backs.refl c.state)
    · exact fun _ backs => backs.trans (.ofEq rfl)
    · intro reached record trial submitted backs found _ _ _
      exact backs.trans (.assign found (pushArtifact_backed record _ _) rfl)
  exact kept

theorem claimLoop_backs (c : Coordinator R) (request : ClaimTrialRequest) (live : LiveWorker) :
    c.state.Backs (c.claimLoop request live).coordinator.state := by
  let property (reached : ClaimProgress R) : Prop := c.state.Backs reached.coordinator.state
  have looped : property (c.claimLoop request live) := by
    refine claimLoop_keeps c live ?_ fun _ => .refl c.state
    intro progress experiment key backs
    unfold claimTrial
    split
    · exact backs
    · split
      · exact backs
      · rename_i record found
        split
        · exact backs
        · split
          · exact backs
          · exact CoordinatorState.Backs.trans backs (.assign found (issue_backed record ..) rfl)
  exact looped

end Coordinator

section Requests

variable [MetricReal R] [CanonicalDigests R] {c : Coordinator R} {request : Request R}
  {fault : Option SaveFault}

/-- Undoing a failed save does not repair the degradation. -/
theorem Saving.undo_degraded {prepared : Coordinator R} {undo : Coordinator R → Coordinator R}
    {answer : Check Status → Reply R} (saves : Saving c request prepared undo answer)
    (unsaved : Coordinator R) :
    (undo unsaved).persistenceDegraded = unsaved.persistenceDegraded := by
  cases saves <;> rfl

/-- Requests that write the records of workers. -/
def writesRecords : Request R → Bool
  | .registerWorker _ | .revokeWorker .. => true
  | _ => false

theorem StateSteps.sameWorkers {old new : CoordinatorState R}
    (steps : StateSteps c request old new)
    (quiet : writesRecords request = false) : new.workers = old.workers := by
  induction steps with
  | refl => rfl
  | tail _ last ih =>
      refine Eq.trans ?_ ih
      cases last.1 with
      | lose named =>
          rcases named with ⟨reason, rfl⟩ | ⟨registration, rfl, -⟩
          · cases quiet
          · cases quiet
      | register named =>
          subst named
          cases quiet
      | quiet same workers => exact workers
      | change found effect stored workers => exact workers
      | create _ _ _ _ _ _ _ _ _ workers _ => exact workers
      | addTrial _ _ _ _ _ _ _ workers => exact workers
      | addTrialUndone _ _ _ _ _ workers => exact workers
      | issue _ _ _ _ _ _ _ _ _ workers => exact workers

namespace Coordinator

/-- A request that leaves no degradation has written its state, or it leaves the file alone and
experiments that those before it back. -/
theorem perform_backs (consistent : c.state.Consistent) (hasPath : c.config.statePath ≠ [])
    (undegraded : (c.perform request fault).1.persistenceDegraded = false) :
    (c.perform request fault).1.image = some (c.perform request fault).1.state ∨
      (c.perform request fault).1.image = c.image ∧ c.persistenceDegraded = false ∧
        c.state.Backs (c.perform request fault).1.state := by
  have config := (c.perform_operated request fault).config
  cases (c.perform_operated request fault).outcome with
  | failed image degraded => exact nomatch undegraded.symm.trans degraded
  | written image degraded hasPath => exact .inl image
  | untouched image degraded =>
      have ending := c.perform_ending fault request
      generalize c.perform request fault = result at ending image degraded undegraded config ⊢
      cases ending with
      | @saving _ prepared undo answer saves =>
          refine .inl ?_
          rcases prepared.endWith_cases fault undo answer with ⟨-, ended⟩ | ⟨-, failure, ended⟩
          · rw [ended] at undegraded config ⊢
            exact persistLocked_undegraded prepared fault undegraded (config ▸ hasPath)
          · rw [ended, saves.undo_degraded] at undegraded
            cases undegraded
      | forkInvalid guarded built =>
          refine .inr ⟨image, degraded.symm.trans undegraded, ?_⟩
          subst built
          exact .assign (forkBranchGuard_ok guarded).found (unfork_backed ..)
            (OrderedMap.assign_assign ..)
      | @trialInvalid experiment _ payload record _ branch failure guarded built =>
          refine .inr ⟨image, degraded.symm.trans undegraded, ?_⟩
          subst built
          have found := (createTrialGuard_ok guarded).found
          have kept : BackedBy record ((record.addTrial (record.newTrial experiment branch
              ⟨c.state.watermarks.trial + 1⟩ payload (c.currentSequence + 1))).removeTrial
                ⟨c.state.watermarks.trial + 1⟩) :=
            .ofSame rfl ((consistent _ _ found).addTrialUndone (Nat.lt_succ_self _)) rfl
          exact .assign found kept (OrderedMap.assign_assign ..)
      | replaced => exact .inr ⟨image, degraded.symm.trans undegraded, replacing_backs c _⟩
      | idle => exact .inr ⟨image, degraded.symm.trans undegraded, claimLoop_backs c _ _⟩
      | @artifactsKept request check registered failure guarded refused =>
          refine .inr ⟨image, degraded.symm.trans undegraded, ?_⟩
          have counted : c.state.Backs c.nextSequence.state := .ofEq rfl
          have kept := registerArtifacts_backs request.envelope request.artifacts c.nextSequence
          rw [refused] at kept
          exact counted.trans kept
      | @artifactsWithdrawn request check registered failure guarded accepted =>
          refine .inr ⟨image, degraded.symm.trans undegraded, ?_⟩
          obtain ⟨-, -, -, found, admitted⟩ :=
            (c.checkEnvelope_eq_ok _ _).mp (commitTrialGuard_ok guarded)
          have restored := withdrawArtifacts_experiments request.envelope request.artifacts
            (c := c.nextSequence) found admitted.trialFound (by rw [accepted])
          rw [accepted] at restored
          exact .ofEq restored
      | rollbackInvalid guarded built =>
          refine .inr ⟨image, degraded.symm.trans undegraded, ?_⟩
          subst built
          exact .assign (rollbackGuard_ok guarded).found (rollback_backed ..) rfl
      | _ => exact .inr ⟨image, degraded.symm.trans undegraded, .ofEq rfl⟩

/-! ## Every run -/

omit [MetricReal R] [CanonicalDigests R] in
/-- What a save leaves alone. -/
theorem LiveRecorded.persisted {prepared : Coordinator R} (recorded : prepared.LiveRecorded)
    (fault : Option SaveFault) : (prepared.persistLocked fault).1.LiveRecorded := by
  unfold LiveRecorded findLiveWorker
  rw [persistLocked_liveWorkers, persistLocked_state, persistLocked_epoch]
  exact recorded

theorem LiveRecorded.perform (recorded : c.LiveRecorded) (request : Request R)
    (fault : Option SaveFault) : (c.perform request fault).1.LiveRecorded := by
  cases writes : writesRecords request with
  | false =>
      have workers := (c.perform_steps request fault).sameWorkers writes
      cases c.perform_liveChange request fault with
      | kept table => exact recorded.kept (c.perform_operated request fault).epoch table workers
      | registered => cases writes
  | true =>
      have ending := c.perform_ending fault request
      generalize c.perform request fault = result at ending ⊢
      cases ending with
      | @saving _ prepared undo answer saves =>
          cases saves with
          | register guarded unknown fresh =>
              rw [endWith_id]
              exact (recorded.registering unknown).persisted fault
          | revoke known =>
              rw [endWith_id]
              refine LiveRecorded.persisted ?_ fault
              exact recorded.lose rfl rfl rfl
          | _ => cases writes
      | replaced => exact recorded.replacing _
      | refused => exact recorded
      | counted => exact recorded
      | registered => exact recorded
      | _ => cases writes

/-- The file has all that requests answer from. -/
structure Filed (c : Coordinator R) : Prop where
  experiments : c.file.Backs c.state
  workers : ∀ worker boot live, c.findLiveWorker worker boot = some live → live.revoked = false →
    c.file.Registers worker boot live.producer c.epoch

omit [MetricReal R] [CanonicalDigests R] in
/-- A state that is the file's. -/
theorem Filed.written {c : Coordinator R} (recorded : c.LiveRecorded)
    (written : c.image = some c.state) : c.Filed := by
  have same : c.file = c.state := by rw [file, written, Option.getD_some]
  refine ⟨same ▸ .refl c.state, ?_⟩
  rw [same]
  exact recorded

theorem Filed.perform (consistent : c.state.Consistent) (recorded : c.LiveRecorded)
    (hasPath : c.config.statePath ≠ []) (filed : c.persistenceDegraded = false → c.Filed)
    (undegraded : (c.perform request fault).1.persistenceDegraded = false) :
    (c.perform request fault).1.Filed := by
  have operated := c.perform_operated request fault
  have later := recorded.perform request fault
  rcases perform_backs consistent hasPath undegraded with written | ⟨image, wasUndegraded, backs⟩
  · exact .written later written
  · have before := filed wasUndegraded
    have same : (c.perform request fault).1.file = c.file := by rw [file, image, file]
    cases c.perform_liveChange request fault with
    | registered guarded unknown fresh workers state saved =>
        exact .written later (saved undegraded (operated.config ▸ hasPath))
    | kept table =>
        refine ⟨same ▸ before.experiments.trans backs, ?_⟩
        intro worker boot live' found unrevoked
        obtain ⟨live, held, kept⟩ := table.source found
        rw [same, kept.producer, operated.epoch]
        exact before.workers worker boot live held (kept.unrevoked unrevoked)

end Coordinator

/-! ## Starts -/

omit [MetricReal R] [CanonicalDigests R] in
/-- Recovery keeps what the file backs, unless a write has failed. -/
theorem filed_keptByRecovery : Coordinator.KeptByRecovery (R := R)
    fun c => c.persistenceDegraded = false → c.file.Backs c.state where
  staged := fun c _ record found backs undegraded =>
    (backs undegraded).trans (.assign found (stage_backed record c.currentSequence) rfl)
  resolved := fun c backs undegraded =>
    (backs undegraded).trans (OrderedMap.Evolves.traverse fun reached record =>
      resolve_backed record reached)
  persisted := fun c fault backs undegraded => by
    rcases c.persistLocked_cases fault true with ⟨same, -⟩ | ⟨failure, same⟩ | ⟨same, -⟩
    · rw [same] at undegraded ⊢
      exact backs undegraded
    · rw [same] at undegraded
      cases undegraded
    · rw [same]
      exact .refl c.state

/-- The live table is on record, and the file has all that requests answer from unless a write has
failed since the last one that succeeded. -/
def World.Filed : World R → Prop
  | .running c => c.LiveRecorded ∧ (c.persistenceDegraded = false → c.Filed)
  | .down _ => True

theorem World.Reachable.filed {path : Text} {world : World R} (reachable : world.Reachable path)
    (hasPath : path ≠ []) : world.Filed := by
  let property (world : World R) : Prop := world.Sound path ∧ world.Filed
  have both : property world := by
    refine reachable.invariant ⟨(World.Reachable.empty path).sound, trivial⟩ ?_
    rintro source event target ⟨sound, filed⟩ step
    refine ⟨step.sound sound, ?_⟩
    cases step with
    | request c request fault =>
        have samePath : c.config.statePath ≠ [] := by rwa [sound.1]
        exact ⟨filed.1.perform request fault, Coordinator.Filed.perform sound.2.1 filed.1 samePath
          filed.2⟩
    | stop c => trivial
    | @start config image left outcomes c samePath started =>
        have outcome := Coordinator.create_spec config image outcomes (sound.origin config).1
        have empty : c.liveWorkers = .empty := outcome.liveWorkers c (by rw [started])
        have nobody : ∀ worker boot live, c.findLiveWorker worker boot = some live → False := by
          intro worker boot live found
          simp [Coordinator.findLiveWorker, empty] at found
        have backs := (Coordinator.create_keeps filed_keptByRecovery config image outcomes
          fun _ => .ofEq (by rw [sound.origin_eq samePath]; rfl)).2 c (by rw [started])
        exact ⟨fun worker boot live found => (nobody worker boot live found).elim,
          fun undegraded => ⟨backs undegraded,
            fun worker boot live found => (nobody worker boot live found).elim⟩⟩
    | failedStart samePath refused => trivial
  exact both.2

end Requests

end ExperimentFabric
