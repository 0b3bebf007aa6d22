import ExperimentFabric.Effects
import ExperimentFabric.Saving

/-!
# Every request is a chain of steps

Each public operation is traced once, from its guard to the state it leaves, as a chain of steps of
the durable state.
-/

namespace ExperimentFabric

open Lib Relation

variable {R : Type}

section Chains

variable [MetricReal R] [CanonicalDigests R] {c : Coordinator R} {request : Request R}
  {old middle new : CoordinatorState R}

theorem StateSteps.single (step : StateStep c request old new) (advances : old.Advances new) :
    StateSteps c request old new :=
  ReflTransGen.single ⟨step, advances⟩

theorem StateSteps.refl (state : CoordinatorState R) : StateSteps c request state state :=
  ReflTransGen.refl

theorem StateSteps.trans (first : StateSteps c request old middle)
    (second : StateSteps c request middle new) : StateSteps c request old new :=
  ReflTransGen.trans first second

theorem StateSteps.advances (steps : StateSteps c request old new) : old.Advances new := by
  induction steps with
  | refl => exact .refl _
  | tail _ last ih => exact ih.trans last.2

/-- Counters may change without touching an experiment or a worker. -/
theorem StateSteps.quiet (same : new.experiments = old.experiments)
    (workers : new.workers = old.workers) (advances : old.Advances new) :
    StateSteps c request old new :=
  .single (.quiet same workers) advances

/-- One record changes. -/
theorem StateSteps.change {experiment : ExperimentId} {before after : ExperimentRecord R}
    (found : old.experiments.find? experiment = some before)
    (effect : Effect c experiment before new.watermarks request after)
    (stored : new.experiments = old.experiments.assign experiment after)
    (workers : new.workers = old.workers) (advances : old.Advances new) :
    StateSteps c request old new :=
  .single (.change found effect stored workers) advances

end Chains

/-! ## Branches of a specification -/

theorem defineBranches_reached (sequence watermark : Nat) (declared : List (BranchId × BranchSpec))
    (specs : List BranchSpec) :
    watermark ≤ (defineBranches sequence watermark declared specs).1 ∧
      ∀ branches, (defineBranches sequence watermark declared specs).2 = .ok branches →
        ∀ branch ∈ branches, branch.id.value ≤
          (defineBranches sequence watermark declared specs).1 := by
  induction specs generalizing watermark declared with
  | nil => exact ⟨le_rfl, by rintro branches ⟨⟩ branch member; cases member⟩
  | cons spec rest ih =>
      obtain ⟨later, bounded⟩ := ih (watermark + 1) (declared ++ [(⟨watermark + 1⟩, spec)])
      have first := (Nat.le_succ watermark).trans later
      simp only [defineBranches]
      split
      · exact ⟨Nat.le_succ watermark, fun _ impossible => by cases impossible⟩
      · rename_i branch made
        have identity : branch.id = ⟨watermark + 1⟩ := by
          split at made
          · cases made
            rfl
          · split at made
            · cases made
            · cases made
              rfl
        split
        · rename_i reached branches result
          rw [result] at later bounded first
          refine ⟨first, ?_⟩
          rintro _ ⟨⟩ other member
          rcases List.mem_cons.mp member with rfl | rest
          · rw [identity]
            exact later
          · exact bounded branches rfl other rest
        · rename_i reached failure result
          rw [result] at first
          exact ⟨first, fun _ impossible => by cases impossible⟩

/-- The first declared branch is a root, or a fork of a branch declared before it. -/
theorem defineBranches_ok_cons {sequence watermark : Nat} {declared : List (BranchId × BranchSpec)}
    {spec : BranchSpec} {rest : List BranchSpec} {branches : List BranchDefinition}
    (defined : (defineBranches sequence watermark declared (spec :: rest)).2 = .ok branches) :
    ∃ branch later, branches = branch :: later ∧
      (defineBranches sequence (watermark + 1) (declared ++ [(⟨watermark + 1⟩, spec)]) rest).2 =
        .ok later ∧
      ((spec.forkFrom = none ∧ branch = spec.define ⟨watermark + 1⟩ sequence) ∨
        ∃ parent ∈ declared, spec.forkFrom = some parent.2.name ∧
          branch = (spec.define ⟨watermark + 1⟩ sequence).inherit parent.1 parent.2) := by
  simp only [defineBranches] at defined
  split at defined
  · cases defined
  · rename_i branch made
    split at defined
    · rename_i reached later result
      obtain rfl := Except.ok.inj defined
      refine ⟨branch, later, rfl, by rw [result], ?_⟩
      split at made
      · rename_i root
        cases made
        exact .inl ⟨root, rfl⟩
      · rename_i name forked
        split at made
        · cases made
        · rename_i parent found
          cases made
          have named : parent.2.name = name := by simpa using List.find?_some found
          exact .inr ⟨parent, List.mem_of_find?_eq_some found, named ▸ forked, rfl⟩
    · cases defined

section Operations

variable [MetricReal R] [CanonicalDigests R]

namespace Coordinator

variable (c : Coordinator R)

/-- An operation ends in its last change, or in that change undone. -/
theorem settle_steps {α : Type} {start : Coordinator R} {request : Request R}
    {old : CoordinatorState R} (fault : Option SaveFault) {undo : Coordinator R → Coordinator R}
    (value : α) (kept : StateSteps start request old c.state)
    (undone : ∀ unsaved : Coordinator R, unsaved.state = c.state →
      StateSteps start request old (undo unsaved).state) :
    StateSteps start request old (c.settle fault undo value).1.state := by
  rcases c.settle_cases fault undo value with ⟨saved, persisted, ended⟩ |
    ⟨unsaved, failure, persisted, ended⟩
  · rw [ended, show saved.state = c.state by
      simpa [persisted] using c.persistLocked_state fault true]
    exact kept
  · rw [ended]
    exact undone unsaved (by simpa [persisted] using c.persistLocked_state fault true)

/-! ## Definition operations -/

theorem createExperiment_steps (spec : ExperimentSpec R) (fault : Option SaveFault) :
    StateSteps c (.createExperiment spec) c.state (c.createExperiment spec fault).1.state := by
  have branches := defineBranches_reached (c.state.lastSequence + 1) c.state.watermarks.branch []
    spec.branches
  unfold createExperiment
  split
  · exact .refl _
  · rename_i accepted
    split
    · exact .refl _
    · split
      · exact .refl _
      · rename_i room
        dsimp only
        split
        · exact .quiet rfl rfl ⟨by constructor <;> simp, by simp, rfl⟩
        · rename_i absent
          have absent : c.state.experiments.find? ⟨c.state.watermarks.experiment + 1⟩ = none := by
            simpa using absent
          split
          · exact .quiet rfl rfl ⟨by constructor <;> simp, by simp, rfl⟩
          · have grows : ∀ reached, c.state.watermarks.branch ≤ reached →
                c.state.watermarks.Grows
                  { c.state.watermarks with
                    experiment := c.state.watermarks.experiment + 1
                    hypothesis := c.state.watermarks.hypothesis + 1
                    metric := c.state.watermarks.metric + spec.metrics.length
                    policy := c.state.watermarks.policy + 1
                    branch := reached } := by
              intro reached larger
              constructor <;> simp [larger]
            split
            · exact .quiet rfl rfl ⟨grows _ branches.1, by simp, rfl⟩
            · rename_i declared defined
              split
              · exact .quiet (OrderedMap.erase_assign _ _ _ absent) rfl
                  ⟨grows _ branches.1, by simp, rfl⟩
              · rename_i valid
                refine settle_steps _ _ _ (.single (.create rfl accepted (by simpa using room) rfl
                  valid ⟨by simp, by simp, branches.2 declared defined⟩ rfl absent rfl rfl defined)
                  ⟨grows _ branches.1, by simp, rfl⟩) ?_
                intro unsaved same
                rw [eraseExperiment, withExperiments, same]
                exact .quiet (OrderedMap.erase_assign _ _ _ absent) rfl
                  ⟨grows _ branches.1, by simp, rfl⟩

theorem reviseHypothesis_steps (experiment : ExperimentId) (spec : HypothesisRevisionSpec)
    (fault : Option SaveFault) :
    StateSteps c (.reviseHypothesis experiment spec) c.state
      (c.reviseHypothesis experiment spec fault).1.state := by
  unfold reviseHypothesis
  split
  · exact .refl _
  · rename_i record guarded
    have found := (reviseHypothesisGuard_ok guarded).found
    simp only [settle_id_fst, persistLocked_state]
    exact .change found (.revise guarded) rfl rfl (.counted rfl (Nat.le_succ _) rfl)

theorem forkBranch_steps (experiment : ExperimentId) (parent : BranchId) (spec : BranchSpec)
    (fault : Option SaveFault) :
    StateSteps c (.forkBranch experiment parent spec) c.state
      (c.forkBranch experiment parent spec fault).1.state := by
  unfold forkBranch
  split
  · exact .refl _
  · rename_i record parentBranch guarded
    have found := (forkBranchGuard_ok guarded).found
    have advances : c.state.Advances c.nextSequence.allocBranchId.state :=
      ⟨by constructor <;> simp, by simp, rfl⟩
    dsimp only
    split
    · exact .change found (.forkUndone guarded) (OrderedMap.assign_assign ..) rfl
        ⟨advances.marks, advances.sequence, rfl⟩
    · rename_i valid
      refine settle_steps _ _ _ (.change found (.fork guarded rfl valid (by simp)) rfl rfl
        ⟨advances.marks, advances.sequence, rfl⟩) ?_
      intro unsaved same
      rw [undoFork, withRecord, withExperiments, same]
      exact .change found (.forkUndone guarded) (OrderedMap.assign_assign ..) rfl
        ⟨advances.marks, advances.sequence, rfl⟩

theorem retireBranch_steps (experiment : ExperimentId) (branch : BranchId) (reason : Text)
    (fault : Option SaveFault) :
    StateSteps c (.retireBranch experiment branch reason) c.state
      (c.retireBranch experiment branch reason fault).1.state := by
  unfold retireBranch
  split
  · exact .refl _
  · rename_i record guarded
    have found := (retireBranchGuard_ok guarded).found
    simp only [settle_id_fst, persistLocked_state]
    exact .change found (.retire guarded) rfl rfl (.counted rfl (Nat.le_succ _) rfl)

theorem createTrial_steps (experiment : ExperimentId) (branch : BranchId) (payload : Text)
    (fault : Option SaveFault) :
    StateSteps c (.createTrial experiment branch payload) c.state
      (c.createTrial experiment branch payload fault).1.state := by
  unfold createTrial
  split
  · exact .refl _
  · rename_i record definition guarded
    have found := (createTrialGuard_ok guarded).found
    have advances : c.state.Advances c.nextSequence.allocTrialId.state :=
      ⟨by constructor <;> simp, by simp, rfl⟩
    dsimp only
    split
    · exact .single (.addTrialUndone rfl guarded found rfl (OrderedMap.assign_assign ..) rfl)
        ⟨advances.marks, advances.sequence, rfl⟩
    · rename_i valid
      refine settle_steps _ _ _ (.single (.addTrial rfl guarded valid found rfl (by simp) rfl rfl)
        ⟨advances.marks, advances.sequence, rfl⟩) ?_
      intro unsaved same
      rw [undoTrial, withRecord, withExperiments, same]
      exact .single (.addTrialUndone rfl guarded found rfl (OrderedMap.assign_assign ..) rfl)
        ⟨advances.marks, advances.sequence, rfl⟩

/-! ## Workers and claims -/

theorem replaceIncarnation_steps {start : Coordinator R} {registration : RegisterWorkerRequest}
    (sequence : Nat) (replaced : List LiveWorker)
    (others : ∀ live ∈ replaced, live.worker = registration.worker ∧
      live.boot ≠ registration.boot) :
    StateSteps start (.registerWorker registration) c.state
      (replaced.foldl (replaceIncarnation sequence) c).state := by
  induction replaced generalizing c with
  | nil => exact .refl _
  | cons live rest ih =>
      obtain ⟨worker, boot⟩ := others live List.mem_cons_self
      have lost : StateStep start (.registerWorker registration) c.state
          (replaceIncarnation sequence c live).state :=
        .lose (.inr ⟨registration, rfl, worker.symm, boot.symm⟩) rfl rfl
      exact (StateSteps.single lost (.counted rfl le_rfl rfl)).trans
        (ih (replaceIncarnation sequence c live) fun other member =>
          others other (List.mem_cons_of_mem live member))

theorem registerWorker_steps (request : RegisterWorkerRequest) (fault : Option SaveFault) :
    StateSteps c (.registerWorker request) c.state (c.registerWorker request fault).1.state := by
  unfold registerWorker
  split
  · exact .refl _
  · rename_i guarded
    split
    · split <;> exact .refl _
    · rename_i fresh
      have counted : StateSteps c (.registerWorker request) c.state c.nextSequence.state :=
        .quiet rfl rfl (.counted rfl (Nat.le_succ _) rfl)
      have replaced := counted.trans (c.nextSequence.replaceIncarnation_steps
        c.nextSequence.currentSequence (c.nextSequence.replacedBy request.worker request.boot)
        fun live member => by
          simp only [replacedBy, List.mem_filter, Bool.and_eq_true, decide_eq_true_eq] at member
          exact member.2.1)
      dsimp only
      split
      · exact replaced
      · have added : ∀ later : Coordinator R, later.epoch = c.epoch →
            StateSteps c (.registerWorker request) later.state
              ((later.addWorker request).settle fault id ()).1.state := fun later epoch => by
          rw [settle_id_fst, persistLocked_state]
          exact .single (.register rfl guarded fresh ⟨rfl, rfl, epoch⟩ rfl rfl)
            (.counted rfl (Nat.le_succ _) rfl)
        have ended := replaced.trans (added _
          (replaceIncarnations_sameProcess _ _ c.nextSequence).epoch)
        split
        · rename_i settled
          rw [settled] at ended
          exact ended
        · rename_i settled
          rw [settled] at ended
          exact ended

theorem revokeWorker_steps (worker : WorkerId) (boot : WorkerBootId) (kind : FailureKind)
    (reason : Text) (fault : Option SaveFault) :
    StateSteps c (.revokeWorker worker boot kind reason) c.state
      (c.revokeWorker worker boot kind reason fault).1.state := by
  unfold revokeWorker
  split
  · exact .refl _
  · simp only [settle_id_fst, persistLocked_state]
    exact .single (.lose (.inl ⟨reason, rfl⟩) rfl rfl) (.counted rfl (Nat.le_succ _) rfl)

theorem heartbeat_steps (request : HeartbeatRequest) :
    StateSteps c (.heartbeat request) c.state (c.heartbeat request).1.state := by
  unfold heartbeat
  split <;> exact .refl _

/-- The experiment, if it exists, is open. -/
def IsOpen (c : Coordinator R) (experiment : ExperimentId) : Prop :=
  ∀ record, c.findExperiment experiment = some record → record.state = .opened

section Claims

variable {c : Coordinator R} {claim : ClaimTrialRequest} {live : LiveWorker}
  (guarded : c.claimTrialsGuard claim = .ok live)

include guarded

/-- Issuing a trial is one step and leaves the experiment open. -/
theorem claimTrial_steps (key : TrialId) {experiment : ExperimentId} {progress : ClaimProgress R}
    (same : SameProcess c progress.coordinator)
    (opened : progress.coordinator.IsOpen experiment) :
    StateSteps c (.claimTrials claim) progress.coordinator.state
        (claimTrial claim live.producer experiment progress key).coordinator.state ∧
      (claimTrial claim live.producer experiment progress key).coordinator.IsOpen experiment := by
  unfold claimTrial
  split
  · exact ⟨.refl _, opened⟩
  · split
    · exact ⟨.refl _, opened⟩
    · rename_i record found
      split
      · exact ⟨.refl _, opened⟩
      · rename_i trial trialFound
        split
        · exact ⟨.refl _, opened⟩
        · rename_i branch claimable
          rw [limits, same.config] at claimable
          have epoch : progress.coordinator.epoch = c.epoch := same.epoch
          let issued := record.issue key (record.newAttempt trial
            ⟨progress.coordinator.state.watermarks.attempt + 1⟩ claim.worker claim.boot c.epoch
            live.producer (progress.coordinator.state.lastSequence + 1))
            (progress.coordinator.state.lastSequence + 1)
          refine ⟨.single (.issue rfl guarded found (opened record found) trialFound claimable
            (Nat.lt_succ_self _) le_rfl
            (show _ = progress.coordinator.state.experiments.assign experiment issued from ?_) rfl)
            ⟨?_, ?_, rfl⟩, ?_⟩
          · simp [issued, epoch]
          · constructor <;> simp
          · simp
          · intro issued lookup
            obtain rfl : record.issue key _ _ = issued := by simpa using lookup
            exact opened record found

theorem claimKeys_steps {experiment : ExperimentId} {progress : ClaimProgress R}
    {keys : List TrialId} (same : SameProcess c progress.coordinator)
    (opened : progress.coordinator.IsOpen experiment) :
    StateSteps c (.claimTrials claim) progress.coordinator.state
      (keys.foldl (claimTrial claim live.producer experiment) progress).coordinator.state := by
  induction keys generalizing progress with
  | nil => exact .refl _
  | cons key rest ih =>
      obtain ⟨first, stillOpen⟩ := claimTrial_steps guarded key same opened
      exact first.trans (ih (same.trans (claimTrial_sameProcess ..)) stillOpen)

theorem claimExperiment_steps (progress : ClaimProgress R) (experiment : ExperimentId)
    (same : SameProcess c progress.coordinator) :
    StateSteps c (.claimTrials claim) progress.coordinator.state
      (claimExperiment claim live.producer progress experiment).coordinator.state := by
  unfold claimExperiment
  split
  · exact .refl _
  · split
    · exact .refl _
    · rename_i record found
      split
      · exact .refl _
      · rename_i mutable
        apply claimKeys_steps guarded same
        intro other lookup
        obtain rfl : record = other := Option.some.inj (found.symm.trans lookup)
        simpa [isExperimentMutable] using mutable

theorem claimExperiments_steps (progress : ClaimProgress R) (experiments : List ExperimentId)
    (same : SameProcess c progress.coordinator) :
    StateSteps c (.claimTrials claim) progress.coordinator.state
      (experiments.foldl (claimExperiment claim live.producer) progress).coordinator.state := by
  induction experiments generalizing progress with
  | nil => exact .refl _
  | cons experiment rest ih =>
      exact (claimExperiment_steps guarded progress experiment same).trans
        (ih _ (same.trans (claimExperiment_sameProcess ..)))

end Claims

theorem claimTrials_steps (request : ClaimTrialRequest) (fault : Option SaveFault) :
    StateSteps c (.claimTrials request) c.state (c.claimTrials request fault).1.state := by
  unfold claimTrials
  split
  · exact .refl _
  · rename_i live guarded
    have claimed : StateSteps c (.claimTrials request) c.state
        (c.claimLoop request live).coordinator.state :=
      claimExperiments_steps guarded ⟨c, _, []⟩ c.state.experiments.keys (.refl c)
    dsimp only
    split
    · exact claimed
    · rw [settle_id_fst, persistLocked_state]
      exact claimed

/-! ## Evidence -/

omit [MetricReal R] [CanonicalDigests R] in
theorem rejectObservation_record (record : ExperimentRecord R) (observation : Observation R)
    (verdict : Status) :
    (c.rejectObservation record observation verdict).state.experiments =
      c.state.experiments.assign observation.experiment
        (c.refusedObservation record observation verdict) := by
  unfold rejectObservation refusedObservation
  dsimp only
  split <;> rfl

omit [MetricReal R] [CanonicalDigests R] in
theorem rejectObservation_counts (record : ExperimentRecord R) (observation : Observation R)
    (verdict : Status) :
    (c.rejectObservation record observation verdict).state.workers = c.state.workers ∧
      c.state.Advances (c.rejectObservation record observation verdict).state := by
  unfold rejectObservation
  dsimp only
  split
  · exact ⟨rfl, .counted rfl (Nat.le_succ _) rfl⟩
  · exact ⟨rfl, .counted rfl le_rfl rfl⟩

omit [MetricReal R] [CanonicalDigests R] in
/-- The sequence an observed trial and attempt leave is not smaller. -/
theorem le_observe (record : ExperimentRecord R) (trial : TrialRecord) (attempt : AttemptRecord)
    (trialKey : TrialId) (attemptKey : TrialAttemptId) (sequence : Nat) :
    sequence ≤ (record.observe trial attempt trialKey attemptKey sequence).2 := by
  unfold ExperimentRecord.observe
  dsimp only
  split
  · split
    · exact Nat.le_add_right sequence 2
    · exact Nat.le_succ sequence
  · split
    · exact Nat.le_succ sequence
    · exact le_rfl

theorem publishObservation_steps (request : PublishObservationRequest R)
    (fault : Option SaveFault) :
    StateSteps c (.publishObservation request) c.state
      (c.publishObservation request fault).1.state := by
  unfold publishObservation
  dsimp only
  split
  · exact .refl _
  · rename_i probe probeFound
    split
    · rename_i verdict refused
      have rejected : StateSteps c (.publishObservation request) c.state
          ((c.rejectObservation probe request.observation verdict).settle fault id ()).1.state := by
        rw [settle_id_fst, persistLocked_state]
        obtain ⟨workers, advances⟩ := c.rejectObservation_counts probe request.observation verdict
        exact .change probeFound (.refuseObservation rfl probeFound refused)
          (c.rejectObservation_record probe request.observation verdict) workers advances
      split
      · rename_i settled
        rw [settled] at rejected
        exact rejected
      · rename_i settled
        rw [settled] at rejected
        exact rejected
    · rename_i check accepted
      obtain ⟨record, branch, trial, attempt⟩ := check
      obtain ⟨-, -, -, found, -⟩ := (c.checkEnvelope_eq_ok _ _).mp accepted
      obtain rfl : probe = record := Option.some.inj (probeFound.symm.trans found)
      split
      · exact .refl _
      · exact .refl _
      · rename_i admitted admission
        have larger := (Nat.le_succ c.state.lastSequence).trans (le_observe
          (probe.pushObservation { admitted with sequence := c.nextSequence.currentSequence }) trial
          attempt request.observation.trial request.observation.attempt
          c.nextSequence.currentSequence)
        refine settle_steps _ _ _ (.change probeFound
          (.publishObservation rfl accepted admission) rfl rfl (.counted rfl larger rfl)) ?_
        intro unsaved same
        rw [undoObservation, observe_pushObservation_dropLast]
        refine .change probeFound (.publishObservationUndone rfl accepted) ?_ ?_ (.counted ?_ ?_ ?_)
        · simp only [indexObservations, withRecord, withExperiments, same]
          exact OrderedMap.assign_assign ..
        · simp only [indexObservations, withRecord, withExperiments, same]
          rfl
        · simp only [indexObservations, withRecord, withExperiments, same]
          rfl
        · simp only [indexObservations, withRecord, withExperiments, same]
          exact larger
        · simp only [indexObservations, withRecord, withExperiments, same]
          rfl

omit [MetricReal R] [CanonicalDigests R] in
/-- The envelope of an artifact designates the experiment of the artifact. -/
theorem artifactEnvelope_experiment {request : PublishArtifactRequest}
    {record : ExperimentRecord R} {envelope : AuthorityEnvelope}
    (built : artifactEnvelope request record = .ok envelope) :
    envelope.experiment = request.artifact.experiment := by
  simp only [artifactEnvelope, demand_bind_eq_ok, pure, Except.pure, Except.ok.injEq] at built
  obtain ⟨_, -, _, -, rfl⟩ := built
  rfl

omit [MetricReal R] [CanonicalDigests R] in
/-- The envelope of an artifact designates the trial of the artifact. -/
theorem artifactEnvelope_trial {request : PublishArtifactRequest}
    {record : ExperimentRecord R} {envelope : AuthorityEnvelope}
    (built : artifactEnvelope request record = .ok envelope) :
    envelope.trial = request.artifact.trial := by
  simp only [artifactEnvelope, demand_bind_eq_ok, pure, Except.pure, Except.ok.injEq] at built
  obtain ⟨_, -, _, -, rfl⟩ := built
  rfl

theorem publishArtifact_steps (request : PublishArtifactRequest) (fault : Option SaveFault) :
    StateSteps c (.publishArtifact request) c.state
      (c.publishArtifact request fault).1.state := by
  unfold publishArtifact
  dsimp only
  split
  · exact .refl _
  · rename_i probe probeFound
    split
    · exact .refl _
    · rename_i envelope built
      split
      · rename_i verdict refused
        have rejected : StateSteps c (.publishArtifact request) c.state
            ((c.withRecord request.artifact.experiment (probe.reject (text "artifact")
              request.artifact.id.value verdict)).settle fault id ()).1.state := by
          rw [settle_id_fst, persistLocked_state]
          exact .change probeFound (.refuseArtifact rfl probeFound built refused) rfl rfl
            (.counted rfl le_rfl rfl)
        split
        · rename_i settled
          rw [settled] at rejected
          exact rejected
        · rename_i settled
          rw [settled] at rejected
          exact rejected
      · rename_i check accepted
        obtain ⟨record, branch, trial, attempt⟩ := check
        obtain ⟨-, -, -, found, -⟩ := (c.checkEnvelope_eq_ok _ _).mp accepted
        rw [artifactEnvelope_experiment built] at found
        obtain rfl : probe = record := Option.some.inj (probeFound.symm.trans found)
        split
        · exact .refl _
        · exact .refl _
        · rename_i admission
          have larger : c.state.lastSequence ≤ c.state.lastSequence + 1 + 1 :=
            Nat.le_add_right _ 2
          refine settle_steps _ _ _ (.change probeFound
            (.publishArtifact rfl built accepted admission) rfl rfl (.counted rfl larger rfl)) ?_
          intro unsaved same
          rw [undoArtifact, dropArtifact_touch_pushArtifact]
          refine .change probeFound (.publishArtifactUndone rfl built accepted) ?_ ?_
            (.counted ?_ ?_ ?_)
          · simp only [indexArtifacts, withRecord, withExperiments, same]
            exact OrderedMap.assign_assign ..
          · simp only [indexArtifacts, withRecord, withExperiments, same]
            rfl
          · simp only [indexArtifacts, withRecord, withExperiments, same]
            rfl
          · simp only [indexArtifacts, withRecord, withExperiments, same]
            exact larger
          · simp only [indexArtifacts, withRecord, withExperiments, same]
            rfl

/-! ## Commit, failure and cancellation -/

/-- What registering the artifacts of a commit leaves. -/
structure ArtifactsAdded (experiment : ExperimentId) (before after : ExperimentRecord R)
    (old new : CoordinatorState R) : Prop where
  moves : ReflTransGen (Move experiment) before after
  stored : new.experiments = old.experiments.assign experiment after
  watermarks : new.watermarks = old.watermarks
  workers : new.workers = old.workers
  sequence : old.lastSequence ≤ new.lastSequence
  format : new.formatVersion = old.formatVersion
  state : after.state = before.state
  definition : after.definition = before.definition
  attempts : after.attempts = before.attempts
  observations : after.observations = before.observations
  rollbackPoints : after.rollbackPoints = before.rollbackPoints
  trials : ∀ key trial, before.trials.find? key = some trial →
    ∃ held, after.trials.find? key = some { trial with artifacts := held }

theorem ArtifactsAdded.none {experiment : ExperimentId} {record : ExperimentRecord R}
    {old : CoordinatorState R} (found : old.experiments.find? experiment = some record)
    (sequence : Nat) (larger : old.lastSequence ≤ sequence) :
    ArtifactsAdded experiment record record old { old with lastSequence := sequence } where
  moves := .refl
  stored := (OrderedMap.assign_self found).symm
  watermarks := rfl
  workers := rfl
  sequence := larger
  format := rfl
  state := rfl
  definition := rfl
  attempts := rfl
  observations := rfl
  rollbackPoints := rfl
  trials := fun _ trial lookup => ⟨trial.artifacts, lookup⟩

theorem registerArtifacts_added (envelope : AuthorityEnvelope) (artifacts : List ArtifactRecord)
    (c : Coordinator R) (record : ExperimentRecord R)
    (found : c.state.experiments.find? envelope.experiment = some record) :
    ∃ after, ArtifactsAdded envelope.experiment record after c.state
      (registerArtifacts envelope c artifacts).1.state := by
  have kept : ArtifactsAdded envelope.experiment record record c.state c.state :=
    .none found c.state.lastSequence le_rfl
  induction artifacts generalizing c record with
  | nil => exact ⟨record, kept⟩
  | cons submitted rest ih =>
      simp only [registerArtifacts, findExperiment, found]
      split
      · exact ⟨record, kept⟩
      · rename_i trial trialFound
        split
        · exact ⟨record, kept⟩
        · split
          · exact ⟨record, kept⟩
          · split
            · exact ⟨record, kept⟩
            · split
              · exact ⟨record, .none found _ (Nat.le_succ c.state.lastSequence)⟩
              · let artifact := submittedArtifact record trial envelope.attempt submitted
                  c.nextSequence.currentSequence
                have foundNext : (c.nextSequence.storeArtifact envelope.experiment record
                    envelope.trial artifact).state.experiments.find? envelope.experiment =
                      some (record.pushArtifact envelope.trial artifact) := by
                  simp [storeArtifact]
                obtain ⟨after, added⟩ := ih (c.nextSequence.storeArtifact envelope.experiment record
                  envelope.trial artifact) (record.pushArtifact envelope.trial artifact)
                  foundNext (.none foundNext _ le_rfl)
                refine ⟨after, .head (.pushArtifact envelope.trial _) added.moves, ?_,
                  added.watermarks, added.workers, (Nat.le_succ _).trans added.sequence,
                  added.format, added.state, added.definition, added.attempts, added.observations,
                  added.rollbackPoints, ?_⟩
                · exact added.stored.trans (OrderedMap.assign_assign ..)
                · intro key other lookup
                  by_cases here : key = envelope.trial
                  · subst here
                    exact added.trials envelope.trial (other.hold artifact.id)
                      (by simp [ExperimentRecord.pushArtifact, lookup])
                  · exact added.trials key other
                      (by simp [ExperimentRecord.pushArtifact, here, lookup])

theorem ArtifactsAdded.advances {experiment : ExperimentId} {before after : ExperimentRecord R}
    {old new : CoordinatorState R} (added : ArtifactsAdded experiment before after old new) :
    old.Advances new :=
  .counted added.watermarks added.sequence added.format

theorem ArtifactsAdded.livePair {experiment : ExperimentId} {before after : ExperimentRecord R}
    {old new : CoordinatorState R} (added : ArtifactsAdded experiment before after old new)
    {trialKey : TrialId} {attemptKey : TrialAttemptId} {trial : TrialRecord}
    {attempt : AttemptRecord} (live : LivePair before trialKey attemptKey trial attempt) :
    ∃ held, LivePair after trialKey attemptKey { trial with artifacts := held } attempt := by
  obtain ⟨held, found⟩ := added.trials trialKey trial live.trialFound
  exact ⟨held, found, live.trialOpen, live.authoritative, by rw [added.attempts, live.attemptFound],
    live.attemptOpen⟩

theorem commitTrial_steps (request : CommitTrialRequest) (fault : Option SaveFault) :
    StateSteps c (.commitTrial request) c.state (c.commitTrial request fault).1.state := by
  unfold commitTrial
  split
  · exact .refl _
  · rename_i check guarded
    obtain ⟨record, branch, trial, attempt⟩ := check
    obtain ⟨-, -, -, found, admitted⟩ :=
      (c.checkEnvelope_eq_ok _ _).mp (commitTrialGuard_ok guarded)
    split
    · exact .refl _
    · split
      · exact .refl _
      · obtain ⟨after, added⟩ :=
          registerArtifacts_added request.envelope request.artifacts c.nextSequence record found
        have advances : c.state.Advances
            (registerArtifacts request.envelope c.nextSequence request.artifacts).1.state :=
          CoordinatorState.Advances.trans
            (.counted rfl (Nat.le_succ c.state.lastSequence) rfl : c.state.Advances
              c.nextSequence.state) added.advances
        have stored : (registerArtifacts request.envelope c.nextSequence
            request.artifacts).1.findExperiment request.envelope.experiment = some after := by
          rw [findExperiment, added.stored, OrderedMap.find?_assign_self]
        dsimp only
        split
        · rename_i registered failure ended
          have refused := congrArg Prod.snd ended
          rw [show registered = (registerArtifacts request.envelope c.nextSequence
            request.artifacts).1 by rw [ended]]
          exact .change found (.registerArtifacts rfl guarded refused stored) added.stored
            added.workers advances
        · rename_i registered ended
          have accepted := congrArg Prod.snd ended
          rw [show registered = (registerArtifacts request.envelope c.nextSequence
            request.artifacts).1 by rw [ended]]
          split
          · have restored := withdrawArtifacts_experiments request.envelope request.artifacts
              (show c.nextSequence.findExperiment request.envelope.experiment =
                some record from found) admitted.trialFound accepted
            obtain ⟨experiments, positions, withdrawn⟩ := withdrawArtifacts_frame request.envelope
              (request.artifacts.map ArtifactRecord.id)
              (registerArtifacts request.envelope c.nextSequence request.artifacts).1
            rw [withdrawn] at restored ⊢
            exact .quiet restored added.workers
              ⟨advances.marks, advances.sequence, advances.format⟩
          · simp only [stored, settle_id_fst, persistLocked_state]
            refine .change found (.commit rfl guarded accepted stored) ?_ added.workers
              ⟨advances.marks, advances.sequence, advances.format⟩
            simp only [withRecord, withExperiments, added.stored]
            exact OrderedMap.assign_assign ..

theorem failTrial_steps (request : FailTrialRequest) (fault : Option SaveFault) :
    StateSteps c (.failTrial request) c.state (c.failTrial request fault).1.state := by
  unfold failTrial
  split
  · exact .refl _
  · rename_i check guarded
    obtain ⟨record, branch, trial, attempt⟩ := check
    obtain ⟨-, -, -, found, -⟩ := (c.checkEnvelope_eq_ok _ _).mp (failTrialGuard_ok guarded).1
    simp only [settle_id_fst, persistLocked_state]
    exact .change found (.fail rfl guarded) rfl rfl (.counted rfl (Nat.le_succ _) rfl)

omit [MetricReal R] [CanonicalDigests R] in
/-- The owner of a trial is an experiment that holds it. -/
theorem ownerOf_eq_some {trial : TrialId} {experiment : ExperimentId} {record : ExperimentRecord R}
    {held : TrialRecord} (owner : c.ownerOf trial = some (experiment, record, held)) :
    c.state.experiments.find? experiment = some record ∧ record.trials.find? trial = some held := by
  obtain ⟨⟨id, candidate⟩, member, lookup⟩ := List.exists_of_findSome?_eq_some owner
  simp only [Option.map_eq_some_iff, Prod.mk.injEq] at lookup
  obtain ⟨_, found, rfl, rfl, rfl⟩ := lookup
  exact ⟨(OrderedMap.mem_entries_iff _ _ _).mp member, found⟩

theorem cancelTrial_steps (trial : TrialId) (reason : Text) (fault : Option SaveFault) :
    StateSteps c (.cancelTrial trial reason) c.state
      (c.cancelTrial trial reason fault).1.state := by
  unfold cancelTrial
  split
  · exact .refl _
  · rename_i experiment record held owner
    obtain ⟨found, -⟩ := c.ownerOf_eq_some owner
    split
    · split <;> exact .refl _
    · rename_i trialOpen
      simp only [settle_id_fst, persistLocked_state]
      exact .change found (.cancelTrial owner (by simpa using trialOpen)) rfl rfl
        (.counted rfl (Nat.le_succ _) rfl)

theorem cancelExperiment_steps (experiment : ExperimentId) (reason : Text)
    (fault : Option SaveFault) :
    StateSteps c (.cancelExperiment experiment reason) c.state
      (c.cancelExperiment experiment reason fault).1.state := by
  unfold cancelExperiment
  split
  · exact .refl _
  · rename_i record found
    split
    · exact .refl _
    · split
      · exact .refl _
      · rename_i allowed
        simp only [settle_id_fst, persistLocked_state]
        exact .change found (.cancel found (by simpa using allowed)) rfl rfl
          (.counted rfl (Nat.le_succ _) rfl)

/-! ## Decisions -/

omit [MetricReal R] in
/-- A decision that does not conclude the experiment ignores the identity of the rollback point. -/
theorem finalize_point (record : ExperimentRecord R) (experiment : ExperimentId)
    (decision : Decision R) (point other : RollbackPointId) (sequence : Nat)
    (inconclusive : ExperimentRecord.concludes decision.outcome = false) :
    record.finalize experiment decision point sequence =
      record.finalize experiment decision other sequence := by
  simp [ExperimentRecord.finalize, inconclusive]

theorem finalizeExperiment_steps (experiment : ExperimentId) (candidate : BranchId) (reason : Text)
    (fault : Option SaveFault) :
    StateSteps c (.finalizeExperiment experiment candidate reason) c.state
      (c.finalizeExperiment experiment candidate reason fault).1.state := by
  unfold finalizeExperiment
  split
  · exact .refl _
  · rename_i record guarded
    have found := (finalizeGuard_ok guarded).found
    simp only [settle_id_fst, persistLocked_state]
    split
    · exact .change found (.finalize guarded rfl (by simp) (by simp)) rfl rfl
        ⟨by constructor <;> simp, by simp, rfl⟩
    · rename_i inconclusive
      refine .change found (.finalize guarded rfl (by simp) fun concluding =>
        absurd concluding inconclusive) ?_ rfl ⟨by constructor <;> simp, by simp, rfl⟩
      simp only [withRecord, withExperiments]
      rw [finalize_point _ _ _ _ ⟨c.state.watermarks.rollback + 1⟩ _ (by simpa using inconclusive)]
      rfl

theorem rollback_steps (experiment : ExperimentId) (target : ExperimentGeneration) (reason : Text)
    (fault : Option SaveFault) :
    StateSteps c (.rollback experiment target reason) c.state
      (c.rollback experiment target reason fault).1.state := by
  unfold rollback
  split
  · exact .refl _
  · rename_i record chosen guarded
    have found := (rollbackGuard_ok guarded).found
    dsimp only
    split
    · exact .change found (.rollback guarded (by simp)) rfl rfl
        ⟨by constructor <;> simp, by simp, rfl⟩
    · rw [settle_id_fst, persistLocked_state]
      exact .change found (.rollback guarded (by simp)) rfl rfl
        ⟨by constructor <;> simp, by simp, rfl⟩

/-- Every request is a chain of steps of the durable state. -/
theorem perform_steps (request : Request R) (fault : Option SaveFault) :
    StateSteps c request c.state (c.perform request fault).1.state := by
  cases request with
  | createExperiment spec => exact c.createExperiment_steps spec fault
  | reviseHypothesis experiment spec => exact c.reviseHypothesis_steps experiment spec fault
  | forkBranch experiment parent spec => exact c.forkBranch_steps experiment parent spec fault
  | retireBranch experiment branch reason =>
      exact c.retireBranch_steps experiment branch reason fault
  | createTrial experiment branch payload =>
      exact c.createTrial_steps experiment branch payload fault
  | registerWorker request => exact c.registerWorker_steps request fault
  | revokeWorker worker boot kind reason => exact c.revokeWorker_steps worker boot kind reason fault
  | heartbeat request => exact c.heartbeat_steps request
  | claimTrials request => exact c.claimTrials_steps request fault
  | publishObservation request => exact c.publishObservation_steps request fault
  | publishArtifact request => exact c.publishArtifact_steps request fault
  | commitTrial request => exact c.commitTrial_steps request fault
  | failTrial request => exact c.failTrial_steps request fault
  | cancelTrial trial reason => exact c.cancelTrial_steps trial reason fault
  | cancelExperiment experiment reason => exact c.cancelExperiment_steps experiment reason fault
  | finalizeExperiment experiment candidate reason =>
      exact c.finalizeExperiment_steps experiment candidate reason fault
  | rollback experiment target reason => exact c.rollback_steps experiment target reason fault
  | save =>
      simp only [perform, save, Prod.map_fst, id, settle_id_fst, persistLocked_state]
      exact .refl _
  | requestShutdown => exact .refl _
  | startServer started =>
      simp only [perform, startServer, Prod.map_fst, id]
      split
      · exact .refl _
      · split <;> exact .refl _
  | stopServer =>
      simp only [perform, stopServer, Prod.map_fst, id]
      split
      · exact .refl _
      · simp only [save, settle_id_fst, persistLocked_state]
        exact .refl _

end Coordinator

/-! ## Effects are moves -/

/-- The record an effect changes is the one the coordinator held. -/
theorem Effect.found {c : Coordinator R} {experiment : ExperimentId}
    {record after : ExperimentRecord R} {marks : Watermarks} {request : Request R}
    (effect : Effect c experiment record marks request after) :
    c.findExperiment experiment = some record := by
  cases effect with
  | revise guarded => exact (Coordinator.reviseHypothesisGuard_ok guarded).found
  | fork guarded => exact (Coordinator.forkBranchGuard_ok guarded).found
  | forkUndone guarded => exact (Coordinator.forkBranchGuard_ok guarded).found
  | retire guarded => exact (Coordinator.retireBranchGuard_ok guarded).found
  | refuseObservation named found => exact found
  | publishObservation named accepted =>
      subst named
      exact ((c.checkEnvelope_eq_ok _ _).mp accepted).2.2.2.1
  | publishObservationUndone named accepted =>
      subst named
      exact ((c.checkEnvelope_eq_ok _ _).mp accepted).2.2.2.1
  | refuseArtifact named found => exact found
  | publishArtifact named built accepted =>
      rw [← named, ← Coordinator.artifactEnvelope_experiment built]
      exact ((c.checkEnvelope_eq_ok _ _).mp accepted).2.2.2.1
  | publishArtifactUndone named built accepted =>
      rw [← named, ← Coordinator.artifactEnvelope_experiment built]
      exact ((c.checkEnvelope_eq_ok _ _).mp accepted).2.2.2.1
  | registerArtifacts named guarded =>
      subst named
      exact ((c.checkEnvelope_eq_ok _ _).mp (Coordinator.commitTrialGuard_ok guarded)).2.2.2.1
  | commit named guarded =>
      subst named
      exact ((c.checkEnvelope_eq_ok _ _).mp (Coordinator.commitTrialGuard_ok guarded)).2.2.2.1
  | fail named guarded =>
      subst named
      exact ((c.checkEnvelope_eq_ok _ _).mp (Coordinator.failTrialGuard_ok guarded).1).2.2.2.1
  | cancelTrial owner => exact (c.ownerOf_eq_some owner).1
  | cancel found => exact found
  | finalize guarded => exact (Coordinator.finalizeGuard_ok guarded).found
  | rollback guarded => exact (Coordinator.rollbackGuard_ok guarded).found

/-- A refused observation is logged and, when it is retained, appended. -/
theorem refusedObservation_moves (c : Coordinator R) (experiment : ExperimentId)
    (record : ExperimentRecord R) (observation : Observation R) (verdict : Status) :
    ReflTransGen (Move experiment) record (c.refusedObservation record observation verdict) := by
  have rejected : Move experiment record
      (record.reject (text "observation") observation.id.value verdict) := .reject _ _ _
  unfold Coordinator.refusedObservation
  dsimp only
  split
  · exact .tail (.single rejected) (.pushObservation _)
  · exact .single rejected

/-- The artifacts of a commit leave the designated pair live. -/
theorem registered_pair {c : Coordinator R} {request : CommitTrialRequest}
    {record registered : ExperimentRecord R} {branch : BranchDefinition} {trial : TrialRecord}
    {attempt : AttemptRecord}
    (guarded : c.commitTrialGuard request = .ok ⟨record, branch, trial, attempt⟩)
    (stored : (Coordinator.registerArtifacts request.envelope c.nextSequence
      request.artifacts).1.findExperiment request.envelope.experiment = some registered) :
    Coordinator.ArtifactsAdded request.envelope.experiment record registered c.nextSequence.state
      (Coordinator.registerArtifacts request.envelope c.nextSequence request.artifacts).1.state := by
  obtain ⟨-, -, -, found, -⟩ :=
    (c.checkEnvelope_eq_ok _ _).mp (Coordinator.commitTrialGuard_ok guarded)
  obtain ⟨after, added⟩ := Coordinator.registerArtifacts_added request.envelope request.artifacts
    c.nextSequence record found
  rw [Coordinator.findExperiment, added.stored, OrderedMap.find?_assign_self] at stored
  obtain rfl := Option.some.inj stored
  exact added

/-- An effect on a record is a chain of moves. -/
theorem Effect.moves {c : Coordinator R} {experiment : ExperimentId}
    {record after : ExperimentRecord R} {marks : Watermarks} {request : Request R}
    (effect : Effect c experiment record marks request after) :
    ReflTransGen (Move experiment) record after := by
  cases effect with
  | revise guarded =>
      exact .single (.revise _ _ (Coordinator.reviseHypothesisGuard_ok guarded).opened)
  | fork guarded =>
      exact .single (.fork _ _ (Coordinator.forkBranchGuard_ok guarded).opened)
  | forkUndone guarded =>
      exact .single (.forkUndone _ _ (Coordinator.forkBranchGuard_ok guarded).opened)
  | retire guarded => exact .single (.retire _ _ _)
  | refuseObservation named found refused => exact refusedObservation_moves ..
  | publishObservation named accepted =>
      obtain ⟨-, -, -, -, admitted⟩ := (c.checkEnvelope_eq_ok _ _).mp accepted
      exact publish_moves _ admitted.opened admitted.livePair _ _
  | publishObservationUndone named accepted =>
      obtain ⟨-, -, -, -, admitted⟩ := (c.checkEnvelope_eq_ok _ _).mp accepted
      exact .single (.observe admitted.opened admitted.livePair _)
  | refuseArtifact named found built refused => exact .single (.reject _ _ _)
  | publishArtifact named built accepted =>
      exact .tail (.single (.pushArtifact _ _)) (.touch _ _)
  | publishArtifactUndone named built accepted => exact .single (.touch _ _)
  | registerArtifacts named guarded refused stored =>
      subst named
      exact (registered_pair guarded stored).moves
  | commit named guarded accepted stored =>
      subst named
      obtain ⟨-, -, -, -, admitted⟩ :=
        (c.checkEnvelope_eq_ok _ _).mp (Coordinator.commitTrialGuard_ok guarded)
      have added := registered_pair guarded stored
      obtain ⟨held, live⟩ := added.livePair admitted.livePair
      exact .tail added.moves (.complete (added.state.trans admitted.opened) live _)
  | fail named guarded =>
      obtain ⟨-, -, -, -, admitted⟩ :=
        (c.checkEnvelope_eq_ok _ _).mp (Coordinator.failTrialGuard_ok guarded).1
      exact .single (.fail admitted.opened admitted.livePair _ _ _ _)
  | cancelTrial owner isOpen =>
      exact .single (.cancelTrial (c.ownerOf_eq_some owner).2 isOpen _ _)
  | cancel found allowed => exact .single (.cancel _ _ allowed)
  | finalize guarded decided =>
      subst decided
      exact .single (.finalize _ _ _ _ _ (Coordinator.finalizeGuard_ok guarded).notFinalized)
  | rollback guarded =>
      have allowed := Coordinator.rollbackGuard_ok guarded
      exact .single (.rollback _ _ _ _ allowed.notCancelled allowed.member)

end Operations

end ExperimentFabric
