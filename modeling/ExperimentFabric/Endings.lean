import ExperimentFabric.Saving

/-!
# How requests end

A request hands a prepared coordinator to `persistLocked` at most once, as its last act.  `Saving`
lists these paths: the guard that was passed, the prepared coordinator, what is undone when saving
fails and how the request answers.  `Ending` adds the paths that do not save, with what they leave in
memory.
-/

namespace ExperimentFabric

open Lib

variable {R : Type}

/-- Save the prepared coordinator, undo when that fails, and answer. -/
def Coordinator.endWith (prepared : Coordinator R) (fault : Option SaveFault)
    (undo : Coordinator R → Coordinator R) (answer : Check Status → Reply R) :
    Coordinator R × Reply R :=
  match prepared.persistLocked fault with
  | (saved, .ok ()) => (saved, answer (.ok ()))
  | (unsaved, .error failure) => (undo unsaved, answer (.error failure))

theorem Coordinator.endWith_cases (prepared : Coordinator R) (fault : Option SaveFault)
    (undo : Coordinator R → Coordinator R) (answer : Check Status → Reply R) :
    (prepared.Savable fault ∧ prepared.endWith fault undo answer =
      ((prepared.persistLocked fault).1, answer (.ok ()))) ∨
    (¬ prepared.Savable fault ∧ ∃ failure, prepared.endWith fault undo answer =
      (undo { prepared with persistenceDegraded := true }, answer (.error failure))) := by
  rw [← prepared.persistLocked_ok_iff fault]
  unfold endWith
  rcases prepared.persistLocked_cases fault true with ⟨persisted, -⟩ | ⟨failure, persisted⟩ |
    ⟨persisted, -⟩
  · exact .inl (by simp [persisted])
  · refine .inr ⟨by simp [persisted], failure, ?_⟩
    simp [persisted]
  · exact .inl (by simp [persisted])

/-- Settling is ending with the value or the failure. -/
theorem Coordinator.settle_map {α : Type} (prepared : Coordinator R) (fault : Option SaveFault)
    (undo : Coordinator R → Coordinator R) (value : α) (reply : Result α → Reply R) :
    (prepared.settle fault undo value).map id reply =
      prepared.endWith fault undo fun saved => reply (saved.map fun _ => value) := by
  unfold settle endWith
  rcases prepared.persistLocked_cases fault true with ⟨persisted, -⟩ | ⟨failure, persisted⟩ |
    ⟨persisted, -⟩ <;>
    rw [persisted] <;> rfl

theorem Coordinator.settle_status (prepared : Coordinator R) (fault : Option SaveFault)
    (undo : Coordinator R → Coordinator R) :
    (prepared.settle fault undo ()).map id .status = prepared.endWith fault undo .status := by
  rw [settle_map]
  congr 1
  funext saved
  cases saved <;> rfl

theorem Coordinator.endWith_of_settle {prepared later : Coordinator R} {fault : Option SaveFault}
    {undo : Coordinator R → Coordinator R} {result : Result Unit}
    (settled : prepared.settle fault undo () = (later, result))
    (answer : Check Status → Reply R) :
    prepared.endWith fault undo answer = (later, answer result) := by
  unfold settle at settled
  unfold endWith
  rcases prepared.persistLocked_cases fault true with ⟨persisted, -⟩ | ⟨failure, persisted⟩ |
    ⟨persisted, -⟩ <;>
    · rw [persisted] at settled ⊢
      cases settled
      rfl

/-- The coordinator in which a new experiment is defined: all its identities are allocated. -/
def Coordinator.defining (c : Coordinator R) (spec : ExperimentSpec R) (branch : Nat) :
    Coordinator R :=
  c.allocExperimentId.nextSequence.allocHypothesisId.advance fun marks =>
    { marks with
      metric := marks.metric + spec.metrics.length
      policy := marks.policy + 1
      branch := branch }

/-- The coordinator in which a decision is recorded. -/
def Coordinator.deciding (c : Coordinator R) (outcome : DecisionOutcome) : Coordinator R :=
  if ExperimentRecord.concludes outcome then c.nextSequence.allocDecisionId.allocRollbackId
  else c.nextSequence.allocDecisionId

/-- The coordinator after earlier incarnations of a worker were replaced. -/
def Coordinator.replacing (c : Coordinator R) (request : RegisterWorkerRequest) : Coordinator R :=
  (c.nextSequence.replacedBy request.worker request.boot).foldl
    (replaceIncarnation c.nextSequence.currentSequence) c.nextSequence

/-- The coordinator after a worker incarnation was revoked. -/
def Coordinator.revoking (c : Coordinator R) (worker : WorkerId) (boot : WorkerBootId)
    (kind : FailureKind) (reason : Text) : Coordinator R :=
  let c := c.nextSequence
  { c with
    liveWorkers := c.liveWorkers.modify (workerKey worker boot) fun entry =>
      { entry with revoked := true, revocationKind := kind }
    state :=
      { c.state with
        experiments := c.state.experiments.mapValues
          (ExperimentRecord.loseWorker worker boot kind reason reason c.currentSequence
            (text "worker-revoked worker=" ++ worker.toText ++ text " reason=" ++ reason))
        workers := c.state.workers.map (revokeIncarnation worker boot kind c.currentSequence) } }

/-- The coordinator after the claim loop, with the load of the worker. -/
def Coordinator.claiming (c : Coordinator R) (request : ClaimTrialRequest) (live : LiveWorker) :
    Coordinator R :=
  (c.claimLoop request live).coordinator.countAssignments request
    (c.activeAttempts request.worker request.boot) (c.claimLoop request live).assignments.length

/-- The coordinator after a heartbeat. -/
def Coordinator.reporting (c : Coordinator R) (request : HeartbeatRequest) : Coordinator R :=
  { c with
    liveWorkers := c.liveWorkers.modify (workerKey request.worker request.boot) fun entry =>
      { entry with activeAssignments := request.activeAssignments } }

/-- The coordinator that holds an accepted observation. -/
def Coordinator.observing [MetricReal R] (c : Coordinator R) (check : EnvelopeCheck R)
    (published admitted : Observation R) : Coordinator R :=
  let observed := (check.record.pushObservation
    { admitted with sequence := c.currentSequence + 1 }).observe check.trial check.attempt
      published.trial published.attempt (c.currentSequence + 1)
  ((c.nextSequence.atSequence observed.2).withRecord published.experiment
    observed.1).indexObservations check.record.definition.id
      ((c.observationsOf check.record.definition.id).assign published.id
        check.record.observations.length)

/-- The record after an accepted artifact. -/
def Coordinator.heldArtifact (c : Coordinator R) (check : EnvelopeCheck R)
    (artifact : ArtifactRecord) : ExperimentRecord R :=
  (check.record.pushArtifact artifact.trial
    { artifact with sequence := c.currentSequence + 1, current := true }).touch artifact.trial
      (c.currentSequence + 2)

/-- The coordinator that holds an accepted artifact. -/
def Coordinator.holding (c : Coordinator R) (check : EnvelopeCheck R) (artifact : ArtifactRecord) :
    Coordinator R :=
  (c.nextSequence.nextSequence.withRecord artifact.experiment
    (c.heldArtifact check artifact)).indexArtifacts check.record.definition.id
      ((c.artifactsOf check.record.definition.id).assign artifact.id
        check.record.artifacts.length)

section Saving

variable [MetricReal R] [CanonicalDigests R]

/-- The request hands `prepared` to `persistLocked`, undoes by `undo` when saving fails, and answers
by the outcome of saving. -/
inductive Saving (c : Coordinator R) :
    Request R → Coordinator R → (Coordinator R → Coordinator R) → (Check Status → Reply R) →
      Prop where
  | create {spec : ExperimentSpec R} {expected : Option (Option MetricId)} {branch : Nat}
      {branches : List BranchDefinition} {record : ExperimentRecord R}
      (accepted : validateSpec spec c.limits = .ok ()) (admitting : c.admittingWork = true)
      (room : c.state.experiments.size < c.limits.maxExperiments)
      (absent : c.findExperiment ⟨c.state.watermarks.experiment + 1⟩ = none)
      (metrics : expected = spec.expectedMetric.map
        (metricNamed (defineMetrics c.state.watermarks.metric spec.metrics)))
      (known : expected ≠ some none)
      (defined : defineBranches (c.currentSequence + 1) c.state.watermarks.branch []
        spec.branches = (branch, .ok branches))
      (built : record = spec.record ⟨c.state.watermarks.experiment + 1⟩
        ⟨c.state.watermarks.hypothesis + 1⟩ ⟨c.state.watermarks.policy + 1⟩
        (defineMetrics c.state.watermarks.metric spec.metrics) ((expected.bind id).getD .null)
        branches (c.currentSequence + 1))
      (valid : validateExperimentRecord record c.limits ⟨c.state.watermarks.experiment + 1⟩ =
        .ok ()) :
      Saving c (.createExperiment spec)
        ((c.defining spec branch).withRecord ⟨c.state.watermarks.experiment + 1⟩ record)
        (·.eraseExperiment ⟨c.state.watermarks.experiment + 1⟩)
        fun saved => .experiment (saved.map fun _ => ⟨c.state.watermarks.experiment + 1⟩)
  | revise {experiment : ExperimentId} {spec : HypothesisRevisionSpec} {record : ExperimentRecord R}
      (guarded : c.reviseHypothesisGuard experiment spec = .ok record) :
      Saving c (.reviseHypothesis experiment spec)
        (c.nextSequence.withRecord experiment (record.revise spec (c.currentSequence + 1))) id
        fun saved => .revision (saved.map fun _ =>
          (record.revise spec (c.currentSequence + 1)).hypothesis.revision)
  | fork {experiment : ExperimentId} {parent : BranchId} {spec : BranchSpec}
      {record forked : ExperimentRecord R} {parentBranch : BranchDefinition}
      (guarded : c.forkBranchGuard experiment parent spec = .ok (record, parentBranch))
      (built : forked = record.fork (ExperimentRecord.forkedBranch parentBranch spec
        ⟨c.state.watermarks.branch + 1⟩ (c.currentSequence + 1)) (c.currentSequence + 1))
      (valid : validateExperimentRecord forked c.limits experiment = .ok ()) :
      Saving c (.forkBranch experiment parent spec)
        (c.nextSequence.allocBranchId.withRecord experiment forked)
        (Coordinator.undoFork experiment forked)
        fun saved => .branch (saved.map fun _ => ⟨c.state.watermarks.branch + 1⟩)
  | retire {experiment : ExperimentId} {branch : BranchId} {reason : Text}
      {record : ExperimentRecord R}
      (guarded : c.retireBranchGuard experiment branch = .ok record) :
      Saving c (.retireBranch experiment branch reason)
        (c.nextSequence.withRecord experiment
          (record.retire branch reason (c.currentSequence + 1))) id
        fun saved => .branch (saved.map fun _ => branch)
  | addTrial {experiment : ExperimentId} {branchId : BranchId} {payload : Text}
      {record added : ExperimentRecord R} {branch : BranchDefinition}
      (guarded : c.createTrialGuard experiment branchId payload = .ok (record, branch))
      (built : added = record.addTrial (record.newTrial experiment branch
        ⟨c.state.watermarks.trial + 1⟩ payload (c.currentSequence + 1)))
      (valid : validateExperimentRecord added c.limits experiment = .ok ()) :
      Saving c (.createTrial experiment branchId payload)
        (c.nextSequence.allocTrialId.withRecord experiment added)
        (Coordinator.undoTrial experiment added ⟨c.state.watermarks.trial + 1⟩)
        fun saved => .trial (saved.map fun _ => ⟨c.state.watermarks.trial + 1⟩)
  | register {request : RegisterWorkerRequest}
      (guarded : c.registerWorkerGuard request = .ok ())
      (unknown : c.findLiveWorker request.worker request.boot = none)
      (fresh : (c.replacing request).registerFreshGuard request = .ok ()) :
      Saving c (.registerWorker request) ((c.replacing request).addWorker request) id
        fun saved => .registration (match saved with
          | .ok () =>
              { epoch := (c.replacing request).epoch
                boot := request.boot
                producer := ⟨(c.replacing request).state.nextWorkerRegistrationSequence + 1⟩
                accepted := true
                status := .ok () }
          | .error failure => { status := .error failure })
  | revoke {worker : WorkerId} {boot : WorkerBootId} {kind : FailureKind} {reason : Text}
      {live : LiveWorker} (known : c.findLiveWorker worker boot = some live) :
      Saving c (.revokeWorker worker boot kind reason) (c.revoking worker boot kind reason) id
        .status
  | claim {request : ClaimTrialRequest} {live : LiveWorker}
      (guarded : c.claimTrialsGuard request = .ok live)
      (issued : (c.claimLoop request live).assignments ≠ []) :
      Saving c (.claimTrials request) (c.claiming request live) id
        fun saved => .claim ⟨saved, (c.claimLoop request live).assignments⟩
  | refuseObservation {request : PublishObservationRequest R} {record : ExperimentRecord R}
      {verdict : Status} (found : c.findExperiment request.observation.experiment = some record)
      (refused : c.checkEnvelope (observationEnvelope request record) = .error verdict) :
      Saving c (.publishObservation request)
        (c.rejectObservation record request.observation verdict) id
        fun saved => .status (match saved with
          | .ok () => .error (authorityError verdict.code verdict.reason)
          | .error failure => .error failure)
  | publishObservation {request : PublishObservationRequest R} {record : ExperimentRecord R}
      {check : EnvelopeCheck R} {admitted : Observation R}
      (found : c.findExperiment request.observation.experiment = some record)
      (accepted : c.checkEnvelope (observationEnvelope request record) = .ok check)
      (admission : c.admitObservation check.record request.observation = .ok (some admitted)) :
      Saving c (.publishObservation request) (c.observing check request.observation admitted)
        (Coordinator.undoObservation request.observation.experiment request.observation.id
          ((check.record.pushObservation
            { admitted with sequence := c.currentSequence + 1 }).observe check.trial check.attempt
              request.observation.trial request.observation.attempt (c.currentSequence + 1)).1)
        .status
  | refuseArtifact {request : PublishArtifactRequest} {record : ExperimentRecord R}
      {envelope : AuthorityEnvelope} {verdict : Status}
      (found : c.findExperiment request.artifact.experiment = some record)
      (built : artifactEnvelope request record = .ok envelope)
      (refused : c.checkEnvelope envelope = .error verdict) :
      Saving c (.publishArtifact request)
        (c.withRecord request.artifact.experiment
          (record.reject (text "artifact") request.artifact.id.value verdict)) id
        fun saved => .status (match saved with
          | .ok () => .error (authorityError verdict.code verdict.reason)
          | .error failure => .error failure)
  | publishArtifact {request : PublishArtifactRequest} {record : ExperimentRecord R}
      {envelope : AuthorityEnvelope} {check : EnvelopeCheck R}
      (found : c.findExperiment request.artifact.experiment = some record)
      (built : artifactEnvelope request record = .ok envelope)
      (accepted : c.checkEnvelope envelope = .ok check)
      (admission : c.admitArtifact check.record check.trial request.artifact = .ok true) :
      Saving c (.publishArtifact request) (c.holding check request.artifact)
        (Coordinator.undoArtifact request.artifact.experiment request.artifact.trial
          request.artifact.id (c.heldArtifact check request.artifact))
        .status
  | commit {request : CommitTrialRequest} {check : EnvelopeCheck R} {registered : Coordinator R}
      {record : ExperimentRecord R} (guarded : c.commitTrialGuard request = .ok check)
      (evidence : Coordinator.observationsHeld check.record check.trial.id check.attempt.id ≠ 0)
      (accepted : Coordinator.registerArtifacts request.envelope c.nextSequence
        request.artifacts = (registered, .ok ()))
      (allowed : check.attempt.state.isValidTransition .completed = true)
      (found : registered.findExperiment request.envelope.experiment = some record) :
      Saving c (.commitTrial request)
        (registered.withRecord request.envelope.experiment
          (record.complete request.envelope.trial request.envelope.attempt
            (c.currentSequence + 1))) id
        .status
  | fail {request : FailTrialRequest} {check : EnvelopeCheck R}
      (guarded : c.failTrialGuard request = .ok check) :
      Saving c (.failTrial request)
        (c.nextSequence.withRecord request.envelope.experiment
          (check.record.fail check.trial request.envelope.trial request.envelope.attempt
            request.kind request.detail request.retryable (c.currentSequence + 1))) id
        .status
  | cancelTrial {trial : TrialId} {reason : Text} {experiment : ExperimentId}
      {record : ExperimentRecord R} {held : TrialRecord}
      (owner : c.ownerOf trial = some (experiment, record, held))
      (isOpen : isTerminal held.state = false) :
      Saving c (.cancelTrial trial reason)
        (c.nextSequence.withRecord experiment
          (record.cancelTrial trial reason (c.currentSequence + 1))) id
        .status
  | cancel {experiment : ExperimentId} {reason : Text} {record : ExperimentRecord R}
      (found : c.findExperiment experiment = some record)
      (allowed : record.state.isValidTransition .cancelled = true) :
      Saving c (.cancelExperiment experiment reason)
        (c.nextSequence.withRecord experiment (record.cancel reason (c.currentSequence + 1))) id
        .status
  | finalize {experiment : ExperimentId} {candidate : BranchId} {reason : Text}
      {record : ExperimentRecord R} {decision : Decision R}
      (guarded : c.finalizeGuard experiment = .ok record)
      (decided : decision = Coordinator.finalDecision record candidate reason
        ⟨c.state.watermarks.decision + 1⟩ (c.currentSequence + 1)) :
      Saving c (.finalizeExperiment experiment candidate reason)
        ((c.deciding decision.outcome).withRecord experiment
          (record.finalize experiment decision
            ⟨(c.deciding decision.outcome).state.watermarks.rollback⟩ (c.currentSequence + 1))) id
        fun saved => .decision (saved.map fun _ => decision)
  | rollback {experiment : ExperimentId} {target : ExperimentGeneration} {reason : Text}
      {record restored : ExperimentRecord R} {chosen : RollbackPoint}
      (guarded : c.rollbackGuard experiment target = .ok (record, chosen))
      (built : restored = record.rollback experiment chosen ⟨c.state.watermarks.rollback + 1⟩
        reason (c.currentSequence + 1))
      (valid : validateExperimentRecord restored c.limits experiment = .ok ()) :
      Saving c (.rollback experiment target reason)
        (c.nextSequence.allocRollbackId.withRecord experiment restored) id
        .status
  | save : Saving c .save c id .status
  | stopServer (active : c.serverActive = true) :
      Saving c .stopServer { c with admittingWork := false, serverActive := false } id .status

/-- How a request ends: it saves, or it leaves the following in memory. -/
inductive Ending (c : Coordinator R) (fault : Option SaveFault) :
    Request R → Coordinator R × Reply R → Prop where
  | saving {request : Request R} {prepared : Coordinator R} {undo : Coordinator R → Coordinator R}
      {answer : Check Status → Reply R} (saves : Saving c request prepared undo answer) :
      Ending c fault request (prepared.endWith fault undo answer)
  | refused {request : Request R} {reply : Reply R} (failed : reply.succeeded = false) :
      Ending c fault request (c, reply)
  /-- Only counters moved before the request was refused. -/
  | counted {request : Request R} {reply : Reply R} {marks : Watermarks} {sequence : Nat}
      (failed : reply.succeeded = false) :
      Ending c fault request
        ({ c with state := { c.state with watermarks := marks, lastSequence := sequence } }, reply)
  | forkInvalid {experiment : ExperimentId} {parent : BranchId} {spec : BranchSpec}
      {record forked : ExperimentRecord R} {parentBranch : BranchDefinition} {failure : Status}
      (guarded : c.forkBranchGuard experiment parent spec = .ok (record, parentBranch))
      (built : forked = record.fork (ExperimentRecord.forkedBranch parentBranch spec
        ⟨c.state.watermarks.branch + 1⟩ (c.currentSequence + 1)) (c.currentSequence + 1)) :
      Ending c fault (.forkBranch experiment parent spec)
        (Coordinator.undoFork experiment forked
          (c.nextSequence.allocBranchId.withRecord experiment forked), .branch (.error failure))
  | trialInvalid {experiment : ExperimentId} {branchId : BranchId} {payload : Text}
      {record added : ExperimentRecord R} {branch : BranchDefinition} {failure : Status}
      (guarded : c.createTrialGuard experiment branchId payload = .ok (record, branch))
      (built : added = record.addTrial (record.newTrial experiment branch
        ⟨c.state.watermarks.trial + 1⟩ payload (c.currentSequence + 1))) :
      Ending c fault (.createTrial experiment branchId payload)
        (Coordinator.undoTrial experiment added ⟨c.state.watermarks.trial + 1⟩
          (c.nextSequence.allocTrialId.withRecord experiment added), .trial (.error failure))
  | registered {request : RegisterWorkerRequest} {live : LiveWorker}
      (guarded : c.registerWorkerGuard request = .ok ())
      (known : c.findLiveWorker request.worker request.boot = some live)
      (unrevoked : live.revoked = false) :
      Ending c fault (.registerWorker request)
        (c, .registration { epoch := c.epoch, boot := request.boot, producer := live.producer,
                            accepted := true, status := .ok () })
  | replaced {request : RegisterWorkerRequest} {failure : Status}
      (guarded : c.registerWorkerGuard request = .ok ())
      (unknown : c.findLiveWorker request.worker request.boot = none)
      (refused : (c.replacing request).registerFreshGuard request = .error failure) :
      Ending c fault (.registerWorker request)
        (c.replacing request, .registration { status := .error failure })
  | heartbeat {request : Coordinator.HeartbeatRequest} :
      Ending c fault (.heartbeat request)
        (c.reporting request, .status (.ok ()))
  | idle {request : ClaimTrialRequest} {live : LiveWorker}
      (guarded : c.claimTrialsGuard request = .ok live)
      (none : (c.claimLoop request live).assignments = []) :
      Ending c fault (.claimTrials request) (c.claiming request live, .claim ⟨.ok (), []⟩)
  | observationHeld {request : PublishObservationRequest R} {record : ExperimentRecord R}
      {check : EnvelopeCheck R}
      (found : c.findExperiment request.observation.experiment = some record)
      (accepted : c.checkEnvelope (observationEnvelope request record) = .ok check)
      (admission : c.admitObservation check.record request.observation = .ok none) :
      Ending c fault (.publishObservation request) (c, .status (.ok ()))
  | artifactHeld {request : PublishArtifactRequest} {record : ExperimentRecord R}
      {envelope : AuthorityEnvelope} {check : EnvelopeCheck R}
      (found : c.findExperiment request.artifact.experiment = some record)
      (built : artifactEnvelope request record = .ok envelope)
      (accepted : c.checkEnvelope envelope = .ok check)
      (admission : c.admitArtifact check.record check.trial request.artifact = .ok false) :
      Ending c fault (.publishArtifact request) (c, .status (.ok ()))
  | artifactsKept {request : CommitTrialRequest} {check : EnvelopeCheck R}
      {registered : Coordinator R} {failure : Status}
      (guarded : c.commitTrialGuard request = .ok check)
      (refused : Coordinator.registerArtifacts request.envelope c.nextSequence
        request.artifacts = (registered, .error failure)) :
      Ending c fault (.commitTrial request) (registered, .status (.error failure))
  | artifactsWithdrawn {request : CommitTrialRequest} {check : EnvelopeCheck R}
      {registered : Coordinator R} {failure : Status}
      (guarded : c.commitTrialGuard request = .ok check)
      (accepted : Coordinator.registerArtifacts request.envelope c.nextSequence
        request.artifacts = (registered, .ok ())) :
      Ending c fault (.commitTrial request)
        (Coordinator.withdrawArtifacts request.envelope
          (request.artifacts.map ArtifactRecord.id) registered, .status (.error failure))
  | trialCancelled {trial : TrialId} {reason : Text} {experiment : ExperimentId}
      {record : ExperimentRecord R} {held : TrialRecord}
      (owner : c.ownerOf trial = some (experiment, record, held))
      (cancelled : held.state = .cancelled) :
      Ending c fault (.cancelTrial trial reason) (c, .status (.ok ()))
  | experimentCancelled {experiment : ExperimentId} {reason : Text} {record : ExperimentRecord R}
      (found : c.findExperiment experiment = some record) (cancelled : record.state = .cancelled) :
      Ending c fault (.cancelExperiment experiment reason) (c, .status (.ok ()))
  | rollbackInvalid {experiment : ExperimentId} {target : ExperimentGeneration} {reason : Text}
      {record restored : ExperimentRecord R} {chosen : RollbackPoint} {failure : Status}
      (guarded : c.rollbackGuard experiment target = .ok (record, chosen))
      (built : restored = record.rollback experiment chosen ⟨c.state.watermarks.rollback + 1⟩
        reason (c.currentSequence + 1))
      (refused : validateExperimentRecord restored c.limits experiment = .error failure) :
      Ending c fault (.rollback experiment target reason)
        (c.nextSequence.allocRollbackId.withRecord experiment restored, .status (.error failure))
  | requestShutdown :
      Ending c fault .requestShutdown ({ c with admittingWork := false }, .status (.ok ()))
  | startServer {started : Result Unit} :
      Ending c fault (.startServer started)
        ({ c with admittingWork := true, serverActive := true }, .status (.ok ()))
  | stopped : Ending c fault .stopServer (c, .status (.ok ()))

end Saving

/-! ## Every request ends in one of these ways -/

namespace Coordinator

/-- Registering artifacts keeps the experiment they belong to. -/
theorem registerArtifacts_found (envelope : AuthorityEnvelope) (artifacts : List ArtifactRecord)
    (c : Coordinator R) {record : ExperimentRecord R}
    (found : c.findExperiment envelope.experiment = some record) :
    ∃ after, (registerArtifacts envelope c artifacts).1.findExperiment envelope.experiment =
      some after := by
  let property (reached : Coordinator R) : Prop :=
    ∃ after, reached.findExperiment envelope.experiment = some after
  have kept : property (registerArtifacts envelope c artifacts).1 := by
    refine registerArtifacts_keeps envelope (fun _ there => there) ?_ artifacts ⟨record, found⟩
    intro c record trial submitted _ _ _ _ _
    exact ⟨_, OrderedMap.find?_assign_self ..⟩
  exact kept

section Operations

variable [MetricReal R] [CanonicalDigests R] (c : Coordinator R) (fault : Option SaveFault)

theorem reviseHypothesis_ending (experiment : ExperimentId) (spec : HypothesisRevisionSpec) :
    Ending c fault (.reviseHypothesis experiment spec)
      ((c.reviseHypothesis experiment spec fault).map id .revision) := by
  unfold reviseHypothesis
  split
  · exact .refused rfl
  · rename_i record guarded
    rw [settle_map]
    exact .saving (.revise guarded)

theorem forkBranch_ending (experiment : ExperimentId) (parent : BranchId) (spec : BranchSpec) :
    Ending c fault (.forkBranch experiment parent spec)
      ((c.forkBranch experiment parent spec fault).map id .branch) := by
  unfold forkBranch
  split
  · exact .refused rfl
  · rename_i record parentBranch guarded
    dsimp only
    split
    · exact .forkInvalid guarded rfl
    · rename_i valid
      rw [settle_map]
      exact .saving (.fork guarded rfl valid)

theorem retireBranch_ending (experiment : ExperimentId) (branch : BranchId) (reason : Text) :
    Ending c fault (.retireBranch experiment branch reason)
      ((c.retireBranch experiment branch reason fault).map id .branch) := by
  unfold retireBranch
  split
  · exact .refused rfl
  · rename_i record guarded
    rw [settle_map]
    exact .saving (.retire guarded)

theorem createTrial_ending (experiment : ExperimentId) (branch : BranchId) (payload : Text) :
    Ending c fault (.createTrial experiment branch payload)
      ((c.createTrial experiment branch payload fault).map id .trial) := by
  unfold createTrial
  split
  · exact .refused rfl
  · rename_i record definition guarded
    dsimp only
    split
    · exact .trialInvalid guarded rfl
    · rename_i valid
      rw [settle_map]
      exact .saving (.addTrial guarded rfl valid)

theorem registerWorker_ending (request : RegisterWorkerRequest) :
    Ending c fault (.registerWorker request)
      ((c.registerWorker request fault).map id .registration) := by
  unfold registerWorker
  split
  · exact .refused rfl
  · rename_i guarded
    split
    · rename_i live known
      split
      · exact .refused rfl
      · rename_i unrevoked
        exact .registered guarded known (by simpa using unrevoked)
    · rename_i unknown
      dsimp only
      split
      · rename_i failure refused
        exact .replaced guarded unknown refused
      · rename_i fresh
        have ended : Ending c fault (.registerWorker request)
            (((c.replacing request).addWorker request).endWith fault id _) :=
          .saving (.register guarded unknown fresh)
        split
        · rename_i later failure refused
          have settled : ((c.replacing request).addWorker request).settle fault id () =
            (later, .error failure) := refused
          rwa [endWith_of_settle settled] at ended
        · rename_i later accepted
          have settled : ((c.replacing request).addWorker request).settle fault id () =
            (later, .ok ()) := accepted
          have epoch : later.epoch = (c.replacing request).epoch := by
            have same := ((c.replacing request).addWorker request).persistLocked_epoch fault true
            rwa [← settle_id_fst _ fault (), settled] at same
          rw [endWith_of_settle settled] at ended
          rw [Prod.map, epoch]
          exact ended

theorem revokeWorker_ending (worker : WorkerId) (boot : WorkerBootId) (kind : FailureKind)
    (reason : Text) :
    Ending c fault (.revokeWorker worker boot kind reason)
      ((c.revokeWorker worker boot kind reason fault).map id .status) := by
  unfold revokeWorker
  split
  · exact .refused rfl
  · rename_i live known
    rw [settle_status]
    exact .saving (.revoke known)

theorem heartbeat_ending (request : HeartbeatRequest) :
    Ending c fault (.heartbeat request) ((c.heartbeat request).map id .status) := by
  unfold heartbeat
  split
  · exact .refused rfl
  · exact .heartbeat

theorem claimTrials_ending (request : ClaimTrialRequest) :
    Ending c fault (.claimTrials request) ((c.claimTrials request fault).map id .claim) := by
  unfold claimTrials
  split
  · exact .refused rfl
  · rename_i live guarded
    dsimp only
    split
    · rename_i none
      exact .idle guarded (List.isEmpty_iff.mp none)
    · rename_i some
      have ended : Ending c fault (.claimTrials request)
          ((c.claiming request live).endWith fault id _) :=
        .saving (.claim guarded fun none => some (List.isEmpty_iff.mpr none))
      rw [endWith_of_settle (Prod.mk.eta).symm] at ended
      exact ended

theorem publishObservation_ending (request : PublishObservationRequest R) :
    Ending c fault (.publishObservation request)
      ((c.publishObservation request fault).map id .status) := by
  unfold publishObservation
  dsimp only
  split
  · exact .refused rfl
  · rename_i record found
    split
    · rename_i verdict refused
      have ended : Ending c fault (.publishObservation request)
          ((c.rejectObservation record request.observation verdict).endWith fault id _) :=
        .saving (.refuseObservation found refused)
      split
      · rename_i later failure settled
        rwa [endWith_of_settle settled] at ended
      · rename_i later settled
        rwa [endWith_of_settle settled] at ended
    · rename_i check accepted
      split
      · exact .refused rfl
      · rename_i admission
        exact .observationHeld found accepted admission
      · rename_i admitted admission
        rw [settle_status]
        exact .saving (.publishObservation found accepted admission)

theorem publishArtifact_ending (request : PublishArtifactRequest) :
    Ending c fault (.publishArtifact request)
      ((c.publishArtifact request fault).map id .status) := by
  unfold publishArtifact
  dsimp only
  split
  · exact .refused rfl
  · rename_i record found
    split
    · exact .refused rfl
    · rename_i envelope built
      split
      · rename_i verdict refused
        have ended : Ending c fault (.publishArtifact request)
            ((c.withRecord request.artifact.experiment (record.reject (text "artifact")
              request.artifact.id.value verdict)).endWith fault id _) :=
          .saving (.refuseArtifact found built refused)
        split
        · rename_i later failure settled
          rwa [endWith_of_settle settled] at ended
        · rename_i later settled
          rwa [endWith_of_settle settled] at ended
      · rename_i check accepted
        split
        · exact .refused rfl
        · rename_i admission
          exact .artifactHeld found built accepted admission
        · rename_i admission
          rw [settle_status]
          exact .saving (.publishArtifact found built accepted admission)

theorem commitTrial_ending (request : CommitTrialRequest) :
    Ending c fault (.commitTrial request) ((c.commitTrial request fault).map id .status) := by
  unfold commitTrial
  split
  · exact .refused rfl
  · rename_i check guarded
    obtain ⟨-, -, -, found, admitted⟩ :=
      (c.checkEnvelope_eq_ok _ _).mp (commitTrialGuard_ok guarded)
    have unfinished : check.trial.state ≠ .completed := fun completed => by
      have isOpen := admitted.trialOpen
      rw [completed] at isOpen
      cases isOpen
    rw [if_neg (by simp [unfinished])]
    split
    · exact .refused rfl
    · rename_i evidence
      dsimp only
      split
      · rename_i registered failure refused
        exact .artifactsKept guarded refused
      · rename_i registered accepted
        split
        · exact .artifactsWithdrawn guarded accepted
        · rename_i allowed
          have stored := registerArtifacts_found request.envelope request.artifacts
            c.nextSequence found
          rw [accepted] at stored
          obtain ⟨record, lookup⟩ := stored
          rw [lookup]
          dsimp only
          rw [settle_status]
          exact .saving (.commit guarded evidence accepted (by simpa using allowed) lookup)

theorem failTrial_ending (request : FailTrialRequest) :
    Ending c fault (.failTrial request) ((c.failTrial request fault).map id .status) := by
  unfold failTrial
  split
  · exact .refused rfl
  · rename_i check guarded
    rw [settle_status]
    exact .saving (.fail guarded)

theorem cancelTrial_ending (trial : TrialId) (reason : Text) :
    Ending c fault (.cancelTrial trial reason)
      ((c.cancelTrial trial reason fault).map id .status) := by
  unfold cancelTrial
  split
  · exact .refused rfl
  · rename_i experiment record held owner
    split
    · split
      · rename_i cancelled
        exact .trialCancelled owner cancelled
      · exact .refused rfl
    · rename_i isOpen
      rw [settle_status]
      exact .saving (.cancelTrial owner (by simpa using isOpen))

theorem cancelExperiment_ending (experiment : ExperimentId) (reason : Text) :
    Ending c fault (.cancelExperiment experiment reason)
      ((c.cancelExperiment experiment reason fault).map id .status) := by
  unfold cancelExperiment
  split
  · exact .refused rfl
  · rename_i record found
    split
    · rename_i cancelled
      exact .experimentCancelled found cancelled
    · split
      · exact .refused rfl
      · rename_i allowed
        rw [settle_status]
        exact .saving (.cancel found (by simpa using allowed))

theorem finalizeExperiment_ending (experiment : ExperimentId) (candidate : BranchId)
    (reason : Text) :
    Ending c fault (.finalizeExperiment experiment candidate reason)
      ((c.finalizeExperiment experiment candidate reason fault).map id .decision) := by
  unfold finalizeExperiment
  split
  · exact .refused rfl
  · rename_i record guarded
    dsimp only
    rw [settle_map]
    exact .saving (.finalize guarded rfl)

theorem rollback_ending (experiment : ExperimentId) (target : ExperimentGeneration)
    (reason : Text) :
    Ending c fault (.rollback experiment target reason)
      ((c.rollback experiment target reason fault).map id .status) := by
  unfold rollback
  split
  · exact .refused rfl
  · rename_i record chosen guarded
    dsimp only
    split
    · rename_i failure refused
      exact .rollbackInvalid guarded rfl refused
    · rename_i valid
      rw [settle_status]
      exact .saving (.rollback guarded rfl valid)

theorem startServer_ending (started : Result Unit) :
    Ending c fault (.startServer started) ((c.startServer started).map id .status) := by
  unfold startServer
  split
  · exact .refused rfl
  · split
    · exact .refused rfl
    · exact .startServer

theorem stopServer_ending :
    Ending c fault .stopServer ((c.stopServer fault).map id .status) := by
  unfold stopServer
  split
  · exact .stopped
  · rename_i active
    rw [save, settle_status]
    exact .saving (.stopServer (by simpa using active))

theorem createExperiment_ending (spec : ExperimentSpec R) :
    Ending c fault (.createExperiment spec)
      ((c.createExperiment spec fault).map id .experiment) := by
  unfold createExperiment
  split
  · exact .refused rfl
  · rename_i accepted
    split
    · exact .refused rfl
    · rename_i admitting
      split
      · exact .refused rfl
      · rename_i room
        dsimp only
        split
        · exact .counted rfl
        · rename_i taken
          have absent : c.findExperiment ⟨c.state.watermarks.experiment + 1⟩ = none := by
            simpa using taken
          split
          · exact .counted rfl
          · rename_i unknown
            split
            · exact .counted rfl
            · rename_i branches defined
              split
              · have erased := fun record => OrderedMap.erase_assign c.state.experiments
                  ⟨c.state.watermarks.experiment + 1⟩ record absent
                simp only [eraseExperiment, withRecord, withExperiments, nextSequence, advance,
                  allocExperimentId, allocHypothesisId, currentSequence, erased]
                exact .counted rfl
              · rename_i valid
                rw [settle_map]
                exact .saving (.create accepted (by simpa using admitting) (by simpa using room)
                  absent rfl unknown (Prod.ext rfl defined) rfl valid)

/-- Every request ends in one of the listed ways. -/
theorem perform_ending (request : Request R) : Ending c fault request (c.perform request fault) := by
  cases request with
  | createExperiment spec => exact c.createExperiment_ending fault spec
  | reviseHypothesis experiment spec => exact c.reviseHypothesis_ending fault experiment spec
  | forkBranch experiment parent spec => exact c.forkBranch_ending fault experiment parent spec
  | retireBranch experiment branch reason =>
      exact c.retireBranch_ending fault experiment branch reason
  | createTrial experiment branch payload =>
      exact c.createTrial_ending fault experiment branch payload
  | registerWorker request => exact c.registerWorker_ending fault request
  | revokeWorker worker boot kind reason => exact c.revokeWorker_ending fault worker boot kind reason
  | heartbeat request => exact c.heartbeat_ending fault request
  | claimTrials request => exact c.claimTrials_ending fault request
  | publishObservation request => exact c.publishObservation_ending fault request
  | publishArtifact request => exact c.publishArtifact_ending fault request
  | commitTrial request => exact c.commitTrial_ending fault request
  | failTrial request => exact c.failTrial_ending fault request
  | cancelTrial trial reason => exact c.cancelTrial_ending fault trial reason
  | cancelExperiment experiment reason => exact c.cancelExperiment_ending fault experiment reason
  | finalizeExperiment experiment candidate reason =>
      exact c.finalizeExperiment_ending fault experiment candidate reason
  | rollback experiment target reason => exact c.rollback_ending fault experiment target reason
  | save =>
      have ended : Ending c fault .save (c.endWith fault id .status) := .saving .save
      rwa [← settle_status] at ended
  | requestShutdown => exact .requestShutdown
  | startServer started => exact c.startServer_ending fault started
  | stopServer => exact c.stopServer_ending fault

end Operations

end Coordinator

/-! ## Successes -/

section Success

variable [MetricReal R] [CanonicalDigests R] {c : Coordinator R} {fault : Option SaveFault}
  {request : Request R}

/-- A request whose save fails reports a failure. -/
theorem Saving.refuses {prepared : Coordinator R} {undo : Coordinator R → Coordinator R}
    {answer : Check Status → Reply R} (saves : Saving c request prepared undo answer)
    (failure : Status) : (answer (.error failure)).succeeded = false := by
  cases saves <;> rfl

/-- The request was answered without saving. -/
inductive AnsweredFromMemory (c : Coordinator R) : Request R → Prop where
  | registered {request : RegisterWorkerRequest} {live : LiveWorker}
      (known : c.findLiveWorker request.worker request.boot = some live)
      (unrevoked : live.revoked = false) : AnsweredFromMemory c (.registerWorker request)
  | observationHeld {request : PublishObservationRequest R} {record : ExperimentRecord R}
      {check : EnvelopeCheck R}
      (found : c.findExperiment request.observation.experiment = some record)
      (accepted : c.checkEnvelope (observationEnvelope request record) = .ok check)
      (admission : c.admitObservation check.record request.observation = .ok none) :
      AnsweredFromMemory c (.publishObservation request)
  | artifactHeld {request : PublishArtifactRequest} {record : ExperimentRecord R}
      {envelope : AuthorityEnvelope} {check : EnvelopeCheck R}
      (found : c.findExperiment request.artifact.experiment = some record)
      (built : artifactEnvelope request record = .ok envelope)
      (accepted : c.checkEnvelope envelope = .ok check)
      (admission : c.admitArtifact check.record check.trial request.artifact = .ok false) :
      AnsweredFromMemory c (.publishArtifact request)
  | trialCancelled {trial : TrialId} {reason : Text} {experiment : ExperimentId}
      {record : ExperimentRecord R} {held : TrialRecord}
      (owner : c.ownerOf trial = some (experiment, record, held))
      (cancelled : held.state = .cancelled) : AnsweredFromMemory c (.cancelTrial trial reason)
  | experimentCancelled {experiment : ExperimentId} {reason : Text} {record : ExperimentRecord R}
      (found : c.findExperiment experiment = some record) (cancelled : record.state = .cancelled) :
      AnsweredFromMemory c (.cancelExperiment experiment reason)

/-- Requests that change nothing durable when they succeed. -/
def Request.processOnly : Request R → Bool
  | .heartbeat _ | .claimTrials _ | .requestShutdown | .startServer _ | .stopServer => true
  | _ => false

/-- A success was saved, or was answered from memory, or concerns the process alone. -/
theorem Coordinator.perform_succeeded (succeeded : (c.perform request fault).2.succeeded = true) :
    (∃ prepared undo answer, Saving c request prepared undo answer ∧ prepared.Savable fault ∧
      c.perform request fault = ((prepared.persistLocked fault).1, answer (.ok ()))) ∨
    ((c.perform request fault).1 = c ∧ AnsweredFromMemory c request) ∨
    (request.processOnly = true ∧ (c.perform request fault).1.image = c.image ∧
      (c.perform request fault).1.persistenceDegraded = c.persistenceDegraded) := by
  have ending := c.perform_ending fault request
  generalize ended : c.perform request fault = result at ending succeeded
  cases ending with
  | @saving _ prepared undo answer saves =>
      rcases prepared.endWith_cases fault undo answer with ⟨savable, same⟩ | ⟨-, failure, same⟩
      · exact .inl ⟨prepared, undo, answer, saves, savable, same⟩
      · rw [same, saves.refuses] at succeeded
        cases succeeded
  | refused failed =>
      rw [failed] at succeeded
      cases succeeded
  | counted failed =>
      rw [failed] at succeeded
      cases succeeded
  | forkInvalid => cases succeeded
  | trialInvalid => cases succeeded
  | registered guarded known unrevoked => exact .inr (.inl ⟨rfl, .registered known unrevoked⟩)
  | replaced => cases succeeded
  | heartbeat => exact .inr (.inr ⟨rfl, rfl, rfl⟩)
  | @idle claim live guarded none =>
      have operated := c.claimLoop_sameProcess claim live
      exact .inr (.inr ⟨rfl, operated.image, operated.degraded⟩)
  | observationHeld found accepted admission =>
      exact .inr (.inl ⟨rfl, .observationHeld found accepted admission⟩)
  | artifactHeld found built accepted admission =>
      exact .inr (.inl ⟨rfl, .artifactHeld found built accepted admission⟩)
  | artifactsKept => cases succeeded
  | artifactsWithdrawn => cases succeeded
  | trialCancelled owner cancelled =>
      exact .inr (.inl ⟨rfl, .trialCancelled owner cancelled⟩)
  | experimentCancelled found cancelled =>
      exact .inr (.inl ⟨rfl, .experimentCancelled found cancelled⟩)
  | rollbackInvalid => cases succeeded
  | requestShutdown => exact .inr (.inr ⟨rfl, rfl, rfl⟩)
  | startServer => exact .inr (.inr ⟨rfl, rfl, rfl⟩)
  | stopped => exact .inr (.inr ⟨rfl, rfl, rfl⟩)

end Success

end ExperimentFabric
