import ExperimentFabric.Moves

/-!
# What a request can do to the durable state

`Effect` lists what a request does to the record of one experiment and `StateStep` what it does to
the durable state, each with the guard the request has passed.  Every request is a chain of such
steps, so a property of the durable state is a property of every run once these steps keep it.
-/

namespace ExperimentFabric

open Lib Relation

variable {R : Type}

/-- The record after a refused observation. -/
def Coordinator.refusedObservation (c : Coordinator R) (record : ExperimentRecord R)
    (observation : Observation R) (verdict : Status) : ExperimentRecord R :=
  let rejected := record.reject (text "observation") observation.id.value verdict
  if record.retains c.limits then
    rejected.pushObservation (Coordinator.historical observation verdict (c.currentSequence + 1))
  else rejected

/-- A refused observation adds at most to the observations and the rejected evidence. -/
theorem refusedObservation_frame (c : Coordinator R) (record : ExperimentRecord R)
    (observation : Observation R) (verdict : Status) :
    ∃ observations rejected, c.refusedObservation record observation verdict =
      { record with observations := observations, rejectedEvidence := rejected } := by
  obtain ⟨rejected, same⟩ :=
    reject_frame record (text "observation") observation.id.value verdict
  unfold Coordinator.refusedObservation
  dsimp only
  rw [same]
  split <;> exact ⟨_, rejected, rfl⟩

section Effect

variable [MetricReal R] [CanonicalDigests R]

/-- What a request does to the record of one experiment; `marks` are the watermarks it leaves. -/
inductive Effect (c : Coordinator R) (experiment : ExperimentId) (record : ExperimentRecord R)
    (marks : Watermarks) : Request R → ExperimentRecord R → Prop where
  | revise {spec : HypothesisRevisionSpec}
      (guarded : c.reviseHypothesisGuard experiment spec = .ok record) :
      Effect c experiment record marks (.reviseHypothesis experiment spec)
        (record.revise spec (c.currentSequence + 1))
  | fork {parent : BranchId} {spec : BranchSpec} {parentBranch branch : BranchDefinition}
      (guarded : c.forkBranchGuard experiment parent spec = .ok (record, parentBranch))
      (forked : branch = ExperimentRecord.forkedBranch parentBranch spec
        ⟨c.state.watermarks.branch + 1⟩ (c.currentSequence + 1))
      (valid : validateExperimentRecord (record.fork branch (c.currentSequence + 1)) c.limits
        experiment = .ok ())
      (allocated : c.state.watermarks.branch < marks.branch) :
      Effect c experiment record marks (.forkBranch experiment parent spec)
        (record.fork branch (c.currentSequence + 1))
  | forkUndone {parent : BranchId} {spec : BranchSpec} {parentBranch branch : BranchDefinition}
      (guarded : c.forkBranchGuard experiment parent spec = .ok (record, parentBranch)) :
      Effect c experiment record marks (.forkBranch experiment parent spec)
        (record.fork branch (c.currentSequence + 1)).unfork
  | retire {branch : BranchId} {reason : Text}
      (guarded : c.retireBranchGuard experiment branch = .ok record) :
      Effect c experiment record marks (.retireBranch experiment branch reason)
        (record.retire branch reason (c.currentSequence + 1))
  | refuseObservation {request : PublishObservationRequest R} {verdict : Status}
      (named : request.observation.experiment = experiment)
      (found : c.findExperiment experiment = some record)
      (refused : c.checkEnvelope (observationEnvelope request record) = .error verdict) :
      Effect c experiment record marks (.publishObservation request)
        (c.refusedObservation record request.observation verdict)
  | publishObservation {request : PublishObservationRequest R} {branch : BranchDefinition}
      {trial : TrialRecord} {attempt : AttemptRecord} {admitted : Observation R}
      (named : request.observation.experiment = experiment)
      (accepted : c.checkEnvelope (observationEnvelope request record) =
        .ok ⟨record, branch, trial, attempt⟩)
      (admission : c.admitObservation record request.observation = .ok (some admitted)) :
      Effect c experiment record marks (.publishObservation request)
        ((record.pushObservation { admitted with sequence := c.currentSequence + 1 }).observe trial
          attempt request.observation.trial request.observation.attempt
          (c.currentSequence + 1)).1
  | publishObservationUndone {request : PublishObservationRequest R} {branch : BranchDefinition}
      {trial : TrialRecord} {attempt : AttemptRecord}
      (named : request.observation.experiment = experiment)
      (accepted : c.checkEnvelope (observationEnvelope request record) =
        .ok ⟨record, branch, trial, attempt⟩) :
      Effect c experiment record marks (.publishObservation request)
        (record.observe trial attempt request.observation.trial request.observation.attempt
          (c.currentSequence + 1)).1
  | refuseArtifact {request : PublishArtifactRequest} {envelope : AuthorityEnvelope}
      {verdict : Status} (named : request.artifact.experiment = experiment)
      (found : c.findExperiment experiment = some record)
      (built : artifactEnvelope request record = .ok envelope)
      (refused : c.checkEnvelope envelope = .error verdict) :
      Effect c experiment record marks (.publishArtifact request)
        (record.reject (text "artifact") request.artifact.id.value verdict)
  | publishArtifact {request : PublishArtifactRequest} {envelope : AuthorityEnvelope}
      {branch : BranchDefinition} {trial : TrialRecord} {attempt : AttemptRecord}
      (named : request.artifact.experiment = experiment)
      (built : artifactEnvelope request record = .ok envelope)
      (accepted : c.checkEnvelope envelope = .ok ⟨record, branch, trial, attempt⟩)
      (admission : c.admitArtifact record trial request.artifact = .ok true) :
      Effect c experiment record marks (.publishArtifact request)
        ((record.pushArtifact request.artifact.trial { request.artifact with
          sequence := c.currentSequence + 1, current := true }).touch request.artifact.trial
          (c.currentSequence + 2))
  | publishArtifactUndone {request : PublishArtifactRequest} {envelope : AuthorityEnvelope}
      {branch : BranchDefinition} {trial : TrialRecord} {attempt : AttemptRecord}
      (named : request.artifact.experiment = experiment)
      (built : artifactEnvelope request record = .ok envelope)
      (accepted : c.checkEnvelope envelope = .ok ⟨record, branch, trial, attempt⟩) :
      Effect c experiment record marks (.publishArtifact request)
        (record.touch request.artifact.trial (c.currentSequence + 2))
  | registerArtifacts {request : CommitTrialRequest} {branch : BranchDefinition}
      {trial : TrialRecord} {attempt : AttemptRecord} {registered : ExperimentRecord R}
      {failure : Status} (named : request.envelope.experiment = experiment)
      (guarded : c.commitTrialGuard request = .ok ⟨record, branch, trial, attempt⟩)
      (refused : (Coordinator.registerArtifacts request.envelope c.nextSequence
        request.artifacts).2 = .error failure)
      (stored : (Coordinator.registerArtifacts request.envelope c.nextSequence
        request.artifacts).1.findExperiment experiment = some registered) :
      Effect c experiment record marks (.commitTrial request) registered
  | commit {request : CommitTrialRequest} {branch : BranchDefinition} {trial : TrialRecord}
      {attempt : AttemptRecord} {registered : ExperimentRecord R}
      (named : request.envelope.experiment = experiment)
      (guarded : c.commitTrialGuard request = .ok ⟨record, branch, trial, attempt⟩)
      (accepted : (Coordinator.registerArtifacts request.envelope c.nextSequence
        request.artifacts).2 = .ok ())
      (stored : (Coordinator.registerArtifacts request.envelope c.nextSequence
        request.artifacts).1.findExperiment experiment = some registered) :
      Effect c experiment record marks (.commitTrial request)
        (registered.complete request.envelope.trial request.envelope.attempt
          (c.currentSequence + 1))
  | fail {request : FailTrialRequest} {branch : BranchDefinition} {trial : TrialRecord}
      {attempt : AttemptRecord} (named : request.envelope.experiment = experiment)
      (guarded : c.failTrialGuard request = .ok ⟨record, branch, trial, attempt⟩) :
      Effect c experiment record marks (.failTrial request)
        (record.fail trial request.envelope.trial request.envelope.attempt request.kind
          request.detail request.retryable (c.currentSequence + 1))
  | cancelTrial {trial : TrialId} {reason : Text} {held : TrialRecord}
      (owner : c.ownerOf trial = some (experiment, record, held))
      (isOpen : isTerminal held.state = false) :
      Effect c experiment record marks (.cancelTrial trial reason)
        (record.cancelTrial trial reason (c.currentSequence + 1))
  | cancel {reason : Text} (found : c.findExperiment experiment = some record)
      (allowed : record.state.isValidTransition .cancelled = true) :
      Effect c experiment record marks (.cancelExperiment experiment reason)
        (record.cancel reason (c.currentSequence + 1))
  | finalize {candidate : BranchId} {reason : Text} {decision : Decision R}
      (guarded : c.finalizeGuard experiment = .ok record)
      (decided : decision = Coordinator.finalDecision record candidate reason
        ⟨c.state.watermarks.decision + 1⟩ (c.currentSequence + 1))
      (allocated : c.state.watermarks.decision < marks.decision)
      (pointed : ExperimentRecord.concludes decision.outcome = true →
        c.state.watermarks.rollback < marks.rollback) :
      Effect c experiment record marks (.finalizeExperiment experiment candidate reason)
        (record.finalize experiment decision ⟨c.state.watermarks.rollback + 1⟩
          (c.currentSequence + 1))
  | rollback {target : ExperimentGeneration} {reason : Text} {chosen : RollbackPoint}
      (guarded : c.rollbackGuard experiment target = .ok (record, chosen))
      (allocated : c.state.watermarks.rollback < marks.rollback) :
      Effect c experiment record marks (.rollback experiment target reason)
        (record.rollback experiment chosen ⟨c.state.watermarks.rollback + 1⟩ reason
          (c.currentSequence + 1))

/-- One change of the durable state during a request. -/
inductive StateStep (c : Coordinator R) (request : Request R) (old new : CoordinatorState R) :
    Prop where
  | quiet (same : new.experiments = old.experiments) (workers : new.workers = old.workers)
  | change {experiment : ExperimentId} {before after : ExperimentRecord R}
      (found : old.experiments.find? experiment = some before)
      (effect : Effect c experiment before new.watermarks request after)
      (stored : new.experiments = old.experiments.assign experiment after)
      (workers : new.workers = old.workers)
  | create {spec : ExperimentSpec R} {record : ExperimentRecord R} {expected : MetricId}
      {branches : List BranchDefinition} (named : request = .createExperiment spec)
      (accepted : validateSpec spec c.limits = .ok ())
      (room : c.state.experiments.size < c.limits.maxExperiments)
      (defined : record = spec.record ⟨c.state.watermarks.experiment + 1⟩
        ⟨c.state.watermarks.hypothesis + 1⟩ ⟨c.state.watermarks.policy + 1⟩
        (defineMetrics c.state.watermarks.metric spec.metrics) expected branches
        (c.currentSequence + 1))
      (valid : validateExperimentRecord record c.limits ⟨c.state.watermarks.experiment + 1⟩ =
        .ok ())
      (allocated : c.state.watermarks.experiment < new.watermarks.experiment ∧
        c.state.watermarks.hypothesis < new.watermarks.hypothesis ∧
        ∀ branch ∈ branches, branch.id.value ≤ new.watermarks.branch)
      (before : old.experiments = c.state.experiments)
      (absent : old.experiments.find? ⟨c.state.watermarks.experiment + 1⟩ = none)
      (stored : new.experiments =
        old.experiments.assign ⟨c.state.watermarks.experiment + 1⟩ record)
      (workers : new.workers = old.workers)
      (branched : (defineBranches (c.currentSequence + 1) c.state.watermarks.branch []
        spec.branches).2 = .ok branches)
  | addTrial {experiment : ExperimentId} {record : ExperimentRecord R} {branchId : BranchId}
      {branch : BranchDefinition} {payload : Text}
      (named : request = .createTrial experiment branchId payload)
      (guarded : c.createTrialGuard experiment branchId payload = .ok (record, branch))
      (valid : validateExperimentRecord (record.addTrial (record.newTrial experiment branch
        ⟨c.state.watermarks.trial + 1⟩ payload (c.currentSequence + 1))) c.limits experiment =
          .ok ())
      (found : old.experiments.find? experiment = some record)
      (fresh : old.watermarks.trial = c.state.watermarks.trial)
      (allocated : c.state.watermarks.trial < new.watermarks.trial)
      (stored : new.experiments = old.experiments.assign experiment (record.addTrial
        (record.newTrial experiment branch ⟨c.state.watermarks.trial + 1⟩ payload
          (c.currentSequence + 1))))
      (workers : new.workers = old.workers)
  | addTrialUndone {experiment : ExperimentId} {record : ExperimentRecord R} {branchId : BranchId}
      {branch : BranchDefinition} {payload : Text}
      (named : request = .createTrial experiment branchId payload)
      (guarded : c.createTrialGuard experiment branchId payload = .ok (record, branch))
      (found : old.experiments.find? experiment = some record)
      (fresh : old.watermarks.trial = c.state.watermarks.trial)
      (stored : new.experiments = old.experiments.assign experiment ((record.addTrial
        (record.newTrial experiment branch ⟨c.state.watermarks.trial + 1⟩ payload
          (c.currentSequence + 1))).removeTrial ⟨c.state.watermarks.trial + 1⟩))
      (workers : new.workers = old.workers)
  | issue {claim : ClaimTrialRequest} {live : LiveWorker} {experiment : ExperimentId}
      {record : ExperimentRecord R} {key : TrialId} {trial : TrialRecord}
      {branch : BranchDefinition} {id : TrialAttemptId} {sequence : Nat}
      (named : request = .claimTrials claim) (guarded : c.claimTrialsGuard claim = .ok live)
      (found : old.experiments.find? experiment = some record)
      (opened : record.state = .opened) (trialFound : record.trials.find? key = some trial)
      (claimable : record.claimable c.limits trial = some branch)
      (fresh : old.watermarks.attempt < id.value) (allocated : id.value ≤ new.watermarks.attempt)
      (stored : new.experiments = old.experiments.assign experiment
        (record.issue key
          (record.newAttempt trial id claim.worker claim.boot c.epoch live.producer sequence)
          sequence))
      (workers : new.workers = old.workers)
  | lose {worker : WorkerId} {boot : WorkerBootId} {kind : FailureKind}
      {attemptDetail trialDetail line : Text} {sequence : Nat}
      (named : (∃ reason, request = .revokeWorker worker boot kind reason) ∨
        ∃ registration : RegisterWorkerRequest, request = .registerWorker registration ∧
          registration.worker = worker ∧ registration.boot ≠ boot)
      (stored : new.experiments = old.experiments.mapValues
        (ExperimentRecord.loseWorker worker boot kind attemptDetail trialDetail sequence line))
      (workers : new.workers = old.workers.map (revokeIncarnation worker boot kind sequence))
  | register {registration : RegisterWorkerRequest} {incarnation : WorkerIncarnation}
      (named : request = .registerWorker registration)
      (guarded : c.registerWorkerGuard registration = .ok ())
      (fresh : c.findLiveWorker registration.worker registration.boot = none)
      (identity : incarnation.worker = registration.worker ∧
        incarnation.boot = registration.boot ∧ incarnation.epoch = c.epoch)
      (same : new.experiments = old.experiments)
      (workers : new.workers = old.workers ++ [incarnation])

end Effect

/-- No counter of the state decreases. -/
structure CoordinatorState.Advances (old new : CoordinatorState R) : Prop where
  marks : old.watermarks.Grows new.watermarks
  sequence : old.lastSequence ≤ new.lastSequence
  format : new.formatVersion = old.formatVersion

theorem CoordinatorState.Advances.refl (state : CoordinatorState R) : state.Advances state :=
  ⟨.refl _, le_rfl, rfl⟩

/-- Only the sequence counter moves. -/
theorem CoordinatorState.Advances.counted {old new : CoordinatorState R}
    (marks : new.watermarks = old.watermarks) (sequence : old.lastSequence ≤ new.lastSequence)
    (format : new.formatVersion = old.formatVersion) : old.Advances new :=
  ⟨marks ▸ .refl _, sequence, format⟩

theorem CoordinatorState.Advances.trans {first second third : CoordinatorState R}
    (earlier : first.Advances second) (later : second.Advances third) : first.Advances third where
  marks := by
    constructor
    · exact earlier.marks.experiment.trans later.marks.experiment
    · exact earlier.marks.hypothesis.trans later.marks.hypothesis
    · exact earlier.marks.branch.trans later.marks.branch
    · exact earlier.marks.metric.trans later.marks.metric
    · exact earlier.marks.policy.trans later.marks.policy
    · exact earlier.marks.trial.trans later.marks.trial
    · exact earlier.marks.attempt.trans later.marks.attempt
    · exact earlier.marks.observation.trans later.marks.observation
    · exact earlier.marks.artifact.trans later.marks.artifact
    · exact earlier.marks.decision.trans later.marks.decision
    · exact earlier.marks.rollback.trans later.marks.rollback
  sequence := earlier.sequence.trans later.sequence
  format := later.format.trans earlier.format

/-- A chain of changes of the durable state during a request. -/
def StateSteps [MetricReal R] [CanonicalDigests R] (c : Coordinator R) (request : Request R) :
    CoordinatorState R → CoordinatorState R → Prop :=
  ReflTransGen fun old new => StateStep c request old new ∧ old.Advances new

end ExperimentFabric
