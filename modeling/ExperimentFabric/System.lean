import ExperimentFabric.Lib.Runs
import ExperimentFabric.Recovery

/-!
# The coordinator as a system

One request at a time is performed on a running coordinator; the outcome of its storage write is
chosen by the environment.  Between requests the process may stop, which leaves only the file at the
state path, and a later process may start from that file.
-/

namespace ExperimentFabric

open Lib

variable {R : Type}

/-- A call of one public operation. -/
inductive Request (R : Type) where
  | createExperiment (spec : ExperimentSpec R)
  | reviseHypothesis (experiment : ExperimentId) (spec : HypothesisRevisionSpec)
  | forkBranch (experiment : ExperimentId) (parent : BranchId) (spec : BranchSpec)
  | retireBranch (experiment : ExperimentId) (branch : BranchId) (reason : Text)
  | createTrial (experiment : ExperimentId) (branch : BranchId) (payload : Text)
  | registerWorker (request : RegisterWorkerRequest)
  | revokeWorker (worker : WorkerId) (boot : WorkerBootId) (kind : FailureKind) (reason : Text)
  | heartbeat (request : Coordinator.HeartbeatRequest)
  | claimTrials (request : ClaimTrialRequest)
  | publishObservation (request : PublishObservationRequest R)
  | publishArtifact (request : PublishArtifactRequest)
  | commitTrial (request : CommitTrialRequest)
  | failTrial (request : FailTrialRequest)
  | cancelTrial (trial : TrialId) (reason : Text)
  | cancelExperiment (experiment : ExperimentId) (reason : Text)
  | finalizeExperiment (experiment : ExperimentId) (candidate : BranchId) (reason : Text)
  | rollback (experiment : ExperimentId) (target : ExperimentGeneration) (reason : Text)
  | save
  | requestShutdown
  /-- Start the control plane; `started` tells whether the listener could be opened. -/
  | startServer (started : Result Unit)
  | stopServer

/-- What an operation answers. -/
inductive Reply (R : Type) where
  | experiment (result : Result ExperimentId)
  | revision (result : Result HypothesisRevision)
  | branch (result : Result BranchId)
  | trial (result : Result TrialId)
  | registration (reply : RegisterWorkerReply)
  | claim (reply : ClaimTrialReply)
  | decision (result : Result (Decision R))
  | status (result : Result Unit)

/-- The operation reports success. -/
def Reply.succeeded : Reply R → Bool
  | .experiment result => result.isOk
  | .revision result => result.isOk
  | .branch result => result.isOk
  | .trial result => result.isOk
  | .registration reply => reply.status.isOk
  | .claim reply => reply.status.isOk
  | .decision result => result.isOk
  | .status result => result.isOk

namespace Coordinator

/-- Stop admitting work. -/
def requestShutdown (c : Coordinator R) : Coordinator R := { c with admittingWork := false }

/-- Open the control plane and admit work. -/
def startServer (c : Coordinator R) (started : Result Unit) : Coordinator R × Result Unit :=
  if c.serverActive then
    (c, .error ⟨.alreadyExists, .transport, text "the control plane is already running"⟩)
  else match started with
    | .error failure => (c, .error failure)
    | .ok () => ({ c with admittingWork := true, serverActive := true }, .ok ())

/-- Close the control plane and save. -/
def stopServer (c : Coordinator R) (fault : Option SaveFault) : Coordinator R × Result Unit :=
  if !c.serverActive then (c, .ok ())
  else { c with admittingWork := false, serverActive := false }.save fault

variable [MetricReal R] [CanonicalDigests R]

/-- Perform a request; `fault` is the outcome of its storage write, if it makes one. -/
def perform (c : Coordinator R) (request : Request R) (fault : Option SaveFault) :
    Coordinator R × Reply R :=
  match request with
  | .createExperiment spec => (c.createExperiment spec fault).map id .experiment
  | .reviseHypothesis experiment spec =>
      (c.reviseHypothesis experiment spec fault).map id .revision
  | .forkBranch experiment parent spec =>
      (c.forkBranch experiment parent spec fault).map id .branch
  | .retireBranch experiment branch reason =>
      (c.retireBranch experiment branch reason fault).map id .branch
  | .createTrial experiment branch payload =>
      (c.createTrial experiment branch payload fault).map id .trial
  | .registerWorker request => (c.registerWorker request fault).map id .registration
  | .revokeWorker worker boot kind reason =>
      (c.revokeWorker worker boot kind reason fault).map id .status
  | .heartbeat request => (c.heartbeat request).map id .status
  | .claimTrials request => (c.claimTrials request fault).map id .claim
  | .publishObservation request => (c.publishObservation request fault).map id .status
  | .publishArtifact request => (c.publishArtifact request fault).map id .status
  | .commitTrial request => (c.commitTrial request fault).map id .status
  | .failTrial request => (c.failTrial request fault).map id .status
  | .cancelTrial trial reason => (c.cancelTrial trial reason fault).map id .status
  | .cancelExperiment experiment reason =>
      (c.cancelExperiment experiment reason fault).map id .status
  | .finalizeExperiment experiment candidate reason =>
      (c.finalizeExperiment experiment candidate reason fault).map id .decision
  | .rollback experiment target reason =>
      (c.rollback experiment target reason fault).map id .status
  | .save => (c.save fault).map id .status
  | .requestShutdown => (c.requestShutdown, .status (.ok ()))
  | .startServer started => (c.startServer started).map id .status
  | .stopServer => (c.stopServer fault).map id .status

end Coordinator

/-! ## Processes and the file they leave -/

/-- A coordinator process, or only the file at the state path. -/
inductive World (R : Type) where
  | running (coordinator : Coordinator R)
  | down (image : Option (CoordinatorState R))

/-- The file at the state path. -/
def World.image : World R → Option (CoordinatorState R)
  | .running c => c.image
  | .down image => image

/-- What can happen to a world. -/
inductive Event (R : Type) where
  | request (request : Request R) (fault : Option SaveFault)
  | stop
  | start (config : Config) (outcomes : WriteOutcomes)

section World

variable [MetricReal R] [CanonicalDigests R]

/-- Steps of a world whose processes share one state path.  A process that stops between two writes
of its startup leaves the same file as one whose next write fails, so interrupted startups are
failed ones. -/
inductive World.Step (path : Text) : World R → Event R → World R → Prop where
  | request (c : Coordinator R) (request : Request R) (fault : Option SaveFault) :
      Step path (.running c) (.request request fault) (.running (c.perform request fault).1)
  | stop (c : Coordinator R) : Step path (.running c) .stop (.down c.image)
  | start {config : Config} {image left : Option (CoordinatorState R)} {outcomes : WriteOutcomes}
      {c : Coordinator R} (samePath : config.statePath = path)
      (started : Coordinator.create config image outcomes = (left, .ok c)) :
      Step path (.down image) (.start config outcomes) (.running c)
  | failedStart {config : Config} {image left : Option (CoordinatorState R)}
      {outcomes : WriteOutcomes} {failure : Status} (samePath : config.statePath = path)
      (refused : Coordinator.create config image outcomes = (left, .error failure)) :
      Step path (.down image) (.start config outcomes) (.down left)

/-- Worlds reachable from an empty state path. -/
def World.Reachable (path : Text) (world : World R) : Prop :=
  ∃ events, Run (World.Step path) (.down none) events world

/-- An invariant of the first world and of every step holds in every reachable world. -/
theorem World.Reachable.invariant {path : Text} {property : World R → Prop}
    (start : property (.down none))
    (kept : ∀ source event target, property source → World.Step path source event target →
      property target)
    {world : World R} (reachable : world.Reachable path) : property world := by
  obtain ⟨events, run⟩ := reachable
  exact run.preserves kept start

end World

end ExperimentFabric
