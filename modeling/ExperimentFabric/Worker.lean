import ExperimentFabric.Remote
import ExperimentFabric.Lib.Simulations

/-!
# The worker

A worker registers an incarnation, claims trials, runs a task on each assignment and reports what
the task produced: the observations one by one, then a commit, or one failure.  It decides nothing:
every report carries the envelope of its assignment, and the coordinator checks it again.

The worker talks to its control plane through five calls.  They are a parameter here, so that the
same worker runs over a connection, inside the process of the coordinator, or with a log of what it
asks for.
-/

namespace ExperimentFabric

open Lib Protocol

variable {R : Type} {σ : Type} {m : Type → Type} [Monad m]

/-! ## Tasks -/

/-- A metric value that a task produced, addressed by the name of its metric. -/
structure NamedObservation (R : Type) where
  metric : Text
  validity : ObservationValidity := .valid
  value : MetricValue R
  detail : Text := []

/-- An artifact that a task produced. -/
structure NamedArtifact where
  category : Text := []
  locator : Text := []
  contentDigest : Digest := List.replicate 32 0
  digestPresent : Bool := false
  sizePresent : Bool := false
  sizeBytes : Nat := 0
  provenance : Text := []

/-- What a task decided about one assignment. -/
structure TrialOutcome (R : Type) where
  succeeded : Bool := false
  failureKind : FailureKind := .executionFailure
  failureDetail : Text := []
  retryable : Bool := false
  observations : List (NamedObservation R) := []
  artifacts : List NamedArtifact := []
  resultPayload : Text := []

/-- What a task is told about its worker and its attempt. -/
structure WorkerTaskContext where
  worker : WorkerId
  boot : WorkerBootId
  epoch : CoordinatorEpoch
  producer : ProducerId
  attempt : TrialAttemptNumber
  parameters : List ParameterAssignment

/-- The value of a parameter, if it was assigned. -/
def WorkerTaskContext.parameter (context : WorkerTaskContext) (key : Text) : Option Text :=
  (context.parameters.find? fun assignment => assignment.key == key).map ParameterAssignment.value

/-- A task. -/
abbrev TaskFunction (R : Type) := TrialAssignment → WorkerTaskContext → TrialOutcome R

/-! ## The control plane of a worker -/

/-- The calls a worker makes. -/
structure ControlPlane (m : Type → Type) (R : Type) where
  registerWorker : RegisterWorkerRequest → m (Result Protocol.RegisterWorkerReply)
  claimTrials : ClaimTrialRequest → m (Result Protocol.ClaimTrialReply)
  publishObservation : PublishObservationRequest R → m Status
  commitTrial : CommitTrialRequest → m Status
  failTrial : FailTrialRequest → m Status

/-- A call of a client as a computation on the client and on what is behind its connection. -/
def Client.through {α : Type} (call : Client → σ → σ × Client × α) : StateM (σ × Client) α :=
  fun state =>
    let (world, client, value) := call state.2 state.1
    (value, world, client)

/-- The control plane behind a client. -/
def Client.controlPlane [BitPattern R] (peer : Peer σ) : ControlPlane (StateM (σ × Client)) R where
  registerWorker request := through fun client world => client.registerWorker peer world request
  claimTrials request := through fun client world => client.claimTrials peer world request
  publishObservation request :=
    through fun client world => client.publishObservation peer world request
  commitTrial request := through fun client world => client.commitTrial peer world request
  failTrial request := through fun client world => client.failTrial peer world request

/-- The entry of a call in a log. -/
def loggedAs {α β : Type} (call : α → Call R) (answer : β → Answer R) (request : α) (value : β) :
    Call R × Answer R := (call request, answer value)

/-- A control plane that also keeps the calls made to it and its answers. -/
def ControlPlane.logged (plane : ControlPlane (StateM σ) R) :
    ControlPlane (StateM (σ × List (Call R × Answer R))) R where
  registerWorker request :=
    record (loggedAs .registerWorker .registration request) (plane.registerWorker request)
  claimTrials request :=
    record (loggedAs .claimTrials .claim request) (plane.claimTrials request)
  publishObservation request :=
    record (loggedAs .publishObservation .status request) (plane.publishObservation request)
  commitTrial request :=
    record (loggedAs .commitTrial .status request) (plane.commitTrial request)
  failTrial request :=
    record (loggedAs .failTrial .status request) (plane.failTrial request)

/-! ## Workers -/

/-- How a worker is set up. -/
structure WorkerConfig where
  worker : WorkerId
  /-- Absent means that a fresh boot identity is minted. -/
  forcedBoot : Option WorkerBootId := none
  endpoint : Text := []
  fingerprint : Text := []
  maxConcurrentAssignments : Nat := 1

/-- A worker process. -/
structure Worker where
  config : WorkerConfig
  boot : WorkerBootId
  epoch : CoordinatorEpoch := .null
  producer : ProducerId := .null
  published : Nat := 0
  failed : Nat := 0
  lastError : Text := []
  publishedObservations : Nat := 0

namespace Worker

/-- A failure before the worker is connected. -/
def identityError (reason : Text) : Status := ⟨.invalidArgument, .identity, reason⟩

/-- Set up a worker; `minted` is the boot identity that would be minted. -/
def create (config : WorkerConfig) (minted : WorkerBootId) : Result Worker :=
  if !config.worker.valid then .error (identityError (text "worker identity must be non-null"))
  else
    let boot := config.forcedBoot.getD minted
    if !boot.valid then .error (identityError (text "worker boot identity must be non-null"))
    else .ok { config, boot }

/-- The registration a worker asks for. -/
def registration (worker : Worker) : RegisterWorkerRequest where
  worker := worker.config.worker
  boot := worker.boot
  endpoint := worker.config.endpoint
  maxConcurrentAssignments := worker.config.maxConcurrentAssignments
  fingerprint := worker.config.fingerprint

/-- Register the incarnation of the worker. -/
def connectAndRegister (worker : Worker) (plane : ControlPlane m R) : m (Worker × Status) := do
  match ← plane.registerWorker worker.registration with
  | .error failure => return ({ worker with lastError := failure.toText }, failure)
  | .ok reply =>
      if reply.status.code ≠ .ok then
        return ({ worker with lastError := reply.status.toText }, reply.status)
      else
        return ({ worker with
          epoch := reply.epoch, producer := reply.producer, boot := reply.boot },
          .ofResult (.ok ()))

/-- What the task is told. -/
def context (worker : Worker) (assignment : TrialAssignment) : WorkerTaskContext where
  worker := worker.config.worker
  boot := worker.boot
  epoch := worker.epoch
  producer := worker.producer
  attempt := assignment.attemptNumber
  parameters := assignment.parameters

/-- The reservation for a metric; of several with one name, the last. -/
def reservation (assignment : TrialAssignment) (metric : Text) : Option AssignedMetric :=
  assignment.metrics.foldl
    (fun reserved candidate => if candidate.name == metric then some candidate else reserved) none

/-- The report of a failed attempt. -/
def failure (worker : Worker) (assignment : TrialAssignment) (kind : FailureKind) (detail : Text)
    (retryable : Bool) : FailTrialRequest where
  epoch := worker.epoch
  worker := worker.config.worker
  boot := worker.boot
  envelope := assignment.envelope
  kind := kind
  detail := detail
  retryable := retryable

/-- The report of an observation under its reservation. -/
def publication (worker : Worker) (assignment : TrialAssignment) (reserved : AssignedMetric)
    (named : NamedObservation R) : PublishObservationRequest R where
  epoch := worker.epoch
  worker := worker.config.worker
  boot := worker.boot
  observation :=
    { id := reserved.observationId
      experiment := assignment.envelope.experiment
      generation := assignment.envelope.generation
      branch := assignment.envelope.branch
      branchGeneration := assignment.envelope.branchGeneration
      trial := assignment.envelope.trial
      attempt := assignment.envelope.attempt
      metric := reserved.metric
      producer := worker.producer
      worker := worker.config.worker
      boot := worker.boot
      epoch := worker.epoch
      validity := named.validity
      value := named.value
      detail := named.detail }

/-- The record of an artifact under a reserved identity. -/
def artifactRecord (assignment : TrialAssignment) (id : ArtifactId) (named : NamedArtifact) :
    ArtifactRecord where
  id := id
  experiment := assignment.envelope.experiment
  generation := assignment.envelope.generation
  branch := assignment.envelope.branch
  trial := assignment.envelope.trial
  attempt := assignment.envelope.attempt
  category := named.category
  locator := named.locator
  contentDigest := named.contentDigest
  digestPresent := named.digestPresent
  sizePresent := named.sizePresent
  sizeBytes := named.sizeBytes
  provenance := named.provenance

/-- The report of a completed attempt.  Artifacts beyond the reserved identities are dropped. -/
def commitment (worker : Worker) (assignment : TrialAssignment) (outcome : TrialOutcome R) :
    CommitTrialRequest where
  epoch := worker.epoch
  worker := worker.config.worker
  boot := worker.boot
  envelope := assignment.envelope
  artifacts := List.zipWith (artifactRecord assignment) assignment.artifactIds outcome.artifacts
  resultPayload := outcome.resultPayload

/-- Publish observations until one fails; tells whether all of them were published. -/
def publishAll (plane : ControlPlane m R) (assignment : TrialAssignment) :
    Worker → List (NamedObservation R) → m (Worker × Bool)
  | worker, [] => return (worker, true)
  | worker, named :: rest =>
      match reservation assignment named.metric with
      | none =>
          return ({ worker with
            lastError := text "task produced an observation for a metric that was not assigned: " ++
              named.metric }, false)
      | some reserved => do
          let status ← plane.publishObservation (worker.publication assignment reserved named)
          if status.code ≠ .ok then return ({ worker with lastError := status.toText }, false)
          else
            publishAll plane assignment
              { worker with publishedObservations := worker.publishedObservations + 1 } rest

/-- Run the task on one assignment and report what it produced. -/
def runAssignment (plane : ControlPlane m R) (task : TaskFunction R) (worker : Worker)
    (assignment : TrialAssignment) : m Worker := do
  let outcome := task assignment (worker.context assignment)
  if !outcome.succeeded then
    let status ← plane.failTrial (worker.failure assignment outcome.failureKind
      outcome.failureDetail outcome.retryable)
    if status.code = .ok then return { worker with failed := worker.failed + 1 }
    else return { worker with lastError := status.toText }
  else
    let (worker, published) ← publishAll plane assignment worker outcome.observations
    if !published then
      -- the status of this report is ignored
      let _ ← plane.failTrial
        (worker.failure assignment .invalidObservation worker.lastError false)
      return { worker with failed := worker.failed + 1 }
    else
      let status ← plane.commitTrial (worker.commitment assignment outcome)
      if status.code ≠ .ok then
        return { worker with lastError := status.toText, failed := worker.failed + 1 }
      else return { worker with published := worker.published + 1 }

/-- Run the task on assignments one after another. -/
def runAssignments (plane : ControlPlane m R) (task : TaskFunction R) :
    Worker → List TrialAssignment → m Worker
  | worker, [] => return worker
  | worker, assignment :: rest => do
      let worker ← runAssignment plane task worker assignment
      runAssignments plane task worker rest

/-- The claim a worker makes. -/
def claim (worker : Worker) : ClaimTrialRequest where
  epoch := worker.epoch
  worker := worker.config.worker
  boot := worker.boot
  maxClaims := worker.config.maxConcurrentAssignments

/-- The status of a worker that finds nothing to do. -/
def nothingToClaim : Status := ⟨.notFound, .lifecycle, text "no trial is available to claim"⟩

/-- One cycle: claim, run the task on every assignment and report. -/
def runOnce (plane : ControlPlane m R) (task : TaskFunction R) (worker : Worker) :
    m (Worker × Status) := do
  match ← plane.claimTrials worker.claim with
  | .error failure => return ({ worker with lastError := failure.toText }, failure)
  | .ok reply =>
      if reply.status.code ≠ .ok then
        return ({ worker with lastError := reply.status.toText }, reply.status)
      else if reply.assignments.isEmpty then return (worker, nothingToClaim)
      else
        let worker ← runAssignments plane task worker reply.assignments
        return (worker, .ofResult (.ok ()))

/-- Register unless there is an epoch already. -/
def ensureRegistered (worker : Worker) (plane : ControlPlane m R) : m (Worker × Status) :=
  if !worker.epoch.valid then worker.connectAndRegister plane
  else return (worker, .ofResult (.ok ()))

/-- A cycle of a registered worker, with the status of the run when the cycle ends it. -/
def registeredCycle (plane : ControlPlane m R) (task : TaskFunction R) (worker : Worker) :
    m (Worker × Option Status) := do
  let (worker, status) ← runOnce plane task worker
  if status.code = .ok then return (worker, none)
  else if status.code = .notFound then return (worker, some (.ofResult (.ok ())))
  else if status.code = .staleEpoch ∨ status.code = .staleWorker then
    let (worker, registered) ← worker.connectAndRegister plane
    if registered.code ≠ .ok then return (worker, some registered) else return (worker, none)
  else return (worker, some status)

/-- One cycle of the loop of a worker. -/
def runCycle (plane : ControlPlane m R) (task : TaskFunction R) (worker : Worker) :
    m (Worker × Option Status) := do
  let (worker, registered) ← worker.ensureRegistered plane
  if registered.code ≠ .ok then return (worker, some registered)
  else registeredCycle plane task worker

/-- Run cycles until there is nothing to do, a status cannot be recovered from, or the stop flag is
seen, which is after a number of cycles. -/
def runUntilIdle (plane : ControlPlane m R) (task : TaskFunction R) :
    Nat → Worker → m (Worker × Status)
  | 0, worker => return (worker, .ofResult (.ok ()))
  | cycles + 1, worker => do
      match ← runCycle plane task worker with
      | (worker, some status) => return (worker, status)
      | (worker, none) => runUntilIdle plane task cycles worker

end Worker

end ExperimentFabric
