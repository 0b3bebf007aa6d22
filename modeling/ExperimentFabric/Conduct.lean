import ExperimentFabric.Imitation

/-!
# The conduct of a worker

Whatever its control plane answers, a worker asks only for what it may ask for: it registers, it
claims, and for each assignment in turn it sends the observations of its task under the reserved
identities and then one report, a commit exactly when every observation was accepted.  Everything
it sends carries the credentials of its last accepted registration and the envelope of the
assignment.
-/

namespace ExperimentFabric

open Lib Protocol

variable {R : Type} {σ : Type}

/-- Refused for the credentials that it carries. -/
def Status.Fenced (status : Status) : Prop := status.code = .staleEpoch ∨ status.code = .staleWorker

namespace Worker

/-- Two states of a worker with one set of credentials. -/
structure SameCredentials (worker later : Worker) : Prop where
  config : later.config = worker.config
  boot : later.boot = worker.boot
  epoch : later.epoch = worker.epoch
  producer : later.producer = worker.producer

/-- The publications of a list of observations with their answers, up to the first that is not
accepted; `verdict` is the error of that one. -/
inductive Publishes (worker : Worker) (assignment : TrialAssignment) :
    List (NamedObservation R) → List (Call R × Answer R) → Option Text → Prop where
  | done : Publishes worker assignment [] [] none
  | unassigned {named : NamedObservation R} {rest : List (NamedObservation R)}
      (unknown : reservation assignment named.metric = none) :
      Publishes worker assignment (named :: rest) []
        (some (text "task produced an observation for a metric that was not assigned: " ++
          named.metric))
  | refused {named : NamedObservation R} {rest : List (NamedObservation R)}
      {reserved : AssignedMetric} {status : Status}
      (known : reservation assignment named.metric = some reserved) (failed : status.code ≠ .ok) :
      Publishes worker assignment (named :: rest)
        [(.publishObservation (worker.publication assignment reserved named), .status status)]
        (some status.toText)
  | accepted {named : NamedObservation R} {rest : List (NamedObservation R)}
      {reserved : AssignedMetric} {status : Status} {log : List (Call R × Answer R)}
      {verdict : Option Text} (known : reservation assignment named.metric = some reserved)
      (succeeded : status.code = .ok) (later : Publishes worker assignment rest log verdict) :
      Publishes worker assignment (named :: rest)
        ((.publishObservation (worker.publication assignment reserved named), .status status) ::
          log) verdict

/-- What a worker asks for on behalf of one assignment. -/
inductive Reports (task : TaskFunction R) (worker : Worker) (assignment : TrialAssignment) :
    List (Call R × Answer R) → Prop where
  | gaveUp {outcome : TrialOutcome R} {status : Status}
      (decided : outcome = task assignment (worker.context assignment))
      (failed : outcome.succeeded = false) :
      Reports task worker assignment
        [(.failTrial (worker.failure assignment outcome.failureKind outcome.failureDetail
          outcome.retryable), .status status)]
  | abandoned {outcome : TrialOutcome R} {log : List (Call R × Answer R)} {detail : Text}
      {status : Status} (decided : outcome = task assignment (worker.context assignment))
      (succeeded : outcome.succeeded = true)
      (published : Publishes worker assignment outcome.observations log (some detail)) :
      Reports task worker assignment (log ++
        [(.failTrial (worker.failure assignment .invalidObservation detail false),
          .status status)])
  | committed {outcome : TrialOutcome R} {log : List (Call R × Answer R)} {status : Status}
      (decided : outcome = task assignment (worker.context assignment))
      (succeeded : outcome.succeeded = true)
      (published : Publishes worker assignment outcome.observations log none) :
      Reports task worker assignment (log ++
        [(.commitTrial (worker.commitment assignment outcome), .status status)])

/-- The status of an answer to a registration. -/
def registrationStatus : Result Protocol.RegisterWorkerReply → Status
  | .error failure => failure
  | .ok reply => reply.status

/-- The credentials after an accepted registration; a failure that carries the code OK passes for
one and brings none. -/
def enrolled (worker : Worker) : Result Protocol.RegisterWorkerReply → Worker
  | .error _ => worker
  | .ok reply =>
      { worker with epoch := reply.epoch, producer := reply.producer, boot := reply.boot }

/-- The status of a run that a cycle ends: nothing to claim is no failure. -/
def settled (status : Status) : Status :=
  if status.code = .notFound then .ofResult (.ok ()) else status

namespace SameCredentials

variable {worker later : Worker}

theorem refl (worker : Worker) : worker.SameCredentials worker := ⟨rfl, rfl, rfl, rfl⟩

theorem trans {last : Worker} (first : worker.SameCredentials later)
    (second : later.SameCredentials last) : worker.SameCredentials last :=
  ⟨second.config.trans first.config, second.boot.trans first.boot,
    second.epoch.trans first.epoch, second.producer.trans first.producer⟩

variable (same : worker.SameCredentials later)

include same

theorem counted (published failed : Nat) (lastError : Text) (publishedObservations : Nat) :
    worker.SameCredentials { later with published, failed, lastError, publishedObservations } :=
  ⟨same.config, same.boot, same.epoch, same.producer⟩

theorem context (assignment : TrialAssignment) :
    later.context assignment = worker.context assignment := by
  simp only [Worker.context, same.config, same.boot, same.epoch, same.producer]

theorem publication (assignment : TrialAssignment) (reserved : AssignedMetric)
    (named : NamedObservation R) :
    later.publication assignment reserved named = worker.publication assignment reserved named := by
  simp only [Worker.publication, same.config, same.boot, same.epoch, same.producer]

theorem failure (assignment : TrialAssignment) (kind : FailureKind) (detail : Text)
    (retryable : Bool) :
    later.failure assignment kind detail retryable =
      worker.failure assignment kind detail retryable := by
  simp only [Worker.failure, same.config, same.boot, same.epoch]

theorem commitment (assignment : TrialAssignment) (outcome : TrialOutcome R) :
    later.commitment assignment outcome = worker.commitment assignment outcome := by
  simp only [Worker.commitment, same.config, same.boot, same.epoch]

theorem claim : later.claim = worker.claim := by
  simp only [Worker.claim, same.config, same.boot, same.epoch]

theorem registration : later.registration = worker.registration := by
  simp only [Worker.registration, same.config, same.boot]

theorem publishes {assignment : TrialAssignment} {observations : List (NamedObservation R)}
    {log : List (Call R × Answer R)} {verdict : Option Text}
    (published : Publishes later assignment observations log verdict) :
    Publishes worker assignment observations log verdict := by
  induction published with
  | done => exact .done
  | unassigned unknown => exact .unassigned unknown
  | refused known failed =>
      rw [same.publication]
      exact .refused known failed
  | accepted known succeeded later ih =>
      rw [same.publication]
      exact .accepted known succeeded ih

theorem reports {task : TaskFunction R} {assignment : TrialAssignment}
    {log : List (Call R × Answer R)} (reported : Reports task later assignment log) :
    Reports task worker assignment log := by
  cases reported with
  | gaveUp decided failed =>
      rw [same.failure]
      exact .gaveUp (same.context assignment ▸ decided) failed
  | abandoned decided succeeded published =>
      rw [same.failure]
      exact .abandoned (same.context assignment ▸ decided) succeeded (same.publishes published)
  | committed decided succeeded published =>
      rw [same.commitment]
      exact .committed (same.context assignment ▸ decided) succeeded (same.publishes published)

end SameCredentials

end Worker

namespace ControlPlane

variable (plane : ControlPlane (StateM σ) R)

end ControlPlane

namespace Worker

variable (plane : ControlPlane (StateM σ) R) (task : TaskFunction R)

/-- What a registration records, the worker after it and its status. -/
inductive Registers (worker : Worker) : List (Call R × Answer R) → Worker → Status → Prop where
  | accepted {next : Worker} {result : Result Protocol.RegisterWorkerReply} {status : Status}
      (succeeded : status.code = .ok) (accepted : (registrationStatus result).code = .ok)
      (same : (worker.enrolled result).SameCredentials next) :
      Registers worker [(.registerWorker worker.registration, .registration result)] next status
  | refused {next : Worker} {result : Result Protocol.RegisterWorkerReply} {status : Status}
      (failed : status.code ≠ .ok) (told : status = registrationStatus result)
      (same : worker.SameCredentials next) :
      Registers worker [(.registerWorker worker.registration, .registration result)] next status

section

variable {task}

theorem SameCredentials.enrolled {worker later : Worker} (same : worker.SameCredentials later)
    (result : Result Protocol.RegisterWorkerReply) :
    (worker.enrolled result).SameCredentials (later.enrolled result) := by
  cases result with
  | error failure => exact same
  | ok reply => exact ⟨same.config, rfl, rfl, rfl⟩

end

end Worker

end ExperimentFabric
