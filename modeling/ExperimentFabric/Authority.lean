import ExperimentFabric.Definition

/-!
# Authority and worker lifecycle

The authority envelope and its validation, registration and revocation of worker incarnations, and
the claim loop that issues attempts.
-/

namespace ExperimentFabric

open Lib

variable {R : Type}

/-- Everything a producer must present before its evidence may become authoritative. -/
structure AuthorityEnvelope where
  epoch : CoordinatorEpoch
  experiment : ExperimentId
  generation : ExperimentGeneration
  hypothesis : HypothesisId
  hypothesisRevision : HypothesisRevision
  policy : PolicyId
  policyGeneration : PolicyGeneration
  branch : BranchId
  branchGeneration : BranchGeneration
  trial : TrialId
  attempt : TrialAttemptId
  worker : WorkerId
  boot : WorkerBootId
  producer : ProducerId
  deriving DecidableEq

/-- A failure of the authority stage. -/
def authorityError (code : ErrorCode) (reason : Text) : Status := ⟨code, .authority, reason⟩

/-- Refusal of a null envelope field. -/
def nullEnvelopeField (field : Text) : Status :=
  authorityError .invalidArgument (text "envelope carries a null " ++ field)

/-- Every field of the envelope must be a non-null identity. -/
def validateEnvelopeStructure (envelope : AuthorityEnvelope) : Result Unit := do
  require envelope.epoch.valid (nullEnvelopeField (text "coordinator epoch"))
  require envelope.experiment.valid (nullEnvelopeField (text "experiment identity"))
  require envelope.generation.valid (nullEnvelopeField (text "experiment generation"))
  require envelope.hypothesis.valid (nullEnvelopeField (text "hypothesis identity"))
  require envelope.hypothesisRevision.valid (nullEnvelopeField (text "hypothesis revision"))
  require envelope.policy.valid (nullEnvelopeField (text "policy identity"))
  require envelope.policyGeneration.valid (nullEnvelopeField (text "policy generation"))
  require envelope.branch.valid (nullEnvelopeField (text "branch identity"))
  require envelope.branchGeneration.valid (nullEnvelopeField (text "branch generation"))
  require envelope.trial.valid (nullEnvelopeField (text "trial identity"))
  require envelope.attempt.valid (nullEnvelopeField (text "attempt identity"))
  require envelope.worker.valid (nullEnvelopeField (text "worker identity"))
  require envelope.boot.valid (nullEnvelopeField (text "worker boot identity"))
  require envelope.producer.valid (nullEnvelopeField (text "producer identity"))

/-- What an accepted envelope designates. -/
structure EnvelopeCheck (R : Type) where
  record : ExperimentRecord R
  branch : BranchDefinition
  trial : TrialRecord
  attempt : AttemptRecord

/-- Reason of a stale coordinator epoch. -/
def describeEpoch (expected actual : CoordinatorEpoch) : Text :=
  text "stale coordinator epoch: envelope=" ++ actual.toText ++ text " current=" ++ expected.toText

/-- The experiment record still accepts authoritative evidence under this envelope. -/
def checkRecord (record : ExperimentRecord R) (envelope : AuthorityEnvelope) : Result Unit := do
  require (record.state ≠ .cancelled) (authorityError .cancelled
    (text "experiment was cancelled: late evidence is never current authority"))
  require (record.state ≠ .superseded)
    (authorityError .staleGeneration (text "experiment has been superseded"))
  require (isExperimentMutable record.state) (authorityError .invalidTransition
    (text "experiment no longer accepts authoritative evidence"))
  require (envelope.generation = record.definition.generation) (authorityError .staleGeneration
    (text "stale experiment generation: envelope=" ++ envelope.generation.toText ++
      text " current=" ++ record.definition.generation.toText))
  require (envelope.hypothesis = record.definition.hypothesis &&
      envelope.hypothesisRevision = record.definition.hypothesisRevision)
    (authorityError .staleHypothesis (text "stale hypothesis revision"))
  require (envelope.policy = record.definition.policy.id &&
      envelope.policyGeneration = record.definition.policy.generation)
    (authorityError .staleGeneration (text "stale comparison policy identity or generation"))

/-- The branch still accepts evidence under this envelope. -/
def checkBranch (branch : BranchDefinition) (envelope : AuthorityEnvelope) : Result Unit := do
  require (branch.generation = envelope.branchGeneration) (authorityError .staleBranch
    (text "stale branch generation: envelope=" ++ envelope.branchGeneration.toText ++
      text " current=" ++ branch.generation.toText))
  require (isBranchEligible branch.state) (authorityError .staleBranch
    (text "branch is not eligible for evidence: " ++ branch.state.toText))

/-- The trial still accepts evidence under this envelope. -/
def checkTrial (trial : TrialRecord) (envelope : AuthorityEnvelope) : Result Unit := do
  require (trial.branch = envelope.branch)
    (authorityError .staleBranch (text "trial does not belong to the presented branch"))
  require (trial.generation = envelope.generation) (authorityError .staleGeneration
    (text "trial was created under a different experiment generation"))
  require (trial.branchGeneration = envelope.branchGeneration) (authorityError .staleBranch
    (text "trial was created under a different branch generation"))
  require (trial.hypothesisRevision = envelope.hypothesisRevision)
    (authorityError .staleHypothesis
      (text "trial was created under a different hypothesis revision"))
  require (trial.policy = envelope.policy && trial.policyGeneration = envelope.policyGeneration)
    (authorityError .staleGeneration
      (text "trial was created under a different comparison policy"))
  require (trial.state ≠ .cancelled) (authorityError .cancelled
    (text "trial was cancelled: late evidence is never current authority"))
  require (!isTerminal trial.state) (authorityError .staleAttempt
    (text "trial is already terminal: " ++ trial.state.toText))
  require (trial.authoritativeAttempt = envelope.attempt) (authorityError .staleAttempt
    (text "attempt is not the authoritative attempt of this trial"))

/-- The attempt still accepts evidence under this envelope. -/
def checkAttempt (attempt : AttemptRecord) (envelope : AuthorityEnvelope) : Result Unit := do
  require (attempt.worker = envelope.worker && attempt.boot = envelope.boot)
    (authorityError .staleWorker (text "attempt was issued to a different worker incarnation"))
  require (attempt.epoch = envelope.epoch)
    (authorityError .staleEpoch (text "attempt was issued under a different coordinator epoch"))
  require (!isAttemptTerminal attempt.state) (authorityError .staleAttempt
    (text "attempt is already terminal: " ++ attempt.state.toText))

namespace Coordinator

/-- The worker incarnation named by the envelope holds live authority. -/
def checkWorker (c : Coordinator R) (envelope : AuthorityEnvelope) : Result Unit := do
  require (envelope.epoch = c.epoch)
    (authorityError .staleEpoch (describeEpoch c.epoch envelope.epoch))
  let live ← demand (c.findLiveWorker envelope.worker envelope.boot)
    (authorityError .staleWorker
      (text "worker boot identity is not registered under the current epoch"))
  require (!live.revoked)
    (authorityError .staleWorker (text "worker incarnation authority has been revoked"))
  require (live.producer = envelope.producer) (authorityError .unauthorized
    (text "producer identity does not match the registered incarnation"))

/-- Validate a complete authority envelope against live coordinator state. -/
def checkEnvelope (c : Coordinator R) (envelope : AuthorityEnvelope) : Result (EnvelopeCheck R) := do
  validateEnvelopeStructure envelope
  require c.admittingWork
    (authorityError .shuttingDown (text "coordinator is no longer admitting authority"))
  c.checkWorker envelope
  let record ← demand (c.findExperiment envelope.experiment)
    (authorityError .notFound (text "experiment does not exist"))
  checkRecord record envelope
  let branch ← demand (record.findBranch envelope.branch) (authorityError .staleBranch
    (text "branch does not exist in the current experiment generation"))
  checkBranch branch envelope
  let trial ← demand (record.trials.find? envelope.trial) (authorityError .staleAttempt
    (text "trial does not exist in the current experiment generation"))
  checkTrial trial envelope
  let attempt ← demand (record.attempts.find? envelope.attempt)
    (authorityError .staleAttempt (text "attempt identity is not recorded"))
  checkAttempt attempt envelope
  return ⟨record, branch, trial, attempt⟩

end Coordinator

/-! ## Losing attempts -/

/-- End the current attempt of a trial: reopen the trial for a retry, or fail it. -/
def TrialRecord.release (trial : TrialRecord) (retry : Bool) (kind : FailureKind) (detail : Text)
    (sequence : Nat) : TrialRecord :=
  let released :=
    if retry then
      { trial with
        state := .ready
        authoritativeAttempt := .null
        nextAttemptNumber := ⟨trial.attemptCount + 1⟩ }
    else { trial with state := .failed }
  { released with failureKind := kind, failureDetail := detail, updatedSequence := sequence }

namespace ExperimentRecord

/-- The retry budget and policy of the experiment allow another attempt. -/
def retryable (record : ExperimentRecord R) (trial : TrialRecord) : Bool :=
  record.definition.retryPolicy ≠ .noRetry &&
    trial.attemptCount < record.definition.maxAttemptsPerTrial

/-- Release a trial that is open and whose authoritative attempt is the given one. -/
def releaseFrom (record : ExperimentRecord R) (attempt : TrialAttemptId) (kind : FailureKind)
    (detail : Text) (sequence : Nat) (trial : TrialRecord) : TrialRecord :=
  if isTerminal trial.state || trial.authoritativeAttempt ≠ attempt then trial
  else trial.release (record.retryable trial) kind detail sequence

/-- Abandon one attempt and release the trial it was authoritative for. -/
def loseAttempt (kind : FailureKind) (attemptDetail trialDetail : Text) (sequence : Nat)
    (record : ExperimentRecord R) (entry : TrialAttemptId × AttemptRecord) :
    ExperimentRecord R :=
  { record with
    attempts := record.attempts.modify entry.1 (·.finish .abandoned kind attemptDetail sequence)
    trials := record.trials.modify entry.2.trial
      (record.releaseFrom entry.2.id kind trialDetail sequence) }

/-- Live attempts held by one worker incarnation. -/
def liveAttemptsOf (record : ExperimentRecord R) (worker : WorkerId) (boot : WorkerBootId) :
    List (TrialAttemptId × AttemptRecord) :=
  record.attempts.entries.filter fun entry =>
    entry.2.worker = worker && entry.2.boot = boot && !isAttemptTerminal entry.2.state

/-- Abandon every live attempt of a worker incarnation, logging when there was one. -/
def loseWorker (worker : WorkerId) (boot : WorkerBootId) (kind : FailureKind)
    (attemptDetail trialDetail : Text) (sequence : Nat) (line : Text)
    (record : ExperimentRecord R) : ExperimentRecord R :=
  let lost := record.liveAttemptsOf worker boot
  let released := lost.foldl (loseAttempt kind attemptDetail trialDetail sequence) record
  if lost.isEmpty then released else released.log line

end ExperimentRecord

/-- Mark the un-revoked records of an incarnation as revoked. -/
def revokeIncarnation (worker : WorkerId) (boot : WorkerBootId) (kind : FailureKind)
    (sequence : Nat) (incarnation : WorkerIncarnation) : WorkerIncarnation :=
  if incarnation.worker = worker && incarnation.boot = boot && !incarnation.revoked then
    { incarnation with revoked := true, revocationKind := kind, revokedSequence := sequence }
  else incarnation

/-! ## Registration and revocation -/

/-- Worker registration request. -/
structure RegisterWorkerRequest where
  claimedEpoch : CoordinatorEpoch := .null
  worker : WorkerId
  boot : WorkerBootId
  producer : ProducerId := .null
  endpoint : Text := []
  maxConcurrentAssignments : Nat := 1
  fingerprint : Text := []

/-- Reply to a registration. -/
structure RegisterWorkerReply where
  epoch : CoordinatorEpoch := .null
  boot : WorkerBootId := .null
  producer : ProducerId := .null
  accepted : Bool := false
  status : Result Unit

namespace Coordinator

/-- Guard of `registerWorker`, before the live worker table is consulted. -/
def registerWorkerGuard (c : Coordinator R) (request : RegisterWorkerRequest) : Result Unit := do
  require c.admittingWork shuttingDown
  require (request.worker.valid && request.boot.valid)
    (authorityError .invalidArgument (text "worker and boot identities must be non-null"))
  require (!request.claimedEpoch.valid || request.claimedEpoch = c.epoch)
    (authorityError .staleEpoch (describeEpoch c.epoch request.claimedEpoch))
  require (request.maxConcurrentAssignments ≠ 0 &&
      request.maxConcurrentAssignments ≤ c.limits.maxConcurrentAssignmentsPerWorker)
    (limitsError (text "worker concurrency request is out of range"))

/-- Revoke one live incarnation that a fresh boot identity replaces. -/
def replaceIncarnation (sequence : Nat) (c : Coordinator R) (live : LiveWorker) : Coordinator R :=
  { c with
    liveWorkers := c.liveWorkers.modify (workerKey live.worker live.boot) fun entry =>
      { entry with revoked := true, revocationKind := .producerLoss }
    state :=
      { c.state with
        workers :=
          c.state.workers.map (revokeIncarnation live.worker live.boot .producerLoss sequence)
        experiments := c.state.experiments.mapValues
          (ExperimentRecord.loseWorker live.worker live.boot .producerLoss
            (text "worker process incarnation replaced by a fresh boot identity")
            (text "producer lost; assignment transitioned conservatively") sequence
            (text "worker-incarnation-replaced worker=" ++ live.worker.toText)) } }

/-- Live incarnations of the worker under another boot identity. -/
def replacedBy (c : Coordinator R) (worker : WorkerId) (boot : WorkerBootId) : List LiveWorker :=
  c.liveWorkers.values.filter fun live =>
    live.worker = worker && live.boot ≠ boot && !live.revoked

/-- Guard of `registerWorker`, after earlier incarnations were replaced. -/
def registerFreshGuard (c : Coordinator R) (request : RegisterWorkerRequest) : Result Unit :=
  (forEach (fun (incarnation : WorkerIncarnation) =>
    if incarnation.worker = request.worker && incarnation.boot = request.boot then
      sequence [
        require (!incarnation.revoked)
          (authorityError .staleWorker (text "worker incarnation was previously revoked")),
        require (incarnation.epoch = c.epoch)
          (authorityError .staleEpoch
            (text "worker boot identity belongs to a previous coordinator epoch"))]
    else .ok ()) c.state.workers).and
  (require (c.state.workers.length < c.limits.maxRegisteredWorkers)
    (limitsError (text "too many registered worker incarnations")))

/-- Add the live registration and its durable record. -/
def addWorker (c : Coordinator R) (request : RegisterWorkerRequest) : Coordinator R :=
  let c := c.nextSequence
  let producer : ProducerId := ⟨c.state.nextWorkerRegistrationSequence + 1⟩
  { c with
    liveWorkers := c.liveWorkers.emplace (workerKey request.worker request.boot)
      { worker := request.worker
        boot := request.boot
        producer := producer
        endpoint := request.endpoint
        fingerprint := request.fingerprint
        maxConcurrentAssignments := request.maxConcurrentAssignments
        registeredSequence := c.currentSequence }
    state :=
      { c.state with
        nextWorkerRegistrationSequence := producer.value
        workers := c.state.workers ++
          [{ worker := request.worker
             boot := request.boot
             epoch := c.epoch
             producer := producer
             endpoint := request.endpoint
             fingerprint := request.fingerprint
             registeredSequence := c.currentSequence }] } }

/-- Register a worker incarnation. -/
def registerWorker (c : Coordinator R) (request : RegisterWorkerRequest)
    (fault : Option SaveFault) : Coordinator R × RegisterWorkerReply :=
  match c.registerWorkerGuard request with
  | .error failure => (c, { status := .error failure })
  | .ok () =>
      match c.findLiveWorker request.worker request.boot with
      | some live =>
          if live.revoked then
            (c, { status := .error (authorityError .staleWorker
              (text "worker incarnation was revoked")) })
          else
            (c, { epoch := c.epoch, boot := request.boot, producer := live.producer,
                  accepted := true, status := .ok () })
      | none =>
          let c := c.nextSequence
          let c := (c.replacedBy request.worker request.boot).foldl
            (replaceIncarnation c.currentSequence) c
          match c.registerFreshGuard request with
          | .error failure => (c, { status := .error failure })
          | .ok () =>
              let producer : ProducerId := ⟨c.state.nextWorkerRegistrationSequence + 1⟩
              match (c.addWorker request).settle fault id () with
              | (c, .error failure) => (c, { status := .error failure })
              | (c, .ok ()) =>
                  (c, { epoch := c.epoch, boot := request.boot, producer := producer,
                        accepted := true, status := .ok () })

/-- Revoke the authority of a worker incarnation. -/
def revokeWorker (c : Coordinator R) (worker : WorkerId) (boot : WorkerBootId)
    (kind : FailureKind) (reason : Text) (fault : Option SaveFault) :
    Coordinator R × Result Unit :=
  match c.findLiveWorker worker boot with
  | none => (c, .error (authorityError .staleWorker
      (text "worker incarnation is not registered")))
  | some _ =>
      let c := c.nextSequence
      let revoked : Coordinator R :=
        { c with
          liveWorkers := c.liveWorkers.modify (workerKey worker boot) fun entry =>
            { entry with revoked := true, revocationKind := kind }
          state :=
            { c.state with
              experiments := c.state.experiments.mapValues
                (ExperimentRecord.loseWorker worker boot kind reason reason c.currentSequence
                  (text "worker-revoked worker=" ++ worker.toText ++ text " reason=" ++ reason))
              workers :=
                c.state.workers.map (revokeIncarnation worker boot kind c.currentSequence) } }
      revoked.settle fault id ()

/-- Heartbeat of a live worker. -/
structure HeartbeatRequest where
  epoch : CoordinatorEpoch
  worker : WorkerId
  boot : WorkerBootId
  activeAssignments : Nat := 0

/-- The live worker a request of the current epoch comes from. -/
def liveRequester (c : Coordinator R) (epoch : CoordinatorEpoch) (worker : WorkerId)
    (boot : WorkerBootId) : Result LiveWorker := do
  require c.admittingWork shuttingDown
  require (epoch = c.epoch) (authorityError .staleEpoch (describeEpoch c.epoch epoch))
  let live ← demand (c.findLiveWorker worker boot) (authorityError .staleWorker
    (text "worker incarnation is not live under the current epoch"))
  require (!live.revoked) (authorityError .staleWorker
    (text "worker incarnation is not live under the current epoch"))
  return live

/-- Record the load a worker reports. -/
def heartbeat (c : Coordinator R) (request : HeartbeatRequest) : Coordinator R × Result Unit :=
  match c.liveRequester request.epoch request.worker request.boot with
  | .error failure => (c, .error failure)
  | .ok _ =>
      ({ c with
          liveWorkers := c.liveWorkers.modify (workerKey request.worker request.boot) fun entry =>
            { entry with activeAssignments := request.activeAssignments } }, .ok ())

end Coordinator

/-! ## Claims -/

/-- Claim request of a worker. -/
structure ClaimTrialRequest where
  epoch : CoordinatorEpoch
  worker : WorkerId
  boot : WorkerBootId
  maxClaims : Nat := 1

/-- One metric reservation inside an assignment. -/
structure AssignedMetric where
  metric : MetricId
  observationId : ObservationId
  name : Text
  kind : MetricKind
  direction : MetricDirection
  required : Bool

/-- One issued assignment, including its complete authority envelope. -/
structure TrialAssignment where
  envelope : AuthorityEnvelope
  attemptNumber : TrialAttemptNumber
  trialPayload : Text
  parameters : List ParameterAssignment
  metrics : List AssignedMetric
  artifactIds : List ArtifactId
  plannedObservations : Nat

/-- Reply to a claim. -/
structure ClaimTrialReply where
  status : Result Unit
  assignments : List TrialAssignment := []

namespace ExperimentRecord

/-- The branch under which a trial may be issued, when every eligibility test passes. -/
def claimable (record : ExperimentRecord R) (limits : Limits) (trial : TrialRecord) :
    Option BranchDefinition :=
  if trial.state ≠ .ready || trial.generation ≠ record.definition.generation ||
      trial.hypothesisRevision ≠ record.definition.hypothesisRevision then none
  else if trial.attemptCount ≥ record.definition.maxAttemptsPerTrial then none
  else if record.definition.retryPolicy = .noRetry && trial.attemptCount > 0 then none
  else match record.findBranch trial.branch with
    | none => none
    | some branch =>
        if !isBranchEligible branch.state || branch.generation ≠ trial.branchGeneration then none
        else if record.attempts.size ≥
            record.trials.size * limits.maxAttemptsPerTrial + 16 then none
        else some branch

/-- The attempt issued for a trial. -/
def newAttempt (record : ExperimentRecord R) (trial : TrialRecord) (id : TrialAttemptId)
    (worker : WorkerId) (boot : WorkerBootId) (epoch : CoordinatorEpoch) (producer : ProducerId)
    (sequence : Nat) : AttemptRecord where
  id := id
  number :=
    if trial.nextAttemptNumber.valid then trial.nextAttemptNumber else ⟨trial.attemptCount + 1⟩
  trial := trial.id
  experiment := record.definition.id
  generation := record.definition.generation
  branch := trial.branch
  branchGeneration := trial.branchGeneration
  worker := worker
  boot := boot
  epoch := epoch
  producer := producer
  state := .issued
  issuedSequence := sequence
  updatedSequence := sequence

/-- Issue an attempt for the trial stored under `key`. -/
def issue (record : ExperimentRecord R) (key : TrialId) (attempt : AttemptRecord)
    (sequence : Nat) : ExperimentRecord R :=
  { record with
    attempts := record.attempts.emplace attempt.id attempt
    trials := record.trials.modify key fun trial =>
      { trial with
        attemptCount := trial.attemptCount + 1
        nextAttemptNumber := ⟨attempt.number.value + 1⟩
        authoritativeAttempt := attempt.id
        state := .assigned
        updatedSequence := sequence } }

/-- An attempt of the record after an issue was there before it or is the one issued. -/
theorem find?_issue {record : ExperimentRecord R} {key : TrialId} {issued attempt : AttemptRecord}
    {sequence : Nat} {id : TrialAttemptId}
    (found : (record.issue key issued sequence).attempts.find? id = some attempt) :
    record.attempts.find? id = some attempt ∨ id = issued.id ∧ attempt = issued :=
  OrderedMap.find?_emplace_cases found

/-- A trial of the record after an issue is the one it was issued for or was there before. -/
theorem find?_issue_trial {record : ExperimentRecord R} {key other : TrialId}
    {issued : AttemptRecord} {sequence : Nat} {trial' : TrialRecord}
    (found : (record.issue key issued sequence).trials.find? other = some trial') :
    (other = key ∧ ∃ trial, record.trials.find? key = some trial ∧ trial' = { trial with
      attemptCount := trial.attemptCount + 1
      nextAttemptNumber := ⟨issued.number.value + 1⟩
      authoritativeAttempt := issued.id
      state := .assigned
      updatedSequence := sequence }) ∨
      other ≠ key ∧ record.trials.find? other = some trial' :=
  OrderedMap.find?_modify_cases found

/-- The envelope issued with an attempt. -/
def envelopeOf (record : ExperimentRecord R) (attempt : AttemptRecord) : AuthorityEnvelope where
  epoch := attempt.epoch
  experiment := record.definition.id
  generation := record.definition.generation
  hypothesis := record.definition.hypothesis
  hypothesisRevision := record.definition.hypothesisRevision
  policy := record.definition.policy.id
  policyGeneration := record.definition.policy.generation
  branch := attempt.branch
  branchGeneration := attempt.branchGeneration
  trial := attempt.trial
  attempt := attempt.id
  worker := attempt.worker
  boot := attempt.boot
  producer := attempt.producer

/-- Artifact identities reserved with an assignment, in the unsigned arithmetic of the runtime. -/
def artifactBudget (record : ExperimentRecord R) (limits : Limits) : Nat :=
  min limits.maxArtifactsPerAttempt
    ((limits.maxArtifactsPerExperiment + 2 ^ 64 - record.artifacts.length) % 2 ^ 64 % 2 ^ 32)

/-- Observation identities reserved for the metrics of an assignment, above a watermark. -/
def reserveMetrics (record : ExperimentRecord R) (watermark : Nat) : List AssignedMetric :=
  record.definition.metrics.zipIdx.map fun (metric, index) =>
    { metric := metric.id
      observationId := ⟨watermark + 1 + index⟩
      name := metric.name
      kind := metric.kind
      direction := metric.direction
      required := metric.required }

end ExperimentRecord

/-- Progress of a claim: the coordinator, the budget left and the assignments issued. -/
structure ClaimProgress (R : Type) where
  coordinator : Coordinator R
  budget : Nat
  assignments : List TrialAssignment := []

namespace Coordinator

/-- Issue the trial stored under `key`, when the budget and the trial allow it. -/
def claimTrial (request : ClaimTrialRequest) (producer : ProducerId) (experiment : ExperimentId)
    (progress : ClaimProgress R) (key : TrialId) : ClaimProgress R :=
  if progress.budget = 0 then progress
  else match progress.coordinator.findExperiment experiment with
    | none => progress
    | some record =>
        match record.trials.find? key with
        | none => progress
        | some trial =>
            match record.claimable progress.coordinator.limits trial with
            | none => progress
            | some branch =>
                let c := progress.coordinator.nextSequence
                let sequence := c.currentSequence
                let c := c.allocAttemptId
                let attempt := record.newAttempt trial ⟨c.state.watermarks.attempt⟩ request.worker
                  request.boot c.epoch producer sequence
                let metrics := record.reserveMetrics c.state.watermarks.observation
                let c := c.allocObservationIds record.definition.metrics.length
                let artifacts := (List.range (record.artifactBudget c.limits)).map fun index =>
                  (⟨c.state.watermarks.artifact + 1 + index⟩ : ArtifactId)
                let c := c.allocArtifactIds artifacts.length
                { coordinator := c.withRecord experiment (record.issue key attempt sequence)
                  budget := progress.budget - 1
                  assignments := progress.assignments ++
                    [{ envelope := record.envelopeOf attempt
                       attemptNumber := attempt.number
                       trialPayload := trial.payload
                       parameters := branch.parameters
                       metrics := metrics
                       artifactIds := artifacts
                       plannedObservations := metrics.length }] }

/-- Issue the eligible trials of one experiment, in trial order. -/
def claimExperiment (request : ClaimTrialRequest) (producer : ProducerId)
    (progress : ClaimProgress R) (experiment : ExperimentId) : ClaimProgress R :=
  if progress.budget = 0 then progress
  else match progress.coordinator.findExperiment experiment with
    | none => progress
    | some record =>
        if !isExperimentMutable record.state then progress
        else record.trials.keys.foldl (claimTrial request producer experiment) progress

/-- Live attempts of a worker incarnation over all experiments. -/
def activeAttempts (c : Coordinator R) (worker : WorkerId) (boot : WorkerBootId) : Nat :=
  (c.state.experiments.values.map fun record => (record.liveAttemptsOf worker boot).length).sum

/-- Guard of `claimTrials`. -/
def claimTrialsGuard (c : Coordinator R) (request : ClaimTrialRequest) : Result LiveWorker := do
  let live ← c.liveRequester request.epoch request.worker request.boot
  require (request.maxClaims ≠ 0 && request.maxClaims ≤ c.limits.maxBatchItems)
    (limitsError (text "claim batch size is out of range"))
  return live

/-- Run the claim loop over all experiments. -/
def claimLoop (c : Coordinator R) (request : ClaimTrialRequest) (live : LiveWorker) :
    ClaimProgress R :=
  c.state.experiments.keys.foldl (claimExperiment request live.producer)
    { coordinator := c
      budget := min request.maxClaims
        (live.maxConcurrentAssignments - c.activeAttempts request.worker request.boot) }

/-- Record the load of the claiming worker. -/
def countAssignments (c : Coordinator R) (request : ClaimTrialRequest) (active issued : Nat) :
    Coordinator R :=
  { c with
    liveWorkers := c.liveWorkers.modify (workerKey request.worker request.boot) fun entry =>
      { entry with
        activeAssignments := active + issued
        totalAssignments := entry.totalAssignments + issued } }

/-- Issue eligible trials to a worker, up to its batch size and its free capacity. -/
def claimTrials (c : Coordinator R) (request : ClaimTrialRequest) (fault : Option SaveFault) :
    Coordinator R × ClaimTrialReply :=
  match c.claimTrialsGuard request with
  | .error failure => (c, { status := .error failure })
  | .ok live =>
      let progress := c.claimLoop request live
      let claimed := progress.coordinator.countAssignments request
        (c.activeAttempts request.worker request.boot) progress.assignments.length
      if progress.assignments.isEmpty then (claimed, { status := .ok () })
      else match claimed.settle fault id () with
        | (c, status) => (c, { status := status, assignments := progress.assignments })

end Coordinator

end ExperimentFabric
