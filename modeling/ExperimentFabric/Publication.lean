import ExperimentFabric.Authority

/-!
# Evidence publication and trial completion

Observations, artifacts, commits, failures and cancellations.  Evidence whose envelope is refused
is recorded in the rejection log and, under `retainHistorical`, retained as an invalid observation.
-/

namespace ExperimentFabric

open Lib

variable {R : Type}

/-! ## Requests -/

/-- Publication of one observation. -/
structure PublishObservationRequest (R : Type) where
  epoch : CoordinatorEpoch
  worker : WorkerId
  boot : WorkerBootId
  observation : Observation R

/-- Publication of one artifact. -/
structure PublishArtifactRequest where
  epoch : CoordinatorEpoch
  worker : WorkerId
  boot : WorkerBootId
  artifact : ArtifactRecord

/-- Authoritative completion of a trial. -/
structure CommitTrialRequest where
  epoch : CoordinatorEpoch
  worker : WorkerId
  boot : WorkerBootId
  envelope : AuthorityEnvelope
  artifacts : List ArtifactRecord := []
  resultPayload : Text := []

/-- Failure of a trial attempt. -/
structure FailTrialRequest where
  epoch : CoordinatorEpoch
  worker : WorkerId
  boot : WorkerBootId
  envelope : AuthorityEnvelope
  kind : FailureKind := .executionFailure
  detail : Text := []
  retryable : Bool := false

/-- A failure of the observation stage. -/
def observationError (reason : Text) : Status := ⟨.invalidObservation, .observation, reason⟩

/-- A failure of the wire protocol. -/
def protocolError (reason : Text) : Status := ⟨.protocolError, .transport, reason⟩

/-! ## Comparing evidence -/

/-- Equality of metric values, with the real equality of the platform. -/
def sameMetricValue [MetricReal R] (left right : MetricValue R) : Bool :=
  left.kind = right.kind && MetricReal.eq left.real right.real && left.integer = right.integer &&
    left.boolean = right.boolean && left.category = right.category

/-- Equality of the content of two observations. -/
def sameObservation [MetricReal R] (left right : Observation R) : Bool :=
  left.id = right.id && left.experiment = right.experiment && left.generation = right.generation &&
    left.branch = right.branch && left.branchGeneration = right.branchGeneration &&
    left.trial = right.trial && left.attempt = right.attempt && left.metric = right.metric &&
    left.producer = right.producer && left.validity = right.validity &&
    sameMetricValue left.value right.value && left.detail = right.detail

/-- Equality of the content of two artifacts. -/
def sameArtifact (left right : ArtifactRecord) : Bool :=
  left.id = right.id && left.experiment = right.experiment && left.generation = right.generation &&
    left.branch = right.branch && left.trial = right.trial && left.attempt = right.attempt &&
    left.category = right.category && left.locator = right.locator &&
    left.contentDigest = right.contentDigest && left.digestPresent = right.digestPresent &&
    left.sizePresent = right.sizePresent && left.sizeBytes = right.sizeBytes &&
    left.provenance = right.provenance

/-! ## Progress of trials and attempts -/

/-- The trial has received an observation. -/
def TrialRecord.observing (trial : TrialRecord) (sequence : Nat) : TrialRecord :=
  { trial with state := .observing, updatedSequence := sequence }

/-- The attempt has published. -/
def AttemptRecord.started (attempt : AttemptRecord) (sequence : Nat) : AttemptRecord :=
  { attempt with state := .running, updatedSequence := sequence }

/-- Add an artifact to the trial. -/
def TrialRecord.hold (trial : TrialRecord) (artifact : ArtifactId) : TrialRecord :=
  { trial with artifacts := trial.artifacts ++ [artifact] }

/-- Record the sequence at which the trial was last touched. -/
def TrialRecord.touch (trial : TrialRecord) (sequence : Nat) : TrialRecord :=
  { trial with updatedSequence := sequence }

/-- The trial is completed. -/
def TrialRecord.commit (trial : TrialRecord) (sequence : Nat) : TrialRecord :=
  { trial with
    state := .completed
    committedAttempts := 1
    failureKind := .none
    failureDetail := []
    updatedSequence := sequence }

/-- The attempt is committed. -/
def AttemptRecord.commit (attempt : AttemptRecord) (sequence : Nat) : AttemptRecord :=
  { attempt with state := .completed, committed := true, updatedSequence := sequence }

/-! ## Envelopes of publications -/

/-- The envelope presented by an observation publication. -/
def observationEnvelope (request : PublishObservationRequest R) (record : ExperimentRecord R) :
    AuthorityEnvelope where
  epoch := request.epoch
  worker := request.worker
  boot := request.boot
  experiment := request.observation.experiment
  generation := request.observation.generation
  hypothesis := record.definition.hypothesis
  hypothesisRevision := record.definition.hypothesisRevision
  policy := record.definition.policy.id
  policyGeneration := record.definition.policy.generation
  branch := request.observation.branch
  branchGeneration := request.observation.branchGeneration
  trial := request.observation.trial
  attempt := request.observation.attempt
  producer := request.observation.producer

/-- The envelope presented by an artifact publication: the branch generation and the producer are
those the record holds for the named branch and attempt. -/
def artifactEnvelope (request : PublishArtifactRequest) (record : ExperimentRecord R) :
    Result AuthorityEnvelope := do
  let branch ← demand (record.findBranch request.artifact.branch)
    (authorityError .staleBranch (text "artifact references an unknown branch"))
  let attempt ← demand (record.attempts.find? request.artifact.attempt)
    (authorityError .staleAttempt (text "artifact references an unknown attempt"))
  return {
    epoch := request.epoch
    worker := request.worker
    boot := request.boot
    experiment := request.artifact.experiment
    generation := request.artifact.generation
    hypothesis := record.definition.hypothesis
    hypothesisRevision := record.definition.hypothesisRevision
    policy := record.definition.policy.id
    policyGeneration := record.definition.policy.generation
    branch := request.artifact.branch
    branchGeneration := branch.generation
    trial := request.artifact.trial
    attempt := request.artifact.attempt
    producer := attempt.producer }

namespace ExperimentRecord

/-- Record a refusal, while the rejection log has room. -/
def reject (record : ExperimentRecord R) (kind : Text) (identifier : Nat) (verdict : Status) :
    ExperimentRecord R :=
  if record.rejectedEvidence.length < 65536 then
    { record with
      rejectedEvidence := record.rejectedEvidence ++
        [{ kind := kind, identifier := identifier, reason := verdict.code,
           detail := verdict.reason }] }
  else record

/-- A refused observation of this experiment is retained as history. -/
def retains (record : ExperimentRecord R) (limits : Limits) : Bool :=
  record.definition.lateEvidencePolicy = .retainHistorical &&
    record.observations.length < limits.maxObservationsPerExperiment

/-- Append an observation. -/
def pushObservation (record : ExperimentRecord R) (observation : Observation R) :
    ExperimentRecord R :=
  { record with observations := record.observations ++ [observation] }

/-- Move the observed trial and its attempt forward; `sequence` is the last sequence used. -/
def observe (record : ExperimentRecord R) (trial : TrialRecord) (attempt : AttemptRecord)
    (trialKey : TrialId) (attemptKey : TrialAttemptId) (sequence : Nat) :
    ExperimentRecord R × Nat :=
  let advanced : Bool := trial.state = .assigned || trial.state = .running
  let observed : ExperimentRecord R × Nat :=
    if advanced && trial.state.isValidTransition .observing then
      ({ record with trials := record.trials.modify trialKey (·.observing (sequence + 1)) },
        sequence + 1)
    else (record, sequence)
  if attempt.state = .issued then
    ({ observed.1 with
        attempts := observed.1.attempts.modify attemptKey (·.started (observed.2 + 1)) },
      observed.2 + 1)
  else observed

/-- Append an artifact to the record and to its trial. -/
def pushArtifact (record : ExperimentRecord R) (trialKey : TrialId) (artifact : ArtifactRecord) :
    ExperimentRecord R :=
  { record with
    artifacts := record.artifacts ++ [artifact]
    trials := record.trials.modify trialKey (·.hold artifact.id) }

/-- Record the sequence at which a trial was last touched. -/
def touch (record : ExperimentRecord R) (trial : TrialId) (sequence : Nat) :
    ExperimentRecord R :=
  { record with trials := record.trials.modify trial (·.touch sequence) }

/-- Drop the last artifact of the record and of its trial. -/
def dropArtifact (record : ExperimentRecord R) (trialKey : TrialId) : ExperimentRecord R :=
  { record with
    artifacts := record.artifacts.dropLast
    trials := record.trials.modify trialKey fun trial =>
      { trial with artifacts := trial.artifacts.dropLast } }

/-- Complete an attempt and its trial. -/
def complete (record : ExperimentRecord R) (trialKey : TrialId) (attemptKey : TrialAttemptId)
    (sequence : Nat) : ExperimentRecord R :=
  ({ record with
      attempts := record.attempts.modify attemptKey (·.commit sequence)
      trials := record.trials.modify trialKey (·.commit sequence) } : ExperimentRecord R).log
    (text "trial-committed trial=" ++ trialKey.toText ++ text " attempt=" ++ attemptKey.toText)

/-- Invalidate the branch of a failed trial, when the policy asks for it. -/
def invalidateBranch (record : ExperimentRecord R) (branch : BranchId) (detail : Text) :
    ExperimentRecord R :=
  if record.definition.partialFailurePolicy = .invalidateBranch then
    match record.findBranch branch with
    | none => record
    | some current =>
        if current.state.isValidTransition .invalid then
          ({ record with
              definition :=
                { record.definition with
                  branches := updateBranch branch (fun found => { found with state := .invalid })
                    record.definition.branches } } : ExperimentRecord R).log
            (text "branch-invalidated branch=" ++ branch.toText ++ text " reason=" ++ detail)
        else record
  else record

/-- Fail an attempt; the trial is retried when the request and the budget allow it. -/
def fail (record : ExperimentRecord R) (trial : TrialRecord) (trialKey : TrialId)
    (attemptKey : TrialAttemptId) (kind : FailureKind) (detail : Text) (retry : Bool)
    (sequence : Nat) : ExperimentRecord R :=
  let failed : ExperimentRecord R :=
    { record with
      attempts := record.attempts.modify attemptKey (·.finish .failed kind detail sequence)
      trials := record.trials.modify trialKey fun current =>
        current.release (retry && record.retryable current) kind detail sequence }
  (failed.invalidateBranch trial.branch detail).log
    (text "trial-failed trial=" ++ trialKey.toText ++ text " kind=" ++ kind.toText)

/-- Cancel one trial and its live attempts. -/
def cancelTrial (record : ExperimentRecord R) (trial : TrialId) (reason : Text) (sequence : Nat) :
    ExperimentRecord R :=
  ({ record with
      trials := record.trials.modify trial (·.finish .cancelled .cancellation reason sequence)
      attempts := closeAttempts (·.trial = trial) .cancelled .cancellation reason sequence
        record.attempts
      revisionSequence := sequence } : ExperimentRecord R).log
    (text "trial-cancelled trial=" ++ trial.toText ++ text " reason=" ++ reason)

/-- Cancel the experiment, its open trials and its live attempts. -/
def cancel (record : ExperimentRecord R) (reason : Text) (sequence : Nat) : ExperimentRecord R :=
  ({ record with
      state := .cancelled
      trials := closeTrials (fun _ => true) .cancelled .cancellation reason sequence record.trials
      attempts := closeAttempts (fun _ => true) .cancelled .cancellation reason sequence
        record.attempts
      revisionSequence := sequence } : ExperimentRecord R).log
    (text "experiment-cancelled reason=" ++ reason)

end ExperimentRecord

namespace Coordinator

/-! ## Observations -/

/-- Set the sequence counter, after several numbers were drawn. -/
@[simp]
def atSequence (c : Coordinator R) (sequence : Nat) : Coordinator R :=
  { c with state := { c.state with lastSequence := sequence } }

/-- Store an observation and its position. -/
def storeObservation (c : Coordinator R) (experiment : ExperimentId) (record : ExperimentRecord R)
    (observation : Observation R) : Coordinator R :=
  (c.withRecord experiment (record.pushObservation observation)).indexObservations
    record.definition.id
    ((c.observationsOf record.definition.id).assign observation.id record.observations.length)

/-- The refused observation as it is retained. -/
def historical (observation : Observation R) (verdict : Status) (sequence : Nat) : Observation R :=
  { observation with
    validity := .invalid
    detail := text "rejected as non-authoritative: " ++ verdict.reason
    sequence := sequence }

/-- Record a refused observation. -/
def rejectObservation (c : Coordinator R) (record : ExperimentRecord R)
    (observation : Observation R) (verdict : Status) : Coordinator R :=
  let rejected := record.reject (text "observation") observation.id.value verdict
  if record.retains c.limits then
    let c := c.nextSequence
    c.storeObservation observation.experiment rejected
      (historical observation verdict c.currentSequence)
  else c.withRecord observation.experiment rejected

variable [MetricReal R]

/-- The value of a valid observation is admissible for its metric. -/
def checkValue (metric : MetricDefinition R) (value : MetricValue R) : Result Unit := do
  require (value.kind = metric.kind) (observationError
    (text "observation value kind does not match the metric definition"))
  if !isFiniteValue value then
    require metric.acceptsNonFinite (observationError
      (text "non-finite observation rejected: the metric does not accept NaN or infinity"))
  else match value.kind with
    | .real =>
        require (metric.lowerBound.all fun bound => !MetricReal.lt value.real bound)
          (observationError (text "observation is below the configured validity bound"))
        require (metric.upperBound.all fun bound => !MetricReal.lt bound value.real)
          (observationError (text "observation is above the configured validity bound"))
    | .integer =>
        require (metric.lowerBound.all fun bound =>
            !MetricReal.lt (MetricReal.ofInt value.integer) bound)
          (observationError (text "observation is below the configured validity bound"))
        require (metric.upperBound.all fun bound =>
            !MetricReal.lt bound (MetricReal.ofInt value.integer))
          (observationError (text "observation is above the configured validity bound"))
    | .categorical =>
        require (metric.categories.isEmpty || value.category ∈ metric.categories)
          (observationError
            (text "categorical observation is not one of the declared categories"))
    | .boolean => .ok ()

/-- Another valid observation of the same metric by the same attempt. -/
def sameAttemptCell (left right : Observation R) : Bool :=
  right.trial = left.trial && right.metric = left.metric && right.attempt = left.attempt &&
    right.validity = .valid

/-- Admission of an observation whose envelope was accepted; `none` answers a duplicate. -/
def admitObservation (c : Coordinator R) (record : ExperimentRecord R)
    (observation : Observation R) : Result (Option (Observation R)) := do
  let metric ← demand (record.findMetric observation.metric) (observationError
    (text "observation references a metric that is not defined by this experiment"))
  match (c.observationsOf record.definition.id).find? observation.id with
  | some position =>
      require ((record.observations[position]?).any (sameObservation · observation))
        ⟨.alreadyExists, .identity,
          text "observation identity already exists with different content"⟩
      return none
  | none =>
      require (record.observations.length < c.limits.maxObservationsPerExperiment)
        (limitsError (text "experiment holds too many observations"))
      require (record.observations.length <
          c.limits.maxObservationsPerTrial * max 1 record.trials.size)
        (limitsError (text "observation budget for this experiment is exhausted"))
      if observation.validity = .valid then
        checkValue metric observation.value
        require (!record.observations.any (sameAttemptCell observation))
          ⟨.alreadyExists, .observation,
            text "a valid observation for this metric already exists on this attempt"⟩
      return some observation

/-- Drop the last observation, after a publication that could not be saved. -/
def undoObservation (experiment : ExperimentId) (id : ObservationId) (record : ExperimentRecord R)
    (c : Coordinator R) : Coordinator R :=
  (c.withRecord experiment { record with observations := record.observations.dropLast }
    ).indexObservations record.definition.id ((c.observationsOf record.definition.id).erase id)

/-- Publish an observation. -/
def publishObservation (c : Coordinator R) (request : PublishObservationRequest R)
    (fault : Option SaveFault) : Coordinator R × Result Unit :=
  let observation := request.observation
  match c.findExperiment observation.experiment with
  | none => (c, .error (authorityError .notFound (text "experiment does not exist")))
  | some probe =>
      match c.checkEnvelope (observationEnvelope request probe) with
      | .error verdict =>
          match (c.rejectObservation probe observation verdict).settle fault id () with
          | (c, .error failure) => (c, .error failure)
          | (c, .ok ()) => (c, .error (authorityError verdict.code verdict.reason))
      | .ok check =>
          match c.admitObservation check.record observation with
          | .error failure => (c, .error failure)
          | .ok none => (c, .ok ())
          | .ok (some admitted) =>
              let c := c.nextSequence
              let observed := (check.record.pushObservation
                { admitted with sequence := c.currentSequence }).observe check.trial check.attempt
                  observation.trial observation.attempt c.currentSequence
              let stored := ((c.atSequence observed.2).withRecord observation.experiment
                observed.1).indexObservations check.record.definition.id
                  ((c.observationsOf check.record.definition.id).assign observation.id
                    check.record.observations.length)
              stored.settle fault (undoObservation observation.experiment observation.id
                observed.1) ()

/-! ## Artifacts -/

/-- Admission of an artifact whose envelope was accepted; `false` answers a duplicate. -/
def admitArtifact (c : Coordinator R) (record : ExperimentRecord R) (trial : TrialRecord)
    (artifact : ArtifactRecord) : Result Bool := do
  require (record.artifacts.length < c.limits.maxArtifactsPerExperiment)
    (limitsError (text "experiment holds too many artifact references"))
  require (trial.artifacts.length < c.limits.maxArtifactsPerAttempt)
    (limitsError (text "attempt holds too many artifact references"))
  require (artifact.locator ≠ [] && artifact.locator.length ≤ c.limits.maxLocatorLength)
    ⟨.invalidArgument, .observation, text "artifact locator is empty or too long"⟩
  require (artifact.provenance.length ≤ c.limits.maxProvenanceLength)
    ⟨.invalidArgument, .observation, text "artifact provenance text is too long"⟩
  match (c.artifactsOf record.definition.id).find? artifact.id with
  | some position =>
      require ((record.artifacts[position]?).any (sameArtifact · artifact))
        ⟨.alreadyExists, .identity,
          text "artifact identity already exists with different content"⟩
      return false
  | none => return true

/-- Store an artifact, its position and its reference from the trial. -/
def storeArtifact (c : Coordinator R) (experiment : ExperimentId) (record : ExperimentRecord R)
    (trialKey : TrialId) (artifact : ArtifactRecord) : Coordinator R :=
  (c.withRecord experiment (record.pushArtifact trialKey artifact)).indexArtifacts
    record.definition.id
    ((c.artifactsOf record.definition.id).assign artifact.id record.artifacts.length)

/-- Drop the last artifact, after a publication that could not be saved. -/
def undoArtifact (experiment : ExperimentId) (trialKey : TrialId) (id : ArtifactId)
    (record : ExperimentRecord R) (c : Coordinator R) : Coordinator R :=
  (c.withRecord experiment (record.dropArtifact trialKey)).indexArtifacts record.definition.id
    ((c.artifactsOf record.definition.id).erase id)

/-- Publish an artifact. -/
def publishArtifact (c : Coordinator R) (request : PublishArtifactRequest)
    (fault : Option SaveFault) : Coordinator R × Result Unit :=
  let artifact := request.artifact
  match c.findExperiment artifact.experiment with
  | none => (c, .error (authorityError .notFound (text "experiment does not exist")))
  | some probe =>
      match artifactEnvelope request probe with
      | .error failure => (c, .error failure)
      | .ok envelope =>
          match c.checkEnvelope envelope with
          | .error verdict =>
              let rejected := probe.reject (text "artifact") artifact.id.value verdict
              match (c.withRecord artifact.experiment rejected).settle fault id () with
              | (c, .error failure) => (c, .error failure)
              | (c, .ok ()) => (c, .error (authorityError verdict.code verdict.reason))
          | .ok check =>
              match c.admitArtifact check.record check.trial artifact with
              | .error failure => (c, .error failure)
              | .ok false => (c, .ok ())
              | .ok true =>
                  let c := c.nextSequence
                  let record := check.record.pushArtifact artifact.trial
                    { artifact with sequence := c.currentSequence, current := true }
                  let c := c.nextSequence
                  let touched := record.touch artifact.trial c.currentSequence
                  let stored := (c.withRecord artifact.experiment touched).indexArtifacts
                    record.definition.id
                    ((c.artifactsOf record.definition.id).assign artifact.id
                      check.record.artifacts.length)
                  stored.settle fault
                    (undoArtifact artifact.experiment artifact.trial artifact.id touched) ()

/-! ## Commit and failure -/

/-- The transport identity matches the presented envelope. -/
def transportMatches (epoch : CoordinatorEpoch) (worker : WorkerId) (boot : WorkerBootId)
    (envelope : AuthorityEnvelope) : Bool :=
  epoch = envelope.epoch && worker = envelope.worker && boot = envelope.boot

/-- Observations an attempt holds, of any validity. -/
def observationsHeld (record : ExperimentRecord R) (trial : TrialId) (attempt : TrialAttemptId) :
    Nat :=
  record.observations.countP fun observation =>
    observation.trial = trial && observation.attempt = attempt

/-- A submitted artifact under the identities of the committing attempt. -/
def submittedArtifact (record : ExperimentRecord R) (trial : TrialRecord)
    (attempt : TrialAttemptId) (submitted : ArtifactRecord) (sequence : Nat) : ArtifactRecord :=
  { submitted with
    experiment := record.definition.id
    generation := record.definition.generation
    branch := trial.branch
    trial := trial.id
    attempt := attempt
    sequence := sequence
    current := true }

/-- Register the artifacts submitted with a commit, in order.  A refused artifact ends the commit
and leaves the ones before it registered. -/
def registerArtifacts (envelope : AuthorityEnvelope) :
    Coordinator R → List ArtifactRecord → Coordinator R × Result Unit
  | c, [] => (c, .ok ())
  | c, submitted :: rest =>
      match c.findExperiment envelope.experiment with
      | none => (c, .ok ())
      | some record =>
          match record.trials.find? envelope.trial with
          | none => (c, .ok ())
          | some trial =>
              if record.artifacts.length ≥ c.limits.maxArtifactsPerExperiment then
                (c, .error (limitsError (text "experiment holds too many artifact references")))
              else if trial.artifacts.length ≥ c.limits.maxArtifactsPerAttempt then
                (c, .error (limitsError (text "attempt holds too many artifact references")))
              else if submitted.locator = [] ||
                  submitted.locator.length > c.limits.maxLocatorLength then
                (c, .error ⟨.invalidArgument, .observation,
                  text "artifact locator is empty or too long"⟩)
              else
                let c := c.nextSequence
                let artifact := submittedArtifact record trial envelope.attempt submitted
                  c.currentSequence
                if ((c.artifactsOf record.definition.id).find? artifact.id).isSome then
                  (c, .error ⟨.alreadyExists, .identity,
                    text "artifact identity already exists in this experiment"⟩)
                else registerArtifacts envelope
                  (c.storeArtifact envelope.experiment record envelope.trial artifact) rest

omit [MetricReal R] in
/-- What counting and storing an accepted artifact keep, registering artifacts keeps. -/
theorem registerArtifacts_keeps {property : Coordinator R → Prop} (envelope : AuthorityEnvelope)
    (counted : ∀ c, property c → property c.nextSequence)
    (stored : ∀ (c : Coordinator R) (record : ExperimentRecord R) (trial : TrialRecord)
      (submitted : ArtifactRecord), property c →
        c.findExperiment envelope.experiment = some record →
        record.trials.find? envelope.trial = some trial →
        record.artifacts.length < c.limits.maxArtifactsPerExperiment →
        trial.artifacts.length < c.limits.maxArtifactsPerAttempt →
          property (c.nextSequence.storeArtifact envelope.experiment record envelope.trial
            (submittedArtifact record trial envelope.attempt submitted (c.currentSequence + 1))))
    (artifacts : List ArtifactRecord) {c : Coordinator R} (holds : property c) :
    property (registerArtifacts envelope c artifacts).1 := by
  induction artifacts generalizing c with
  | nil => exact holds
  | cons submitted rest ih =>
      unfold registerArtifacts
      split
      · exact holds
      · rename_i record found
        split
        · exact holds
        · rename_i trial held
          split
          · exact holds
          · rename_i room
            split
            · exact holds
            · rename_i budget
              split
              · exact holds
              · dsimp only
                split
                · exact counted c holds
                · exact ih (stored c record trial submitted holds found held (Nat.lt_of_not_ge room)
                    (Nat.lt_of_not_ge budget))

/-- Withdraw the artifacts a commit has registered: their positions are erased, and as many
artifacts are dropped from the record and from the trial. -/
def withdrawArtifacts (envelope : AuthorityEnvelope) (registered : List ArtifactId)
    (c : Coordinator R) : Coordinator R :=
  match c.findExperiment envelope.experiment with
  | none => c
  | some record =>
      (c.withRecord envelope.experiment
        ((·.dropArtifact envelope.trial)^[registered.length] record)).indexArtifacts
          record.definition.id
          (registered.foldl OrderedMap.erase (c.artifactsOf record.definition.id))

/-- Guard of `commitTrial`. -/
def commitTrialGuard (c : Coordinator R) (request : CommitTrialRequest) :
    Result (EnvelopeCheck R) := do
  require (transportMatches request.epoch request.worker request.boot request.envelope)
    (protocolError (text "commit envelope does not match the presenting transport identity"))
  c.checkEnvelope request.envelope

/-- Commit the authoritative result of a trial. -/
def commitTrial (c : Coordinator R) (request : CommitTrialRequest) (fault : Option SaveFault) :
    Coordinator R × Result Unit :=
  match c.commitTrialGuard request with
  | .error failure => (c, .error failure)
  | .ok check =>
      if check.trial.state = .completed && check.attempt.committed then (c, .ok ())
      else if observationsHeld check.record check.trial.id check.attempt.id = 0 then
        (c, .error ⟨.insufficientEvidence, .observation,
          text "trial completion requires at least one observation"⟩)
      else
        let c := c.nextSequence
        let sequence := c.currentSequence
        match registerArtifacts request.envelope c request.artifacts with
        | (c, .error failure) => (c, .error failure)
        | (registered, .ok ()) =>
            if !check.attempt.state.isValidTransition .completed then
              (withdrawArtifacts request.envelope (request.artifacts.map ArtifactRecord.id) registered,
                .error (invalidTransitionStatus (text "attempt") check.attempt.state.toText
                  (text "COMPLETED")))
            else match registered.findExperiment request.envelope.experiment with
              | none => (registered, .ok ())
              | some record =>
                  (registered.withRecord request.envelope.experiment
                    (record.complete request.envelope.trial request.envelope.attempt sequence)
                    ).settle fault id ()

/-- Guard of `failTrial`. -/
def failTrialGuard (c : Coordinator R) (request : FailTrialRequest) : Result (EnvelopeCheck R) := do
  require (transportMatches request.epoch request.worker request.boot request.envelope)
    (protocolError (text "failure envelope does not match the presenting transport identity"))
  let check ← c.checkEnvelope request.envelope
  require (request.kind ≠ .none)
    ⟨.invalidArgument, .lifecycle, text "a failure must name a non-NONE failure kind"⟩
  return check

/-- Report the failure of an attempt. -/
def failTrial (c : Coordinator R) (request : FailTrialRequest) (fault : Option SaveFault) :
    Coordinator R × Result Unit :=
  match c.failTrialGuard request with
  | .error failure => (c, .error failure)
  | .ok check =>
      let c := c.nextSequence
      (c.withRecord request.envelope.experiment
        (check.record.fail check.trial request.envelope.trial request.envelope.attempt
          request.kind request.detail request.retryable c.currentSequence)).settle fault id ()

/-! ## Cancellation -/

/-- The first experiment that holds a trial. -/
def ownerOf (c : Coordinator R) (trial : TrialId) :
    Option (ExperimentId × ExperimentRecord R × TrialRecord) :=
  c.state.experiments.entries.findSome? fun entry =>
    (entry.2.trials.find? trial).map fun found => (entry.1, entry.2, found)

/-- Cancel a trial. -/
def cancelTrial (c : Coordinator R) (trial : TrialId) (reason : Text) (fault : Option SaveFault) :
    Coordinator R × Result Unit :=
  match c.ownerOf trial with
  | none => (c, .error (notFound (text "trial does not exist")))
  | some (experiment, record, found) =>
      if isTerminal found.state then
        if found.state = .cancelled then (c, .ok ())
        else (c, .error (invalidTransitionStatus (text "trial") found.state.toText
          (text "CANCELLED")))
      else
        let c := c.nextSequence
        (c.withRecord experiment (record.cancelTrial trial reason c.currentSequence)).settle fault
          id ()

/-- Cancel an experiment. -/
def cancelExperiment (c : Coordinator R) (experiment : ExperimentId) (reason : Text)
    (fault : Option SaveFault) : Coordinator R × Result Unit :=
  match c.findExperiment experiment with
  | none => (c, .error (notFound (text "experiment does not exist")))
  | some record =>
      if record.state = .cancelled then (c, .ok ())
      else if !record.state.isValidTransition .cancelled then
        (c, .error (invalidTransitionStatus (text "experiment") record.state.toText
          (text "CANCELLED")))
      else
        let c := c.nextSequence
        (c.withRecord experiment (record.cancel reason c.currentSequence)).settle fault id ()

end Coordinator

end ExperimentFabric
