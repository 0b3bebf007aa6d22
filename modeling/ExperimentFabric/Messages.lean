import ExperimentFabric.ModelCodecs
import ExperimentFabric.Publication

/-!
# Typed messages

The request and reply payloads of the control plane.  Every message has its encoder, the reader of
its fields and a decoder that runs the reader to the end of the payload.  A status travels inside a
reply as a block of bytes with its length before it.

The encoders and decoders of one message are inverse to each other: a message within the bounds of
its codec comes back, a payload that stops early or goes on is refused, and a payload that is
accepted is the encoding of what it was decoded to.
-/

namespace ExperimentFabric

open Lib

namespace Protocol

/-! ## Statuses -/

/-- Encode a status; success has the code `ok`. -/
def encodeStatus (status : Status) : Text :=
  [writeErrorCode status.code, writeEnum status.stage, writeText 1024 status.reason].flatten

/-- A status as it is read, before its code is checked. -/
structure RawStatus where
  code : ErrorCode
  stage : ErrorStage
  reason : Text

/-- The fields of a status. -/
def readStatus (limits : Limits) : PayloadReader RawStatus := do
  let code ← readErrorCode
  let stage ← readEnum "error stage"
  let reason ← readText limits 1024
  pure { code, stage, reason }

/-- Decode a status; its code is checked after the end of the payload. -/
def decodeStatus (limits : Limits) (payload : Text) : Result Status := do
  let raw ← decodeAll trailingPayloadBytes (readStatus limits) payload
  require (raw.code.number ≤ 22) (Payload.protocolError "impossible error code value")
  pure ⟨raw.code, raw.stage, raw.reason⟩

/-- Append a status after its length. -/
def writeStatusBlock (status : Status) : Text :=
  writeU32 (encodeStatus status).length ++ encodeStatus status

/-- The next status block. -/
def readStatusBlock (limits : Limits) : PayloadReader Status := do
  let length ← readCount limits.maxFramePayloadBytes
  let bytes ← takeBytes payloadTruncated length
  StateT.lift (decodeStatus limits bytes)

end Protocol

/-- A status within the bounds of its codec. -/
def Status.Fits (limits : Limits) (status : Status) : Prop :=
  status.code.number ≤ 22 ∧ FitsText limits 1024 status.reason

/-- Frames hold a status block, and their bounds are 32-bit words. -/
structure Limits.HasRoom (limits : Limits) : Prop where
  status : 1030 ≤ limits.maxFramePayloadBytes
  frame : limits.maxFramePayloadBytes < 2 ^ 32
  batch : limits.maxBatchItems < 2 ^ 32

theorem Limits.defaults_hasRoom : Limits.defaults.HasRoom := ⟨by decide, by decide, by decide⟩

namespace Protocol

theorem codes_rawStatus (limits : Limits) :
    Codes (fun raw => FitsText limits 1024 raw.reason) (readStatus limits)
      fun raw => encodeStatus ⟨raw.code, raw.stage, raw.reason⟩ := by
  refine Fields.codes ?_ (fun _ => Iff.rfl) fun _ _ => rfl
  refine .free codes_errorCode fun code => ?_
  refine .free (codes_enum _) fun stage => ?_
  refine .only (codes_text limits (by decide)) fun reason => ?_
  refine .done fun record => ?_
  cases record
  simp [and_assoc]

theorem decodeStatus_eq_ok (limits : Limits) (payload : Text) (status : Status) :
    decodeStatus limits payload = .ok status ↔
      status.Fits limits ∧ payload = encodeStatus status := by
  unfold decodeStatus
  rw [bind_eq_ok]
  simp only [(codes_rawStatus limits).decodeAll_iff, require_bind_eq_ok, decide_eq_true_eq]
  constructor
  · rintro ⟨raw, ⟨bounded, rfl⟩, named, ended⟩
    obtain rfl : (⟨raw.code, raw.stage, raw.reason⟩ : Status) = status := by
      simpa [pure, Except.pure] using ended
    exact ⟨⟨named, bounded⟩, rfl⟩
  · rintro ⟨⟨named, bounded⟩, rfl⟩
    exact ⟨⟨status.code, status.stage, status.reason⟩, ⟨bounded, rfl⟩, named, rfl⟩

/-- The codec law of statuses, for a reader that checks the code at once. -/
theorem codes_status (limits : Limits) :
    Codes (Status.Fits limits)
      (do
        let raw ← readStatus limits
        ensure (raw.code.number ≤ 22) (Payload.protocolError "impossible error code value")
        pure ⟨raw.code, raw.stage, raw.reason⟩) encodeStatus := by
  refine (codes_rawStatus limits).translate
    (fun status : Status => ⟨status.code, status.stage, status.reason⟩) fun raw status bytes rest => ?_
  simp only [reader_bind_eq_ok, ensure_eq_ok, reader_pure_eq_ok, decide_eq_true_eq]
  constructor
  · rintro ⟨bounded, -, middle, ⟨named, rfl⟩, rfl, rfl⟩
    exact ⟨⟨⟨named, bounded⟩, rfl⟩, rfl⟩
  · rintro ⟨⟨⟨named, bounded⟩, rfl⟩, rfl⟩
    exact ⟨bounded, (), bytes, ⟨named, rfl⟩, rfl, rfl⟩

theorem encodeStatus_length_le {limits : Limits} {status : Status} (fit : status.Fits limits) :
    (encodeStatus status).length ≤ 1030 := by
  have bounded := fit.2.1
  simp [encodeStatus, writeErrorCode, writeEnum, writeText, writeU8, writeU32]
  omega

theorem codes_statusBlock {limits : Limits} (room : limits.HasRoom) :
    Codes (Status.Fits limits) (readStatusBlock limits) writeStatusBlock := by
  have fields : Fields (fun _ => True)
      (fun status => (encodeStatus status).length ≤ limits.maxFramePayloadBytes ∧
        status.Fits limits)
      (readStatusBlock limits)
      fun status => [writeU32 (encodeStatus status).length, encodeStatus status] := by
    refine .field (codes_count room.frame) fun length => ?_
    have block : Codes
        (fun status => status.Fits limits ∧ (encodeStatus status).length = length)
        (do
          let bytes ← takeBytes payloadTruncated length
          StateT.lift (decodeStatus limits bytes)) encodeStatus := by
      refine (Codes.takeBytes payloadTruncated length).translate encodeStatus
        fun payload status bytes rest => ?_
      rw [reader_lift_eq_ok, decodeStatus_eq_ok]
      constructor
      · rintro ⟨size, ⟨fit, rfl⟩, rfl⟩
        exact ⟨⟨⟨fit, size⟩, rfl⟩, rfl⟩
      · rintro ⟨⟨⟨fit, size⟩, rfl⟩, rfl⟩
        exact ⟨size, ⟨fit, rfl⟩, rfl⟩
    exact .tail block fun status => by simp [and_comm]
  refine fields.codes (fun status => ?_) fun status _ => ?_
  · exact ⟨fun fit => ⟨(encodeStatus_length_le fit).trans room.status, fit⟩, And.right⟩
  · simp [writeStatusBlock]

end Protocol

/-! ## Worker messages -/

namespace Protocol

variable {R : Type} [BitPattern R]

/-- Encode a registration request. -/
def encodeRegisterWorker (request : RegisterWorkerRequest) : Text :=
  [writeId request.claimedEpoch, writeId request.worker, writeId request.boot,
    writeId request.producer, writeText 256 request.endpoint,
    writeU32 request.maxConcurrentAssignments, writeText 512 request.fingerprint].flatten

/-- The fields of a registration request. -/
def readRegisterWorker (limits : Limits) : PayloadReader RegisterWorkerRequest := do
  let claimedEpoch ← readId
  let worker ← readId
  let boot ← readId
  let producer ← readId
  let endpoint ← readText limits 256
  let maxConcurrentAssignments ← readU32
  let fingerprint ← readText limits 512
  pure { claimedEpoch, worker, boot, producer, endpoint, maxConcurrentAssignments, fingerprint }

/-- Decode a registration request. -/
def decodeRegisterWorker (limits : Limits) : Text → Result RegisterWorkerRequest :=
  decodeAll trailingPayloadBytes (readRegisterWorker limits)

/-- A registration request within the bounds of its codec. -/
def RegisterWorkerRequest.Fits (limits : Limits) (request : RegisterWorkerRequest) : Prop :=
  request.claimedEpoch.Fits ∧ request.worker.Fits ∧ request.boot.Fits ∧ request.producer.Fits ∧
    FitsText limits 256 request.endpoint ∧ FitsU32 request.maxConcurrentAssignments ∧
    FitsText limits 512 request.fingerprint

theorem codes_registerWorker (limits : Limits) :
    Codes (RegisterWorkerRequest.Fits limits) (readRegisterWorker limits) encodeRegisterWorker := by
  refine Fields.codes ?_ (fun _ => Iff.rfl) fun _ _ => rfl
  refine .field codes_id fun claimedEpoch => ?_
  refine .field codes_id fun worker => ?_
  refine .field codes_id fun boot => ?_
  refine .field codes_id fun producer => ?_
  refine .field (codes_text limits (by decide)) fun endpoint => ?_
  refine .field codes_u32 fun maxConcurrentAssignments => ?_
  refine .only (codes_text limits (by decide)) fun fingerprint => ?_
  refine .done fun record => ?_
  cases record
  simp [and_assoc]

/-- Reply to a registration, as it travels. -/
structure RegisterWorkerReply where
  epoch : CoordinatorEpoch
  boot : WorkerBootId
  producer : ProducerId
  accepted : Bool
  status : Status

/-- Encode a registration reply. -/
def encodeRegisterReply (reply : RegisterWorkerReply) : Text :=
  [writeId reply.epoch, writeId reply.boot, writeId reply.producer, writeBoolean reply.accepted,
    writeStatusBlock reply.status].flatten

/-- The fields of a registration reply. -/
def readRegisterReply (limits : Limits) : PayloadReader RegisterWorkerReply := do
  let epoch ← readId
  let boot ← readId
  let producer ← readId
  let accepted ← readBoolean
  let status ← readStatusBlock limits
  pure { epoch, boot, producer, accepted, status }

/-- Decode a registration reply. -/
def decodeRegisterReply (limits : Limits) : Text → Result RegisterWorkerReply :=
  decodeAll trailingPayloadBytes (readRegisterReply limits)

/-- A registration reply within the bounds of its codec. -/
def RegisterWorkerReply.Fits (limits : Limits) (reply : RegisterWorkerReply) : Prop :=
  reply.epoch.Fits ∧ reply.boot.Fits ∧ reply.producer.Fits ∧ reply.status.Fits limits

theorem codes_registerReply {limits : Limits} (room : limits.HasRoom) :
    Codes (RegisterWorkerReply.Fits limits) (readRegisterReply limits) encodeRegisterReply := by
  refine Fields.codes ?_ (fun _ => Iff.rfl) fun _ _ => rfl
  refine .field codes_id fun epoch => ?_
  refine .field codes_id fun boot => ?_
  refine .field codes_id fun producer => ?_
  refine .free codes_boolean fun accepted => ?_
  refine .only (codes_statusBlock room) fun status => ?_
  refine .done fun record => ?_
  cases record
  simp [and_assoc]

/-- Encode a claim request. -/
def encodeClaimTrial (request : ClaimTrialRequest) : Text :=
  [writeId request.epoch, writeId request.worker, writeId request.boot,
    writeU32 request.maxClaims].flatten

/-- The fields of a claim request. -/
def readClaimTrial : PayloadReader ClaimTrialRequest := do
  let epoch ← readId
  let worker ← readId
  let boot ← readId
  let maxClaims ← readU32
  pure { epoch, worker, boot, maxClaims }

/-- Decode a claim request. -/
def decodeClaimTrial : Text → Result ClaimTrialRequest :=
  decodeAll trailingPayloadBytes readClaimTrial

/-- A claim request within the bounds of its codec. -/
def ClaimTrialRequest.Fits (request : ClaimTrialRequest) : Prop :=
  request.epoch.Fits ∧ request.worker.Fits ∧ request.boot.Fits ∧ FitsU32 request.maxClaims

theorem codes_claimTrial :
    Codes ClaimTrialRequest.Fits readClaimTrial encodeClaimTrial := by
  refine Fields.codes ?_ (fun _ => Iff.rfl) fun _ _ => rfl
  refine .field codes_id fun epoch => ?_
  refine .field codes_id fun worker => ?_
  refine .field codes_id fun boot => ?_
  refine .only codes_u32 fun maxClaims => ?_
  refine .done fun record => ?_
  cases record
  simp [and_assoc]

/-- Append a metric reservation. -/
def writeAssignedMetric (metric : AssignedMetric) : Text :=
  [writeId metric.metric, writeId metric.observationId, writeText 128 metric.name,
    writeEnum metric.kind, writeEnum metric.direction, writeBoolean metric.required].flatten

/-- The next metric reservation. -/
def readAssignedMetric (limits : Limits) : PayloadReader AssignedMetric := do
  let metric ← readId
  let observationId ← readId
  let name ← readText limits 128
  let kind ← readEnum "metric kind"
  let direction ← readEnum "metric direction"
  let required ← readBoolean
  pure { metric, observationId, name, kind, direction, required }

/-- A metric reservation within the bounds of its codec. -/
def AssignedMetric.Fits (limits : Limits) (metric : AssignedMetric) : Prop :=
  metric.metric.Fits ∧ metric.observationId.Fits ∧ FitsText limits 128 metric.name

theorem codes_assignedMetric (limits : Limits) :
    Codes (AssignedMetric.Fits limits) (readAssignedMetric limits) writeAssignedMetric := by
  refine Fields.codes ?_ (fun _ => Iff.rfl) fun _ _ => rfl
  refine .field codes_id fun metric => ?_
  refine .field codes_id fun observationId => ?_
  refine .only (codes_text limits (by decide)) fun name => ?_
  refine .free (codes_enum _) fun kind => ?_
  refine .free (codes_enum _) fun direction => ?_
  refine .free codes_boolean fun required => ?_
  refine .done fun record => ?_
  cases record
  simp [and_assoc]

/-- Append an assignment. -/
def writeAssignment (assignment : TrialAssignment) : Text :=
  [writeEnvelope assignment.envelope, writeText 4096 assignment.trialPayload,
    writeParameters assignment.parameters, writeId assignment.attemptNumber,
    writeVector writeAssignedMetric assignment.metrics, writeVector writeId assignment.artifactIds,
    writeU32 assignment.plannedObservations].flatten

/-- The next assignment. -/
def readAssignment (limits : Limits) : PayloadReader TrialAssignment := do
  let envelope ← readEnvelope
  let trialPayload ← readText limits 4096
  let parameters ← readParameters limits
  let attemptNumber ← readId
  let metrics ← readVector 128 (readAssignedMetric limits)
  let artifactIds ← readVector 256 readId
  let plannedObservations ← readU32
  pure { envelope, trialPayload, parameters, attemptNumber, metrics, artifactIds,
         plannedObservations }

/-- An assignment within the bounds of its codec. -/
def TrialAssignment.Fits (limits : Limits) (assignment : TrialAssignment) : Prop :=
  assignment.envelope.Fits ∧ FitsText limits 4096 assignment.trialPayload ∧
    FitsParameters limits assignment.parameters ∧ assignment.attemptNumber.Fits ∧
    FitsVector 128 (AssignedMetric.Fits limits) assignment.metrics ∧
    FitsVector 256 StrongId.Fits assignment.artifactIds ∧ FitsU32 assignment.plannedObservations

theorem codes_assignment (limits : Limits) :
    Codes (TrialAssignment.Fits limits) (readAssignment limits) writeAssignment := by
  refine Fields.codes ?_ (fun _ => Iff.rfl) fun _ _ => rfl
  refine .field codes_envelope fun envelope => ?_
  refine .field (codes_text limits (by decide)) fun trialPayload => ?_
  refine .field (codes_parameters limits) fun parameters => ?_
  refine .field codes_id fun attemptNumber => ?_
  refine .field (codes_vector (by decide) (codes_assignedMetric limits)) fun metrics => ?_
  refine .field (codes_vector (by decide) codes_id) fun artifactIds => ?_
  refine .only codes_u32 fun plannedObservations => ?_
  refine .done fun record => ?_
  cases record
  simp only [TrialAssignment.mk.injEq]
  tauto

/-- Reply to a claim, as it travels. -/
structure ClaimTrialReply where
  status : Status
  assignments : List TrialAssignment

/-- Encode a claim reply. -/
def encodeClaimReply (reply : ClaimTrialReply) : Text :=
  [writeStatusBlock reply.status, writeVector writeAssignment reply.assignments].flatten

/-- The fields of a claim reply. -/
def readClaimReply (limits : Limits) : PayloadReader ClaimTrialReply := do
  let status ← readStatusBlock limits
  let assignments ← readVector limits.maxBatchItems (readAssignment limits)
  pure { status, assignments }

/-- Decode a claim reply. -/
def decodeClaimReply (limits : Limits) : Text → Result ClaimTrialReply :=
  decodeAll trailingPayloadBytes (readClaimReply limits)

/-- A claim reply within the bounds of its codec. -/
def ClaimTrialReply.Fits (limits : Limits) (reply : ClaimTrialReply) : Prop :=
  reply.status.Fits limits ∧
    FitsVector limits.maxBatchItems (TrialAssignment.Fits limits) reply.assignments

theorem codes_claimReply {limits : Limits} (room : limits.HasRoom) :
    Codes (ClaimTrialReply.Fits limits) (readClaimReply limits) encodeClaimReply := by
  have batch := room.batch
  refine Fields.codes ?_ (fun _ => Iff.rfl) fun _ _ => rfl
  refine .field (codes_statusBlock room) fun status => ?_
  refine .only (codes_vector batch (codes_assignment limits)) fun assignments => ?_
  refine .done fun record => ?_
  cases record
  simp

/-- Encode an observation request. -/
def encodePublishObservation (request : PublishObservationRequest R) : Text :=
  [writeId request.epoch, writeId request.worker, writeId request.boot,
    writeObservation request.observation].flatten

/-- The fields of an observation request. -/
def readPublishObservation (limits : Limits) : PayloadReader (PublishObservationRequest R) := do
  let epoch ← readId
  let worker ← readId
  let boot ← readId
  let observation ← readObservation limits
  pure { epoch, worker, boot, observation }

/-- Decode an observation request. -/
def decodePublishObservation (limits : Limits) : Text → Result (PublishObservationRequest R) :=
  decodeAll trailingPayloadBytes (readPublishObservation limits)

/-- An observation request within the bounds of its codec. -/
def PublishObservationRequest.Fits (limits : Limits) (request : PublishObservationRequest R) : Prop :=
  request.epoch.Fits ∧ request.worker.Fits ∧ request.boot.Fits ∧ request.observation.Fits limits

theorem codes_publishObservation (limits : Limits) :
    Codes (PublishObservationRequest.Fits (R := R) limits) (readPublishObservation limits) encodePublishObservation := by
  refine Fields.codes ?_ (fun _ => Iff.rfl) fun _ _ => rfl
  refine .field codes_id fun epoch => ?_
  refine .field codes_id fun worker => ?_
  refine .field codes_id fun boot => ?_
  refine .only (codes_observation limits) fun observation => ?_
  refine .done fun record => ?_
  cases record
  simp [and_assoc]

/-- Encode an artifact request. -/
def encodePublishArtifact (request : PublishArtifactRequest) : Text :=
  [writeId request.epoch, writeId request.worker, writeId request.boot,
    writeArtifact request.artifact].flatten

/-- The fields of an artifact request. -/
def readPublishArtifact (limits : Limits) : PayloadReader PublishArtifactRequest := do
  let epoch ← readId
  let worker ← readId
  let boot ← readId
  let artifact ← readArtifact limits
  pure { epoch, worker, boot, artifact }

/-- Decode an artifact request. -/
def decodePublishArtifact (limits : Limits) : Text → Result PublishArtifactRequest :=
  decodeAll trailingPayloadBytes (readPublishArtifact limits)

/-- An artifact request within the bounds of its codec. -/
def PublishArtifactRequest.Fits (limits : Limits) (request : PublishArtifactRequest) : Prop :=
  request.epoch.Fits ∧ request.worker.Fits ∧ request.boot.Fits ∧ request.artifact.Fits limits

theorem codes_publishArtifact (limits : Limits) :
    Codes (PublishArtifactRequest.Fits limits) (readPublishArtifact limits) encodePublishArtifact := by
  refine Fields.codes ?_ (fun _ => Iff.rfl) fun _ _ => rfl
  refine .field codes_id fun epoch => ?_
  refine .field codes_id fun worker => ?_
  refine .field codes_id fun boot => ?_
  refine .only (codes_artifact limits) fun artifact => ?_
  refine .done fun record => ?_
  cases record
  simp [and_assoc]

/-- Encode a commit request. -/
def encodeCommitTrial (request : CommitTrialRequest) : Text :=
  [writeId request.epoch, writeId request.worker, writeId request.boot,
    writeEnvelope request.envelope, writeVector writeArtifact request.artifacts,
    writeText 4096 request.resultPayload].flatten

/-- The fields of a commit request. -/
def readCommitTrial (limits : Limits) : PayloadReader CommitTrialRequest := do
  let epoch ← readId
  let worker ← readId
  let boot ← readId
  let envelope ← readEnvelope
  let artifacts ← readVector 256 (readArtifact limits)
  let resultPayload ← readText limits 4096
  pure { epoch, worker, boot, envelope, artifacts, resultPayload }

/-- Decode a commit request. -/
def decodeCommitTrial (limits : Limits) : Text → Result CommitTrialRequest :=
  decodeAll trailingPayloadBytes (readCommitTrial limits)

/-- A commit request within the bounds of its codec. -/
def CommitTrialRequest.Fits (limits : Limits) (request : CommitTrialRequest) : Prop :=
  request.epoch.Fits ∧ request.worker.Fits ∧ request.boot.Fits ∧ request.envelope.Fits ∧
    FitsVector 256 (ArtifactRecord.Fits limits) request.artifacts ∧
    FitsText limits 4096 request.resultPayload

theorem codes_commitTrial (limits : Limits) :
    Codes (CommitTrialRequest.Fits limits) (readCommitTrial limits) encodeCommitTrial := by
  refine Fields.codes ?_ (fun _ => Iff.rfl) fun _ _ => rfl
  refine .field codes_id fun epoch => ?_
  refine .field codes_id fun worker => ?_
  refine .field codes_id fun boot => ?_
  refine .field codes_envelope fun envelope => ?_
  refine .field (codes_vector (by decide) (codes_artifact limits)) fun artifacts => ?_
  refine .only (codes_text limits (by decide)) fun resultPayload => ?_
  refine .done fun record => ?_
  cases record
  simp [and_assoc]

/-- Encode a failure request. -/
def encodeFailTrial (request : FailTrialRequest) : Text :=
  [writeId request.epoch, writeId request.worker, writeId request.boot,
    writeEnvelope request.envelope, writeEnum request.kind, writeText 512 request.detail,
    writeBoolean request.retryable].flatten

/-- The fields of a failure request. -/
def readFailTrial (limits : Limits) : PayloadReader FailTrialRequest := do
  let epoch ← readId
  let worker ← readId
  let boot ← readId
  let envelope ← readEnvelope
  let kind ← readEnum "failure kind"
  let detail ← readText limits 512
  let retryable ← readBoolean
  pure { epoch, worker, boot, envelope, kind, detail, retryable }

/-- Decode a failure request. -/
def decodeFailTrial (limits : Limits) : Text → Result FailTrialRequest :=
  decodeAll trailingPayloadBytes (readFailTrial limits)

/-- A failure request within the bounds of its codec. -/
def FailTrialRequest.Fits (limits : Limits) (request : FailTrialRequest) : Prop :=
  request.epoch.Fits ∧ request.worker.Fits ∧ request.boot.Fits ∧ request.envelope.Fits ∧
    FitsText limits 512 request.detail

theorem codes_failTrial (limits : Limits) :
    Codes (FailTrialRequest.Fits limits) (readFailTrial limits) encodeFailTrial := by
  refine Fields.codes ?_ (fun _ => Iff.rfl) fun _ _ => rfl
  refine .field codes_id fun epoch => ?_
  refine .field codes_id fun worker => ?_
  refine .field codes_id fun boot => ?_
  refine .field codes_envelope fun envelope => ?_
  refine .free (codes_enum _) fun kind => ?_
  refine .only (codes_text limits (by decide)) fun detail => ?_
  refine .free codes_boolean fun retryable => ?_
  refine .done fun record => ?_
  cases record
  simp [and_assoc]

/-- Encode a heartbeat. -/
def encodeHeartbeat (request : Coordinator.HeartbeatRequest) : Text :=
  [writeId request.epoch, writeId request.worker, writeId request.boot,
    writeU32 request.activeAssignments].flatten

/-- The fields of a heartbeat. -/
def readHeartbeat : PayloadReader Coordinator.HeartbeatRequest := do
  let epoch ← readId
  let worker ← readId
  let boot ← readId
  let activeAssignments ← readU32
  pure { epoch, worker, boot, activeAssignments }

/-- Decode a heartbeat. -/
def decodeHeartbeat : Text → Result Coordinator.HeartbeatRequest :=
  decodeAll trailingPayloadBytes readHeartbeat

/-- A heartbeat within the bounds of its codec. -/
def Coordinator.HeartbeatRequest.Fits (request : Coordinator.HeartbeatRequest) : Prop :=
  request.epoch.Fits ∧ request.worker.Fits ∧ request.boot.Fits ∧ FitsU32 request.activeAssignments

theorem codes_heartbeat :
    Codes Coordinator.HeartbeatRequest.Fits readHeartbeat encodeHeartbeat := by
  refine Fields.codes ?_ (fun _ => Iff.rfl) fun _ _ => rfl
  refine .field codes_id fun epoch => ?_
  refine .field codes_id fun worker => ?_
  refine .field codes_id fun boot => ?_
  refine .only codes_u32 fun activeAssignments => ?_
  refine .done fun record => ?_
  cases record
  simp [and_assoc]

/-! ## Client messages -/

/-- Cancellation of a trial. -/
structure CancelTrialRequest where
  trial : TrialId
  reason : Text

/-- Encode a trial cancellation. -/
def encodeCancelTrial (request : CancelTrialRequest) : Text :=
  [writeId request.trial, writeText 512 request.reason].flatten

/-- The fields of a trial cancellation. -/
def readCancelTrial (limits : Limits) : PayloadReader CancelTrialRequest := do
  let trial ← readId
  let reason ← readText limits 512
  pure { trial, reason }

/-- Decode a trial cancellation. -/
def decodeCancelTrial (limits : Limits) : Text → Result CancelTrialRequest :=
  decodeAll trailingPayloadBytes (readCancelTrial limits)

/-- A trial cancellation within the bounds of its codec. -/
def CancelTrialRequest.Fits (limits : Limits) (request : CancelTrialRequest) : Prop :=
  request.trial.Fits ∧ FitsText limits 512 request.reason

theorem codes_cancelTrial (limits : Limits) :
    Codes (CancelTrialRequest.Fits limits) (readCancelTrial limits) encodeCancelTrial := by
  refine Fields.codes ?_ (fun _ => Iff.rfl) fun _ _ => rfl
  refine .field codes_id fun trial => ?_
  refine .only (codes_text limits (by decide)) fun reason => ?_
  refine .done fun record => ?_
  cases record
  simp

/-- Cancellation of an experiment. -/
structure CancelExperimentRequest where
  experiment : ExperimentId
  reason : Text

/-- Encode an experiment cancellation. -/
def encodeCancelExperiment (request : CancelExperimentRequest) : Text :=
  [writeId request.experiment, writeText 512 request.reason].flatten

/-- The fields of an experiment cancellation. -/
def readCancelExperiment (limits : Limits) : PayloadReader CancelExperimentRequest := do
  let experiment ← readId
  let reason ← readText limits 512
  pure { experiment, reason }

/-- Decode an experiment cancellation. -/
def decodeCancelExperiment (limits : Limits) : Text → Result CancelExperimentRequest :=
  decodeAll trailingPayloadBytes (readCancelExperiment limits)

/-- An experiment cancellation within the bounds of its codec. -/
def CancelExperimentRequest.Fits (limits : Limits) (request : CancelExperimentRequest) : Prop :=
  request.experiment.Fits ∧ FitsText limits 512 request.reason

theorem codes_cancelExperiment (limits : Limits) :
    Codes (CancelExperimentRequest.Fits limits) (readCancelExperiment limits) encodeCancelExperiment := by
  refine Fields.codes ?_ (fun _ => Iff.rfl) fun _ _ => rfl
  refine .field codes_id fun experiment => ?_
  refine .only (codes_text limits (by decide)) fun reason => ?_
  refine .done fun record => ?_
  cases record
  simp

/-- Finalization of an experiment for a candidate. -/
structure FinalizeExperimentRequest where
  experiment : ExperimentId
  candidate : BranchId
  reason : Text

/-- Encode a finalization request. -/
def encodeFinalizeExperiment (request : FinalizeExperimentRequest) : Text :=
  [writeId request.experiment, writeId request.candidate, writeText 512 request.reason].flatten

/-- The fields of a finalization request. -/
def readFinalizeExperiment (limits : Limits) : PayloadReader FinalizeExperimentRequest := do
  let experiment ← readId
  let candidate ← readId
  let reason ← readText limits 512
  pure { experiment, candidate, reason }

/-- Decode a finalization request. -/
def decodeFinalizeExperiment (limits : Limits) : Text → Result FinalizeExperimentRequest :=
  decodeAll trailingPayloadBytes (readFinalizeExperiment limits)

/-- A finalization request within the bounds of its codec. -/
def FinalizeExperimentRequest.Fits (limits : Limits) (request : FinalizeExperimentRequest) : Prop :=
  request.experiment.Fits ∧ request.candidate.Fits ∧ FitsText limits 512 request.reason

theorem codes_finalizeExperiment (limits : Limits) :
    Codes (FinalizeExperimentRequest.Fits limits) (readFinalizeExperiment limits) encodeFinalizeExperiment := by
  refine Fields.codes ?_ (fun _ => Iff.rfl) fun _ _ => rfl
  refine .field codes_id fun experiment => ?_
  refine .field codes_id fun candidate => ?_
  refine .only (codes_text limits (by decide)) fun reason => ?_
  refine .done fun record => ?_
  cases record
  simp [and_assoc]

/-- Rollback of an experiment to an earlier generation. -/
structure RollbackRequest where
  experiment : ExperimentId
  targetGeneration : ExperimentGeneration
  reason : Text

/-- Encode a rollback request. -/
def encodeRollback (request : RollbackRequest) : Text :=
  [writeId request.experiment, writeId request.targetGeneration,
    writeText 512 request.reason].flatten

/-- The fields of a rollback request. -/
def readRollback (limits : Limits) : PayloadReader RollbackRequest := do
  let experiment ← readId
  let targetGeneration ← readId
  let reason ← readText limits 512
  pure { experiment, targetGeneration, reason }

/-- Decode a rollback request. -/
def decodeRollback (limits : Limits) : Text → Result RollbackRequest :=
  decodeAll trailingPayloadBytes (readRollback limits)

/-- A rollback request within the bounds of its codec. -/
def RollbackRequest.Fits (limits : Limits) (request : RollbackRequest) : Prop :=
  request.experiment.Fits ∧ request.targetGeneration.Fits ∧ FitsText limits 512 request.reason

theorem codes_rollback (limits : Limits) :
    Codes (RollbackRequest.Fits limits) (readRollback limits) encodeRollback := by
  refine Fields.codes ?_ (fun _ => Iff.rfl) fun _ _ => rfl
  refine .field codes_id fun experiment => ?_
  refine .field codes_id fun targetGeneration => ?_
  refine .only (codes_text limits (by decide)) fun reason => ?_
  refine .done fun record => ?_
  cases record
  simp [and_assoc]

/-- Creation of a logical trial under a branch. -/
structure CreateTrialRequest where
  experiment : ExperimentId
  branch : BranchId
  payload : Text

/-- Encode a trial request. -/
def encodeCreateTrial (request : CreateTrialRequest) : Text :=
  [writeId request.experiment, writeId request.branch, writeText 4096 request.payload].flatten

/-- The fields of a trial request. -/
def readCreateTrial (limits : Limits) : PayloadReader CreateTrialRequest := do
  let experiment ← readId
  let branch ← readId
  let payload ← readText limits 4096
  pure { experiment, branch, payload }

/-- Decode a trial request. -/
def decodeCreateTrial (limits : Limits) : Text → Result CreateTrialRequest :=
  decodeAll trailingPayloadBytes (readCreateTrial limits)

/-- A trial request within the bounds of its codec. -/
def CreateTrialRequest.Fits (limits : Limits) (request : CreateTrialRequest) : Prop :=
  request.experiment.Fits ∧ request.branch.Fits ∧ FitsText limits 4096 request.payload

theorem codes_createTrial (limits : Limits) :
    Codes (CreateTrialRequest.Fits limits) (readCreateTrial limits) encodeCreateTrial := by
  refine Fields.codes ?_ (fun _ => Iff.rfl) fun _ _ => rfl
  refine .field codes_id fun experiment => ?_
  refine .field codes_id fun branch => ?_
  refine .only (codes_text limits (by decide)) fun payload => ?_
  refine .done fun record => ?_
  cases record
  simp [and_assoc]

/-- Fork of a branch. -/
structure ForkBranchRequest where
  experiment : ExperimentId
  parent : BranchId
  name : Text
  role : BranchRole
  parameters : List ParameterAssignment
  seed : Option UInt64
  plannedTrials : Nat

/-- Encode a fork request. -/
def encodeForkBranch (request : ForkBranchRequest) : Text :=
  [writeId request.experiment, writeId request.parent, writeText 128 request.name,
    writeEnum request.role, writeParameters request.parameters,
    writeOptional writeSeed request.seed, writeU32 request.plannedTrials].flatten

/-- The fields of a fork request. -/
def readForkBranch (limits : Limits) : PayloadReader ForkBranchRequest := do
  let experiment ← readId
  let parent ← readId
  let name ← readText limits 128
  let role ← readEnum "branch role"
  let parameters ← readParameters limits
  let seed ← readOptional readSeed
  let plannedTrials ← readU32
  pure { experiment, parent, name, role, parameters, seed, plannedTrials }

/-- Decode a fork request. -/
def decodeForkBranch (limits : Limits) : Text → Result ForkBranchRequest :=
  decodeAll trailingPayloadBytes (readForkBranch limits)

/-- A fork request within the bounds of its codec. -/
def ForkBranchRequest.Fits (limits : Limits) (request : ForkBranchRequest) : Prop :=
  request.experiment.Fits ∧ request.parent.Fits ∧ FitsText limits 128 request.name ∧
    FitsParameters limits request.parameters ∧ FitsU32 request.plannedTrials

theorem codes_forkBranch (limits : Limits) :
    Codes (ForkBranchRequest.Fits limits) (readForkBranch limits) encodeForkBranch := by
  refine Fields.codes ?_ (fun _ => Iff.rfl) fun _ _ => rfl
  refine .field codes_id fun experiment => ?_
  refine .field codes_id fun parent => ?_
  refine .field (codes_text limits (by decide)) fun name => ?_
  refine .free (codes_enum _) fun role => ?_
  refine .field (codes_parameters limits) fun parameters => ?_
  refine .free (codes_optional_free codes_seed) fun seed => ?_
  refine .only codes_u32 fun plannedTrials => ?_
  refine .done fun record => ?_
  cases record
  simp [and_assoc]

/-- Revision of the hypothesis of an experiment. -/
structure ReviseHypothesisRequest where
  experiment : ExperimentId
  statement : Text
  hasDirection : Bool
  direction : MetricDirection
  metric : MetricId
  provenance : Text

/-- Encode a revision request. -/
def encodeReviseHypothesis (request : ReviseHypothesisRequest) : Text :=
  [writeId request.experiment, writeText 4096 request.statement, writeBoolean request.hasDirection,
    writeEnum request.direction, writeId request.metric, writeText 1024 request.provenance].flatten

/-- The fields of a revision request. -/
def readReviseHypothesis (limits : Limits) : PayloadReader ReviseHypothesisRequest := do
  let experiment ← readId
  let statement ← readText limits 4096
  let hasDirection ← readBoolean
  let direction ← readEnum "metric direction"
  let metric ← readId
  let provenance ← readText limits 1024
  pure { experiment, statement, hasDirection, direction, metric, provenance }

/-- Decode a revision request. -/
def decodeReviseHypothesis (limits : Limits) : Text → Result ReviseHypothesisRequest :=
  decodeAll trailingPayloadBytes (readReviseHypothesis limits)

/-- A revision request within the bounds of its codec. -/
def ReviseHypothesisRequest.Fits (limits : Limits) (request : ReviseHypothesisRequest) : Prop :=
  request.experiment.Fits ∧ FitsText limits 4096 request.statement ∧ request.metric.Fits ∧
    FitsText limits 1024 request.provenance

theorem codes_reviseHypothesis (limits : Limits) :
    Codes (ReviseHypothesisRequest.Fits limits) (readReviseHypothesis limits) encodeReviseHypothesis := by
  refine Fields.codes ?_ (fun _ => Iff.rfl) fun _ _ => rfl
  refine .field codes_id fun experiment => ?_
  refine .field (codes_text limits (by decide)) fun statement => ?_
  refine .free codes_boolean fun hasDirection => ?_
  refine .free (codes_enum _) fun direction => ?_
  refine .field codes_id fun metric => ?_
  refine .only (codes_text limits (by decide)) fun provenance => ?_
  refine .done fun record => ?_
  cases record
  simp [and_assoc]

/-- What a query asks for, in the order of the stable numbers. -/
inductive QueryKind where
  | invalid | status | listExperiments | experimentSnapshot | branchLineage | trials | observations
  | rejectedEvidence | artifacts | explainDecision | reproducibility | validateState | hypothesis
  | workers
  deriving DecidableEq, Repr

/-- The kinds of a query, from the number one on. -/
def QueryKind.known : List QueryKind :=
  [.status, .listExperiments, .experimentSnapshot, .branchLineage, .trials, .observations,
    .rejectedEvidence, .artifacts, .explainDecision, .reproducibility, .validateState, .hypothesis,
    .workers]

/-- The stable number of a query kind. -/
def QueryKind.number : QueryKind → Nat
  | .invalid => 0
  | kind => known.idxOf kind + 1

/-- Append a query kind. -/
def writeQueryKind (kind : QueryKind) : Text := writeU16 kind.number

/-- The next query kind. -/
def readQueryKind : PayloadReader QueryKind := do
  let raw ← readU16
  ensure (raw ≠ 0 && raw ≤ QueryKind.workers.number) (Payload.protocolError "unknown query kind")
  pure (QueryKind.known.getD (raw - 1) .invalid)

theorem codes_queryKind : Codes (fun kind => kind ≠ .invalid) readQueryKind writeQueryKind := by
  refine codes_u16.translate QueryKind.number fun raw kind bytes rest => ?_
  simp only [reader_bind_eq_ok, ensure_eq_ok, reader_pure_eq_ok]
  constructor
  · rintro ⟨-, -, middle, ⟨known, rfl⟩, rfl, rfl⟩
    have each : ∀ raw : Fin 14, raw.val ≠ 0 →
        QueryKind.known.getD (raw - 1) .invalid ≠ .invalid ∧
          (QueryKind.known.getD (raw - 1) .invalid).number = raw := by decide
    obtain ⟨positive, bounded⟩ : raw ≠ 0 ∧ raw ≤ QueryKind.workers.number := by simpa using known
    exact ⟨each ⟨raw, Nat.lt_succ_of_le bounded⟩ positive, rfl⟩
  · rintro ⟨⟨named, rfl⟩, rfl⟩
    refine ⟨?_, (), bytes, ⟨?_, rfl⟩, ?_, rfl⟩ <;> revert named <;> cases kind <;> decide

/-- A query: its kind and a canonical text argument. -/
structure QueryRequest where
  kind : QueryKind
  argument : Text

/-- Encode a query. -/
def encodeQueryRequest (request : QueryRequest) : Text :=
  [writeQueryKind request.kind, writeText 128 request.argument].flatten

/-- The fields of a query. -/
def readQueryRequest (limits : Limits) : PayloadReader QueryRequest := do
  let kind ← readQueryKind
  let argument ← readText limits 128
  pure { kind, argument }

/-- Decode a query. -/
def decodeQueryRequest (limits : Limits) : Text → Result QueryRequest :=
  decodeAll trailingPayloadBytes (readQueryRequest limits)

/-- A query within the bounds of its codec. -/
def QueryRequest.Fits (limits : Limits) (request : QueryRequest) : Prop :=
  request.kind ≠ .invalid ∧ FitsText limits 128 request.argument

theorem codes_queryRequest (limits : Limits) :
    Codes (QueryRequest.Fits limits) (readQueryRequest limits) encodeQueryRequest := by
  refine Fields.codes ?_ (fun _ => Iff.rfl) fun _ _ => rfl
  refine .field codes_queryKind fun kind => ?_
  refine .only (codes_text limits (by decide)) fun argument => ?_
  refine .done fun record => ?_
  cases record
  simp

/-! ## Replies -/

/-- Refusal of a request. -/
structure ErrorReply where
  status : Status
  detail : Text

/-- Encode an error reply. -/
def encodeErrorReply (reply : ErrorReply) : Text :=
  [writeStatusBlock reply.status, writeText 1024 reply.detail].flatten

/-- The fields of an error reply. -/
def readErrorReply (limits : Limits) : PayloadReader ErrorReply := do
  let status ← readStatusBlock limits
  let detail ← readText limits 1024
  pure { status, detail }

/-- Decode an error reply. -/
def decodeErrorReply (limits : Limits) : Text → Result ErrorReply :=
  decodeAll trailingPayloadBytes (readErrorReply limits)

/-- An error reply within the bounds of its codec. -/
def ErrorReply.Fits (limits : Limits) (reply : ErrorReply) : Prop :=
  reply.status.Fits limits ∧ FitsText limits 1024 reply.detail

theorem codes_errorReply {limits : Limits} (room : limits.HasRoom) :
    Codes (ErrorReply.Fits limits) (readErrorReply limits) encodeErrorReply := by
  refine Fields.codes ?_ (fun _ => Iff.rfl) fun _ _ => rfl
  refine .field (codes_statusBlock room) fun status => ?_
  refine .only (codes_text limits (by decide)) fun detail => ?_
  refine .done fun record => ?_
  cases record
  simp

/-- Reply to a query: a status and text lines. -/
structure QueryResult where
  status : Status
  lines : List Text

/-- Encode a query result. -/
def encodeQueryResult (reply : QueryResult) : Text :=
  [writeStatusBlock reply.status, writeVector (writeText 512) reply.lines].flatten

/-- The fields of a query result. -/
def readQueryResult (limits : Limits) : PayloadReader QueryResult := do
  let status ← readStatusBlock limits
  let lines ← readVector 65536 (readText limits 512)
  pure { status, lines }

/-- Decode a query result. -/
def decodeQueryResult (limits : Limits) : Text → Result QueryResult :=
  decodeAll trailingPayloadBytes (readQueryResult limits)

/-- A query result within the bounds of its codec. -/
def QueryResult.Fits (limits : Limits) (reply : QueryResult) : Prop :=
  reply.status.Fits limits ∧ FitsVector 65536 (FitsText limits 512) reply.lines

theorem codes_queryResult {limits : Limits} (room : limits.HasRoom) :
    Codes (QueryResult.Fits limits) (readQueryResult limits) encodeQueryResult := by
  refine Fields.codes ?_ (fun _ => Iff.rfl) fun _ _ => rfl
  refine .field (codes_statusBlock room) fun status => ?_
  refine .only (codes_vector (by decide) (codes_text limits (by decide))) fun lines => ?_
  refine .done fun record => ?_
  cases record
  simp

/-- Reply carrying a status and one identity value. -/
structure ValueReply where
  status : Status
  value : Nat

/-- Encode a value reply. -/
def encodeValueReply (reply : ValueReply) : Text :=
  [writeStatusBlock reply.status, writeU64 reply.value].flatten

/-- The fields of a value reply. -/
def readValueReply (limits : Limits) : PayloadReader ValueReply := do
  let status ← readStatusBlock limits
  let value ← readU64
  pure { status, value }

/-- Decode a value reply. -/
def decodeValueReply (limits : Limits) : Text → Result ValueReply :=
  decodeAll trailingPayloadBytes (readValueReply limits)

/-- A value reply within the bounds of its codec. -/
def ValueReply.Fits (limits : Limits) (reply : ValueReply) : Prop :=
  reply.status.Fits limits ∧ FitsU64 reply.value

theorem codes_valueReply {limits : Limits} (room : limits.HasRoom) :
    Codes (ValueReply.Fits limits) (readValueReply limits) encodeValueReply := by
  refine Fields.codes ?_ (fun _ => Iff.rfl) fun _ _ => rfl
  refine .field (codes_statusBlock room) fun status => ?_
  refine .only codes_u64 fun value => ?_
  refine .done fun record => ?_
  cases record
  simp

/-- Reply carrying a status and a complete decision. -/
structure DecisionReply (R : Type) where
  status : Status
  decision : Decision R

/-- Encode a decision reply. -/
def encodeDecisionReply (reply : DecisionReply R) : Text :=
  [writeStatusBlock reply.status, writeDecision reply.decision].flatten

/-- The fields of a decision reply. -/
def readDecisionReply (limits : Limits) : PayloadReader (DecisionReply R) := do
  let status ← readStatusBlock limits
  let decision ← readDecision limits
  pure { status, decision }

/-- Decode a decision reply. -/
def decodeDecisionReply (limits : Limits) : Text → Result (DecisionReply R) :=
  decodeAll trailingPayloadBytes (readDecisionReply limits)

/-- A decision reply within the bounds of its codec. -/
def DecisionReply.Fits (limits : Limits) (reply : DecisionReply R) : Prop :=
  reply.status.Fits limits ∧ reply.decision.Fits limits

theorem codes_decisionReply {limits : Limits} (room : limits.HasRoom) :
    Codes (DecisionReply.Fits (R := R) limits) (readDecisionReply limits) encodeDecisionReply := by
  refine Fields.codes ?_ (fun _ => Iff.rfl) fun _ _ => rfl
  refine .field (codes_statusBlock room) fun status => ?_
  refine .only (codes_decision limits) fun decision => ?_
  refine .done fun record => ?_
  cases record
  simp

/-- Acknowledgement of a request. -/
structure AckReply where
  status : Status

/-- Encode an acknowledgement. -/
def encodeAck (reply : AckReply) : Text := encodeStatus reply.status

/-- Decode an acknowledgement. -/
def decodeAck (limits : Limits) (payload : Text) : Result AckReply := do
  let status ← decodeStatus limits payload
  pure ⟨status⟩

/-- An acknowledgement within the bounds of its codec. -/
def AckReply.Fits (limits : Limits) (reply : AckReply) : Prop := reply.status.Fits limits

theorem bijective_status (limits : Limits) :
    Bijective (Status.Fits limits) encodeStatus (decodeStatus limits) :=
  (codes_status limits).bijective (decodeStatus_eq_ok limits)

theorem bijective_ack (limits : Limits) :
    Bijective (AckReply.Fits limits) encodeAck (decodeAck limits) := by
  have law := (codes_status limits).map AckReply.status fun status reply =>
    (⟨fun ⟨fit, same⟩ => same ▸ ⟨fit, rfl⟩, fun ⟨fit, same⟩ => same ▸ ⟨fit, rfl⟩⟩ :
      status.Fits limits ∧ AckReply.mk status = reply ↔
        reply.Fits limits ∧ reply.status = status)
  refine law.bijective fun payload reply => ?_
  unfold decodeAck
  rw [bind_eq_ok]
  constructor
  · rintro ⟨status, decoded, ended⟩
    obtain rfl : AckReply.mk status = reply := by simpa [pure, Except.pure] using ended
    exact (decodeStatus_eq_ok limits payload status).mp decoded
  · rintro ⟨fit, rfl⟩
    exact ⟨reply.status, (decodeStatus_eq_ok limits _ _).mpr ⟨fit, rfl⟩, rfl⟩

/-! ## The messages as one family -/

/-- The typed messages. -/
inductive MessageKind where
  | registerWorker | registerReply | claimTrial | claimReply | publishObservation | publishArtifact
  | commitTrial | failTrial | cancelTrial | cancelExperiment | finalizeExperiment | rollback
  | heartbeat | status | ack | errorReply | queryRequest | queryResult | valueReply | decisionReply
  | createTrial | forkBranch | reviseHypothesis

namespace MessageKind

/-- The values of a message. -/
def Value (R : Type) : MessageKind → Type
  | registerWorker => RegisterWorkerRequest
  | registerReply => RegisterWorkerReply
  | claimTrial => ClaimTrialRequest
  | claimReply => ClaimTrialReply
  | publishObservation => PublishObservationRequest R
  | publishArtifact => PublishArtifactRequest
  | commitTrial => CommitTrialRequest
  | failTrial => FailTrialRequest
  | cancelTrial => CancelTrialRequest
  | cancelExperiment => CancelExperimentRequest
  | finalizeExperiment => FinalizeExperimentRequest
  | rollback => RollbackRequest
  | heartbeat => Coordinator.HeartbeatRequest
  | status => Status
  | ack => AckReply
  | errorReply => ErrorReply
  | queryRequest => QueryRequest
  | queryResult => QueryResult
  | valueReply => ValueReply
  | decisionReply => DecisionReply R
  | createTrial => CreateTrialRequest
  | forkBranch => ForkBranchRequest
  | reviseHypothesis => ReviseHypothesisRequest

/-- The encoder of a message. -/
def encode : (kind : MessageKind) → kind.Value R → Text
  | registerWorker => encodeRegisterWorker
  | registerReply => encodeRegisterReply
  | claimTrial => encodeClaimTrial
  | claimReply => encodeClaimReply
  | publishObservation => encodePublishObservation
  | publishArtifact => encodePublishArtifact
  | commitTrial => encodeCommitTrial
  | failTrial => encodeFailTrial
  | cancelTrial => encodeCancelTrial
  | cancelExperiment => encodeCancelExperiment
  | finalizeExperiment => encodeFinalizeExperiment
  | rollback => encodeRollback
  | heartbeat => encodeHeartbeat
  | status => encodeStatus
  | ack => encodeAck
  | errorReply => encodeErrorReply
  | queryRequest => encodeQueryRequest
  | queryResult => encodeQueryResult
  | valueReply => encodeValueReply
  | decisionReply => encodeDecisionReply
  | createTrial => encodeCreateTrial
  | forkBranch => encodeForkBranch
  | reviseHypothesis => encodeReviseHypothesis

/-- The decoder of a message. -/
def decode (limits : Limits) : (kind : MessageKind) → Text → Result (kind.Value R)
  | registerWorker => decodeRegisterWorker limits
  | registerReply => decodeRegisterReply limits
  | claimTrial => decodeClaimTrial
  | claimReply => decodeClaimReply limits
  | publishObservation => decodePublishObservation limits
  | publishArtifact => decodePublishArtifact limits
  | commitTrial => decodeCommitTrial limits
  | failTrial => decodeFailTrial limits
  | cancelTrial => decodeCancelTrial limits
  | cancelExperiment => decodeCancelExperiment limits
  | finalizeExperiment => decodeFinalizeExperiment limits
  | rollback => decodeRollback limits
  | heartbeat => decodeHeartbeat
  | status => decodeStatus limits
  | ack => decodeAck limits
  | errorReply => decodeErrorReply limits
  | queryRequest => decodeQueryRequest limits
  | queryResult => decodeQueryResult limits
  | valueReply => decodeValueReply limits
  | decisionReply => decodeDecisionReply limits
  | createTrial => decodeCreateTrial limits
  | forkBranch => decodeForkBranch limits
  | reviseHypothesis => decodeReviseHypothesis limits

/-- The texts, counts, enumerators and numbers of a message are within the bounds of its codec. -/
def Fits (limits : Limits) : (kind : MessageKind) → kind.Value R → Prop
  | registerWorker => RegisterWorkerRequest.Fits limits
  | registerReply => RegisterWorkerReply.Fits limits
  | claimTrial => ClaimTrialRequest.Fits
  | claimReply => ClaimTrialReply.Fits limits
  | publishObservation => PublishObservationRequest.Fits limits
  | publishArtifact => PublishArtifactRequest.Fits limits
  | commitTrial => CommitTrialRequest.Fits limits
  | failTrial => FailTrialRequest.Fits limits
  | cancelTrial => CancelTrialRequest.Fits limits
  | cancelExperiment => CancelExperimentRequest.Fits limits
  | finalizeExperiment => FinalizeExperimentRequest.Fits limits
  | rollback => RollbackRequest.Fits limits
  | heartbeat => Coordinator.HeartbeatRequest.Fits
  | status => Status.Fits limits
  | ack => AckReply.Fits limits
  | errorReply => ErrorReply.Fits limits
  | queryRequest => QueryRequest.Fits limits
  | queryResult => QueryResult.Fits limits
  | valueReply => ValueReply.Fits limits
  | decisionReply => DecisionReply.Fits limits
  | createTrial => CreateTrialRequest.Fits limits
  | forkBranch => ForkBranchRequest.Fits limits
  | reviseHypothesis => ReviseHypothesisRequest.Fits limits

end MessageKind

/-- A reader with a codec law, run to the end of a payload, is bijective. -/
theorem bijective_of_codes {α : Type} {fits : α → Prop} {read : PayloadReader α}
    {write : α → Text} (law : Codes fits read write) :
    Bijective fits write (decodeAll trailingPayloadBytes read) :=
  law.bijective (law.decodeAll_iff trailingPayloadBytes)

/-- Every typed message is encoded bijectively: a message within the bounds of its codec comes
back, no strict prefix and no proper extension of its encoding is accepted, and every accepted
payload is the encoding of its message. -/
theorem messages_bijective (kind : MessageKind) :
    Bijective (kind.Fits (R := R) .defaults) kind.encode (kind.decode .defaults) := by
  have room := Limits.defaults_hasRoom
  cases kind with
  | registerWorker => exact bijective_of_codes (codes_registerWorker _)
  | registerReply => exact bijective_of_codes (codes_registerReply room)
  | claimTrial => exact bijective_of_codes codes_claimTrial
  | claimReply => exact bijective_of_codes (codes_claimReply room)
  | publishObservation => exact bijective_of_codes (codes_publishObservation _)
  | publishArtifact => exact bijective_of_codes (codes_publishArtifact _)
  | commitTrial => exact bijective_of_codes (codes_commitTrial _)
  | failTrial => exact bijective_of_codes (codes_failTrial _)
  | cancelTrial => exact bijective_of_codes (codes_cancelTrial _)
  | cancelExperiment => exact bijective_of_codes (codes_cancelExperiment _)
  | finalizeExperiment => exact bijective_of_codes (codes_finalizeExperiment _)
  | rollback => exact bijective_of_codes (codes_rollback _)
  | heartbeat => exact bijective_of_codes codes_heartbeat
  | status => exact bijective_status _
  | ack => exact bijective_ack _
  | errorReply => exact bijective_of_codes (codes_errorReply room)
  | queryRequest => exact bijective_of_codes (codes_queryRequest _)
  | queryResult => exact bijective_of_codes (codes_queryResult room)
  | valueReply => exact bijective_of_codes (codes_valueReply room)
  | decisionReply => exact bijective_of_codes (codes_decisionReply room)
  | createTrial => exact bijective_of_codes (codes_createTrial _)
  | forkBranch => exact bijective_of_codes (codes_forkBranch _)
  | reviseHypothesis => exact bijective_of_codes (codes_reviseHypothesis _)

end Protocol

end ExperimentFabric
