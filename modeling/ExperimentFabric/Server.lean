import ExperimentFabric.Queries
import ExperimentFabric.Transport
import ExperimentFabric.Session

/-!
# The server

One request frame is decoded, handed to the public operation it names, and answered by one reply
frame.  A frame that names no operation or does not decode changes nothing.  `Frame.request` is what
a frame asks for; the server performs exactly that, so callers on the network have the authority of
callers in the process and no other.
-/

namespace ExperimentFabric

open Lib

/-- The status an operation reports. -/
def Status.ofResult {α : Type} : Result α → Status
  | .ok _ => ⟨.ok, .none, []⟩
  | .error failure => failure

namespace Protocol

variable {R : Type}

/-! ## Reply frames -/

/-- The reply that carries a failure. -/
def makeErrorFrame (correlation : UInt64) (status : Status) : Frame where
  type := .errorReply
  correlation := correlation
  payload := encodeErrorReply ⟨status, status.toText⟩

/-- The reply that acknowledges a request. -/
def makeAckFrame (correlation : UInt64) (status : Status) : Frame where
  type := .ack
  correlation := correlation
  payload := encodeAck ⟨status⟩

/-- The reply that carries an identity. -/
def makeValueFrame (type : MessageType) (correlation : UInt64) (value : Nat) : Frame where
  type := type
  correlation := correlation
  payload := encodeValueReply ⟨.ofResult (.ok ()), value⟩

/-- A registration reply as it travels. -/
def RegisterWorkerReply.ofLocal (reply : ExperimentFabric.RegisterWorkerReply) :
    RegisterWorkerReply where
  epoch := reply.epoch
  boot := reply.boot
  producer := reply.producer
  accepted := reply.accepted
  status := .ofResult reply.status

/-- A claim reply as it travels. -/
def ClaimTrialReply.ofLocal (reply : ExperimentFabric.ClaimTrialReply) : ClaimTrialReply where
  status := .ofResult reply.status
  assignments := reply.assignments

/-- The branch a fork request asks for. -/
def ForkBranchRequest.spec (request : ForkBranchRequest) : BranchSpec where
  name := request.name
  role := request.role
  parameters := request.parameters
  seed := request.seed
  plannedTrials := request.plannedTrials

/-- The revision a revision request asks for. -/
def ReviseHypothesisRequest.spec (request : ReviseHypothesisRequest) : HypothesisRevisionSpec where
  statement := request.statement
  provenance := request.provenance
  expectedDirection := if request.hasDirection then some request.direction else none
  expectedMetric := request.metric

/-- The refusal of a message the coordinator does not serve. -/
def unsupportedMessage (type : MessageType) : Status :=
  ⟨.unsupported, .transport,
    text "message type is not supported by the coordinator: " ++ nameOf type⟩

/-! ## Dispatch -/

namespace Server

/-- Hand a decoded request on; a payload that does not decode is refused. -/
def decoded {α : Type} (c : Coordinator R) (request : Frame) (outcome : Result α)
    (serve : α → Coordinator R × Frame) : Coordinator R × Frame :=
  match outcome with
  | .error failure => (c, makeErrorFrame request.correlation failure)
  | .ok value => serve value

/-- Answer with a status: a failure in an error reply, success in an acknowledgement. -/
def acknowledge (request : Frame) (done : Coordinator R × Result Unit) : Coordinator R × Frame :=
  match done with
  | (c, .error failure) => (c, makeErrorFrame request.correlation failure)
  | (c, .ok ()) => (c, makeAckFrame request.correlation (.ofResult (.ok ())))

/-- Answer with an identity, in a frame of a given type. -/
def answerValue {tag : Tag} (request : Frame) (type : MessageType)
    (done : Coordinator R × Result (StrongId tag)) : Coordinator R × Frame :=
  match done with
  | (c, .error failure) => (c, makeErrorFrame request.correlation failure)
  | (c, .ok id) => (c, makeValueFrame type request.correlation id.value)

variable [MetricReal R] [CanonicalDigests R] [BitPattern R] [ToChars R] [StdSort]

/-- Serve one request frame; `fault` is the outcome of the storage write, if there is one. -/
def dispatch (c : Coordinator R) (request : Frame) (fault : Option SaveFault) :
    Coordinator R × Frame :=
  let limits := c.limits
  let payload := request.payload
  match request.type with
  | .hello => (c, makeValueFrame .helloAck request.correlation c.epoch.value)
  | .registerWorker => decoded c request (decodeRegisterWorker limits payload) fun asked =>
      let (c, reply) := c.registerWorker asked fault
      (c, { type := .registerAck, correlation := request.correlation
            payload := encodeRegisterReply (.ofLocal reply) })
  | .claimTrial => decoded c request (decodeClaimTrial payload) fun asked =>
      let (c, reply) := c.claimTrials asked fault
      (c, { type := .claimResult, correlation := request.correlation
            payload := encodeClaimReply (.ofLocal reply) })
  | .publishObservation =>
      decoded c request (decodePublishObservation limits payload) fun asked =>
        acknowledge request (c.publishObservation asked fault)
  | .publishArtifact => decoded c request (decodePublishArtifact limits payload) fun asked =>
      acknowledge request (c.publishArtifact asked fault)
  | .commitTrial => decoded c request (decodeCommitTrial limits payload) fun asked =>
      acknowledge request (c.commitTrial asked fault)
  | .failTrial => decoded c request (decodeFailTrial limits payload) fun asked =>
      acknowledge request (c.failTrial asked fault)
  | .heartbeat => decoded c request (decodeHeartbeat payload) fun asked =>
      acknowledge request (c.heartbeat asked)
  | .cancelTrial => decoded c request (decodeCancelTrial limits payload) fun asked =>
      acknowledge request (c.cancelTrial asked.trial asked.reason fault)
  | .cancelExperiment => decoded c request (decodeCancelExperiment limits payload) fun asked =>
      acknowledge request (c.cancelExperiment asked.experiment asked.reason fault)
  | .rollback => decoded c request (decodeRollback limits payload) fun asked =>
      acknowledge request (c.rollback asked.experiment asked.targetGeneration asked.reason fault)
  | .createTrial => decoded c request (decodeCreateTrial limits payload) fun asked =>
      answerValue request .createTrial
        (c.createTrial asked.experiment asked.branch asked.payload fault)
  | .forkBranch => decoded c request (decodeForkBranch limits payload) fun asked =>
      answerValue request .forkBranch
        (c.forkBranch asked.experiment asked.parent asked.spec fault)
  | .reviseHypothesis => decoded c request (decodeReviseHypothesis limits payload) fun asked =>
      answerValue request .reviseHypothesis
        (c.reviseHypothesis asked.experiment asked.spec fault)
  | .finalizeExperiment =>
      decoded c request (decodeFinalizeExperiment limits payload) fun asked =>
        match c.finalizeExperiment asked.experiment asked.candidate asked.reason fault with
        | (c, .error failure) => (c, makeErrorFrame request.correlation failure)
        | (c, .ok decision) =>
            (c, { type := .finalizeExperiment, correlation := request.correlation
                  payload := encodeDecisionReply ⟨.ofResult (.ok ()), decision⟩ })
  | .query => decoded c request (decodeQueryRequest limits payload) fun asked =>
      let answer := c.queryLines asked.kind asked.argument
      (c, { type := .queryResult, correlation := request.correlation
            payload := encodeQueryResult ⟨.ofResult answer, answer.toOption.getD []⟩ })
  | .shutdown =>
      (c.requestShutdown, makeAckFrame request.correlation (.ofResult (.ok ())))
  | type => (c, makeErrorFrame request.correlation (unsupportedMessage type))

/-! ## What a frame asks for -/

/-- What a request frame asks for. -/
inductive Ask (R : Type) where
  | hello
  | query (request : QueryRequest)
  | perform (request : Request R)

omit [MetricReal R] [CanonicalDigests R] [ToChars R] [StdSort] in
/-- Decode a request frame into what it asks for. -/
def ask (limits : Limits) (frame : Frame) : Result (Ask R) :=
  let payload := frame.payload
  match frame.type with
  | .hello => .ok .hello
  | .registerWorker =>
      (decodeRegisterWorker limits payload).map fun asked => .perform (.registerWorker asked)
  | .claimTrial => (decodeClaimTrial payload).map fun asked => .perform (.claimTrials asked)
  | .publishObservation =>
      (decodePublishObservation limits payload).map fun asked =>
        .perform (.publishObservation asked)
  | .publishArtifact =>
      (decodePublishArtifact limits payload).map fun asked => .perform (.publishArtifact asked)
  | .commitTrial =>
      (decodeCommitTrial limits payload).map fun asked => .perform (.commitTrial asked)
  | .failTrial => (decodeFailTrial limits payload).map fun asked => .perform (.failTrial asked)
  | .heartbeat => (decodeHeartbeat payload).map fun asked => .perform (.heartbeat asked)
  | .cancelTrial => (decodeCancelTrial limits payload).map fun asked =>
      .perform (.cancelTrial asked.trial asked.reason)
  | .cancelExperiment => (decodeCancelExperiment limits payload).map fun asked =>
      .perform (.cancelExperiment asked.experiment asked.reason)
  | .rollback => (decodeRollback limits payload).map fun asked =>
      .perform (.rollback asked.experiment asked.targetGeneration asked.reason)
  | .createTrial => (decodeCreateTrial limits payload).map fun asked =>
      .perform (.createTrial asked.experiment asked.branch asked.payload)
  | .forkBranch => (decodeForkBranch limits payload).map fun asked =>
      .perform (.forkBranch asked.experiment asked.parent asked.spec)
  | .reviseHypothesis => (decodeReviseHypothesis limits payload).map fun asked =>
      .perform (.reviseHypothesis asked.experiment asked.spec)
  | .finalizeExperiment => (decodeFinalizeExperiment limits payload).map fun asked =>
      .perform (.finalizeExperiment asked.experiment asked.candidate asked.reason)
  | .query => (decodeQueryRequest limits payload).map .query
  | .shutdown => .ok (.perform .requestShutdown)
  | type => .error (unsupportedMessage type)

/-- The reply frame of an operation. -/
def replyFrame (request : Frame) : Reply R → Frame
  | .registration reply =>
      { type := .registerAck, correlation := request.correlation
        payload := encodeRegisterReply (.ofLocal reply) }
  | .claim reply =>
      { type := .claimResult, correlation := request.correlation
        payload := encodeClaimReply (.ofLocal reply) }
  | .decision (.ok decision) =>
      { type := .finalizeExperiment, correlation := request.correlation
        payload := encodeDecisionReply ⟨.ofResult (.ok ()), decision⟩ }
  | .status (.ok ()) => makeAckFrame request.correlation (.ofResult (.ok ()))
  | .trial (.ok id) => makeValueFrame request.type request.correlation id.value
  | .branch (.ok id) => makeValueFrame request.type request.correlation id.value
  | .revision (.ok id) => makeValueFrame request.type request.correlation id.value
  | .experiment (.ok id) => makeValueFrame request.type request.correlation id.value
  | .decision (.error failure) | .status (.error failure) | .trial (.error failure)
  | .branch (.error failure) | .revision (.error failure) | .experiment (.error failure) =>
      makeErrorFrame request.correlation failure

/-- The reply frame of a query. -/
def queryFrame (c : Coordinator R) (request : Frame) (asked : QueryRequest) : Frame :=
  let answer := c.queryLines asked.kind asked.argument
  { type := .queryResult, correlation := request.correlation
    payload := encodeQueryResult ⟨.ofResult answer, answer.toOption.getD []⟩ }

section Answers

variable (request : Frame)

omit [MetricReal R] [CanonicalDigests R] [ToChars R] [StdSort]

theorem acknowledge_eq (done : Coordinator R × Result Unit) :
    acknowledge request done = (done.1, replyFrame request (.status done.2 : Reply R)) := by
  rcases done with ⟨c, failure | ⟨⟩⟩ <;> rfl

/-- The ways an identity is answered. -/
theorem answerValue_eq {tag : Tag} (reply : Result (StrongId tag) → Reply R) {type : MessageType}
    (failed : ∀ failure, replyFrame request (reply (.error failure)) =
      makeErrorFrame request.correlation failure)
    (answered : ∀ id, replyFrame request (reply (.ok id)) =
      makeValueFrame type request.correlation id.value)
    (done : Coordinator R × Result (StrongId tag)) :
    answerValue request type done = (done.1, replyFrame request (reply done.2)) := by
  rcases done with ⟨c, failure | id⟩
  · exact congrArg (Prod.mk c) (failed failure).symm
  · exact congrArg (Prod.mk c) (answered id).symm

end Answers

/-- What the server does with a frame that was understood, or was not. -/
def fulfil (c : Coordinator R) (request : Frame) (fault : Option SaveFault) :
    Result (Ask R) → Coordinator R × Frame
  | .error failure => (c, makeErrorFrame request.correlation failure)
  | .ok .hello => (c, makeValueFrame .helloAck request.correlation c.epoch.value)
  | .ok (.query asked) => (c, queryFrame c request asked)
  | .ok (.perform asked) =>
      ((c.perform asked fault).1, replyFrame request (c.perform asked fault).2)

variable {c : Coordinator R} {request : Frame} {fault : Option SaveFault}

/-- A handler that answers like an operation fulfils the request it decodes. -/
theorem decoded_eq {α : Type} (asks : α → Request R) {serve : α → Coordinator R × Frame}
    (serves : ∀ value, serve value = ((c.perform (asks value) fault).1,
      replyFrame request (c.perform (asks value) fault).2)) (outcome : Result α) :
    decoded c request outcome serve =
      fulfil c request fault (outcome.map fun value => .perform (asks value)) := by
  cases outcome with
  | error failure => rfl
  | ok value => exact serves value

/-- The server does what a frame asks for, and nothing else. -/
theorem dispatch_eq : dispatch c request fault = fulfil c request fault (ask c.limits request) := by
  unfold dispatch ask
  dsimp only
  cases named : request.type with
  | hello => rfl
  | shutdown => rfl
  | query => cases decodeQueryRequest c.limits request.payload <;> rfl
  | registerWorker => exact decoded_eq .registerWorker (fun _ => rfl) _
  | claimTrial => exact decoded_eq .claimTrials (fun _ => rfl) _
  | publishObservation =>
      exact decoded_eq .publishObservation (fun _ => acknowledge_eq request _) _
  | publishArtifact => exact decoded_eq .publishArtifact (fun _ => acknowledge_eq request _) _
  | commitTrial => exact decoded_eq .commitTrial (fun _ => acknowledge_eq request _) _
  | failTrial => exact decoded_eq .failTrial (fun _ => acknowledge_eq request _) _
  | heartbeat => exact decoded_eq .heartbeat (fun _ => acknowledge_eq request _) _
  | cancelTrial =>
      exact decoded_eq (fun asked : CancelTrialRequest => .cancelTrial asked.trial asked.reason)
        (fun _ => acknowledge_eq request _) _
  | cancelExperiment =>
      exact decoded_eq (fun asked : CancelExperimentRequest =>
        .cancelExperiment asked.experiment asked.reason) (fun _ => acknowledge_eq request _) _
  | rollback =>
      exact decoded_eq (fun asked : RollbackRequest =>
        .rollback asked.experiment asked.targetGeneration asked.reason)
        (fun _ => acknowledge_eq request _) _
  | createTrial =>
      exact decoded_eq (fun asked : CreateTrialRequest =>
        .createTrial asked.experiment asked.branch asked.payload)
        (fun _ => answerValue_eq request .trial (fun _ => rfl)
          (fun _ => by rw [← named]; rfl) _) _
  | forkBranch =>
      exact decoded_eq (fun asked : ForkBranchRequest =>
        .forkBranch asked.experiment asked.parent asked.spec)
        (fun _ => answerValue_eq request .branch (fun _ => rfl)
          (fun _ => by rw [← named]; rfl) _) _
  | reviseHypothesis =>
      exact decoded_eq (fun asked : ReviseHypothesisRequest =>
        .reviseHypothesis asked.experiment asked.spec)
        (fun _ => answerValue_eq request .revision (fun _ => rfl)
          (fun _ => by rw [← named]; rfl) _) _
  | finalizeExperiment =>
      refine decoded_eq (fun asked : FinalizeExperimentRequest =>
        .finalizeExperiment asked.experiment asked.candidate asked.reason) (fun asked => ?_) _
      change _ = ((c.finalizeExperiment asked.experiment asked.candidate asked.reason fault).1,
        replyFrame request (.decision
          (c.finalizeExperiment asked.experiment asked.candidate asked.reason fault).2))
      rcases c.finalizeExperiment asked.experiment asked.candidate asked.reason fault with
        ⟨after, failure | decision⟩ <;> rfl
  | _ => rfl

omit [MetricReal R] [CanonicalDigests R] [ToChars R] [StdSort] in
theorem replyFrame_correlation (reply : Reply R) :
    (replyFrame request reply).correlation = request.correlation := by
  rcases reply with result | result | result | result | reply | reply | result | result <;>
    first | rfl | (cases result <;> rfl)

omit [MetricReal R] [CanonicalDigests R] [ToChars R] [StdSort] in
theorem replyFrame_declared (declared : request.type.declared = true) (reply : Reply R) :
    (replyFrame request reply).type.declared = true := by
  rcases reply with result | result | result | result | reply | reply | result | result <;>
    first | rfl | (cases result <;> first | rfl | exact declared)

/-- A reply carries the correlation of its request. -/
theorem dispatch_correlation :
    (dispatch c request fault).2.correlation = request.correlation := by
  rw [dispatch_eq]
  rcases ask c.limits request with failure | ⟨⟨⟩ | asked | asked⟩
  · rfl
  · rfl
  · rfl
  · exact replyFrame_correlation _

theorem dispatch_declared (declared : request.type.declared = true) :
    (dispatch c request fault).2.type.declared = true := by
  rw [dispatch_eq]
  rcases ask c.limits request with failure | ⟨⟨⟩ | asked | asked⟩
  · rfl
  · rfl
  · rfl
  · exact replyFrame_declared declared _

omit [MetricReal R] [CanonicalDigests R] [ToChars R] [StdSort] in
theorem replyFrame_valid (valid : request.type ≠ .invalid) (reply : Reply R) :
    (replyFrame request reply).version = protocolVersion ∧
      (replyFrame request reply).type ≠ .invalid := by
  rcases reply with result | result | result | result | reply | reply | result | result <;>
    first
      | exact ⟨rfl, by simp [replyFrame]⟩
      | (cases result <;>
          first
            | exact ⟨rfl, valid⟩
            | exact ⟨rfl, by simp [replyFrame, makeErrorFrame, makeAckFrame]⟩)

/-- A reply to a frame that fits fits as soon as its payload does. -/
theorem dispatch_fits {limits : Limits} (fit : request.Fits limits)
    (bounded : (dispatch c request fault).2.payload.length ≤ limits.maxFramePayloadBytes) :
    (dispatch c request fault).2.Fits limits := by
  have valid : (dispatch c request fault).2.version = protocolVersion ∧
      (dispatch c request fault).2.type ≠ .invalid := by
    rw [dispatch_eq]
    rcases ask c.limits request with failure | ⟨⟨⟩ | asked | asked⟩
    · exact ⟨rfl, by simp [fulfil, makeErrorFrame]⟩
    · exact ⟨rfl, by simp [fulfil, makeValueFrame]⟩
    · exact ⟨rfl, by simp [fulfil, queryFrame]⟩
    · exact replyFrame_valid fit.type.2 _
  exact ⟨valid.1, ⟨dispatch_declared fit.type.1, valid.2⟩, bounded⟩

/-- A frame performs at most one operation. -/
theorem dispatch_cases :
    (dispatch c request fault).1 = c ∨
      ∃ asked, (dispatch c request fault).1 = (c.perform asked fault).1 := by
  rw [dispatch_eq]
  rcases ask c.limits request with failure | ⟨⟨⟩ | asked | asked⟩
  · exact .inl rfl
  · exact .inl rfl
  · exact .inl rfl
  · exact .inr ⟨asked, rfl⟩

end Server

end Protocol

end ExperimentFabric
