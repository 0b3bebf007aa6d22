import ExperimentFabric.Client

/-!
# Remote calls

A client and the control plane joined by a connection that cuts the bytes into pieces of any sizes,
while other callers act on the coordinator between the calls.  A remote call has the effect of the
same local call and returns its answer, as far as the answer fits into a frame.
-/

namespace ExperimentFabric

open Lib Protocol

variable {R : Type} {limits : Limits}

/-! ## Statuses as they travel -/

/-- A status after its reason was shortened to the bound of its codec. -/
def Status.shortened (status : Status) : Status :=
  { status with reason := status.reason.take 1024 }

/-- The refusal of a code that no sender names. -/
def impossibleErrorCode : Status := Payload.protocolError "impossible error code value"

/-- A status as the other end reads it. -/
def Status.carried (status : Status) : Status :=
  if status.code.number ≤ 22 then status.shortened else impossibleErrorCode

/-- Frames hold every acknowledgement and every error reply. -/
structure Limits.CarriesStatuses (limits : Limits) : Prop extends limits.HasRoom where
  error : 2062 ≤ limits.maxFramePayloadBytes
  strings : 1024 ≤ limits.maxPersistedStringBytes

theorem Limits.defaults_carriesStatuses : Limits.defaults.CarriesStatuses where
  toHasRoom := defaults_hasRoom
  error := by decide
  strings := by decide

namespace Protocol

@[simp]
theorem writeText_take (maximum : Nat) (value : Text) :
    writeText maximum (value.take maximum) = writeText maximum value := by
  have same : min (min maximum value.length) maximum = min value.length maximum := by omega
  rw [writeText, writeText, List.length_take, List.take_take, min_self, same]

@[simp]
theorem encodeStatus_shortened (status : Status) :
    encodeStatus status.shortened = encodeStatus status := by
  simp [encodeStatus, Status.shortened]

theorem encodeStatus_length (status : Status) : (encodeStatus status).length ≤ 1030 := by
  simp [encodeStatus, writeErrorCode, writeEnum, writeText, writeU8, writeU32]
  omega

theorem encodeErrorReply_length (reply : ErrorReply) :
    (encodeErrorReply reply).length ≤ 2062 := by
  have status := encodeStatus_length reply.status
  simp [encodeErrorReply, writeStatusBlock, writeText, writeU32]
  omega

theorem shortened_fits (carries : limits.CarriesStatuses) {status : Status}
    (named : status.code.number ≤ 22) : status.shortened.Fits limits := by
  have short : status.shortened.reason.length ≤ 1024 := List.length_take_le _ _
  exact ⟨named, short, short.trans carries.strings⟩

/-- A block is decoded to the status that is carried. -/
theorem decodeStatus_encode (carries : limits.CarriesStatuses) (status : Status) :
    decodeStatus limits (encodeStatus status) =
      if status.code.number ≤ 22 then .ok status.shortened else .error impossibleErrorCode := by
  split
  · rename_i named
    rw [← encodeStatus_shortened]
    exact (decodeStatus_eq_ok limits _ _).mpr ⟨shortened_fits carries named, rfl⟩
  · rename_i unnamed
    have short : status.shortened.reason.length ≤ 1024 := List.length_take_le _ _
    have read : decodeAll trailingPayloadBytes (readStatus limits) (encodeStatus status) =
        .ok ⟨status.code, status.stage, status.shortened.reason⟩ := by
      rw [(codes_rawStatus limits).decodeAll_iff]
      exact ⟨⟨short, short.trans carries.strings⟩, (encodeStatus_shortened status).symm⟩
    unfold decodeStatus
    rw [read]
    simp [bind, Except.bind, require, unnamed, impossibleErrorCode]

/-- A status block is read in front of anything. -/
theorem readStatusBlock_write (carries : limits.CarriesStatuses) (status : Status) (rest : Text) :
    readStatusBlock limits (writeStatusBlock status ++ rest) =
      if status.code.number ≤ 22 then .ok (status.shortened, rest)
      else .error impossibleErrorCode := by
  have bounded : (encodeStatus status).length ≤ limits.maxFramePayloadBytes :=
    (encodeStatus_length status).trans carries.status
  have count : readCount limits.maxFramePayloadBytes (writeStatusBlock status ++ rest) =
      .ok ((encodeStatus status).length, encodeStatus status ++ rest) := by
    rw [codes_count carries.frame]
    exact ⟨bounded, by rw [writeStatusBlock, List.append_assoc]⟩
  have block : takeBytes payloadTruncated (encodeStatus status).length
      (encodeStatus status ++ rest) = .ok (encodeStatus status, rest) :=
    takeBytes_eq_ok.mpr ⟨rfl, rfl⟩
  simp only [readStatusBlock, bind, StateT.bind, count, Except.bind, block,
    decodeStatus_encode carries]
  split <;> rfl

/-- An error reply is read as the status it carries. -/
theorem decodeErrorReply_encode (carries : limits.CarriesStatuses) (reply : ErrorReply) :
    (match decodeErrorReply limits (encodeErrorReply reply) with
      | .error failure => failure
      | .ok read => read.status) = reply.status.carried := by
  by_cases named : reply.status.code.number ≤ 22
  · have short : (reply.detail.take 1024).length ≤ 1024 := List.length_take_le _ _
    have fit : ErrorReply.Fits limits ⟨reply.status.shortened, reply.detail.take 1024⟩ :=
      ⟨shortened_fits carries named, short, short.trans carries.strings⟩
    have same : encodeErrorReply ⟨reply.status.shortened, reply.detail.take 1024⟩ =
        encodeErrorReply reply := by simp [encodeErrorReply, writeStatusBlock]
    have read := (codes_errorReply carries.toHasRoom).decodeAll_iff trailingPayloadBytes
      (encodeErrorReply reply) ⟨reply.status.shortened, reply.detail.take 1024⟩
    rw [decodeErrorReply, read.mpr ⟨fit, same.symm⟩]
    simp [Status.carried, named]
  · have refused : decodeErrorReply limits (encodeErrorReply reply) =
        .error impossibleErrorCode := by
      have block := readStatusBlock_write carries reply.status (writeText 1024 reply.detail)
      rw [if_neg named] at block
      simp only [decodeErrorReply, encodeErrorReply, Lib.decodeAll, readErrorReply,
        List.flatten_cons, List.flatten_nil, List.append_nil, bind, StateT.bind, block, Except.bind]
    rw [refused]
    simp [Status.carried, named]

end Protocol

/-! ## The two ends of a connection -/

/-- A transport that cuts bytes into pieces and loses none. -/
structure Cut where
  pieces : Text → List Delivery
  whole : ∀ bytes, pendingBytes (pieces bytes) = bytes
  reliable : ∀ bytes, Reliable (pieces bytes)

/-- What happens around one exchange: what other callers do before it, the outcome of its storage
write, and how the transport carries its two frames. -/
structure Turn (R : Type) where
  others : List (Request R × Option SaveFault) := []
  kept : ∀ request ∈ others, request.1.controls = false
  fault : Option SaveFault := none
  arrives : Cut
  returns : Cut
  accepts : List Acceptance
  roomy : 2 ^ 32 + frameHeaderBytes ≤ capacity accepts

/-- A coordinator and the server's end of one connection. -/
structure Link (R : Type) where
  coordinator : Coordinator R
  connection : ServerConnection

/-- Bytes arrive at the server's end. -/
def ServerConnection.deliver (peer : ServerConnection) (found : List Delivery) : ServerConnection :=
  { peer with
    connection := peer.connection.deliver found
    stream := peer.stream ++ pendingBytes found }

/-- A reply that fits is sent, and the connection stays open. -/
theorem ServerConnection.answer_fits {peer : ServerConnection} (opened : peer.connection.isOpen)
    {reply : Frame} (fit : reply.Fits peer.limits) {accepts : List Acceptance}
    (room : reply.bytes.length ≤ capacity accepts) :
    peer.answer reply accepts = { peer with outgoing := peer.outgoing ++ reply.bytes } := by
  unfold answer
  rw [TcpConnection.sendFrame_of_capacity opened fit room]

/-- A reply beyond the bound of a frame closes the connection. -/
theorem ServerConnection.answer_oversized (peer : ServerConnection) {reply : Frame}
    (large : peer.limits.maxFramePayloadBytes < reply.payload.length) (accepts : List Acceptance) :
    peer.answer reply accepts = { peer with connection := peer.connection.close } := by
  obtain ⟨failure, refused⟩ := peer.connection.sendFrame_oversized large accepts
  unfold answer
  rw [refused]
  simp [close]

section Calls

/-! ## The calls of a client -/

/-- A call of a client that performs an operation. -/
inductive Call (R : Type) where
  | registerWorker (request : RegisterWorkerRequest)
  | claimTrials (request : ClaimTrialRequest)
  | publishObservation (request : PublishObservationRequest R)
  | publishArtifact (request : PublishArtifactRequest)
  | commitTrial (request : CommitTrialRequest)
  | failTrial (request : FailTrialRequest)
  | heartbeat (request : Coordinator.HeartbeatRequest)
  | cancelTrial (request : CancelTrialRequest)
  | cancelExperiment (request : CancelExperimentRequest)
  | finalizeExperiment (request : FinalizeExperimentRequest)
  | rollback (request : RollbackRequest)

/-- What a call returns. -/
inductive Answer (R : Type) where
  | registration (result : Result Protocol.RegisterWorkerReply)
  | claim (result : Result Protocol.ClaimTrialReply)
  | decision (result : Result (Decision R))
  | status (status : Status)

namespace Call

/-- The type of the frame of a call. -/
def type : Call R → MessageType
  | registerWorker _ => .registerWorker
  | claimTrials _ => .claimTrial
  | publishObservation _ => .publishObservation
  | publishArtifact _ => .publishArtifact
  | commitTrial _ => .commitTrial
  | failTrial _ => .failTrial
  | heartbeat _ => .heartbeat
  | cancelTrial _ => .cancelTrial
  | cancelExperiment _ => .cancelExperiment
  | finalizeExperiment _ => .finalizeExperiment
  | rollback _ => .rollback

variable [BitPattern R]

/-- The payload of the frame of a call. -/
def payload : Call R → Text
  | registerWorker request => encodeRegisterWorker request
  | claimTrials request => encodeClaimTrial request
  | publishObservation request => encodePublishObservation request
  | publishArtifact request => encodePublishArtifact request
  | commitTrial request => encodeCommitTrial request
  | failTrial request => encodeFailTrial request
  | heartbeat request => encodeHeartbeat request
  | cancelTrial request => encodeCancelTrial request
  | cancelExperiment request => encodeCancelExperiment request
  | finalizeExperiment request => encodeFinalizeExperiment request
  | rollback request => encodeRollback request

/-- The operation a call asks for. -/
def asked : Call R → Request R
  | registerWorker request => .registerWorker request
  | claimTrials request => .claimTrials request
  | publishObservation request => .publishObservation request
  | publishArtifact request => .publishArtifact request
  | commitTrial request => .commitTrial request
  | failTrial request => .failTrial request
  | heartbeat request => .heartbeat request
  | cancelTrial request => .cancelTrial request.trial request.reason
  | cancelExperiment request => .cancelExperiment request.experiment request.reason
  | finalizeExperiment request =>
      .finalizeExperiment request.experiment request.candidate request.reason
  | rollback request => .rollback request.experiment request.targetGeneration request.reason

/-- The request of a call is within the bounds of its codec. -/
def RequestFits (limits : Limits) : Call R → Prop
  | registerWorker request => RegisterWorkerRequest.Fits limits request
  | claimTrials request => ClaimTrialRequest.Fits request
  | publishObservation request => PublishObservationRequest.Fits limits request
  | publishArtifact request => PublishArtifactRequest.Fits limits request
  | commitTrial request => CommitTrialRequest.Fits limits request
  | failTrial request => FailTrialRequest.Fits limits request
  | heartbeat request => Coordinator.HeartbeatRequest.Fits request
  | cancelTrial request => request.Fits limits
  | cancelExperiment request => request.Fits limits
  | finalizeExperiment request => request.Fits limits
  | rollback request => request.Fits limits

/-- A call that can be sent as it is. -/
structure Fits (limits : Limits) (call : Call R) : Prop where
  request : call.RequestFits limits
  bounded : call.payload.length ≤ limits.maxFramePayloadBytes

omit [BitPattern R] in
theorem type_valid (call : Call R) : call.type.declared = true ∧ call.type ≠ .invalid := by
  cases call <;> exact ⟨rfl, by simp [type]⟩

/-- The frame of a call that fits. -/
theorem Fits.frame {call : Call R} (fit : call.Fits limits) (client : Client) :
    (client.frame call.type call.payload).Fits limits :=
  ⟨rfl, call.type_valid, fit.bounded⟩

omit [BitPattern R] in
/-- A payload that is decoded asks for the operation on what it is decoded to. -/
theorem ask_decoded {α : Type} {outcome : Result α} {value : α}
    (asks : α → Request R) (read : outcome = .ok value) :
    (outcome.map fun value => Server.Ask.perform (asks value)) = .ok (.perform (asks value)) := by
  rw [read]
  rfl

/-- The server understands what a call asks for. -/
theorem asks {call : Call R} (fit : call.RequestFits limits) (client : Client) :
    Server.ask limits (client.frame call.type call.payload) = .ok (.perform call.asked) := by
  cases call with
  | registerWorker request =>
      exact ask_decoded .registerWorker
        ((bijective_of_codes (codes_registerWorker limits)).decode_encode request fit)
  | claimTrials request =>
      exact ask_decoded .claimTrials
        ((bijective_of_codes codes_claimTrial).decode_encode request fit)
  | publishObservation request =>
      exact ask_decoded .publishObservation
        ((bijective_of_codes (codes_publishObservation limits)).decode_encode request fit)
  | publishArtifact request =>
      exact ask_decoded .publishArtifact
        ((bijective_of_codes (codes_publishArtifact limits)).decode_encode request fit)
  | commitTrial request =>
      exact ask_decoded .commitTrial
        ((bijective_of_codes (codes_commitTrial limits)).decode_encode request fit)
  | failTrial request =>
      exact ask_decoded .failTrial
        ((bijective_of_codes (codes_failTrial limits)).decode_encode request fit)
  | heartbeat request =>
      exact ask_decoded .heartbeat
        ((bijective_of_codes codes_heartbeat).decode_encode request fit)
  | cancelTrial request =>
      exact ask_decoded (fun asked : CancelTrialRequest => .cancelTrial asked.trial asked.reason)
        ((bijective_of_codes (codes_cancelTrial limits)).decode_encode request fit)
  | cancelExperiment request =>
      exact ask_decoded (fun asked : CancelExperimentRequest =>
          .cancelExperiment asked.experiment asked.reason)
        ((bijective_of_codes (codes_cancelExperiment limits)).decode_encode request fit)
  | finalizeExperiment request =>
      exact ask_decoded (fun asked : FinalizeExperimentRequest =>
          .finalizeExperiment asked.experiment asked.candidate asked.reason)
        ((bijective_of_codes (codes_finalizeExperiment limits)).decode_encode request fit)
  | rollback request =>
      exact ask_decoded (fun asked : RollbackRequest =>
          .rollback asked.experiment asked.targetGeneration asked.reason)
        ((bijective_of_codes (codes_rollback limits)).decode_encode request fit)

end Call

variable [BitPattern R]

/-- Make a call. -/
def Client.call {σ : Type} (client : Client) (peer : Peer σ) (world : σ) :
    Call R → σ × Client × Answer R
  | .registerWorker request =>
      let (world, client, result) := client.registerWorker peer world request
      (world, client, .registration result)
  | .claimTrials request =>
      let (world, client, result) := client.claimTrials peer world request
      (world, client, .claim result)
  | .publishObservation request =>
      let (world, client, status) := client.publishObservation peer world request
      (world, client, .status status)
  | .publishArtifact request =>
      let (world, client, status) := client.publishArtifact peer world request
      (world, client, .status status)
  | .commitTrial request =>
      let (world, client, status) := client.commitTrial peer world request
      (world, client, .status status)
  | .failTrial request =>
      let (world, client, status) := client.failTrial peer world request
      (world, client, .status status)
  | .heartbeat request =>
      let (world, client, status) := client.heartbeat peer world request
      (world, client, .status status)
  | .cancelTrial request =>
      let (world, client, status) := client.cancelTrial peer world request
      (world, client, .status status)
  | .cancelExperiment request =>
      let (world, client, status) := client.cancelExperiment peer world request
      (world, client, .status status)
  | .finalizeExperiment request =>
      let (world, client, result) := client.finalizeExperiment peer world request
      (world, client, .decision result)
  | .rollback request =>
      let (world, client, status) := client.rollback peer world request
      (world, client, .status status)

/-! ## Answers as they are read -/

/-- A local reply and the answer a remote caller reads. -/
inductive Reads : Reply R → Answer R → Prop where
  | registration (reply : ExperimentFabric.RegisterWorkerReply) :
      Reads (.registration reply) (.registration (.ok (.ofLocal reply)))
  | claim (reply : ExperimentFabric.ClaimTrialReply) :
      Reads (.claim reply) (.claim (.ok (.ofLocal reply)))
  | decision (decision : Decision R) : Reads (.decision (.ok decision)) (.decision (.ok decision))
  | undecided (failure : Status) :
      Reads (.decision (.error failure)) (.decision (.error failure.carried))
  | status (result : Result Unit) :
      Reads (.status result) (.status (Status.ofResult result).carried)

/-- A reply within the bounds of its codec and of a frame.  Every status is. -/
def Reply.Travels (limits : Limits) : Reply R → Prop
  | .registration reply => RegisterWorkerReply.Fits limits (.ofLocal reply)
  | .claim reply => ClaimTrialReply.Fits limits (.ofLocal reply) ∧
      (encodeClaimReply (.ofLocal reply)).length ≤ limits.maxFramePayloadBytes
  | .decision (.ok decided) => decided.Fits limits ∧
      (encodeDecisionReply ⟨.ofResult (.ok ()), decided⟩).length ≤ limits.maxFramePayloadBytes
  | _ => True

/-- What the client makes of a reply frame that answers its request. -/
theorem Client.checkReply_error (carries : limits.CarriesStatuses) (correlation : UInt64)
    (status : Status) :
    Client.checkReply limits correlation (makeErrorFrame correlation status) =
      .error status.carried := by
  have read := decodeErrorReply_encode carries ⟨status, status.toText⟩
  simp only [Client.checkReply, makeErrorFrame, ne_eq, not_true_eq_false, if_false, if_true]
  rcases decoded : decodeErrorReply limits (encodeErrorReply ⟨status, status.toText⟩) with
    failure | reply <;> rw [decoded] at read <;> rw [← read]

theorem Client.checkReply_answer {correlation : UInt64} {reply : Frame}
    (correlated : reply.correlation = correlation) (answer : reply.type ≠ .errorReply) :
    Client.checkReply limits correlation reply = .ok reply := by
  simp [Client.checkReply, correlated, answer]

theorem Client.decodeAck_encode (correlation : UInt64) :
    Client.decodeAck limits (makeAckFrame correlation (.ofResult (.ok ()))) =
      (Status.ofResult (.ok ())).carried := by
  have read : Protocol.decodeAck limits (encodeAck ⟨.ofResult (.ok ())⟩) =
      .ok ⟨(Status.ofResult (.ok ())).carried⟩ := by
    refine (bijective_ack limits).decode_encode ⟨_⟩ ⟨by decide, ?_⟩
    exact ⟨Nat.zero_le _, Nat.zero_le _⟩
  simp [Client.decodeAck, makeAckFrame, read]

end Calls

section Links

variable [MetricReal R] [CanonicalDigests R] [BitPattern R] [ToChars R] [StdSort]

/-- The server's end of a connection as the peer of a client: one pass of its serving loop. -/
def Link.exchange (turn : Turn R) : Peer (Link R) := fun link bytes =>
  let (after, next, _) := (link.connection.deliver (turn.arrives.pieces bytes)).serve
    (link.coordinator.session turn.others) 0 turn.accepts turn.fault
  (⟨after, next⟩,
    some (turn.returns.pieces (next.outgoing.drop link.connection.outgoing.length)))

omit [MetricReal R] [CanonicalDigests R] [BitPattern R] [ToChars R] [StdSort] in
/-- A client and a server agree on their limits, and nothing is on its way between them. -/
structure Linked (client : Client) (link : Link R) : Prop where
  limits : client.limits = link.coordinator.limits
  accepted : link.connection.limits = link.coordinator.limits
  client : ∃ connection, client.connection = some connection ∧ connection.Sound ∧
    connection.pending = []
  server : link.connection.connection.Sound
  quiet : link.connection.connection.pending = []

omit [BitPattern R] [ToChars R] [StdSort] in
theorem session_config (c : Coordinator R) (requests : List (Request R × Option SaveFault)) :
    (c.session requests).config = c.config := by
  induction requests generalizing c with
  | nil => rfl
  | cons request rest ih =>
      exact (ih (c.perform request.1 request.2).1).trans
        (c.perform_operated request.1 request.2).config

/-! ## One exchange -/

/-- The server receives the frame that was sent to it, however it was cut. -/
theorem ServerConnection.serve_delivered {peer : ServerConnection}
    (words : peer.limits.maxFramePayloadBytes < 2 ^ 32) (sound : peer.connection.Sound)
    (quiet : peer.connection.pending = []) {frame : Frame} (fit : frame.Fits peer.limits)
    (cut : Cut) (c : Coordinator R) (index : Nat) (accepts : List Acceptance)
    (fault : Option SaveFault) :
    ∃ connection : TcpConnection, connection.Sound ∧ connection.pending = [] ∧
      (peer.deliver (cut.pieces frame.bytes)).serve c index accepts fault =
        ((Server.dispatch c frame fault).1,
          { peer.deliver (cut.pieces frame.bytes) with connection }.answer
            (Server.dispatch c frame fault).2 accepts,
          [.exchange index frame (Server.dispatch c frame fault).2 fault]) := by
  have arrives :
      (peer.connection.deliver (cut.pieces frame.bytes)).pending = frame.bytes ++ [] := by
    rw [TcpConnection.deliver_pending, quiet, cut.whole, List.nil_append, List.append_nil]
  obtain ⟨next, received, left, nextSound⟩ :=
    TcpConnection.receiveFrame_of_pending words (sound.deliver (cut.reliable _)) fit arrives
  have pass : (peer.deliver (cut.pieces frame.bytes)).connection.receiveFrame
      (peer.deliver (cut.pieces frame.bytes)).limits = (.ok frame, next) := received
  refine ⟨next, nextSound, left, ?_⟩
  unfold serve
  rw [pass]

namespace Linked

variable {client : Client} {link : Link R} (linked : Linked client link) (turn : Turn R)

/-- The exchange that serves the next request of a client. -/
def served (client : Client) (link : Link R) (turn : Turn R) (type : MessageType) (payload : Text) :
    Coordinator R × Frame :=
  Server.dispatch (link.coordinator.session turn.others) (client.frame type payload) turn.fault

include linked in
/-- The server's end of an exchange. -/
theorem exchange_eq (words : client.limits.maxFramePayloadBytes < 2 ^ 32) {type : MessageType}
    {payload : Text} (fit : (client.frame type payload).Fits client.limits) :
    ∃ connection : TcpConnection, connection.Sound ∧ connection.pending = [] ∧
      (Link.exchange turn link (client.frame type payload).bytes).1 =
        ⟨(served client link turn type payload).1,
          { link.connection.deliver (turn.arrives.pieces (client.frame type payload).bytes) with
            connection }.answer (served client link turn type payload).2 turn.accepts⟩ := by
  have limits := linked.accepted.trans linked.limits.symm
  rw [← limits] at words fit
  obtain ⟨connection, sound, quiet, pass⟩ := ServerConnection.serve_delivered words linked.server
    linked.quiet fit turn.arrives (link.coordinator.session turn.others) 0 turn.accepts turn.fault
  refine ⟨connection, sound, quiet, ?_⟩
  unfold Link.exchange
  rw [pass]
  rfl

/-- Serving keeps the limits of the coordinator. -/
theorem served_limits (client : Client) (link : Link R) (turn : Turn R) (type : MessageType)
    (payload : Text) :
    (served client link turn type payload).1.limits = link.coordinator.limits := by
  have process := (Server.dispatch_process (link.coordinator.session turn.others)
    (client.frame type payload) turn.fault).1
  exact congrArg Config.limits (process.trans (session_config _ _))

include linked in
/-- A request whose reply fits into a frame is answered, and the two ends stay linked. -/
theorem request_delivered (words : client.limits.maxFramePayloadBytes < 2 ^ 32) {type : MessageType}
    {payload : Text} (fit : (client.frame type payload).Fits client.limits)
    (bounded : (served client link turn type payload).2.payload.length ≤
      client.limits.maxFramePayloadBytes) :
    ∃ after next, client.request (Link.exchange turn) link type payload =
        (after, next, Client.checkReply client.limits (client.correlation + 1)
          (served client link turn type payload).2) ∧
      after.coordinator = (served client link turn type payload).1 ∧ Linked next after ∧
      next.limits = client.limits := by
  have limits := linked.accepted.trans linked.limits.symm
  obtain ⟨local_, connected, sound, quiet⟩ := linked.client
  obtain ⟨remote, remoteSound, remoteQuiet, exchanged⟩ := linked.exchange_eq turn words fit
  have replyFits : (served client link turn type payload).2.Fits client.limits :=
    Server.dispatch_fits fit bounded
  have room : (served client link turn type payload).2.bytes.length ≤ capacity turn.accepts := by
    rw [Frame.bytes_length]
    have roomy := turn.roomy
    omega
  rw [ServerConnection.answer_fits remoteSound.isOpen (limits ▸ replyFits) room] at exchanged
  generalize reply_eq : (served client link turn type payload).2 = reply at *
  have found : Link.exchange turn link (client.frame type payload).bytes =
      ((Link.exchange turn link (client.frame type payload).bytes).1,
        some (turn.returns.pieces reply.bytes)) := by
    refine Prod.ext rfl (congrArg some (congrArg turn.returns.pieces ?_))
    change ((Link.exchange turn link (client.frame type payload).bytes).1.connection.outgoing).drop
      link.connection.outgoing.length = _
    rw [exchanged]
    exact List.drop_left
  have arrives :
      (local_.deliver (turn.returns.pieces reply.bytes)).pending = reply.bytes ++ [] := by
    rw [TcpConnection.deliver_pending, quiet, turn.returns.whole, List.nil_append, List.append_nil]
  obtain ⟨next, received, left, nextSound⟩ := TcpConnection.receiveFrame_of_pending words
    (sound.deliver (turn.returns.reliable _)) replyFits arrives
  have requested := Client.request_eq connected sound.isOpen fit found
  rw [received] at requested
  refine ⟨_, _, requested, by rw [exchanged], ?_, rfl⟩
  have same := served_limits client link turn type payload
  constructor
  · rw [exchanged]
    exact linked.limits.trans same.symm
  · rw [exchanged]
    exact linked.accepted.trans same.symm
  · exact ⟨next, by rw [Client.after, received], nextSound, left⟩
  · rw [exchanged]
    exact remoteSound
  · rw [exchanged]
    exact remoteQuiet

include linked in
/-- A request whose reply does not fit into a frame has been performed, and looks to the client as
if there were no coordinator. -/
theorem request_oversized (words : client.limits.maxFramePayloadBytes < 2 ^ 32) {type : MessageType}
    {payload : Text} (fit : (client.frame type payload).Fits client.limits)
    (large : client.limits.maxFramePayloadBytes <
      (served client link turn type payload).2.payload.length) :
    ∃ after next, client.request (Link.exchange turn) link type payload =
        (after, next, .error (transportError .notFound (text "peer closed the connection"))) ∧
      after.coordinator = (served client link turn type payload).1 ∧
      after.connection.connection.isOpen = false := by
  have limits := linked.accepted.trans linked.limits.symm
  obtain ⟨local_, connected, sound, quiet⟩ := linked.client
  obtain ⟨remote, -, -, exchanged⟩ := linked.exchange_eq turn words fit
  rw [ServerConnection.answer_oversized _ (by rw [← limits] at large; exact large)] at exchanged
  have found : Link.exchange turn link (client.frame type payload).bytes =
      ((Link.exchange turn link (client.frame type payload).bytes).1,
        some (turn.returns.pieces [])) := by
    refine Prod.ext rfl (congrArg some (congrArg turn.returns.pieces ?_))
    change ((Link.exchange turn link (client.frame type payload).bytes).1.connection.outgoing).drop
      link.connection.outgoing.length = _
    rw [exchanged]
    exact List.drop_length
  have idle : (local_.deliver (turn.returns.pieces [])).pending = [] := by
    rw [TcpConnection.deliver_pending, quiet, turn.returns.whole, List.nil_append]
  obtain ⟨next, received⟩ := @TcpConnection.receiveFrame_idle client.limits _
    (sound.deliver (turn.returns.reliable _)) idle
  have requested := Client.request_eq connected sound.isOpen fit found
  rw [received] at requested
  exact ⟨_, _, requested, by rw [exchanged], by rw [exchanged]; rfl⟩

/-- What serving a call does. -/
theorem served_call (client : Client) {call : Call R}
    (fit : call.RequestFits link.coordinator.limits) :
    served client link turn call.type call.payload =
      (((link.coordinator.session turn.others).perform call.asked turn.fault).1,
        Server.replyFrame (client.frame call.type call.payload)
          ((link.coordinator.session turn.others).perform call.asked turn.fault).2) := by
  have same : (link.coordinator.session turn.others).limits = link.coordinator.limits :=
    congrArg Config.limits (session_config _ _)
  unfold served
  rw [Server.dispatch_eq, Call.asks (same ▸ fit) client]
  rfl

variable {linked turn}

/-- A call that is acknowledged returns the status of the operation as it is carried. -/
theorem acknowledged {call : Call R} (linked : Linked client link)
    (carries : client.limits.CarriesStatuses) (fit : call.Fits client.limits)
    {result : Result Unit}
    (replies : ((link.coordinator.session turn.others).perform call.asked turn.fault).2 =
      .status result) :
    ∃ after next, client.acknowledged (Link.exchange turn) link call.type call.payload =
        (after, next, (Status.ofResult result).carried) ∧
      after.coordinator =
        ((link.coordinator.session turn.others).perform call.asked turn.fault).1 ∧
      Linked next after ∧ next.limits = client.limits := by
  have serves := served_call turn client (linked.limits ▸ fit.request)
  rw [replies] at serves
  have bounded : (served client link turn call.type call.payload).2.payload.length ≤
      client.limits.maxFramePayloadBytes := by
    rw [serves]
    rcases result with failure | ⟨⟨⟩⟩
    · exact (encodeErrorReply_length _).trans carries.error
    · exact (encodeStatus_length _).trans carries.status
  obtain ⟨after, next, requested, performed, stays, limits⟩ :=
    linked.request_delivered turn carries.frame (fit.frame client) bounded
  refine ⟨after, next, ?_, by rw [performed, serves], stays, limits⟩
  rw [serves] at requested
  dsimp only at requested
  rcases result with failure | ⟨⟨⟩⟩
  · have refused : Client.checkReply client.limits (client.correlation + 1)
        (Server.replyFrame (client.frame call.type call.payload)
          (.status (.error failure) : Reply R)) = .error failure.carried :=
      Client.checkReply_error carries _ failure
    rw [refused] at requested
    exact Client.acknowledged_error requested
  · have answers : Client.checkReply client.limits (client.correlation + 1)
        (Server.replyFrame (client.frame call.type call.payload) (.status (.ok ()) : Reply R)) =
          .ok (makeAckFrame (client.correlation + 1) (.ofResult (.ok ()))) :=
      Client.checkReply_answer rfl (by simp [Server.replyFrame, makeAckFrame])
    rw [answers] at requested
    rw [Client.acknowledged_ok requested, limits, Client.decodeAck_encode]

/-- A call that is answered by a value returns what the reply is decoded to. -/
theorem answered {α : Type} {call : Call R} (linked : Linked client link)
    (words : client.limits.maxFramePayloadBytes < 2 ^ 32) (fit : call.Fits client.limits)
    (expected : MessageType) (what : Text) {reply : Reply R} {carried : Text}
    (replies : ((link.coordinator.session turn.others).perform call.asked turn.fault).2 = reply)
    (replied : Server.replyFrame (client.frame call.type call.payload) reply =
      { type := expected, correlation := client.correlation + 1, payload := carried })
    (answer : expected ≠ .errorReply)
    (bounded : carried.length ≤ client.limits.maxFramePayloadBytes)
    (decode : Limits → Text → Result α) :
    ∃ after next, client.answered (Link.exchange turn) link call.type call.payload expected what
        decode = (after, next, decode client.limits carried) ∧
      after.coordinator =
        ((link.coordinator.session turn.others).perform call.asked turn.fault).1 ∧
      Linked next after ∧ next.limits = client.limits := by
  have serves := served_call turn client (linked.limits ▸ fit.request)
  rw [replies, replied] at serves
  obtain ⟨after, next, requested, performed, stays, limits⟩ :=
    linked.request_delivered turn words (fit.frame client) (by rw [serves]; exact bounded)
  rw [serves] at requested
  dsimp only at requested
  have answers : Client.checkReply client.limits (client.correlation + 1)
      { type := expected, correlation := client.correlation + 1, payload := carried } =
        .ok { type := expected, correlation := client.correlation + 1, payload := carried } :=
    Client.checkReply_answer rfl answer
  rw [answers] at requested
  refine ⟨after, next, ?_, by rw [performed, serves], stays, limits⟩
  rw [Client.answered_ok requested rfl, limits]

/-- A call whose operation fails with an error reply returns the failure as it is carried. -/
theorem refused {α : Type} {call : Call R} (linked : Linked client link)
    (carries : client.limits.CarriesStatuses) (fit : call.Fits client.limits)
    (expected : MessageType) (what : Text) {reply : Reply R} {failure : Status}
    (replies : ((link.coordinator.session turn.others).perform call.asked turn.fault).2 = reply)
    (replied : Server.replyFrame (client.frame call.type call.payload) reply =
      makeErrorFrame (client.correlation + 1) failure)
    (decode : Limits → Text → Result α) :
    ∃ after next, client.answered (Link.exchange turn) link call.type call.payload expected what
        decode = (after, next, .error failure.carried) ∧
      after.coordinator =
        ((link.coordinator.session turn.others).perform call.asked turn.fault).1 ∧
      Linked next after ∧ next.limits = client.limits := by
  have serves := served_call turn client (linked.limits ▸ fit.request)
  rw [replies, replied] at serves
  have bounded : (served client link turn call.type call.payload).2.payload.length ≤
      client.limits.maxFramePayloadBytes := by
    rw [serves]
    exact (encodeErrorReply_length _).trans carries.error
  obtain ⟨after, next, requested, performed, stays, limits⟩ :=
    linked.request_delivered turn carries.frame (fit.frame client) bounded
  rw [serves] at requested
  dsimp only at requested
  rw [Client.checkReply_error carries] at requested
  exact ⟨after, next, Client.answered_error requested, by rw [performed, serves], stays, limits⟩

/-- What a remote call and the local operation have in common. -/
def Agrees (client : Client) (link : Link R) (turn : Turn R) (call : Call R) : Prop :=
  ∃ after next answer, client.call (Link.exchange turn) link call = (after, next, answer) ∧
    after.coordinator =
      ((link.coordinator.session turn.others).perform call.asked turn.fault).1 ∧
    Reads ((link.coordinator.session turn.others).perform call.asked turn.fault).2 answer ∧
    Linked next after ∧ next.limits = client.limits

theorem agrees_acknowledged (linked : Linked client link)
    (carries : client.limits.CarriesStatuses) {call : Call R} (fit : call.Fits client.limits)
    (shape : client.call (Link.exchange turn) link call =
      ((client.acknowledged (Link.exchange turn) link call.type call.payload).1,
        (client.acknowledged (Link.exchange turn) link call.type call.payload).2.1,
        .status (client.acknowledged (Link.exchange turn) link call.type call.payload).2.2))
    {result : Result Unit}
    (replies : ((link.coordinator.session turn.others).perform call.asked turn.fault).2 =
      .status result) : Agrees client link turn call := by
  obtain ⟨after, next, returned, performed, stays, limits⟩ :=
    linked.acknowledged carries fit replies
  rw [returned] at shape
  exact ⟨after, next, _, shape, performed, by rw [replies]; exact .status result, stays, limits⟩

theorem agrees_registration (linked : Linked client link)
    (carries : client.limits.CarriesStatuses) {request : RegisterWorkerRequest}
    (fit : (Call.registerWorker request : Call R).Fits client.limits)
    {reply : ExperimentFabric.RegisterWorkerReply}
    (replies : ((link.coordinator.session turn.others).perform (.registerWorker request)
      turn.fault).2 = .registration reply)
    (travels : RegisterWorkerReply.Fits client.limits (.ofLocal reply)) :
    Agrees client link turn (.registerWorker request) := by
  have bounded : (encodeRegisterReply (.ofLocal reply)).length ≤
      client.limits.maxFramePayloadBytes := by
    have status := encodeStatus_length (.ofResult reply.status)
    have error := carries.error
    simp [encodeRegisterReply, writeStatusBlock, writeId, writeU32, writeU64, writeBoolean,
      writeU8, RegisterWorkerReply.ofLocal]
    omega
  have read := (bijective_of_codes (codes_registerReply carries.toHasRoom)).decode_encode _ travels
  obtain ⟨after, next, returned, performed, stays⟩ := linked.answered carries.frame fit
    .registerAck (text "registration") replies rfl (by simp) bounded decodeRegisterReply
  refine ⟨after, next, .registration (.ok (.ofLocal reply)), ?_, performed, ?_, stays⟩
  · have called : client.registerWorker (Link.exchange turn) link request = _ := returned
    rw [Client.call, called]
    exact congrArg (fun result => (after, next, Answer.registration result)) read
  · rw [Call.asked, replies]
    exact .registration reply

theorem agrees_claim (linked : Linked client link) (carries : client.limits.CarriesStatuses)
    {request : ClaimTrialRequest} (fit : (Call.claimTrials request : Call R).Fits client.limits)
    {reply : ExperimentFabric.ClaimTrialReply}
    (replies : ((link.coordinator.session turn.others).perform (.claimTrials request)
      turn.fault).2 = .claim reply)
    (travels : (Reply.claim reply : Reply R).Travels client.limits) :
    Agrees client link turn (.claimTrials request) := by
  obtain ⟨fits, bounded⟩ := travels
  have read := (bijective_of_codes (codes_claimReply carries.toHasRoom)).decode_encode _ fits
  obtain ⟨after, next, returned, performed, stays⟩ := linked.answered carries.frame fit
    .claimResult (text "claim") replies rfl (by simp) bounded decodeClaimReply
  refine ⟨after, next, .claim (.ok (.ofLocal reply)), ?_, performed, ?_, stays⟩
  · have called : client.claimTrials (Link.exchange turn) link request = _ := returned
    rw [Client.call, called]
    exact congrArg (fun result => (after, next, Answer.claim result)) read
  · rw [Call.asked, replies]
    exact .claim reply

theorem agrees_decision (linked : Linked client link) (carries : client.limits.CarriesStatuses)
    {request : FinalizeExperimentRequest}
    (fit : (Call.finalizeExperiment request : Call R).Fits client.limits)
    {result : Result (Decision R)}
    (replies : ((link.coordinator.session turn.others).perform
      (Call.finalizeExperiment request).asked turn.fault).2 = .decision result)
    (travels : (Reply.decision result : Reply R).Travels client.limits) :
    Agrees client link turn (.finalizeExperiment request) := by
  cases result with
  | error failure =>
      obtain ⟨after, next, returned, performed, stays⟩ := linked.refused carries fit
        .finalizeExperiment (text "finalization") replies rfl
        (Client.decodeDecision : Limits → Text → Result (Decision R))
      refine ⟨after, next, .decision (.error failure.carried), ?_, performed, ?_, stays⟩
      · have called : (client.finalizeExperiment (Link.exchange turn) link request :
          Link R × Client × Result (Decision R)) = _ := returned
        rw [Client.call, called]
      · rw [replies]
        exact .undecided failure
  | ok decision =>
      obtain ⟨fits, bounded⟩ := travels
      have success : (Status.ofResult (.ok () : Result Unit)).Fits client.limits :=
        ⟨by decide, Nat.zero_le _, Nat.zero_le _⟩
      have read := (bijective_of_codes (codes_decisionReply carries.toHasRoom)).decode_encode
        ⟨.ofResult (.ok ()), decision⟩ ⟨success, fits⟩
      obtain ⟨after, next, returned, performed, stays⟩ := linked.answered carries.frame fit
        .finalizeExperiment (text "finalization") replies rfl (by simp) bounded
        (Client.decodeDecision : Limits → Text → Result (Decision R))
      refine ⟨after, next, .decision (.ok decision), ?_, performed, ?_, stays⟩
      · have called : (client.finalizeExperiment (Link.exchange turn) link request :
          Link R × Client × Result (Decision R)) = _ := returned
        have decided : Client.decodeDecision client.limits
            (encodeDecisionReply ⟨.ofResult (.ok ()), decision⟩) = .ok decision := by
          rw [Client.decodeDecision, decodeDecisionReply, read]
          rfl
        rw [Client.call, called, decided]
      · rw [replies]
        exact .decision decision

/-- A call has the effect of the local operation and returns its reply as it is read. -/
theorem agrees (linked : Linked client link) (carries : client.limits.CarriesStatuses)
    {call : Call R} (fit : call.Fits client.limits)
    (travels : ((link.coordinator.session turn.others).perform call.asked turn.fault).2.Travels
      client.limits) : Agrees client link turn call := by
  cases call with
  | registerWorker request => exact linked.agrees_registration carries fit rfl travels
  | claimTrials request => exact linked.agrees_claim carries fit rfl travels
  | finalizeExperiment request => exact linked.agrees_decision carries fit rfl travels
  | publishObservation request => exact linked.agrees_acknowledged carries fit rfl rfl
  | publishArtifact request => exact linked.agrees_acknowledged carries fit rfl rfl
  | commitTrial request => exact linked.agrees_acknowledged carries fit rfl rfl
  | failTrial request => exact linked.agrees_acknowledged carries fit rfl rfl
  | heartbeat request => exact linked.agrees_acknowledged carries fit rfl rfl
  | cancelTrial request => exact linked.agrees_acknowledged carries fit rfl rfl
  | cancelExperiment request => exact linked.agrees_acknowledged carries fit rfl rfl
  | rollback request => exact linked.agrees_acknowledged carries fit rfl rfl

end Linked

/-! ## Sessions over a connection -/

/-- Make calls one after another, each in its turn. -/
def Client.session (client : Client) (link : Link R) :
    List (Call R × Turn R) → Link R × Client × List (Answer R)
  | [] => (link, client, [])
  | (call, turn) :: rest =>
      let (link, client, answer) := client.call (Link.exchange turn) link call
      let (link, client, answers) := client.session link rest
      (link, client, answer :: answers)

/-- A claim whose reply does not fit into a frame is performed, its assignments are lost, and the
client reads that its peer closed the connection. -/
theorem oversized_claim {client : Client} {link : Link R} (linked : Linked client link)
    (turn : Turn R) (words : client.limits.maxFramePayloadBytes < 2 ^ 32)
    {request : ClaimTrialRequest} (fit : (Call.claimTrials request : Call R).Fits client.limits)
    (large : client.limits.maxFramePayloadBytes < (encodeClaimReply (.ofLocal
      ((link.coordinator.session turn.others).claimTrials request turn.fault).2)).length) :
    ∃ after next, client.claimTrials (Link.exchange turn) link request =
        (after, next, .error (transportError .notFound (text "peer closed the connection"))) ∧
      after.coordinator =
        ((link.coordinator.session turn.others).claimTrials request turn.fault).1 ∧
      after.connection.connection.isOpen = false := by
  have serves := Linked.served_call turn client (linked.limits ▸ fit.request)
  obtain ⟨after, next, requested, performed, closed⟩ :=
    linked.request_oversized turn words (fit.frame client) (by rw [serves]; exact large)
  exact ⟨after, next, Client.answered_error requested, by rw [performed, serves]; rfl, closed⟩

end Links

/-! ## A session over a connection that delivers byte by byte -/

section Sample

local instance remoteSort : StdSort := stableSort

namespace Sample

/-- Every byte arrives on its own. -/
def bytewise : Cut where
  pieces bytes := bytes.map fun byte => .data byte []
  whole bytes := by induction bytes <;> simp_all [pendingBytes]
  reliable bytes := by simp [Reliable]

/-- A turn in which another caller stops the admission of work. -/
def stopping : Turn UInt64 where
  others := [(.requestShutdown, none)]
  kept := by simp [Request.controls]
  arrives := bytewise
  returns := bytewise
  accepts := List.replicate 3 (.takes maxChunk)
  roomy := by decide

/-- A turn of its own. -/
def alone : Turn UInt64 := { stopping with others := [], kept := by simp }

/-- The control plane and its end of a fresh connection. -/
def link : Link UInt64 where
  coordinator := listening
  connection := { connection := ⟨true, []⟩, limits := listening.limits }

/-- A client with a fresh connection. -/
def client : Client := { connection := some ⟨true, []⟩, limits := listening.limits }

theorem linked : Linked client link where
  limits := rfl
  accepted := rfl
  client := ⟨_, rfl, ⟨rfl, by simp [Reliable]⟩, rfl⟩
  server := ⟨rfl, by simp [Reliable, link]⟩
  quiet := rfl

/-- Register, then send a heartbeat after work was stopped. -/
def visit : List (Call UInt64 × Turn UInt64) :=
  [(.registerWorker { worker, boot }, alone),
    (.heartbeat { epoch := listening.epoch, worker, boot, activeAssignments := 0 }, stopping)]

end Sample

end Sample

end ExperimentFabric
