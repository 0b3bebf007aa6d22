import ExperimentFabric.Network

/-!
# The client

A client exchanges one request frame for one reply frame over its connection, checks that the reply
answers the request, and reads the status or the value the reply carries.  It never sends a frame
twice.
-/

namespace ExperimentFabric

open Lib Protocol

variable {R : Type} {σ : Type}

/-- The other end of a connection: what it does with bytes that are sent to it, and what the socket
will find then; a send can fail. -/
abbrev Peer (σ : Type) := σ → Text → σ × Option (List Delivery)

/-- A client of the control plane. -/
structure Client where
  connection : Option TcpConnection
  limits : Limits := {}
  correlation : UInt64 := 0
  /-- What the observer of outbound frames has been given. -/
  observed : List Text := []

namespace Client

/-- The failure of a client without a connection. -/
def notConnected : Status := transportError .notFound (text "client is not connected")

/-- A reply of another type than the request asks for. -/
def unexpectedReply (what : Text) : Status :=
  transportError .protocolError (text "unexpected reply type for " ++ what)

/-- Connect; the socket could be connected, or not. -/
def connect (limits : Limits) : Option TcpConnection → Result Client
  | none => .error (transportError .notFound (text "cannot connect to the coordinator"))
  | some connection => .ok { connection := some connection, limits }

/-- Close the connection. -/
def close (client : Client) : Client := { client with connection := none }

/-- Send bytes as they are. -/
def sendRaw (client : Client) (peer : Peer σ) (world : σ) (bytes : Text) :
    σ × Client × Result Unit :=
  match client.connection with
  | none => (world, client, .error notConnected)
  | some connection =>
      if !connection.isOpen then
        (world, client,
          .error (transportError .notFound (text "cannot send on a closed connection")))
      else
        match peer world bytes with
        | (world, none) =>
            (world, client, .error (transportError .transportFailure (text "send failed")))
        | (world, some found) =>
            (world, { client with connection := some (connection.deliver found) }, .ok ())

/-- Receive the next frame. -/
def receive (client : Client) : Client × Result Frame :=
  match client.connection with
  | none => (client, .error notConnected)
  | some connection =>
      let (result, connection) := connection.receiveFrame client.limits
      ({ client with connection := some connection }, result)

/-- Send bytes as they are and receive a frame. -/
def sendRawAndReceive (client : Client) (peer : Peer σ) (world : σ) (bytes : Text) :
    σ × Client × Result Frame :=
  match client.sendRaw peer world bytes with
  | (world, client, .error failure) => (world, client, .error failure)
  | (world, client, .ok ()) => (world, client.receive)

/-- A reply answers the request it correlates with; an error reply is the failure it carries. -/
def checkReply (limits : Limits) (correlation : UInt64) (reply : Frame) : Result Frame :=
  if reply.correlation ≠ correlation then
    .error (transportError .protocolError
      (text "reply correlation does not match the outstanding request"))
  else if reply.type = .errorReply then
    match decodeErrorReply limits reply.payload with
    | .error failure => .error failure
    | .ok carried => .error carried.status
  else .ok reply

/-- Exchange one request frame for one reply frame. -/
def request (client : Client) (peer : Peer σ) (world : σ) (type : MessageType) (payload : Text) :
    σ × Client × Result Frame :=
  match client.connection with
  | none => (world, client, .error notConnected)
  | some _ =>
      let frame : Frame := { type, correlation := client.correlation + 1, payload }
      let client := { client with correlation := frame.correlation }
      match encodeFrame frame client.limits with
      | .error failure => (world, client, .error failure)
      | .ok bytes =>
          let client := { client with observed := client.observed ++ [bytes] }
          match client.sendRawAndReceive peer world bytes with
          | (world, client, .error failure) => (world, client, .error failure)
          | (world, client, .ok reply) =>
              (world, client, checkReply client.limits frame.correlation reply)

/-- The status an acknowledgement carries. -/
def decodeAck (limits : Limits) (frame : Frame) : Status :=
  if frame.type ≠ .ack then unexpectedReply (text "acknowledge")
  else
    match Protocol.decodeAck limits frame.payload with
    | .error failure => failure
    | .ok ack => ack.status

/-- A request that is acknowledged. -/
def acknowledged (client : Client) (peer : Peer σ) (world : σ) (type : MessageType)
    (payload : Text) : σ × Client × Status :=
  match client.request peer world type payload with
  | (world, client, .error failure) => (world, client, failure)
  | (world, client, .ok reply) => (world, client, decodeAck client.limits reply)

/-- A request that is answered by a value, in a reply of a given type. -/
def answered {α : Type} (client : Client) (peer : Peer σ) (world : σ) (type : MessageType)
    (payload : Text) (expected : MessageType) (what : Text)
    (decode : Limits → Text → Result α) : σ × Client × Result α :=
  match client.request peer world type payload with
  | (world, client, .error failure) => (world, client, .error failure)
  | (world, client, .ok reply) =>
      (world, client,
        if reply.type ≠ expected then .error (unexpectedReply what)
        else decode client.limits reply.payload)

/-- Register a worker incarnation. -/
def registerWorker (client : Client) (peer : Peer σ) (world : σ) (value : RegisterWorkerRequest) :
    σ × Client × Result Protocol.RegisterWorkerReply :=
  client.answered peer world .registerWorker (encodeRegisterWorker value) .registerAck
    (text "registration") decodeRegisterReply

/-- Claim trials. -/
def claimTrials (client : Client) (peer : Peer σ) (world : σ) (value : ClaimTrialRequest) :
    σ × Client × Result Protocol.ClaimTrialReply :=
  client.answered peer world .claimTrial (encodeClaimTrial value) .claimResult
    (text "claim") decodeClaimReply

/-- Publish an artifact. -/
def publishArtifact (client : Client) (peer : Peer σ) (world : σ) (value : PublishArtifactRequest) :
    σ × Client × Status :=
  client.acknowledged peer world .publishArtifact (encodePublishArtifact value)

/-- Commit a trial. -/
def commitTrial (client : Client) (peer : Peer σ) (world : σ) (value : CommitTrialRequest) :
    σ × Client × Status :=
  client.acknowledged peer world .commitTrial (encodeCommitTrial value)

/-- Report a failed trial. -/
def failTrial (client : Client) (peer : Peer σ) (world : σ) (value : FailTrialRequest) :
    σ × Client × Status :=
  client.acknowledged peer world .failTrial (encodeFailTrial value)

/-- Report that the worker is alive. -/
def heartbeat (client : Client) (peer : Peer σ) (world : σ) (value : Coordinator.HeartbeatRequest) :
    σ × Client × Status :=
  client.acknowledged peer world .heartbeat (encodeHeartbeat value)

/-- Cancel a trial. -/
def cancelTrial (client : Client) (peer : Peer σ) (world : σ) (value : CancelTrialRequest) :
    σ × Client × Status :=
  client.acknowledged peer world .cancelTrial (encodeCancelTrial value)

/-- Cancel an experiment. -/
def cancelExperiment (client : Client) (peer : Peer σ) (world : σ)
    (value : CancelExperimentRequest) : σ × Client × Status :=
  client.acknowledged peer world .cancelExperiment (encodeCancelExperiment value)

/-- Return an experiment to an earlier generation. -/
def rollback (client : Client) (peer : Peer σ) (world : σ) (value : RollbackRequest) :
    σ × Client × Status :=
  client.acknowledged peer world .rollback (encodeRollback value)

/-- The lines of a query result, unless it carries a failure or more lines than the default
bound. -/
def unwrapQueryLines (reply : QueryResult) : Result (List Text) :=
  if reply.status.code ≠ .ok then .error reply.status
  else if Limits.defaults.maxExplanationLines < reply.lines.length then
    .error ⟨.resourceExhausted, .limits, text "query reply returns too many lines"⟩
  else .ok reply.lines

/-- Ask a query. -/
def query (client : Client) (peer : Peer σ) (world : σ) (value : QueryRequest) :
    σ × Client × Result (List Text) :=
  client.answered peer world .query (encodeQueryRequest value) .queryResult (text "query")
    fun limits payload => do unwrapQueryLines (← decodeQueryResult limits payload)

/-- Ask the coordinator to stop admitting work.  The correlation of the reply is not checked, and an
error reply is of an unexpected type. -/
def shutdown (client : Client) (peer : Peer σ) (world : σ) : σ × Client × Status :=
  let frame : Frame := { type := .shutdown, correlation := client.correlation + 1 }
  let client := { client with correlation := frame.correlation }
  match client.connection with
  | none => (world, client, notConnected)
  | some _ =>
      match encodeFrame frame client.limits with
      | .error failure => (world, client, failure)
      | .ok bytes =>
          match client.sendRawAndReceive peer world bytes with
          | (world, client, .error failure) => (world, client, failure)
          | (world, client, .ok reply) => (world, client, decodeAck client.limits reply)

section Values

variable [BitPattern R]

/-- Publish an observation. -/
def publishObservation (client : Client) (peer : Peer σ) (world : σ)
    (value : PublishObservationRequest R) : σ × Client × Status :=
  client.acknowledged peer world .publishObservation (encodePublishObservation value)

/-- The decision of a reply, unless it carries a failure. -/
def decodeDecision (limits : Limits) (payload : Text) : Result (Decision R) := do
  let reply ← decodeDecisionReply limits payload
  if reply.status.code ≠ .ok then .error reply.status else .ok reply.decision

/-- Conclude an experiment for a candidate. -/
def finalizeExperiment (client : Client) (peer : Peer σ) (world : σ)
    (value : FinalizeExperimentRequest) : σ × Client × Result (Decision R) :=
  client.answered peer world .finalizeExperiment (encodeFinalizeExperiment value)
    .finalizeExperiment (text "finalization") decodeDecision

end Values

/-! ## Requests over an open connection -/

/-- The frame of the next request. -/
def frame (client : Client) (type : MessageType) (payload : Text) : Frame :=
  { type, correlation := client.correlation + 1, payload }

/-- The client after it has sent a frame over a connection and received what came back. -/
def after (client : Client) (frame : Frame) (connection : TcpConnection) : Client :=
  { client with
    connection := some (connection.receiveFrame client.limits).2
    correlation := frame.correlation
    observed := client.observed ++ [frame.bytes] }

/-- A request over an open connection sends its frame once and checks the frame that comes back. -/
theorem request_eq {client : Client} {connection : TcpConnection}
    (connected : client.connection = some connection) (opened : connection.isOpen = true)
    {peer : Peer σ} {world next : σ} {type : MessageType} {payload : Text}
    (fit : (client.frame type payload).Fits client.limits) {found : List Delivery}
    (sent : peer world (client.frame type payload).bytes = (next, some found)) :
    client.request peer world type payload =
      (next, client.after (client.frame type payload) (connection.deliver found),
        match ((connection.deliver found).receiveFrame client.limits).1 with
        | .error failure => .error failure
        | .ok reply => checkReply client.limits (client.correlation + 1) reply) := by
  have encoded : encodeFrame (client.frame type payload) client.limits =
      .ok (client.frame type payload).bytes :=
    encodeFrame_eq_ok.mpr ⟨fit.version, fit.type.2, fit.bounded, rfl⟩
  unfold request
  rw [connected]
  change (match encodeFrame (client.frame type payload) client.limits with
    | .error failure => _
    | .ok bytes => _) = _
  rw [encoded]
  simp only [sendRawAndReceive, sendRaw, opened, sent, receive, Bool.not_true,
    Bool.false_eq_true, if_false]
  rcases received : (connection.deliver found).receiveFrame client.limits with
    ⟨failure | reply, later⟩ <;> simp [after, received, frame]

section Outcomes

variable {client next : Client} {peer : Peer σ} {world later : σ} {type : MessageType}
  {payload : Text}

theorem acknowledged_error {failure : Status}
    (requested : client.request peer world type payload = (later, next, .error failure)) :
    client.acknowledged peer world type payload = (later, next, failure) := by
  unfold acknowledged
  rw [requested]

theorem acknowledged_ok {reply : Frame}
    (requested : client.request peer world type payload = (later, next, .ok reply)) :
    client.acknowledged peer world type payload =
      (later, next, decodeAck next.limits reply) := by
  unfold acknowledged
  rw [requested]

variable {α : Type} {expected : MessageType} {what : Text} {decode : Limits → Text → Result α}

theorem answered_error {failure : Status}
    (requested : client.request peer world type payload = (later, next, .error failure)) :
    client.answered peer world type payload expected what decode =
      (later, next, .error failure) := by
  unfold answered
  rw [requested]

theorem answered_ok {reply : Frame}
    (requested : client.request peer world type payload = (later, next, .ok reply))
    (typed : reply.type = expected) :
    client.answered peer world type payload expected what decode =
      (later, next, decode next.limits reply.payload) := by
  unfold answered
  rw [requested]
  simp [typed]

end Outcomes

end Client

end ExperimentFabric
