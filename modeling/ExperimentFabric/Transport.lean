import ExperimentFabric.Frames

/-!
# Reception from a stream

A connection receives a frame in pieces: the header first, then the payload, each gathered from as
many receives as the socket takes.  Whatever the sizes of the pieces, a frame is received exactly
when the bytes that are pending would be decoded, it is the frame they are decoded to, and the
bytes behind it stay pending.
-/

namespace ExperimentFabric

open Lib

namespace Protocol

/-! ## Sockets -/

/-- What one receive finds at a socket: at least one byte, nothing yet, or a failure. -/
inductive Delivery where
  | data (first : UInt8) (more : Text)
  | wouldBlock
  | failed
  deriving DecidableEq

/-- What one receive returns. -/
inductive Received where
  | bytes (bytes : Text)
  | closed
  | wouldBlock
  | failed

/-- Bytes that a receive left at the socket. -/
def leftover : Text → List Delivery
  | [] => []
  | first :: more => [.data first more]

/-- Receive at most `count` bytes; a socket that will find nothing more has been closed. -/
def recv (count : Nat) : List Delivery → Received × List Delivery
  | [] => (.closed, [])
  | .data first more :: later =>
      (.bytes ((first :: more).take count), leftover ((first :: more).drop count) ++ later)
  | .wouldBlock :: later => (.wouldBlock, later)
  | .failed :: later => (.failed, later)

/-- The bytes that will be found at a socket. -/
def pendingBytes : List Delivery → Text
  | [] => []
  | .data first more :: later => first :: more ++ pendingBytes later
  | _ :: later => pendingBytes later

/-- The socket does not fail. -/
def Reliable (incoming : List Delivery) : Prop := Delivery.failed ∉ incoming

instance : DecidablePred Reliable := fun incoming =>
  inferInstanceAs (Decidable (Delivery.failed ∉ incoming))

/-- The largest count passed to a receive. -/
def maxChunk : Nat := 0x7FFFFFFF

/-- A failure of the transport. -/
def transportError (code : ErrorCode) (reason : Text) : Status := ⟨code, .transport, reason⟩

theorem pendingBytes_leftover (bytes : Text) (later : List Delivery) :
    pendingBytes (leftover bytes ++ later) = bytes ++ pendingBytes later := by
  cases bytes <;> rfl

theorem reliable_leftover {bytes : Text} {later : List Delivery} (reliable : Reliable later) :
    Reliable (leftover bytes ++ later) := by
  cases bytes with
  | nil => exact reliable
  | cons first more =>
      intro failed
      rcases List.mem_cons.mp failed with same | there
      · cases same
      · exact reliable there

theorem pendingBytes_append (before after : List Delivery) :
    pendingBytes (before ++ after) = pendingBytes before ++ pendingBytes after := by
  induction before with
  | nil => rfl
  | cons delivery later ih =>
      cases delivery with
      | data first more => simp [pendingBytes, ih]
      | wouldBlock => exact ih
      | failed => exact ih

theorem recv_bytes {count : Nat} {incoming later : List Delivery} {bytes : Text}
    (got : recv count incoming = (.bytes bytes, later)) :
    pendingBytes incoming = bytes ++ pendingBytes later ∧
      (count ≠ 0 → bytes ≠ []) ∧ bytes.length ≤ count ∧ (Reliable incoming → Reliable later) := by
  cases incoming with
  | nil => simp [recv] at got
  | cons delivery rest =>
      cases delivery with
      | data first more =>
          obtain ⟨rfl, rfl⟩ : (first :: more).take count = bytes ∧
              leftover ((first :: more).drop count) ++ rest = later := by simpa [recv] using got
          refine ⟨?_, fun some => ?_, List.length_take_le _ _, fun reliable => ?_⟩
          · rw [pendingBytes_leftover, ← List.append_assoc, List.take_append_drop]
            rfl
          · cases count with
            | zero => exact absurd rfl some
            | succ count => simp
          · exact reliable_leftover fun failed => reliable (List.mem_cons_of_mem _ failed)
      | wouldBlock => simp [recv] at got
      | failed => simp [recv] at got

theorem recv_wouldBlock {count : Nat} {incoming later : List Delivery}
    (got : recv count incoming = (.wouldBlock, later)) : incoming = .wouldBlock :: later := by
  cases incoming with
  | nil => simp [recv] at got
  | cons delivery rest => cases delivery <;> simp_all [recv]

theorem recv_closed {count : Nat} {incoming later : List Delivery}
    (got : recv count incoming = (.closed, later)) : incoming = [] := by
  cases incoming with
  | nil => rfl
  | cons delivery rest => cases delivery <;> simp [recv] at got

theorem recv_failed {count : Nat} {incoming later : List Delivery}
    (got : recv count incoming = (.failed, later)) : ¬ Reliable incoming := by
  cases incoming with
  | nil => simp [recv] at got
  | cons delivery rest => cases delivery <;> simp_all [recv, Reliable]

/-! ## Connections -/

/-- Gather bytes until a number of them has arrived. -/
def receiveLoop (remaining : Nat) (buffer : Text) (incoming : List Delivery) :
    Result Text × List Delivery :=
  if remaining = 0 then (.ok buffer, incoming)
  else
    match _got : recv (min remaining maxChunk) incoming with
    | (.closed, later) =>
        (.error (if buffer.length = 0 then
            transportError .notFound (text "peer closed the connection")
          else transportError .protocolError (text "connection closed mid-frame")), later)
    | (.wouldBlock, later) => receiveLoop remaining buffer later
    | (.failed, later) =>
        (.error (transportError .transportFailure (text "receive failed")), later)
    | (.bytes bytes, later) => receiveLoop (remaining - bytes.length) (buffer ++ bytes) later
termination_by (remaining, incoming.length)
decreasing_by
  · rw [recv_wouldBlock _got]
    exact .right _ (Nat.lt_succ_self _)
  · obtain ⟨-, some, -⟩ := recv_bytes _got
    have positive := List.length_pos_iff.mpr (some (by simp only [maxChunk]; omega))
    exact .left _ _ (by omega)

/-- One connected endpoint: whether it is open, and what its socket will find. -/
structure TcpConnection where
  isOpen : Bool
  incoming : List Delivery
  deriving DecidableEq

namespace TcpConnection

/-- The bytes that are still to be received. -/
def pending (connection : TcpConnection) : Text := pendingBytes connection.incoming

/-- More arrives at the socket. -/
def deliver (connection : TcpConnection) (found : List Delivery) : TcpConnection :=
  { connection with incoming := connection.incoming ++ found }

theorem deliver_pending (connection : TcpConnection) (found : List Delivery) :
    (connection.deliver found).pending = connection.pending ++ pendingBytes found :=
  pendingBytes_append _ _

/-- Receive a number of bytes. -/
def receiveExact (connection : TcpConnection) (count : Nat) : Result Text × TcpConnection :=
  if !connection.isOpen then
    (.error (transportError .notFound (text "cannot receive on a closed connection")), connection)
  else
    let (result, incoming) := receiveLoop count [] connection.incoming
    (result, { connection with incoming })

/-- The refusal of a payload with another checksum. -/
def payloadMismatch : Status :=
  transportError .protocolError (text "frame payload checksum mismatch")

/-- Receive one frame. -/
def receiveFrame (connection : TcpConnection) (limits : Limits) : Result Frame × TcpConnection :=
  match connection.receiveExact frameHeaderBytes with
  | (.error failure, connection) => (.error failure, connection)
  | (.ok header, connection) =>
      match parseFrameHeader header limits with
      | .error refusal => (.error refusal, connection)
      | .ok info =>
          let frame : Frame :=
            { version := info.version, type := info.type, correlation := info.correlation }
          if info.payloadLength ≠ 0 then
            match connection.receiveExact info.payloadLength.toNat with
            | (.error failure, connection) => (.error failure, connection)
            | (.ok payload, connection) =>
                if crc32 payload ≠ info.payloadCrc then (.error payloadMismatch, connection)
                else (.ok { frame with payload }, connection)
          else if info.payloadCrc ≠ crc32 [] then (.error payloadMismatch, connection)
          else (.ok frame, connection)

/-- Receive a number of frames, one after another. -/
def receiveFrames (limits : Limits) : Nat → TcpConnection → Result (List Frame) × TcpConnection
  | 0, connection => (.ok [], connection)
  | count + 1, connection =>
      match connection.receiveFrame limits with
      | (.error failure, connection) => (.error failure, connection)
      | (.ok frame, connection) =>
          match receiveFrames limits count connection with
          | (.error failure, connection) => (.error failure, connection)
          | (.ok frames, connection) => (.ok (frame :: frames), connection)

end TcpConnection

/-! ## Sending -/

/-- What one send does: it takes bytes, at least one, or takes none for now, or fails. -/
inductive Acceptance where
  | takes (more : Nat)
  | wouldBlock
  | failed
  deriving DecidableEq

/-- Send what remains; the bytes that went out are gathered.  A socket that will take nothing more
has failed. -/
def sendLoop (sent remaining : Text) : List Acceptance → Result Unit × Text
  | [] =>
      if remaining = [] then (.ok (), sent)
      else (.error (transportError .transportFailure (text "send failed")), sent)
  | acceptance :: later =>
      if remaining = [] then (.ok (), sent)
      else match acceptance with
        | .failed => (.error (transportError .transportFailure (text "send failed")), sent)
        | .wouldBlock => sendLoop sent remaining later
        | .takes more =>
            let count := min (more + 1) maxChunk
            sendLoop (sent ++ remaining.take count) (remaining.drop count) later

/-- Send bytes over a connection. -/
def TcpConnection.sendAll (connection : TcpConnection) (bytes : Text)
    (accepts : List Acceptance) : Result Unit × Text :=
  if !connection.isOpen then
    (.error (transportError .notFound (text "cannot send on a closed connection")), [])
  else sendLoop [] bytes accepts

/-- Send one frame over a connection. -/
def TcpConnection.sendFrame (connection : TcpConnection) (frame : Frame) (limits : Limits)
    (accepts : List Acceptance) : Result Unit × Text :=
  match encodeFrame frame limits with
  | .error failure => (.error failure, [])
  | .ok bytes => connection.sendAll bytes accepts

/-- Close a connection. -/
def TcpConnection.close (connection : TcpConnection) : TcpConnection :=
  { connection with isOpen := false }

/-- The loop sends everything, or stops before the end. -/
theorem sendLoop_spec (sent remaining : Text) (accepts : List Acceptance) :
    ((sendLoop sent remaining accepts).1 = .ok () →
      (sendLoop sent remaining accepts).2 = sent ++ remaining) ∧
    ∀ failure, (sendLoop sent remaining accepts).1 = .error failure →
      ∃ out left, remaining = out ++ left ∧ left ≠ [] ∧
        (sendLoop sent remaining accepts).2 = sent ++ out := by
  induction accepts generalizing sent remaining with
  | nil =>
      unfold sendLoop
      split
      · rename_i none
        exact ⟨fun _ => by rw [none, List.append_nil], fun failure refused => by cases refused⟩
      · rename_i some
        exact ⟨fun done => (by cases done), fun failure _ => ⟨[], remaining, rfl, some, by simp⟩⟩
  | cons acceptance later ih =>
      unfold sendLoop
      split
      · rename_i none
        exact ⟨fun _ => by rw [none, List.append_nil], fun failure refused => by cases refused⟩
      · rename_i some
        cases acceptance with
        | failed =>
            exact ⟨fun done => (by cases done),
              fun failure _ => ⟨[], remaining, rfl, some, by simp⟩⟩
        | wouldBlock => exact ih sent remaining
        | takes more =>
            dsimp only
            obtain ⟨done, refused⟩ := ih (sent ++ remaining.take (min (more + 1) maxChunk))
              (remaining.drop (min (more + 1) maxChunk))
            refine ⟨fun sentAll => ?_, fun failure failed => ?_⟩
            · rw [done sentAll, List.append_assoc, List.take_append_drop]
            · obtain ⟨out, left, split, missing, wrote⟩ := refused failure failed
              refine ⟨remaining.take (min (more + 1) maxChunk) ++ out, left, ?_, missing, ?_⟩
              · rw [List.append_assoc, ← split, List.take_append_drop]
              · rw [wrote, List.append_assoc]

/-- What is sent is everything, or everything up to a place before the end. -/
theorem TcpConnection.sendAll_spec (connection : TcpConnection) {bytes : Text}
    (some : bytes ≠ []) (accepts : List Acceptance) :
    ((connection.sendAll bytes accepts).1 = .ok () →
      (connection.sendAll bytes accepts).2 = bytes) ∧
    ∀ failure, (connection.sendAll bytes accepts).1 = .error failure →
      (connection.sendAll bytes accepts).2 <+: bytes ∧
        (connection.sendAll bytes accepts).2 ≠ bytes := by
  unfold sendAll
  split
  · exact ⟨fun done => (by cases done), fun failure _ => ⟨List.nil_prefix, some.symm⟩⟩
  · obtain ⟨done, refused⟩ := sendLoop_spec [] bytes accepts
    refine ⟨done, fun failure failed => ?_⟩
    obtain ⟨out, left, split, missing, wrote⟩ := refused failure failed
    rw [wrote, List.nil_append]
    refine ⟨⟨left, split.symm⟩, fun same => missing ?_⟩
    rw [← same] at split
    simpa using split

/-- The number of bytes a socket takes before it fails. -/
def capacity : List Acceptance → Nat
  | [] => 0
  | .takes more :: later => min (more + 1) maxChunk + capacity later
  | .wouldBlock :: later => capacity later
  | .failed :: _ => 0

/-- A socket that takes enough bytes takes all of them. -/
theorem sendLoop_of_capacity (sent : Text) {remaining : Text} {accepts : List Acceptance}
    (room : remaining.length ≤ capacity accepts) :
    sendLoop sent remaining accepts = (.ok (), sent ++ remaining) := by
  induction accepts generalizing sent remaining with
  | nil =>
      obtain rfl := List.length_eq_zero_iff.mp (Nat.le_zero.mp room)
      simp [sendLoop]
  | cons acceptance later ih =>
      unfold sendLoop
      split
      · rename_i none
        simp [none]
      · rename_i some
        cases acceptance with
        | failed => exact absurd (List.length_eq_zero_iff.mp (Nat.le_zero.mp room)) some
        | wouldBlock => exact ih sent room
        | takes more =>
            have rest : (remaining.drop (min (more + 1) maxChunk)).length ≤ capacity later := by
              rw [List.length_drop]
              rw [capacity] at room
              omega
            dsimp only
            rw [ih _ rest, List.append_assoc, List.take_append_drop]

theorem Frame.bytes_ne_nil (frame : Frame) : frame.bytes ≠ [] := by
  intro none
  have size := frame.bytes_length
  rw [none, List.length_nil, frameHeaderBytes] at size
  omega

/-- A frame that fits is sent whole when the socket takes enough. -/
theorem TcpConnection.sendFrame_of_capacity {connection : TcpConnection}
    (opened : connection.isOpen = true) {frame : Frame} {limits : Limits} (fit : frame.Fits limits)
    {accepts : List Acceptance} (room : frame.bytes.length ≤ capacity accepts) :
    connection.sendFrame frame limits accepts = (.ok (), frame.bytes) := by
  have encoded : encodeFrame frame limits = .ok frame.bytes :=
    encodeFrame_eq_ok.mpr ⟨fit.version, fit.type.2, fit.bounded, rfl⟩
  simp only [sendFrame, encoded, sendAll, opened, Bool.not_true, Bool.false_eq_true, if_false]
  exact sendLoop_of_capacity [] room

/-- Nothing is sent of a frame whose payload exceeds the bound. -/
theorem TcpConnection.sendFrame_oversized (connection : TcpConnection) {frame : Frame}
    {limits : Limits} (large : limits.maxFramePayloadBytes < frame.payload.length)
    (accepts : List Acceptance) :
    ∃ failure, connection.sendFrame frame limits accepts = (.error failure, []) := by
  unfold sendFrame
  cases encoded : encodeFrame frame limits with
  | error failure => exact ⟨failure, rfl⟩
  | ok bytes => exact absurd (encodeFrame_eq_ok.mp encoded).2.2.1 (Nat.not_le.mpr large)

/-- A frame is sent whole, or up to a place before its end. -/
theorem TcpConnection.sendFrame_spec (connection : TcpConnection) {frame : Frame}
    (declared : frame.type.declared = true) (limits : Limits) (accepts : List Acceptance) :
    ((connection.sendFrame frame limits accepts).1 = .ok () →
      frame.Fits limits ∧ (connection.sendFrame frame limits accepts).2 = frame.bytes) ∧
    ∀ failure, (connection.sendFrame frame limits accepts).1 = .error failure →
      (connection.sendFrame frame limits accepts).2 <+: frame.bytes ∧
        (connection.sendFrame frame limits accepts).2 ≠ frame.bytes := by
  unfold sendFrame
  cases encoded : encodeFrame frame limits with
  | error failure =>
      exact ⟨fun done => (by cases done), fun _ _ => ⟨List.nil_prefix, frame.bytes_ne_nil.symm⟩⟩
  | ok bytes =>
      obtain ⟨version, valid, bounded, rfl⟩ := encodeFrame_eq_ok.mp encoded
      obtain ⟨done, refused⟩ := connection.sendAll_spec frame.bytes_ne_nil accepts
      exact ⟨fun sent => ⟨⟨version, ⟨declared, valid⟩, bounded⟩, done sent⟩, refused⟩

/-! ## Gathering bytes -/

/-- A loop that finds enough bytes returns them and leaves the others. -/
theorem receiveLoop_enough {remaining : Nat} (buffer : Text) {incoming : List Delivery}
    (reliable : Reliable incoming) (enough : remaining ≤ (pendingBytes incoming).length) :
    ∃ later, receiveLoop remaining buffer incoming =
        (.ok (buffer ++ (pendingBytes incoming).take remaining), later) ∧
      pendingBytes later = (pendingBytes incoming).drop remaining ∧ Reliable later := by
  fun_induction receiveLoop remaining buffer incoming with
  | case1 buffer incoming => exact ⟨incoming, by simp, by simp, reliable⟩
  | case2 remaining buffer incoming missing later got =>
      rw [recv_closed got] at enough
      exact absurd (Nat.le_zero.mp enough) missing
  | case3 remaining buffer incoming missing later got ih =>
      obtain rfl := recv_wouldBlock got
      exact ih (fun failed => reliable (List.mem_cons_of_mem _ failed)) enough
  | case4 remaining buffer incoming missing later got => exact absurd reliable (recv_failed got)
  | case5 remaining buffer incoming missing bytes later got ih =>
      obtain ⟨split, -, short, kept⟩ := recv_bytes got
      have within : bytes.length ≤ remaining := short.trans (min_le_left _ _)
      rw [split, List.length_append] at enough
      obtain ⟨last, loop, left, still⟩ := ih (kept reliable) (by omega)
      refine ⟨last, ?_, ?_, still⟩
      · rw [loop, split, List.take_append, List.take_of_length_le within, List.append_assoc]
      · rw [left, split, List.drop_append, List.drop_eq_nil_of_le within, List.nil_append]

/-- A loop that does not find enough bytes fails. -/
theorem receiveLoop_short {remaining : Nat} (buffer : Text) {incoming : List Delivery}
    (short : (pendingBytes incoming).length < remaining) :
    ∃ failure later, receiveLoop remaining buffer incoming = (.error failure, later) := by
  fun_induction receiveLoop remaining buffer incoming with
  | case1 buffer incoming => exact absurd short (Nat.not_lt_zero _)
  | case2 remaining buffer incoming missing later got => exact ⟨_, _, rfl⟩
  | case3 remaining buffer incoming missing later got ih =>
      obtain rfl := recv_wouldBlock got
      exact ih short
  | case4 remaining buffer incoming missing later got => exact ⟨_, _, rfl⟩
  | case5 remaining buffer incoming missing bytes later got ih =>
      obtain ⟨split, -⟩ := recv_bytes got
      rw [split, List.length_append] at short
      exact ih (by omega)

namespace TcpConnection

/-- An open connection whose socket does not fail. -/
structure Sound (connection : TcpConnection) : Prop where
  isOpen : connection.isOpen = true
  reliable : Reliable connection.incoming

theorem Sound.deliver {connection : TcpConnection} (sound : connection.Sound)
    {found : List Delivery} (reliable : Reliable found) : (connection.deliver found).Sound :=
  ⟨sound.isOpen, fun failed => (List.mem_append.mp failed).elim sound.reliable reliable⟩

theorem receiveExact_enough {connection : TcpConnection} (sound : connection.Sound) {count : Nat}
    (enough : count ≤ connection.pending.length) :
    ∃ next : TcpConnection, connection.receiveExact count =
        (.ok (connection.pending.take count), next) ∧
      next.pending = connection.pending.drop count ∧ next.Sound := by
  obtain ⟨later, loop, left, still⟩ := receiveLoop_enough [] sound.reliable enough
  refine ⟨{ connection with incoming := later }, ?_, left, sound.isOpen, still⟩
  rw [receiveExact, sound.isOpen, loop]
  rfl

theorem receiveExact_short {connection : TcpConnection} (sound : connection.Sound) {count : Nat}
    (short : connection.pending.length < count) :
    ∃ failure next, connection.receiveExact count = (.error failure, next) := by
  obtain ⟨failure, later, loop⟩ := receiveLoop_short [] short
  refine ⟨failure, { connection with incoming := later }, ?_⟩
  rw [receiveExact, sound.isOpen, loop]
  rfl

/-- Reception agrees with decoding the pending bytes: both refuse, or both give one frame and the
bytes behind it stay pending. -/
def Agrees (pending : Text) (outcome : FrameDecodeOutcome) :
    Result Frame × TcpConnection → Prop
  | (.ok frame, next) => outcome.status = .ok () ∧ outcome.frame = frame ∧
      next.pending = pending.drop outcome.consumed ∧ next.Sound
  | (.error _, _) => ∃ refusal, outcome.status = .error refusal

theorem receiveFrame_agrees {connection : TcpConnection} (sound : connection.Sound)
    (limits : Limits) :
    Agrees connection.pending (decodeFrame connection.pending limits)
      (connection.receiveFrame limits) := by
  unfold decodeFrame receiveFrame
  by_cases short : connection.pending.length < frameHeaderBytes
  · obtain ⟨failure, next, received⟩ := receiveExact_short sound short
    rw [if_pos short, received]
    exact ⟨_, rfl⟩
  · obtain ⟨next, received, left, nextSound⟩ := receiveExact_enough sound (Nat.le_of_not_lt short)
    rw [if_neg short, received]
    dsimp only
    cases parseFrameHeader (connection.pending.take frameHeaderBytes) limits with
    | error refusal => exact ⟨_, rfl⟩
    | ok info =>
        dsimp only
        have behind : next.pending.length = connection.pending.length - frameHeaderBytes := by
          rw [left, List.length_drop]
        by_cases more : info.payloadLength ≠ 0
        · rw [if_pos more]
          by_cases missing :
              connection.pending.length < frameHeaderBytes + info.payloadLength.toNat
          · have few : next.pending.length < info.payloadLength.toNat := by omega
            obtain ⟨failure, last, refused⟩ := receiveExact_short nextSound few
            rw [if_pos missing, refused]
            exact ⟨_, rfl⟩
          · have enough : info.payloadLength.toNat ≤ next.pending.length := by omega
            obtain ⟨last, gathered, rest, lastSound⟩ := receiveExact_enough nextSound enough
            rw [if_neg missing, gathered]
            dsimp only
            rw [left] at rest ⊢
            split
            · exact ⟨_, rfl⟩
            · exact ⟨rfl, rfl, by rw [rest, List.drop_drop], lastSound⟩
        · have none : info.payloadLength.toNat = 0 := by
            rw [not_not.mp more]
            rfl
          rw [if_neg more, none, if_neg (by omega), List.take_zero]
          by_cases summed : crc32 [] = info.payloadCrc
          · rw [if_neg (not_not.mpr summed.symm), if_neg (not_not.mpr summed)]
            exact ⟨rfl, rfl, left, nextSound⟩
          · rw [if_pos (Ne.symm summed), if_pos summed]
            exact ⟨_, rfl⟩

/-- Frames sent back to back are received one after another, and the bytes behind them stay
pending. -/
theorem receiveFrames_sent {limits : Limits} (words : limits.maxFramePayloadBytes < 2 ^ 32)
    {frames : List Frame} {pieces : List Text}
    (sent : List.Forall₂ (fun frame bytes => frame.type.declared = true ∧
      encodeFrame frame limits = .ok bytes) frames pieces)
    {connection : TcpConnection} (sound : connection.Sound) {rest : Text}
    (arrives : connection.pending = pieces.flatten ++ rest) :
    ∃ next : TcpConnection, receiveFrames limits frames.length connection = (.ok frames, next) ∧
      next.pending = rest ∧ next.Sound := by
  induction sent generalizing connection with
  | nil => exact ⟨connection, rfl, arrives, sound⟩
  | @cons frame bytes frames pieces encoded later ih =>
      have decoded := ((frames_bijective words).1 frame bytes encoded.1 encoded.2).1
        (pieces.flatten ++ rest)
      rw [List.flatten_cons, List.append_assoc] at arrives
      have agrees := receiveFrame_agrees sound limits
      rw [arrives, decoded] at agrees
      rcases received : connection.receiveFrame limits with ⟨result, next⟩
      rw [received] at agrees
      cases result with
      | error failure =>
          obtain ⟨refusal, refused⟩ := agrees
          cases refused
      | ok got =>
          obtain ⟨-, rfl, left, nextSound⟩ := agrees
          rw [List.drop_left] at left
          obtain ⟨last, all, ended, lastSound⟩ := ih nextSound left
          refine ⟨last, ?_, ended, lastSound⟩
          rw [List.length_cons, receiveFrames, received]
          dsimp only
          rw [all]

end TcpConnection

/-- A loop that returns bytes has taken them off the stream, whatever else the socket finds. -/
theorem receiveLoop_ok {remaining : Nat} {buffer bytes : Text} {incoming later : List Delivery}
    (gathered : receiveLoop remaining buffer incoming = (.ok bytes, later)) :
    ∃ piece, bytes = buffer ++ piece ∧ piece.length = remaining ∧
      pendingBytes incoming = piece ++ pendingBytes later := by
  fun_induction receiveLoop remaining buffer incoming with
  | case1 buffer incoming =>
      obtain ⟨rfl, rfl⟩ : buffer = bytes ∧ incoming = later := by simpa using gathered
      exact ⟨[], by simp, rfl, rfl⟩
  | case2 => cases gathered
  | case3 remaining buffer incoming missing rest got ih =>
      obtain rfl := recv_wouldBlock got
      exact ih gathered
  | case4 => cases gathered
  | case5 remaining buffer incoming missing first rest got ih =>
      obtain ⟨piece, rfl, exact, left⟩ := ih gathered
      obtain ⟨split, -, short, -⟩ := recv_bytes got
      have within : first.length ≤ remaining := short.trans (min_le_left _ _)
      refine ⟨first ++ piece, by simp, ?_, by rw [split, left, List.append_assoc]⟩
      rw [List.length_append, exact]
      omega

namespace TcpConnection

theorem receiveExact_ok {connection next : TcpConnection} {count : Nat} {bytes : Text}
    (received : connection.receiveExact count = (.ok bytes, next)) :
    bytes = connection.pending.take count ∧ count ≤ connection.pending.length ∧
      next.pending = connection.pending.drop count ∧ next.isOpen = true := by
  unfold receiveExact at received
  split at received
  · cases received
  · rename_i opened
    rcases gathered : receiveLoop count [] connection.incoming with ⟨result, later⟩
    rw [gathered] at received
    obtain ⟨rfl, rfl⟩ : result = .ok bytes ∧ { connection with incoming := later } = next := by
      simpa using received
    obtain ⟨_, rfl, exact, split⟩ := receiveLoop_ok gathered
    have whole : connection.pending = bytes ++ pendingBytes later := split
    subst exact
    refine ⟨?_, ?_, ?_, by simpa using opened⟩
    · rw [whole, List.take_left]
    · rw [whole, List.length_append]
      omega
    · rw [whole, List.drop_left, pending]

/-- A frame that is received is the one the pending bytes are decoded to. -/
theorem receiveFrame_ok {limits : Limits} {connection next : TcpConnection} {frame : Frame}
    (received : connection.receiveFrame limits = (.ok frame, next)) :
    decodeFrame connection.pending limits =
        ⟨.ok (), (decodeFrame connection.pending limits).consumed, frame⟩ ∧
      next.pending = connection.pending.drop (decodeFrame connection.pending limits).consumed ∧
      next.isOpen = true := by
  unfold receiveFrame at received
  split at received
  · cases received
  rename_i header afterHeader gotHeader
  obtain ⟨rfl, enough, left, opened⟩ := receiveExact_ok gotHeader
  unfold decodeFrame
  rw [if_neg (Nat.not_lt.mpr enough)]
  have behind : afterHeader.pending.length = connection.pending.length - frameHeaderBytes := by
    rw [left, List.length_drop]
  cases parsed : parseFrameHeader (connection.pending.take frameHeaderBytes) limits with
  | error failure =>
      rw [parsed] at received
      cases received
  | ok info =>
      rw [parsed] at received
      dsimp only at received ⊢
      split at received
      · split at received
        · cases received
        rename_i payload last gotPayload
        obtain ⟨rfl, more, rest, still⟩ := receiveExact_ok gotPayload
        split at received
        · cases received
        rename_i summed
        rw [left] at summed rest received
        obtain ⟨rfl, rfl⟩ := Prod.mk.inj received |>.imp_left Except.ok.inj
        rw [if_neg (by omega), if_neg summed]
        exact ⟨rfl, by rw [rest, List.drop_drop], still⟩
      · rename_i none
        split at received
        · cases received
        rename_i summed
        obtain ⟨rfl, rfl⟩ := Prod.mk.inj received |>.imp_left Except.ok.inj
        have empty : info.payloadLength.toNat = 0 := by
          rw [not_not.mp none]
          rfl
        rw [empty, if_neg (by omega), List.take_zero,
          if_neg (not_not.mpr (not_not.mp summed).symm)]
        exact ⟨rfl, left, opened⟩

/-- A frame that is received fits, and was the front of the pending bytes. -/
theorem receiveFrame_spec {limits : Limits} (words : limits.maxFramePayloadBytes < 2 ^ 32)
    {connection next : TcpConnection} {frame : Frame}
    (received : connection.receiveFrame limits = (.ok frame, next)) :
    frame.Fits limits ∧ connection.pending = frame.bytes ++ next.pending ∧
      next.isOpen = true := by
  obtain ⟨decoded, left, opened⟩ := receiveFrame_ok received
  obtain ⟨fit, consumed, starts⟩ := (decodeFrame_eq_ok words).mp decoded
  refine ⟨fit, ?_, opened⟩
  rw [left, consumed]
  exact (List.prefix_iff_eq_append.mp starts).symm

/-- A frame at the front of the pending bytes is received. -/
theorem receiveFrame_of_pending {limits : Limits} (words : limits.maxFramePayloadBytes < 2 ^ 32)
    {connection : TcpConnection} (sound : connection.Sound) {frame : Frame} {rest : Text}
    (fit : frame.Fits limits) (arrives : connection.pending = frame.bytes ++ rest) :
    ∃ next, connection.receiveFrame limits = (.ok frame, next) ∧ next.pending = rest ∧
      next.Sound := by
  have decoded : decodeFrame connection.pending limits = ⟨.ok (), frame.bytes.length, frame⟩ :=
    (decodeFrame_eq_ok words).mpr ⟨fit, rfl, arrives ▸ List.prefix_append _ _⟩
  have agrees := receiveFrame_agrees sound limits
  rw [decoded] at agrees
  rcases received : connection.receiveFrame limits with ⟨failure | got, next⟩
  · rw [received] at agrees
    obtain ⟨refusal, refused⟩ := agrees
    cases refused
  · rw [received] at agrees
    obtain ⟨-, rfl, left, nextSound⟩ := agrees
    refine ⟨next, rfl, ?_, nextSound⟩
    rw [left, arrives, List.drop_left]

/-- A connection with nothing pending has been closed by its peer. -/
theorem receiveFrame_idle {limits : Limits} {connection : TcpConnection} (sound : connection.Sound)
    (idle : connection.pending = []) :
    ∃ next, connection.receiveFrame limits =
      (.error (transportError .notFound (text "peer closed the connection")), next) := by
  have loop : ∀ incoming, Reliable incoming → pendingBytes incoming = [] →
      receiveLoop frameHeaderBytes [] incoming =
        (.error (transportError .notFound (text "peer closed the connection")), []) := by
    intro incoming
    induction incoming with
    | nil =>
        intro _ _
        rw [receiveLoop]
        simp [recv, frameHeaderBytes]
    | cons delivery later ih =>
        intro reliable none
        cases delivery with
        | data first more => simp [pendingBytes] at none
        | wouldBlock =>
            rw [receiveLoop]
            simpa [recv, frameHeaderBytes] using
              ih (fun failed => reliable (List.mem_cons_of_mem _ failed)) none
        | failed => exact absurd List.mem_cons_self reliable
  unfold receiveFrame receiveExact
  rw [sound.isOpen, loop connection.incoming sound.reliable idle]
  exact ⟨_, rfl⟩

end TcpConnection

/-- Stream reception agrees with buffer decoding: however the pending bytes are cut into pieces, a
frame is received exactly when they are decoded, it is the same frame, and the bytes consumed are
gone from the stream; so frames sent back to back are received as they were sent. -/
theorem reception_agrees {limits : Limits} (words : limits.maxFramePayloadBytes < 2 ^ 32)
    {connection : TcpConnection} (sound : connection.Sound) :
    (∀ frame, (connection.receiveFrame limits).1 = .ok frame ↔
      (decodeFrame connection.pending limits).status = .ok () ∧
        (decodeFrame connection.pending limits).frame = frame) ∧
    ((decodeFrame connection.pending limits).status = .ok () →
      (connection.receiveFrame limits).2.pending =
        connection.pending.drop (decodeFrame connection.pending limits).consumed) ∧
    ∀ frames pieces rest,
      List.Forall₂ (fun frame bytes => frame.type.declared = true ∧
        encodeFrame frame limits = .ok bytes) frames pieces →
      connection.pending = pieces.flatten ++ rest →
        (connection.receiveFrames limits frames.length).1 = .ok frames ∧
        (connection.receiveFrames limits frames.length).2.pending = rest := by
  have agrees := TcpConnection.receiveFrame_agrees sound limits
  rcases received : connection.receiveFrame limits with ⟨result, next⟩
  rw [received] at agrees
  refine ⟨fun frame => ?_, fun accepted => ?_, fun frames pieces rest sent arrives => ?_⟩
  · cases result with
    | error failure =>
        obtain ⟨refusal, refused⟩ := agrees
        simp [refused]
    | ok got =>
        obtain ⟨accepted, rfl, -⟩ := agrees
        simp [accepted]
  · cases result with
    | error failure =>
        obtain ⟨refusal, refused⟩ := agrees
        rw [refused] at accepted
        cases accepted
    | ok got => exact agrees.2.2.1
  · obtain ⟨last, all, left, -⟩ := TcpConnection.receiveFrames_sent words sent sound arrives
    rw [all]
    exact ⟨rfl, left⟩

/-- A connection that delivers a heartbeat byte by byte. -/
def dribble : TcpConnection where
  isOpen := true
  incoming := .wouldBlock :: heartbeat.bytes.map fun byte => .data byte []

theorem reception_agrees_sample :
    (dribble.receiveFrames .defaults 1).1 = .ok [heartbeat] ∧
      (dribble.receiveFrames .defaults 1).2.pending = [] := by
  have sound : dribble.Sound := ⟨rfl, by decide +kernel⟩
  have encoded : heartbeat.type.declared = true ∧
      encodeFrame heartbeat .defaults = .ok heartbeat.bytes := by decide +kernel
  have arrives : dribble.pending = [heartbeat.bytes].flatten ++ [] := by decide +kernel
  exact (reception_agrees defaultLimits_small sound).2.2 [heartbeat] [heartbeat.bytes] []
    (.cons encoded .nil) arrives

end Protocol

end ExperimentFabric
