import ExperimentFabric.Hash
import ExperimentFabric.Lib.Crc
import ExperimentFabric.Payload

/-!
# Frames

A message travels in a frame: a header of 32 bytes with two checksums, then the payload.  A buffer
is decoded exactly when it starts with the encoding of a frame, and a burst of changed bytes in one
place of a frame is always refused.
-/

namespace ExperimentFabric

open Lib

namespace Protocol

/-! ## Message types -/

/-- Message types.  The enumeration is a 16-bit word: `unnamed` holds how far a word lies beyond the
named types. -/
inductive MessageType where
  | invalid | hello | helloAck | registerWorker | registerAck | claimTrial | claimResult
  | publishObservation | publishArtifact | commitTrial | failTrial | heartbeat | ack
  | createExperiment | createTrial | cancelTrial | cancelExperiment | finalizeExperiment | rollback
  | query | queryResult | shutdown | errorReply | forkBranch | createHypothesis | reviseHypothesis
  | unnamed (beyond : Fin 65510)
  deriving DecidableEq, Repr

namespace MessageType

/-- The named message types, in the order of their numbers. -/
def named : List MessageType :=
  [.invalid, .hello, .helloAck, .registerWorker, .registerAck, .claimTrial, .claimResult,
    .publishObservation, .publishArtifact, .commitTrial, .failTrial, .heartbeat, .ack,
    .createExperiment, .createTrial, .cancelTrial, .cancelExperiment, .finalizeExperiment,
    .rollback, .query, .queryResult, .shutdown, .errorReply, .forkBranch, .createHypothesis,
    .reviseHypothesis]

/-- The word of a message type. -/
def number : MessageType → Nat
  | .unnamed beyond => 26 + beyond
  | type => named.idxOf type

/-- The message type of a word. -/
def ofNumber (raw : Nat) : MessageType :=
  match named[raw]? with
  | some type => type
  | none => .unnamed (Fin.ofNat 65510 (raw - 26))

/-- One of the named types. -/
def declared (type : MessageType) : Bool := type ∈ named

theorem number_lt (type : MessageType) : type.number < 2 ^ 16 := by
  cases type with
  | unnamed beyond =>
      have := beyond.isLt
      simp only [number]
      omega
  | _ => decide

theorem ofNumber_number (type : MessageType) : ofNumber type.number = type := by
  cases type with
  | unnamed beyond =>
      have absent : named[26 + beyond.val]? = none := List.getElem?_eq_none (by simp [named])
      simp only [number, ofNumber, absent, Nat.add_sub_cancel_left]
      simp
  | _ => decide

/-- The words from one to the last named type are those of the types that may be sent. -/
theorem number_bounds {type : MessageType} :
    (type.number ≠ 0 ∧ type.number ≤ reviseHypothesis.number) ↔
      type.declared = true ∧ type ≠ .invalid := by
  cases type with
  | unnamed beyond =>
      have last : reviseHypothesis.number = 25 := rfl
      have above : ¬ (unnamed beyond).number ≤ reviseHypothesis.number := by
        rw [last, number]
        omega
      simp [above, declared, named]
  | _ => decide

theorem number_ofNumber {raw : Nat} (known : raw ≤ reviseHypothesis.number) :
    (ofNumber raw).number = raw := by
  have each : ∀ raw : Fin 26, (ofNumber raw).number = raw := by decide
  exact each ⟨raw, Nat.lt_succ_of_le known⟩

end MessageType

/-! ## Frames and headers -/

/-- Version of the wire protocol. -/
def protocolVersion : UInt16 := 1

/-- The magic word of a frame. -/
def frameMagic : Nat := 0x4D524645

/-- Bytes of a frame header. -/
def frameHeaderBytes : Nat := 32

/-- One framed message. -/
structure Frame where
  version : UInt16 := protocolVersion
  type : MessageType := .invalid
  correlation : UInt64 := 0
  payload : Text := []
  deriving DecidableEq

/-- Validated header fields of one frame. -/
structure FrameHeaderInfo where
  version : UInt16
  type : MessageType
  correlation : UInt64
  payloadLength : UInt32
  payloadCrc : UInt32
  headerCrc : UInt32
  reserved : UInt32
  deriving DecidableEq

/-- A field of a header, least significant byte first. -/
def headerField (header : Text) (offset width : Nat) : Nat :=
  leValue ((header.drop offset).take width)

/-- Validate a header. -/
def parseFrameHeader (header : Text) (limits : Limits) : Result FrameHeaderInfo := do
  require (header.length = frameHeaderBytes) (Payload.protocolError "frame header size mismatch")
  let storedHeaderCrc := crc32 (header.take 24)
  let declaredCrc := UInt32.ofNat (headerField header 24 4)
  require (storedHeaderCrc = declaredCrc) (Payload.protocolError "frame header checksum mismatch")
  let magic := headerField header 0 4
  require (magic = frameMagic) (Payload.protocolError "frame magic mismatch")
  let version := UInt16.ofNat (headerField header 4 2)
  require (version = protocolVersion) (Payload.protocolError "unsupported protocol version")
  let rawType := headerField header 6 2
  require (rawType ≠ 0 && rawType ≤ MessageType.reviseHypothesis.number)
    (Payload.protocolError "unknown message type")
  let correlation := UInt64.ofNat (headerField header 8 8)
  let payloadLength := UInt32.ofNat (headerField header 16 4)
  let payloadCrc := UInt32.ofNat (headerField header 20 4)
  let reserved := UInt32.ofNat (headerField header 28 4)
  require (reserved = 0) (Payload.protocolError "reserved header word must be zero")
  require (payloadLength.toNat ≤ limits.maxFramePayloadBytes)
    ⟨.resourceExhausted, .limits, "frame payload exceeds bound"⟩
  pure {
    version, type := .ofNumber rawType, correlation, payloadLength, payloadCrc,
    headerCrc := storedHeaderCrc, reserved }

/-- The header bytes that the header checksum protects. -/
def protectedHeader (version : UInt16) (type : MessageType) (correlation : UInt64)
    (payloadLength payloadCrc : Nat) : Text :=
  [writeU32 frameMagic, writeU16 version.toNat, writeU16 type.number, writeU64 correlation.toNat,
    writeU32 payloadLength, writeU32 payloadCrc].flatten

/-- Encode the header of a frame. -/
def encodeFrameHeader (frame : Frame) (payload : Text) : Text :=
  let header := protectedHeader frame.version frame.type frame.correlation payload.length
    (crc32 payload).toNat
  header ++ writeU32 (crc32 header).toNat ++ writeU32 0

/-- Encode a frame. -/
def encodeFrame (frame : Frame) (limits : Limits) : Result Text := do
  require (frame.version = protocolVersion)
    (Payload.protocolError "refusing to encode unsupported protocol version")
  require (frame.type ≠ .invalid)
    (Payload.protocolError "refusing to encode INVALID message type")
  require (frame.payload.length ≤ limits.maxFramePayloadBytes)
    ⟨.resourceExhausted, .limits, "frame payload exceeds bound"⟩
  pure (encodeFrameHeader frame frame.payload ++ frame.payload)

/-- What decoding a buffer reports. -/
structure FrameDecodeOutcome where
  status : Result Unit
  consumed : Nat := 0
  frame : Frame := {}
  deriving DecidableEq

/-- Decode one frame from a buffer. -/
def decodeFrame (bytes : Text) (limits : Limits) : FrameDecodeOutcome :=
  if bytes.length < frameHeaderBytes then
    { status := .error (Payload.protocolError "short frame header") }
  else match parseFrameHeader (bytes.take frameHeaderBytes) limits with
    | .error refusal => { status := .error refusal }
    | .ok header =>
        let total := frameHeaderBytes + header.payloadLength.toNat
        if bytes.length < total then
          { status := .error (Payload.protocolError "short frame payload") }
        else
          let payload := (bytes.drop frameHeaderBytes).take header.payloadLength.toNat
          if crc32 payload ≠ header.payloadCrc then
            { status := .error (Payload.protocolError "frame payload checksum mismatch") }
          else
            { status := .ok ()
              consumed := total
              frame := { version := header.version, type := header.type,
                         correlation := header.correlation, payload } }

/-! ## Headers are encodings -/

/-- The bytes of fields that stand one after another, each with its width. -/
def packed (fields : List (Nat × Nat)) : Text :=
  (fields.map fun field => leBytes field.1 field.2).flatten

theorem packed_length (fields : List (Nat × Nat)) :
    (packed fields).length = (fields.map Prod.fst).sum := by
  induction fields with
  | nil => rfl
  | cons field rest ih =>
      change (leBytes field.1 field.2 ++ packed rest).length = _
      rw [List.length_append, leBytes_length, ih, List.map_cons, List.sum_cons]

/-- A field is read at the place where it was written. -/
theorem headerField_packed (front back : List (Nat × Nat)) {width value : Nat}
    (small : value < 256 ^ width) :
    headerField (packed (front ++ (width, value) :: back)) (front.map Prod.fst).sum width =
      value := by
  have split : packed (front ++ (width, value) :: back) =
      packed front ++ (leBytes width value ++ packed back) := by simp [packed]
  rw [headerField, split, List.drop_left' (packed_length front),
    List.take_left' (leBytes_length width value), leValue_leBytes, Nat.mod_eq_of_lt small]

theorem headerField_lt (header : Text) (offset width : Nat) :
    headerField header offset width < 256 ^ width :=
  lt_of_lt_of_le (leValue_lt _) (Nat.pow_le_pow_right (by decide) (List.length_take_le _ _))

@[simp]
theorem toNat_headerField_two (header : Text) (offset : Nat) :
    (UInt16.ofNat (headerField header offset 2)).toNat = headerField header offset 2 :=
  UInt16.toNat_ofNat_of_lt (headerField_lt header offset 2)

@[simp]
theorem toNat_headerField_four (header : Text) (offset : Nat) :
    (UInt32.ofNat (headerField header offset 4)).toNat = headerField header offset 4 :=
  UInt32.toNat_ofNat_of_lt (headerField_lt header offset 4)

@[simp]
theorem toNat_headerField_eight (header : Text) (offset : Nat) :
    (UInt64.ofNat (headerField header offset 8)).toNat = headerField header offset 8 :=
  UInt64.toNat_ofNat_of_lt (headerField_lt header offset 8)

/-- The bytes from an offset on start with the field that is read there. -/
theorem drop_eq_field {header : Text} {offset : Nat} (width : Nat)
    (inside : offset + width ≤ header.length) :
    header.drop offset =
      leBytes width (headerField header offset width) ++ header.drop (offset + width) := by
  have size : ((header.drop offset).take width).length = width := by
    rw [List.length_take, List.length_drop]
    omega
  have back := leBytes_leValue ((header.drop offset).take width)
  rw [size] at back
  rw [headerField, back, ← List.drop_drop, List.take_append_drop]

/-- A header consists of its fields. -/
theorem header_eq_packed {header : Text} (size : header.length = frameHeaderBytes) :
    header = packed [(4, headerField header 0 4), (2, headerField header 4 2),
      (2, headerField header 6 2), (8, headerField header 8 8), (4, headerField header 16 4),
      (4, headerField header 20 4), (4, headerField header 24 4), (4, headerField header 28 4)] := by
  change header.length = 32 at size
  have ended : header.drop 32 = [] := List.drop_eq_nil_of_le (Nat.le_of_eq size)
  conv_lhs =>
    rw [← List.drop_zero (l := header), drop_eq_field 4 (by omega),
      drop_eq_field 2 (by omega), drop_eq_field 2 (by omega),
      drop_eq_field 8 (by omega), drop_eq_field 4 (by omega),
      drop_eq_field 4 (by omega), drop_eq_field 4 (by omega),
      drop_eq_field 4 (by omega), ended]
  rfl

namespace FrameHeaderInfo

/-- The fields of a header that its checksum protects. -/
def protectedFields (info : FrameHeaderInfo) : List (Nat × Nat) :=
  [(4, frameMagic), (2, info.version.toNat), (2, info.type.number), (8, info.correlation.toNat),
    (4, info.payloadLength.toNat), (4, info.payloadCrc.toNat)]

/-- The bytes of a header. -/
def bytes (info : FrameHeaderInfo) : Text :=
  packed (info.protectedFields ++ [(4, info.headerCrc.toNat), (4, info.reserved.toNat)])

/-- What the validation of a header promises. -/
structure Valid (limits : Limits) (info : FrameHeaderInfo) : Prop where
  version : info.version = protocolVersion
  type : info.type.declared = true ∧ info.type ≠ .invalid
  bounded : info.payloadLength.toNat ≤ limits.maxFramePayloadBytes
  headerCrc : info.headerCrc = crc32 (packed info.protectedFields)
  reserved : info.reserved = 0

theorem bytes_length (info : FrameHeaderInfo) : info.bytes.length = frameHeaderBytes := by
  rw [bytes, packed_length]
  rfl

theorem take_bytes (info : FrameHeaderInfo) : info.bytes.take 24 = packed info.protectedFields := by
  have split : info.bytes = packed info.protectedFields ++
      packed [(4, info.headerCrc.toNat), (4, info.reserved.toNat)] := by simp [bytes, packed]
  rw [split, List.take_left']
  rw [packed_length]
  rfl

/-- The fields of a header as they are read, before they are checked. -/
def read (header : Text) : FrameHeaderInfo where
  version := UInt16.ofNat (headerField header 4 2)
  type := .ofNumber (headerField header 6 2)
  correlation := UInt64.ofNat (headerField header 8 8)
  payloadLength := UInt32.ofNat (headerField header 16 4)
  payloadCrc := UInt32.ofNat (headerField header 20 4)
  headerCrc := crc32 (header.take 24)
  reserved := UInt32.ofNat (headerField header 28 4)

/-- A header with the right size, checksum and magic and a named type is the encoding of its
fields. -/
theorem bytes_read {header : Text} (size : header.length = frameHeaderBytes)
    (checked : crc32 (header.take 24) = UInt32.ofNat (headerField header 24 4))
    (magic : headerField header 0 4 = frameMagic)
    (known : headerField header 6 2 ≤ MessageType.reviseHypothesis.number) :
    header = (read header).bytes := by
  have typed := MessageType.number_ofNumber known
  have stored : (crc32 (header.take 24)).toNat = headerField header 24 4 := by
    rw [checked, toNat_headerField_four]
  refine (header_eq_packed size).trans ?_
  simp only [bytes, protectedFields, read, magic, typed, stored, toNat_headerField_two,
    toNat_headerField_four, toNat_headerField_eight]
  rfl

theorem headerField_bytes (info : FrameHeaderInfo) :
    headerField info.bytes 0 4 = frameMagic ∧
    headerField info.bytes 4 2 = info.version.toNat ∧
    headerField info.bytes 6 2 = info.type.number ∧
    headerField info.bytes 8 8 = info.correlation.toNat ∧
    headerField info.bytes 16 4 = info.payloadLength.toNat ∧
    headerField info.bytes 20 4 = info.payloadCrc.toNat ∧
    headerField info.bytes 24 4 = info.headerCrc.toNat ∧
    headerField info.bytes 28 4 = info.reserved.toNat := by
  refine ⟨headerField_packed [] _ (by decide),
    headerField_packed (info.protectedFields.take 1) _ info.version.toNat_lt,
    headerField_packed (info.protectedFields.take 2) _ info.type.number_lt,
    headerField_packed (info.protectedFields.take 3) _ info.correlation.toNat_lt,
    headerField_packed (info.protectedFields.take 4) _ info.payloadLength.toNat_lt,
    headerField_packed (info.protectedFields.take 5) _ info.payloadCrc.toNat_lt,
    headerField_packed info.protectedFields _ info.headerCrc.toNat_lt,
    ?_⟩
  have last : info.reserved.toNat < 256 ^ 4 := info.reserved.toNat_lt
  exact headerField_packed (info.protectedFields ++ [(4, info.headerCrc.toNat)]) [] last

end FrameHeaderInfo

/-- A header is validated exactly when it is the encoding of valid fields. -/
theorem parseFrameHeader_eq_ok {header : Text} {limits : Limits} {info : FrameHeaderInfo} :
    parseFrameHeader header limits = .ok info ↔ info.Valid limits ∧ header = info.bytes := by
  simp only [parseFrameHeader, require_bind_eq_ok, decide_eq_true_eq, Bool.and_eq_true]
  constructor
  · rintro ⟨size, checked, magic, version, ⟨positive, known⟩, reserved, bounded, ended⟩
    have written := FrameHeaderInfo.bytes_read size checked magic known
    obtain rfl : FrameHeaderInfo.read header = info := Except.ok.inj ended
    have typed := MessageType.number_ofNumber known
    have sendable : (FrameHeaderInfo.read header).type.declared = true ∧
        (FrameHeaderInfo.read header).type ≠ .invalid := by
      refine MessageType.number_bounds.mp ?_
      rw [show (FrameHeaderInfo.read header).type.number = headerField header 6 2 from typed]
      exact ⟨positive, known⟩
    refine ⟨⟨version, sendable, bounded, ?_, reserved⟩, written⟩
    rw [← FrameHeaderInfo.take_bytes, ← written]
    rfl
  · rintro ⟨valid, rfl⟩
    obtain ⟨positive, known⟩ := MessageType.number_bounds.mpr valid.type
    obtain ⟨magic, version, type, correlation, length, sum, own, zero⟩ := info.headerField_bytes
    rw [magic, version, type, correlation, length, sum, own, zero, UInt16.ofNat_toNat,
      UInt64.ofNat_toNat, UInt32.ofNat_toNat, UInt32.ofNat_toNat, UInt32.ofNat_toNat,
      UInt32.ofNat_toNat, info.take_bytes, MessageType.ofNumber_number]
    refine ⟨info.bytes_length, valid.headerCrc.symm, rfl, valid.version, ⟨positive, known⟩,
      valid.reserved, valid.bounded, ?_⟩
    rw [← valid.headerCrc]
    rfl

/-! ## Frames are encodings -/

namespace Frame

/-- A frame that the protocol carries. -/
structure Fits (limits : Limits) (frame : Frame) : Prop where
  version : frame.version = protocolVersion
  type : frame.type.declared = true ∧ frame.type ≠ .invalid
  bounded : frame.payload.length ≤ limits.maxFramePayloadBytes

/-- The bytes of a frame. -/
def bytes (frame : Frame) : Text := encodeFrameHeader frame frame.payload ++ frame.payload

/-- The header of a frame without its own checksum. -/
def unsummed (frame : Frame) : FrameHeaderInfo where
  version := frame.version
  type := frame.type
  correlation := frame.correlation
  payloadLength := UInt32.ofNat frame.payload.length
  payloadCrc := crc32 frame.payload
  headerCrc := 0
  reserved := 0

/-- The header of a frame. -/
def header (frame : Frame) : FrameHeaderInfo :=
  { frame.unsummed with headerCrc := crc32 (packed frame.unsummed.protectedFields) }

theorem encodeFrameHeader_eq {frame : Frame} (small : frame.payload.length < 2 ^ 32) :
    encodeFrameHeader frame frame.payload = frame.header.bytes := by
  have size : (UInt32.ofNat frame.payload.length).toNat = frame.payload.length :=
    UInt32.toNat_ofNat_of_lt small
  have covered : protectedHeader frame.version frame.type frame.correlation frame.payload.length
      (crc32 frame.payload).toNat = packed frame.header.protectedFields := by
    change _ = packed [_, _, _, _, (4, (UInt32.ofNat frame.payload.length).toNat), _]
    rw [size]
    rfl
  simp only [encodeFrameHeader, covered]
  simp [FrameHeaderInfo.bytes, packed, writeU32, header, unsummed,
    FrameHeaderInfo.protectedFields]

theorem bytes_eq {frame : Frame} (small : frame.payload.length < 2 ^ 32) :
    frame.bytes = frame.header.bytes ++ frame.payload := by
  rw [bytes, encodeFrameHeader_eq small]

theorem bytes_length (frame : Frame) :
    frame.bytes.length = frameHeaderBytes + frame.payload.length := by
  simp only [bytes, encodeFrameHeader, protectedHeader, writeU16, writeU32, writeU64,
    List.length_append, List.length_flatten, List.map_cons, List.map_nil, List.sum_cons,
    List.sum_nil, leBytes_length, frameHeaderBytes]
  omega

/-- The header of a frame that fits is valid. -/
theorem Fits.header_valid {limits : Limits} (words : limits.maxFramePayloadBytes < 2 ^ 32)
    {frame : Frame} (fit : frame.Fits limits) : frame.header.Valid limits where
  version := fit.version
  type := fit.type
  bounded := by
    have small := lt_of_le_of_lt fit.bounded words
    have size : frame.header.payloadLength.toNat = frame.payload.length :=
      UInt32.toNat_ofNat_of_lt small
    rw [size]
    exact fit.bounded
  headerCrc := rfl
  reserved := rfl

/-- The header of the frame that a valid header and its payload make. -/
theorem header_eq {limits : Limits} {info : FrameHeaderInfo} (valid : info.Valid limits)
    {payload : Text} (size : payload.length = info.payloadLength.toNat)
    (summed : crc32 payload = info.payloadCrc) :
    Frame.header { version := info.version, type := info.type, correlation := info.correlation,
                   payload } = info := by
  have length : UInt32.ofNat payload.length = info.payloadLength := by
    rw [size, UInt32.ofNat_toNat]
  have own := valid.headerCrc
  have zero := valid.reserved
  cases info
  simp only [header, unsummed, FrameHeaderInfo.protectedFields] at *
  simp only [length, summed, own, zero]

end Frame

theorem encodeFrame_eq_ok {frame : Frame} {limits : Limits} {bytes : Text} :
    encodeFrame frame limits = .ok bytes ↔
      frame.version = protocolVersion ∧ frame.type ≠ .invalid ∧
        frame.payload.length ≤ limits.maxFramePayloadBytes ∧ frame.bytes = bytes := by
  simp [encodeFrame, Frame.bytes, pure, Except.pure]

/-- A buffer is decoded exactly when it starts with the encoding of a frame that fits. -/
theorem decodeFrame_eq_ok {limits : Limits} (words : limits.maxFramePayloadBytes < 2 ^ 32)
    {bytes : Text} {frame : Frame} {consumed : Nat} :
    decodeFrame bytes limits = { status := .ok (), consumed, frame } ↔
      frame.Fits limits ∧ consumed = frame.bytes.length ∧ frame.bytes <+: bytes := by
  constructor
  · intro decoded
    unfold decodeFrame at decoded
    split at decoded
    · simp at decoded
    · rename_i long
      split at decoded
      · simp at decoded
      · rename_i header parsed
        obtain ⟨valid, front⟩ := parseFrameHeader_eq_ok.mp parsed
        dsimp only at decoded
        split at decoded
        · simp at decoded
        · rename_i enough
          split at decoded
          · simp at decoded
          · rename_i summed
            simp only [FrameDecodeOutcome.mk.injEq, true_and] at decoded
            obtain ⟨rfl, rfl⟩ := decoded
            have size : ((bytes.drop frameHeaderBytes).take header.payloadLength.toNat).length =
                header.payloadLength.toNat := by
              rw [List.length_take, List.length_drop]
              omega
            have whole := Frame.header_eq valid size (not_not.mp summed)
            refine ⟨⟨valid.version, valid.type, ?_⟩, ?_, ?_⟩
            · rw [size]
              exact valid.bounded
            · rw [Frame.bytes_length, size]
            · rw [Frame.bytes_eq (by rw [size]; exact UInt32.toNat_lt _), whole, ← front]
              refine ⟨(bytes.drop frameHeaderBytes).drop header.payloadLength.toNat, ?_⟩
              rw [List.append_assoc, List.take_append_drop, List.take_append_drop]
  · rintro ⟨fit, rfl, rest, rfl⟩
    have small := lt_of_le_of_lt fit.bounded words
    have size : frame.header.payloadLength.toNat = frame.payload.length :=
      UInt32.toNat_ofNat_of_lt small
    have front : (frame.bytes ++ rest).take frameHeaderBytes = frame.header.bytes := by
      rw [Frame.bytes_eq small, List.append_assoc]
      exact List.take_left' frame.header.bytes_length
    have back : (frame.bytes ++ rest).drop frameHeaderBytes = frame.payload ++ rest := by
      rw [Frame.bytes_eq small, List.append_assoc]
      exact List.drop_left' frame.header.bytes_length
    have long : (frame.bytes ++ rest).length =
        frameHeaderBytes + frame.payload.length + rest.length := by
      rw [List.length_append, Frame.bytes_length]
    have parsed := parseFrameHeader_eq_ok.mpr ⟨fit.header_valid words, front⟩
    have summed : crc32 frame.payload = frame.header.payloadCrc := rfl
    unfold decodeFrame
    rw [if_neg (by omega), parsed]
    dsimp only
    rw [size, back, List.take_left, if_neg (by omega), if_neg (not_not.mpr summed),
      Frame.bytes_length]
    rfl

/-- A buffer is refused unless it starts with the encoding of a frame that fits. -/
theorem decodeFrame_eq_error {limits : Limits} (words : limits.maxFramePayloadBytes < 2 ^ 32)
    {bytes : Text} (foreign : ∀ frame : Frame, frame.Fits limits → ¬ frame.bytes <+: bytes) :
    ∃ refusal, (decodeFrame bytes limits).status = .error refusal := by
  rcases decoded : decodeFrame bytes limits with ⟨status, consumed, frame⟩
  cases status with
  | error refusal => exact ⟨refusal, rfl⟩
  | ok done =>
      obtain ⟨fit, -, front⟩ := (decodeFrame_eq_ok words).mp decoded
      exact absurd front (foreign frame fit)

/-- No frame that fits starts another one. -/
theorem Frame.eq_of_prefix {limits : Limits} (words : limits.maxFramePayloadBytes < 2 ^ 32)
    {frame other : Frame} (fit : frame.Fits limits) (otherFit : other.Fits limits) {bytes : Text}
    (front : frame.bytes <+: bytes) (otherFront : other.bytes <+: bytes) : frame = other := by
  have here := (decodeFrame_eq_ok words).mpr ⟨fit, rfl, front⟩
  rw [(decodeFrame_eq_ok words).mpr ⟨otherFit, rfl, otherFront⟩] at here
  exact (FrameDecodeOutcome.mk.inj here).2.2.symm

/-- Frames are encoded bijectively: the encoding of a frame, followed by anything, is decoded to the
frame and consumed whole; a strict prefix of it is refused; and what a buffer is decoded to is
encoded as the bytes consumed. -/
theorem frames_bijective {limits : Limits} (words : limits.maxFramePayloadBytes < 2 ^ 32) :
    (∀ frame bytes, frame.type.declared = true → encodeFrame frame limits = .ok bytes →
      (∀ rest, decodeFrame (bytes ++ rest) limits =
        { status := .ok (), consumed := bytes.length, frame }) ∧
      ∀ front, front <+: bytes → front ≠ bytes →
        ∃ refusal, (decodeFrame front limits).status = .error refusal) ∧
    ∀ bytes, (decodeFrame bytes limits).status = .ok () →
      encodeFrame (decodeFrame bytes limits).frame limits =
        .ok (bytes.take (decodeFrame bytes limits).consumed) := by
  refine ⟨fun frame bytes declared encoded => ?_, fun bytes accepted => ?_⟩
  · obtain ⟨version, sent, bounded, rfl⟩ := encodeFrame_eq_ok.mp encoded
    have fit : frame.Fits limits := ⟨version, ⟨declared, sent⟩, bounded⟩
    refine ⟨fun rest => (decodeFrame_eq_ok words).mpr ⟨fit, rfl, List.prefix_append _ _⟩, ?_⟩
    intro front shorter strict
    refine decodeFrame_eq_error words fun other otherFit starts => strict ?_
    obtain rfl := Frame.eq_of_prefix words otherFit fit (starts.trans shorter) (List.prefix_refl _)
    exact shorter.eq_of_length_le starts.length_le
  · rcases decoded : decodeFrame bytes limits with ⟨status, consumed, frame⟩
    rw [decoded] at accepted
    obtain rfl : status = .ok () := accepted
    obtain ⟨fit, rfl, front⟩ := (decodeFrame_eq_ok words).mp decoded
    refine encodeFrame_eq_ok.mpr ⟨fit.version, fit.type.2, fit.bounded, ?_⟩
    exact List.prefix_iff_eq_take.mp front

theorem defaultLimits_small : Limits.defaults.maxFramePayloadBytes < 2 ^ 32 := by decide

/-- A heartbeat with three bytes of payload. -/
def heartbeat : Frame := { type := .heartbeat, correlation := 7, payload := [1, 2, 3] }

theorem frames_bijective_sample :
    decodeFrame (heartbeat.bytes ++ [9]) .defaults =
      { status := .ok (), consumed := 35, frame := heartbeat } :=
  ((frames_bijective (by decide)).1 heartbeat heartbeat.bytes (by decide) (by decide +kernel)).1 [9]

/-! ## Corruption -/

/-- The polynomial of the checksum. -/
def crcPolynomial : BitVec 32 := 0xEDB88320#32

theorem crcBit_toBitVec (value : UInt32) :
    (crcBit value).toBitVec = Register.shift crcPolynomial value.toBitVec := by
  have odd : value &&& 1 ≠ 0 ↔ value.toBitVec.getLsbD 0 = true := by
    rw [Ne, ← UInt32.toBitVec_inj, UInt32.toBitVec_and]
    change ¬ (value.toBitVec &&& 1#32 = 0#32) ↔ _
    rw [BitVec.and_one_eq_setWidth_ofBool_getLsbD]
    cases value.toBitVec.getLsbD 0 <;> simp
  have half : (value >>> 1).toBitVec = value.toBitVec >>> 1 := by
    rw [UInt32.toBitVec_shiftRight]
    rfl
  unfold crcBit Register.shift
  by_cases bit : value.toBitVec.getLsbD 0 = true
  · rw [if_pos (odd.mpr bit), if_pos bit, UInt32.toBitVec_xor, half]
    rfl
  · rw [if_neg (mt odd.mp bit), if_neg bit, half]

theorem crcTable_toBitVec (index : UInt32) :
    (crcTable index).toBitVec = (Register.shift crcPolynomial)^[8] index.toBitVec :=
  Function.Semiconj.iterate_right (f := UInt32.toBitVec) crcBit_toBitVec 8 index

/-- The table advances the register by a byte. -/
theorem crcStep_toBitVec (state : UInt32) (byte : UInt8) :
    (crcTable ((state ^^^ byte.toUInt32) &&& 0xFF) ^^^ (state >>> 8)).toBitVec =
      Register.absorb crcPolynomial state.toBitVec byte := by
  have entry : byte.toUInt32.toBitVec = BitVec.ofNat 32 byte.toNat := by
    apply BitVec.eq_of_toNat_eq
    rw [BitVec.toNat_ofNat]
    change byte.toUInt32.toNat = _
    rw [UInt8.toNat_toUInt32, Nat.mod_eq_of_lt (lt_of_lt_of_le byte.toNat_lt (by decide))]
  have moved : (state.toBitVec ^^^ BitVec.ofNat 32 byte.toNat) >>> 8 = state.toBitVec >>> 8 := by
    have gone : BitVec.ofNat 32 byte.toNat >>> 8 = 0#32 := by
      apply BitVec.eq_of_toNat_eq
      have small := byte.toNat_lt
      rw [BitVec.toNat_ushiftRight, BitVec.toNat_ofNat, Nat.shiftRight_eq_div_pow,
        Nat.mod_eq_of_lt (lt_of_lt_of_le small (by decide)), Nat.div_eq_of_lt small]
      rfl
    rw [BitVec.ushiftRight_xor_distrib, gone, BitVec.xor_zero]
  have half : (state >>> 8).toBitVec = state.toBitVec >>> 8 := by
    rw [UInt32.toBitVec_shiftRight]
    rfl
  rw [Register.absorb, Register.iterate_eq_table, moved, UInt32.toBitVec_xor, crcTable_toBitVec,
    UInt32.toBitVec_and, UInt32.toBitVec_xor, entry, half]
  rfl

theorem crcFold_toBitVec (state : UInt32) (bytes : Text) :
    (bytes.foldl (fun state byte =>
      crcTable ((state ^^^ byte.toUInt32) &&& 0xFF) ^^^ (state >>> 8)) state).toBitVec =
      Register.run crcPolynomial state.toBitVec bytes := by
  induction bytes generalizing state with
  | nil => rfl
  | cons byte rest ih =>
      rw [List.foldl_cons, ih, crcStep_toBitVec]
      rfl

/-- A burst of at most four changed bytes changes the checksum. -/
theorem crc32_ne_of_window (front back : Text) {window changed : Text}
    (size : changed.length = window.length) (short : window.length ≤ 4)
    (differs : changed ≠ window) :
    crc32 (front ++ changed ++ back) ≠ crc32 (front ++ window ++ back) := by
  intro same
  have states := congrArg UInt32.toBitVec (UInt32.xor_left_inj _ |>.mp same)
  rw [crcFold_toBitVec, crcFold_toBitVec] at states
  exact Register.run_ne_of_window (by decide) _ front back size (by omega) differs states

namespace Frame

/-- The bytes of a frame start with its header. -/
theorem take_bytes {frame : Frame} (small : frame.payload.length < 2 ^ 32) :
    frame.bytes.take frameHeaderBytes = frame.header.bytes := by
  rw [bytes_eq small]
  exact List.take_left' frame.header.bytes_length

/-- The payload stands behind the header. -/
theorem drop_bytes {frame : Frame} (small : frame.payload.length < 2 ^ 32) (tail : Text) :
    (frame.bytes ++ tail).drop 32 = frame.payload ++ tail := by
  rw [bytes_eq small, List.append_assoc]
  exact List.drop_left' frame.header.bytes_length

/-- A header is what its checksum protects, then the checksum and a zero word. -/
theorem header_bytes (frame : Frame) :
    frame.header.bytes = frame.header.bytes.take 24 ++
      packed [(4, (crc32 (frame.header.bytes.take 24)).toNat), (4, 0)] := by
  rw [frame.header.take_bytes]
  have split : frame.header.bytes = packed frame.header.protectedFields ++
      packed [(4, frame.header.headerCrc.toNat), (4, frame.header.reserved.toNat)] := by
    simp [FrameHeaderInfo.bytes, packed]
  exact split

/-- Headers with the same last bytes protect bytes of one checksum. -/
theorem crc_of_header_end {frame other : Frame}
    (same : frame.header.bytes.drop 24 = other.header.bytes.drop 24) :
    crc32 (frame.header.bytes.take 24) = crc32 (other.header.bytes.take 24) := by
  obtain ⟨-, -, -, -, -, -, own, -⟩ := frame.header.headerField_bytes
  obtain ⟨-, -, -, -, -, -, otherOwn, -⟩ := other.header.headerField_bytes
  rw [headerField, same] at own
  have sums : frame.header.headerCrc = other.header.headerCrc :=
    UInt32.toNat_inj.mp (own.symm.trans otherOwn)
  rw [frame.header.take_bytes, other.header.take_bytes]
  exact sums

/-- Frames with one header have payloads of one length and one checksum. -/
theorem payload_of_header {frame other : Frame} (small : frame.payload.length < 2 ^ 32)
    (otherSmall : other.payload.length < 2 ^ 32) (same : frame.header.bytes = other.header.bytes) :
    frame.payload.length = other.payload.length ∧ crc32 frame.payload = crc32 other.payload := by
  obtain ⟨-, -, -, -, length, sum, -, -⟩ := frame.header.headerField_bytes
  obtain ⟨-, -, -, -, otherLength, otherSum, -, -⟩ := other.header.headerField_bytes
  have size : frame.header.payloadLength.toNat = frame.payload.length :=
    UInt32.toNat_ofNat_of_lt small
  have otherSize : other.header.payloadLength.toNat = other.payload.length :=
    UInt32.toNat_ofNat_of_lt otherSmall
  refine ⟨?_, UInt32.toNat_inj.mp ?_⟩
  · rw [← size, ← otherSize, ← length, ← otherLength, same]
  · change frame.header.payloadCrc.toNat = other.header.payloadCrc.toNat
    rw [← sum, ← otherSum, same]

end Frame

/-- The first bytes of a list, up to a place behind a window. -/
theorem take_window {front window back : Text} {count : Nat}
    (inside : front.length + window.length ≤ count) :
    (front ++ window ++ back).take count =
      front ++ window ++ back.take (count - (front.length + window.length)) := by
  rw [List.take_append, List.take_of_length_le (by rw [List.length_append]; exact inside),
    List.length_append]

theorem drop_window {front window back : Text} {count : Nat}
    (inside : front.length + window.length ≤ count) :
    (front ++ window ++ back).drop count =
      back.drop (count - (front.length + window.length)) := by
  rw [List.drop_append, List.drop_eq_nil_of_le (by rw [List.length_append]; exact inside),
    List.length_append, List.nil_append]

/-- What a changed window leaves of the bytes of a frame starts with another frame. -/
structure Replaced (frame other : Frame) (front window changed back rest tail : Text) : Prop where
  small : frame.payload.length < 2 ^ 32
  otherSmall : other.payload.length < 2 ^ 32
  whole : frame.bytes = front ++ window ++ back
  starts : other.bytes ++ tail = front ++ changed ++ back ++ rest
  size : changed.length = window.length

namespace Replaced

variable {frame other : Frame} {front window changed back rest tail : Text}
  (replaced : Replaced frame other front window changed back rest tail)

include replaced

theorem header : (front ++ window ++ back).take 32 = frame.header.bytes := by
  rw [← replaced.whole]
  exact Frame.take_bytes replaced.small

theorem otherHeader : (front ++ changed ++ (back ++ rest)).take 32 = other.header.bytes := by
  rw [← List.append_assoc, ← replaced.starts, List.take_append_of_le_length]
  · exact Frame.take_bytes replaced.otherSmall
  · rw [other.bytes_length]
    exact Nat.le_add_right _ _

theorem length : front.length + window.length + back.length = 32 + frame.payload.length := by
  rw [← List.length_append, ← List.length_append, ← replaced.whole, frame.bytes_length]
  rfl

/-- A window of the payload: the headers agree, so the payloads have one length and one checksum. -/
theorem eq_of_payload (short : window.length ≤ 4) (inside : 32 ≤ front.length) :
    changed = window := by
  have same : frame.header.bytes = other.header.bytes := by
    rw [← replaced.header, ← replaced.otherHeader, List.append_assoc, List.append_assoc,
      List.take_append_of_le_length inside, List.take_append_of_le_length inside]
  obtain ⟨lengths, sums⟩ := Frame.payload_of_header replaced.small replaced.otherSmall same
  have payload : frame.payload = front.drop 32 ++ window ++ back := by
    rw [← List.append_nil frame.payload, ← Frame.drop_bytes replaced.small, replaced.whole,
      List.append_nil, List.append_assoc, List.drop_append_of_le_length inside, List.append_assoc]
  have otherPayload : other.payload = front.drop 32 ++ changed ++ back := by
    have behind : other.payload ++ tail = front.drop 32 ++ changed ++ back ++ rest := by
      rw [← Frame.drop_bytes replaced.otherSmall, replaced.starts]
      simp only [List.append_assoc]
      rw [List.drop_append_of_le_length inside]
    refine (List.append_inj behind ?_).1
    rw [← lengths, payload, List.length_append, List.length_append, List.length_append,
      List.length_append, replaced.size]
  rw [payload, otherPayload] at sums
  by_contra differs
  exact crc32_ne_of_window _ back replaced.size short differs sums.symm

/-- A window of what the header checksum protects: the last bytes of the headers agree, and with
them the checksums. -/
theorem eq_of_protected (short : window.length ≤ 4) (inside : front.length + window.length ≤ 24) :
    changed = window := by
  have length := replaced.length
  have size := replaced.size
  have ends : frame.header.bytes.drop 24 = other.header.bytes.drop 24 := by
    rw [← replaced.header, ← replaced.otherHeader, List.drop_take, List.drop_take,
      drop_window inside, drop_window (by omega), size, List.drop_append_of_le_length (by omega),
      List.take_append_of_le_length (by rw [List.length_drop]; omega)]
  have sums := Frame.crc_of_header_end ends
  rw [← replaced.header, ← replaced.otherHeader, List.take_take, List.take_take,
    take_window (by omega), take_window (by omega), size,
    List.take_append_of_le_length (by omega)] at sums
  by_contra differs
  exact crc32_ne_of_window front _ size short differs sums.symm

/-- A window of the last bytes of the header: what the checksums protect agrees, so the headers
do. -/
theorem eq_of_end (inside : 24 ≤ front.length) (last : front.length + window.length ≤ 32) :
    changed = window := by
  have length := replaced.length
  have size := replaced.size
  have starts : frame.header.bytes.take 24 = other.header.bytes.take 24 := by
    rw [← replaced.header, ← replaced.otherHeader, List.take_take, List.take_take,
      List.append_assoc, List.append_assoc, List.take_append_of_le_length (by omega),
      List.take_append_of_le_length (by omega)]
  have same : frame.header.bytes = other.header.bytes := by
    rw [frame.header_bytes, other.header_bytes, starts]
  rw [← replaced.header, ← replaced.otherHeader, take_window last, take_window (by omega), size,
    List.take_append_of_le_length (by omega)] at same
  exact (List.append_cancel_left (List.append_cancel_right same)).symm

end Replaced

/-- A burst of changed bytes in one place of a frame is refused: at most four bytes of the payload,
at most four of the first 24 bytes of the header, or any of its last eight bytes; whatever
follows. -/
theorem corruption_refused {limits : Limits} (words : limits.maxFramePayloadBytes < 2 ^ 32)
    {frame : Frame} {front window changed back : Text}
    (encoded : encodeFrame frame limits = .ok (front ++ window ++ back))
    (size : changed.length = window.length) (differs : changed ≠ window)
    (place :
      (window.length ≤ 4 ∧ 32 ≤ front.length) ∨
      (window.length ≤ 4 ∧ front.length + window.length ≤ 24) ∨
      (24 ≤ front.length ∧ front.length + window.length ≤ 32)) (rest : Text) :
    ∃ refusal, (decodeFrame (front ++ changed ++ back ++ rest) limits).status = .error refusal := by
  obtain ⟨-, -, bounded, whole⟩ := encodeFrame_eq_ok.mp encoded
  refine decodeFrame_eq_error words fun other fit ⟨tail, starts⟩ => differs ?_
  have replaced : Replaced frame other front window changed back rest tail :=
    { small := lt_of_le_of_lt bounded words
      otherSmall := lt_of_le_of_lt fit.bounded words
      whole := whole
      starts := starts
      size := size }
  rcases place with ⟨short, inside⟩ | ⟨short, inside⟩ | ⟨inside, last⟩
  · exact replaced.eq_of_payload short inside
  · exact replaced.eq_of_protected short inside
  · exact replaced.eq_of_end inside last

theorem corruption_refused_sample :
    ∃ refusal, (decodeFrame (heartbeat.bytes.take 33 ++ [0] ++ [3] ++ [9]) .defaults).status =
      .error refusal := by
  have encoded : encodeFrame heartbeat .defaults =
      .ok (heartbeat.bytes.take 33 ++ [2] ++ [3]) := by decide +kernel
  have size : (heartbeat.bytes.take 33).length = 33 := by decide +kernel
  refine corruption_refused defaultLimits_small encoded ?_ ?_ ?_ [9]
  · rfl
  · decide
  · exact .inl ⟨by decide, by rw [size]; decide⟩

end Protocol

end ExperimentFabric
