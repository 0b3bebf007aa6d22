import ExperimentFabric.Hash
import ExperimentFabric.RecordCodec
import ExperimentFabric.Validation

/-!
# The persisted state image

An image is a header with a checksum, the length and the digest of its body, followed by the body: a
header record, one record per worker incarnation and one per experiment, each with its own length
and checksum.  Reading an image checks all of them, rebuilds the state record by record and
validates the result.

The writer bounds the records a state holds, the reader the records of the image, and the image has
one record more: its own header.  A state is read back exactly when that record still fits.
-/

namespace ExperimentFabric

open Lib

namespace Persistence

variable {R : Type}

/-! ## Records -/

/-- The magic number of an image, `STAT` in little-endian order. -/
def magic : Nat := 0x54415453

/-- Bytes before the body of an image. -/
def headerBytes : Nat := 56

/-- The kinds of records. -/
inductive RecordType where
  | stateHeader | worker | experiment
  deriving DecidableEq

/-- The stable number of a record type. -/
def RecordType.number : RecordType → Nat
  | .stateHeader => 1
  | .worker => 2
  | .experiment => 3

/-- The record type of a number. -/
def RecordType.ofNumber : Nat → Option RecordType
  | 1 => some .stateHeader
  | 2 => some .worker
  | 3 => some .experiment
  | _ => none

/-- A failure blaming the image. -/
def corrupt (reason : Text) : Status := ⟨.corruptPersistence, .persistence, reason⟩

/-- A failure blaming the storage. -/
def ioFailure (reason : Text) : Status := ⟨.persistenceFailure, .persistence, reason⟩

/-- A failure blaming a bound. -/
def limitsError (reason : Text) : Status := ⟨.resourceExhausted, .limits, reason⟩

/-- The word at an offset. -/
def loadU32 (bytes : Text) (offset : Nat) : Nat := leValue ((bytes.drop offset).take 4)

/-- The long word at an offset. -/
def loadU64 (bytes : Text) (offset : Nat) : Nat := leValue ((bytes.drop offset).take 8)

/-- One record: type, length, checksum and payload. -/
def appendRecord (type : RecordType) (payload : Text) : Text :=
  [writeU32 type.number, writeU32 payload.length, writeU32 (crc32 payload).toNat, payload].flatten

/-- The counters of a state, as its header record holds them. -/
def writeStateHeader (state : CoordinatorState R) : Text :=
  [writeU32 state.formatVersion, writeU64 state.lastEpoch, writeU64 state.lastSequence,
    writeU64 state.nextWorkerRegistrationSequence, writeU64 state.watermarks.experiment,
    writeU64 state.watermarks.hypothesis, writeU64 state.watermarks.branch,
    writeU64 state.watermarks.metric, writeU64 state.watermarks.policy,
    writeU64 state.watermarks.trial, writeU64 state.watermarks.attempt,
    writeU64 state.watermarks.observation, writeU64 state.watermarks.artifact,
    writeU64 state.watermarks.decision, writeU64 state.watermarks.rollback].flatten

variable [BitPattern R]

/-- The payload of an experiment record. -/
def writeExperimentEntry (entry : ExperimentId × ExperimentRecord R) : Text :=
  writeU64 entry.1.value ++ writeExperimentRecord entry.2

/-- The records of a state, in order. -/
def records (state : CoordinatorState R) : List (RecordType × Text) :=
  (.stateHeader, writeStateHeader state) ::
    (state.workers.map fun incarnation => (.worker, writeWorkerIncarnation incarnation)) ++
    state.experiments.entries.map fun entry => (.experiment, writeExperimentEntry entry)

/-- The body of an image. -/
def body (state : CoordinatorState R) : Text :=
  ((records state).map fun record => appendRecord record.1 record.2).flatten

/-- The first words of an image. -/
def preamble (version : Nat) : Text :=
  [writeU32 magic, writeU32 version, writeU32 0].flatten

/-- The image of a state. -/
def image (state : CoordinatorState R) : Text :=
  [preamble state.formatVersion, writeU32 (crc32 (preamble state.formatVersion)).toNat,
    writeU64 (body state).length, Sha256.digestOf (body state), body state].flatten

/-- Serialize a state. -/
def serialize (state : CoordinatorState R) (limits : Limits) : Result Text := do
  require (state.formatVersion = persistenceFormatVersion)
    (ioFailure "refusing to serialize state with a mismatched format version")
  require (state.totalRecordCount ≤ limits.maxPersistedRecords)
    (limitsError "state holds more records than the configured bound")
  pure (image state)

/-! ## Reading -/

/-- Stable name of an error code. -/
def codeText (code : ErrorCode) : Text :=
  match code with
  | .ok => "OK"
  | .invalidArgument => "INVALID_ARGUMENT"
  | .notFound => "NOT_FOUND"
  | .alreadyExists => "ALREADY_EXISTS"
  | .staleEpoch => "STALE_EPOCH"
  | .staleWorker => "STALE_WORKER"
  | .staleGeneration => "STALE_GENERATION"
  | .staleHypothesis => "STALE_HYPOTHESIS"
  | .staleBranch => "STALE_BRANCH"
  | .staleAttempt => "STALE_ATTEMPT"
  | .unauthorized => "UNAUTHORIZED"
  | .invalidTransition => "INVALID_TRANSITION"
  | .cancelled => "CANCELLED"
  | .insufficientEvidence => "INSUFFICIENT_EVIDENCE"
  | .invalidObservation => "INVALID_OBSERVATION"
  | .corruptPersistence => "CORRUPT_PERSISTENCE"
  | .protocolError => "PROTOCOL_ERROR"
  | .resourceExhausted => "RESOURCE_EXHAUSTED"
  | .unsupported => "UNSUPPORTED"
  | .persistenceFailure => "PERSISTENCE_FAILURE"
  | .transportFailure => "TRANSPORT_FAILURE"
  | .shuttingDown => "SHUTTING_DOWN"
  | .internal => "INTERNAL"
  | .unnamed _ => "UNKNOWN_ERROR"

/-- Stable name of an error stage. -/
def stageText (stage : ErrorStage) : Text :=
  match stage with
  | .none => "NONE"
  | .validation => "VALIDATION"
  | .identity => "IDENTITY"
  | .definition => "DEFINITION"
  | .authority => "AUTHORITY"
  | .lifecycle => "LIFECYCLE"
  | .observation => "OBSERVATION"
  | .comparison => "COMPARISON"
  | .decision => "DECISION"
  | .persistence => "PERSISTENCE"
  | .transport => "TRANSPORT"
  | .recovery => "RECOVERY"
  | .shutdown => "SHUTDOWN"
  | .limits => "LIMITS"

/-- One line for a status. -/
def statusText (status : Status) : Text :=
  codeText status.code ++ text " stage=" ++ stageText status.stage ++
    if status.reason = [] then [] else text " reason=" ++ status.reason

/-- A codec failure as a persistence failure; exhausted bounds stay what they are. -/
def mapCodecStatus (status : Status) : Status :=
  if status.code = .resourceExhausted then status
  else corrupt (text "record decode failed: " ++ statusText status)

/-- A reader whose failures are persistence failures. -/
def mapped {α : Type} (read : PayloadReader α) : PayloadReader α := fun bytes =>
  match read bytes with
  | .ok result => .ok result
  | .error status => .error (mapCodecStatus status)

/-- What has been rebuilt of a state. -/
structure Progress (R : Type) where
  state : CoordinatorState R := {}
  headerSeen : Bool := false
  recordCount : Nat := 0

/-- Read a header record into a state. -/
def readStateHeader (state : CoordinatorState R) : PayloadReader (CoordinatorState R) := do
  let formatVersion ← readU32
  let lastEpoch ← readU64
  let lastSequence ← readU64
  let nextWorkerRegistrationSequence ← readU64
  let experiment ← readU64
  let hypothesis ← readU64
  let branch ← readU64
  let metric ← readU64
  let policy ← readU64
  let trial ← readU64
  let attempt ← readU64
  let observation ← readU64
  let artifact ← readU64
  let decision ← readU64
  let rollback ← readU64
  pure { state with
    formatVersion, lastEpoch, lastSequence, nextWorkerRegistrationSequence,
    watermarks := { experiment, hypothesis, branch, metric, policy, trial, attempt, observation,
                    artifact, decision, rollback } }

/-- Read a worker record into a state. -/
def readWorker (limits : Limits) (state : CoordinatorState R) :
    PayloadReader (CoordinatorState R) := do
  let incarnation ← mapped (readWorkerIncarnation limits)
  ensure (state.workers.length < limits.maxRegisteredWorkers)
    (limitsError "state holds more worker incarnations than the configured bound")
  pure { state with workers := state.workers ++ [incarnation] }

/-- Read an experiment record into a state. -/
def readExperiment (limits : Limits) (state : CoordinatorState R) :
    PayloadReader (CoordinatorState R) := do
  let experiment : ExperimentId ← mapped readId
  ensure experiment.valid (corrupt "experiment record carries a null identity")
  let record ← mapped (readExperimentRecord limits)
  ensure (state.experiments.size < limits.maxExperiments)
    (limitsError "state holds more experiments than the configured bound")
  ensure (state.experiments.find? experiment).isNone (corrupt "duplicate experiment record")
  pure { state with experiments := state.experiments.assign experiment record }

/-- Read one record into what has been rebuilt. -/
def readRecord (limits : Limits) (type : RecordType) (payload : Text) (progress : Progress R) :
    Result (Progress R) := do
  let trailing := corrupt "record contains trailing bytes"
  match type with
  | .stateHeader =>
      require (!progress.headerSeen)
        (corrupt "state image contains more than one header record")
      let state ← decodeAll trailing (mapped (readStateHeader progress.state)) payload
      pure { progress with state, headerSeen := true }
  | .worker =>
      let state ← decodeAll trailing (readWorker limits progress.state) payload
      pure { progress with state }
  | .experiment =>
      let state ← decodeAll trailing (readExperiment limits progress.state) payload
      pure { progress with state }

/-- Read the records of a body, one after another. -/
def readRecords (limits : Limits) (bytes : Text) (progress : Progress R) :
    Result (Progress R) :=
  if bytes = [] then .ok progress
  else if _short : bytes.length < 12 then .error (corrupt "record header is truncated")
  else match RecordType.ofNumber (loadU32 bytes 0) with
    | none => .error (corrupt "record type is not recognised")
    | some type =>
        let payloadLength := loadU32 bytes 4
        if payloadLength > bytes.length - 12 then .error (corrupt "record payload is truncated")
        else if progress.recordCount + 1 > limits.maxPersistedRecords then
          .error (limitsError "state holds too many records")
        else
          let payload := (bytes.drop 12).take payloadLength
          if (crc32 payload).toNat ≠ loadU32 bytes 8 then
            .error (corrupt "record checksum mismatch")
          else
            match readRecord limits type payload
                { progress with recordCount := progress.recordCount + 1 } with
            | .error failure => .error failure
            | .ok next => readRecords limits (bytes.drop (12 + payloadLength)) next
  termination_by bytes.length
  decreasing_by
    rw [List.length_drop]
    omega

/-- Read a state image. -/
def deserialize [MetricReal R] (bytes : Text) (limits : Limits) :
    Result (CoordinatorState R) := do
  require (headerBytes ≤ bytes.length) (corrupt "state image is shorter than its header")
  require (bytes.length ≤ limits.maxStateFileBytes)
    (limitsError "state image exceeds the configured bound")
  require (loadU32 bytes 0 = magic) (corrupt "state image magic mismatch")
  require (loadU32 bytes 4 = persistenceFormatVersion)
    (corrupt "state image format version is not supported by this build")
  require (loadU32 bytes 8 = 0) (corrupt "state image flags must be zero")
  require (loadU32 bytes 12 = (crc32 (bytes.take 12)).toNat)
    (corrupt "state image header checksum mismatch")
  require (loadU64 bytes 16 ≤ bytes.length - headerBytes) (corrupt "state image is truncated")
  require (bytes.length - headerBytes ≤ loadU64 bytes 16)
    (corrupt "state image has trailing garbage")
  require (Sha256.digestOf (bytes.drop headerBytes) = (bytes.drop 24).take 32)
    (corrupt "state image body digest mismatch")
  let progress ← readRecords limits (bytes.drop headerBytes) {}
  require progress.headerSeen (corrupt "state image is missing its header record")
  progress.state.validate limits
  pure progress.state

/-! ## Words of an image -/

theorem loadU32_at (front rest : Text) {offset value : Nat} (size : front.length = offset)
    (small : FitsU32 value) : loadU32 (front ++ (writeU32 value ++ rest)) offset = value := by
  have whole : (front ++ (writeU32 value ++ rest)).drop offset = writeU32 value ++ rest := by
    rw [← size, List.drop_left]
  have word : (writeU32 value ++ rest).take 4 = writeU32 value :=
    List.take_left' (leBytes_length 4 value)
  rw [loadU32, whole, word, writeU32, leValue_leBytes]
  exact Nat.mod_eq_of_lt small

theorem loadU64_at (front rest : Text) {offset value : Nat} (size : front.length = offset)
    (small : FitsU64 value) : loadU64 (front ++ (writeU64 value ++ rest)) offset = value := by
  have whole : (front ++ (writeU64 value ++ rest)).drop offset = writeU64 value ++ rest := by
    rw [← size, List.drop_left]
  have word : (writeU64 value ++ rest).take 8 = writeU64 value :=
    List.take_left' (leBytes_length 8 value)
  rw [loadU64, whole, word, writeU64, leValue_leBytes]
  exact Nat.mod_eq_of_lt small

theorem ofNumber_number (type : RecordType) : RecordType.ofNumber type.number = some type := by
  cases type <;> rfl

/-! ## Reading the records of a state -/

/-- Read a list of records, one after another. -/
def readAll (limits : Limits) :
    List (RecordType × Text) → Progress R → Result (Progress R)
  | [], progress => .ok progress
  | (type, payload) :: rest, progress =>
      if progress.recordCount + 1 > limits.maxPersistedRecords then
        .error (limitsError "state holds too many records")
      else
        match readRecord limits type payload
            { progress with recordCount := progress.recordCount + 1 } with
        | .error failure => .error failure
        | .ok next => readAll limits rest next

/-- A body is read record by record. -/
theorem readRecords_appendRecord (limits : Limits) {type : RecordType} {payload : Text}
    (small : FitsU32 payload.length) (rest : Text) (progress : Progress R) :
    readRecords limits (appendRecord type payload ++ rest) progress =
      if progress.recordCount + 1 > limits.maxPersistedRecords then
        .error (limitsError "state holds too many records")
      else
        match readRecord limits type payload
            { progress with recordCount := progress.recordCount + 1 } with
        | .error failure => .error failure
        | .ok next => readRecords limits rest next := by
  have fitsType : FitsU32 type.number := by cases type <;> decide
  have fitsSum : FitsU32 (crc32 payload).toNat := (crc32 payload).toNat_lt
  have bytes : appendRecord type payload ++ rest =
      writeU32 type.number ++ (writeU32 payload.length ++
        (writeU32 (crc32 payload).toNat ++ (payload ++ rest))) := by
    simp [appendRecord]
  have numbered : loadU32 (appendRecord type payload ++ rest) 0 = type.number := by
    rw [bytes]
    exact loadU32_at [] _ rfl fitsType
  have sized : loadU32 (appendRecord type payload ++ rest) 4 = payload.length := by
    rw [bytes]
    exact loadU32_at (writeU32 type.number) _ (leBytes_length 4 _) small
  have summed : loadU32 (appendRecord type payload ++ rest) 8 = (crc32 payload).toNat := by
    rw [bytes, ← List.append_assoc]
    exact loadU32_at (writeU32 type.number ++ writeU32 payload.length) _ (by simp [writeU32])
      fitsSum
  have head : (writeU32 type.number ++ (writeU32 payload.length ++
      writeU32 (crc32 payload).toNat)).length = 12 := by
    simp [writeU32]
  have after : (appendRecord type payload ++ rest).drop 12 = payload ++ rest := by
    rw [bytes, ← List.append_assoc (writeU32 payload.length), ← List.append_assoc, ← head,
      List.drop_left]
  have behind : (appendRecord type payload ++ rest).drop (12 + payload.length) = rest := by
    rw [← List.drop_drop, after, List.drop_left]
  have length : (appendRecord type payload ++ rest).length = 12 + payload.length + rest.length := by
    simp [appendRecord, writeU32]
    omega
  have nonempty : appendRecord type payload ++ rest ≠ [] := by
    intro empty
    rw [empty, List.length_nil] at length
    omega
  rw [readRecords, if_neg nonempty, dif_neg (by omega), numbered, ofNumber_number]
  simp only [sized, summed, after, behind, List.take_left, length, ne_eq, not_true, if_false]
  rw [if_neg (by omega)]

/-- The body of an image is read as the list of its records. -/
theorem readRecords_eq_readAll (limits : Limits) {all : List (RecordType × Text)}
    (small : ∀ record ∈ all, FitsU32 record.2.length) (progress : Progress R) :
    readRecords limits (all.map fun record => appendRecord record.1 record.2).flatten progress =
      readAll limits all progress := by
  induction all generalizing progress with
  | nil => simp [readRecords, readAll]
  | cons record rest ih =>
      have first := small record List.mem_cons_self
      have later := ih fun other member => small other (List.mem_cons_of_mem _ member)
      rw [List.map_cons, List.flatten_cons, readRecords_appendRecord limits first, readAll]
      simp only [later]

theorem readAll_append (limits : Limits) (front back : List (RecordType × Text))
    (progress : Progress R) :
    readAll limits (front ++ back) progress =
      match readAll limits front progress with
      | .error failure => .error failure
      | .ok next => readAll limits back next := by
  induction front generalizing progress with
  | nil => rfl
  | cons record rest ih =>
      rw [List.cons_append, readAll, readAll]
      split
      · rfl
      · split
        · rfl
        · exact ih _

/-- A record is counted before it is read. -/
theorem readRecord_recordCount {limits : Limits} {type : RecordType} {payload : Text}
    {progress next : Progress R} (run : readRecord limits type payload progress = .ok next) :
    next.recordCount = progress.recordCount := by
  cases type with
  | stateHeader =>
      simp only [readRecord, bind_eq_ok] at run
      obtain ⟨_, -, state, -, ended⟩ := run
      obtain rfl := Except.ok.inj ended
      rfl
  | worker =>
      simp only [readRecord, bind_eq_ok] at run
      obtain ⟨state, -, ended⟩ := run
      obtain rfl := Except.ok.inj ended
      rfl
  | experiment =>
      simp only [readRecord, bind_eq_ok] at run
      obtain ⟨state, -, ended⟩ := run
      obtain rfl := Except.ok.inj ended
      rfl

/-- Records that are all read are within the bound of the reader. -/
theorem recordCount_le_of_readAll {limits : Limits} {all : List (RecordType × Text)}
    {progress final : Progress R} (some_ : all ≠ [])
    (run : readAll limits all progress = .ok final) :
    progress.recordCount + all.length ≤ limits.maxPersistedRecords := by
  induction all generalizing progress with
  | nil => exact absurd rfl some_
  | cons record rest ih =>
      rw [readAll] at run
      split at run
      · cases run
      · rename_i room
        split at run
        · cases run
        · rename_i next read
          have counted := readRecord_recordCount read
          cases rest with
          | nil => simpa using room
          | cons other rest =>
              have more := ih (by simp) run
              simp only [List.length_cons] at more ⊢
              simp only [counted] at more
              omega

/-! ## Reading a state back -/

theorem reads_mapped {α : Type} {read : PayloadReader α} {encoding : Text} {value : α}
    (reads : Reads read encoding value) : Reads (mapped read) encoding value := by
  intro rest
  simp [mapped, reads rest]

/-- A state within the bounds of the codecs and of 64-bit counters. -/
structure Fits (limits : Limits) (state : CoordinatorState R) : Prop where
  formatVersion : FitsU32 state.formatVersion
  lastEpoch : FitsU64 state.lastEpoch
  lastSequence : FitsU64 state.lastSequence
  nextWorkerRegistrationSequence : FitsU64 state.nextWorkerRegistrationSequence
  experimentMark : FitsU64 state.watermarks.experiment
  hypothesisMark : FitsU64 state.watermarks.hypothesis
  branchMark : FitsU64 state.watermarks.branch
  metricMark : FitsU64 state.watermarks.metric
  policyMark : FitsU64 state.watermarks.policy
  trialMark : FitsU64 state.watermarks.trial
  attemptMark : FitsU64 state.watermarks.attempt
  observationMark : FitsU64 state.watermarks.observation
  artifactMark : FitsU64 state.watermarks.artifact
  decisionMark : FitsU64 state.watermarks.decision
  rollbackMark : FitsU64 state.watermarks.rollback
  workers : ∀ incarnation ∈ state.workers, incarnation.Fits limits
  experiments : ∀ entry ∈ state.experiments.entries, entry.1.Fits ∧ entry.2.Fits limits

omit [BitPattern R] in
theorem reads_stateHeader {limits : Limits} {state : CoordinatorState R} (fit : Fits limits state)
    (start : CoordinatorState R) :
    Reads (readStateHeader start) (writeStateHeader state)
      { state with workers := start.workers, experiments := start.experiments } := by
  refine .field (.of_codes codes_u32 fit.formatVersion) ?_
  refine .field (.of_codes codes_u64 fit.lastEpoch) ?_
  refine .field (.of_codes codes_u64 fit.lastSequence) ?_
  refine .field (.of_codes codes_u64 fit.nextWorkerRegistrationSequence) ?_
  refine .field (.of_codes codes_u64 fit.experimentMark) ?_
  refine .field (.of_codes codes_u64 fit.hypothesisMark) ?_
  refine .field (.of_codes codes_u64 fit.branchMark) ?_
  refine .field (.of_codes codes_u64 fit.metricMark) ?_
  refine .field (.of_codes codes_u64 fit.policyMark) ?_
  refine .field (.of_codes codes_u64 fit.trialMark) ?_
  refine .field (.of_codes codes_u64 fit.attemptMark) ?_
  refine .field (.of_codes codes_u64 fit.observationMark) ?_
  refine .field (.of_codes codes_u64 fit.artifactMark) ?_
  refine .field (.of_codes codes_u64 fit.decisionMark) ?_
  refine .field (.of_codes codes_u64 fit.rollbackMark) ?_
  exact .done

/-- The worker records of a state are read back. -/
theorem readAll_workers {limits : Limits} (back : List WorkerIncarnation)
    (progress : Progress R) (fits : ∀ incarnation ∈ back, incarnation.Fits limits)
    (room : progress.recordCount + back.length ≤ limits.maxPersistedRecords)
    (bounded : progress.state.workers.length + back.length ≤ limits.maxRegisteredWorkers) :
    readAll limits (back.map fun incarnation =>
        (RecordType.worker, writeWorkerIncarnation incarnation)) progress =
      .ok { progress with
            state := { progress.state with workers := progress.state.workers ++ back }
            recordCount := progress.recordCount + back.length } := by
  induction back generalizing progress with
  | nil => simp [readAll]
  | cons incarnation back ih =>
      simp only [List.length_cons] at room bounded
      have reads : Reads (readWorker limits progress.state) (writeWorkerIncarnation incarnation)
          { progress.state with workers := progress.state.workers ++ [incarnation] } :=
        .last (reads_mapped (.of_codes (codes_workerIncarnation limits)
          (fits incarnation List.mem_cons_self))) (.ensure (by simp; omega) .done)
      have later := ih
        { progress with
          state := { progress.state with workers := progress.state.workers ++ [incarnation] }
          recordCount := progress.recordCount + 1 }
        (fun other member => fits other (List.mem_cons_of_mem _ member))
        (by simp only; omega) (by simp; omega)
      rw [List.map_cons, readAll, if_neg (by omega)]
      simp only [readRecord, reads.decodeAll]
      refine later.trans ?_
      simp [Nat.add_assoc, Nat.add_comm 1]

/-- The experiment records of a state are read back. -/
theorem readAll_experiments {limits : Limits} (back : List (ExperimentId × ExperimentRecord R))
    (progress : Progress R) (target : OrderedMap ExperimentId (ExperimentRecord R))
    (extended : target.entries = progress.state.experiments.entries ++ back)
    (fits : ∀ entry ∈ back, entry.1.Fits ∧ entry.1.valid = true ∧ entry.2.Fits limits ∧
      entry.2.Indexed)
    (room : progress.recordCount + back.length ≤ limits.maxPersistedRecords)
    (bounded : target.size ≤ limits.maxExperiments) :
    readAll limits (back.map fun entry => (RecordType.experiment, writeExperimentEntry entry))
        progress =
      .ok { progress with
            state := { progress.state with experiments := target }
            recordCount := progress.recordCount + back.length } := by
  induction back generalizing progress with
  | nil =>
      obtain same : progress.state.experiments = target := by
        cases target
        cases here : progress.state.experiments
        simp_all
      simp [readAll, ← same]
  | cons entry back ih =>
      obtain ⟨fitId, valid, fitRecord, indexed⟩ := fits entry List.mem_cons_self
      have ordered : (progress.state.experiments.entries ++ entry :: back).Pairwise
          fun left right => left.1 < right.1 := extended ▸ target.sorted
      have below : ∀ binding ∈ progress.state.experiments.entries, binding.1 < entry.1 :=
        fun binding member =>
          (List.pairwise_append.mp ordered).2.2 binding member entry List.mem_cons_self
      have fresh : (progress.state.experiments.find? entry.1).isNone = true := by
        rw [OrderedMap.find?_of_forall_lt below]
        rfl
      have size : progress.state.experiments.size < limits.maxExperiments := by
        have total := congrArg List.length extended
        simp only [OrderedMap.size] at bounded ⊢
        simp only [List.length_append, List.length_cons] at total
        omega
      simp only [List.length_cons] at room
      have reads : Reads (readExperiment limits progress.state) (writeExperimentEntry entry)
          { progress.state with
            experiments := progress.state.experiments.assign entry.1 entry.2 } :=
        .append (reads_mapped (.of_codes codes_id fitId)) (.ensure valid
          (.last (reads_mapped (reads_experimentRecord fitRecord indexed))
            (.ensure (by simpa using size) (.ensure fresh .done))))
      have later := ih
        { progress with
          state := { progress.state with
            experiments := progress.state.experiments.assign entry.1 entry.2 }
          recordCount := progress.recordCount + 1 }
        (by rw [extended]; simp [OrderedMap.entries_assign_of_forall_lt below])
        (fun other member => fits other (List.mem_cons_of_mem _ member)) (by simp only; omega)
      rw [List.map_cons, readAll, if_neg (by omega)]
      simp only [readRecord, reads.decodeAll]
      refine later.trans ?_
      simp [Nat.add_assoc, Nat.add_comm 1]

/-- The records of a state are read back within the bound of the reader. -/
theorem readAll_records {limits : Limits} {state : CoordinatorState R} (fit : Fits limits state)
    (experiments : ∀ entry ∈ state.experiments.entries,
      entry.1.valid = true ∧ entry.2.Indexed)
    (workersBounded : state.workers.length ≤ limits.maxRegisteredWorkers)
    (experimentsBounded : state.experiments.size ≤ limits.maxExperiments)
    (room : 1 + state.workers.length + state.experiments.size ≤ limits.maxPersistedRecords) :
    readAll limits (records state) {} =
      .ok { state := state, headerSeen := true,
            recordCount := 1 + state.workers.length + state.experiments.size } := by
  let counters : CoordinatorState R := { state with workers := [], experiments := .empty }
  have header : Reads (readStateHeader {}) (writeStateHeader state) counters :=
    reads_stateHeader fit {}
  have first : readRecord limits .stateHeader (writeStateHeader state)
      { recordCount := 1 : Progress R } =
        .ok { state := counters, headerSeen := true, recordCount := 1 } := by
    simp [readRecord, (reads_mapped header).decodeAll, require, bind, Except.bind, pure,
      Except.pure]
  have workers := readAll_workers (R := R) state.workers
    { state := counters, headerSeen := true, recordCount := 1 } fit.workers (by simp only; omega)
    (by simpa [counters] using workersBounded)
  have others := readAll_experiments state.experiments.entries
    { state := { counters with workers := state.workers }, headerSeen := true,
      recordCount := 1 + state.workers.length } state.experiments rfl
    (fun entry member => ⟨(fit.experiments entry member).1, (experiments entry member).1,
      (fit.experiments entry member).2, (experiments entry member).2⟩) room experimentsBounded
  rw [records, List.cons_append, readAll, if_neg (by simp only; omega), first]
  simp only [readAll_append, workers, counters, List.nil_append] at others ⊢
  exact others

/-! ## Reading an image -/

/-- What a state must satisfy to be stored: it is valid, its trials and attempts have identities,
its texts, collections and counters fit the codecs, and its image fits the bounds of the file. -/
structure Storable [MetricReal R] (limits : Limits) (state : CoordinatorState R) : Prop where
  valid : state.validate limits = .ok ()
  trials : ∀ entry ∈ state.experiments.entries, ∀ trial ∈ entry.2.trials.values,
    trial.id.valid = true
  attempts : ∀ entry ∈ state.experiments.entries, ∀ attempt ∈ entry.2.attempts.values,
    attempt.id.valid = true
  fits : Fits limits state
  workers : state.workers.length ≤ limits.maxRegisteredWorkers
  payloads : ∀ record ∈ records state, record.2.length < 2 ^ 32
  image : (image state).length ≤ limits.maxStateFileBytes
  /-- The bound of the file is a 64-bit word. -/
  word : limits.maxStateFileBytes < 2 ^ 64

variable [MetricReal R]

/-- What validation says about the identities and counts of a state. -/
theorem Storable.facts {limits : Limits} {state : CoordinatorState R}
    (storable : Storable limits state) :
    state.formatVersion = persistenceFormatVersion ∧
      state.totalRecordCount ≤ limits.maxPersistedRecords ∧
      state.experiments.size ≤ limits.maxExperiments ∧
      ∀ entry ∈ state.experiments.entries, entry.1.valid = true ∧ entry.2.Indexed := by
  have valid := storable.valid
  simp only [CoordinatorState.validate, sequence_cons_eq_ok, require_eq_ok, forEach_eq_ok,
    decide_eq_true_eq] at valid
  obtain ⟨version, experiments, total, -, each, -⟩ := valid
  refine ⟨version, total, experiments, fun entry member => ?_⟩
  have checked := (each entry member).2.1
  simp only [validateExperimentRecord, Validation.validateTrials, sequence_cons_eq_ok, require_eq_ok,
    forEach_eq_ok, decide_eq_true_eq] at checked
  obtain ⟨-, ⟨-, trials, -, attempts, -⟩, -⟩ := checked
  refine ⟨(each entry member).1, fun binding found => ?_, fun binding found => ?_⟩
  · have same := (trials binding found).1
    exact ⟨same, same ▸ storable.trials entry member binding.2 (List.mem_map_of_mem found)⟩
  · have same := (attempts binding found).1
    exact ⟨same, same ▸ storable.attempts entry member binding.2 (List.mem_map_of_mem found)⟩

theorem magic_fits : FitsU32 magic := by decide

/-- Four words, a long word and a digest before a body, at the offsets where they are read. -/
theorem load_header {first second third sum size : Nat} {digest rest : Text}
    (fitsFirst : FitsU32 first) (fitsSecond : FitsU32 second) (fitsThird : FitsU32 third)
    (fitsSum : FitsU32 sum) (fitsSize : FitsU64 size) (fitsDigest : digest.length = 32) :
    let start := writeU32 first ++ (writeU32 second ++ writeU32 third)
    let bytes := start ++ (writeU32 sum ++ (writeU64 size ++ (digest ++ rest)))
    (bytes.length = 56 + rest.length ∧ bytes.take 12 = start) ∧
      (loadU32 bytes 0 = first ∧ loadU32 bytes 4 = second ∧ loadU32 bytes 8 = third ∧
        loadU32 bytes 12 = sum ∧ loadU64 bytes 16 = size) ∧
      (bytes.drop 24).take 32 = digest ∧ bytes.drop 56 = rest := by
  intro start bytes
  have startLength : start.length = 12 := by simp [start, writeU32]
  have front : (start ++ (writeU32 sum ++ writeU64 size)).length = 24 := by
    simp [startLength, writeU32, writeU64]
  have afterFront : bytes.drop 24 = digest ++ rest := by
    have split : bytes = (start ++ (writeU32 sum ++ writeU64 size)) ++ (digest ++ rest) := by
      simp [bytes]
    rw [split, ← front, List.drop_left]
  refine ⟨⟨?_, List.take_left' startLength⟩, ⟨?_, ?_, ?_, ?_, ?_⟩, ?_, ?_⟩
  · simp only [bytes, List.length_append, startLength, fitsDigest, writeU32, writeU64,
      leBytes_length]
    omega
  · have split : bytes = [] ++ (writeU32 first ++ (writeU32 second ++ (writeU32 third ++
        (writeU32 sum ++ (writeU64 size ++ (digest ++ rest)))))) := by
      simp [bytes, start]
    rw [split]
    exact loadU32_at [] _ rfl fitsFirst
  · have split : bytes = writeU32 first ++ (writeU32 second ++ (writeU32 third ++
        (writeU32 sum ++ (writeU64 size ++ (digest ++ rest))))) := by
      simp [bytes, start]
    rw [split]
    exact loadU32_at _ _ (leBytes_length 4 _) fitsSecond
  · have split : bytes = (writeU32 first ++ writeU32 second) ++ (writeU32 third ++
        (writeU32 sum ++ (writeU64 size ++ (digest ++ rest)))) := by
      simp [bytes, start]
    rw [split]
    exact loadU32_at _ _ (by simp [writeU32]) fitsThird
  · exact loadU32_at start _ startLength fitsSum
  · have split : bytes = (start ++ writeU32 sum) ++ (writeU64 size ++ (digest ++ rest)) := by
      simp [bytes]
    rw [split]
    exact loadU64_at _ _ (by simp [startLength, writeU32]) fitsSize
  · rw [afterFront]
    exact List.take_left' fitsDigest
  · have behind : bytes.drop (24 + 32) = rest := by
      rw [← List.drop_drop, afterFront]
      exact List.drop_left' fitsDigest
    exact behind

/-- The image of a storable state passes every check of its header, so that its records decide. -/
theorem deserialize_image {limits : Limits} {state : CoordinatorState R}
    (storable : Storable limits state) :
    deserialize (R := R) (image state) limits =
      (do
        let progress ← readAll limits (records state) {}
        require progress.headerSeen (corrupt "state image is missing its header record")
        progress.state.validate limits
        pure progress.state) := by
  have version := storable.facts.1
  have fitsBody : FitsU64 (body state).length := by
    have shorter : (body state).length ≤ (image state).length := by
      simp only [image, List.flatten_cons, List.length_append, List.flatten_nil]
      omega
    exact lt_of_le_of_lt (shorter.trans storable.image) storable.word
  have versionFits : FitsU32 state.formatVersion := storable.fits.formatVersion
  have parts : image state =
      (writeU32 magic ++ (writeU32 state.formatVersion ++ writeU32 0)) ++
        (writeU32 (crc32 (preamble state.formatVersion)).toNat ++
          (writeU64 (body state).length ++ (Sha256.digestOf (body state) ++ body state))) := by
    simp only [image, preamble, List.flatten_cons, List.flatten_nil, List.append_nil,
      List.append_assoc]
  have start : preamble state.formatVersion =
      writeU32 magic ++ (writeU32 state.formatVersion ++ writeU32 0) := by
    simp only [preamble, List.flatten_cons, List.flatten_nil, List.append_nil]
  obtain ⟨⟨length, front⟩, ⟨magicRead, versionRead, flags, checksum, sized⟩, digest, rest⟩ :=
    @load_header _ _ _ _ _ _ (body state) magic_fits versionFits (Nat.two_pow_pos 32)
      (crc32 (preamble state.formatVersion)).toNat_lt fitsBody
      (Sha256.digestOf_length (body state))
  rw [← parts] at length front magicRead versionRead flags checksum sized digest rest
  have run : readRecords limits (body state) ({} : Progress R) =
      readAll limits (records state) {} :=
    readRecords_eq_readAll limits storable.payloads {}
  rw [← start] at front
  unfold deserialize
  rw [headerBytes, magicRead, versionRead, version, flags, checksum, front, sized, digest, rest,
    length, run]
  simp [require, bind, Except.bind, length ▸ storable.image]

theorem serialize_storable {limits : Limits} {state : CoordinatorState R}
    (storable : Storable limits state) : serialize state limits = .ok (image state) := by
  obtain ⟨version, total, -⟩ := storable.facts
  simp [serialize, version, total, require, bind, Except.bind, pure, Except.pure]

omit [MetricReal R] in
theorem records_length (state : CoordinatorState R) :
    (records state).length = 1 + state.workers.length + state.experiments.size := by
  simp [records, OrderedMap.size]
  omega

omit [MetricReal R] in
/-- An image is its header and its records, each with three words before its payload. -/
theorem image_length (state : CoordinatorState R) :
    (image state).length =
      headerBytes + ((records state).map fun record => 12 + record.2.length).sum := by
  have each : ∀ record : RecordType × Text,
      (appendRecord record.1 record.2).length = 12 + record.2.length := by
    intro record
    simp [appendRecord, writeU32]
    omega
  have whole : (body state).length =
      ((records state).map fun record => 12 + record.2.length).sum := by
    simp [body, List.length_flatten, Function.comp_def, each]
  have start : (preamble state.formatVersion).length = 12 := by
    simp [preamble, writeU32]
  simp only [image, List.flatten_cons, List.flatten_nil, List.length_append, List.length_nil,
    start, whole, writeU32, writeU64, leBytes_length, Sha256.digestOf_length, headerBytes]
  omega

/-- The image of a storable state with room for its header record is read back. -/
theorem deserialize_image_of_room {limits : Limits} {state : CoordinatorState R}
    (storable : Storable limits state)
    (room : 1 + state.workers.length + state.experiments.size ≤ limits.maxPersistedRecords) :
    deserialize (image state) limits = .ok state := by
  obtain ⟨-, -, experimentsBounded, experiments⟩ := storable.facts
  rw [deserialize_image storable,
    readAll_records storable.fits experiments storable.workers experimentsBounded room]
  simp [require, bind, Except.bind, storable.valid, pure, Except.pure]

/-- The image of a storable state is read back only with room for its header record. -/
theorem room_of_deserialize_image {limits : Limits} {state restored : CoordinatorState R}
    (storable : Storable limits state) (run : deserialize (image state) limits = .ok restored) :
    1 + state.workers.length + state.experiments.size ≤ limits.maxPersistedRecords := by
  rw [deserialize_image storable, bind_eq_ok] at run
  obtain ⟨progress, read, -⟩ := run
  have counted := recordCount_le_of_readAll (by simp [records]) read
  rw [records_length] at counted
  simpa using counted

/-- A storable state is serialized, and its image is read back exactly when the records of the
image, its header record included, are within the bound on persisted records. -/
theorem round_trip_iff {limits : Limits} {state : CoordinatorState R}
    (storable : Storable limits state) :
    (∃ bytes, serialize state limits = .ok bytes ∧ deserialize bytes limits = .ok state) ↔
      1 + state.workers.length + state.experiments.size ≤ limits.maxPersistedRecords := by
  constructor
  · rintro ⟨bytes, written, read⟩
    rw [serialize_storable storable] at written
    obtain rfl := Except.ok.inj written
    exact room_of_deserialize_image storable read
  · intro room
    exact ⟨image state, serialize_storable storable, deserialize_image_of_room storable room⟩

/-- Under the default limits every storable state comes back. -/
theorem round_trip_defaults {state : CoordinatorState R} (storable : Storable .defaults state) :
    ∃ bytes, serialize state .defaults = .ok bytes ∧ deserialize bytes .defaults = .ok state := by
  have workers := storable.workers
  obtain ⟨-, -, experiments, -⟩ := storable.facts
  refine ⟨image state, serialize_storable storable, deserialize_image_of_room storable ?_⟩
  simp only [Limits.defaults] at workers experiments ⊢
  omega

/-! ## A state without room for its header record -/

/-- Reals presented by their patterns. -/
instance : BitPattern UInt64 where
  toBits := id
  ofBits := id
  ofBits_toBits _ := rfl
  toBits_ofBits _ := rfl

/-- Word arithmetic on patterns; the sample states hold no metric. -/
instance wordMetrics : MetricReal UInt64 where
  ofInt value := UInt64.ofNat value.toNat
  add := (· + ·)
  sub := (· - ·)
  mul := (· * ·)
  div := (· / ·)
  neg value := 0 - value
  fabs := id
  lt left right := decide (left < right)
  le left right := decide (left ≤ right)
  eq left right := decide (left = right)
  isFinite _ := true
  tiny := 0
  toText value := decimal value.toNat

namespace Sample

/-- One registered worker and nothing else. -/
def enrolled : CoordinatorState UInt64 :=
  { lastEpoch := 1
    workers := [⟨⟨1⟩, ⟨1⟩, ⟨1⟩, ⟨1⟩, [], [], 1, false, .none, 0⟩] }

/-- Room for one record. -/
def tight : Limits := { maxPersistedRecords := 1 }

theorem enrolled_fits (limits : Limits) : Fits limits enrolled where
  formatVersion := by decide
  lastEpoch := by decide
  lastSequence := by decide
  nextWorkerRegistrationSequence := by decide
  experimentMark := by decide
  hypothesisMark := by decide
  branchMark := by decide
  metricMark := by decide
  policyMark := by decide
  trialMark := by decide
  attemptMark := by decide
  observationMark := by decide
  artifactMark := by decide
  decisionMark := by decide
  rollbackMark := by decide
  workers := by
    simp [enrolled, WorkerIncarnation.Fits, StrongId.Fits, FitsU64, FitsText]
  experiments := by simp [enrolled, OrderedMap.empty]

theorem enrolled_lengths :
    (records enrolled).map (fun record => record.2.length) = [116, 58] := by
  decide

/-- The sample is storable wherever it is valid and the file is large enough. -/
theorem enrolled_storable {limits : Limits} (valid : enrolled.validate limits = .ok ())
    (workers : 1 ≤ limits.maxRegisteredWorkers) (file : 254 ≤ limits.maxStateFileBytes)
    (word : limits.maxStateFileBytes < 2 ^ 64) : Storable limits enrolled where
  valid := valid
  trials := by simp [enrolled, OrderedMap.empty]
  attempts := by simp [enrolled, OrderedMap.empty]
  fits := enrolled_fits limits
  workers := workers
  payloads := by
    intro record member
    have size : record.2.length ∈ [116, 58] :=
      enrolled_lengths ▸ List.mem_map_of_mem member
    simp only [List.mem_cons, List.not_mem_nil, or_false] at size
    omega
  image := by
    have total : ((records enrolled).map fun record => 12 + record.2.length).sum = 198 := by decide
    rw [image_length, total]
    exact file
  word := word

end Sample

/-- The image of one worker has two records, one more than its state holds. -/
theorem enrolled_round_trip :
    ∃ bytes, serialize Sample.enrolled .defaults = .ok bytes ∧
      deserialize bytes .defaults = .ok Sample.enrolled := by
  have storable : Storable .defaults Sample.enrolled :=
    Sample.enrolled_storable (by decide) (by decide) (by decide) (by decide)
  exact (round_trip_iff storable).mpr (by decide)

/-- A state that fills the bound on records is serialized, and its image is refused. -/
theorem header_record_refused :
    Sample.tight.isCoherent = true ∧ Storable Sample.tight Sample.enrolled ∧
      ¬ ∃ bytes, serialize Sample.enrolled Sample.tight = .ok bytes ∧
        deserialize bytes Sample.tight = .ok Sample.enrolled := by
  have storable : Storable Sample.tight Sample.enrolled :=
    Sample.enrolled_storable (by decide) (by decide) (by decide) (by decide)
  refine ⟨by decide, storable, ?_⟩
  rintro ⟨bytes, written, read⟩
  rw [serialize_storable storable] at written
  obtain rfl := Except.ok.inj written
  have room := room_of_deserialize_image storable read
  revert room
  decide

end Persistence

end ExperimentFabric
