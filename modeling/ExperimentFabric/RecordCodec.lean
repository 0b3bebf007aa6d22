import ExperimentFabric.ModelCodecs

/-!
# The codec of an experiment record

A record is written with its trials and attempts as sequences and read back into maps, so the reader
also refuses null and repeated identities.  A record whose texts, collections and numbers fit the
codec, and whose maps are keyed by the identities of their values, comes back as it was.
-/

namespace ExperimentFabric

open Lib

variable {R : Type} [BitPattern R]

/-! ## Maps -/

/-- Read a number of values into a map under their own keys. -/
def readBindings {κ ν : Type} [LinearOrder κ] (read : PayloadReader ν) (key : ν → κ)
    (valid : κ → Bool) (null duplicate : Status) :
    Nat → OrderedMap κ ν → PayloadReader (OrderedMap κ ν)
  | 0, map => pure map
  | count + 1, map => do
      let value ← read
      ensure (valid (key value)) null
      ensure (map.find? (key value)).isNone duplicate
      readBindings read key valid null duplicate count (map.assign (key value) value)

/-- The values of a map in key order are read back into the map. -/
theorem reads_bindings {κ ν : Type} [LinearOrder κ] {read : PayloadReader ν} {write : ν → Text}
    {key : ν → κ} {valid : κ → Bool} (null duplicate : Status) (map target : OrderedMap κ ν)
    (back : List (κ × ν)) (extended : target.entries = map.entries ++ back)
    (keyed : ∀ binding ∈ back, key binding.2 = binding.1 ∧ valid binding.1 = true ∧
      Reads read (write binding.2) binding.2) :
    Reads (readBindings read key valid null duplicate back.length map)
      ((back.map fun binding => write binding.2).flatten) target := by
  induction back generalizing map with
  | nil =>
      obtain rfl : map = target := by
        cases map
        cases target
        simp_all
      exact .done
  | cons head back ih =>
      obtain ⟨same, known, reads⟩ := keyed head List.mem_cons_self
      have ordered : (map.entries ++ head :: back).Pairwise fun left right => left.1 < right.1 :=
        extended ▸ target.sorted
      have below : ∀ binding ∈ map.entries, binding.1 < head.1 := fun binding member =>
        (List.pairwise_append.mp ordered).2.2 binding member head List.mem_cons_self
      have fresh : (map.find? head.1).isNone = true := by
        rw [OrderedMap.find?_of_forall_lt below]
        rfl
      have later := ih (map.assign head.1 head.2)
        (by rw [OrderedMap.entries_assign_of_forall_lt below, extended]; simp)
        fun binding member => keyed binding (List.mem_cons_of_mem _ member)
      refine .field reads ?_
      rw [same]
      exact .ensure known (.ensure fresh later)

/-! ## Records -/

/-- A failure blaming the identity of a persisted object. -/
def identityError (reason : Text) : Status := ⟨.corruptPersistence, .persistence, reason⟩

/-- Append an experiment record. -/
def writeExperimentRecord (record : ExperimentRecord R) : Text :=
  [writeExperimentDefinition record.definition, writeHypothesis record.hypothesis,
    writeVector writeHypothesis record.hypothesisHistory, writeEnum record.state,
    writeU64 record.revisionSequence, writeU64 record.createdSequence,
    writeVector writeTrial record.trials.values, writeVector writeAttempt record.attempts.values,
    writeVector writeObservation record.observations, writeVector writeArtifact record.artifacts,
    writeVector writeDecision record.decisions,
    writeVector writeRollbackPoint record.rollbackPoints,
    writeVector writeRejectedEvidence record.rejectedEvidence,
    writeVector (writeText 512) record.lifecycleLog].flatten

/-- The next trials. -/
def readTrials (limits : Limits) : PayloadReader (OrderedMap TrialId TrialRecord) := do
  let count ← readCount 4096
  readBindings (readTrial limits) TrialRecord.id StrongId.valid
    (identityError "null trial identity") (identityError "duplicate trial identity") count .empty

/-- The next attempts. -/
def readAttempts (limits : Limits) : PayloadReader (OrderedMap TrialAttemptId AttemptRecord) := do
  let count ← readCount 32768
  readBindings (readAttempt limits) AttemptRecord.id StrongId.valid
    (identityError "null attempt identity") (identityError "duplicate attempt identity") count
    .empty

/-- The next experiment record. -/
def readExperimentRecord (limits : Limits) : PayloadReader (ExperimentRecord R) := do
  let definition ← readExperimentDefinition limits
  let hypothesis ← readHypothesis limits
  let hypothesisHistory ← readVector 4096 (readHypothesis limits)
  let state ← readEnum "experiment state"
  let revisionSequence ← readU64
  let createdSequence ← readU64
  let trials ← readTrials limits
  let attempts ← readAttempts limits
  let observations ← readVector (2 ^ 20) (readObservation limits)
  let artifacts ← readVector 65536 (readArtifact limits)
  let decisions ← readVector 1024 (readDecision limits)
  let rollbackPoints ← readVector 1024 readRollbackPoint
  let rejectedEvidence ← readVector 65536 (readRejectedEvidence limits)
  let lifecycleLog ← readVector 65536 (readText limits 512)
  pure { definition, hypothesis, hypothesisHistory, state, revisionSequence, createdSequence,
         trials, attempts, observations, artifacts, decisions, rollbackPoints, rejectedEvidence,
         lifecycleLog }

/-- A record within the bounds of its codec. -/
structure ExperimentRecord.Fits (limits : Limits) (record : ExperimentRecord R) : Prop where
  definition : record.definition.Fits limits
  hypothesis : record.hypothesis.Fits limits
  hypothesisHistory : FitsVector 4096 (Hypothesis.Fits limits) record.hypothesisHistory
  revisionSequence : FitsU64 record.revisionSequence
  createdSequence : FitsU64 record.createdSequence
  trials : FitsVector 4096 (TrialRecord.Fits limits) record.trials.values
  attempts : FitsVector 32768 (AttemptRecord.Fits limits) record.attempts.values
  observations : FitsVector (2 ^ 20) (Observation.Fits limits) record.observations
  artifacts : FitsVector 65536 (ArtifactRecord.Fits limits) record.artifacts
  decisions : FitsVector 1024 (Decision.Fits limits) record.decisions
  rollbackPoints : FitsVector 1024 RollbackPoint.Fits record.rollbackPoints
  rejectedEvidence : FitsVector 65536 (RejectedEvidence.Fits limits) record.rejectedEvidence
  lifecycleLog : FitsVector 65536 (FitsText limits 512) record.lifecycleLog

omit [BitPattern R] in
/-- Trials and attempts are kept under their own identities, and none is null. -/
structure ExperimentRecord.Indexed (record : ExperimentRecord R) : Prop where
  trials : ∀ entry ∈ record.trials.entries, entry.2.id = entry.1 ∧ entry.1.valid = true
  attempts : ∀ entry ∈ record.attempts.entries, entry.2.id = entry.1 ∧ entry.1.valid = true

/-- A map that fits is read back. -/
theorem reads_map {κ ν : Type} [LinearOrder κ] {read : PayloadReader ν} {write : ν → Text}
    {fits : ν → Prop} {key : ν → κ} {valid : κ → Bool} {maximum : Nat} (small : maximum < 2 ^ 32)
    (law : Codes fits read write) (null duplicate : Status) {map : OrderedMap κ ν}
    (fit : FitsVector maximum fits map.values)
    (keyed : ∀ entry ∈ map.entries, key entry.2 = entry.1 ∧ valid entry.1 = true) :
    Reads (do
        let count ← readCount maximum
        readBindings read key valid null duplicate count .empty)
      (writeVector write map.values) map := by
  have size : map.values.length = map.entries.length := List.length_map _
  have bindings := reads_bindings null duplicate .empty map map.entries rfl fun entry member =>
    ⟨(keyed entry member).1, (keyed entry member).2,
      Reads.of_codes law (fit.2 entry.2 (List.mem_map_of_mem member))⟩
  have counted : Reads (readCount maximum) (writeU32 map.values.length) map.values.length :=
    .of_codes (codes_count small) fit.1
  have both : Reads (do
        let count ← readCount maximum
        readBindings read key valid null duplicate count .empty)
      [writeU32 map.values.length, (map.values.map write).flatten].flatten map := by
    refine counted.field ?_
    simpa [size, OrderedMap.values, Function.comp_def] using bindings
  simpa [writeVector] using both

/-- A record that fits is read back, whatever follows. -/
theorem reads_experimentRecord {limits : Limits} {record : ExperimentRecord R}
    (fit : record.Fits limits) (indexed : record.Indexed) :
    Reads (readExperimentRecord limits) (writeExperimentRecord record) record := by
  refine .field (.of_codes (codes_experimentDefinition limits) fit.definition) ?_
  refine .field (.of_codes (codes_hypothesis limits) fit.hypothesis) ?_
  refine .field (.of_codes (codes_vector (by decide) (codes_hypothesis limits))
    fit.hypothesisHistory) ?_
  refine .field (.of_codes (codes_enum _) trivial) ?_
  refine .field (.of_codes codes_u64 fit.revisionSequence) ?_
  refine .field (.of_codes codes_u64 fit.createdSequence) ?_
  refine .field (reads_map (by decide) (codes_trial limits) _ _ fit.trials indexed.trials) ?_
  refine .field (reads_map (by decide) (codes_attempt limits) _ _ fit.attempts indexed.attempts) ?_
  refine .field (.of_codes (codes_vector (by decide) (codes_observation limits))
    fit.observations) ?_
  refine .field (.of_codes (codes_vector (by decide) (codes_artifact limits)) fit.artifacts) ?_
  refine .field (.of_codes (codes_vector (by decide) (codes_decision limits)) fit.decisions) ?_
  refine .field (.of_codes (codes_vector (by decide) codes_rollbackPoint) fit.rollbackPoints) ?_
  refine .field (.of_codes (codes_vector (by decide) (codes_rejectedEvidence limits))
    fit.rejectedEvidence) ?_
  refine .field (.of_codes (codes_vector (by decide) (codes_text limits (by decide)))
    fit.lifecycleLog) ?_
  exact .done

end ExperimentFabric
