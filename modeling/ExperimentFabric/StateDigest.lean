import ExperimentFabric.DigestOrder

/-!
# The state digest

The digest of an experiment runs through its trials, attempts, observations, artifacts and decisions
without counting them.  Trials and observations begin with a tag and show where they end; attempts,
artifacts and decisions do not, so that an artifact can be hashed like a decision.
-/

namespace ExperimentFabric

open Lib

variable {R : Type}

/-! ## The stream -/

namespace Canonical

/-- Append an attempt under its key. -/
def writeAttemptEntry (entry : TrialAttemptId × AttemptRecord) : Text :=
  [writeId entry.1, writeEnum entry.2.state, writeBoolean entry.2.committed].flatten

/-- Append an artifact of the state. -/
def writeArtifactEntry (artifact : ArtifactRecord) : Text :=
  [writeId artifact.id, writeBoolean artifact.current, writeDigest artifact.contentDigest].flatten

/-- Append a decision of the state. -/
def writeDecisionEntry (decision : Decision R) : Text :=
  [writeId decision.id, writeEnum decision.outcome,
    writeDigest decision.canonicalStateDigest].flatten

end Canonical

section Stream

variable [MetricReal R] [ToChars R] [StdSort]

/-- What the digest of a present experiment is computed over. -/
def ExperimentRecord.stateStream (record : ExperimentRecord R) : Text :=
  [Canonical.writeText (text "experiment-state-v1"), Canonical.definitionDigest record.definition,
    Canonical.hypothesisDigest record.hypothesis,
    writeU64 ((Enumeration.values : List ExperimentState).idxOf record.state),
    (record.trials.values.map (Canonical.writeTrial (text "trial"))).flatten,
    (record.attempts.entries.map Canonical.writeAttemptEntry).flatten,
    (record.observations.map (Canonical.writeObservation (text "observation"))).flatten,
    (record.artifacts.map Canonical.writeArtifactEntry).flatten,
    (record.decisions.map Canonical.writeDecisionEntry).flatten].flatten

/-- What the digest of an experiment is computed over. -/
def CoordinatorState.experimentStream (state : CoordinatorState R) (id : ExperimentId) : Text :=
  match state.experiments.find? id with
  | none => Canonical.writeText (text "experiment-state-v1") ++ Canonical.writeText (text "absent")
  | some record => record.stateStream

/-- Digest of an experiment. -/
def CoordinatorState.experimentDigest (state : CoordinatorState R) (id : ExperimentId) : Digest :=
  Sha256.digestOf (state.experimentStream id)

end Stream

/-! ## What is hashed -/

/-- The numbers of a trial are words. -/
structure TrialRecord.Encodable (trial : TrialRecord) : Prop where
  id : trial.id.Fits
  branch : trial.branch.Fits
  branchGeneration : trial.branchGeneration.Fits
  generation : trial.generation.Fits
  authoritativeAttempt : trial.authoritativeAttempt.Fits
  committedAttempts : FitsU32 trial.committedAttempts

/-- The fields of a trial that are hashed. -/
def TrialRecord.hashed (trial : TrialRecord) : TrialRecord where
  id := trial.id
  branch := trial.branch
  branchGeneration := trial.branchGeneration
  generation := trial.generation
  state := trial.state
  authoritativeAttempt := trial.authoritativeAttempt
  committedAttempts := trial.committedAttempts
  failureKind := trial.failureKind

/-- The meaningful member of a metric value; a real as its text. -/
inductive HashedValue where
  | real (value : Text)
  | integer (value : Int)
  | boolean (value : Bool)
  | categorical (value : Text)

/-- The meaningful member of a value. -/
def MetricValue.hashed [MetricReal R] [ToChars R] (value : MetricValue R) : HashedValue :=
  match value.kind with
  | .real => .real (Canonical.encodeReal value.real)
  | .integer => .integer value.integer
  | .boolean => .boolean value.boolean
  | .categorical => .categorical value.category

/-- The numbers and lengths of an observation are words. -/
structure Observation.Encodable (observation : Observation R) : Prop where
  id : observation.id.Fits
  experiment : observation.experiment.Fits
  generation : observation.generation.Fits
  branch : observation.branch.Fits
  branchGeneration : observation.branchGeneration.Fits
  trial : observation.trial.Fits
  attempt : observation.attempt.Fits
  metric : observation.metric.Fits
  producer : observation.producer.Fits
  integer : FitsInteger observation.value.integer
  category : Canonical.FitsLength observation.value.category
  detail : Canonical.FitsLength observation.detail

/-- The fields of an observation that are hashed. -/
structure HashedObservation where
  id : ObservationId
  experiment : ExperimentId
  generation : ExperimentGeneration
  branch : BranchId
  branchGeneration : BranchGeneration
  trial : TrialId
  attempt : TrialAttemptId
  metric : MetricId
  producer : ProducerId
  validity : ObservationValidity
  value : HashedValue
  detail : Text

/-- The fields of an observation that are hashed. -/
def Observation.hashed [MetricReal R] [ToChars R] (observation : Observation R) :
    HashedObservation where
  id := observation.id
  experiment := observation.experiment
  generation := observation.generation
  branch := observation.branch
  branchGeneration := observation.branchGeneration
  trial := observation.trial
  attempt := observation.attempt
  metric := observation.metric
  producer := observation.producer
  validity := observation.validity
  value := observation.value.hashed
  detail := observation.detail

/-- The numbers and lengths of a record are words, and its digests have their length. -/
structure ExperimentRecord.Encodable (record : ExperimentRecord R) : Prop where
  trials : ∀ trial ∈ record.trials.values, trial.Encodable
  attempts : ∀ entry ∈ record.attempts.entries, entry.1.Fits
  observations : ∀ observation ∈ record.observations, observation.Encodable
  artifacts : ∀ artifact ∈ record.artifacts, artifact.id.Fits ∧ FitsDigest artifact.contentDigest
  decisions : ∀ decision ∈ record.decisions,
    decision.id.Fits ∧ FitsDigest decision.canonicalStateDigest

/-- Two records agree on the trials, attempts, observations, artifacts and decisions in all that is
hashed of them. -/
structure ExperimentRecord.Agrees [MetricReal R] [ToChars R] (left right : ExperimentRecord R) :
    Prop where
  trials : left.trials.values.map TrialRecord.hashed = right.trials.values.map TrialRecord.hashed
  attempts : (left.attempts.values.map fun attempt => (attempt.id, attempt.state, attempt.committed)) =
    right.attempts.values.map fun attempt => (attempt.id, attempt.state, attempt.committed)
  observations : left.observations.map Observation.hashed = right.observations.map Observation.hashed
  artifacts : (left.artifacts.map fun artifact =>
      (artifact.id, artifact.current, artifact.contentDigest)) =
    right.artifacts.map fun artifact => (artifact.id, artifact.current, artifact.contentDigest)
  decisions : (left.decisions.map fun decision =>
      (decision.id, decision.outcome, decision.canonicalStateDigest)) =
    right.decisions.map fun decision =>
      (decision.id, decision.outcome, decision.canonicalStateDigest)

/-! ## Entries -/

namespace Canonical

theorem determines_trial (tag : Text) :
    Determines TrialRecord.Encodable (writeTrial tag) TrialRecord.hashed := by
  refine Determines.record (.mark <| .field determines_id (fun _ fit => fit.id) <|
    .field determines_id (fun _ fit => fit.branch) <|
    .field determines_id (fun _ fit => fit.branchGeneration) <|
    .field determines_id (fun _ fit => fit.generation) <|
    .field determines_enum (fun _ _ => trivial) <|
    .field determines_id (fun _ fit => fit.authoritativeAttempt) <|
    .field determines_u32 (fun _ fit => fit.committedAttempts) <|
    .field determines_enum (fun _ _ => trivial) .done) fun left right same => ?_
  simp only [Prod.mk.injEq, id_eq] at same
  obtain ⟨id, branch, branchGeneration, generation, state, authoritativeAttempt,
    committedAttempts, failureKind, -⟩ := same
  simp only [TrialRecord.hashed, id, branch, branchGeneration, generation, state,
    authoritativeAttempt, committedAttempts, failureKind]

/-- A digest has its length. -/
theorem determines_digest : Determines FitsDigest writeDigest id :=
  .fixed (fun _ fit => fit) fun _ _ _ _ same => same

theorem determines_attemptEntry :
    Determines (fun entry : TrialAttemptId × AttemptRecord => entry.1.Fits) writeAttemptEntry
      fun entry => (entry.1, entry.2.state, entry.2.committed) := by
  refine Determines.record (.field determines_id (fun _ fit => fit) <|
    .field determines_enum (fun _ _ => trivial) <|
    .field determines_boolean (fun _ _ => trivial) .done) fun left right same => ?_
  simpa using same

theorem determines_artifactEntry :
    Determines (fun artifact : ArtifactRecord => artifact.id.Fits ∧ FitsDigest artifact.contentDigest)
      writeArtifactEntry fun artifact =>
        (artifact.id, artifact.current, artifact.contentDigest) := by
  refine Determines.record (.field determines_id (fun _ fit => fit.1) <|
    .field determines_boolean (fun _ _ => trivial) <|
    .field determines_digest (fun _ fit => fit.2) .done) fun left right same => ?_
  simpa using same

theorem determines_decisionEntry :
    Determines (fun decision : Decision R => decision.id.Fits ∧
        FitsDigest decision.canonicalStateDigest) writeDecisionEntry fun decision =>
        (decision.id, decision.outcome, decision.canonicalStateDigest) := by
  refine Determines.record (.field determines_id (fun _ fit => fit.1) <|
    .field determines_enum (fun _ _ => trivial) <|
    .field determines_digest (fun _ fit => fit.2) .done) fun left right same => ?_
  simpa using same

theorem determines_metricValue [MetricReal R] [ToChars R] :
    Determines (fun value : MetricValue R =>
        FitsInteger value.integer ∧ FitsLength value.category) writeMetricValue
      MetricValue.hashed := by
  intro left right leftRest rightRest leftFits rightFits same
  unfold writeMetricValue at same
  rw [List.append_assoc, List.append_assoc] at same
  obtain ⟨kinds, member⟩ := determines_enum _ _ _ _ trivial trivial same
  rw [id_eq, id_eq] at kinds
  unfold MetricValue.hashed
  rw [← kinds] at member ⊢
  cases kind : left.kind with
  | real =>
      simp only [kind] at member ⊢
      obtain ⟨real, rest⟩ := determines_realText _ _ _ _ trivial trivial member
      exact ⟨congrArg HashedValue.real real, rest⟩
  | integer =>
      simp only [kind] at member ⊢
      obtain ⟨integer, rest⟩ := determines_integer _ _ _ _ leftFits.1 rightFits.1 member
      exact ⟨congrArg HashedValue.integer integer, rest⟩
  | boolean =>
      simp only [kind] at member ⊢
      obtain ⟨boolean, rest⟩ := determines_boolean _ _ _ _ trivial trivial member
      exact ⟨congrArg HashedValue.boolean boolean, rest⟩
  | categorical =>
      simp only [kind] at member ⊢
      obtain ⟨category, rest⟩ := determines_text _ _ _ _ leftFits.2 rightFits.2 member
      exact ⟨congrArg HashedValue.categorical category, rest⟩

theorem determines_observation [MetricReal R] [ToChars R] (tag : Text) :
    Determines (Observation.Encodable (R := R)) (writeObservation tag) Observation.hashed := by
  refine Determines.record (.mark <| .field determines_id (fun _ fit => fit.id) <|
    .field determines_id (fun _ fit => fit.experiment) <|
    .field determines_id (fun _ fit => fit.generation) <|
    .field determines_id (fun _ fit => fit.branch) <|
    .field determines_id (fun _ fit => fit.branchGeneration) <|
    .field determines_id (fun _ fit => fit.trial) <|
    .field determines_id (fun _ fit => fit.attempt) <|
    .field determines_id (fun _ fit => fit.metric) <|
    .field determines_id (fun _ fit => fit.producer) <|
    .field determines_enum (fun _ _ => trivial) <|
    .field determines_metricValue (fun _ fit => ⟨fit.integer, fit.category⟩) <|
    .field determines_text (fun _ fit => fit.detail) .done) fun left right same => ?_
  simpa [Observation.hashed] using same

/-! ## Marks -/

/-- The ninth byte is the one given: the last one of the tag of a trial, the fifth of the tag of an
observation, and the first one after the identity in an entry without a tag. -/
def ninth (byte : UInt8) (bytes : Text) : Bool := bytes[8]? == some byte

theorem ninth_trial (trial : TrialRecord) (rest : Text) :
    ninth 0x6C (writeTrial (text "trial") trial ++ rest) = true := by
  have tag : writeTag (text "trial") = [5, 0, 0, 0, 0x74, 0x72, 0x69, 0x61, 0x6C] := by decide
  rw [writeTrial, tag]
  rfl

theorem ninth_observation [MetricReal R] [ToChars R] (observation : Observation R) (byte : UInt8)
    (rest : Text) :
    ninth byte (writeObservation (text "observation") observation ++ rest) = ((0x72 : UInt8) == byte) := by
  have tag : writeTag (text "observation") =
      [11, 0, 0, 0, 0x6F, 0x62, 0x73, 0x65, 0x72, 0x76, 0x61, 0x74, 0x69, 0x6F, 0x6E] := by decide
  rw [writeObservation, tag]
  rfl

/-- Behind an identity the first byte is the ninth. -/
theorem ninth_id {tag : Tag} (id : StrongId tag) (mark : UInt8) (rest : Text) :
    ninth mark (writeId id ++ rest) = (rest[0]? == some mark) := by
  have length : (writeId id).length = 8 := leBytes_length 8 _
  simp [ninth, List.getElem?_append_right, length]

theorem ninth_attemptEntry (entry : TrialAttemptId × AttemptRecord) (rest : Text) :
    ninth 0x6C (writeAttemptEntry entry ++ rest) = false := by
  simp only [writeAttemptEntry, List.flatten_cons, List.append_assoc, ninth_id]
  cases entry.2.state <;> rfl

theorem ninth_artifactEntry {mark : UInt8} (tagged : mark = 0x6C ∨ mark = 0x72)
    (artifact : ArtifactRecord) (rest : Text) :
    ninth mark (writeArtifactEntry artifact ++ rest) = false := by
  simp only [writeArtifactEntry, List.flatten_cons, List.append_assoc, ninth_id]
  rcases tagged with rfl | rfl <;> cases artifact.current <;> rfl

theorem ninth_decisionEntry {mark : UInt8} (tagged : mark = 0x6C ∨ mark = 0x72)
    (decision : Decision R) (rest : Text) :
    ninth mark (writeDecisionEntry decision ++ rest) = false := by
  simp only [writeDecisionEntry, List.flatten_cons, List.append_assoc, ninth_id]
  rcases tagged with rfl | rfl <;> cases decision.outcome <;> rfl

end Canonical

/-! ## Lists -/

namespace Canonical

variable [MetricReal R] [ToChars R]

theorem no_trial (attempts : List (TrialAttemptId × AttemptRecord))
    (observations : List (Observation R)) (artifacts : List ArtifactRecord)
    (decisions : List (Decision R)) :
    ninth 0x6C ((attempts.map writeAttemptEntry).flatten ++
      ((observations.map (writeObservation (text "observation"))).flatten ++
        ((artifacts.map writeArtifactEntry).flatten ++
          (decisions.map writeDecisionEntry).flatten))) = false := by
  refine Determines.unmarked ninth_attemptEntry attempts ?_
  refine Determines.unmarked (fun observation => ninth_observation observation 0x6C)
    observations ?_
  refine Determines.unmarked (ninth_artifactEntry (.inl rfl)) artifacts ?_
  rw [← List.append_nil (decisions.map writeDecisionEntry).flatten]
  exact Determines.unmarked (ninth_decisionEntry (.inl rfl)) decisions rfl

omit [MetricReal R] [ToChars R] in
theorem no_observation (artifacts : List ArtifactRecord) (decisions : List (Decision R)) :
    ninth 0x72 ((artifacts.map writeArtifactEntry).flatten ++
      (decisions.map writeDecisionEntry).flatten) = false := by
  refine Determines.unmarked (ninth_artifactEntry (.inr rfl)) artifacts ?_
  rw [← List.append_nil (decisions.map writeDecisionEntry).flatten]
  exact Determines.unmarked (ninth_decisionEntry (.inr rfl)) decisions rfl

end Canonical

/-! ## When the lists are told apart -/

namespace ExperimentRecord

variable [MetricReal R] [ToChars R]

/-- The lists of a record, one after the other. -/
def listStream (record : ExperimentRecord R) : Text :=
  (record.trials.values.map (Canonical.writeTrial (text "trial"))).flatten ++
    ((record.attempts.entries.map Canonical.writeAttemptEntry).flatten ++
      ((record.observations.map (Canonical.writeObservation (text "observation"))).flatten ++
        ((record.artifacts.map Canonical.writeArtifactEntry).flatten ++
          (record.decisions.map Canonical.writeDecisionEntry).flatten)))

/-- What is hashed before the lists. -/
def headStream [StdSort] (record : ExperimentRecord R) : Text :=
  Canonical.writeText (text "experiment-state-v1") ++
    (Canonical.definitionDigest record.definition ++
      (Canonical.hypothesisDigest record.hypothesis ++
        writeU64 ((Enumeration.values : List ExperimentState).idxOf record.state)))

theorem stateStream_eq [StdSort] (record : ExperimentRecord R) :
    record.stateStream = record.headStream ++ record.listStream := by
  simp only [stateStream, headStream, listStream, List.flatten_cons, List.flatten_nil,
    List.append_nil, List.append_assoc]

/-- What is hashed before the lists has one length. -/
theorem listStream_eq [StdSort] {left right : ExperimentRecord R}
    (same : left.stateStream = right.stateStream) : left.listStream = right.listStream := by
  rw [stateStream_eq, stateStream_eq] at same
  refine (List.append_inj same ?_).2
  simp [headStream, Canonical.definitionDigest, Canonical.hypothesisDigest, writeU64,
    leBytes_length]

omit [ToChars R] in
/-- A validated record keeps its attempts under their identities. -/
theorem attempts_by_key {record : ExperimentRecord R} {limits : Limits} {id : ExperimentId}
    (valid : validateExperimentRecord record limits id = .ok ()) :
    (record.attempts.values.map fun attempt => (attempt.id, attempt.state, attempt.committed)) =
      record.attempts.entries.map fun entry => (entry.1, entry.2.state, entry.2.committed) := by
  simp only [validateExperimentRecord, Validation.validateTrials, sequence_cons_eq_ok,
    require_eq_ok, forEach_eq_ok, decide_eq_true_eq] at valid
  obtain ⟨-, ⟨-, -, -, attempts, -⟩, -⟩ := valid
  rw [OrderedMap.values, List.map_map]
  exact List.map_congr_left fun entry member => by simp [(attempts entry member).1]

/-- Lists that are written as the same bytes agree when there are as many attempts and as many
artifacts. -/
theorem agrees_of_counts {left right : ExperimentRecord R} {leftLimits rightLimits : Limits}
    {leftId rightId : ExperimentId} (leftFits : left.Encodable) (rightFits : right.Encodable)
    (leftValid : validateExperimentRecord left leftLimits leftId = .ok ())
    (rightValid : validateExperimentRecord right rightLimits rightId = .ok ())
    (attempts : left.attempts.size = right.attempts.size)
    (artifacts : left.artifacts.length = right.artifacts.length)
    (same : left.listStream = right.listStream) : left.Agrees right := by
  have trial := Canonical.determines_trial (text "trial")
  have observation := Canonical.determines_observation (R := R) (text "observation")
  obtain ⟨trials, same⟩ := trial.run (Canonical.ninth 0x6C)
    (fun trial rest _ => Canonical.ninth_trial trial rest) leftFits.trials rightFits.trials
    (Canonical.no_trial _ _ _ _) (Canonical.no_trial _ _ _ _) same
  obtain ⟨attempts, same⟩ := Canonical.determines_attemptEntry.items leftFits.attempts
    rightFits.attempts attempts same
  obtain ⟨observations, same⟩ := observation.run (Canonical.ninth 0x72)
    (fun observation rest _ => Canonical.ninth_observation observation 0x72 rest)
    leftFits.observations rightFits.observations (Canonical.no_observation _ _)
    (Canonical.no_observation _ _) same
  obtain ⟨artifacts, same⟩ := Canonical.determines_artifactEntry.items leftFits.artifacts
    rightFits.artifacts artifacts same
  -- Only decisions are left, and each of them has bytes.
  rw [← List.append_nil (left.decisions.map _).flatten,
    ← List.append_nil (right.decisions.map _).flatten] at same
  have decisions := (Canonical.determines_decisionEntry.run (fun bytes => !bytes.isEmpty)
    (fun decision rest _ => rfl) leftFits.decisions rightFits.decisions rfl rfl same).1
  exact {
    trials := trials
    attempts := by rw [attempts_by_key leftValid, attempts_by_key rightValid, attempts]
    observations := observations
    artifacts := artifacts
    decisions := decisions }

/-- Validated records that are hashed as the same bytes agree on their lists if and only if they hold
as many attempts and as many artifacts. -/
theorem agrees_iff_counts [StdSort] {left right : ExperimentRecord R}
    {leftLimits rightLimits : Limits} {leftId rightId : ExperimentId} (leftFits : left.Encodable)
    (rightFits : right.Encodable)
    (leftValid : validateExperimentRecord left leftLimits leftId = .ok ())
    (rightValid : validateExperimentRecord right rightLimits rightId = .ok ())
    (same : left.stateStream = right.stateStream) :
    left.Agrees right ↔
      left.attempts.size = right.attempts.size ∧ left.artifacts.length = right.artifacts.length := by
  constructor
  · intro agrees
    have attempts := congrArg List.length agrees.attempts
    have artifacts := congrArg List.length agrees.artifacts
    simp only [OrderedMap.values, List.length_map] at attempts artifacts
    exact ⟨attempts, artifacts⟩
  · rintro ⟨attempts, artifacts⟩
    exact agrees_of_counts leftFits rightFits leftValid rightValid attempts artifacts
      (listStream_eq same)

end ExperimentRecord

/-- The same for the streams of two stored experiments. -/
theorem CoordinatorState.experimentStream_agrees_iff [MetricReal R] [ToChars R] [StdSort]
    {left right : CoordinatorState R} {leftId rightId : ExperimentId}
    {leftRecord rightRecord : ExperimentRecord R} {leftLimits rightLimits : Limits}
    (leftFound : left.experiments.find? leftId = some leftRecord)
    (rightFound : right.experiments.find? rightId = some rightRecord)
    (leftFits : leftRecord.Encodable) (rightFits : rightRecord.Encodable)
    (leftValid : validateExperimentRecord leftRecord leftLimits leftId = .ok ())
    (rightValid : validateExperimentRecord rightRecord rightLimits rightId = .ok ())
    (same : left.experimentStream leftId = right.experimentStream rightId) :
    leftRecord.Agrees rightRecord ↔
      leftRecord.attempts.size = rightRecord.attempts.size ∧
        leftRecord.artifacts.length = rightRecord.artifacts.length := by
  simp only [experimentStream, leftFound, rightFound] at same
  exact ExperimentRecord.agrees_iff_counts leftFits rightFits leftValid rightValid same

/-! ## Samples -/

namespace Sample

/-- A trial with one attempt, and neither an artifact nor a decision. -/
def attempted : ExperimentRecord UInt64 where
  definition := { ordered with hypothesis := ⟨1⟩, hypothesisRevision := ⟨1⟩ }
  hypothesis := { id := ⟨1⟩, revision := ⟨1⟩ }
  trials := OrderedMap.empty.assign ⟨1⟩
    { id := ⟨1⟩, generation := ⟨1⟩, branch := ⟨1⟩, hypothesis := ⟨1⟩ }
  attempts := OrderedMap.empty.assign ⟨1⟩ { id := ⟨1⟩, number := ⟨1⟩, trial := ⟨1⟩ }

/-- A current artifact of the attempt. -/
def artifact : ArtifactRecord where
  id := ⟨1⟩
  trial := ⟨1⟩
  attempt := ⟨1⟩
  locator := text "model.bin"
  contentDigest := List.replicate 32 0

/-- A rejection of the second branch on evidence with the digest of the artifact. -/
def rejection : Decision UInt64 where
  id := ⟨1⟩
  experiment := ⟨1⟩
  generation := ⟨1⟩
  hypothesis := ⟨1⟩
  hypothesisRevision := ⟨1⟩
  policy := ⟨1⟩
  policyGeneration := ⟨0⟩
  candidate := ⟨2⟩
  outcome := .reject
  canonicalStateDigest := List.replicate 32 0
  sequence := 1

/-- The attempt has produced an artifact. -/
def withArtifact : ExperimentRecord UInt64 := { attempted with artifacts := [artifact] }

/-- The experiment has come to a decision. -/
def withDecision : ExperimentRecord UInt64 := { attempted with decisions := [rejection] }

/-- A state that holds one experiment. -/
def holding (record : ExperimentRecord UInt64) : CoordinatorState UInt64 :=
  { experiments := OrderedMap.empty.assign ⟨1⟩ record }

theorem withArtifact_valid : validateExperimentRecord withArtifact {} ⟨1⟩ = .ok () := by
  decide +kernel

theorem withDecision_valid : validateExperimentRecord withDecision {} ⟨1⟩ = .ok () := by
  decide +kernel

theorem attempted_encodable : attempted.Encodable where
  trials := by
    intro trial member
    obtain rfl := List.mem_singleton.mp member
    exact ⟨by decide, by decide, by decide, by decide, by decide, by decide⟩
  attempts := by decide
  observations := by simp [attempted]
  artifacts := by decide
  decisions := by simp [attempted]

theorem withArtifact_encodable : withArtifact.Encodable :=
  { attempted_encodable with artifacts := by decide }

theorem withDecision_encodable : withDecision.Encodable :=
  { attempted_encodable with
    decisions := by
      intro decision member
      obtain rfl := List.mem_singleton.mp member
      decide }

/-- An artifact and a decision are written as the same bytes. -/
theorem same_listStream : withArtifact.listStream = withDecision.listStream := by decide +kernel

theorem same_stateStream [StdSort] : withArtifact.stateStream = withDecision.stateStream := by
  rw [ExperimentRecord.stateStream_eq, ExperimentRecord.stateStream_eq, same_listStream]
  rfl

/-- The first record with another worker on the attempt, which is not hashed. -/
def reassigned : ExperimentRecord UInt64 :=
  { withArtifact with
    attempts := OrderedMap.empty.assign ⟨1⟩
      { id := ⟨1⟩, number := ⟨1⟩, trial := ⟨1⟩, worker := ⟨7⟩ } }

theorem reassigned_encodable : reassigned.Encodable :=
  { withArtifact_encodable with attempts := by decide }

theorem reassigned_valid : validateExperimentRecord reassigned {} ⟨1⟩ = .ok () := by
  decide +kernel

theorem reassigned_stateStream [StdSort] : withArtifact.stateStream = reassigned.stateStream := by
  have lists : withArtifact.listStream = reassigned.listStream := by decide +kernel
  rw [ExperimentRecord.stateStream_eq, ExperimentRecord.stateStream_eq, lists]
  rfl

end Sample

/-- Records that differ in what is not hashed agree. -/
theorem experimentStream_sample : Sample.withArtifact.Agrees Sample.reassigned :=
  (@CoordinatorState.experimentStream_agrees_iff UInt64 _ _ stableSort
    (Sample.holding Sample.withArtifact) (Sample.holding Sample.reassigned) ⟨1⟩ ⟨1⟩ _ _ {} {} rfl rfl
    Sample.withArtifact_encodable Sample.reassigned_encodable Sample.withArtifact_valid
    Sample.reassigned_valid (@Sample.reassigned_stateStream stableSort)).mpr ⟨rfl, rfl⟩

/-- A record with an artifact is hashed like one with a decision in its place. -/
theorem artifact_hashed_as_decision :
    ¬ ∀ (_ : StdSort) (left right : ExperimentRecord UInt64) (leftLimits rightLimits : Limits)
      (leftId rightId : ExperimentId), left.Encodable → right.Encodable →
      validateExperimentRecord left leftLimits leftId = .ok () →
      validateExperimentRecord right rightLimits rightId = .ok () →
      left.stateStream = right.stateStream → left.Agrees right := by
  intro separates
  have agrees := separates stableSort Sample.withArtifact Sample.withDecision {} {} ⟨1⟩ ⟨1⟩
    Sample.withArtifact_encodable Sample.withDecision_encodable Sample.withArtifact_valid
    Sample.withDecision_valid (@Sample.same_stateStream stableSort)
  cases agrees.artifacts

end ExperimentFabric
