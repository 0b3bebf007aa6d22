import ExperimentFabric.Restoration

/-!
# Validating a changed record

The validator reads neither the state of a branch, a trial or an attempt nor any of their failures,
so it judges a rolled back record as it judges the record before, at the target generation and with
one more rollback point.
-/

namespace ExperimentFabric

open Lib Validation

variable {R : Type}

/-! ## What the validator reads -/

/-- The part of a branch that the validator reads. -/
def BranchDefinition.bare (branch : BranchDefinition) : BranchDefinition :=
  { branch with state := .active, generation := .null }

/-- The part of a trial that the validator reads. -/
def TrialRecord.bare (trial : TrialRecord) : TrialRecord :=
  { trial with state := .created, failureKind := .none, failureDetail := [], updatedSequence := 0 }

/-- The part of an attempt that the validator reads. -/
def AttemptRecord.bare (attempt : AttemptRecord) : AttemptRecord :=
  { attempt with state := .issued, failureKind := .none, failureDetail := [], updatedSequence := 0 }

/-- The part of a record that the validator reads. -/
def ExperimentRecord.bare (record : ExperimentRecord R) : ExperimentRecord R :=
  { record with
    definition :=
      { record.definition with branches := record.definition.branches.map BranchDefinition.bare }
    trials := record.trials.mapValues TrialRecord.bare
    attempts := record.attempts.mapValues AttemptRecord.bare
    state := .opened
    revisionSequence := 0
    lifecycleLog := [] }

theorem walkLineage_bare (branches : List BranchDefinition) (context : Text) (remaining : Nat)
    (seen : List BranchId) (cursor : BranchId) :
    walkLineage (branches.map BranchDefinition.bare) context remaining seen cursor =
      walkLineage branches context remaining seen cursor := by
  induction remaining generalizing seen cursor with
  | zero => rfl
  | succ remaining ih =>
      have lookup : (branches.map BranchDefinition.bare).find? (·.id = cursor) =
          (branches.find? (·.id = cursor)).map BranchDefinition.bare := List.find?_map
      unfold walkLineage
      rw [lookup]
      cases branches.find? (·.id = cursor) with
      | none => rfl
      | some branch =>
          simp only [Option.map_some, ih]
          rfl

theorem map_id_bare (branches : List BranchDefinition) :
    (branches.map BranchDefinition.bare).map BranchDefinition.id =
      branches.map BranchDefinition.id := by
  rw [List.map_map]
  rfl

/-- A scan from the start of the images of a list. -/
theorem scan_nil_map {α β ε : Type} (f : α → β) (check : List β → β → Check ε) (items : List α) :
    scan check [] (items.map f) = scan (fun before item => check (before.map f) (f item)) [] items :=
  scan_map f check [] items

section Bare

variable (record : ExperimentRecord R) (limits : Limits) (id : ExperimentId) (context : Text)

theorem validateDefinition_bare [MetricReal R] :
    validateDefinition record.bare limits id context =
      validateDefinition record limits id context := by
  unfold validateDefinition validateBranchLineage
  simp only [ExperimentRecord.bare, map_id_bare, List.length_map, forEach_map, scan_nil_map,
    walkLineage_bare, List.any_map, ne_eq, List.map_eq_nil_iff]
  rfl

theorem validateTrials_bare :
    validateTrials record.bare limits context = validateTrials record limits context := by
  unfold validateTrials
  simp only [ExperimentRecord.bare, List.map_map, List.length_map,
    OrderedMap.size_mapValues, OrderedMap.find?_mapValues, OrderedMap.values_mapValues,
    OrderedMap.entries_mapValues, List.countP_map, forEach_map, Option.isSome_map]
  rfl

theorem validateSizes_bare :
    validateSizes record.bare limits context = validateSizes record limits context := rfl

theorem validateObservations_bare :
    validateObservations record.bare context = validateObservations record context := by
  unfold validateObservations
  simp only [ExperimentRecord.bare, OrderedMap.find?_mapValues, Option.isSome_map]
  rfl

theorem validateArtifacts_bare :
    validateArtifacts record.bare limits context = validateArtifacts record limits context := by
  unfold validateArtifacts
  simp only [ExperimentRecord.bare, OrderedMap.find?_mapValues, OrderedMap.values_mapValues,
    forEach_map, Option.isSome_map]
  rfl

theorem validateDecisions_bare :
    validateDecisions record.bare context = validateDecisions record context := by
  unfold validateDecisions
  simp only [ExperimentRecord.bare, map_id_bare]

theorem validateRollbackPoints_bare :
    validateRollbackPoints record.bare context = validateRollbackPoints record context := by
  unfold validateRollbackPoints
  simp only [ExperimentRecord.bare, map_id_bare]
  rfl

/-- The validator judges the part of a record that it reads. -/
theorem validateExperimentRecord_bare [MetricReal R] :
    validateExperimentRecord record.bare limits id = validateExperimentRecord record limits id := by
  unfold validateExperimentRecord
  dsimp only
  rw [validateDefinition_bare, validateTrials_bare, validateSizes_bare, validateObservations_bare,
    validateArtifacts_bare, validateDecisions_bare, validateRollbackPoints_bare]

end Bare

/-! ## A rolled back record -/

/-- The record at another generation. -/
def ExperimentRecord.atGeneration (record : ExperimentRecord R)
    (generation : ExperimentGeneration) : ExperimentRecord R :=
  { record with definition := { record.definition with generation := generation } }

theorem restoreBranches_bare (authority : List BranchAuthoritySnapshot)
    (branches : List BranchDefinition) :
    (ExperimentRecord.restoreBranches authority branches).map BranchDefinition.bare =
      branches.map BranchDefinition.bare :=
  map_restoreBranches BranchDefinition.bare (fun _ _ _ => rfl) authority branches

theorem closeTrial_bare (select : TrialRecord → Bool) (state : TrialState) (kind : FailureKind)
    (detail : Text) (sequence : Nat) (trial : TrialRecord) :
    (closeTrial select state kind detail sequence trial).bare = trial.bare := by
  unfold closeTrial
  split <;> rfl

theorem closeAttempt_bare (select : AttemptRecord → Bool) (state : AttemptState)
    (kind : FailureKind) (detail : Text) (sequence : Nat) (attempt : AttemptRecord) :
    (closeAttempt select state kind detail sequence attempt).bare = attempt.bare := by
  unfold closeAttempt
  split <;> rfl

section Rollback

variable [CanonicalDigests R] (record : ExperimentRecord R) (experiment : ExperimentId)
  (chosen : RollbackPoint) (point : RollbackPointId) (reason : Text) (sequence : Nat)

/-- To the validator, a rollback sets the generation and adds a rollback point. -/
theorem rollback_bare :
    (record.rollback experiment chosen point reason sequence).bare =
      { (record.atGeneration chosen.generation).bare with
        rollbackPoints := (record.rollback experiment chosen point reason
          sequence).rollbackPoints } := by
  unfold ExperimentRecord.rollback ExperimentRecord.bare ExperimentRecord.atGeneration
    ExperimentRecord.abandonStaleLiveWork closeTrials closeAttempts
  simp only [ExperimentRecord.log, restoreBranches_bare, OrderedMap.mapValues_mapValues,
    closeTrial_bare, closeAttempt_bare]

/-- The rollback points are newest last. -/
theorem lastSequence_lt {points : List RollbackPoint}
    (below : ∀ earlier ∈ points, earlier.sequence < sequence) (positive : 0 < sequence) :
    lastSequence points < sequence := by
  unfold lastSequence
  cases final : points.getLast? with
  | none => exact positive
  | some earlier => exact below earlier (List.mem_of_getLast? final)

omit [CanonicalDigests R] in
/-- One more rollback point is valid when its identity is new, it is the latest, and it passes the
checks of a point. -/
theorem validateRollbackPoints_snoc {context : Text} {added : RollbackPoint}
    (null : added.id.valid = true)
    (fresh : added.id ∉ record.rollbackPoints.map RollbackPoint.id)
    (latest : lastSequence record.rollbackPoints < added.sequence)
    (checked : PointChecked record added) :
    validateRollbackPoints { record with rollbackPoints := record.rollbackPoints ++ [added] }
        context = .ok () ↔ validateRollbackPoints record context = .ok () := by
  unfold validateRollbackPoints
  dsimp only
  rw [scan_append, Check.and_eq_ok, and_iff_left_iff_imp]
  intro _
  have decision : (!added.decisionPresent ||
      decide (added.decision ∈ record.decisions.map Decision.id)) = true := by
    cases present : added.decisionPresent with
    | false => rfl
    | true => simpa using checked.decision present
  simp only [scan, List.nil_append, Check.and_eq_ok, sequence_cons_eq_ok, sequence_nil,
    require_eq_ok, forEach_eq_ok, Bool.and_eq_true, decide_eq_true_eq, and_true]
  refine ⟨null, fresh, checked.generation, latest, decision, fun snapshot listed => ?_⟩
  obtain ⟨branch, generation, known⟩ := checked.authority snapshot listed
  exact ⟨⟨branch, generation⟩, known⟩

/-- A rolled back record is valid exactly when the record is valid at the target generation and has
room for another rollback point. -/
theorem rollback_valid_iff [MetricReal R] (limits : Limits)
    (member : chosen ∈ record.rollbackPoints)
    (fresh : ∀ earlier ∈ record.rollbackPoints, earlier.id.value < point.value)
    (later : ∀ earlier ∈ record.rollbackPoints, earlier.sequence < sequence) :
    validateExperimentRecord (record.rollback experiment chosen point reason sequence) limits
        experiment = .ok () ↔
      validateExperimentRecord (record.atGeneration chosen.generation) limits experiment = .ok () ∧
        record.rollbackPoints.length < limits.maxDecisionsPerExperiment := by
  obtain ⟨added, points, identity, dated, generation, authority, undecided⟩ :
      ∃ added : RollbackPoint, (record.rollback experiment chosen point reason
        sequence).rollbackPoints = record.rollbackPoints ++ [added] ∧ added.id = point ∧
          added.sequence = sequence ∧ added.generation = chosen.generation ∧
            added.authority = chosen.authority ∧ added.decisionPresent = false :=
    ⟨_, rfl, rfl, rfl, rfl, rfl, rfl⟩
  rw [← validateExperimentRecord_bare, rollback_bare, points,
    ← validateExperimentRecord_bare (record.atGeneration chosen.generation)]
  have held : (record.atGeneration chosen.generation).bare.rollbackPoints =
      record.rollbackPoints := rfl
  generalize (record.atGeneration chosen.generation).bare = base at held
  rw [← held] at member fresh later ⊢
  -- Only the number of points and the points themselves are checked anew.
  have sizes : ∀ context, validateSizes { base with
        rollbackPoints := base.rollbackPoints ++ [added] } limits context = .ok () ↔
      validateSizes base limits context = .ok () ∧
        base.rollbackPoints.length < limits.maxDecisionsPerExperiment := by
    intro context
    simp only [validateSizes, sequence_cons_eq_ok, sequence_nil, require_eq_ok, decide_eq_true_eq,
      List.length_append, List.length_singleton, and_true]
    omega
  have pointsValid : PointChecked base chosen → ∀ context,
      (validateRollbackPoints { base with rollbackPoints := base.rollbackPoints ++ [added] }
        context = .ok () ↔ validateRollbackPoints base context = .ok ()) := by
    intro checked context
    refine validateRollbackPoints_snoc base ?_ ?_ ?_ ⟨?_, ?_, ?_⟩
    · have larger := fresh chosen member
      rw [← identity] at larger
      exact decide_eq_true (Nat.ne_of_gt (Nat.zero_lt_of_lt larger))
    · intro known
      obtain ⟨earlier, listed, same⟩ := List.mem_map.mp known
      have larger := fresh earlier listed
      rw [same, identity] at larger
      exact lt_irrefl _ larger
    · rw [dated]
      exact lastSequence_lt sequence later (Nat.zero_lt_of_lt (later chosen member))
    · rw [generation]
      exact checked.generation
    · rw [undecided]
      intro present
      cases present
    · rw [authority]
      exact checked.authority
  constructor
  · intro valid
    have checked := validateExperimentRecord_points valid chosen (List.mem_append_left _ member)
    simp only [validateExperimentRecord, sequence_cons_eq_ok, sequence_nil, and_true] at valid ⊢
    obtain ⟨definition, trials, bounds, observations, artifacts, decisions, ordered⟩ := valid
    have same : PointChecked base chosen := ⟨checked.generation, checked.decision, checked.authority⟩
    exact ⟨⟨definition, trials, ((sizes _).mp bounds).1, observations, artifacts, decisions,
      (pointsValid same _).mp ordered⟩, ((sizes _).mp bounds).2⟩
  · rintro ⟨valid, room⟩
    have checked := validateExperimentRecord_points valid chosen member
    simp only [validateExperimentRecord, sequence_cons_eq_ok, sequence_nil, and_true] at valid ⊢
    obtain ⟨definition, trials, bounds, observations, artifacts, decisions, ordered⟩ := valid
    exact ⟨definition, trials, (sizes _).mpr ⟨bounds, room⟩, observations, artifacts, decisions,
      (pointsValid checked _).mpr ordered⟩

end Rollback

end ExperimentFabric
