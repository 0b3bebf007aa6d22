import ExperimentFabric.Lifecycle

/-!
# What recovery does to a record

Recovery is specified by `ExperimentRecord.recovered`: open attempts are abandoned, open trials are
made ready again or failed, and nothing else changes.  Staging and resolving a record yields the
recovered record up to sequence numbers and lifecycle lines, and so does recovering a record that an
interrupted recovery had already staged.
-/

namespace ExperimentFabric

open Lib

variable {R : Type}

/-! ## The recovered record -/

/-- The attempt without the sequence at which it was last touched. -/
def AttemptRecord.unsequenced (attempt : AttemptRecord) : AttemptRecord :=
  { attempt with updatedSequence := 0 }

/-- The trial without the sequence at which it was last touched. -/
def TrialRecord.unsequenced (trial : TrialRecord) : TrialRecord :=
  { trial with updatedSequence := 0 }

/-- An open attempt is abandoned. -/
def recoveredAttempt (attempt : AttemptRecord) : AttemptRecord :=
  if isAttemptTerminal attempt.state then attempt
  else attempt.finish .abandoned .producerLoss
    (text "recovered: the previous process incarnation holds no authority") 0

namespace ExperimentRecord

/-- The record without sequence numbers of trials and attempts and without lifecycle lines. -/
def forget (record : ExperimentRecord R) : ExperimentRecord R :=
  { record with
    trials := record.trials.mapValues TrialRecord.unsequenced
    attempts := record.attempts.mapValues AttemptRecord.unsequenced
    lifecycleLog := [] }

/-- The experiment no longer waits for recovery. -/
def reopened (record : ExperimentRecord R) : ExperimentRecord R :=
  { record with state := if record.state = .recovering then .opened else record.state }

/-- An open trial is made ready again, or failed. -/
def recoveredTrial (record : ExperimentRecord R) (trial : TrialRecord) : TrialRecord :=
  if isTerminal trial.state then trial else record.resolvedTrial trial

/-- What recovery makes of a record. -/
def recovered (record : ExperimentRecord R) : ExperimentRecord R :=
  { record.reopened with
    trials := record.trials.mapValues record.reopened.recoveredTrial
    attempts := record.attempts.mapValues recoveredAttempt }

theorem reopened_state_ne (record : ExperimentRecord R) :
    record.reopened.state ≠ .recovering := by
  unfold reopened
  split <;> simp_all

@[simp]
theorem logAll_forget (record : ExperimentRecord R) (lines : List Text) :
    (record.logAll lines).forget = record.forget := by
  induction lines generalizing record with
  | nil => rfl
  | cons line rest ih => exact ih (record.log line)

theorem logAll_eq (record : ExperimentRecord R) (lines : List Text) :
    record.logAll lines = { record with lifecycleLog := (record.logAll lines).lifecycleLog } := by
  induction lines generalizing record with
  | nil => rfl
  | cons line rest ih =>
      rw [show record.logAll (line :: rest) = (record.log line).logAll rest from rfl, ih]
      rfl

end ExperimentRecord

/-! ## Staging -/

section Stage

variable (record : ExperimentRecord R) (sequence : Nat)

theorem stage_forget_fields :
    (record.stage sequence).2 =
      { record.reopened with
        trials := (record.stage sequence).2.trials
        attempts := (record.stage sequence).2.attempts
        lifecycleLog := (record.stage sequence).2.lifecycleLog } := by
  unfold ExperimentRecord.stage
  dsimp only
  rw [ExperimentRecord.logAll_eq]
  rfl

/-- Staging changes an attempt by one visit. -/
theorem stage_attempts (key : TrialAttemptId) :
    ∃ reached, (record.stage sequence).2.attempts.find? key =
      (record.attempts.find? key).map fun attempt => (stageAttempt reached attempt).2 := by
  unfold ExperimentRecord.stage
  dsimp only
  rw [ExperimentRecord.logAll_eq]
  exact record.attempts.find?_traverse stageAttempt sequence key

/-- Staging changes a trial by one visit. -/
theorem stage_trials (key : TrialId) :
    ∃ reached, (record.stage sequence).2.trials.find? key =
      (record.trials.find? key).map fun trial => (stageTrial reached trial).2 := by
  unfold ExperimentRecord.stage
  dsimp only
  rw [ExperimentRecord.logAll_eq]
  exact record.trials.find?_traverse stageTrial _ key

/-- Staging relates every attempt to a later one when each visit does. -/
theorem stage_attempts_evolve {related : AttemptRecord → AttemptRecord → Prop}
    (each : ∀ reached attempt, related attempt (stageAttempt reached attempt).2) :
    OrderedMap.Evolves related record.attempts (record.stage sequence).2.attempts := by
  unfold ExperimentRecord.stage
  dsimp only
  rw [ExperimentRecord.logAll_eq]
  exact .traverse each

/-- Staging relates every trial to a later one when each visit does. -/
theorem stage_trials_evolve {related : TrialRecord → TrialRecord → Prop}
    (each : ∀ reached trial, related trial (stageTrial reached trial).2) :
    OrderedMap.Evolves related record.trials (record.stage sequence).2.trials := by
  unfold ExperimentRecord.stage
  dsimp only
  rw [ExperimentRecord.logAll_eq]
  exact .traverse each

end Stage

/-- A staged attempt recovers to what the attempt recovers to. -/
theorem recoveredAttempt_stage (reached : Nat) (attempt : AttemptRecord) :
    (recoveredAttempt (stageAttempt reached attempt).2).unsequenced =
      (recoveredAttempt attempt).unsequenced := by
  unfold stageAttempt
  split
  · rfl
  · rename_i isOpen
    rw [recoveredAttempt, recoveredAttempt, if_neg isOpen,
      if_neg (show ¬ isAttemptTerminal .revalidationRequired = true by decide)]
    rfl

/-- A staged trial recovers to what the trial recovers to. -/
theorem recoveredTrial_stage (record : ExperimentRecord R) (reached : Nat × List Text)
    (trial : TrialRecord) :
    (record.recoveredTrial (stageTrial reached trial).2).unsequenced =
      (record.recoveredTrial trial).unsequenced := by
  unfold stageTrial
  split
  · rfl
  · rename_i isOpen
    have resumable : ∀ staged : TrialRecord, staged.attemptCount = trial.attemptCount →
        staged.branch = trial.branch → staged.branchGeneration = trial.branchGeneration →
        staged.generation = trial.generation →
          record.resumable staged = record.resumable trial := by
      intro staged count branch branchGeneration generation
      simp only [ExperimentRecord.resumable, count, branch, branchGeneration, generation]
    rw [ExperimentRecord.recoveredTrial, ExperimentRecord.recoveredTrial, if_neg isOpen,
      if_neg (show ¬ isTerminal .revalidationRequired = true by decide),
      ExperimentRecord.resolvedTrial, ExperimentRecord.resolvedTrial,
      resumable { trial with state := .revalidationRequired, updatedSequence := reached.1 + 1 } rfl
        rfl rfl rfl]
    split <;> rfl

theorem reopened_recoveredTrial_congr {record other : ExperimentRecord R}
    (definition : other.definition = record.definition) (state : other.state = record.state) :
    other.recoveredTrial = record.recoveredTrial := by
  funext trial
  have resumable : other.resumable trial = record.resumable trial := by
    unfold ExperimentRecord.resumable ExperimentRecord.findBranch
    rw [definition, state]
  simp only [ExperimentRecord.recoveredTrial, ExperimentRecord.resolvedTrial, resumable]

/-- Staging does not change what a record recovers to. -/
theorem recovered_stage (record : ExperimentRecord R) (sequence : Nat) :
    (record.stage sequence).2.recovered.forget = record.recovered.forget := by
  have fields := stage_forget_fields record sequence
  have definition : (record.stage sequence).2.definition = record.definition := by rw [fields]; rfl
  have reopened : (record.stage sequence).2.state = record.reopened.state := by rw [fields]
  have state : (record.stage sequence).2.reopened.state = record.reopened.state :=
    (if_neg (reopened ▸ record.reopened_state_ne)).trans reopened
  have trials : (record.stage sequence).2.recovered.forget.trials =
      record.recovered.forget.trials := by
    ext1 key
    obtain ⟨reached, found⟩ := stage_trials record sequence key
    have sameVisit : (record.stage sequence).2.reopened.recoveredTrial =
        record.reopened.recoveredTrial := reopened_recoveredTrial_congr definition state
    simp only [ExperimentRecord.forget, ExperimentRecord.recovered, OrderedMap.find?_mapValues,
      found, sameVisit, Option.map_map, Function.comp_def, recoveredTrial_stage]
  have attempts : (record.stage sequence).2.recovered.forget.attempts =
      record.recovered.forget.attempts := by
    ext1 key
    obtain ⟨reached, found⟩ := stage_attempts record sequence key
    simp only [ExperimentRecord.forget, ExperimentRecord.recovered, OrderedMap.find?_mapValues,
      found, Option.map_map, Function.comp_def, recoveredAttempt_stage]
  refine ExperimentRecord.ext definition ?_ ?_ state ?_ ?_ trials attempts ?_ ?_ ?_ ?_ ?_ rfl
  all_goals
    rw [fields]
    rfl

/-- An attempt before and after staging. -/
structure StagedAttempt (attempt attempt' : AttemptRecord) : Prop where
  id : attempt'.id = attempt.id
  trial : attempt'.trial = attempt.trial
  branch : attempt'.branch = attempt.branch
  committed : attempt'.committed = attempt.committed
  closed : isAttemptTerminal attempt.state = true → attempt' = attempt
  stillOpen : isAttemptTerminal attempt.state = false → isAttemptTerminal attempt'.state = false

/-- A trial before and after staging. -/
structure StagedTrial (trial trial' : TrialRecord) : Prop where
  id : trial'.id = trial.id
  branch : trial'.branch = trial.branch
  authoritative : trial'.authoritativeAttempt = trial.authoritativeAttempt
  committedAttempts : trial'.committedAttempts = trial.committedAttempts
  closed : isTerminal trial.state = true → trial' = trial
  staged : isTerminal trial.state = false → trial'.state = .revalidationRequired

theorem stageAttempt_staged (reached : Nat) (attempt : AttemptRecord) :
    StagedAttempt attempt (stageAttempt reached attempt).2 := by
  unfold stageAttempt
  split
  · rename_i closed
    exact ⟨rfl, rfl, rfl, rfl, fun _ => rfl, fun isOpen => by simp [closed] at isOpen⟩
  · rename_i isOpen
    exact ⟨rfl, rfl, rfl, rfl, fun closed => (isOpen closed).elim, fun _ => rfl⟩

theorem stageTrial_staged (reached : Nat × List Text) (trial : TrialRecord) :
    StagedTrial trial (stageTrial reached trial).2 := by
  unfold stageTrial
  split
  · rename_i closed
    exact ⟨rfl, rfl, rfl, rfl, fun _ => rfl, fun isOpen => by simp [closed] at isOpen⟩
  · rename_i isOpen
    exact ⟨rfl, rfl, rfl, rfl, fun closed => (isOpen closed).elim, fun _ => rfl⟩

theorem SavedCell.stage {attempts attempts' : OrderedMap TrialAttemptId AttemptRecord}
    {key : TrialId} {trial trial' : TrialRecord} (cell : SavedCell attempts key trial)
    (trialStaged : StagedTrial trial trial')
    (forward : ∀ id attempt, attempts.find? id = some attempt → ∃ attempt',
      attempts'.find? id = some attempt' ∧ StagedAttempt attempt attempt')
    (backward : ∀ id attempt', attempts'.find? id = some attempt' → ∃ attempt,
      attempts.find? id = some attempt ∧ StagedAttempt attempt attempt') :
    SavedCell attempts' key trial' := by
  have finished : trial'.state = .completed ↔ trial.state = .completed := by
    by_cases closed : isTerminal trial.state = true
    · rw [trialStaged.closed closed]
    · have staged := trialStaged.staged (by simpa using closed)
      constructor
      · simp [staged]
      · intro done
        simp [done, isTerminal] at closed
  refine ⟨trialStaged.id.trans cell.id, ?_, ?_, ?_, ?_, ?_⟩
  · intro id attempt' found named
    obtain ⟨attempt, before, staged⟩ := backward id attempt' found
    rw [staged.branch, trialStaged.branch]
    exact cell.branch id attempt before (staged.trial.symm.trans named)
  · intro id attempt' found named isOpen
    obtain ⟨attempt, before, staged⟩ := backward id attempt' found
    have wasOpen : isAttemptTerminal attempt.state = false := by
      by_contra closed
      rw [staged.closed (by simpa using closed)] at isOpen
      exact closed isOpen
    rw [trialStaged.staged
      (cell.trialOpen id attempt before (staged.trial.symm.trans named) wasOpen)]
    rfl
  · intro id attempt' found named committed
    obtain ⟨attempt, before, staged⟩ := backward id attempt' found
    obtain ⟨attemptDone, trialDone, authoritative⟩ := cell.committed id attempt before
      (staged.trial.symm.trans named) (staged.committed.symm.trans committed)
    refine ⟨?_, finished.mpr trialDone, trialStaged.authoritative.trans authoritative⟩
    rw [staged.closed (by simp [attemptDone, isAttemptTerminal]), attemptDone]
  · intro done
    obtain ⟨attempt, before, named, committed⟩ := cell.completed (finished.mp done)
    obtain ⟨attempt', found, staged⟩ := forward _ attempt before
    exact ⟨attempt', by rw [trialStaged.authoritative, found], staged.trial.trans named,
      staged.committed.trans committed⟩
  · rw [trialStaged.committedAttempts, cell.count]
    simp only [finished]

/-- Staging keeps the invariant of a saved record, and leaves no open trial but staged ones. -/
theorem Recoverable.stage {marks : Watermarks} {record : ExperimentRecord R}
    (saved : Recoverable marks record) (sequence : Nat) :
    Recoverable marks (record.stage sequence).2 ∧
      ∀ key trial, (record.stage sequence).2.trials.find? key = some trial →
        isTerminal trial.state = true ∨ trial.state = .revalidationRequired := by
  have attempts := stage_attempts_evolve record sequence stageAttempt_staged
  have trials := stage_trials_evolve record sequence stageTrial_staged
  refine ⟨⟨⟨?_, ?_, ?_, ?_, ?_⟩, ?_⟩, ?_⟩
  · intro key trial' found
    obtain ⟨trial, before, -⟩ := trials.source found
    exact saved.trialBound key trial before
  · intro id attempt' found
    obtain ⟨attempt, before, staged⟩ := attempts.source found
    exact staged.id.trans (saved.attemptId id attempt before)
  · intro id attempt' found
    obtain ⟨attempt, before, -⟩ := attempts.source found
    exact saved.attemptValid id attempt before
  · intro id attempt' found
    obtain ⟨attempt, before, -⟩ := attempts.source found
    exact saved.attemptBound id attempt before
  · intro id attempt' found
    obtain ⟨attempt, before, staged⟩ := attempts.source found
    obtain ⟨trial, held⟩ := saved.attemptTrial id attempt before
    obtain ⟨trial', held', -⟩ := trials.extends_ _ trial held
    exact ⟨trial', staged.trial ▸ held'⟩
  · intro key trial' found
    obtain ⟨trial, before, staged⟩ := trials.source found
    exact (saved.trial key trial before).stage staged attempts.extends_ fun _ _ held =>
      attempts.source held
  · intro key trial' found
    obtain ⟨trial, before, staged⟩ := trials.source found
    by_cases closed : isTerminal trial.state = true
    · rw [staged.closed closed]
      exact .inl closed
    · exact .inr (staged.staged (by simpa using closed))

/-! ## Resolving -/

/-- An open attempt is abandoned when one of the trials is staged and owns it. -/
def abandonedBy (trials : List TrialRecord) (attempt : AttemptRecord) : AttemptRecord :=
  if !isAttemptTerminal attempt.state &&
      trials.any fun trial => trial.state = .revalidationRequired && trial.id = attempt.trial then
    attempt.finish .abandoned .producerLoss
      (text "recovered: the previous process incarnation holds no authority") 0
  else attempt

theorem abandonedBy_of_terminal (trials : List TrialRecord) {attempt : AttemptRecord}
    (closed : isAttemptTerminal attempt.state = true) : abandonedBy trials attempt = attempt := by
  simp [abandonedBy, closed]

/-- Resolving the attempts of one staged trial, then those of the others. -/
theorem abandonedBy_resolveAttempt {trial : TrialRecord} (staged : trial.state = .revalidationRequired)
    (rest : List TrialRecord) (reached : Nat) (attempt : AttemptRecord) :
    (abandonedBy rest (resolveAttempt trial.id reached attempt).2).unsequenced =
      (abandonedBy (trial :: rest) attempt).unsequenced := by
  by_cases closed : isAttemptTerminal attempt.state = true
  · rw [resolveAttempt, if_pos (by simp [closed]), abandonedBy_of_terminal _ closed,
      abandonedBy_of_terminal _ closed]
  · by_cases owned : attempt.trial = trial.id
    · rw [resolveAttempt, if_neg (by simp [closed, owned]), abandonedBy_of_terminal _ rfl,
        abandonedBy, if_pos (by simp [closed, staged, owned])]
      rfl
    · rw [resolveAttempt, if_pos (by simp [owned])]
      simp [abandonedBy, Ne.symm owned]

/-- The attempts reached after resolving several trials. -/
theorem resolveTrials_attempts (record : ExperimentRecord R) (trials : List TrialRecord)
    (progress : ResolveProgress) (key : TrialAttemptId) :
    ((trials.foldl (fun reached trial => (record.resolveTrial reached trial).1)
        progress).attempts.find? key).map AttemptRecord.unsequenced =
      (progress.attempts.find? key).map fun attempt => (abandonedBy trials attempt).unsequenced := by
  induction trials generalizing progress with
  | nil => simp [abandonedBy]
  | cons trial rest ih =>
      rw [List.foldl_cons, ih]
      by_cases staged : trial.state = .revalidationRequired
      · obtain ⟨reached, visited⟩ :=
          progress.attempts.find?_traverse (resolveAttempt trial.id) progress.sequence key
        simp only [ExperimentRecord.resolveTrial, staged, ne_eq, not_true_eq_false, if_false,
          visited, Option.map_map, Function.comp_def, abandonedBy_resolveAttempt staged]
      · simp only [ExperimentRecord.resolveTrial, staged, ne_eq, not_false_eq_true, if_true]
        simp [abandonedBy, staged]

section Resolve

variable (record : ExperimentRecord R) (sequence : Nat)

theorem resolve_fields :
    (record.resolve sequence).2 =
      { record with
        trials := (record.resolve sequence).2.trials
        attempts := (record.resolve sequence).2.attempts
        lifecycleLog := (record.resolve sequence).2.lifecycleLog } := by
  unfold ExperimentRecord.resolve
  dsimp only
  rw [ExperimentRecord.logAll_eq]

theorem resolve_trials (key : TrialId) :
    ((record.resolve sequence).2.trials.find? key).map TrialRecord.unsequenced =
      (record.trials.find? key).map fun trial =>
        (if trial.state = .revalidationRequired then record.resolvedTrial trial
          else trial).unsequenced := by
  unfold ExperimentRecord.resolve
  dsimp only
  rw [ExperimentRecord.logAll_eq]
  obtain ⟨reached, visited⟩ := record.trials.find?_traverse record.resolveTrial
    { sequence := sequence, attempts := record.attempts } key
  rw [visited, Option.map_map]
  congr 1
  funext trial
  simp only [Function.comp_apply, ExperimentRecord.resolveTrial]
  by_cases staged : trial.state = .revalidationRequired
  · simp only [staged, ne_eq, not_true_eq_false, if_false, if_true]
    rfl
  · simp [staged]

theorem resolve_attempts (key : TrialAttemptId) :
    ((record.resolve sequence).2.attempts.find? key).map AttemptRecord.unsequenced =
      (record.attempts.find? key).map fun attempt =>
        (abandonedBy record.trials.values attempt).unsequenced := by
  unfold ExperimentRecord.resolve
  dsimp only
  rw [ExperimentRecord.logAll_eq]
  dsimp only
  rw [OrderedMap.traverse_fst]
  exact resolveTrials_attempts record record.trials.values _ key

end Resolve

/-- Resolving a staged record recovers it. -/
theorem resolve_forget {marks : Watermarks} {record : ExperimentRecord R}
    (saved : Recoverable marks record) (settled : record.state ≠ .recovering)
    (staged : ∀ key trial, record.trials.find? key = some trial →
      isTerminal trial.state = true ∨ trial.state = .revalidationRequired) (sequence : Nat) :
    (record.resolve sequence).2.forget = record.recovered.forget := by
  have same : record.reopened = record := by
    unfold ExperimentRecord.reopened
    rw [if_neg settled]
  have fields := resolve_fields record sequence
  have trials : (record.resolve sequence).2.forget.trials = record.recovered.forget.trials := by
    ext1 key
    have visited := resolve_trials record sequence key
    simp only [ExperimentRecord.forget, ExperimentRecord.recovered, OrderedMap.find?_mapValues,
      visited, Option.map_map, same]
    refine Option.map_congr fun trial found => ?_
    rcases staged key trial found with closed | waiting
    · have notWaiting : trial.state ≠ .revalidationRequired := fun waiting => by
        simp [waiting, isTerminal] at closed
      simp [ExperimentRecord.recoveredTrial, closed, notWaiting]
    · simp [ExperimentRecord.recoveredTrial, waiting, isTerminal]
  have attempts : (record.resolve sequence).2.forget.attempts =
      record.recovered.forget.attempts := by
    ext1 key
    have visited := resolve_attempts record sequence key
    simp only [ExperimentRecord.forget, ExperimentRecord.recovered, OrderedMap.find?_mapValues,
      visited, Option.map_map]
    refine Option.map_congr fun attempt found => ?_
    by_cases closed : isAttemptTerminal attempt.state = true
    · simp [abandonedBy, recoveredAttempt, closed]
    · -- The owner of an open attempt is open, hence staged.
      obtain ⟨trial, held⟩ := saved.attemptTrial key attempt found
      have cell := saved.trial _ trial held
      have isOpen := cell.trialOpen key attempt found rfl (by simpa using closed)
      have waiting : trial.state = .revalidationRequired := by
        simpa [isOpen] using staged _ trial held
      have owned : record.trials.values.any (fun trial =>
          trial.state = .revalidationRequired && trial.id = attempt.trial) = true :=
        List.any_eq_true.mpr ⟨trial, (OrderedMap.mem_values_iff _ _).mpr ⟨_, held⟩,
          by simp [waiting, cell.id]⟩
      simp [abandonedBy, recoveredAttempt, closed, owned]
  refine ExperimentRecord.ext ?_ ?_ ?_ ?_ ?_ ?_ trials attempts ?_ ?_ ?_ ?_ ?_ rfl
  all_goals
    rw [fields]
    first | rfl | rw [ExperimentRecord.forget, ExperimentRecord.recovered, same]; rfl

/-! ## The recovered record is in order -/

theorem recoveredAttempt_terminal (attempt : AttemptRecord) :
    isAttemptTerminal (recoveredAttempt attempt).state = true := by
  unfold recoveredAttempt
  split
  · assumption
  · rfl

theorem recoveredTrial_phase (record : ExperimentRecord R) (trial : TrialRecord) :
    isTerminal (record.recoveredTrial trial).state = true ∨
      ((record.recoveredTrial trial).state = .ready ∧
        (record.recoveredTrial trial).authoritativeAttempt = .null) := by
  unfold ExperimentRecord.recoveredTrial
  split
  · exact .inl ‹_›
  · unfold ExperimentRecord.resolvedTrial
    split
    · exact .inr ⟨rfl, rfl⟩
    · exact .inl rfl

/-- Recovery completes no trial. -/
theorem recoveredTrial_completed (record : ExperimentRecord R) (trial : TrialRecord) :
    (record.recoveredTrial trial).state = .completed ↔ trial.state = .completed := by
  unfold ExperimentRecord.recoveredTrial
  split
  · rfl
  · rename_i isOpen
    have unfinished : trial.state ≠ .completed := fun done => by simp [done, isTerminal] at isOpen
    unfold ExperimentRecord.resolvedTrial
    split <;> simp [unfinished]

theorem recoveredTrial_kept (record : ExperimentRecord R) (trial : TrialRecord) :
    (record.recoveredTrial trial).id = trial.id ∧
      (record.recoveredTrial trial).branch = trial.branch ∧
      (record.recoveredTrial trial).committedAttempts = trial.committedAttempts := by
  unfold ExperimentRecord.recoveredTrial
  split
  · exact ⟨rfl, rfl, rfl⟩
  · unfold ExperimentRecord.resolvedTrial
    split <;> exact ⟨rfl, rfl, rfl⟩

theorem recoveredAttempt_kept (attempt : AttemptRecord) :
    (recoveredAttempt attempt).id = attempt.id ∧ (recoveredAttempt attempt).trial = attempt.trial ∧
      (recoveredAttempt attempt).branch = attempt.branch ∧
      (recoveredAttempt attempt).committed = attempt.committed := by
  unfold recoveredAttempt
  split <;> exact ⟨rfl, rfl, rfl, rfl⟩

/-- A recovered record satisfies the invariant that holds between operations. -/
theorem Recoverable.recovered {marks : Watermarks} {record : ExperimentRecord R}
    (saved : Recoverable marks record) : Lifecycle marks record.recovered := by
  have attemptLookup : ∀ id attempt', record.recovered.attempts.find? id = some attempt' →
      ∃ attempt, record.attempts.find? id = some attempt ∧ recoveredAttempt attempt = attempt' := by
    intro id attempt' found
    simpa [ExperimentRecord.recovered] using found
  refine ⟨⟨?_, ?_, ?_, ?_, ?_⟩, ?_⟩
  · intro key trial' found
    obtain ⟨trial, before, -⟩ :=
      Option.map_eq_some_iff.mp (by simpa [ExperimentRecord.recovered] using found)
    exact saved.trialBound key trial before
  · intro id attempt' found
    obtain ⟨attempt, before, rfl⟩ := attemptLookup id attempt' found
    exact (recoveredAttempt_kept attempt).1.trans (saved.attemptId id attempt before)
  · intro id attempt' found
    obtain ⟨attempt, before, -⟩ := attemptLookup id attempt' found
    exact saved.attemptValid id attempt before
  · intro id attempt' found
    obtain ⟨attempt, before, -⟩ := attemptLookup id attempt' found
    exact saved.attemptBound id attempt before
  · intro id attempt' found
    obtain ⟨attempt, before, rfl⟩ := attemptLookup id attempt' found
    obtain ⟨trial, held⟩ := saved.attemptTrial id attempt before
    exact ⟨_, by simp [ExperimentRecord.recovered, (recoveredAttempt_kept attempt).2.1, held]; rfl⟩
  · intro key trial' found
    obtain ⟨trial, before, rfl⟩ :=
      Option.map_eq_some_iff.mp (by simpa [ExperimentRecord.recovered] using found)
    have cell := saved.trial key trial before
    obtain ⟨sameId, sameBranch, sameCount⟩ := recoveredTrial_kept record.reopened trial
    have finished := recoveredTrial_completed record.reopened trial
    have phase := recoveredTrial_phase record.reopened trial
    have unchanged : trial.state = .completed →
        record.reopened.recoveredTrial trial = trial := fun done =>
      if_pos (by simp [done, isTerminal])
    have ended : ∀ id attempt', record.recovered.attempts.find? id = some attempt' →
        isAttemptTerminal attempt'.state = true := by
      intro id attempt' found
      obtain ⟨attempt, -, rfl⟩ := attemptLookup id attempt' found
      exact recoveredAttempt_terminal attempt
    refine ⟨⟨sameId.trans cell.id, ?_, ?_, ?_, ?_, ?_⟩, ?_, ?_, ?_, ?_⟩
    · intro id attempt' found named
      obtain ⟨attempt, before, rfl⟩ := attemptLookup id attempt' found
      obtain ⟨-, sameTrial, attemptBranch, -⟩ := recoveredAttempt_kept attempt
      rw [attemptBranch, sameBranch]
      exact cell.branch id attempt before (sameTrial.symm.trans named)
    · intro id attempt' found named isOpen
      simp [ended id attempt' found] at isOpen
    · intro id attempt' found named committed
      obtain ⟨attempt, before, rfl⟩ := attemptLookup id attempt' found
      obtain ⟨-, sameTrial, -, sameCommitted⟩ := recoveredAttempt_kept attempt
      obtain ⟨attemptDone, trialDone, authoritative⟩ := cell.committed id attempt before
        (sameTrial.symm.trans named) (sameCommitted.symm.trans committed)
      rw [unchanged trialDone, recoveredAttempt,
        if_pos (by simp [attemptDone, isAttemptTerminal])]
      exact ⟨attemptDone, trialDone, authoritative⟩
    · intro done
      obtain ⟨attempt, before, named, committed⟩ := cell.completed (finished.mp done)
      rw [unchanged (finished.mp done)]
      obtain ⟨-, sameTrial, -, sameCommitted⟩ := recoveredAttempt_kept attempt
      exact ⟨recoveredAttempt attempt, by simp [ExperimentRecord.recovered, before],
        sameTrial.trans named, sameCommitted.trans committed⟩
    · rw [sameCount, cell.count]
      simp only [finished]
    · intro id attempt' found named isOpen
      simp [ended id attempt' found] at isOpen
    · intro held
      rcases phase with closed | ⟨ready, -⟩
      · simp [isTerminal_of_isHeld held] at closed
      · simp [ready, isHeld] at held
    · intro ready
      rcases phase with closed | ⟨-, null⟩
      · simp [ready, isTerminal] at closed
      · exact null
    · exact phase.imp id fun ready => .inr ready.1

/-! ## Records that differ in sequence numbers only -/

theorem forget_trial {record other : ExperimentRecord R} (same : record.forget = other.forget)
    {key : TrialId} {trial : TrialRecord} (found : record.trials.find? key = some trial) :
    ∃ trial', other.trials.find? key = some trial' ∧ trial'.unsequenced = trial.unsequenced := by
  have lookup := congrArg (fun forgotten => forgotten.trials.find? key) same
  simp only [ExperimentRecord.forget, OrderedMap.find?_mapValues, found, Option.map_some] at lookup
  obtain ⟨trial', found', equal⟩ := Option.map_eq_some_iff.mp lookup.symm
  exact ⟨trial', found', equal⟩

theorem forget_attempt {record other : ExperimentRecord R} (same : record.forget = other.forget)
    {key : TrialAttemptId} {attempt : AttemptRecord}
    (found : record.attempts.find? key = some attempt) :
    ∃ attempt', other.attempts.find? key = some attempt' ∧
      attempt'.unsequenced = attempt.unsequenced := by
  have lookup := congrArg (fun forgotten => forgotten.attempts.find? key) same
  simp only [ExperimentRecord.forget, OrderedMap.find?_mapValues, found, Option.map_some] at lookup
  obtain ⟨attempt', found', equal⟩ := Option.map_eq_some_iff.mp lookup.symm
  exact ⟨attempt', found', equal⟩

theorem samePhase_of_unsequenced {trial trial' : TrialRecord}
    (same : trial.unsequenced = trial'.unsequenced) : SamePhase trial trial' := by
  obtain ⟨⟩ := trial
  obtain ⟨⟩ := trial'
  simp only [TrialRecord.unsequenced, TrialRecord.mk.injEq] at same
  obtain ⟨id, -, -, branch, -, -, -, -, -, state, authoritative, -, -, committed, -⟩ := same
  exact ⟨id.symm, branch.symm, state.symm, authoritative.symm, committed.symm⟩

/-- The lifecycle fields of an attempt. -/
def AttemptRecord.view (attempt : AttemptRecord) :
    TrialAttemptId × TrialId × BranchId × Bool × AttemptState :=
  (attempt.id, attempt.trial, attempt.branch, attempt.committed, attempt.state)

/-- The invariant of a trial reads only the lifecycle fields of the attempts. -/
theorem Cell.ofView {attempts attempts' : OrderedMap TrialAttemptId AttemptRecord} {key : TrialId}
    {trial : TrialRecord} (cell : Cell attempts key trial)
    (forward : ∀ id attempt, attempts.find? id = some attempt → ∃ attempt',
      attempts'.find? id = some attempt' ∧ attempt'.view = attempt.view)
    (backward : ∀ id attempt', attempts'.find? id = some attempt' → ∃ attempt,
      attempts.find? id = some attempt ∧ attempt'.view = attempt.view) :
    Cell attempts' key trial := by
  simp only [AttemptRecord.view, Prod.mk.injEq] at forward backward
  refine ⟨⟨cell.id, ?_, ?_, ?_, ?_, cell.count⟩, ?_, ?_, cell.ready, cell.phase⟩
  · intro id attempt' found named
    obtain ⟨attempt, before, -, sameTrial, branch, -⟩ := backward id attempt' found
    exact branch.trans (cell.branch id attempt before (sameTrial.symm.trans named))
  · intro id attempt' found named isOpen
    obtain ⟨attempt, before, -, sameTrial, -, -, state⟩ := backward id attempt' found
    exact cell.trialOpen id attempt before (sameTrial.symm.trans named) (state ▸ isOpen)
  · intro id attempt' found named committed
    obtain ⟨attempt, before, -, sameTrial, -, sameCommitted, state⟩ := backward id attempt' found
    rw [state]
    exact cell.committed id attempt before (sameTrial.symm.trans named)
      (sameCommitted.symm.trans committed)
  · intro done
    obtain ⟨attempt, before, named, committed⟩ := cell.completed done
    obtain ⟨attempt', found, -, sameTrial, -, sameCommitted, -⟩ := forward _ attempt before
    exact ⟨attempt', found, sameTrial.trans named, sameCommitted.trans committed⟩
  · intro id attempt' found named isOpen
    obtain ⟨attempt, before, -, sameTrial, -, -, state⟩ := backward id attempt' found
    exact cell.live id attempt before (sameTrial.symm.trans named) (state ▸ isOpen)
  · intro held
    obtain ⟨attempt, before, named, isOpen⟩ := cell.held held
    obtain ⟨attempt', found, -, sameTrial, -, -, state⟩ := forward _ attempt before
    exact ⟨attempt', found, sameTrial.trans named, state ▸ isOpen⟩

theorem view_of_unsequenced {attempt attempt' : AttemptRecord}
    (same : attempt.unsequenced = attempt'.unsequenced) : attempt.view = attempt'.view := by
  have viewed : ∀ record : AttemptRecord, record.view = record.unsequenced.view := fun _ => rfl
  rw [viewed attempt, viewed attempt', same]

theorem Lifecycle.of_forget_eq {marks : Watermarks} {record other : ExperimentRecord R}
    (life : Lifecycle marks other) (same : record.forget = other.forget) :
    Lifecycle marks record := by
  have backward : ∀ id attempt, record.attempts.find? id = some attempt → ∃ attempt',
      other.attempts.find? id = some attempt' ∧ attempt.view = attempt'.view := by
    intro id attempt found
    obtain ⟨attempt', found', equal⟩ := forget_attempt same found
    exact ⟨attempt', found', view_of_unsequenced equal.symm⟩
  have forward : ∀ id attempt', other.attempts.find? id = some attempt' → ∃ attempt,
      record.attempts.find? id = some attempt ∧ attempt.view = attempt'.view := by
    intro id attempt' found
    obtain ⟨attempt, found', equal⟩ := forget_attempt same.symm found
    exact ⟨attempt, found', view_of_unsequenced equal⟩
  refine ⟨⟨?_, ?_, ?_, ?_, ?_⟩, ?_⟩
  · intro key trial found
    obtain ⟨trial', found', -⟩ := forget_trial same found
    exact life.trialBound key trial' found'
  · intro id attempt found
    obtain ⟨attempt', found', equal⟩ := backward id attempt found
    exact (congrArg Prod.fst equal).trans (life.attemptId id attempt' found')
  · intro id attempt found
    obtain ⟨attempt', found', -⟩ := backward id attempt found
    exact life.attemptValid id attempt' found'
  · intro id attempt found
    obtain ⟨attempt', found', -⟩ := backward id attempt found
    exact life.attemptBound id attempt' found'
  · intro id attempt found
    obtain ⟨attempt', found', equal⟩ := backward id attempt found
    have sameTrial : attempt.trial = attempt'.trial := congrArg (·.2.1) equal
    obtain ⟨trial', held⟩ := life.attemptTrial id attempt' found'
    obtain ⟨trial, held', -⟩ := forget_trial same.symm held
    exact ⟨trial, sameTrial ▸ held'⟩
  · intro key trial found
    obtain ⟨trial', found', equal⟩ := forget_trial same found
    exact ((life.trial key trial' found').samePhase (samePhase_of_unsequenced equal)).ofView
      forward backward

end ExperimentFabric
