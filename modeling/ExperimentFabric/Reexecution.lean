import ExperimentFabric.RefusedEvidence
import ExperimentFabric.Revalidation

/-!
# Running a restored generation again

A record that passed the validator still passes it with one more trial, so a trial is created whenever
its guard admits it and the state has room.  The guard counts every trial of the generation against
the plan of its branch, and a rollback brings the old trials of the generation back into that count.
-/

namespace ExperimentFabric

open Lib Validation

variable {R : Type}

/-! ## One more trial -/

/-- The record with one more trial, before the event is logged. -/
def ExperimentRecord.withTrial (record : ExperimentRecord R) (added : TrialRecord) :
    ExperimentRecord R :=
  { record with trials := record.trials.emplace added.id added }

section Trial

variable {record : ExperimentRecord R} {added : TrialRecord} {limits : Limits} {context : Text}

/-- Whatever is stored under a key stays stored when a trial is added. -/
theorem withTrial_kept {key : TrialId} (present : (record.trials.find? key).isSome = true) :
    ((record.withTrial added).trials.find? key).isSome = true := by
  unfold ExperimentRecord.withTrial
  rw [OrderedMap.find?_emplace]
  split
  · rfl
  · exact present

theorem withTrial_size (absent : record.trials.find? added.id = none) :
    (record.withTrial added).trials.size = record.trials.size + 1 := by
  have size := record.trials.size_assign added.id added
  rw [absent, ← OrderedMap.emplace_absent absent] at size
  exact size

theorem withTrial_values (absent : record.trials.find? added.id = none) :
    ∃ front back, record.trials.values = front ++ back ∧
      (record.withTrial added).trials.values = front ++ added :: back :=
  OrderedMap.values_emplace absent added

/-- A trial of the record with one more trial is the new one or an old one. -/
theorem mem_withTrial {trial : TrialRecord} (absent : record.trials.find? added.id = none)
    (member : trial ∈ (record.withTrial added).trials.values) :
    trial = added ∨ trial ∈ record.trials.values := by
  obtain ⟨front, back, held, grown⟩ := withTrial_values absent
  rw [grown] at member
  rw [held]
  rcases List.mem_append.mp member with before | later
  · exact .inr (List.mem_append_left back before)
  · rcases List.mem_cons.mp later with same | after
    · exact .inl same
    · exact .inr (List.mem_append_right front after)

/-- A binding of the record with one more trial is the new one or an old one. -/
theorem withTrial_entries {entry : TrialId × TrialRecord}
    (absent : record.trials.find? added.id = none)
    (member : entry ∈ (record.withTrial added).trials.entries) :
    entry = (added.id, added) ∨ entry ∈ record.trials.entries := by
  obtain ⟨key, stored⟩ := entry
  have found := (OrderedMap.mem_entries_iff _ _ _).mp member
  rw [ExperimentRecord.withTrial, OrderedMap.find?_emplace, absent, Option.getD_none] at found
  split at found
  · rename_i same
    rw [same, Option.some.inj found]
    exact .inl rfl
  · exact .inr ((OrderedMap.mem_entries_iff _ _ _).mpr found)

/-- The trial carries what a trial of the record is created with. -/
structure ExperimentRecord.Creates (record : ExperimentRecord R) (added : TrialRecord) : Prop where
  branch : added.branch ∈ record.definition.branches.map BranchDefinition.id
  generation : added.generation = record.definition.generation
  hypothesis : added.hypothesis = record.definition.hypothesis
  attempts : added.attemptCount = 0
  committed : added.committedAttempts = 0
  authority : added.authoritativeAttempt = .null
  artifacts : added.artifacts = []

theorem validateTrials_withTrial (valid : validateTrials record limits context = .ok ())
    (generation : generationInRange record.definition.generation = true)
    (absent : record.trials.find? added.id = none) (creates : record.Creates added)
    (room : record.trials.size < record.definition.branches.length * limits.maxTrialsPerBranch) :
    validateTrials (record.withTrial added) limits context = .ok () := by
  obtain ⟨front, back, held, grown⟩ := withTrial_values absent
  have size := withTrial_size absent
  simp only [validateTrials, sequence_cons_eq_ok, sequence_nil, and_true, require_eq_ok,
    forEach_eq_ok, decide_eq_true_eq] at valid ⊢
  obtain ⟨-, trials, attempts, attempt, committed, authority⟩ := valid
  rw [size]
  refine ⟨room, ?_, ?_, ?_, ?_, ?_⟩
  · intro entry member
    rcases withTrial_entries absent member with rfl | before
    · refine ⟨rfl, creates.branch, ?_, creates.hypothesis, ?_, ?_⟩
      · rw [creates.generation]
        exact generation
      · rw [creates.attempts]
        exact Nat.zero_le _
      · rw [creates.committed]
        exact Nat.zero_le _
    · exact trials entry before
  · exact attempts.trans (Nat.mul_le_mul_right _ (Nat.le_succ _))
  · intro entry member
    obtain ⟨identity, known, number⟩ := attempt entry member
    exact ⟨identity, withTrial_kept known, number⟩
  · change record.attempts.values.countP AttemptRecord.committed = _
    rw [committed, held, grown]
    simp [creates.committed]
  · intro trial member
    rcases mem_withTrial absent member with rfl | before
    · rw [creates.authority]
      rfl
    · exact authority trial before

theorem addTrial_bare (record : ExperimentRecord R) (added : TrialRecord) :
    (record.addTrial added).bare = (record.withTrial added).bare := by
  unfold ExperimentRecord.addTrial ExperimentRecord.withTrial ExperimentRecord.log
    ExperimentRecord.bare
  rfl

/-- A record that passed the validator passes it with one more trial. -/
theorem validateExperimentRecord_withTrial [MetricReal R] {id : ExperimentId}
    (valid : validateExperimentRecord record limits id = .ok ())
    (absent : record.trials.find? added.id = none) (creates : record.Creates added)
    (room : record.trials.size < record.definition.branches.length * limits.maxTrialsPerBranch) :
    validateExperimentRecord (record.withTrial added) limits id = .ok () := by
  simp only [validateExperimentRecord, sequence_cons_eq_ok, sequence_nil, and_true] at valid ⊢
  obtain ⟨definition, trials, sizes, observations, artifacts, decisions, points⟩ := valid
  have generation : generationInRange record.definition.generation = true := by
    simp only [validateDefinition, sequence_cons_eq_ok, require_eq_ok] at definition
    exact definition.2.1
  refine ⟨definition, validateTrials_withTrial trials generation absent creates room, sizes, ?_, ?_,
    decisions, points⟩
  · simp only [validateObservations, sequence_cons_eq_ok, sequence_nil, and_true, require_eq_ok,
      scan_eq_ok, forEach_eq_ok] at observations ⊢
    refine ⟨fun front observation back split => ?_, observations.2⟩
    obtain ⟨null, fresh, known, rest⟩ := observations.1 front observation back split
    exact ⟨null, fresh, withTrial_kept known, rest⟩
  · simp only [validateArtifacts, sequence_cons_eq_ok, sequence_nil, and_true, require_eq_ok,
      scan_eq_ok, forEach_eq_ok, decide_eq_true_eq] at artifacts ⊢
    refine ⟨fun front artifact back split => ?_, fun trial member artifact listed => ?_⟩
    · obtain ⟨null, fresh, known, rest⟩ := artifacts.1 front artifact back split
      exact ⟨null, fresh, withTrial_kept known, rest⟩
    · rcases mem_withTrial absent member with rfl | before
      · rw [creates.artifacts] at listed
        cases listed
      · exact artifacts.2 trial before artifact listed

end Trial

/-! ## Creating a trial -/

section Create

variable [MetricReal R] {c : Coordinator R} {experiment : ExperimentId} {branch : BranchId}
  {payload : Text} {record : ExperimentRecord R} {definition : BranchDefinition}

omit [MetricReal R] in
theorem addTrial_recordCount {added : TrialRecord}
    (absent : record.trials.find? added.id = none) :
    (record.addTrial added).recordCount = record.recordCount + (1 + record.logGrowth) := by
  have logged : (record.addTrial added).recordCount =
      (record.withTrial added).recordCount + record.logGrowth := log_recordCount _ _
  have size := withTrial_size absent
  simp only [ExperimentRecord.recordCount, size] at logged ⊢
  simp only [ExperimentRecord.withTrial] at logged
  omega

omit [MetricReal R] in
theorem newTrial_creates (found : record.findBranch branch = some definition) (trial : TrialId)
    (sequence : Nat) :
    record.Creates (record.newTrial experiment definition trial payload sequence) where
  branch := List.mem_map_of_mem (List.mem_of_find?_eq_some found)
  generation := rfl
  hypothesis := rfl
  attempts := rfl
  committed := rfl
  authority := rfl
  artifacts := rfl

/-- A branch of an open experiment that can run more trials, within the bounds other than its plan. -/
structure Coordinator.Executable (c : Coordinator R) (payload : Text) (record : ExperimentRecord R)
    (definition : BranchDefinition) : Prop where
  opened : record.state = .opened
  active : definition.state = .active
  payload : payload.length ≤ c.limits.maxPayloadTextLength
  room : record.trials.size < record.definition.branches.length * c.limits.maxTrialsPerBranch

omit [MetricReal R] in
/-- The guard admits a trial on an executable branch exactly when its plan has room for it. -/
theorem createTrialGuard_iff (found : c.findExperiment experiment = some record)
    (branchFound : record.findBranch branch = some definition)
    (executable : c.Executable payload record definition) :
    c.createTrialGuard experiment branch payload = .ok (record, definition) ↔
      record.plannedTrialsHeld branch < definition.plannedTrials := by
  simp only [Coordinator.createTrialGuard, demand_bind_eq_ok, require_bind_eq_ok,
    isExperimentMutable, isBranchEligible, decide_eq_true_eq]
  constructor
  · rintro ⟨_, lookup, -, _, branchLookup, -, -, planned, -⟩
    obtain rfl := Option.some.inj (found.symm.trans lookup)
    obtain rfl := Option.some.inj (branchFound.symm.trans branchLookup)
    exact planned
  · intro planned
    exact ⟨record, found, executable.opened, definition, branchFound, executable.active,
      executable.payload, planned, executable.room, rfl⟩

/-- A trial can be created on an executable branch of a valid record exactly when its plan and the
state have room for it. -/
theorem createTrial_ok_iff
    (valid : validateExperimentRecord record c.limits experiment = .ok ())
    (found : c.findExperiment experiment = some record)
    (fresh : record.trials.find? ⟨c.state.watermarks.trial + 1⟩ = none)
    (branchFound : record.findBranch branch = some definition)
    (executable : c.Executable payload record definition) :
    (∃ trial, (c.createTrial experiment branch payload none).2 = .ok trial) ↔
      record.plannedTrialsHeld branch < definition.plannedTrials ∧
        c.Fits (1 + record.logGrowth) := by
  rw [← createTrialGuard_iff found branchFound executable]
  cases guarded : c.createTrialGuard experiment branch payload with
  | error failure => simp [Coordinator.createTrial, guarded]
  | ok admitted =>
      obtain ⟨held, declared⟩ := admitted
      have allowed := Coordinator.createTrialGuard_ok guarded
      obtain rfl := Option.some.inj (found.symm.trans allowed.found)
      obtain rfl := Option.some.inj (branchFound.symm.trans allowed.branchFound)
      let added := record.newTrial experiment definition ⟨c.state.watermarks.trial + 1⟩ payload
        (c.currentSequence + 1)
      have accepted : validateExperimentRecord (record.addTrial added) c.limits experiment =
          .ok () := by
        rw [← validateExperimentRecord_bare, addTrial_bare, validateExperimentRecord_bare]
        exact validateExperimentRecord_withTrial valid fresh (newTrial_creates branchFound _ _)
          executable.room
      have grown : (record.addTrial added).recordCount =
          record.recordCount + (1 + record.logGrowth) := addTrial_recordCount fresh
      have savable : (c.nextSequence.allocTrialId.withRecord experiment
          (record.addTrial added)).Savable none ↔ c.Fits (1 + record.logGrowth) :=
        Coordinator.savable_iff_fits found rfl rfl rfl rfl grown
      have answer : c.createTrial experiment branch payload none =
          (c.nextSequence.allocTrialId.withRecord experiment (record.addTrial added)).settle none
            (Coordinator.undoTrial experiment (record.addTrial added)
              ⟨c.state.watermarks.trial + 1⟩) ⟨c.state.watermarks.trial + 1⟩ := by
        rw [Coordinator.createTrial, guarded]
        dsimp only
        split
        · rename_i failure refused
          exact nomatch accepted.symm.trans refused
        · rfl
      rw [answer, ← savable, eq_self, true_and]
      constructor
      · rintro ⟨trial, succeeded⟩
        rw [Coordinator.settle_value _ _ succeeded] at succeeded
        exact (Coordinator.settle_ok_iff ..).mp succeeded
      · intro saves
        exact ⟨_, (Coordinator.settle_ok_iff ..).mpr saves⟩

end Create

/-! ## After a rollback -/

section Rollback

variable [CanonicalDigests R] {c : Coordinator R} {experiment : ExperimentId}
  {target : ExperimentGeneration} {reason : Text} {fault : Option SaveFault}

/-- Trials of a branch that carry a generation, whatever became of them. -/
def ExperimentRecord.trialsAt (record : ExperimentRecord R) (generation : ExperimentGeneration)
    (branch : BranchId) : Nat :=
  record.trials.values.countP fun trial =>
    trial.branch = branch && trial.generation = generation

/-- A rollback brings the trials of the target generation back into the count of the plan. -/
theorem rollback_plannedTrialsHeld (record : ExperimentRecord R) (experiment : ExperimentId)
    (chosen : RollbackPoint) (point : RollbackPointId) (reason : Text) (sequence : Nat)
    (branch : BranchId) :
    (record.rollback experiment chosen point reason sequence).plannedTrialsHeld branch =
      record.trialsAt chosen.generation branch := by
  have closed : (record.rollback experiment chosen point reason sequence).trials.values =
      record.trials.values.map (closeTrial (fun _ => true) .superseded .experimentInvalidation
        (text "superseded by an experiment generation change") sequence) :=
    OrderedMap.values_mapValues ..
  unfold ExperimentRecord.plannedTrialsHeld ExperimentRecord.trialsAt
  rw [closed, List.countP_map]
  refine List.countP_congr fun trial _ => ?_
  rw [Function.comp_apply]
  unfold closeTrial
  split <;> rfl

variable [MetricReal R]

/-- From every reachable state and after every rollback that succeeds, a trial can be created on an
active branch that lacks authoritative trials exactly when the branch has fewer trials of the restored
generation than it plans, whatever became of them, and the state has room. -/
theorem restored_executable_iff {path : Text} (reachable : (World.running c).Reachable path)
    (succeeded : (c.rollback experiment target reason fault).2 = .ok ()) :
    ∃ record after, c.findExperiment experiment = some record ∧
      (c.rollback experiment target reason fault).1.findExperiment experiment = some after ∧
      ∀ branch definition payload, after.findBranch branch = some definition →
        definition.state = .active →
        (after.authoritativeTrials branch).length < definition.plannedTrials →
        payload.length ≤ c.limits.maxPayloadTextLength →
        after.trials.size < after.definition.branches.length * c.limits.maxTrialsPerBranch →
        ((∃ trial, ((c.rollback experiment target reason fault).1.createTrial experiment branch
            payload none).2 = .ok trial) ↔
          record.trialsAt target branch < definition.plannedTrials ∧
            (c.rollback experiment target reason fault).1.Fits (1 + after.logGrowth)) := by
  obtain ⟨record, chosen, guarded, valid, state⟩ := Coordinator.rollback_succeeded succeeded
  have allowed := Coordinator.rollbackGuard_ok guarded
  have charted := (reachable.holds charted_invariant.durable).1 experiment record allowed.found
  have restored := charted.rolledBack
    (rollbackTarget_last (Coordinator.rollbackGuard_target guarded)) allowed.notCancelled
    (validateExperimentRecord_points valid)
  have left : (c.rollback experiment target reason fault).1.findExperiment experiment =
      some (record.rollback experiment chosen ⟨c.state.watermarks.rollback + 1⟩ reason
        (c.currentSequence + 1)) :=
    (congrArg (fun state => state.experiments.find? experiment) state).trans
      (OrderedMap.find?_assign_self ..)
  have next : (World.running (c.rollback experiment target reason fault).1).Reachable path :=
    reachable.step (.request c (.rollback experiment target reason) fault)
  have limits : (c.rollback experiment target reason fault).1.limits = c.limits :=
    congrArg Config.limits (c.perform_operated (.rollback experiment target reason) fault).config
  have held := rollback_plannedTrialsHeld record experiment chosen
    ⟨c.state.watermarks.rollback + 1⟩ reason (c.currentSequence + 1)
  rw [allowed.generation] at held
  refine ⟨record, _, allowed.found, left, ?_⟩
  generalize record.rollback experiment chosen ⟨c.state.watermarks.rollback + 1⟩ reason
    (c.currentSequence + 1) = after at *
  intro branch definition payload branchFound active _ payloadFits room
  have life := next.sound.2.1 experiment after left
  have fresh : after.trials.find? ⟨(c.rollback experiment target reason
      fault).1.state.watermarks.trial + 1⟩ = none := by
    cases bound : after.trials.find? ⟨(c.rollback experiment target reason
        fault).1.state.watermarks.trial + 1⟩ with
    | none => rfl
    | some trial => exact absurd (life.trialBound _ trial bound) (Nat.not_succ_le_self _)
  rw [← held]
  exact createTrial_ok_iff (limits ▸ valid) left fresh branchFound
    ⟨restored.opened, active, limits ▸ payloadFits, limits ▸ room⟩

end Rollback

/-- The sample returns to a generation in which its candidate never ran. -/
theorem restored_executable_sample : ∃ record after,
    Sample.concluded.findExperiment Sample.experiment = some record ∧
    (Sample.concluded.rollback Sample.experiment ⟨1⟩ [] none).1.findExperiment Sample.experiment =
      some after ∧
    ∀ branch definition payload, after.findBranch branch = some definition →
      definition.state = .active →
      (after.authoritativeTrials branch).length < definition.plannedTrials →
      payload.length ≤ Sample.concluded.limits.maxPayloadTextLength →
      after.trials.size <
        after.definition.branches.length * Sample.concluded.limits.maxTrialsPerBranch →
      ((∃ trial, ((Sample.concluded.rollback Sample.experiment ⟨1⟩ [] none).1.createTrial
          Sample.experiment branch payload none).2 = .ok trial) ↔
        record.trialsAt ⟨1⟩ branch < definition.plannedTrials ∧
          (Sample.concluded.rollback Sample.experiment ⟨1⟩ [] none).1.Fits (1 + after.logGrowth)) := by
  have succeeded : (Sample.concluded.rollback Sample.experiment ⟨1⟩ [] none).2 = .ok () :=
    eq_ok_of_isOk (by decide +kernel)
  exact restored_executable_iff Sample.concluded_reachable succeeded

/-- The trial that was superseded before the rollback takes the place of a new one. -/
theorem restored_not_executable :
    (World.running Sample.concluded).Reachable Sample.config.statePath ∧
    (Sample.concluded.rollback Sample.experiment ⟨1⟩ [] none).2 = .ok () ∧
    ∃ record after definition,
      Sample.concluded.findExperiment Sample.experiment = some record ∧
      validateExperimentRecord record Sample.concluded.limits Sample.experiment = .ok () ∧
      (Sample.concluded.rollback Sample.experiment ⟨1⟩ [] none).1.findExperiment
        Sample.experiment = some after ∧
      after.findBranch Sample.candidate = some definition ∧ definition.state = .active ∧
      (after.authoritativeTrials Sample.candidate).length < definition.plannedTrials ∧
      ([] : Text).length ≤ Sample.concluded.limits.maxPayloadTextLength ∧
      after.trials.size <
        after.definition.branches.length * Sample.concluded.limits.maxTrialsPerBranch ∧
      ((Sample.concluded.rollback Sample.experiment ⟨1⟩ [] none).1.createTrial Sample.experiment
        Sample.candidate [] none).2.isOk = false := by
  have facts : (Sample.concluded.findExperiment Sample.experiment).any (fun record =>
      ((Sample.concluded.rollback Sample.experiment ⟨1⟩ [] none).1.findExperiment
        Sample.experiment).any fun after => (after.findBranch Sample.candidate).any fun definition =>
          (validateExperimentRecord record Sample.concluded.limits Sample.experiment).isOk &&
          definition.state = .active &&
          (after.authoritativeTrials Sample.candidate).length < definition.plannedTrials &&
          after.trials.size <
            after.definition.branches.length * Sample.concluded.limits.maxTrialsPerBranch) =
        true := by decide +kernel
  obtain ⟨record, found, facts⟩ := (Option.any_eq_true _ _).mp facts
  obtain ⟨after, left, facts⟩ := (Option.any_eq_true _ _).mp facts
  obtain ⟨definition, branchFound, facts⟩ := (Option.any_eq_true _ _).mp facts
  simp only [Bool.and_eq_true, decide_eq_true_eq] at facts
  obtain ⟨⟨⟨valid, active⟩, fewer⟩, room⟩ := facts
  exact ⟨Sample.concluded_reachable, eq_ok_of_isOk (by decide +kernel), record, after, definition,
    found, eq_ok_of_isOk valid, left, branchFound, active, fewer, Nat.zero_le _, room,
    by decide +kernel⟩

end ExperimentFabric
