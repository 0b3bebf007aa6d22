import ExperimentFabric.Restoration
import ExperimentFabric.StaleEvidence

/-!
# Evidence after a rollback

Authority is read off generation and revision numbers, and a rollback sets the generation numbers
back.  A trial that was completed after the restored point is authoritative again exactly when it
carries the numbers that the rollback restores.
-/

namespace ExperimentFabric

open Lib

variable {R : Type}

/-! ## Restored generations -/

/-- The generation that a rollback point gives a branch. -/
def RollbackPoint.generationOf (point : RollbackPoint) (branch : BranchDefinition) :
    BranchGeneration :=
  match point.authority.find? (·.branch = branch.id) with
  | some snapshot => snapshot.generation
  | none => branch.generation

theorem restoredBranch_generation (point : RollbackPoint) (branch : BranchDefinition) :
    (restoredBranch point.authority branch).generation = point.generationOf branch := by
  have retired : (retireUnknown branch).generation = branch.generation := by
    unfold retireUnknown
    split <;> rfl
  unfold restoredBranch restateBranch RollbackPoint.generationOf
  cases found : point.authority.find? (·.branch = branch.id) with
  | none =>
      split
      · rfl
      · exact retired
  | some snapshot =>
      have named : snapshot.branch = branch.id := by
        have chosen := List.find?_some found
        exact of_decide_eq_true chosen
      have member : branch.id ∈ point.authority.map BranchAuthoritySnapshot.branch :=
        named ▸ List.mem_map_of_mem (List.mem_of_find?_eq_some found)
      rw [if_pos member]

/-- A trial that was completed after a rollback point with the numbers that returning to the point
restores. -/
structure ExperimentRecord.Outlasts (record : ExperimentRecord R) (point : RollbackPoint)
    (trial : TrialRecord) : Prop where
  later : point.sequence < trial.createdSequence
  completed : trial.state = .completed
  generation : trial.generation = point.generation
  hypothesis : trial.hypothesisRevision = record.definition.hypothesisRevision
  branch : ∀ branch, record.findBranch trial.branch = some branch →
    trial.branchGeneration = point.generationOf branch

section Record

variable {record : ExperimentRecord R}

/-- The authoritative trials of a branch are the stored trials that count for it. -/
theorem mem_authoritativeTrials_iff {branch : BranchId} {trial : TrialRecord} :
    trial ∈ record.authoritativeTrials branch ↔
      ∃ definition key, record.findBranch branch = some definition ∧
        record.trials.find? key = some trial ∧
        record.isAuthoritative definition trial = true := by
  unfold ExperimentRecord.authoritativeTrials
  cases found : record.findBranch branch with
  | none => simp
  | some definition =>
      simp only [List.mem_insertionSort, List.mem_filter, OrderedMap.mem_values_iff,
        Option.some.injEq]
      constructor
      · rintro ⟨⟨key, held⟩, counted⟩
        exact ⟨definition, key, rfl, held, counted⟩
      · rintro ⟨_, key, rfl, held, counted⟩
        exact ⟨⟨key, held⟩, counted⟩

variable [CanonicalDigests R] (experiment : ExperimentId) (chosen : RollbackPoint)
  (point : RollbackPointId) (reason : Text) (sequence : Nat)

/-- A rollback moves no trial out of a terminal state, and into one only by superseding it. -/
theorem rollback_ended {state : TrialState} (terminal : isTerminal state = true)
    (other : state ≠ .superseded) {key : TrialId} {trial : TrialRecord} :
    (record.rollback experiment chosen point reason sequence).trials.find? key = some trial ∧
        trial.state = state ↔
      record.trials.find? key = some trial ∧ trial.state = state := by
  have closed : (record.rollback experiment chosen point reason sequence).trials.find? key =
      (record.trials.find? key).map (closeTrial (fun _ => true) .superseded
        .experimentInvalidation (text "superseded by an experiment generation change") sequence) :=
    OrderedMap.find?_mapValues ..
  rw [closed, Option.map_eq_some_iff]
  constructor
  · rintro ⟨⟨before, held, rfl⟩, ended⟩
    unfold closeTrial at ended ⊢
    split at ended
    · exact (other ended.symm).elim
    · rename_i spared
      rw [if_neg spared]
      exact ⟨held, ended⟩
  · rintro ⟨held, ended⟩
    refine ⟨⟨trial, held, ?_⟩, ended⟩
    unfold closeTrial
    rw [ended, terminal]
    rfl

/-- After a rollback, a trial is authoritative exactly when it was completed with the restored
numbers. -/
theorem rollback_authoritative_iff {marks : Watermarks} (life : Lifecycle marks record)
    (identified : Identified record)
    (distinct : (chosen.authority.map BranchAuthoritySnapshot.branch).Nodup)
    {branch : BranchId} {trial : TrialRecord} :
    trial ∈ (record.rollback experiment chosen point reason sequence).authoritativeTrials branch ↔
      ∃ key definition, record.trials.find? key = some trial ∧ trial.state = .completed ∧
        trial.branch = branch ∧ trial.generation = chosen.generation ∧
        trial.hypothesisRevision = record.definition.hypothesisRevision ∧
        record.findBranch branch = some definition ∧
        trial.branchGeneration = chosen.generationOf definition := by
  have lookup : (record.rollback experiment chosen point reason sequence).findBranch branch =
      (record.findBranch branch).map (restoredBranch chosen.authority) :=
    find?_restoreBranches distinct record.definition.branches branch
  rw [mem_authoritativeTrials_iff, lookup]
  simp only [Option.map_eq_some_iff, ExperimentRecord.isAuthoritative, Bool.and_eq_true,
    decide_eq_true_eq]
  constructor
  · rintro ⟨_, key, ⟨definition, found, rfl⟩, held,
      ⟨⟨⟨⟨⟨⟨named, completed⟩, -⟩, generation⟩, restored⟩, hypothesis⟩, -⟩, -⟩
    rw [restoredBranch_id] at named
    rw [restoredBranch_generation] at restored
    obtain ⟨held, -⟩ := (rollback_ended experiment chosen point reason sequence rfl (by decide)).mp
      ⟨held, completed⟩
    exact ⟨key, definition, held, completed, named.trans (ExperimentRecord.findBranch_id found),
      generation, hypothesis, found, restored⟩
  · rintro ⟨key, definition, held, completed, rfl, generation, hypothesis, found, restored⟩
    have cell := life.trial key trial held
    have committed : trial.committedAttempts = 1 := by
      rw [cell.count, if_pos completed]
    obtain ⟨policy, policyGeneration⟩ := identified.trialPolicy key trial held
    have after := ((rollback_ended experiment chosen point reason sequence rfl (by decide)).mpr
      ⟨held, completed⟩).1
    refine ⟨restoredBranch chosen.authority definition, key, ⟨definition, found, rfl⟩, after,
      ⟨⟨⟨⟨⟨⟨?_, completed⟩, committed⟩, generation⟩, ?_⟩, hypothesis⟩, policy⟩, policyGeneration⟩
    · rw [restoredBranch_id]
      exact (ExperimentRecord.findBranch_id found).symm
    · rw [restoredBranch_generation]
      exact restored

end Record

/-! ## Successful rollbacks -/

section Rollback

variable [MetricReal R] [CanonicalDigests R] {c : Coordinator R} {experiment : ExperimentId}
  {target : ExperimentGeneration} {reason : Text} {fault : Option SaveFault}

/-- From every reachable state, a rollback that succeeds leaves no authority to work after the point
it restored exactly when no trial outlasts that point. -/
theorem later_work_ends_iff {path : Text} (reachable : (World.running c).Reachable path)
    (succeeded : (c.rollback experiment target reason fault).2 = .ok ()) :
    ∃ record chosen after, c.findExperiment experiment = some record ∧
      Coordinator.rollbackTarget record target = some chosen ∧
      (c.rollback experiment target reason fault).1.findExperiment experiment = some after ∧
      ((∀ branch, ∀ trial ∈ after.authoritativeTrials branch,
          trial.createdSequence ≤ chosen.sequence) ↔
        ∀ key trial, record.trials.find? key = some trial → ¬ record.Outlasts chosen trial) := by
  obtain ⟨record, chosen, guarded, valid, state⟩ := Coordinator.rollback_succeeded succeeded
  have allowed := Coordinator.rollbackGuard_ok guarded
  have charted := (reachable.holds charted_invariant.durable).1 experiment record allowed.found
  have distinct := charted.points chosen allowed.member
  have life := reachable.sound.2.1 experiment record allowed.found
  have identified := reachable.identified allowed.found
  refine ⟨record, chosen, _, allowed.found, Coordinator.rollbackGuard_target guarded,
    (congrArg (fun state => state.experiments.find? experiment) state).trans
      (OrderedMap.find?_assign_self ..), ?_⟩
  constructor
  · intro ended key trial held outlasts
    obtain ⟨definition, found, -⟩ := identified.environment key trial held
    have authoritative := (rollback_authoritative_iff experiment chosen
      ⟨c.state.watermarks.rollback + 1⟩ reason (c.currentSequence + 1) life identified
      distinct).mpr ⟨key, definition, held, outlasts.completed, rfl, outlasts.generation,
        outlasts.hypothesis, found, outlasts.branch definition found⟩
    have bounded := ended trial.branch trial authoritative
    exact absurd outlasts.later (Nat.not_lt.mpr bounded)
  · intro none branch trial member
    obtain ⟨key, definition, held, completed, rfl, generation, hypothesis, found, restored⟩ :=
      (rollback_authoritative_iff experiment chosen ⟨c.state.watermarks.rollback + 1⟩ reason
        (c.currentSequence + 1) life identified distinct).mp member
    by_contra later
    refine none key trial held ⟨Nat.lt_of_not_le later, completed, generation, hypothesis, ?_⟩
    intro branch lookup
    rw [restored, Option.some.inj (found.symm.trans lookup)]

end Rollback

namespace Sample

/-- The first generation is returned to, a trial runs in it, and the second generation is returned
to. -/
def revisited : Coordinator ℚ :=
  coordinator.session [(.createExperiment spec, none),
    (.finalizeExperiment experiment baseline [], none), (.rollback experiment ⟨1⟩ [], none),
    (.reviseHypothesis experiment { statement := text "the candidate is smaller" }, none),
    (.finalizeExperiment experiment baseline [], none), (.rollback experiment ⟨1⟩ [], none),
    (.createTrial experiment candidate [], none), (.registerWorker { worker, boot }, none),
    (.claimTrials { epoch := coordinator.epoch, worker, boot }, none),
    (.publishObservation ⟨coordinator.epoch, worker, boot, observation⟩, none),
    (.commitTrial { epoch := coordinator.epoch, worker, boot, envelope := { envelope with
      hypothesisRevision := ⟨2⟩ } }, none),
    (.rollback experiment ⟨2⟩ [], none)]

theorem revisited_reachable : (World.running revisited).Reachable config.statePath :=
  coordinator_reachable.session _

end Sample

/-- The sample returns to its first generation. -/
theorem later_work_ends_sample : ∃ record chosen after,
    Sample.revisited.findExperiment Sample.experiment = some record ∧
    Coordinator.rollbackTarget record ⟨1⟩ = some chosen ∧
    (Sample.revisited.rollback Sample.experiment ⟨1⟩ [] none).1.findExperiment Sample.experiment =
      some after ∧
    ((∀ branch, ∀ trial ∈ after.authoritativeTrials branch,
        trial.createdSequence ≤ chosen.sequence) ↔
      ∀ key trial, record.trials.find? key = some trial → ¬ record.Outlasts chosen trial) := by
  have succeeded : (Sample.revisited.rollback Sample.experiment ⟨1⟩ [] none).2 = .ok () :=
    eq_ok_of_isOk (by decide +kernel)
  exact later_work_ends_iff Sample.revisited_reachable succeeded

/-- A trial that ran after the restored point is authoritative after the rollback. -/
theorem later_work_survives : (World.running Sample.revisited).Reachable Sample.config.statePath ∧
    (Sample.revisited.rollback Sample.experiment ⟨1⟩ [] none).2 = .ok () ∧
    ∃ record chosen after, Sample.revisited.findExperiment Sample.experiment = some record ∧
      Coordinator.rollbackTarget record ⟨1⟩ = some chosen ∧
      (Sample.revisited.rollback Sample.experiment ⟨1⟩ [] none).1.findExperiment
        Sample.experiment = some after ∧
      ∃ trial ∈ after.authoritativeTrials Sample.candidate,
        chosen.sequence < trial.createdSequence := by
  have facts : (Sample.revisited.findExperiment Sample.experiment).any (fun record =>
      (Coordinator.rollbackTarget record ⟨1⟩).any fun chosen =>
        ((Sample.revisited.rollback Sample.experiment ⟨1⟩ [] none).1.findExperiment
          Sample.experiment).any fun after =>
            (after.authoritativeTrials Sample.candidate).any fun trial =>
              chosen.sequence < trial.createdSequence) = true := by decide +kernel
  obtain ⟨record, found, facts⟩ := (Option.any_eq_true _ _).mp facts
  obtain ⟨chosen, target, facts⟩ := (Option.any_eq_true _ _).mp facts
  obtain ⟨after, left, facts⟩ := (Option.any_eq_true _ _).mp facts
  obtain ⟨trial, member, later⟩ := List.any_eq_true.mp facts
  exact ⟨Sample.revisited_reachable, eq_ok_of_isOk (by decide +kernel), record, chosen, after,
    found, target, left, trial, member, of_decide_eq_true later⟩

end ExperimentFabric
