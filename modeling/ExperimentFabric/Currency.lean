import ExperimentFabric.Authorization

/-!
# Current trials

A trial is current when it belongs to the generation, hypothesis revision and policy of its
experiment and to the generation of an active branch.  Claims and envelopes are compared with exactly
these, so an operation that moves one of them must close the trials it leaves behind.
-/

namespace ExperimentFabric

open Lib Relation

variable {R : Type}

theorem TrialRecord.branch_of_fixed {trial trial' : TrialRecord}
    (fixed : trial'.fixed = trial.fixed) : trial'.branch = trial.branch := by
  have same := congrArg TrialRecord.branch fixed
  exact same

/-- The trial belongs to what its experiment currently is. -/
structure ExperimentRecord.Current (record : ExperimentRecord R) (trial : TrialRecord) : Prop where
  generation : trial.generation = record.definition.generation
  hypothesisRevision : trial.hypothesisRevision = record.definition.hypothesisRevision
  policy : trial.policy = record.definition.policy.id
  policyGeneration : trial.policyGeneration = record.definition.policy.generation
  branch : ∃ branch, record.findBranch trial.branch = some branch ∧ branch.state = .active ∧
    branch.generation = trial.branchGeneration

/-- What the claim loop tests of a trial that it issues. -/
theorem claimable_current {record : ExperimentRecord R} {limits : Limits} {trial : TrialRecord}
    {branch : BranchDefinition} (claimable : record.claimable limits trial = some branch) :
    trial.generation = record.definition.generation ∧
      trial.hypothesisRevision = record.definition.hypothesisRevision ∧
      record.findBranch trial.branch = some branch ∧ branch.state = .active ∧
      branch.generation = trial.branchGeneration := by
  unfold ExperimentRecord.claimable at claimable
  split at claimable
  · cases claimable
  · rename_i same
    simp only [ne_eq, Bool.or_eq_true, decide_eq_true_eq, not_or, not_not] at same
    split at claimable
    · cases claimable
    · split at claimable
      · cases claimable
      · split at claimable
        · cases claimable
        · rename_i found lookup
          split at claimable
          · cases claimable
          · rename_i eligible
            simp only [ne_eq, Bool.or_eq_true, Bool.not_eq_true', decide_eq_true_eq, not_or,
              not_not, Bool.not_eq_false] at eligible
            split at claimable
            · cases claimable
            · obtain rfl := Option.some.inj claimable
              exact ⟨same.1.2, same.2, lookup, by simpa [isBranchEligible] using eligible.1,
                eligible.2⟩

/-- What the chosen trials of the new record are compared with is as it was. -/
structure KeepsCurrency (chosen : TrialRecord → Prop) (old new : ExperimentRecord R) : Prop where
  generation : new.definition.generation = old.definition.generation
  hypothesisRevision : new.definition.hypothesisRevision = old.definition.hypothesisRevision
  policy : new.definition.policy = old.definition.policy
  branch : ∀ key trial branch, new.trials.find? key = some trial → chosen trial →
    old.findBranch trial.branch = some branch → new.findBranch trial.branch = some branch

theorem KeepsCurrency.ofDefinition {chosen : TrialRecord → Prop} {old new : ExperimentRecord R}
    (definition : new.definition = old.definition) : KeepsCurrency chosen old new where
  generation := by rw [definition]
  hypothesisRevision := by rw [definition]
  policy := by rw [definition]
  branch := fun _ _ _ _ _ found => by rwa [ExperimentRecord.findBranch, definition]

/-- A chosen trial that was current is current. -/
theorem KeepsCurrency.current {chosen : TrialRecord → Prop} {old new : ExperimentRecord R}
    (keeps : KeepsCurrency chosen old new) {key : TrialId} {trial trial' : TrialRecord}
    (found : new.trials.find? key = some trial') (picked : chosen trial')
    (fixed : trial'.fixed = trial.fixed) (current : old.Current trial) : new.Current trial' := by
  have generation := congrArg TrialRecord.generation fixed
  have revision := congrArg TrialRecord.hypothesisRevision fixed
  have policy := congrArg TrialRecord.policy fixed
  have policyGeneration := congrArg TrialRecord.policyGeneration fixed
  have branchId := TrialRecord.branch_of_fixed fixed
  have branchGeneration := congrArg TrialRecord.branchGeneration fixed
  obtain ⟨branch, lookup, active, same⟩ := current.branch
  refine ⟨generation.trans (current.generation.trans keeps.generation.symm),
    revision.trans (current.hypothesisRevision.trans keeps.hypothesisRevision.symm),
    policy.trans (current.policy.trans (congrArg ComparisonPolicy.id keeps.policy.symm)),
    policyGeneration.trans (current.policyGeneration.trans
      (congrArg ComparisonPolicy.generation keeps.policy.symm)), branch, ?_, active,
    same.trans branchGeneration.symm⟩
  exact keeps.branch key trial' branch found picked (by rwa [branchId])

/-! ## What requests do to current trials -/

/-- The trials a failure would leave behind on the branch it invalidates. -/
def ExperimentRecord.LeftBehind (record : ExperimentRecord R) (chosen : TrialRecord → Prop)
    (branch : BranchId) : Prop :=
  record.definition.partialFailurePolicy = .invalidateBranch ∧
    ∃ key trial, record.trials.find? key = some trial ∧ chosen trial ∧ trial.branch = branch

theorem invalidateBranch_keepsCurrency {chosen : TrialRecord → Prop}
    {record failed after : ExperimentRecord R} {branch : BranchId} {detail line : Text}
    (definition : failed.definition = record.definition)
    (built : after = (failed.invalidateBranch branch detail).log line)
    (nobody : ¬ after.LeftBehind chosen branch) : KeepsCurrency chosen record after := by
  subst built
  have unchanged : KeepsCurrency chosen record (failed.log line) := .ofDefinition definition
  revert nobody
  unfold ExperimentRecord.invalidateBranch
  split
  · rename_i invalidates
    split
    · exact fun _ => unchanged
    · split
      · intro nobody
        refine ⟨?_, ?_, ?_, fun key trial other found picked lookup => ?_⟩
        · simp only [ExperimentRecord.log, definition]
        · simp only [ExperimentRecord.log, definition]
        · simp only [ExperimentRecord.log, definition]
        · have elsewhere : trial.branch ≠ branch := fun same =>
            nobody ⟨invalidates, key, trial, found, picked, same⟩
          simp only [ExperimentRecord.log, ExperimentRecord.findBranch]
          rw [ExperimentRecord.find?_updateBranch]
          · rw [if_neg elsewhere, definition]
            exact lookup
          · exact fun _ => rfl
      · exact fun _ => unchanged
  · exact fun _ => unchanged

section Effects

variable [MetricReal R] [CanonicalDigests R]

/-- A request ends all work of an experiment or keeps what its open trials are compared with, unless
it is a failure that leaves trials behind. -/
theorem Effect.keepsCurrency {c : Coordinator R} {experiment : ExperimentId}
    {record after : ExperimentRecord R} {marks : Watermarks} {request : Request R}
    (effect : Effect c experiment record marks request after) {chosen : TrialRecord → Prop}
    (opens : ∀ trial, chosen trial → isTerminal trial.state = false)
    (nobody : ∀ failure check, request = .failTrial failure →
      c.failTrialGuard failure = .ok check → ¬ after.LeftBehind chosen check.trial.branch) :
    after.Ended ∨ KeepsCurrency chosen record after := by
  cases effect with
  | revise guarded => exact .inl (ended_of_close rfl rfl rfl rfl)
  | @fork parent spec parentBranch branch guarded forked valid allocated =>
      refine .inr ⟨rfl, rfl, rfl, fun key trial held found picked lookup => ?_⟩
      have extended : (record.definition.branches ++ [branch]).find? (·.id = trial.branch) =
          some held := by
        rw [List.find?_append, show record.definition.branches.find? (·.id = trial.branch) =
          some held from lookup, Option.some_or]
      exact extended
  | forkUndone guarded =>
      refine .inr (.ofDefinition ?_)
      simp [ExperimentRecord.fork, ExperimentRecord.log, ExperimentRecord.unfork]
  | @retire branch reason guarded =>
      refine .inr ⟨rfl, rfl, rfl, fun key trial held found picked lookup => ?_⟩
      have elsewhere : trial.branch ≠ branch := fun same => by
        have closed : isTerminal trial.state = true :=
          closeTrials_terminal rfl found fun before fixed => by
            simp [← TrialRecord.branch_of_fixed fixed, same]
        rw [opens trial picked] at closed
        cases closed
      unfold ExperimentRecord.retire ExperimentRecord.log ExperimentRecord.findBranch
      dsimp only
      rw [ExperimentRecord.find?_updateBranch]
      · rw [if_neg elsewhere]
        exact lookup
      · exact fun _ => rfl
  | @refuseObservation publication verdict named found refused =>
      have definition : (c.refusedObservation record publication.observation verdict).definition =
          record.definition := by
        obtain ⟨observations, rejected, same⟩ :=
          refusedObservation_frame c record publication.observation verdict
        rw [same]
      exact .inr (.ofDefinition definition)
  | publishObservation named accepted =>
      exact .inr (.ofDefinition (observe_fields (record.pushObservation _) _ _ _ _ _).2)
  | publishObservationUndone named accepted =>
      exact .inr (.ofDefinition (observe_fields record _ _ _ _ _).2)
  | refuseArtifact named found built refused =>
      exact .inr (.ofDefinition (reject_fields record _ _ _).2)
  | publishArtifact named built accepted => exact .inr (.ofDefinition rfl)
  | publishArtifactUndone named built accepted => exact .inr (.ofDefinition rfl)
  | registerArtifacts named guarded refused stored =>
      subst named
      exact .inr (.ofDefinition (registered_pair guarded stored).definition)
  | commit named guarded accepted stored =>
      subst named
      exact .inr (.ofDefinition (registered_pair guarded stored).definition)
  | @fail failure branch trial attempt named guarded =>
      refine .inr (invalidateBranch_keepsCurrency ?_ rfl (nobody failure _ rfl guarded))
      rfl
  | cancelTrial owner isOpen => exact .inr (.ofDefinition rfl)
  | cancel found allowed => exact .inl (ended_of_close rfl rfl rfl rfl)
  | finalize guarded decided allocated pointed => exact .inr (.ofDefinition rfl)
  | rollback guarded => exact .inl (ended_of_close rfl rfl rfl rfl)

end Effects

end ExperimentFabric
