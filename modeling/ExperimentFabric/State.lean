import ExperimentFabric.Lib.OrderedMap
import ExperimentFabric.Model

/-!
# The durable coordinator state

Everything in this module is persisted.  Live process authority is not part of it.
-/

namespace ExperimentFabric

open Lib

/-- One worker incarnation recorded for audit. -/
structure WorkerIncarnation where
  worker : WorkerId
  boot : WorkerBootId
  epoch : CoordinatorEpoch
  producer : ProducerId
  endpoint : Text
  fingerprint : Text
  registeredSequence : Nat
  revoked : Bool := false
  revocationKind : FailureKind := .none
  revokedSequence : Nat := 0
  deriving DecidableEq

/-- Durable record for one experiment. -/
@[ext]
structure ExperimentRecord (R : Type) where
  definition : ExperimentDefinition R
  hypothesis : Hypothesis
  hypothesisHistory : List Hypothesis := []
  state : ExperimentState := .opened
  revisionSequence : Nat := 0
  createdSequence : Nat := 0
  trials : OrderedMap TrialId TrialRecord := .empty
  attempts : OrderedMap TrialAttemptId AttemptRecord := .empty
  observations : List (Observation R) := []
  artifacts : List ArtifactRecord := []
  decisions : List (Decision R) := []
  rollbackPoints : List RollbackPoint := []
  rejectedEvidence : List RejectedEvidence := []
  /-- Ordered record of experiment-level lifecycle events. -/
  lifecycleLog : List Text := []
  deriving DecidableEq

/-- Highest identity issued of each kind. -/
structure Watermarks where
  experiment : Nat := 0
  hypothesis : Nat := 0
  branch : Nat := 0
  metric : Nat := 0
  policy : Nat := 0
  trial : Nat := 0
  attempt : Nat := 0
  observation : Nat := 0
  artifact : Nat := 0
  decision : Nat := 0
  rollback : Nat := 0
  deriving DecidableEq

/-- Version of the persisted format. -/
def persistenceFormatVersion : Nat := 1

/-- The complete durable state owned by one coordinator. -/
structure CoordinatorState (R : Type) where
  formatVersion : Nat := persistenceFormatVersion
  /-- Highest coordinator epoch ever minted. -/
  lastEpoch : Nat := 0
  lastSequence : Nat := 0
  experiments : OrderedMap ExperimentId (ExperimentRecord R) := .empty
  workers : List WorkerIncarnation := []
  nextWorkerRegistrationSequence : Nat := 0
  watermarks : Watermarks := {}
  deriving DecidableEq

namespace ExperimentRecord

variable {R : Type}

/-- The branch with an identity, if the definition declares one. -/
def findBranch (record : ExperimentRecord R) (id : BranchId) : Option BranchDefinition :=
  record.definition.branches.find? (·.id = id)

/-- The metric with an identity, if the definition declares one. -/
def findMetric (record : ExperimentRecord R) (id : MetricId) : Option (MetricDefinition R) :=
  record.definition.metrics.find? (·.id = id)

/-- Change the first branch with an identity. -/
def updateBranch (id : BranchId) (change : BranchDefinition → BranchDefinition) :
    List BranchDefinition → List BranchDefinition
  | [] => []
  | branch :: rest =>
      if branch.id = id then change branch :: rest else branch :: updateBranch id change rest

theorem findBranch_id {record : ExperimentRecord R} {id : BranchId} {branch : BranchDefinition}
    (found : record.findBranch id = some branch) : branch.id = id := by
  simpa using List.find?_some found

theorem find?_updateBranch (id other : BranchId) {change : BranchDefinition → BranchDefinition}
    (keepsId : ∀ branch, (change branch).id = branch.id) (branches : List BranchDefinition) :
    (updateBranch id change branches).find? (·.id = other) =
      if other = id then (branches.find? (·.id = id)).map change
      else branches.find? (·.id = other) := by
  induction branches with
  | nil => simp [updateBranch]
  | cons branch rest ih =>
      by_cases here : branch.id = id
      · by_cases same : other = id
        · simp [updateBranch, here, same, keepsId]
        · simp [updateBranch, here, same, keepsId, Ne.symm same]
      · by_cases same : other = id
        · subst same
          simpa [updateBranch, here] using ih
        · simp only [updateBranch, if_neg here, List.find?_cons, ih, if_neg same]

/-- A view of the branches that no change of a branch affects. -/
theorem map_updateBranch {β : Type} (view : BranchDefinition → β) (id : BranchId)
    {change : BranchDefinition → BranchDefinition}
    (kept : ∀ branch, view (change branch) = view branch) (branches : List BranchDefinition) :
    (updateBranch id change branches).map view = branches.map view := by
  induction branches with
  | nil => rfl
  | cons branch rest ih =>
      simp only [updateBranch]
      split
      · simp [kept]
      · simp [ih]

/-- Changing a branch changes no identity. -/
theorem map_id_updateBranch (id : BranchId) {change : BranchDefinition → BranchDefinition}
    (keepsId : ∀ branch, (change branch).id = branch.id) (branches : List BranchDefinition) :
    (updateBranch id change branches).map BranchDefinition.id =
      branches.map BranchDefinition.id :=
  map_updateBranch BranchDefinition.id id keepsId branches

/-- Append a lifecycle event; a full log drops its oldest event. -/
def log (record : ExperimentRecord R) (line : Text) : ExperimentRecord R :=
  { record with
    lifecycleLog :=
      (if record.lifecycleLog.length ≥ 65536 then record.lifecycleLog.tail
        else record.lifecycleLog) ++ [line] }

/-- Number of persisted records held by one experiment, itself included. -/
def recordCount (record : ExperimentRecord R) : Nat :=
  1 + record.trials.size + record.attempts.size + record.observations.length +
    record.artifacts.length + record.decisions.length + record.rollbackPoints.length +
    record.rejectedEvidence.length + record.hypothesisHistory.length + record.lifecycleLog.length

end ExperimentRecord

/-- Number of persisted records. -/
def CoordinatorState.totalRecordCount {R : Type} (state : CoordinatorState R) : Nat :=
  state.workers.length + (state.experiments.values.map ExperimentRecord.recordCount).sum

/-- Replacing an experiment changes the number of records by the difference of the two. -/
theorem CoordinatorState.totalRecordCount_assign {R : Type} {old new : CoordinatorState R}
    {experiment : ExperimentId} {before after : ExperimentRecord R}
    (found : old.experiments.find? experiment = some before)
    (stored : new.experiments = old.experiments.assign experiment after)
    (workers : new.workers = old.workers) :
    new.totalRecordCount + before.recordCount = old.totalRecordCount + after.recordCount := by
  have sums := OrderedMap.sum_values_assign found after ExperimentRecord.recordCount
  rw [totalRecordCount, totalRecordCount, stored, workers]
  omega

end ExperimentFabric
