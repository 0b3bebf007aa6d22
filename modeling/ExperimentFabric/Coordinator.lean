import Mathlib.Data.Prod.Lex
import ExperimentFabric.Validation

/-!
# The coordinator core

One durable state and one live process authority.  Public operations run one at a time under the
state lock, so each is a function from the coordinator before it to the coordinator after it and
its reply.  The file at the state path is held as the state it decodes to; `image` is its content
and changes only when a save succeeds.
-/

namespace ExperimentFabric

open Lib

/-- Live registration of one worker process incarnation.  It is never persisted. -/
structure LiveWorker where
  worker : WorkerId
  boot : WorkerBootId
  producer : ProducerId
  endpoint : Text
  fingerprint : Text
  activeAssignments : Nat := 0
  totalAssignments : Nat := 0
  maxConcurrentAssignments : Nat
  revoked : Bool := false
  revocationKind : FailureKind := .none
  registeredSequence : Nat
  deriving DecidableEq

/-- Key of the live worker table. -/
abbrev WorkerKey := ℕ ×ₗ ℕ

/-- Key of one worker process incarnation. -/
def workerKey (worker : WorkerId) (boot : WorkerBootId) : WorkerKey :=
  toLex (worker.value, boot.value)

/-- Static configuration of one coordinator lifetime. -/
structure Config where
  limits : Limits := {}
  /-- Path of the state image; empty when nothing is persisted. -/
  statePath : Text := []
  persistOnMutation : Bool := true
  epochSeed : Nat := 0
  deriving DecidableEq

/-- A coordinator together with the file at its state path. -/
structure Coordinator (R : Type) where
  config : Config
  state : CoordinatorState R
  epoch : CoordinatorEpoch
  admittingWork : Bool := true
  persistenceDegraded : Bool := false
  liveWorkers : OrderedMap WorkerKey LiveWorker := .empty
  observationIndex : OrderedMap ExperimentId (OrderedMap ObservationId Nat) := .empty
  artifactIndex : OrderedMap ExperimentId (OrderedMap ArtifactId Nat) := .empty
  serverActive : Bool := false
  /-- The last image saved at the state path. -/
  image : Option (CoordinatorState R)
  deriving DecidableEq

/-- The ways writing a state image can fail. -/
inductive SaveFault where
  | directory | openTemporary | writeTemporary | closeTemporary | replace
  deriving DecidableEq, Repr

/-- Failure reported for a fault. -/
def SaveFault.status (fault : SaveFault) : Status :=
  ⟨.persistenceFailure, .persistence, match fault with
    | .directory => text "cannot create the state directory"
    | .openTemporary => text "cannot open the temporary state image for writing"
    | .writeTemporary => text "failed while writing the temporary state image"
    | .closeTemporary => text "failed while closing the temporary state image"
    | .replace => text "atomic replacement of the state image failed"⟩

/-- What serialization refuses before it writes a byte. -/
def serializable {R : Type} (state : CoordinatorState R) (limits : Limits) : Check Status :=
  sequence [
    require (state.formatVersion = persistenceFormatVersion)
      ⟨.persistenceFailure, .persistence,
        text "refusing to serialize state with a mismatched format version"⟩,
    require (state.totalRecordCount ≤ limits.maxPersistedRecords)
      ⟨.resourceExhausted, .limits, text "state holds more records than the configured bound"⟩]

namespace Coordinator

variable {R : Type}

/-- The limits this coordinator was configured with. -/
@[simp]
def limits (c : Coordinator R) : Limits := c.config.limits

/-! ## Identity and sequence allocation -/

/-- Advance the sequence counter; the new value is `currentSequence`. -/
@[simp]
def nextSequence (c : Coordinator R) : Coordinator R :=
  { c with state := { c.state with lastSequence := c.state.lastSequence + 1 } }

/-- The last sequence number handed out. -/
@[simp]
def currentSequence (c : Coordinator R) : Nat := c.state.lastSequence

/-- Change the identity watermarks. -/
@[simp]
def advance (c : Coordinator R) (change : Watermarks → Watermarks) : Coordinator R :=
  { c with state := { c.state with watermarks := change c.state.watermarks } }

/-- Allocate an experiment identity, the new experiment watermark. -/
@[simp]
def allocExperimentId (c : Coordinator R) : Coordinator R :=
  c.advance fun marks => { marks with experiment := marks.experiment + 1 }

/-- Allocate a hypothesis identity, the new hypothesis watermark. -/
@[simp]
def allocHypothesisId (c : Coordinator R) : Coordinator R :=
  c.advance fun marks => { marks with hypothesis := marks.hypothesis + 1 }

/-- Allocate a branch identity, the new branch watermark. -/
@[simp]
def allocBranchId (c : Coordinator R) : Coordinator R :=
  c.advance fun marks => { marks with branch := marks.branch + 1 }

/-- Allocate a trial identity, the new trial watermark. -/
@[simp]
def allocTrialId (c : Coordinator R) : Coordinator R :=
  c.advance fun marks => { marks with trial := marks.trial + 1 }

/-- Allocate an attempt identity, the new attempt watermark. -/
@[simp]
def allocAttemptId (c : Coordinator R) : Coordinator R :=
  c.advance fun marks => { marks with attempt := marks.attempt + 1 }

/-- Allocate consecutive observation identities, ending at the new observation watermark. -/
@[simp]
def allocObservationIds (c : Coordinator R) (count : Nat) : Coordinator R :=
  c.advance fun marks => { marks with observation := marks.observation + count }

/-- Allocate consecutive artifact identities, ending at the new artifact watermark. -/
@[simp]
def allocArtifactIds (c : Coordinator R) (count : Nat) : Coordinator R :=
  c.advance fun marks => { marks with artifact := marks.artifact + count }

/-- Allocate a decision identity, the new decision watermark. -/
@[simp]
def allocDecisionId (c : Coordinator R) : Coordinator R :=
  c.advance fun marks => { marks with decision := marks.decision + 1 }

/-- Allocate a rollback point identity, the new rollback watermark. -/
@[simp]
def allocRollbackId (c : Coordinator R) : Coordinator R :=
  c.advance fun marks => { marks with rollback := marks.rollback + 1 }

/-! ## Lookup and update -/

/-- The record of an experiment. -/
@[simp]
def findExperiment (c : Coordinator R) (id : ExperimentId) : Option (ExperimentRecord R) :=
  c.state.experiments.find? id

/-- The live registration of a worker incarnation. -/
def findLiveWorker (c : Coordinator R) (worker : WorkerId) (boot : WorkerBootId) :
    Option LiveWorker :=
  c.liveWorkers.find? (workerKey worker boot)

/-- Replace the experiments of the durable state. -/
@[simp]
def withExperiments (c : Coordinator R)
    (experiments : OrderedMap ExperimentId (ExperimentRecord R)) : Coordinator R :=
  { c with state := { c.state with experiments } }

/-- Store the record of an experiment. -/
@[simp]
def withRecord (c : Coordinator R) (id : ExperimentId) (record : ExperimentRecord R) :
    Coordinator R :=
  c.withExperiments (c.state.experiments.assign id record)

/-- Forget an experiment. -/
@[simp]
def eraseExperiment (c : Coordinator R) (id : ExperimentId) : Coordinator R :=
  c.withExperiments (c.state.experiments.erase id)

/-- Positions of an experiment's observations; an absent index is an empty one. -/
def observationsOf (c : Coordinator R) (id : ExperimentId) : OrderedMap ObservationId Nat :=
  (c.observationIndex.find? id).getD .empty

/-- Positions of an experiment's artifacts; an absent index is an empty one. -/
def artifactsOf (c : Coordinator R) (id : ExperimentId) : OrderedMap ArtifactId Nat :=
  (c.artifactIndex.find? id).getD .empty

/-- Replace the observation positions of an experiment. -/
@[simp]
def indexObservations (c : Coordinator R) (id : ExperimentId)
    (positions : OrderedMap ObservationId Nat) : Coordinator R :=
  { c with observationIndex := c.observationIndex.assign id positions }

/-- Replace the artifact positions of an experiment. -/
@[simp]
def indexArtifacts (c : Coordinator R) (id : ExperimentId)
    (positions : OrderedMap ArtifactId Nat) : Coordinator R :=
  { c with artifactIndex := c.artifactIndex.assign id positions }

/-- Positions of the identities of a list; a repeated identity keeps its last position. -/
def positions {α : Type} {tag : Tag} (identity : α → StrongId tag) (items : List α) :
    OrderedMap (StrongId tag) Nat :=
  items.zipIdx.foldl (fun index item => index.assign (identity item.1) item.2) .empty

/-- Recompute both indexes from the durable state. -/
def rebuildIndexes (c : Coordinator R) : Coordinator R :=
  { c with
    observationIndex :=
      c.state.experiments.mapValues fun record => positions Observation.id record.observations
    artifactIndex :=
      c.state.experiments.mapValues fun record => positions ArtifactRecord.id record.artifacts }

/-! ## Durability -/

/-- Serialize and save the whole state; `fault` is the outcome of the storage write. -/
def persistLocked (c : Coordinator R) (fault : Option SaveFault) (required : Bool := true) :
    Coordinator R × Check Status :=
  if c.config.statePath = [] then (c, .ok ())
  else if !required && !c.config.persistOnMutation then (c, .ok ())
  else match serializable c.state c.limits with
    | .error failure => ({ c with persistenceDegraded := true }, .error failure)
    | .ok () => match fault with
      | some fault => ({ c with persistenceDegraded := true }, .error fault.status)
      | none => ({ c with persistenceDegraded := false, image := some c.state }, .ok ())

/-- The end of a mutating operation: save, and undo what the operation undoes when saving fails. -/
def settle {α : Type} (c : Coordinator R) (fault : Option SaveFault)
    (undo : Coordinator R → Coordinator R) (value : α) : Coordinator R × Result α :=
  match c.persistLocked fault with
  | (saved, .ok ()) => (saved, .ok value)
  | (unsaved, .error failure) => (undo unsaved, .error failure)

section Saving

variable {α : Type} (c : Coordinator R) (fault : Option SaveFault)

/-- Saving is skipped, fails and degrades the coordinator, or writes the state. -/
theorem persistLocked_cases (required : Bool) :
    (c.persistLocked fault required = (c, .ok ()) ∧
      (c.config.statePath = [] ∨ required = false)) ∨
    (∃ failure, c.persistLocked fault required =
      ({ c with persistenceDegraded := true }, .error failure)) ∨
    (c.persistLocked fault required =
      ({ c with persistenceDegraded := false, image := some c.state }, .ok ()) ∧
      c.config.statePath ≠ []) := by
  unfold persistLocked
  split
  · rename_i noPath
    exact .inl ⟨rfl, .inl noPath⟩
  · rename_i hasPath
    split
    · rename_i skipped
      simp only [Bool.and_eq_true, Bool.not_eq_true'] at skipped
      exact .inl ⟨rfl, .inr skipped.1⟩
    · split
      · exact .inr (.inl ⟨_, rfl⟩)
      · split
        · exact .inr (.inl ⟨_, rfl⟩)
        · exact .inr (.inr ⟨rfl, hasPath⟩)

/-- Saving changes nothing but the image and the degradation flag. -/
theorem persistLocked_fst (required : Bool) :
    (c.persistLocked fault required).1 =
      { c with
        persistenceDegraded := (c.persistLocked fault required).1.persistenceDegraded
        image := (c.persistLocked fault required).1.image } := by
  rcases c.persistLocked_cases fault required with ⟨same, -⟩ | ⟨failure, same⟩ | ⟨same, -⟩ <;>
    rw [same]

@[simp]
theorem persistLocked_state (required : Bool) :
    (c.persistLocked fault required).1.state = c.state := by
  rw [persistLocked_fst]

@[simp]
theorem persistLocked_config (required : Bool) :
    (c.persistLocked fault required).1.config = c.config := by
  rw [persistLocked_fst]

@[simp]
theorem persistLocked_epoch (required : Bool) :
    (c.persistLocked fault required).1.epoch = c.epoch := by
  rw [persistLocked_fst]

@[simp]
theorem persistLocked_admittingWork (required : Bool) :
    (c.persistLocked fault required).1.admittingWork = c.admittingWork := by
  rw [persistLocked_fst]

@[simp]
theorem persistLocked_liveWorkers (required : Bool) :
    (c.persistLocked fault required).1.liveWorkers = c.liveWorkers := by
  rw [persistLocked_fst]

@[simp]
theorem persistLocked_observationIndex (required : Bool) :
    (c.persistLocked fault required).1.observationIndex = c.observationIndex := by
  rw [persistLocked_fst]

@[simp]
theorem persistLocked_artifactIndex (required : Bool) :
    (c.persistLocked fault required).1.artifactIndex = c.artifactIndex := by
  rw [persistLocked_fst]

/-- A save that succeeds under a state path writes the state; otherwise the image stays. -/
theorem persistLocked_image (required : Bool) :
    (c.persistLocked fault required).1.image = c.image ∨
      ((c.persistLocked fault required).2 = .ok () ∧
        (c.persistLocked fault required).1.image = some c.state) := by
  rcases c.persistLocked_cases fault required with ⟨same, -⟩ | ⟨failure, same⟩ | ⟨same, -⟩
  · exact .inl (by rw [same])
  · exact .inl (by rw [same])
  · exact .inr (by rw [same]; exact ⟨rfl, rfl⟩)

/-- Without a state path nothing is saved. -/
theorem persistLocked_noPath (required : Bool) (noPath : c.config.statePath = []) :
    c.persistLocked fault required = (c, .ok ()) :=
  if_pos noPath

/-- An operation that undoes nothing ends in the coordinator saving leaves. -/
@[simp]
theorem settle_id_fst (value : α) : (c.settle fault id value).1 = (c.persistLocked fault).1 := by
  unfold settle
  split <;> simp_all

/-- Saving either succeeds, and the operation answers its value, or fails, and it undoes. -/
theorem settle_cases (undo : Coordinator R → Coordinator R) (value : α) :
    (∃ saved, c.persistLocked fault = (saved, .ok ()) ∧
      c.settle fault undo value = (saved, .ok value)) ∨
    (∃ unsaved failure, c.persistLocked fault = (unsaved, .error failure) ∧
      c.settle fault undo value = (undo unsaved, .error failure)) := by
  unfold settle
  split
  · rename_i saved persisted
    exact .inl ⟨saved, persisted, rfl⟩
  · rename_i unsaved failure persisted
    exact .inr ⟨unsaved, failure, persisted, rfl⟩

/-- Saving can succeed: there is nothing to write, or the state is serializable and the storage
write goes through. -/
def Savable : Prop :=
  c.config.statePath = [] ∨
    (c.state.formatVersion = persistenceFormatVersion ∧
      c.state.totalRecordCount ≤ c.limits.maxPersistedRecords ∧ fault = none)

theorem serializable_ok_iff (state : CoordinatorState R) (limits : Limits) :
    serializable state limits = .ok () ↔ state.formatVersion = persistenceFormatVersion ∧
      state.totalRecordCount ≤ limits.maxPersistedRecords := by
  simp only [serializable, sequence_cons_eq_ok, sequence_nil, require_eq_ok, decide_eq_true_eq,
    and_true]

theorem persistLocked_ok_iff : (c.persistLocked fault).2 = .ok () ↔ c.Savable fault := by
  unfold persistLocked Savable
  rw [← and_assoc, ← serializable_ok_iff]
  by_cases noPath : c.config.statePath = []
  · simp [noPath]
  · rw [if_neg noPath, if_neg (by simp)]
    cases serializable c.state c.limits with
    | error failure => simp [noPath]
    | ok done =>
        cases fault with
        | none => simp
        | some fault => simp [noPath]

/-- An operation that succeeds answers its value. -/
theorem settle_value {undo : Coordinator R → Coordinator R} {value result : α}
    (succeeded : (c.settle fault undo value).2 = .ok result) : result = value := by
  rcases c.settle_cases fault undo value with ⟨saved, -, ended⟩ | ⟨unsaved, failure, -, ended⟩
  · rw [ended] at succeeded
    exact (Except.ok.inj succeeded).symm
  · rw [ended] at succeeded
    cases succeeded

/-- An operation answers its value exactly when saving succeeds. -/
theorem settle_ok_iff (undo : Coordinator R → Coordinator R) (value : α) :
    (c.settle fault undo value).2 = .ok value ↔ c.Savable fault := by
  rw [← persistLocked_ok_iff]
  rcases c.settle_cases fault undo value with ⟨saved, persisted, ended⟩ |
    ⟨unsaved, failure, persisted, ended⟩
  · simp [ended, persisted]
  · simp [ended, persisted]

end Saving

/-- The public `save`. -/
def save (c : Coordinator R) (fault : Option SaveFault) : Coordinator R × Result Unit :=
  c.settle fault id ()

end Coordinator

end ExperimentFabric
