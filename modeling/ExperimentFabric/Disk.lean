import ExperimentFabric.Backing
import ExperimentFabric.Network
import ExperimentFabric.Storage

/-!
# Processes over the state directory

The coordinator as it runs on files: a request or a startup makes attempts to save, each attempt is
a sequence of file operations, and the process may stop between any two of them.  Seen through the
image at the state path, the files and processes behave as the worlds in which a save is one step.
-/

namespace ExperimentFabric

open Lib
open Persistence (SaveCourse Directory DirectoryOperation ReadFault)

variable {R : Type}

/-- An attempt to save a state. -/
structure SaveAttempt (R : Type) where
  state : CoordinatorState R
  course : SaveCourse

/-- The state that an attempt leaves at the state path, if it goes through. -/
def SaveAttempt.outcome (attempt : SaveAttempt R) : Option (CoordinatorState R) :=
  if attempt.course.fault = none then some attempt.state else none

/-- The image that attempts leave: the state of the last one that goes through. -/
def imageAfter (image : Option (CoordinatorState R)) (made : List (SaveAttempt R)) :
    Option (CoordinatorState R) :=
  lastHeld image (made.map SaveAttempt.outcome)

theorem imageAfter_append (image : Option (CoordinatorState R))
    (first second : List (SaveAttempt R)) :
    imageAfter image (first ++ second) = imageAfter (imageAfter image first) second := by
  rw [imageAfter, List.map_append, lastHeld_append]
  rfl

/-- The file operations of an attempt. -/
def SaveAttempt.operations [BitPattern R] (path : Text) (limits : Limits)
    (attempt : SaveAttempt R) : List DirectoryOperation :=
  (Persistence.save path attempt.state limits attempt.course).1

/-- What a process start meets in its surroundings. -/
structure StartCourse where
  /-- The names in the state directory, as they are enumerated. -/
  listed : List Text
  removable : Text → Bool
  reading : Option ReadFault
  saves : Nat → SaveCourse

/-- The outcomes of the writes of a startup. -/
def StartCourse.outcomes (course : StartCourse) : WriteOutcomes := fun write =>
  (course.saves write).fault

/-- A computation of a process that saves now and then, and ends when a save fails. -/
inductive SavePlan (R : Type) where
  | ended (c : Coordinator R)
  | save (prepared : Coordinator R) (next : Coordinator R → SavePlan R)

namespace Coordinator

/-- Staging as a plan, with what follows it. -/
def stagingPlan (finish : Coordinator R → SavePlan R) :
    Coordinator R → List ExperimentId → SavePlan R
  | c, [] => finish c
  | c, id :: rest =>
      match c.findExperiment id with
      | none => stagingPlan finish c rest
      | some record =>
          if record.hasOpenWork then
            .save (c.stageExperiment id record) fun saved => stagingPlan finish saved rest
          else stagingPlan finish (c.stageExperiment id record) rest

/-- The reconciliation of a startup as a plan. -/
def reconcilePlan (c : Coordinator R) : SavePlan R :=
  stagingPlan (fun staged =>
    if c.state.experiments.values.any ExperimentRecord.needsRecovery then
      .save staged.resolveAll .ended
    else .ended staged) c c.state.experiments.keys

section Disk

variable [BitPattern R]

/-- `persistLocked` with the attempts it makes to save. -/
def persistOnDisk (c : Coordinator R) (course : SaveCourse) :
    List (SaveAttempt R) × Coordinator R × Check Status :=
  if c.config.statePath = [] then ([], c, .ok ())
  else match Persistence.serialize c.state c.limits with
    | .error failure => ([], { c with persistenceDegraded := true }, .error failure)
    | .ok _ =>
        match (Persistence.save c.config.statePath c.state c.limits course).2 with
        | .error failure =>
            ([⟨c.state, course⟩], { c with persistenceDegraded := true }, .error failure)
        | .ok () =>
            ([⟨c.state, course⟩],
              { c with persistenceDegraded := false, image := some c.state }, .ok ())

end Disk

end Coordinator

namespace SavePlan

/-- Carry out a plan in which the saves have the given outcomes; `writes` counts the saves made. -/
def run (outcomes : WriteOutcomes) : Nat → SavePlan R → Coordinator R × Result Unit
  | _, ended c => (c, .ok ())
  | writes, save prepared next =>
      match prepared.persistLocked (outcomes writes) with
      | (c, .error failure) => (c, .error failure)
      | (c, .ok ()) => (next c).run outcomes (writes + 1)

/-- Carry out a plan on disk: the attempts it makes to save, and how it ends. -/
def runOnDisk [BitPattern R] (saves : Nat → SaveCourse) :
    Nat → SavePlan R → List (SaveAttempt R) × Coordinator R × Result Unit
  | _, ended c => ([], c, .ok ())
  | writes, save prepared next =>
      match prepared.persistOnDisk (saves writes) with
      | (made, c, .error failure) => (made, c, .error failure)
      | (made, c, .ok ()) =>
          let later := (next c).runOnDisk saves (writes + 1)
          (made ++ later.1, later.2)

end SavePlan

namespace Coordinator

section Disk

variable [BitPattern R] [MetricReal R]

/-- The state at the state path, if there is one, and the state a coordinator starts from. -/
def loadOnDisk (config : Config) (directory : Directory) (reading : Option ReadFault) :
    Result (Option (CoordinatorState R) × CoordinatorState R) :=
  if config.statePath = [] then .ok (none, {})
  else match directory (Persistence.filename config.statePath) with
    | none => .ok (none, {})
    | some _ =>
        (Persistence.load config.statePath directory config.limits reading).map fun loaded =>
          (some loaded, loaded)

/-- The file operations of a startup before it loads the state. -/
def discarding (config : Config) (course : StartCourse) : List DirectoryOperation :=
  if config.statePath = [] then []
  else (Persistence.discardTemporaryImages config.statePath course.listed course.removable).1

/-- Start a coordinator from a directory: the file operations before it loads the state, the
attempts it makes to save, and the outcome. -/
def createOnDisk (config : Config) (directory : Directory) (course : StartCourse) :
    List DirectoryOperation × List (SaveAttempt R) × Result (Coordinator R) :=
  if !config.limits.isCoherent then
    ([], [], .error ⟨.invalidArgument, .validation, text "limits configuration is not coherent"⟩)
  else
    let discarded := discarding config course
    match loadOnDisk config (FileOperation.performAll discarded directory) course.reading with
    | .error failure => (discarded, [], .error failure)
    | .ok (image, loaded) =>
        match (boot config image loaded).reconcilePlan.runOnDisk course.saves 0 with
        | (made, _, .error failure) => (discarded, made, .error failure)
        | (made, c, .ok ()) => (discarded, made, .ok c)

end Disk

/-! ## Saving on disk is saving -/

section Attempts

variable {c : Coordinator R} {path : Text}

/-- The attempts can be serialized under the limits. -/
def Serialized (limits : Limits) (made : List (SaveAttempt R)) : Prop :=
  ∀ attempt ∈ made, serializable attempt.state limits = .ok ()

/-- What some attempts made by a process leave of the image. -/
structure Leaves (c : Coordinator R) (made : List (SaveAttempt R)) (left : Coordinator R) :
    Prop where
  config : left.config = c.config
  serialized : Serialized c.limits made
  image : left.image = imageAfter c.image made

/-- A coordinator of the same process has saved nothing since. -/
theorem SameProcess.leaves {later : Coordinator R} (same : c.SameProcess later) :
    c.Leaves [] later :=
  ⟨same.config, fun _ member => absurd member List.not_mem_nil, same.image⟩

theorem SameProcess.hasPath {later : Coordinator R} (same : c.SameProcess later)
    (hasPath : c.config.statePath ≠ []) : later.config.statePath ≠ [] := by
  rwa [same.config]

theorem Leaves.hasPath {made : List (SaveAttempt R)} {left : Coordinator R}
    (leaves : c.Leaves made left) (hasPath : c.config.statePath ≠ []) :
    left.config.statePath ≠ [] := by
  rwa [leaves.config]

theorem Leaves.trans {first second third : Coordinator R} {made more : List (SaveAttempt R)}
    (earlier : Leaves first made second) (later : Leaves second more third) :
    Leaves first (made ++ more) third where
  config := later.config.trans earlier.config
  serialized attempt member := by
    rcases List.mem_append.mp member with member | member
    · exact earlier.serialized attempt member
    · have passed := later.serialized attempt member
      rwa [limits, earlier.config] at passed
  image := by rw [later.image, earlier.image, imageAfter_append]

/-- A storage write that fails leaves the image alone. -/
theorem persistLocked_faulted (hasPath : c.config.statePath ≠ []) (fault : SaveFault) :
    ∃ failure, c.persistLocked (some fault) =
      ({ c with persistenceDegraded := true }, .error failure) := by
  unfold persistLocked
  rw [if_neg hasPath]
  cases serializable c.state c.limits with
  | error failure => exact ⟨failure, rfl⟩
  | ok _ => exact ⟨fault.status, rfl⟩

variable [BitPattern R]

theorem serialize_eq (state : CoordinatorState R) (limits : Limits) :
    Persistence.serialize state limits =
      (serializable state limits).map fun _ => Persistence.image state := by
  by_cases version : state.formatVersion = persistenceFormatVersion <;>
    by_cases total : state.totalRecordCount ≤ limits.maxPersistedRecords <;>
    · simp only [Persistence.serialize, serializable, Lib.sequence, require, version, total,
        decide_true, decide_false]
      rfl

/-- A serialized attempt replaces the image at the path by its outcome. -/
theorem attempt_replaces {limits : Limits} {attempt : SaveAttempt R}
    (passed : serializable attempt.state limits = .ok ()) :
    FileOperation.Replaces (Persistence.filename path) (attempt.operations path limits)
      (attempt.outcome.map Persistence.image) := by
  rw [SaveAttempt.operations, SaveAttempt.outcome, Persistence.save, serialize_eq, passed,
    apply_ite (Option.map Persistence.image)]
  exact attempt.course.operations_replace path (Persistence.image attempt.state)

/-- What `persistLocked` does on files: it makes one attempt if there is a path and the state can be
serialized, and ends as the attempt does. -/
theorem persistOnDisk_cases (hasPath : c.config.statePath ≠ []) (course : SaveCourse) :
    (∃ failure, serializable c.state c.limits = .error failure ∧ c.persistOnDisk course =
      ([], { c with persistenceDegraded := true }, .error failure)) ∨
    (serializable c.state c.limits = .ok () ∧ ∃ fault, course.fault = some fault ∧
      c.persistOnDisk course =
        ([⟨c.state, course⟩], { c with persistenceDegraded := true }, .error fault.status)) ∨
    (serializable c.state c.limits = .ok () ∧ course.fault = none ∧ c.persistOnDisk course =
      ([⟨c.state, course⟩],
        { c with persistenceDegraded := false, image := some c.state }, .ok ())) := by
  have written := serialize_eq c.state c.limits
  unfold persistOnDisk Persistence.save
  rw [if_neg hasPath, written]
  cases passed : serializable c.state c.limits with
  | error failure => exact .inl ⟨failure, rfl, rfl⟩
  | ok _ =>
      cases failed : course.fault with
      | none => exact .inr (.inr ⟨rfl, rfl, rfl⟩)
      | some fault => exact .inr (.inl ⟨rfl, fault, rfl, rfl⟩)

theorem persistOnDisk_leaves (hasPath : c.config.statePath ≠ []) (course : SaveCourse) :
    Leaves c (c.persistOnDisk course).1 (c.persistOnDisk course).2.1 := by
  rcases persistOnDisk_cases hasPath course with ⟨failure, refused, ended⟩ |
    ⟨passed, fault, failed, ended⟩ | ⟨passed, succeeded, ended⟩ <;> rw [ended]
  · exact ⟨rfl, nofun, rfl⟩
  · refine ⟨rfl, fun attempt member => ?_, ?_⟩
    · rwa [List.mem_singleton.mp member]
    · simp [imageAfter, SaveAttempt.outcome, failed]
  · refine ⟨rfl, fun attempt member => ?_, ?_⟩
    · rwa [List.mem_singleton.mp member]
    · simp [imageAfter, SaveAttempt.outcome, succeeded]

/-- The attempts decide how saving ends; without one, saving is refused. -/
theorem persistOnDisk_snd (hasPath : c.config.statePath ≠ []) (course : SaveCourse)
    (fault : Option SaveFault) (same : (c.persistOnDisk course).1 ≠ [] → fault = course.fault) :
    c.persistLocked fault = (c.persistOnDisk course).2 := by
  unfold persistLocked
  rw [if_neg hasPath]
  rcases persistOnDisk_cases hasPath course with ⟨failure, refused, ended⟩ |
    ⟨passed, chosen, failed, ended⟩ | ⟨passed, succeeded, ended⟩
  · rw [ended, refused]
    rfl
  · rw [same (by rw [ended]; exact List.cons_ne_nil _ _), ended, passed, failed]
    rfl
  · rw [same (by rw [ended]; exact List.cons_ne_nil _ _), ended, passed, succeeded]
    rfl

/-- Saving makes at most one attempt, and one if it goes through. -/
theorem persistOnDisk_count (hasPath : c.config.statePath ≠ []) (course : SaveCourse) :
    (c.persistOnDisk course).1.length ≤ 1 ∧
      ((c.persistOnDisk course).2.2 = .ok () → (c.persistOnDisk course).1.length = 1) := by
  rcases persistOnDisk_cases hasPath course with ⟨failure, refused, ended⟩ |
    ⟨passed, fault, failed, ended⟩ | ⟨passed, through, ended⟩ <;> rw [ended]
  · exact ⟨Nat.zero_le _, nofun⟩
  · exact ⟨le_rfl, nofun⟩
  · exact ⟨le_rfl, fun _ => rfl⟩

end Attempts

end Coordinator

/-! ## Plans -/

namespace SavePlan

/-- The plan goes on from a coordinator: only its saves change the image. -/
inductive From : Coordinator R → SavePlan R → Prop where
  | ended {c last : Coordinator R} (same : c.SameProcess last) : From c (ended last)
  | save {c prepared : Coordinator R} {next : Coordinator R → SavePlan R}
      (same : c.SameProcess prepared) (later : ∀ saved, From saved (next saved)) :
      From c (save prepared next)

theorem From.same {c later : Coordinator R} {plan : SavePlan R} (fits : From later plan)
    (same : c.SameProcess later) : From c plan := by
  cases fits with
  | ended more => exact .ended (same.trans more)
  | save more following => exact .save (same.trans more) following

end SavePlan

namespace Coordinator

/-- Staging goes on from the coordinator it is given. -/
theorem stagingPlan_from {finish : Coordinator R → SavePlan R}
    (following : ∀ staged, SavePlan.From staged (finish staged)) (rest : List ExperimentId)
    (c : Coordinator R) : SavePlan.From c (stagingPlan finish c rest) := by
  induction rest generalizing c with
  | nil => exact following c
  | cons id rest ih =>
      unfold stagingPlan
      split
      · exact ih c
      · rename_i record found
        have same : c.SameProcess (c.stageExperiment id record) := ⟨rfl, rfl, rfl, rfl⟩
        split
        · exact .save same fun saved => ih saved
        · exact (ih _).same same

theorem reconcilePlan_from (c : Coordinator R) : SavePlan.From c c.reconcilePlan := by
  refine stagingPlan_from (fun staged => ?_) _ c
  split
  · exact .save ⟨rfl, rfl, rfl, rfl⟩ fun saved => .ended (SameProcess.refl saved)
  · exact .ended (SameProcess.refl staged)

theorem stagingPlan_run (outcomes : WriteOutcomes) (finish : Coordinator R → SavePlan R)
    (rest : List ExperimentId) (writes : Nat) (c : Coordinator R) :
    (stagingPlan finish c rest).run outcomes writes =
      match stageAll outcomes writes c rest with
      | (stopped, .error failure) => (stopped, .error failure)
      | (staged, .ok last) => (finish staged).run outcomes last := by
  induction rest generalizing writes c with
  | nil => rfl
  | cons id rest ih =>
      rw [stagingPlan, stageAll]
      cases c.findExperiment id with
      | none => exact ih writes c
      | some record =>
          dsimp only
          by_cases isOpen : record.hasOpenWork = true
          · rw [if_pos isOpen, if_pos isOpen, SavePlan.run]
            generalize (c.stageExperiment id record).persistLocked (outcomes writes) = saved
            obtain ⟨reached, failure | _⟩ := saved
            · rfl
            · exact ih (writes + 1) reached
          · rw [if_neg isOpen, if_neg isOpen]
            exact ih writes _

/-- Reconciliation carries out its plan. -/
theorem reconcilePlan_run (c : Coordinator R) (outcomes : WriteOutcomes) :
    c.reconcilePlan.run outcomes 0 = c.reconcileRecoveredState outcomes := by
  refine (stagingPlan_run outcomes _ _ 0 c).trans ?_
  unfold reconcileRecoveredState
  generalize stageAll outcomes 0 c c.state.experiments.keys = staging
  obtain ⟨staged, failure | writes⟩ := staging
  · rfl
  · dsimp only
    split
    · rw [SavePlan.run]
      generalize staged.resolveAll.persistLocked (outcomes writes) = saved
      obtain ⟨reached, failure | _⟩ := saved <;> rfl
    · rfl

end Coordinator

namespace SavePlan

variable [BitPattern R] {c : Coordinator R} {plan : SavePlan R} (saves : Nat → SaveCourse)

theorem runOnDisk_leaves (fits : From c plan) (hasPath : c.config.statePath ≠ []) (writes : Nat) :
    c.Leaves (plan.runOnDisk saves writes).1 (plan.runOnDisk saves writes).2.1 := by
  induction fits generalizing writes with
  | ended same => exact same.leaves
  | @save c prepared next same later ih =>
      have ready := same.hasPath hasPath
      have saved := same.leaves.trans (Coordinator.persistOnDisk_leaves ready (saves writes))
      unfold runOnDisk
      split
      · rename_i made last failure ended
        rwa [ended] at saved
      · rename_i made reached ended
        rw [ended] at saved
        exact saved.trans (ih reached (saved.hasPath hasPath) (writes + 1))

/-- A plan under outcomes that agree with the attempts it makes ends as it does on disk. -/
theorem runOnDisk_snd (fits : From c plan) (hasPath : c.config.statePath ≠ [])
    (outcomes : WriteOutcomes) (writes : Nat)
    (agree : ∀ write, writes ≤ write →
      write < writes + (plan.runOnDisk saves writes).1.length →
      outcomes write = (saves write).fault) :
    plan.run outcomes writes = (plan.runOnDisk saves writes).2 := by
  induction fits generalizing writes with
  | ended => rfl
  | @save c prepared next same later ih =>
      have ready := same.hasPath hasPath
      have leaves := Coordinator.persistOnDisk_leaves ready (saves writes)
      have count := Coordinator.persistOnDisk_count ready (saves writes)
      have decided := Coordinator.persistOnDisk_snd ready (saves writes) (outcomes writes)
      rw [runOnDisk] at agree ⊢
      rw [run]
      generalize prepared.persistOnDisk (saves writes) = saved at *
      obtain ⟨made, reached, failure | _⟩ := saved
      · rw [decided fun attempted =>
          agree writes le_rfl (Nat.lt_add_of_pos_right (List.length_pos_of_ne_nil attempted))]
      · have single : made.length = 1 := count.2 rfl
        dsimp only at agree decided ⊢
        rw [List.length_append, single] at agree
        rw [decided fun _ => agree writes le_rfl (by omega)]
        exact ih reached (leaves.hasPath ready) (writes + 1) fun write after before =>
          agree write (by omega) (by omega)

/-- The outcomes of a plan that is stopped in a save: the earlier ones go as they do on disk. -/
def stoppedAt (saves : Nat → SaveCourse) (stop : Nat) : WriteOutcomes := fun write =>
  if write < stop then (saves write).fault else some .replace

/-- A plan that is stopped within an attempt leaves what its earlier attempts left. -/
theorem run_stoppedAt (fits : From c plan) (hasPath : c.config.statePath ≠ []) (writes whole : Nat)
    (early : whole < (plan.runOnDisk saves writes).1.length) :
    ∃ left failure, plan.run (stoppedAt saves (writes + whole)) writes = (left, .error failure) ∧
      left.image = imageAfter c.image ((plan.runOnDisk saves writes).1.take whole) := by
  induction fits generalizing writes whole with
  | ended => exact absurd early (Nat.not_lt_zero _)
  | @save c prepared next same later ih =>
      have ready := same.hasPath hasPath
      cases whole with
      | zero =>
          obtain ⟨failure, fails⟩ := Coordinator.persistLocked_faulted ready .replace
          refine ⟨{ prepared with persistenceDegraded := true }, failure, ?_, same.image⟩
          rw [run, stoppedAt, if_neg (by omega), fails]
      | succ whole =>
          have leaves := Coordinator.persistOnDisk_leaves ready (saves writes)
          have count := Coordinator.persistOnDisk_count ready (saves writes)
          have decided := Coordinator.persistOnDisk_snd ready (saves writes) (saves writes).fault
            fun _ => rfl
          rw [runOnDisk] at early ⊢
          rw [run, stoppedAt, if_pos (by omega), decided]
          generalize prepared.persistOnDisk (saves writes) = saved at *
          obtain ⟨made, reached, failure | _⟩ := saved
          · have none : made.length ≤ 1 := count.1
            dsimp only at early
            omega
          · have single : made.length = 1 := count.2 rfl
            have place : writes + (whole + 1) = writes + 1 + whole := by omega
            dsimp only at early ⊢
            rw [List.length_append, single] at early
            obtain ⟨left, failure, stopped, image⟩ := ih reached
              (leaves.hasPath ready) (writes + 1) whole (by omega)
            have front :
                (made ++ ((next reached).runOnDisk saves (writes + 1)).1).take (whole + 1) =
                  made ++ ((next reached).runOnDisk saves (writes + 1)).1.take whole := by
              rw [List.take_append, List.take_of_length_le (by omega), single]
              rfl
            refine ⟨left, failure, place ▸ stopped, image.trans ?_⟩
            rw [leaves.image, same.image, front, imageAfter_append]

end SavePlan

/-! ## Requests on disk -/

section Requests

variable [MetricReal R] [CanonicalDigests R] {c : Coordinator R} {request : Request R}
  {fault : Option SaveFault}

omit [MetricReal R] [CanonicalDigests R] in
theorem Coordinator.replacing_sameProcess (c : Coordinator R) (request : RegisterWorkerRequest) :
    c.SameProcess (c.replacing request) := by
  have counted : c.SameProcess c.nextSequence := ⟨rfl, rfl, rfl, rfl⟩
  exact counted.trans (replaceIncarnations_sameProcess ..)

/-- What a request hands to storage belongs to its process. -/
theorem Saving.sameProcess {prepared : Coordinator R} {undo : Coordinator R → Coordinator R}
    {answer : Check Status → Reply R} (saves : Saving c request prepared undo answer) :
    c.SameProcess prepared := by
  cases saves with
  | @register request =>
      exact (c.replacing_sameProcess request).trans ⟨rfl, rfl, rfl, rfl⟩
  | @claim request live =>
      exact (c.claimLoop_sameProcess request live).trans ⟨rfl, rfl, rfl, rfl⟩
  | @commit request check registered record guarded evidence accepted =>
      have counted : c.SameProcess c.nextSequence := ⟨rfl, rfl, rfl, rfl⟩
      have kept := counted.trans
        (Coordinator.registerArtifacts_sameProcess request.envelope request.artifacts _)
      rw [accepted] at kept
      exact kept.trans ⟨rfl, rfl, rfl, rfl⟩
  | refuseObservation =>
      unfold Coordinator.rejectObservation
      split <;> exact ⟨rfl, rfl, rfl, rfl⟩
  | finalize =>
      unfold Coordinator.deciding
      split <;> exact ⟨rfl, rfl, rfl, rfl⟩
  | _ => exact ⟨rfl, rfl, rfl, rfl⟩

theorem Saving.undo_image {prepared : Coordinator R} {undo : Coordinator R → Coordinator R}
    {answer : Check Status → Reply R} (saves : Saving c request prepared undo answer)
    (unsaved : Coordinator R) : (undo unsaved).image = unsaved.image := by
  cases saves <;> rfl

/-- A request that does not end with a save leaves the image alone. -/
theorem Ending.image {ended : Coordinator R × Reply R} (ending : Ending c fault request ended)
    (unsaved : ∀ prepared undo answer, Saving c request prepared undo answer →
      ended ≠ prepared.endWith fault undo answer) : ended.1.image = c.image := by
  cases ending with
  | saving saves => exact absurd rfl (unsaved _ _ _ saves)
  | @replaced request => exact (c.replacing_sameProcess request).image
  | @idle request live => exact (c.claimLoop_sameProcess request live).image
  | @artifactsKept request check registered failure guarded refused =>
      have kept := Coordinator.registerArtifacts_sameProcess request.envelope request.artifacts
        c.nextSequence
      rw [refused] at kept
      exact kept.image
  | @artifactsWithdrawn request check registered failure guarded accepted =>
      have kept := Coordinator.registerArtifacts_sameProcess request.envelope request.artifacts
        c.nextSequence
      rw [accepted] at kept
      obtain ⟨experiments, positions, withdrawn⟩ := Coordinator.withdrawArtifacts_frame
        request.envelope (request.artifacts.map ArtifactRecord.id) registered
      rw [withdrawn]
      exact kept.image
  | _ => rfl

variable [BitPattern R]

/-- What a request hands to the storage: the attempt to save with which it ends, if it ends so. -/
inductive Coordinator.Hands (c : Coordinator R) (request : Request R) (course : SaveCourse) :
    List (SaveAttempt R) → Prop where
  | saving {prepared : Coordinator R} {undo : Coordinator R → Coordinator R}
      {answer : Check Status → Reply R} (saves : Saving c request prepared undo answer)
      (ends : c.perform request course.fault = prepared.endWith course.fault undo answer) :
      Hands c request course (prepared.persistOnDisk course).1
  | nothing (unsaved : ∀ prepared undo answer, Saving c request prepared undo answer →
      c.perform request course.fault ≠ prepared.endWith course.fault undo answer) :
      Hands c request course []

theorem Coordinator.Hands.leaves {course : SaveCourse} {made : List (SaveAttempt R)}
    (hands : c.Hands request course made) (hasPath : c.config.statePath ≠ []) :
    c.Leaves made (c.perform request course.fault).1 ∧ made.length ≤ 1 := by
  have config := (c.perform_operated request course.fault).config
  cases hands with
  | @saving prepared undo answer saves ends =>
      have same := saves.sameProcess
      have ready := same.hasPath hasPath
      have saved := same.leaves.trans (persistOnDisk_leaves ready course)
      have image : (prepared.endWith course.fault undo answer).1.image =
          (prepared.persistOnDisk course).2.1.image := by
        rw [← persistOnDisk_snd ready course course.fault fun _ => rfl]
        unfold endWith
        split
        · rename_i reached persisted
          rw [persisted]
        · rename_i reached failure persisted
          rw [persisted, saves.undo_image]
      refine ⟨⟨config, saved.serialized, ?_⟩, (persistOnDisk_count ready course).1⟩
      rw [ends, image]
      exact saved.image
  | nothing unsaved =>
      exact ⟨⟨config, nofun, (c.perform_ending course.fault request).image unsaved⟩,
        Nat.zero_le _⟩

end Requests

/-! ## The image at the state path -/

section Holds

variable [BitPattern R] {path : Text} {directory : Directory}

/-- The directory holds an image: its bytes at the path, or no file there. -/
def Holds (path : Text) (directory : Directory) (image : Option (CoordinatorState R)) : Prop :=
  directory (Persistence.filename path) = image.map Persistence.image

/-- Operations on other files keep the image. -/
theorem Holds.untouched {image : Option (CoordinatorState R)} (holds : Holds path directory image)
    {operations : List DirectoryOperation}
    (apart : ∀ operation ∈ operations, ¬ operation.Touches (Persistence.filename path)) :
    Holds path (FileOperation.performAll operations directory) image :=
  (FileOperation.performAll_untouched apart directory).trans holds

/-- Attempts that are stopped anywhere leave what some number of whole attempts leave. -/
theorem Holds.stopped {image : Option (CoordinatorState R)} (holds : Holds path directory image)
    {limits : Limits} {made : List (SaveAttempt R)}
    (serialized : Coordinator.Serialized limits made) (done : Nat) :
    ∃ whole ≤ made.length,
      Holds path (FileOperation.performAll
        ((made.flatMap (SaveAttempt.operations path limits)).take done) directory)
        (imageAfter image (made.take whole)) ∧
      ((made.flatMap (SaveAttempt.operations path limits)).length ≤ done →
        whole = made.length) := by
  have each : ∀ attempt ∈ made, FileOperation.Replaces (Persistence.filename path)
      (attempt.operations path limits) (attempt.outcome.map Persistence.image) :=
    fun attempt member => Coordinator.attempt_replaces (serialized attempt member)
  obtain ⟨whole, bounded, left, finished⟩ :=
    FileOperation.performAll_take_attempts each directory done
  refine ⟨whole, bounded, left.trans ?_, finished⟩
  rw [holds, imageAfter, map_lastHeld, List.map_map]
  rfl

/-- Attempts that are carried out leave what the last one that went through leaves. -/
theorem Holds.carriedOut {image : Option (CoordinatorState R)} (holds : Holds path directory image)
    {limits : Limits} {made : List (SaveAttempt R)}
    (serialized : Coordinator.Serialized limits made) :
    Holds path (FileOperation.performAll
      (made.flatMap (SaveAttempt.operations path limits)) directory) (imageAfter image made) := by
  obtain ⟨whole, -, left, finished⟩ := holds.stopped serialized
    (made.flatMap (SaveAttempt.operations path limits)).length
  rwa [List.take_length, finished le_rfl, List.take_length] at left

theorem discarding_untouched {config : Config} (samePath : config.statePath = path)
    (course : StartCourse) :
    ∀ operation ∈ Coordinator.discarding config course,
      ¬ operation.Touches (Persistence.filename path) := by
  intro operation member
  unfold Coordinator.discarding Persistence.discardTemporaryImages at member
  split at member
  · cases member
  · obtain ⟨name, found, rfl⟩ := List.mem_map.mp member
    have begins := (List.mem_filter.mp found).2
    rw [Bool.and_eq_true] at begins
    rw [← samePath]
    exact Persistence.filename_ne_of_prefix begins.1

variable [MetricReal R]

/-- A state whose image is held is loaded, if its records leave room for the header record. -/
theorem Holds.loads {state : CoordinatorState R} (holds : Holds path directory (some state))
    {limits : Limits} (storable : Persistence.Storable limits state)
    (room : 1 + state.workers.length + state.experiments.size ≤ limits.maxPersistedRecords) :
    Persistence.load path directory limits none = .ok state := by
  have decoded := Persistence.deserialize_image_of_room storable room
  have small := storable.image
  rw [Persistence.load, holds]
  simp [require, small, decoded, bind, Except.bind]

theorem Holds.opens {state : CoordinatorState R} (holds : Holds path directory (some state))
    {config : Config} (samePath : config.statePath = path) (hasPath : path ≠ [])
    (storable : Persistence.Storable config.limits state)
    (room : 1 + state.workers.length + state.experiments.size ≤
      config.limits.maxPersistedRecords) :
    Coordinator.loadOnDisk config directory none = .ok (some state, state) := by
  subst samePath
  rw [Coordinator.loadOnDisk, if_neg hasPath, holds.loads storable room, holds]
  rfl

/-- What is loaded from a directory is the state whose image it holds. -/
theorem loadOnDisk_ok {config : Config} (samePath : config.statePath = path) (hasPath : path ≠ [])
    {image found : Option (CoordinatorState R)} (holds : Holds path directory image)
    (storable : ∀ state, image = some state → Persistence.Storable config.limits state)
    {reading : Option ReadFault} {loaded : CoordinatorState R}
    (read : Coordinator.loadOnDisk config directory reading = .ok (found, loaded)) :
    found = image ∧ Coordinator.loadState config image = .ok loaded := by
  subst samePath
  unfold Coordinator.loadOnDisk at read
  unfold Coordinator.loadState
  rw [if_neg hasPath] at read ⊢
  rw [Holds] at holds
  cases image with
  | none =>
      rw [holds] at read
      obtain ⟨rfl, rfl⟩ := Prod.mk.inj (Except.ok.inj read)
      exact ⟨rfl, rfl⟩
  | some state =>
      rw [holds, Option.map_some] at read
      cases decoded :
          Persistence.load (R := R) config.statePath directory config.limits reading with
      | error failure =>
          rw [decoded] at read
          cases read
      | ok restored =>
          rw [decoded] at read
          obtain ⟨rfl, rfl⟩ := Prod.mk.inj (Except.ok.inj read)
          obtain ⟨bytes, present, restores⟩ := Persistence.load_eq_ok decoded
          rw [holds] at present
          obtain rfl := Option.some.inj present
          have fits := storable state rfl
          have room := Persistence.room_of_deserialize_image fits restores
          rw [Persistence.deserialize_image_of_room fits room] at restores
          obtain rfl := Except.ok.inj restores
          have bounded := fits.facts.2.2.1
          refine ⟨rfl, ?_⟩
          simp [Coordinator.load, require, room, fits.workers, bounded, fits.valid, bind,
            Except.bind, pure, Except.pure]

omit [BitPattern R] in
/-- A start that loads a state carries out the plan of its reconciliation. -/
theorem create_of_loaded {config : Config} {image : Option (CoordinatorState R)}
    {loaded : CoordinatorState R} (coherent : config.limits.isCoherent = true)
    (read : Coordinator.loadState config image = .ok loaded) (outcomes : WriteOutcomes) :
    let ended := (Coordinator.boot config image loaded).reconcilePlan.run outcomes 0
    Coordinator.create config image outcomes = (ended.1.image, ended.2.map fun _ => ended.1) := by
  intro ended
  have same : ended = (Coordinator.boot config image loaded).reconcileRecoveredState outcomes :=
    Coordinator.reconcilePlan_run _ outcomes
  rw [Coordinator.create, if_neg (by simp [coherent]), read]
  dsimp only
  rw [← same]
  obtain ⟨c, failure | _⟩ := ended <;> rfl

/-- A start on disk ends before it saves anything, or carries out the plan of its reconciliation. -/
theorem createOnDisk_cases {config : Config} (samePath : config.statePath = path)
    (hasPath : path ≠ []) {image : Option (CoordinatorState R)}
    (holds : Holds path directory image)
    (storable : ∀ state, image = some state → Persistence.Storable config.limits state)
    {course : StartCourse} {discarded : List DirectoryOperation} {made : List (SaveAttempt R)}
    {result : Result (Coordinator R)}
    (created : Coordinator.createOnDisk config directory course = (discarded, made, result)) :
    (∀ operation ∈ discarded, ¬ operation.Touches (Persistence.filename path)) ∧
      ((made = [] ∧ ∃ failure, result = .error failure) ∨
        ∃ loaded, config.limits.isCoherent = true ∧
          Coordinator.loadState config image = .ok loaded ∧
          let ended :=
            (Coordinator.boot config image loaded).reconcilePlan.runOnDisk course.saves 0
          made = ended.1 ∧ result = ended.2.2.map fun _ => ended.2.1) := by
  have apart := discarding_untouched samePath course
  unfold Coordinator.createOnDisk at created
  split at created
  · obtain ⟨rfl, rfl, rfl⟩ := created
    exact ⟨fun _ member => absurd member List.not_mem_nil, .inl ⟨rfl, _, rfl⟩⟩
  · rename_i coherent
    rw [Bool.not_eq_true', Bool.not_eq_false] at coherent
    dsimp only at created
    split at created
    · obtain ⟨rfl, rfl, rfl⟩ := created
      exact ⟨apart, .inl ⟨rfl, _, rfl⟩⟩
    · rename_i found loaded read
      obtain ⟨rfl, loads⟩ := loadOnDisk_ok samePath hasPath (holds.untouched apart) storable read
      generalize ran : (Coordinator.boot config found loaded).reconcilePlan.runOnDisk
        course.saves 0 = ended at created
      have same : discarded = Coordinator.discarding config course ∧ made = ended.1 ∧
          result = ended.2.2.map fun _ => ended.2.1 := by
        obtain ⟨attempts, c, failure | _⟩ := ended <;> obtain ⟨rfl, rfl, rfl⟩ := created <;>
          exact ⟨rfl, rfl, rfl⟩
      obtain ⟨rfl, ends⟩ := same
      exact ⟨apart, .inr ⟨loaded, coherent, loads, ran ▸ ends⟩⟩

/-- A start on disk goes as one whose saves have the same outcomes; stopped after some attempts, it
leaves the image as it was or what a start that fails leaves. -/
theorem createOnDisk_refines {config : Config} (samePath : config.statePath = path)
    (hasPath : path ≠ []) {image : Option (CoordinatorState R)}
    (holds : Holds path directory image)
    (storable : ∀ state, image = some state → Persistence.Storable config.limits state)
    {course : StartCourse} {discarded : List DirectoryOperation} {made : List (SaveAttempt R)}
    {result : Result (Coordinator R)}
    (created : Coordinator.createOnDisk config directory course = (discarded, made, result)) :
    (∀ operation ∈ discarded, ¬ operation.Touches (Persistence.filename path)) ∧
      Coordinator.Serialized config.limits made ∧
      (∀ c, result = .ok c → c.config = config ∧ c.image = imageAfter image made ∧
        Coordinator.create config image course.outcomes = (c.image, .ok c)) ∧
      ∀ whole ≤ made.length, imageAfter image (made.take whole) = image ∨
        (∃ outcomes failure, Coordinator.create config image outcomes =
          (imageAfter image (made.take whole), .error failure)) ∨
        whole = made.length ∧ ∃ c, result = .ok c := by
  obtain ⟨apart, ⟨rfl, failure, rfl⟩ | ⟨loaded, coherent, read, rfl, rfl⟩⟩ :=
    createOnDisk_cases samePath hasPath holds storable created
  · refine ⟨apart, nofun, nofun, fun whole _ => .inl ?_⟩
    rw [List.take_nil]
    rfl
  · have fits := (Coordinator.boot config image loaded).reconcilePlan_from
    have ready : (Coordinator.boot config image loaded).config.statePath ≠ [] := by
      rw [← samePath] at hasPath
      exact hasPath
    have leaves := SavePlan.runOnDisk_leaves course.saves fits ready 0
    have whole := SavePlan.runOnDisk_snd course.saves fits ready course.outcomes 0
      fun _ _ _ => rfl
    have creates := create_of_loaded coherent read course.outcomes
    rw [whole] at creates
    refine ⟨apart, leaves.serialized, fun c succeeded => ?_, fun count bounded => ?_⟩
    · generalize (Coordinator.boot config image loaded).reconcilePlan.runOnDisk course.saves 0 =
        ended at leaves creates succeeded
      obtain ⟨attempts, reached, failure | _⟩ := ended
      · cases succeeded
      · obtain rfl := Except.ok.inj succeeded
        exact ⟨leaves.config, leaves.image, creates⟩
    · rcases Nat.lt_or_eq_of_le bounded with early | rfl
      · obtain ⟨left, failure, stopped, kept⟩ :=
          SavePlan.run_stoppedAt course.saves fits ready 0 count early
        refine .inr (.inl ⟨SavePlan.stoppedAt course.saves (0 + count), failure, ?_⟩)
        have fails := create_of_loaded coherent read (SavePlan.stoppedAt course.saves (0 + count))
        rw [stopped] at fails
        exact fails.trans (Prod.ext kept rfl)
      · rw [List.take_length]
        generalize (Coordinator.boot config image loaded).reconcilePlan.runOnDisk course.saves 0 =
          ended at leaves creates
        obtain ⟨attempts, reached, failure | _⟩ := ended
        · exact .inr (.inl ⟨course.outcomes, failure, creates.trans (Prod.ext leaves.image rfl)⟩)
        · exact .inr (.inr ⟨rfl, reached, rfl⟩)

end Holds

/-! ## Machines -/

/-- A coordinator process with the state directory, or only the directory. -/
inductive Machine (R : Type) where
  | running (coordinator : Coordinator R) (directory : Directory)
  | down (directory : Directory)

/-- What a step of a machine has to do with storage: the states whose saves went through, and the
limits of the process it starts. -/
structure Deed (R : Type) where
  saved : List (CoordinatorState R) := []
  started : Option Limits := none

/-- The states of the attempts that go through. -/
def savedBy (made : List (SaveAttempt R)) : List (CoordinatorState R) :=
  made.filterMap SaveAttempt.outcome

section Machine

variable [BitPattern R] [MetricReal R] [CanonicalDigests R]

/-- Steps of a machine whose processes share one state path.  A request, or a start, may be stopped
after any number of its file operations; a start that fails is stopped after the last of them. -/
inductive Machine.Step (path : Text) : Machine R → Deed R → Machine R → Prop where
  | request {c : Coordinator R} {directory : Directory} {request : Request R} {course : SaveCourse}
      {made : List (SaveAttempt R)} (hands : c.Hands request course made) :
      Step path (.running c directory) { saved := savedBy made }
        (.running (c.perform request course.fault).1
          (FileOperation.performAll
            (made.flatMap (SaveAttempt.operations path c.limits)) directory))
  | interrupted {c : Coordinator R} {directory : Directory} {request : Request R}
      {course : SaveCourse} {made : List (SaveAttempt R)} (hands : c.Hands request course made)
      (done : Nat) :
      Step path (.running c directory) { saved := savedBy made }
        (.down (FileOperation.performAll
          ((made.flatMap (SaveAttempt.operations path c.limits)).take done) directory))
  | start {config : Config} {directory : Directory} {course : StartCourse}
      {discarded : List DirectoryOperation} {made : List (SaveAttempt R)} {c : Coordinator R}
      (samePath : config.statePath = path)
      (created : Coordinator.createOnDisk config directory course = (discarded, made, .ok c)) :
      Step path (.down directory) { saved := savedBy made, started := some config.limits }
        (.running c (FileOperation.performAll
          (discarded ++ made.flatMap (SaveAttempt.operations path config.limits)) directory))
  | stoppedStart {config : Config} {directory : Directory} {course : StartCourse}
      {discarded : List DirectoryOperation} {made : List (SaveAttempt R)}
      {result : Result (Coordinator R)} (samePath : config.statePath = path)
      (created : Coordinator.createOnDisk config directory course = (discarded, made, result))
      (done : Nat) :
      Step path (.down directory) { saved := savedBy made, started := some config.limits }
        (.down (FileOperation.performAll
          ((discarded ++ made.flatMap (SaveAttempt.operations path config.limits)).take done)
          directory))

/-- A machine represents a world: the same process, and a directory that holds the image. -/
inductive Machine.Represents (path : Text) : Machine R → World R → Prop where
  | running {c : Coordinator R} {directory : Directory} (samePath : c.config.statePath = path)
      (holds : Holds path directory c.image) :
      Represents path (.running c directory) (.running c)
  | down {image : Option (CoordinatorState R)} {directory : Directory}
      (holds : Holds path directory image) : Represents path (.down directory) (.down image)

variable {path : Text} {Filed : CoordinatorState R → Prop} {Used : Limits → Prop}

omit [BitPattern R] [MetricReal R] [CanonicalDigests R] in
/-- The image that attempts leave was there before them or was saved by one of them. -/
theorem imageAfter_filed {image : Option (CoordinatorState R)} {made : List (SaveAttempt R)}
    (filed : ∀ state, image = some state → Filed state)
    (saved : ∀ state ∈ savedBy made, Filed state) :
    ∀ state, imageAfter image made = some state → Filed state := by
  induction made generalizing image with
  | nil => exact filed
  | cons attempt later ih =>
      have first : ∀ state, attempt.outcome.or image = some state → Filed state := by
        intro state held
        cases outcome : attempt.outcome with
        | none =>
            rw [outcome] at held
            exact filed state held
        | some left =>
            rw [outcome] at held
            obtain rfl := Option.some.inj held
            exact saved left (List.mem_filterMap.mpr ⟨attempt, List.mem_cons_self, outcome⟩)
      have within : savedBy later ⊆ savedBy (attempt :: later) :=
        List.filterMap_subset _ (List.subset_cons_self attempt later)
      exact ih first fun state member => saved state (within member)

omit [BitPattern R] [MetricReal R] [CanonicalDigests R] in
theorem imageAfter_take_filed {image : Option (CoordinatorState R)} {made : List (SaveAttempt R)}
    (filed : ∀ state, image = some state → Filed state)
    (saved : ∀ state ∈ savedBy made, Filed state) (whole : Nat) :
    ∀ state, imageAfter image (made.take whole) = some state → Filed state :=
  imageAfter_filed filed fun state member =>
    saved state (List.filterMap_subset _ (List.take_subset whole made) member)

/-- Every step of a machine is a step of the world it represents, several of them or none. -/
theorem Machine.Step.refines (hasPath : path ≠ [])
    (storable : ∀ state limits, Filed state → Used limits → Persistence.Storable limits state)
    {machine next : Machine R} {deed : Deed R} (step : Machine.Step path machine deed next)
    (saved : ∀ state ∈ deed.saved, Filed state)
    (started : ∀ limits, deed.started = some limits → Used limits)
    {world : World R} (reachable : world.Reachable path)
    (represents : machine.Represents path world)
    (filed : ∀ state, world.image = some state → Filed state) :
    ∃ later : World R, later.Reachable path ∧ next.Represents path later ∧
      ∀ state, later.image = some state → Filed state := by
  cases step with
  | @request c directory request course made hands =>
      cases represents with
      | running samePath holds =>
          obtain ⟨leaves, -⟩ := hands.leaves (samePath ▸ hasPath)
          refine ⟨.running (c.perform request course.fault).1,
            reachable.step (.request c request course.fault),
            .running (leaves.config ▸ samePath) ?_, ?_⟩
          · rw [leaves.image]
            exact holds.carriedOut leaves.serialized
          · rw [World.image, leaves.image]
            exact imageAfter_filed filed saved
  | @interrupted c directory request course made hands done =>
      cases represents with
      | running samePath holds =>
          obtain ⟨leaves, single⟩ := hands.leaves (samePath ▸ hasPath)
          obtain ⟨whole, bounded, left, -⟩ := holds.stopped leaves.serialized done
          have after := imageAfter_take_filed filed saved whole
          refine ⟨.down (imageAfter c.image (made.take whole)), ?_, .down left, after⟩
          rcases Nat.eq_zero_or_pos whole with rfl | positive
          · exact reachable.step (.stop c)
          · have all : made.take whole = made := List.take_of_length_le (by omega)
            have stopped := (reachable.step (.request c request course.fault)).step
              (.stop (c.perform request course.fault).1)
            rw [leaves.image] at stopped
            rwa [all]
  | @start config directory course discarded made c samePath created =>
      cases represents with
      | @down image directory holds =>
          obtain ⟨apart, serialized, starts, -⟩ := createOnDisk_refines samePath hasPath holds
            (fun state held => storable state _ (filed state held) (started _ rfl)) created
          obtain ⟨config, kept, creates⟩ := starts c rfl
          refine ⟨.running c, reachable.start samePath creates, .running (config ▸ samePath) ?_, ?_⟩
          · rw [FileOperation.performAll_append, kept]
            exact (holds.untouched apart).carriedOut serialized
          · rw [World.image, kept]
            exact imageAfter_filed filed saved
  | @stoppedStart config directory course discarded made result samePath created done =>
      cases represents with
      | @down image directory holds =>
          obtain ⟨apart, serialized, starts, stops⟩ := createOnDisk_refines samePath hasPath holds
            (fun state held => storable state _ (filed state held) (started _ rfl)) created
          have begun :
              Holds path (FileOperation.performAll (discarded.take done) directory) image :=
            holds.untouched fun operation member => apart operation (List.mem_of_mem_take member)
          obtain ⟨whole, bounded, left, -⟩ := begun.stopped serialized (done - discarded.length)
          rw [List.take_append, FileOperation.performAll_append]
          refine ⟨.down (imageAfter image (made.take whole)), ?_, .down left,
            imageAfter_take_filed filed saved whole⟩
          rcases stops whole bounded with same | ⟨outcomes, failure, refused⟩ | ⟨rfl, c, rfl⟩
          · rwa [same]
          · exact reachable.step (.failedStart samePath refused)
          · obtain ⟨-, kept, creates⟩ := starts c rfl
            rw [List.take_length, ← kept]
            exact (reachable.start samePath creates).step (.stop c)

/-- However processes come and go over the state directory, and wherever they are stopped between
two file operations, what is in memory and at the state path is a world that saves in one step: the
file is the whole image of the last state saved.  The states that were saved must be storable under
the limits of the processes that are started. -/
theorem Machine.refines_world (hasPath : path ≠ []) {directory : Directory}
    (fresh : directory (Persistence.filename path) = none) {deeds : List (Deed R)}
    {machine : Machine R} (run : Run (Machine.Step path) (.down directory) deeds machine)
    (storable : ∀ deed ∈ deeds, ∀ state ∈ deed.saved, ∀ later ∈ deeds, ∀ limits,
      later.started = some limits → Persistence.Storable limits state) :
    ∃ world : World R, world.Reachable path ∧ machine.Represents path world := by
  have storable' : ∀ state limits, (∃ deed ∈ deeds, state ∈ deed.saved) →
      (∃ later ∈ deeds, later.started = some limits) → Persistence.Storable limits state :=
    fun state limits ⟨deed, member, saved⟩ ⟨later, among, starts⟩ =>
      storable deed member state saved later among limits starts
  have kept : ∀ {reached : Machine R} {made : List (Deed R)},
      Run (Machine.Step path) (.down directory) made reached → made ⊆ deeds →
      ∃ world : World R, world.Reachable path ∧ reached.Represents path world ∧
        ∀ state, world.image = some state → ∃ deed ∈ deeds, state ∈ deed.saved := by
    intro reached made partly within
    induction partly with
    | nil => exact ⟨.down none, .empty path, .down fresh, nofun⟩
    | @snoc middle target labels deed earlier last ih =>
        obtain ⟨world, reachable, represents, filed⟩ :=
          ih fun label member => within (List.mem_append_left _ member)
        have here : deed ∈ deeds := within (List.mem_append_right _ List.mem_cons_self)
        exact last.refines hasPath storable' (fun state saved => ⟨deed, here, saved⟩)
          (fun limits starts => ⟨deed, here, starts⟩) reachable represents filed
  obtain ⟨world, reachable, represents, -⟩ := kept run fun _ member => member
  exact ⟨world, reachable, represents⟩

end Machine

/-! ## A save that is stopped, and the next start -/

namespace Sample

/-- The deployment of a coordinator that is filed under a short path. -/
def filing : Config := { statePath := text "s" }

/-- A save that goes through in one piece. -/
def straight (sequence : Nat) : SaveCourse where
  sequence := sequence
  pieces image := [image]
  whole image := List.append_nil image

/-- A start that meets no leftovers. -/
def orderly : StartCourse where
  listed := []
  removable _ := true
  reading := none
  saves := straight

/-- The coordinator that starts from an empty directory. -/
def filer : Coordinator UInt64 := Coordinator.boot filing none {}

/-- The coordinator after it has saved its state. -/
def filed : Coordinator UInt64 := { filer with image := some filer.state }

/-- The state of a coordinator that has done nothing. -/
def blank : CoordinatorState UInt64 := { lastEpoch := 1 }

theorem blank_fits (limits : Limits) : Persistence.Fits limits blank where
  formatVersion := by decide
  lastEpoch := by decide
  lastSequence := by decide
  nextWorkerRegistrationSequence := by decide
  experimentMark := by decide
  hypothesisMark := by decide
  branchMark := by decide
  metricMark := by decide
  policyMark := by decide
  trialMark := by decide
  attemptMark := by decide
  observationMark := by decide
  artifactMark := by decide
  decisionMark := by decide
  rollbackMark := by decide
  workers := by simp [blank]
  experiments := by simp [blank, OrderedMap.empty]

theorem blank_lengths :
    (Persistence.records blank).map (fun record => record.2.length) = [116] := by
  decide

theorem blank_storable : Persistence.Storable filing.limits blank where
  valid := by decide
  trials := by simp [blank, OrderedMap.empty]
  attempts := by simp [blank, OrderedMap.empty]
  fits := blank_fits _
  workers := by decide
  payloads := by
    intro record member
    have size : record.2.length ∈ [116] := blank_lengths ▸ List.mem_map_of_mem member
    rw [List.mem_singleton] at size
    omega
  image := by
    have total :
        ((Persistence.records blank).map fun record => 12 + record.2.length).sum = 128 := by
      decide
    rw [Persistence.image_length, total]
    decide
  word := by decide

theorem straight_serialized (sequence : Nat) :
    Coordinator.Serialized filing.limits [⟨blank, straight sequence⟩] := by
  intro attempt member
  rw [List.mem_singleton.mp member]
  change serializable blank filing.limits = .ok ()
  decide

/-- The directory after the save. -/
def shelf : Directory :=
  FileOperation.performAll
    ([⟨blank, straight 1⟩].flatMap (SaveAttempt.operations (text "s") filing.limits)) fun _ => none

/-- The directory after a second save was stopped. -/
def torn : Directory :=
  FileOperation.performAll
    (([⟨blank, straight 2⟩].flatMap (SaveAttempt.operations (text "s") filing.limits)).take 1) shelf

theorem torn_holds : Holds (text "s") torn (some blank) := by
  have empty : Holds (R := UInt64) (text "s") (fun _ => none) none := rfl
  obtain ⟨whole, bounded, left, -⟩ := (empty.carriedOut (straight_serialized 1)).stopped
    (straight_serialized 2) 1
  rcases whole with _ | _ | whole
  · exact left
  · exact left
  · simp at bounded

theorem restarted : Coordinator.createOnDisk (R := UInt64) filing torn orderly =
    ([], [], .ok (Coordinator.boot filing (some blank) blank)) := by
  have coherent : filing.limits.isCoherent = true := by decide
  have read : Coordinator.loadOnDisk filing torn orderly.reading = .ok (some blank, blank) :=
    torn_holds.opens rfl (by decide) blank_storable (by decide)
  have quiet : Coordinator.discarding filing orderly = [] := rfl
  rw [Coordinator.createOnDisk, if_neg (by simp [coherent])]
  dsimp only
  rw [quiet, FileOperation.performAll_nil, read]
  rfl

end Sample

/-- A coordinator starts from an empty directory, saves its state, is stopped while it writes the
temporary image of a second save, and starts again from what is left. -/
theorem refines_world_sample : ∃ world : World UInt64, world.Reachable (text "s") ∧
    (Machine.running (Coordinator.boot Sample.filing (some Sample.blank) Sample.blank)
      Sample.torn).Represents (text "s") world := by
  have hands : ∀ (c : Coordinator UInt64) (sequence : Nat),
      c.Hands .save (Sample.straight sequence) (c.persistOnDisk (Sample.straight sequence)).1 :=
    fun c sequence => .saving .save (Coordinator.settle_status _ _ _)
  have started : Coordinator.createOnDisk (R := UInt64) Sample.filing (fun _ => none)
      Sample.orderly = ([], [], .ok Sample.filer) := rfl
  have starts : Machine.Step (text "s") (.down fun _ => none)
      ⟨[], some Sample.filing.limits⟩ (.running Sample.filer fun _ => none) := by
    have begun := Machine.Step.start (show Sample.filing.statePath = text "s" from rfl) started
    exact begun
  have saves : Machine.Step (text "s") (.running Sample.filer fun _ => none)
      ⟨[Sample.blank], none⟩ (.running Sample.filed Sample.shelf) :=
    .request (hands Sample.filer 1)
  have stops : Machine.Step (text "s") (.running Sample.filed Sample.shelf)
      ⟨[Sample.blank], none⟩ (.down Sample.torn) :=
    .interrupted (hands Sample.filed 2) 1
  have restarts : Machine.Step (text "s") (.down Sample.torn) ⟨[], some Sample.filing.limits⟩
      (.running (Coordinator.boot Sample.filing (some Sample.blank) Sample.blank) Sample.torn) := by
    have begun := Machine.Step.start (show Sample.filing.statePath = text "s" from rfl)
      Sample.restarted
    exact begun
  refine Machine.refines_world (by decide) rfl
    (((Run.single starts).snoc saves |>.snoc stops).snoc restarts) ?_
  have known : ∀ deed ∈ [(⟨[], some Sample.filing.limits⟩ : Deed UInt64), ⟨[Sample.blank], none⟩,
      ⟨[Sample.blank], none⟩, ⟨[], some Sample.filing.limits⟩],
      (∀ state ∈ deed.saved, state = Sample.blank) ∧
        ∀ limits, deed.started = some limits → limits = Sample.filing.limits := by
    simp [eq_comm]
  intro deed member state saved later among limits started
  rw [(known deed member).1 state saved, (known later among).2 limits started]
  exact Sample.blank_storable

end ExperimentFabric
