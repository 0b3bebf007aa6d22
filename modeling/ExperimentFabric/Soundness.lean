import ExperimentFabric.Placement
import ExperimentFabric.Startup
import ExperimentFabric.Steps

/-!
# The invariant of every run

A running coordinator holds consistent, well arranged experiments, and the file always holds a state
from which recovery restores such experiments.  Both hold whatever the operations, whichever writes
fail and whenever processes stop and start.
-/

namespace ExperimentFabric

open Lib Relation

variable {R : Type}

/-! ## Steps of the durable state -/

section Steps

variable [MetricReal R] [CanonicalDigests R] {c : Coordinator R} {request : Request R}
  {old new : CoordinatorState R}

theorem moves_rewritten {experiment : ExperimentId} {before after : ExperimentRecord R}
    (moves : ReflTransGen (Move experiment) before after) : Rewritten before after := by
  induction moves with
  | refl => exact .refl before
  | tail _ last ih => exact ih.trans last.rewritten

theorem moves_lifecycle {marks : Watermarks} {experiment : ExperimentId}
    {before after : ExperimentRecord R} (life : Lifecycle marks before)
    (moves : ReflTransGen (Move experiment) before after) : Lifecycle marks after := by
  induction moves with
  | refl => exact life
  | tail _ last ih => exact ih.move last

omit [MetricReal R] [CanonicalDigests R] in
/-- Replacing one experiment by a consistent one. -/
theorem CoordinatorState.Consistent.assign (consistent : old.Consistent)
    (grows : old.watermarks.Grows new.watermarks) {experiment : ExperimentId}
    {record : ExperimentRecord R} (life : Lifecycle new.watermarks record)
    (stored : new.experiments = old.experiments.assign experiment record) : new.Consistent := by
  intro id other found
  rw [stored, OrderedMap.find?_assign] at found
  split at found
  · obtain rfl := Option.some.inj found
    exact life
  · exact (consistent id other found).mono grows

omit [MetricReal R] [CanonicalDigests R] in
theorem specRecord_lifecycle (marks : Watermarks) (spec : ExperimentSpec R) (id : ExperimentId)
    (hypothesis : HypothesisId) (policy : PolicyId) (metrics : List (MetricDefinition R))
    (expected : MetricId) (branches : List BranchDefinition) (sequence : Nat) :
    Lifecycle marks (spec.record id hypothesis policy metrics expected branches sequence) := by
  refine ⟨⟨?_, ?_, ?_, ?_, ?_⟩, ?_⟩ <;>
    · intro key value found
      simp [ExperimentSpec.record] at found

/-- A step of the durable state keeps its experiments consistent. -/
theorem StateStep.consistent (step : StateStep c request old new)
    (grows : old.watermarks.Grows new.watermarks) (consistent : old.Consistent) :
    new.Consistent := by
  cases step with
  | quiet same => exact fun id record found => (consistent id record (same ▸ found)).mono grows
  | change found effect stored =>
      exact consistent.assign grows
        (moves_lifecycle ((consistent _ _ found).mono grows) effect.moves) stored
  | create named accepted room defined valid allocated before absent stored =>
      exact consistent.assign grows (defined ▸ specRecord_lifecycle ..) stored
  | addTrial named guarded valid found fresh allocated stored =>
      exact consistent.assign grows ((consistent _ _ found).addTrial grows
        (fresh ▸ Nat.lt_succ_self _) allocated) stored
  | addTrialUndone named guarded found fresh stored =>
      have life := consistent _ _ found
      exact consistent.assign grows
        ((life.congr (life.addTrialUndone (fresh ▸ Nat.lt_succ_self _)) rfl).mono grows) stored
  | issue named guarded found opened trialFound claimable fresh allocated stored =>
      exact consistent.assign grows ((consistent _ _ found).issue grows trialFound
        (claimable_ready claimable) fresh allocated) stored
  | lose named stored =>
      intro id record found
      rw [stored, OrderedMap.find?_mapValues] at found
      obtain ⟨before, lookup, rfl⟩ := Option.map_eq_some_iff.mp found
      exact ((consistent id before lookup).mono grows).loseWorker ..
  | register named guarded fresh identity same =>
      exact fun id record found => (consistent id record (same ▸ found)).mono grows

/-- A step of the durable state keeps its experiments arranged. -/
theorem StateStep.arranged (step : StateStep c request old new)
    (consistent : old.Consistent) (arranged : old.Arranged) : new.Arranged := by
  cases step with
  | quiet same => exact arranged.evolve (same ▸ .refl .refl)
  | change found effect stored =>
      exact arranged.evolve (stored ▸ .assign .refl found (moves_rewritten effect.moves).keepsPlace)
  | create named accepted room defined valid allocated before absent stored =>
      subst defined
      refine arranged.create ?_ ?_ stored <;> rfl
  | @addTrial _ record _ branch _ named guarded valid found fresh allocated stored =>
      have branchFound := (Coordinator.createTrialGuard_ok guarded).branchFound
      have known : (record.findBranch branch.id).isSome = true := by
        rw [ExperimentRecord.findBranch_id branchFound, branchFound]
        rfl
      refine arranged.addTrial found known (fun other held lookup => ?_) stored
      by_contra present
      obtain ⟨trial, there⟩ := Option.ne_none_iff_exists'.mp present
      exact ((consistent other held lookup).trialBound _ trial there).not_gt
        (fresh ▸ Nat.lt_succ_self _)
  | @addTrialUndone experiment record _ branch payload named guarded found fresh stored =>
      have keeps : KeepsPlace record ((record.addTrial (record.newTrial experiment branch
          ⟨c.state.watermarks.trial + 1⟩ payload (c.currentSequence + 1))).removeTrial
            ⟨c.state.watermarks.trial + 1⟩) := by
        refine ⟨rfl, List.prefix_rfl, ?_⟩
        rw [(consistent _ record found).addTrialUndone (fresh ▸ Nat.lt_succ_self _)]
        exact .refl fun _ => rfl
      exact arranged.evolve (stored ▸ .assign .refl found keeps)
  | @issue claim live experiment record key trial branch id sequence named guarded found opened
      trialFound claimable fresh allocated stored =>
      have keeps : KeepsPlace record (record.issue key
          (record.newAttempt trial id claim.worker claim.boot c.epoch live.producer sequence)
          sequence) := by
        refine ⟨rfl, List.prefix_rfl, ?_⟩
        unfold ExperimentRecord.issue
        dsimp only
        apply OrderedMap.Evolves.modify
        · exact fun _ => rfl
        · exact fun _ _ => rfl
      exact arranged.evolve (stored ▸ .assign .refl found keeps)
  | lose named stored =>
      exact arranged.evolve
        (stored ▸ .mapValues fun record => (loseWorker_rewritten ..).keepsPlace)
  | register named guarded fresh identity same => exact arranged.evolve (same ▸ .refl .refl)

/-- A chain of steps keeps both. -/
theorem StateSteps.sound (steps : StateSteps c request old new)
    (consistent : old.Consistent) (arranged : old.Arranged) : new.Consistent ∧ new.Arranged := by
  induction steps with
  | refl => exact ⟨consistent, arranged⟩
  | tail _ last ih =>
      exact ⟨last.1.consistent last.2.marks ih.1, last.1.arranged ih.1 ih.2⟩

end Steps

/-! ## Recovery keeps the arrangement -/

theorem stage_keepsPlace (record : ExperimentRecord R) (sequence : Nat) :
    KeepsPlace record (record.stage sequence).2 := by
  have fields := stage_forget_fields record sequence
  refine ⟨?_, ?_, ?_⟩
  · rw [fields]
    rfl
  · rw [fields]
    exact List.prefix_rfl
  · exact stage_trials_evolve record sequence fun reached trial =>
      (stageTrial_staged reached trial).branch

theorem PartlyStaged.arranged {old new : CoordinatorState R} (staged : PartlyStaged old new)
    (arranged : old.Arranged) : new.Arranged := by
  refine arranged.evolve ⟨fun id record found => ?_, staged.absent⟩
  rcases staged.present id record found with same | ⟨sequence, same⟩
  · exact ⟨record, same, .refl record⟩
  · exact ⟨_, same, stage_keepsPlace record sequence⟩

/-- A record that agrees with a recovered one keeps the place of the original. -/
theorem keepsPlace_of_forget_eq {record original : ExperimentRecord R}
    (same : record.forget = original.recovered.forget) : KeepsPlace original record := by
  have definition : record.definition = original.definition :=
    congrArg (fun forgotten => forgotten.definition) same
  refine ⟨by rw [definition], definition ▸ List.prefix_rfl, ?_⟩
  refine ⟨fun key trial found => ?_, fun key absent => ?_⟩
  · have recovered : original.recovered.trials.find? key =
        some (original.reopened.recoveredTrial trial) := by
      simp [ExperimentRecord.recovered, found]
    obtain ⟨trial', found', equal⟩ := forget_trial same.symm recovered
    have branch : trial'.unsequenced.branch =
        (original.reopened.recoveredTrial trial).unsequenced.branch := by rw [equal]
    exact ⟨trial', found', branch.trans (recoveredTrial_kept original.reopened trial).2.1⟩
  · by_contra present
    obtain ⟨trial', found'⟩ := Option.ne_none_iff_exists'.mp present
    obtain ⟨trial, found, -⟩ := forget_trial same found'
    simp [ExperimentRecord.recovered, absent] at found

theorem Recovers.arranged {old new : CoordinatorState R} (recovers : Recovers old new)
    (arranged : old.Arranged) : new.Arranged := by
  refine arranged.evolve ⟨fun id record found => ?_, fun id absent => ?_⟩
  · have same := recovers.records id
    rw [found, Option.map_some] at same
    obtain ⟨after, lookup, equal⟩ := Option.map_eq_some_iff.mp same
    exact ⟨after, lookup, keepsPlace_of_forget_eq equal⟩
  · have same := recovers.records id
    rw [absent, Option.map_none] at same
    simpa using same

/-! ## The invariant of worlds -/

/-- The file holds a state that recovery can start from. -/
def SoundImage (path : Text) (image : Option (CoordinatorState R)) : Prop :=
  (path = [] → image = none) ∧
    ∀ state, image = some state → state.Saved ∧ state.Arranged

/-- The invariant of every world. -/
def World.Sound (path : Text) : World R → Prop
  | .running c => c.config.statePath = path ∧ c.state.Consistent ∧ c.state.Arranged ∧
      SoundImage path c.image
  | .down image => SoundImage path image

theorem emptyState_saved : ({} : CoordinatorState R).Saved :=
  fun id record found => by simp at found

theorem emptyState_arranged : ({} : CoordinatorState R).Arranged :=
  ⟨fun id record found => by simp at found,
    fun _ _ _ _ _ _ _ found => by simp at found⟩

theorem SoundImage.origin {path : Text} {image : Option (CoordinatorState R)}
    (sound : SoundImage path image) (config : Config) :
    (Coordinator.origin config image).Saved ∧ (Coordinator.origin config image).Arranged := by
  unfold Coordinator.origin
  split
  · exact ⟨emptyState_saved, emptyState_arranged⟩
  · cases image with
    | none => exact ⟨emptyState_saved, emptyState_arranged⟩
    | some state => exact sound.2 state rfl

/-- The origin of a start is the content of the file. -/
theorem SoundImage.origin_eq {path : Text} {config : Config}
    {image : Option (CoordinatorState R)} (sound : SoundImage path image)
    (samePath : config.statePath = path) : Coordinator.origin config image = image.getD {} := by
  unfold Coordinator.origin
  split
  · rename_i noPath
    rw [sound.1 (samePath.symm.trans noPath)]
    rfl
  · rfl

section World

variable [MetricReal R] [CanonicalDigests R]

omit [CanonicalDigests R] in
/-- What a start leaves is sound, whether or not it succeeds. -/
theorem create_sound {path : Text} {config : Config} {image : Option (CoordinatorState R)}
    (outcomes : WriteOutcomes) (samePath : config.statePath = path)
    (sound : SoundImage path image) :
    SoundImage path (Coordinator.create config image outcomes).1 ∧
      ∀ c, (Coordinator.create config image outcomes).2 = .ok c →
        World.Sound path (.running c) := by
  obtain ⟨saved, arranged⟩ := sound.origin config
  have outcome := Coordinator.create_spec config image outcomes saved
  have running : ∀ c, (Coordinator.create config image outcomes).2 = .ok c →
      c.state.Consistent ∧ c.state.Arranged := fun c started =>
    ⟨(outcome.recovers c started).consistent saved, (outcome.recovers c started).arranged arranged⟩
  have left : SoundImage path (Coordinator.create config image outcomes).1 := by
    by_cases noPath : config.statePath = []
    · rw [outcome.noPath noPath]
      exact sound
    · refine ⟨fun empty => (noPath (samePath.trans empty)).elim, fun state held => ?_⟩
      rcases outcome.written noPath state held with staged | ⟨c, started, rfl⟩
      · exact ⟨staged.saved saved, staged.arranged arranged⟩
      · exact ⟨(running c started).1.saved, (running c started).2⟩
  refine ⟨left, fun c started => ?_⟩
  obtain ⟨consistent, well⟩ := running c started
  exact ⟨by rw [outcome.configured c started, samePath], consistent, well,
    by rw [outcome.stored c started]; exact left⟩

/-- A request keeps a running coordinator sound. -/
theorem Coordinator.perform_sound {path : Text} {c : Coordinator R}
    (sound : World.Sound path (.running c)) (request : Request R) (fault : Option SaveFault) :
    World.Sound path (.running (c.perform request fault).1) := by
  obtain ⟨samePath, consistent, arranged, imageSound⟩ := sound
  obtain ⟨consistent', arranged'⟩ := (c.perform_steps request fault).sound consistent arranged
  have operated := c.perform_operated request fault
  refine ⟨by rw [operated.config, samePath], consistent', arranged', ?_⟩
  cases operated.outcome with
  | untouched image degraded => rw [image]; exact imageSound
  | failed image degraded => rw [image]; exact imageSound
  | written image degraded hasPath =>
      rw [image]
      refine ⟨fun empty => (hasPath (samePath.trans empty)).elim, ?_⟩
      rintro state ⟨⟩
      exact ⟨consistent'.saved, arranged'⟩

/-- Every step keeps the invariant. -/
theorem World.Step.sound {path : Text} {source target : World R} {event : Event R}
    (step : World.Step path source event target) (sound : source.Sound path) :
    target.Sound path := by
  cases step with
  | request c request fault => exact c.perform_sound sound request fault
  | stop c => exact sound.2.2.2
  | @start config image left outcomes c samePath started =>
      exact (create_sound outcomes samePath sound).2 c (by rw [started])
  | @failedStart config image left outcomes failure samePath refused =>
      have left := (create_sound outcomes samePath sound).1
      rw [refused] at left
      exact left

theorem World.Reachable.sound {path : Text} {world : World R} (reachable : world.Reachable path) :
    world.Sound path :=
  reachable.invariant ⟨fun _ => rfl, fun _ held => by cases held⟩
    fun _ _ _ sound step => step.sound sound

end World

end ExperimentFabric
