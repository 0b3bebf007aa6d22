import ExperimentFabric.Restart

/-!
# Starting from a saved image

What a startup leaves in memory and on disk.  Every image it writes on the way is the loaded state
with some of its experiments staged; the coordinator it returns holds the recovered experiments.
-/

namespace ExperimentFabric

open Lib

variable {R : Type}

/-- Every experiment satisfies the invariant that holds between operations. -/
def CoordinatorState.Consistent (state : CoordinatorState R) : Prop :=
  ∀ id record, state.experiments.find? id = some record → Lifecycle state.watermarks record

/-- Every experiment satisfies the invariant of saved records. -/
def CoordinatorState.Saved (state : CoordinatorState R) : Prop :=
  ∀ id record, state.experiments.find? id = some record → Recoverable state.watermarks record

theorem CoordinatorState.Consistent.saved {state : CoordinatorState R}
    (consistent : state.Consistent) : state.Saved :=
  fun id record found => (consistent id record found).recoverable

/-- The same experiments, some of them staged. -/
structure PartlyStaged (old new : CoordinatorState R) : Prop where
  watermarks : new.watermarks = old.watermarks
  absent : ∀ id, old.experiments.find? id = none → new.experiments.find? id = none
  present : ∀ id record, old.experiments.find? id = some record →
    new.experiments.find? id = some record ∨
      ∃ sequence, new.experiments.find? id = some (record.stage sequence).2

theorem PartlyStaged.refl (state : CoordinatorState R) : PartlyStaged state state :=
  ⟨rfl, fun _ absent => absent, fun _ _ found => .inl found⟩

/-- What staging one record keeps holds of every record after a stage. -/
theorem PartlyStaged.every {old new : CoordinatorState R} (staged : PartlyStaged old new)
    {property : ExperimentRecord R → Prop}
    (each : ∀ {record : ExperimentRecord R} (sequence : Nat), property record →
      property (record.stage sequence).2)
    (every : ∀ id record, old.experiments.find? id = some record → property record)
    (id : ExperimentId) (record : ExperimentRecord R)
    (found : new.experiments.find? id = some record) : property record := by
  cases before : old.experiments.find? id with
  | none => cases (staged.absent id before).symm.trans found
  | some original =>
      rcases staged.present id original before with same | ⟨sequence, same⟩
      · obtain rfl := Option.some.inj (same.symm.trans found)
        exact every id original before
      · obtain rfl := Option.some.inj (same.symm.trans found)
        exact each sequence (every id original before)

theorem PartlyStaged.saved {old new : CoordinatorState R} (staged : PartlyStaged old new)
    (saved : old.Saved) : new.Saved := by
  intro id record found
  rw [staged.watermarks]
  exact staged.every (fun sequence recoverable => (recoverable.stage sequence).1) saved id record
    found

namespace Coordinator

/-! ## Staging all experiments -/

/-- Progress of staging: the experiments named so far are staged, the others as loaded. -/
structure StagedUpTo (done : List ExperimentId) (old new : CoordinatorState R) : Prop where
  watermarks : new.watermarks = old.watermarks
  waiting : ∀ id, id ∉ done → new.experiments.find? id = old.experiments.find? id
  staged : ∀ id, id ∈ done → ∃ sequence, new.experiments.find? id =
    (old.experiments.find? id).map fun record => (record.stage sequence).2

theorem StagedUpTo.partly {done : List ExperimentId} {old new : CoordinatorState R}
    (progress : StagedUpTo done old new) : PartlyStaged old new where
  watermarks := progress.watermarks
  absent := fun id absent => by
    by_cases member : id ∈ done
    · obtain ⟨sequence, found⟩ := progress.staged id member
      simp [found, absent]
    · rw [progress.waiting id member, absent]
  present := fun id record found => by
    by_cases member : id ∈ done
    · obtain ⟨sequence, lookup⟩ := progress.staged id member
      exact .inr ⟨sequence, by simp [lookup, found]⟩
    · exact .inl (by rw [progress.waiting id member, found])

/-- Staging one more experiment. -/
theorem StagedUpTo.next {done : List ExperimentId} {old : CoordinatorState R} {c : Coordinator R}
    (progress : StagedUpTo done old c.state) {id : ExperimentId} (fresh : id ∉ done)
    {record : ExperimentRecord R} (found : c.state.experiments.find? id = some record) :
    StagedUpTo (done ++ [id]) old (c.stageExperiment id record).state where
  watermarks := progress.watermarks
  waiting := fun other absent => by
    simp only [List.mem_append, List.mem_singleton, not_or] at absent
    simp [stageExperiment, absent.2, progress.waiting other absent.1]
  staged := fun other member => by
    by_cases here : other = id
    · subst here
      refine ⟨c.currentSequence, ?_⟩
      rw [← progress.waiting other fresh, found]
      simp [stageExperiment]
    · obtain ⟨sequence, lookup⟩ := progress.staged other (by simpa [here] using member)
      exact ⟨sequence, by simpa [stageExperiment, here] using lookup⟩

/-- The experiments named in a list but absent need no staging. -/
theorem StagedUpTo.skip {done : List ExperimentId} {old new : CoordinatorState R}
    (progress : StagedUpTo done old new) {id : ExperimentId} (fresh : id ∉ done)
    (absent : new.experiments.find? id = none) : StagedUpTo (done ++ [id]) old new where
  watermarks := progress.watermarks
  waiting := fun other notDone => progress.waiting other (by simp_all)
  staged := fun other member => by
    by_cases here : other = id
    · subst here
      exact ⟨0, by rw [← progress.waiting other fresh, absent]; rfl⟩
    · exact progress.staged other (by simpa [here] using member)

/-- What the staging loop leaves: every image is partly staged, and after success every named
experiment is staged. -/
structure StageOutcome (old : CoordinatorState R) (all : List ExperimentId) (c ended : Coordinator R)
    (result : Result Nat) : Prop where
  image : c.config.statePath ≠ [] → ∀ image, ended.image = some image → PartlyStaged old image
  config : ended.config = c.config
  epoch : ended.epoch = c.epoch
  liveWorkers : ended.liveWorkers = c.liveWorkers
  noPath : c.config.statePath = [] → ended.image = c.image
  absent : ended.image = none → c.image = none
  finished : ∀ count, result = .ok count → StagedUpTo all old ended.state

theorem stageAll_spec (outcomes : WriteOutcomes) {old : CoordinatorState R}
    (remaining done : List ExperimentId) (distinct : (done ++ remaining).Nodup) (writes : Nat)
    (c : Coordinator R) (progress : StagedUpTo done old c.state)
    (written : c.config.statePath ≠ [] → ∀ image, c.image = some image →
      PartlyStaged old image) :
    StageOutcome old (done ++ remaining) c (stageAll outcomes writes c remaining).1
      (stageAll outcomes writes c remaining).2 := by
  induction remaining generalizing done writes c with
  | nil => exact ⟨written, rfl, rfl, rfl, fun _ => rfl, fun none => none,
      fun _ _ => by simpa [stageAll] using progress⟩
  | cons id rest ih =>
      have fresh : id ∉ done := fun member =>
        (List.nodup_append.mp distinct).2.2 id member id List.mem_cons_self rfl
      have regrouped : done ++ id :: rest = (done ++ [id]) ++ rest := by simp
      rw [regrouped] at distinct ⊢
      unfold stageAll
      split
      · rename_i absent
        exact ih (done ++ [id]) distinct writes c (progress.skip fresh absent) written
      · rename_i record found
        have next := progress.next fresh found
        split
        · have image := (c.stageExperiment id record).persistLocked_image (outcomes writes) true
          have kept := (c.stageExperiment id record).persistLocked_fst (outcomes writes) true
          have noPath : c.config.statePath = [] →
              ((c.stageExperiment id record).persistLocked (outcomes writes)).1.image = c.image :=
            fun empty => by
              rw [(c.stageExperiment id record).persistLocked_noPath (outcomes writes) true empty]
              rfl
          have imageStaged : c.config.statePath ≠ [] → ∀ image,
              ((c.stageExperiment id record).persistLocked (outcomes writes)).1.image =
                some image → PartlyStaged old image := by
            intro hasPath saved lookup
            rcases image with same | ⟨-, stored⟩
            · exact written hasPath saved (same.symm.trans lookup)
            · obtain rfl := Option.some.inj (stored.symm.trans lookup)
              exact next.partly
          have absent : ((c.stageExperiment id record).persistLocked (outcomes writes)).1.image =
              none → c.image = none := by
            intro missing
            rcases image with same | ⟨-, stored⟩
            · exact same.symm.trans missing
            · exact nomatch stored.symm.trans missing
          split
          · rename_i unsaved failure persisted
            rw [persisted] at imageStaged kept noPath absent
            exact ⟨imageStaged, by rw [kept]; rfl, by rw [kept]; rfl, by rw [kept]; rfl, noPath,
              absent, fun _ impossible => by cases impossible⟩
          · rename_i saved persisted
            rw [persisted] at imageStaged kept noPath absent
            dsimp only at kept imageStaged
            have config : saved.config = c.config := by rw [kept]; rfl
            have ended := ih (done ++ [id]) distinct (writes + 1) saved (by rw [kept]; exact next)
              (config ▸ imageStaged)
            exact ⟨config ▸ ended.image, ended.config.trans config, ended.epoch.trans (by rw [kept]; rfl),
              ended.liveWorkers.trans (by rw [kept]; rfl),
              fun empty => (ended.noPath (config ▸ empty)).trans (noPath empty),
              fun missing => absent (ended.absent missing), ended.finished⟩
        · have ended := ih (done ++ [id]) distinct writes _ next written
          exact ⟨ended.image, ended.config, ended.epoch, ended.liveWorkers, ended.noPath,
            ended.absent, ended.finished⟩

end Coordinator

/-! ## Terminal work survives recovery -/

/-- Terminal attempts and trials are left exactly as they were. -/
structure Frozen (record record' : ExperimentRecord R) : Prop where
  attempts : ∀ id attempt, record.attempts.find? id = some attempt →
    isAttemptTerminal attempt.state = true → record'.attempts.find? id = some attempt
  trials : ∀ key trial, record.trials.find? key = some trial →
    isTerminal trial.state = true → record'.trials.find? key = some trial

theorem Frozen.trans {first second third : ExperimentRecord R} (earlier : Frozen first second)
    (later : Frozen second third) : Frozen first third where
  attempts := fun id attempt found closed =>
    later.attempts id attempt (earlier.attempts id attempt found closed) closed
  trials := fun key trial found closed =>
    later.trials key trial (earlier.trials key trial found closed) closed

theorem stage_frozen (record : ExperimentRecord R) (sequence : Nat) :
    Frozen record (record.stage sequence).2 where
  attempts := fun id attempt found closed => by
    obtain ⟨reached, visited⟩ := stage_attempts record sequence id
    rw [visited, found]
    simp [stageAttempt, closed]
  trials := fun key trial found closed => by
    obtain ⟨reached, visited⟩ := stage_trials record sequence key
    rw [visited, found]
    simp [stageTrial, closed]

theorem resolve_frozen (record : ExperimentRecord R) (sequence : Nat) :
    Frozen record (record.resolve sequence).2 where
  attempts := fun id attempt found closed => by
    -- The attempts are an accumulator of the loop over the trials.
    have step : ∀ (trials : List TrialRecord) (progress : ResolveProgress),
        progress.attempts.find? id = some attempt →
          (trials.foldl (fun reached trial => (record.resolveTrial reached trial).1)
            progress).attempts.find? id = some attempt := by
      intro trials
      induction trials with
      | nil => exact fun _ held => held
      | cons trial rest ih =>
          intro progress held
          refine ih _ ?_
          unfold ExperimentRecord.resolveTrial
          dsimp only
          split
          · exact held
          · obtain ⟨reached, visited⟩ :=
              progress.attempts.find?_traverse (resolveAttempt trial.id) progress.sequence id
            simp only [visited, held, Option.map_some]
            simp [resolveAttempt, closed]
    unfold ExperimentRecord.resolve
    dsimp only
    rw [ExperimentRecord.logAll_eq]
    dsimp only
    rw [OrderedMap.traverse_fst]
    exact step record.trials.values _ found
  trials := fun key trial found closed => by
    have settled : trial.state ≠ .revalidationRequired := fun waiting => by
      simp [waiting, isTerminal] at closed
    unfold ExperimentRecord.resolve
    dsimp only
    rw [ExperimentRecord.logAll_eq]
    obtain ⟨reached, visited⟩ := record.trials.find?_traverse record.resolveTrial
      { sequence := sequence, attempts := record.attempts } key
    rw [visited, found]
    simp [ExperimentRecord.resolveTrial, settled]

/-- The record has no open work and does not wait for recovery. -/
structure Settled (record : ExperimentRecord R) : Prop where
  state : record.state ≠ .recovering
  attempts : ∀ id attempt, record.attempts.find? id = some attempt →
    isAttemptTerminal attempt.state = true
  trials : ∀ key trial, record.trials.find? key = some trial → isTerminal trial.state = true

theorem settled_of_needsRecovery {record : ExperimentRecord R}
    (settled : record.needsRecovery = false) : Settled record := by
  simp only [ExperimentRecord.needsRecovery, ExperimentRecord.hasOpenWork, Bool.or_eq_false_iff,
    List.any_eq_false, decide_eq_false_iff_not] at settled
  obtain ⟨state, attempts, trials⟩ := settled
  refine ⟨state, fun id attempt found => ?_, fun key trial found => ?_⟩
  · simpa using attempts attempt ((OrderedMap.mem_values_iff _ _).mpr ⟨id, found⟩)
  · simpa using trials trial ((OrderedMap.mem_values_iff _ _).mpr ⟨key, found⟩)

theorem Settled.reopened {record : ExperimentRecord R} (settled : Settled record) :
    record.reopened = record := by
  rw [ExperimentRecord.reopened, if_neg settled.state]

/-- A record without open work is its own recovery. -/
theorem Settled.recovered {record : ExperimentRecord R} (settled : Settled record) :
    record.recovered = record := by
  have trials : record.trials.mapValues record.recoveredTrial = record.trials := by
    ext1 key
    cases found : record.trials.find? key with
    | none => simp [found]
    | some trial =>
        simp [found, ExperimentRecord.recoveredTrial, settled.trials key trial found]
  have attempts : record.attempts.mapValues recoveredAttempt = record.attempts := by
    ext1 key
    cases found : record.attempts.find? key with
    | none => simp [found]
    | some attempt => simp [found, recoveredAttempt, settled.attempts key attempt found]
  rw [ExperimentRecord.recovered, settled.reopened, trials, attempts]

/-- Staging a record without open work changes nothing that `forget` keeps. -/
theorem Settled.stage {record : ExperimentRecord R} (settled : Settled record) (sequence : Nat) :
    (record.stage sequence).2.forget = record.forget := by
  have frozen := stage_frozen record sequence
  have trials : (record.stage sequence).2.trials = record.trials := by
    ext1 key
    obtain ⟨reached, visited⟩ := stage_trials record sequence key
    cases found : record.trials.find? key with
    | none => simp [visited, found]
    | some trial => exact frozen.trials key trial found (settled.trials key trial found)
  have attempts : (record.stage sequence).2.attempts = record.attempts := by
    ext1 key
    obtain ⟨reached, visited⟩ := stage_attempts record sequence key
    cases found : record.attempts.find? key with
    | none => simp [visited, found]
    | some attempt => exact frozen.attempts key attempt found (settled.attempts key attempt found)
  have fields := stage_forget_fields record sequence
  rw [trials, attempts, settled.reopened] at fields
  rw [fields]
  rfl

theorem recoveredAttempt_idem (attempt : AttemptRecord) :
    recoveredAttempt (recoveredAttempt attempt) = recoveredAttempt attempt :=
  if_pos (recoveredAttempt_terminal attempt)

theorem recoveredTrial_idem (record : ExperimentRecord R) (trial : TrialRecord) :
    record.recoveredTrial (record.recoveredTrial trial) = record.recoveredTrial trial := by
  by_cases closed : isTerminal trial.state = true
  · simp [ExperimentRecord.recoveredTrial, closed]
  · by_cases again : record.resumable trial = true
    · have ready : record.recoveredTrial trial =
          { trial with
            state := .ready
            authoritativeAttempt := .null
            nextAttemptNumber := ⟨trial.attemptCount + 1⟩
            failureKind := .producerLoss
            failureDetail :=
              text "recovered: fresh attempt required before the trial can complete" } := by
        rw [ExperimentRecord.recoveredTrial, if_neg closed, ExperimentRecord.resolvedTrial,
          if_pos again]
      rw [ready, ExperimentRecord.recoveredTrial,
        if_neg (show ¬ isTerminal .ready = true by decide), ExperimentRecord.resolvedTrial, if_pos (by exact again)]
    · have failed : isTerminal (record.recoveredTrial trial).state = true := by
        rw [ExperimentRecord.recoveredTrial, if_neg closed, ExperimentRecord.resolvedTrial,
          if_neg again]
        rfl
      exact if_pos failed

/-- Recovering twice is recovering once. -/
theorem recovered_recovered (record : ExperimentRecord R) :
    record.recovered.recovered = record.recovered := by
  have reopened : record.recovered.reopened = record.recovered := by
    rw [ExperimentRecord.reopened, if_neg (show record.recovered.state ≠ .recovering from
      record.reopened_state_ne)]
  have visit : record.recovered.recoveredTrial = record.reopened.recoveredTrial :=
    reopened_recoveredTrial_congr rfl rfl
  have trials : record.recovered.trials.mapValues record.recovered.recoveredTrial =
      record.recovered.trials := by
    rw [visit, ExperimentRecord.recovered, OrderedMap.mapValues_mapValues]
    simp only [recoveredTrial_idem]
  have attempts : record.recovered.attempts.mapValues recoveredAttempt =
      record.recovered.attempts := by
    rw [ExperimentRecord.recovered, OrderedMap.mapValues_mapValues]
    simp only [recoveredAttempt_idem]
  rw [ExperimentRecord.recovered, reopened, trials, attempts]

/-- Recovery does not read what `forget` drops. -/
theorem recovered_forget (record : ExperimentRecord R) :
    record.forget.recovered.forget = record.recovered.forget := by
  have visit : record.forget.reopened.recoveredTrial = record.reopened.recoveredTrial :=
    reopened_recoveredTrial_congr rfl rfl
  have trialCommutes : ∀ trial : TrialRecord,
      (record.reopened.recoveredTrial trial.unsequenced).unsequenced =
        (record.reopened.recoveredTrial trial).unsequenced := by
    intro trial
    have resumable : record.reopened.resumable trial.unsequenced = record.reopened.resumable trial :=
      rfl
    have closed : isTerminal trial.unsequenced.state = isTerminal trial.state := rfl
    unfold ExperimentRecord.recoveredTrial ExperimentRecord.resolvedTrial
    rw [resumable, closed]
    split
    · rfl
    · split <;> rfl
  have attemptCommutes : ∀ attempt : AttemptRecord,
      (recoveredAttempt attempt.unsequenced).unsequenced =
        (recoveredAttempt attempt).unsequenced := by
    intro attempt
    have closed : isAttemptTerminal attempt.unsequenced.state = isAttemptTerminal attempt.state :=
      rfl
    unfold recoveredAttempt
    rw [closed]
    split <;> rfl
  have trials : record.forget.recovered.forget.trials = record.recovered.forget.trials := by
    simp only [ExperimentRecord.forget, ExperimentRecord.recovered,
      OrderedMap.mapValues_mapValues] at visit ⊢
    simp only [visit, trialCommutes]
  have attempts : record.forget.recovered.forget.attempts = record.recovered.forget.attempts := by
    simp only [ExperimentRecord.forget, ExperimentRecord.recovered,
      OrderedMap.mapValues_mapValues, attemptCommutes]
  exact ExperimentRecord.ext rfl rfl rfl rfl rfl rfl trials attempts rfl rfl rfl rfl rfl rfl

/-! ## Recovering all experiments -/

/-- The state holds the recovered experiments of another one, up to sequence numbers and lifecycle
lines, and all of its terminal work. -/
structure Recovers (old new : CoordinatorState R) : Prop where
  watermarks : new.watermarks = old.watermarks
  records : ∀ id, (new.experiments.find? id).map ExperimentRecord.forget =
    (old.experiments.find? id).map fun record => record.recovered.forget
  frozen : ∀ id record record', old.experiments.find? id = some record →
    new.experiments.find? id = some record' → Frozen record record'

/-- A recovered experiment has one it was recovered from. -/
theorem Recovers.source {old new : CoordinatorState R} (recovers : Recovers old new)
    {id : ExperimentId} {record : ExperimentRecord R}
    (found : new.experiments.find? id = some record) :
    ∃ original, old.experiments.find? id = some original ∧
      record.forget = original.recovered.forget ∧ Frozen original record := by
  have same := recovers.records id
  rw [found, Option.map_some] at same
  obtain ⟨original, before, equal⟩ := Option.map_eq_some_iff.mp same.symm
  exact ⟨original, before, equal.symm, recovers.frozen id original record before found⟩

/-- Recovering a saved state gives a consistent one. -/
theorem Recovers.consistent {old new : CoordinatorState R} (recovers : Recovers old new)
    (saved : old.Saved) : new.Consistent := by
  intro id record found
  obtain ⟨original, before, same, -⟩ := recovers.source found
  rw [recovers.watermarks]
  exact (saved id original before).recovered.of_forget_eq same

/-- Two states recover to the same experiments. -/
def SameRecovery (old new : CoordinatorState R) : Prop :=
  ∀ id, (new.experiments.find? id).map (fun record => record.recovered.forget) =
    (old.experiments.find? id).map fun record => record.recovered.forget

theorem PartlyStaged.sameRecovery {old new : CoordinatorState R} (staged : PartlyStaged old new) :
    SameRecovery old new := by
  intro id
  cases before : old.experiments.find? id with
  | none => rw [staged.absent id before]
  | some record =>
      rcases staged.present id record before with same | ⟨sequence, same⟩
      · rw [same]
      · rw [same, Option.map_some, Option.map_some, recovered_stage]

theorem Recovers.sameRecovery {old new : CoordinatorState R} (recovers : Recovers old new) :
    SameRecovery old new := by
  intro id
  have same := recovers.records id
  have again := congrArg (Option.map fun record => record.recovered.forget) same
  simpa only [Option.map_map, Function.comp_def, recovered_forget, recovered_recovered] using again

namespace Coordinator

theorem resolveAll_lookup (c : Coordinator R) (id : ExperimentId) :
    ∃ reached, c.resolveAll.state.experiments.find? id =
      (c.state.experiments.find? id).map fun record => (record.resolve reached).2 :=
  c.state.experiments.find?_traverse ExperimentRecord.resolve c.currentSequence id

/-- Staging and then resolving every experiment recovers the state. -/
theorem StagedUpTo.resolveAll {all : List ExperimentId} {old : CoordinatorState R}
    {c : Coordinator R} (progress : StagedUpTo all old c.state) (saved : old.Saved)
    (complete : ∀ id, id ∉ all → old.experiments.find? id = none) :
    Recovers old c.resolveAll.state := by
  have lookup : ∀ id, ∃ sequence reached, c.resolveAll.state.experiments.find? id =
      (old.experiments.find? id).map fun record =>
        ((record.stage sequence).2.resolve reached).2 := by
    intro id
    obtain ⟨reached, resolved⟩ := c.resolveAll_lookup id
    by_cases member : id ∈ all
    · obtain ⟨sequence, staged⟩ := progress.staged id member
      exact ⟨sequence, reached, by rw [resolved, staged, Option.map_map]; rfl⟩
    · exact ⟨0, reached, by rw [resolved, progress.waiting id member, complete id member]; rfl⟩
  refine ⟨progress.watermarks, fun id => ?_, fun id record record' before after => ?_⟩
  · obtain ⟨sequence, reached, found⟩ := lookup id
    rw [found, Option.map_map]
    refine Option.map_congr fun record before => ?_
    obtain ⟨stagedSaved, waiting⟩ := (saved id record before).stage sequence
    have state : (record.stage sequence).2.state ≠ .recovering := by
      rw [stage_forget_fields]
      exact record.reopened_state_ne
    rw [Function.comp_apply, resolve_forget stagedSaved state waiting, recovered_stage]
  · obtain ⟨sequence, reached, found⟩ := lookup id
    rw [before, after, Option.map_some] at found
    rw [Option.some.inj found]
    exact (stage_frozen record sequence).trans (resolve_frozen _ reached)

/-- Staging a state without open work recovers it. -/
theorem StagedUpTo.settled {all : List ExperimentId} {old new : CoordinatorState R}
    (progress : StagedUpTo all old new)
    (complete : ∀ id, id ∉ all → old.experiments.find? id = none)
    (settled : ∀ id record, old.experiments.find? id = some record →
      record.needsRecovery = false) : Recovers old new := by
  have lookup : ∀ id, ∃ sequence, new.experiments.find? id =
      (old.experiments.find? id).map fun record => (record.stage sequence).2 := by
    intro id
    by_cases member : id ∈ all
    · exact progress.staged id member
    · exact ⟨0, by rw [progress.waiting id member, complete id member]; rfl⟩
  refine ⟨progress.watermarks, fun id => ?_, fun id record record' before after => ?_⟩
  · obtain ⟨sequence, found⟩ := lookup id
    rw [found, Option.map_map]
    refine Option.map_congr fun record before => ?_
    have closed := settled_of_needsRecovery (settled id record before)
    rw [Function.comp_apply, closed.stage, closed.recovered]
  · obtain ⟨sequence, found⟩ := lookup id
    rw [before, after, Option.map_some] at found
    rw [Option.some.inj found]
    exact stage_frozen record sequence

/-- What a reconciliation leaves. -/
structure ReconcileOutcome (c ended : Coordinator R) (result : Result Unit) : Prop where
  image : c.config.statePath ≠ [] → ∀ image, ended.image = some image →
    PartlyStaged c.state image ∨ result = .ok () ∧ image = ended.state
  config : ended.config = c.config
  epoch : ended.epoch = c.epoch
  liveWorkers : ended.liveWorkers = c.liveWorkers
  noPath : c.config.statePath = [] → ended.image = c.image
  absent : ended.image = none → c.image = none
  finished : result = .ok () → Recovers c.state ended.state

theorem reconcileRecoveredState_spec (c : Coordinator R) (outcomes : WriteOutcomes)
    (saved : c.state.Saved)
    (written : c.config.statePath ≠ [] → ∀ image, c.image = some image →
      PartlyStaged c.state image) :
    ReconcileOutcome c (c.reconcileRecoveredState outcomes).1
      (c.reconcileRecoveredState outcomes).2 := by
  have start : StagedUpTo [] c.state c.state :=
    ⟨rfl, fun _ _ => rfl, fun _ member => by simp at member⟩
  have outcome := stageAll_spec outcomes c.state.experiments.keys []
    (by simpa using c.state.experiments.keys_nodup) 0 c start written
  have complete : ∀ id, id ∉ [] ++ c.state.experiments.keys →
      c.state.experiments.find? id = none := by
    intro id absent
    rw [List.nil_append, OrderedMap.mem_keys_iff, not_exists] at absent
    exact Option.eq_none_iff_forall_ne_some.mpr absent
  unfold reconcileRecoveredState
  split
  · rename_i staged failure ended
    rw [ended] at outcome
    exact ⟨fun hasPath image held => .inl (outcome.image hasPath image held), outcome.config, outcome.epoch,
      outcome.liveWorkers, outcome.noPath, outcome.absent, fun impossible => by cases impossible⟩
  · rename_i staged writes ended
    rw [ended] at outcome
    have progress := outcome.finished writes rfl
    split
    · have recovers := progress.resolveAll saved complete
      have kept := staged.resolveAll.persistLocked_fst (outcomes writes) true
      refine ⟨?_, by rw [kept]; exact outcome.config, by rw [kept]; exact outcome.epoch,
        by rw [kept]; exact outcome.liveWorkers, ?_, ?_, fun _ => by rw [kept]; exact recovers⟩
      · intro hasPath image held
        rcases staged.resolveAll.persistLocked_image (outcomes writes) true with same |
          ⟨succeeded, stored⟩
        · exact .inl (outcome.image hasPath image (same.symm.trans held))
        · refine .inr ⟨succeeded, ?_⟩
          rw [persistLocked_state]
          exact Option.some.inj (held.symm.trans stored)
      · intro empty
        rw [persistLocked_noPath _ _ _ (by exact outcome.config ▸ empty)]
        exact outcome.noPath empty
      · intro missing
        rcases staged.resolveAll.persistLocked_image (outcomes writes) true with same | ⟨-, stored⟩
        · exact outcome.absent (same.symm.trans missing)
        · exact nomatch stored.symm.trans missing
    · rename_i settled
      refine ⟨fun hasPath image held => .inl (outcome.image hasPath image held), outcome.config, outcome.epoch,
        outcome.liveWorkers, outcome.noPath, outcome.absent,
        fun _ => progress.settled complete ?_⟩
      intro id record found
      by_contra needed
      exact settled (List.any_eq_true.mpr ⟨record, (OrderedMap.mem_values_iff _ _).mpr ⟨id, found⟩,
        by simpa using needed⟩)

/-! ## Starting a process -/

/-- The state a process starts from when it does start. -/
def origin (config : Config) (image : Option (CoordinatorState R)) : CoordinatorState R :=
  if config.statePath = [] then {} else image.getD {}

theorem loadState_eq_ok [MetricReal R] {config : Config} {image : Option (CoordinatorState R)}
    {loaded : CoordinatorState R} (succeeded : loadState config image = .ok loaded) :
    loaded = origin config image := by
  unfold loadState at succeeded
  unfold origin
  split at succeeded
  · rename_i noPath
    rw [if_pos noPath]
    exact (Except.ok.inj succeeded).symm
  · rename_i hasPath
    rw [if_neg hasPath]
    split at succeeded
    · exact (Except.ok.inj succeeded).symm
    · simp only [load, check_bind_eq_ok, pure, Except.pure, Except.ok.injEq] at succeeded
      exact succeeded.2.2.2.2.symm

section Blind

/-- Staging an experiment, resolving all of them and saving keep the property. -/
structure KeptByRecovery (property : Coordinator R → Prop) : Prop where
  staged : ∀ (c : Coordinator R) id record, c.findExperiment id = some record → property c →
    property (c.stageExperiment id record)
  resolved : ∀ c : Coordinator R, property c → property c.resolveAll
  persisted : ∀ (c : Coordinator R) fault, property c → property (c.persistLocked fault).1

section Rules

variable {property : Coordinator R → Prop} (kept : KeptByRecovery property)

include kept

theorem stageAll_keeps (outcomes : WriteOutcomes) (remaining : List ExperimentId) (writes : Nat)
    {c : Coordinator R} (holds : property c) :
    property (stageAll outcomes writes c remaining).1 := by
  induction remaining generalizing writes c with
  | nil => exact holds
  | cons id rest ih =>
      unfold stageAll
      split
      · exact ih writes holds
      · rename_i record found
        have staged := kept.staged c id record found holds
        split
        · have saved := kept.persisted _ (outcomes writes) staged
          split
          · rename_i later failure persisted
            rwa [persisted] at saved
          · rename_i later persisted
            rw [persisted] at saved
            exact ih (writes + 1) saved
        · exact ih writes staged

theorem reconcileRecoveredState_keeps (outcomes : WriteOutcomes) {c : Coordinator R}
    (holds : property c) : property (c.reconcileRecoveredState outcomes).1 := by
  have staged := stageAll_keeps kept outcomes c.state.experiments.keys 0 holds
  unfold reconcileRecoveredState
  split
  · rename_i later failure ended
    rwa [ended] at staged
  · rename_i later writes ended
    rw [ended] at staged
    split
    · exact kept.persisted _ (outcomes writes) (kept.resolved later staged)
    · exact staged

/-- A start keeps what the booted coordinator has and recovery keeps. -/
theorem create_keeps [MetricReal R] (config : Config) (image : Option (CoordinatorState R))
    (outcomes : WriteOutcomes) (booted : property (boot config image (origin config image))) :
    ((create config image outcomes).1 = image ∨ ∃ c : Coordinator R,
      (create config image outcomes).1 = c.image ∧ property c) ∧
    ∀ c, (create config image outcomes).2 = .ok c → property c := by
  unfold create
  split
  · exact ⟨.inl rfl, fun _ impossible => nomatch impossible⟩
  · split
    · exact ⟨.inl rfl, fun _ impossible => nomatch impossible⟩
    · rename_i loaded succeeded
      obtain rfl := loadState_eq_ok succeeded
      have ended := reconcileRecoveredState_keeps kept outcomes booted
      split
      · rename_i later failure refused
        rw [refused] at ended
        exact ⟨.inr ⟨later, rfl, ended⟩, fun _ impossible => nomatch impossible⟩
      · rename_i later reconciled
        rw [reconciled] at ended
        refine ⟨.inr ⟨later, rfl, ended⟩, ?_⟩
        rintro _ ⟨⟩
        exact ended

end Rules

variable {image : Option (CoordinatorState R)} {property : CoordinatorState R → Prop}

/-- The property reads neither the experiments nor the sequence counter. -/
def Blind (property : CoordinatorState R → Prop) : Prop :=
  ∀ state experiments sequence, property state →
    property { state with experiments := experiments, lastSequence := sequence }

/-- The property holds in memory, and the file is the old one or has it too. -/
structure Upheld (image : Option (CoordinatorState R)) (property : CoordinatorState R → Prop)
    (c : Coordinator R) : Prop where
  state : property c.state
  image : c.image = image ∨ ∃ state, c.image = some state ∧ property state

/-- A property of states that staging and resolving keep is upheld by recovery. -/
theorem upheld_keptByRecovery
    (staged : ∀ (c : Coordinator R) id record, c.findExperiment id = some record →
      property c.state → property (c.stageExperiment id record).state)
    (resolved : ∀ c : Coordinator R, property c.state → property c.resolveAll.state) :
    KeptByRecovery (Upheld image property) where
  staged := fun c id record found upheld =>
    ⟨staged c id record found upheld.state, upheld.image⟩
  resolved := fun c upheld => ⟨resolved c upheld.state, upheld.image⟩
  persisted := fun c fault upheld => by
    refine ⟨?_, ?_⟩
    · rw [persistLocked_state]
      exact upheld.state
    · rcases c.persistLocked_image fault true with same | ⟨-, stored⟩
      · rw [same]
        exact upheld.image
      · exact .inr ⟨c.state, stored, upheld.state⟩

/-- A start keeps what the booted state has and staging and resolving keep. -/
theorem create_upholds [MetricReal R]
    (kept : KeptByRecovery (Upheld image property)) (config : Config)
    (outcomes : WriteOutcomes) (booted : property (boot config image (origin config image)).state) :
    ((create config image outcomes).1 = image ∨ ∃ state,
      (create config image outcomes).1 = some state ∧ property state) ∧
    ∀ c, (create config image outcomes).2 = .ok c → property c.state := by
  obtain ⟨left, running⟩ := create_keeps kept config image outcomes ⟨booted, .inl rfl⟩
  refine ⟨?_, fun c started => (running c started).state⟩
  rcases left with same | ⟨c, same, upheld⟩
  · exact .inl same
  · rw [same]
    exact upheld.image

/-- A start keeps what the loaded state has and staging cannot touch. -/
theorem create_upheld [MetricReal R] (blind : Blind property) (config : Config)
    (outcomes : WriteOutcomes) (booted : property (boot config image (origin config image)).state) :
    ((create config image outcomes).1 = image ∨ ∃ state,
      (create config image outcomes).1 = some state ∧ property state) ∧
    ∀ c, (create config image outcomes).2 = .ok c → property c.state :=
  create_upholds (upheld_keptByRecovery (fun c _ _ _ holds => blind c.state _ _ holds)
    fun c holds => blind c.state _ _ holds) config outcomes booted

end Blind

/-- What a start leaves, whether or not it succeeds. -/
structure CreateOutcome (config : Config) (image left : Option (CoordinatorState R))
    (result : Result (Coordinator R)) : Prop where
  noPath : config.statePath = [] → left = image
  absent : left = none → image = none
  written : config.statePath ≠ [] → ∀ saved, left = some saved →
    PartlyStaged (origin config image) saved ∨ ∃ c, result = .ok c ∧ saved = c.state
  recovers : ∀ c, result = .ok c → Recovers (origin config image) c.state
  configured : ∀ c, result = .ok c → c.config = config
  liveWorkers : ∀ c, result = .ok c → c.liveWorkers = .empty
  stored : ∀ c, result = .ok c → c.image = left

theorem create_spec [MetricReal R] (config : Config) (image : Option (CoordinatorState R))
    (outcomes : WriteOutcomes) (saved : (origin config image).Saved) :
    CreateOutcome config image (create config image outcomes).1
      (create config image outcomes).2 := by
  have origin_eq : config.statePath ≠ [] → ∀ state, image = some state →
      origin config image = state := by
    intro hasPath state held
    rw [origin, if_neg hasPath, held]
    rfl
  have unchanged : ∀ failure : Status, CreateOutcome config image image
      (.error failure : Result (Coordinator R)) := by
    intro failure
    refine ⟨fun _ => rfl, fun missing => missing, ?_, ?_, ?_, ?_, ?_⟩
    · intro hasPath state held
      rw [origin_eq hasPath state held]
      exact .inl (.refl _)
    all_goals exact fun _ impossible => nomatch impossible
  unfold create
  split
  · exact unchanged _
  · split
    · exact unchanged _
    · rename_i loaded succeeded
      obtain rfl := loadState_eq_ok succeeded
      -- The boot changes the epoch only, which none of the relations below reads.
      have outcome := reconcileRecoveredState_spec (boot config image (origin config image))
        outcomes saved (fun hasPath state held => by
          rw [← origin_eq hasPath state held]
          exact ⟨rfl, fun _ absent => absent, fun _ _ found => .inl found⟩)
      split
      · rename_i ended failure refused
        rw [refused] at outcome
        refine ⟨outcome.noPath, outcome.absent, ?_, ?_, ?_, ?_, ?_⟩
        · intro hasPath state held
          rcases outcome.image hasPath state held with staged | ⟨impossible, -⟩
          · exact .inl ⟨staged.watermarks, staged.absent, staged.present⟩
          · cases impossible
        all_goals exact fun _ impossible => nomatch impossible
      · rename_i ended reconciled
        rw [reconciled] at outcome
        have recovers := outcome.finished rfl
        refine ⟨outcome.noPath, outcome.absent, ?_, ?_, ?_, ?_, ?_⟩
        · intro hasPath state held
          rcases outcome.image hasPath state held with staged | ⟨-, same⟩
          · exact .inl ⟨staged.watermarks, staged.absent, staged.present⟩
          · exact .inr ⟨ended, rfl, same⟩
        · rintro _ ⟨⟩
          exact ⟨recovers.watermarks, recovers.records, recovers.frozen⟩
        · rintro _ ⟨⟩
          exact outcome.config
        · rintro _ ⟨⟩
          exact outcome.liveWorkers
        · rintro _ ⟨⟩
          rfl

end Coordinator

end ExperimentFabric
