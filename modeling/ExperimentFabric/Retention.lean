import ExperimentFabric.Completion

/-!
# What no operation and no restart takes away

No operation removes a trial or an attempt, shortens a list of evidence or of decisions, or rewrites
work that has ended; neither does a recovery of the saved state.  The state in memory keeps all that
the file holds, so what has been saved once is kept by every later state of every process.
-/

namespace ExperimentFabric

open Lib Relation

variable {R : Type}

/-! ## Recovery -/

theorem stageAttempt_kept (sequence : Nat) (attempt : AttemptRecord) :
    AttemptKept attempt (stageAttempt sequence attempt).2 := by
  unfold stageAttempt
  split
  · exact .refl attempt
  · rename_i isOpen
    exact .ofOpen rfl (by simpa using isOpen)

theorem stageTrial_kept (progress : Nat × List Text) (trial : TrialRecord) :
    TrialKept trial (stageTrial progress trial).2 := by
  unfold stageTrial
  split
  · exact .refl trial
  · rename_i isOpen
    exact .ofOpen rfl (by simpa using isOpen)

theorem resolveAttempt_kept (trial : TrialId) (sequence : Nat) (attempt : AttemptRecord) :
    AttemptKept attempt (resolveAttempt trial sequence attempt).2 := by
  unfold resolveAttempt
  split
  · exact .refl attempt
  · rename_i isOpen
    simp only [Bool.or_eq_true, not_or, Bool.not_eq_true] at isOpen
    exact .ofOpen rfl isOpen.2

theorem resolveTrial_kept (record : ExperimentRecord R) (progress : ResolveProgress)
    (trial : TrialRecord) : TrialKept trial (record.resolveTrial progress trial).2 := by
  unfold ExperimentRecord.resolveTrial
  split
  · exact .refl trial
  · rename_i staged
    have waiting : trial.state = .revalidationRequired := by simpa using staged
    refine .ofOpen ?_ (by rw [waiting]; rfl)
    unfold ExperimentRecord.resolvedTrial
    split <;> rfl

theorem stage_rewritten (record : ExperimentRecord R) (sequence : Nat) :
    Rewritten record (record.stage sequence).2 := by
  unfold ExperimentRecord.stage
  dsimp only
  rw [ExperimentRecord.logAll_eq]
  exact ⟨rfl, List.prefix_rfl, .traverse stageTrial_kept, .traverse stageAttempt_kept,
    .ofEq rfl rfl rfl rfl rfl rfl⟩

theorem resolve_rewritten (record : ExperimentRecord R) (sequence : Nat) :
    Rewritten record (record.resolve sequence).2 := by
  -- The attempts are an accumulator of the loop over the trials.
  have attempts : OrderedMap.Evolves AttemptKept record.attempts
      (record.trials.traverse record.resolveTrial
        { sequence := sequence, attempts := record.attempts }).1.attempts := by
    let kept (progress : ResolveProgress) : Prop :=
      OrderedMap.Evolves AttemptKept record.attempts progress.attempts
    have each : ∀ progress trial, kept progress → kept (record.resolveTrial progress trial).1 := by
      intro progress trial earlier
      unfold ExperimentRecord.resolveTrial
      split
      · exact earlier
      · exact earlier.trans .trans (.traverse (resolveAttempt_kept trial.id))
    exact OrderedMap.traverse_keeps _ _ each (.refl .refl)
  unfold ExperimentRecord.resolve
  dsimp only
  rw [ExperimentRecord.logAll_eq]
  exact ⟨rfl, List.prefix_rfl, .traverse (resolveTrial_kept record), attempts,
    .ofEq rfl rfl rfl rfl rfl rfl⟩

/-! ## States -/

/-- Every experiment is still there and its history is kept. -/
def CoordinatorState.Retains (old new : CoordinatorState R) : Prop :=
  OrderedMap.Extends HistoryKept old.experiments new.experiments

theorem CoordinatorState.Retains.refl (state : CoordinatorState R) : state.Retains state :=
  OrderedMap.Extends.refl .refl

theorem CoordinatorState.Retains.trans {first second third : CoordinatorState R}
    (earlier : first.Retains second) (later : second.Retains third) : first.Retains third :=
  OrderedMap.Extends.trans (fun _ _ _ earlier later => HistoryKept.trans earlier later) earlier
    later

theorem CoordinatorState.Retains.ofEq {old new : CoordinatorState R}
    (same : new.experiments = old.experiments) : old.Retains new := by
  unfold CoordinatorState.Retains
  rw [same]
  exact .refl .refl

/-- Replacing one record by one that keeps its history. -/
theorem CoordinatorState.Retains.assign {old new : CoordinatorState R} {id : ExperimentId}
    {before after : ExperimentRecord R} (found : old.experiments.find? id = some before)
    (kept : HistoryKept before after) (stored : new.experiments = old.experiments.assign id after) :
    old.Retains new := by
  unfold CoordinatorState.Retains
  rw [stored]
  exact (OrderedMap.Evolves.assign .refl found kept).extends_

section Steps

variable [MetricReal R] [CanonicalDigests R] {c : Coordinator R} {request : Request R}
  {old new : CoordinatorState R}

omit [MetricReal R] [CanonicalDigests R] in
/-- Issuing a ready trial adds an attempt and moves the trial on. -/
theorem issue_kept {record : ExperimentRecord R} {key : TrialId} {trial : TrialRecord}
    (found : record.trials.find? key = some trial) (ready : trial.state = .ready)
    (attempt : AttemptRecord) (sequence : Nat) :
    HistoryKept record (record.issue key attempt sequence) where
  trials := by
    refine (OrderedMap.Evolves.modify .refl fun other lookup => ?_).extends_
    obtain rfl := Option.some.inj (found.symm.trans lookup)
    exact .ofOpen rfl (by rw [ready]; rfl)
  attempts := .emplace .refl
  evidence := .ofEq rfl rfl rfl rfl rfl rfl

omit [MetricReal R] [CanonicalDigests R] in
theorem addTrial_kept (record : ExperimentRecord R) (trial : TrialRecord) :
    HistoryKept record (record.addTrial trial) :=
  ⟨.emplace .refl, .refl .refl, .ofEq rfl rfl rfl rfl rfl rfl⟩

/-- A step of the durable state keeps the history of every experiment. -/
theorem StateStep.retains (step : StateStep c request old new) (consistent : old.Consistent) :
    old.Retains new := by
  cases step with
  | quiet same => exact .ofEq same
  | change found effect stored =>
      exact .assign found (moves_rewritten effect.moves).history stored
  | create named accepted room defined valid allocated before absent stored =>
      intro id record found
      have other : id ≠ ⟨c.state.watermarks.experiment + 1⟩ := fun same =>
        nomatch (same ▸ absent).symm.trans found
      exact ⟨record, by rw [stored, OrderedMap.find?_assign, if_neg other, found], .refl record⟩
  | addTrial named guarded valid found fresh allocated stored =>
      exact .assign found (addTrial_kept _ _) stored
  | @addTrialUndone experiment record _ branch payload named guarded found fresh stored =>
      have kept : HistoryKept record ((record.addTrial (record.newTrial experiment branch
          ⟨c.state.watermarks.trial + 1⟩ payload (c.currentSequence + 1))).removeTrial
            ⟨c.state.watermarks.trial + 1⟩) := by
        refine ⟨?_, .refl .refl, .ofEq rfl rfl rfl rfl rfl rfl⟩
        rw [(consistent _ record found).addTrialUndone (fresh ▸ Nat.lt_succ_self _)]
        exact .refl .refl
      exact .assign found kept stored
  | issue named guarded found opened trialFound claimable fresh allocated stored =>
      exact .assign found (issue_kept trialFound (claimable_ready claimable) _ _) stored
  | lose named stored =>
      unfold CoordinatorState.Retains
      rw [stored]
      exact (OrderedMap.Evolves.mapValues fun record =>
        (loseWorker_rewritten ..).history).extends_
  | register named guarded fresh identity same => exact .ofEq same

/-- A chain of steps keeps the history of every experiment. -/
theorem StateSteps.retains (steps : StateSteps c request old new) (consistent : old.Consistent)
    (arranged : old.Arranged) : old.Retains new := by
  induction steps with
  | refl => exact .refl old
  | tail earlier last ih =>
      exact ih.trans (last.1.retains (StateSteps.sound earlier consistent arranged).1)

end Steps

/-! ## Restarts -/

/-- The state in memory keeps the history that the file holds. -/
def Coordinator.RetainsImage (c : Coordinator R) : Prop :=
  ∀ image, c.image = some image → image.Retains c.state

theorem stageExperiment_retains {c : Coordinator R} {id : ExperimentId}
    {record : ExperimentRecord R} (found : c.findExperiment id = some record) :
    c.state.Retains (c.stageExperiment id record).state :=
  .assign found (stage_rewritten record c.currentSequence).history rfl

theorem resolveAll_retains (c : Coordinator R) : c.state.Retains c.resolveAll.state :=
  (OrderedMap.Evolves.traverse fun reached record =>
    (resolve_rewritten record reached).history).extends_

/-- Recovery keeps what the memory keeps of the file. -/
theorem retainsImage_keptByRecovery :
    Coordinator.KeptByRecovery (R := R) Coordinator.RetainsImage where
  staged := fun _ _ _ found retains image held =>
    (retains image held).trans (stageExperiment_retains found)
  resolved := fun c retains image held => (retains image held).trans (resolveAll_retains c)
  persisted := fun c fault retains image held => by
    rw [Coordinator.persistLocked_state]
    rcases c.persistLocked_image fault true with same | ⟨-, stored⟩
    · exact retains image (same.symm.trans held)
    · obtain rfl := Option.some.inj (stored.symm.trans held)
      exact .refl c.state

section World

variable [MetricReal R] [CanonicalDigests R] {path : Text}

omit [CanonicalDigests R] in
/-- A start keeps the history of the state it loads, in memory and in the file it leaves. -/
theorem create_retains (config : Config) (image : Option (CoordinatorState R))
    (outcomes : WriteOutcomes) :
    ((Coordinator.create config image outcomes).1 = image ∨ ∃ state,
      (Coordinator.create config image outcomes).1 = some state ∧
        (Coordinator.origin config image).Retains state) ∧
    ∀ c, (Coordinator.create config image outcomes).2 = .ok c →
      (Coordinator.origin config image).Retains c.state := by
  refine Coordinator.create_upholds (Coordinator.upheld_keptByRecovery
    (fun c id record found retains => ?_) fun c retains => ?_) config outcomes (.ofEq rfl)
  · exact retains.trans (stageExperiment_retains found)
  · exact retains.trans (resolveAll_retains c)

/-- The state in memory keeps the history of the file, in every reachable world. -/
def World.RetainsImage : World R → Prop
  | .running c => c.RetainsImage
  | .down _ => True

/-- A request keeps the history of every experiment. -/
theorem perform_retains {c : Coordinator R} (sound : World.Sound path (.running c))
    (request : Request R) (fault : Option SaveFault) :
    c.state.Retains (c.perform request fault).1.state :=
  StateSteps.retains (c.perform_steps request fault) sound.2.1 sound.2.2.1

theorem World.Reachable.retainsImage {world : World R} (reachable : world.Reachable path) :
    world.RetainsImage := by
  let property (world : World R) : Prop := world.Sound path ∧ world.RetainsImage
  have both : property world := by
    refine reachable.invariant ⟨⟨fun _ => rfl, fun _ held => nomatch held⟩, trivial⟩ ?_
    rintro source event target ⟨sound, retains⟩ step
    refine ⟨step.sound sound, ?_⟩
    cases step with
    | request c request fault =>
        intro image held
        have kept := perform_retains sound request fault
        cases (c.perform_operated request fault).outcome with
        | untouched same degraded => exact (retains image (same ▸ held)).trans kept
        | failed same degraded => exact (retains image (same ▸ held)).trans kept
        | written same degraded hasPath =>
            obtain rfl := Option.some.inj (same.symm.trans held)
            exact .refl _
    | stop c => trivial
    | @start config image left outcomes c samePath started =>
        have ended := Coordinator.create_keeps retainsImage_keptByRecovery config image outcomes
          (by
            intro state held
            obtain rfl : image = some state := held
            have loaded : (Coordinator.origin config (some state)).experiments =
                state.experiments := by rw [sound.origin_eq samePath, Option.getD_some]
            exact .ofEq loaded)
        exact ended.2 c (by rw [started])
    | failedStart samePath refused => trivial
  exact both.2

/-- History is append-only.  Whatever a running coordinator is asked, the state it ends with keeps
the history of the state before: every experiment, trial and attempt is still there, the lists of
evidence, decisions, rollback points and hypotheses have their old contents as a prefix, terminal
attempts are unchanged and terminal trials keep their outcome.  A restart keeps the same of the
state last saved, which itself holds nothing that the memory has not kept. -/
theorem history_append_only {c : Coordinator R} (reachable : (World.running c).Reachable path) :
    (∀ request fault, c.state.Retains (c.perform request fault).1.state) ∧
      ∀ image, c.image = some image → image.Retains c.state ∧
        ∀ config outcomes, config.statePath = path →
          (∀ state, (Coordinator.create config (some image) outcomes).1 = some state →
            image.Retains state) ∧
          ∀ restarted, (Coordinator.create config (some image) outcomes).2 = .ok restarted →
            image.Retains restarted.state := by
  refine ⟨perform_retains reachable.sound, fun image held => ⟨reachable.retainsImage image held,
    fun config outcomes samePath => ?_⟩⟩
  have sound : SoundImage path (some image) := held ▸ reachable.sound.2.2.2
  obtain ⟨left, running⟩ := create_retains config (some image) outcomes
  rw [sound.origin_eq samePath, Option.getD_some] at left running
  refine ⟨fun state stored => ?_, running⟩
  rcases left with same | ⟨saved, written, retains⟩
  · obtain rfl := Option.some.inj (same.symm.trans stored)
    exact .refl image
  · obtain rfl := Option.some.inj (written.symm.trans stored)
    exact retains

/-- Finalizing the sample experiment, and restarting from its file, keep its history. -/
theorem history_append_only_sample : ∃ image : CoordinatorState ℚ,
    Sample.committed.image = some image ∧
      Sample.committed.state.Retains (Sample.committed.perform
        (.finalizeExperiment Sample.experiment Sample.candidate []) none).1.state ∧
      ∀ restarted, (Coordinator.create Sample.config (some image) fun _ => none).2 =
        .ok restarted → image.Retains restarted.state := by
  have saved : Sample.committed.image.isSome = true := by decide +kernel
  obtain ⟨image, held⟩ := Option.isSome_iff_exists.mp saved
  obtain ⟨requests, restarts⟩ := history_append_only Sample.committed_reachable
  exact ⟨image, held, requests _ none, ((restarts image held).2 Sample.config _ rfl).2⟩

end World

end ExperimentFabric
