import ExperimentFabric.Completion

/-!
# Crash-consistent recovery

A process may stop at any point of its life, also between two writes of its startup.  Whatever file
it leaves, a later start that succeeds ends all open work, keeps what was completed, and arrives at
the experiments that an uninterrupted start would have arrived at.
-/

namespace ExperimentFabric

open Lib Relation

variable {R : Type}

/-- What a start makes of an experiment of the file. -/
structure RestoredFrom (original record : ExperimentRecord R) : Prop where
  attemptsEnded : ∀ id attempt, record.attempts.find? id = some attempt →
    isAttemptTerminal attempt.state = true
  trialsSettled : ∀ key trial, record.trials.find? key = some trial →
    trial.state = .ready ∨ isTerminal trial.state = true
  completedTrials : ∀ key trial, trial.state = .completed →
    (record.trials.find? key = some trial ↔ original.trials.find? key = some trial)
  committedAttempts : ∀ id attempt, attempt.committed = true →
    (record.attempts.find? id = some attempt ↔ original.attempts.find? id = some attempt)
  observations : record.observations = original.observations
  artifacts : record.artifacts = original.artifacts
  decisions : record.decisions = original.decisions
  rollbackPoints : record.rollbackPoints = original.rollbackPoints

/-- A record that agrees with a recovered one and froze its terminal work restores the original. -/
theorem restoredFrom_of_forget_eq {marks : Watermarks} {record original : ExperimentRecord R}
    (saved : Recoverable marks original) (same : record.forget = original.recovered.forget)
    (frozen : Frozen original record) : RestoredFrom original record := by
  have attemptSource : ∀ id attempt', record.attempts.find? id = some attempt' →
      ∃ attempt, original.attempts.find? id = some attempt ∧
        (recoveredAttempt attempt).unsequenced = attempt'.unsequenced := by
    intro id attempt' found
    obtain ⟨attempt, lookup, equal⟩ := forget_attempt same found
    obtain ⟨before, held, rfl⟩ :=
      Option.map_eq_some_iff.mp (by simpa [ExperimentRecord.recovered] using lookup)
    exact ⟨before, held, equal⟩
  have trialSource : ∀ key trial', record.trials.find? key = some trial' →
      ∃ trial, original.trials.find? key = some trial ∧
        (original.reopened.recoveredTrial trial).unsequenced = trial'.unsequenced := by
    intro key trial' found
    obtain ⟨trial, lookup, equal⟩ := forget_trial same found
    obtain ⟨before, held, rfl⟩ :=
      Option.map_eq_some_iff.mp (by simpa [ExperimentRecord.recovered] using lookup)
    exact ⟨before, held, equal⟩
  refine ⟨?_, ?_, ?_, ?_, ?_, ?_, ?_, ?_⟩
  · intro id attempt' found
    obtain ⟨attempt, -, equal⟩ := attemptSource id attempt' found
    have state : (recoveredAttempt attempt).state = attempt'.state :=
      congrArg (fun forgotten => forgotten.state) equal
    rw [← state]
    exact recoveredAttempt_terminal attempt
  · intro key trial' found
    obtain ⟨trial, -, equal⟩ := trialSource key trial' found
    have state : (original.reopened.recoveredTrial trial).state = trial'.state :=
      congrArg (fun forgotten => forgotten.state) equal
    rw [← state]
    exact (recoveredTrial_phase original.reopened trial).elim .inr fun ready => .inl ready.1
  · intro key trial done
    constructor
    · intro found
      obtain ⟨before, held, equal⟩ := trialSource key trial found
      have state : (original.reopened.recoveredTrial before).state = trial.state :=
        congrArg (fun forgotten => forgotten.state) equal
      have completed := (recoveredTrial_completed original.reopened before).mp (state.trans done)
      have kept := frozen.trials key before held (by simp [completed, isTerminal])
      rw [held, ← Option.some.inj (kept.symm.trans found)]
    · intro held
      exact frozen.trials key trial held (by simp [done, isTerminal])
  · intro id attempt committed
    have ended : ∀ before, original.attempts.find? id = some before → before.committed = true →
        isAttemptTerminal before.state = true := by
      intro before held wasCommitted
      obtain ⟨trial, owner⟩ := saved.attemptTrial id before held
      have state := ((saved.trial _ trial owner).committed id before held rfl wasCommitted).1
      simp [state, isAttemptTerminal]
    constructor
    · intro found
      obtain ⟨before, held, equal⟩ := attemptSource id attempt found
      have flag : (recoveredAttempt before).committed = attempt.committed :=
        congrArg (fun forgotten => forgotten.committed) equal
      have wasCommitted : before.committed = true :=
        (recoveredAttempt_kept before).2.2.2.symm.trans (flag.trans committed)
      have kept := frozen.attempts id before held (ended before held wasCommitted)
      rw [held, ← Option.some.inj (kept.symm.trans found)]
    · intro held
      exact frozen.attempts id attempt held (ended attempt held committed)
  · exact congrArg (fun forgotten => forgotten.observations) same
  · exact congrArg (fun forgotten => forgotten.artifacts) same
  · exact congrArg (fun forgotten => forgotten.decisions) same
  · exact congrArg (fun forgotten => forgotten.rollbackPoints) same

/-- Starting from files with the same recovery gives the same experiments, up to sequence numbers
and lifecycle lines. -/
theorem Recovers.unique {first second left right : CoordinatorState R}
    (same : SameRecovery first second) (fromFirst : Recovers first left)
    (fromSecond : Recovers second right) :
    right.experiments.mapValues ExperimentRecord.forget =
      left.experiments.mapValues ExperimentRecord.forget := by
  ext1 id
  rw [OrderedMap.find?_mapValues, OrderedMap.find?_mapValues, fromFirst.records id,
    fromSecond.records id, same id]

section Starts

variable [MetricReal R]

/-- A startup, complete or stopped between two of its writes, finds the first file and leaves the
second one. -/
def LeavesFile (path : Text) (before after : Option (CoordinatorState R)) : Prop :=
  ∃ config outcomes, config.statePath = path ∧ (Coordinator.create config before outcomes).1 = after

/-- A startup leaves a file from which the same experiments are recovered. -/
theorem LeavesFile.sameRecovery {path : Text} {before after : Option (CoordinatorState R)}
    (leaves : LeavesFile path before after) (sound : SoundImage path before) :
    SameRecovery (before.getD {}) (after.getD {}) := by
  obtain ⟨config, outcomes, samePath, rfl⟩ := leaves
  have outcome := Coordinator.create_spec config before outcomes (sound.origin config).1
  have origin := sound.origin_eq samePath
  cases left : (Coordinator.create config before outcomes).1 with
  | none =>
      rw [outcome.absent left]
      exact fun _ => rfl
  | some state =>
      by_cases noPath : config.statePath = []
      · rw [← left, outcome.noPath noPath]
        exact fun _ => rfl
      · rcases outcome.written noPath state left with staged | ⟨c, started, rfl⟩
        · exact origin ▸ staged.sameRecovery
        · exact origin ▸ (outcome.recovers c started).sameRecovery

end Starts

variable [MetricReal R] [CanonicalDigests R]

/-- The file a startup leaves is one a lifetime can leave. -/
theorem LeavesFile.reachable {path : Text} {before after : Option (CoordinatorState R)}
    (leaves : LeavesFile path before after) (reachable : (World.down before).Reachable path) :
    (World.down after).Reachable path := by
  obtain ⟨config, outcomes, samePath, rfl⟩ := leaves
  have outcome := Coordinator.create_spec config before outcomes (reachable.sound.origin config).1
  cases result : (Coordinator.create config before outcomes).2 with
  | error failure => exact reachable.step (.failedStart samePath (Prod.ext rfl result))
  | ok c =>
      have running := reachable.start samePath (Prod.ext rfl result)
      rw [← outcome.stored c result]
      exact running.step (.stop c)

/-- Any number of startups, each stopped anywhere, keep the file reachable and what it recovers
to. -/
theorem leavesFiles {path : Text} {first last : Option (CoordinatorState R)}
    (interrupted : ReflTransGen (LeavesFile path) first last)
    (reachable : (World.down first).Reachable path) :
    (World.down last).Reachable path ∧ SameRecovery (first.getD {}) (last.getD {}) := by
  induction interrupted with
  | refl => exact ⟨reachable, fun _ => rfl⟩
  | tail _ final ih =>
      exact ⟨final.reachable ih.1, fun id => (final.sameRecovery ih.1.sound id).trans (ih.2 id)⟩

/-- Let a lifetime leave the file `first`, let any number of startups be stopped anywhere, leaving
`last`, and let a start from `last` succeed.  It holds the experiments of the file with all open
work ended and all completed work untouched, and they are those an uninterrupted start from `first`
holds, up to sequence numbers and lifecycle lines. -/
theorem crash_consistent_recovery {path : Text} {first last left : Option (CoordinatorState R)}
    (reachable : (World.down first).Reachable path)
    (interrupted : ReflTransGen (LeavesFile path) first last) {config : Config}
    (samePath : config.statePath = path) {outcomes : WriteOutcomes} {c : Coordinator R}
    (started : Coordinator.create config last outcomes = (left, .ok c)) :
    (∀ id, (c.findExperiment id).isSome = ((last.getD {}).experiments.find? id).isSome) ∧
      (∀ id original record, (last.getD {}).experiments.find? id = some original →
        c.findExperiment id = some record → RestoredFrom original record) ∧
      ∀ (otherConfig : Config) otherOutcomes otherLeft uninterrupted,
        otherConfig.statePath = path →
        Coordinator.create otherConfig first otherOutcomes = (otherLeft, .ok uninterrupted) →
          c.state.experiments.mapValues ExperimentRecord.forget =
            uninterrupted.state.experiments.mapValues ExperimentRecord.forget := by
  obtain ⟨lastReachable, same⟩ := leavesFiles interrupted reachable
  have sound : SoundImage path last := lastReachable.sound
  have firstSound : SoundImage path first := reachable.sound
  have saved := (sound.origin config).1
  have outcome := Coordinator.create_spec config last outcomes saved
  rw [started] at outcome
  have recovers := outcome.recovers c rfl
  have origin := sound.origin_eq samePath
  rw [origin] at recovers saved
  refine ⟨fun id => ?_, fun id original record found lookup => ?_, ?_⟩
  · have agree := congrArg Option.isSome (recovers.records id)
    simpa using agree
  · obtain ⟨before, held, equal, frozen⟩ := recovers.source lookup
    obtain rfl := Option.some.inj (held.symm.trans found)
    exact restoredFrom_of_forget_eq (saved id before held) equal frozen
  · intro otherConfig otherOutcomes otherLeft uninterrupted otherPath otherStarted
    have otherOutcome := Coordinator.create_spec otherConfig first otherOutcomes
      (firstSound.origin otherConfig).1
    rw [otherStarted] at otherOutcome
    have otherRecovers := otherOutcome.recovers uninterrupted rfl
    rw [firstSound.origin_eq otherPath] at otherRecovers
    exact Recovers.unique same otherRecovers recovers

/-- A file left by a startup of the sample that staged the claimed trial and then failed. -/
def Sample.stagedFile : Option (CoordinatorState ℚ) :=
  (Coordinator.create Sample.config Sample.claimed.image
    fun writes => if writes = 0 then none else some .replace).1

/-- The interrupted recovery of the sample, run again. -/
theorem crash_consistent_recovery_sample : ∃ left c,
    Coordinator.create Sample.config Sample.stagedFile (fun _ => none) = (left, .ok c) ∧
      ∀ original record,
        (Sample.stagedFile.getD {}).experiments.find? Sample.experiment = some original →
          c.findExperiment Sample.experiment = some record → RestoredFrom original record := by
  have succeeds : (Coordinator.create Sample.config Sample.stagedFile
      (fun _ => none)).2.isOk = true := by decide +kernel
  cases result : Coordinator.create Sample.config Sample.stagedFile (fun _ => none) with
  | mk left outcome =>
      cases outcome with
      | error failure => simp [result, Except.isOk, Except.toBool] at succeeds
      | ok c =>
          have reachable : (World.down Sample.claimed.image).Reachable Sample.config.statePath :=
            Sample.claimed_reachable.step (.stop _)
          have staged : LeavesFile Sample.config.statePath Sample.claimed.image Sample.stagedFile :=
            ⟨Sample.config, _, rfl, rfl⟩
          exact ⟨left, c, rfl,
            (crash_consistent_recovery reachable (.single staged) rfl result).2.1 _⟩

end ExperimentFabric
