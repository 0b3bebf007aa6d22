import ExperimentFabric.Session
import ExperimentFabric.Soundness

/-!
# Completion and live attempts

Two consequences of the invariant of every run: a trial is completed by exactly one commit, and it
is in the hands of at most one live attempt.
-/

namespace ExperimentFabric

open Lib

variable {R : Type}

/-- The states a world holds: the one in memory and the one in the file. -/
inductive World.Holds : World R → CoordinatorState R → Prop where
  | memory (c : Coordinator R) : Holds (.running c) c.state
  | file {world : World R} {state : CoordinatorState R} (saved : world.image = some state) :
      Holds world state

/-- Committed attempts of a trial. -/
def ExperimentRecord.committedOf (record : ExperimentRecord R) (trial : TrialId) : Nat :=
  record.attempts.values.countP fun attempt => attempt.trial = trial && attempt.committed

theorem SavedCell.committedOf {record : ExperimentRecord R} {key : TrialId} {trial : TrialRecord}
    (cell : SavedCell record.attempts key trial) :
    trial.committedAttempts = record.committedOf key := by
  rw [cell.count]
  split
  · rename_i done
    obtain ⟨attempt, found, named, committed⟩ := cell.completed done
    refine (OrderedMap.countP_values_eq_one found (by simp [named, committed]) ?_).symm
    intro other attempt' lookup satisfied
    simp only [Bool.and_eq_true, decide_eq_true_eq] at satisfied
    exact (cell.committed other attempt' lookup satisfied.1 satisfied.2).2.2.symm
  · rename_i unfinished
    refine (OrderedMap.countP_values_eq_zero fun other attempt lookup => ?_).symm
    by_contra satisfied
    simp only [Bool.and_eq_true, decide_eq_true_eq, Bool.not_eq_false] at satisfied
    exact unfinished (cell.committed other attempt lookup satisfied.1 satisfied.2).2.1

variable [MetricReal R] [CanonicalDigests R]

/-- Every state of every run, in memory or in the file, can be recovered from. -/
theorem World.Reachable.saved {path : Text} {world : World R} (reachable : world.Reachable path)
    {state : CoordinatorState R} (holds : world.Holds state) : state.Saved := by
  cases holds with
  | memory c => exact reachable.sound.2.1.saved
  | file saved =>
      cases world with
      | running c => exact (reachable.sound.2.2.2.2 state saved).1
      | down image => exact (reachable.sound.2 state saved).1

/-- A trial is completed exactly once: its count of committed attempts is the number of them, at
most one, and one exactly when the trial is completed; the committed attempt is then the
authoritative one, itself completed. -/
theorem exactly_once_completion {path : Text} {world : World R}
    (reachable : world.Reachable path) {state : CoordinatorState R} (holds : world.Holds state)
    {experiment : ExperimentId} {record : ExperimentRecord R}
    (found : state.experiments.find? experiment = some record) {key : TrialId}
    {trial : TrialRecord} (held : record.trials.find? key = some trial) :
    trial.committedAttempts = record.committedOf key ∧ trial.committedAttempts ≤ 1 ∧
      (trial.committedAttempts = 1 ↔ trial.state = .completed) ∧
      (trial.state = .completed → ∃ attempt,
        record.attempts.find? trial.authoritativeAttempt = some attempt ∧ attempt.trial = key ∧
          attempt.committed = true) ∧
      ∀ id attempt, record.attempts.find? id = some attempt → attempt.trial = key →
        attempt.committed = true →
          id = trial.authoritativeAttempt ∧ attempt.state = .completed := by
  have cell := (reachable.saved holds experiment record found).trial key trial held
  refine ⟨cell.committedOf, ?_, ?_, cell.completed, ?_⟩
  · rw [cell.count]
    split <;> decide
  · rw [cell.count]
    split <;> simp_all
  · intro id attempt lookup named committed
    obtain ⟨done, -, authoritative⟩ := cell.committed id attempt lookup named committed
    exact ⟨authoritative.symm, done⟩

/-- The committed trial of the sample has one committed attempt. -/
theorem exactly_once_completion_sample : ∃ record trial,
    Sample.committed.findExperiment Sample.experiment = some record ∧
      record.trials.find? Sample.trial = some trial ∧ trial.state = .completed ∧
      record.committedOf Sample.trial = 1 := by
  have done : ((Sample.committed.findExperiment Sample.experiment).bind fun record =>
      (record.trials.find? Sample.trial).map TrialRecord.state) = some .completed := by
    decide +kernel
  obtain ⟨record, found, rest⟩ := Option.bind_eq_some_iff.mp done
  obtain ⟨trial, held, completed⟩ := Option.map_eq_some_iff.mp rest
  obtain ⟨count, -, once, -⟩ :=
    exactly_once_completion Sample.committed_reachable (.memory _) found held
  exact ⟨record, trial, found, held, completed, count ▸ once.mpr completed⟩

omit [MetricReal R] [CanonicalDigests R] in
theorem isHeld_iff (state : TrialState) :
    isHeld state = true ↔ state = .assigned ∨ state = .running ∨ state = .observing := by
  cases state <;> simp [isHeld]

/-- Between operations a trial has at most one attempt that is not terminal; it has one exactly when
it is assigned, running or observing, and that attempt is its authoritative one; and a ready trial
has no authoritative attempt. -/
theorem single_live_attempt {path : Text} {c : Coordinator R}
    (reachable : (World.running c).Reachable path) {experiment : ExperimentId}
    {record : ExperimentRecord R} (found : c.findExperiment experiment = some record)
    {key : TrialId} {trial : TrialRecord} (held : record.trials.find? key = some trial) :
    (∀ first second attempt other, record.attempts.find? first = some attempt →
      record.attempts.find? second = some other → attempt.trial = key → other.trial = key →
      isAttemptTerminal attempt.state = false → isAttemptTerminal other.state = false →
        first = second) ∧
      ((∃ id attempt, record.attempts.find? id = some attempt ∧ attempt.trial = key ∧
        isAttemptTerminal attempt.state = false) ↔
          trial.state = .assigned ∨ trial.state = .running ∨ trial.state = .observing) ∧
      (∀ id attempt, record.attempts.find? id = some attempt → attempt.trial = key →
        isAttemptTerminal attempt.state = false → trial.authoritativeAttempt = id) ∧
      (trial.state = .ready → trial.authoritativeAttempt = .null) := by
  have cell := (reachable.sound.2.1 experiment record found).trial key trial held
  refine ⟨?_, ?_, ?_, cell.ready⟩
  · intro first second attempt other lookup lookup' named named' isOpen isOpen'
    exact (cell.live first attempt lookup named isOpen).2.symm.trans
      (cell.live second other lookup' named' isOpen').2
  · rw [← isHeld_iff]
    constructor
    · rintro ⟨id, attempt, lookup, named, isOpen⟩
      exact (cell.live id attempt lookup named isOpen).1
    · intro inHand
      obtain ⟨attempt, lookup, named, isOpen⟩ := cell.held inHand
      exact ⟨_, attempt, lookup, named, isOpen⟩
  · intro id attempt lookup named isOpen
    exact (cell.live id attempt lookup named isOpen).2

/-- The claimed trial of the sample is in the hands of a live attempt. -/
theorem single_live_attempt_sample : ∃ record trial,
    Sample.claimed.findExperiment Sample.experiment = some record ∧
      record.trials.find? Sample.trial = some trial ∧ trial.state = .assigned ∧
      ∃ id attempt, record.attempts.find? id = some attempt ∧ attempt.trial = Sample.trial ∧
        isAttemptTerminal attempt.state = false := by
  have assigned : ((Sample.claimed.findExperiment Sample.experiment).bind fun record =>
      (record.trials.find? Sample.trial).map TrialRecord.state) = some .assigned := by
    decide +kernel
  obtain ⟨record, found, rest⟩ := Option.bind_eq_some_iff.mp assigned
  obtain ⟨trial, held, state⟩ := Option.map_eq_some_iff.mp rest
  obtain ⟨-, live, -⟩ := single_live_attempt Sample.claimed_reachable found held
  exact ⟨record, trial, found, held, state, live.mpr (.inl state)⟩

end ExperimentFabric
