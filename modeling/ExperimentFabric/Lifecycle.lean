import ExperimentFabric.Moves

/-!
# The lifecycle of trials and attempts

Between operations a trial is ready, held by exactly one live attempt, or terminal, and it is
completed exactly when its authoritative attempt is committed.  The invariant is stated per trial
over the attempts that name it, so a change local to one trial leaves every other trial alone.
-/

namespace ExperimentFabric

open Lib Relation

variable {R : Type}

/-- The trial is in the hands of an attempt. -/
def isHeld : TrialState → Bool
  | .assigned | .running | .observing => true
  | .created | .ready | .completed | .failed | .cancelled | .invalid | .superseded
  | .revalidationRequired => false

theorem isTerminal_of_isHeld {state : TrialState} (held : isHeld state = true) :
    isTerminal state = false := by
  cases state <;> simp_all [isHeld, isTerminal]

/-- What saved records guarantee about one trial and its attempts. -/
structure SavedCell (attempts : OrderedMap TrialAttemptId AttemptRecord) (key : TrialId)
    (trial : TrialRecord) : Prop where
  id : trial.id = key
  branch : ∀ id attempt, attempts.find? id = some attempt → attempt.trial = key →
    attempt.branch = trial.branch
  trialOpen : ∀ id attempt, attempts.find? id = some attempt → attempt.trial = key →
    isAttemptTerminal attempt.state = false → isTerminal trial.state = false
  committed : ∀ id attempt, attempts.find? id = some attempt → attempt.trial = key →
    attempt.committed = true →
      attempt.state = .completed ∧ trial.state = .completed ∧ trial.authoritativeAttempt = id
  completed : trial.state = .completed → ∃ attempt,
    attempts.find? trial.authoritativeAttempt = some attempt ∧ attempt.trial = key ∧
      attempt.committed = true
  count : trial.committedAttempts = if trial.state = .completed then 1 else 0

/-- What holds between operations about one trial and its attempts. -/
structure Cell (attempts : OrderedMap TrialAttemptId AttemptRecord) (key : TrialId)
    (trial : TrialRecord) : Prop extends SavedCell attempts key trial where
  live : ∀ id attempt, attempts.find? id = some attempt → attempt.trial = key →
    isAttemptTerminal attempt.state = false →
      isHeld trial.state = true ∧ trial.authoritativeAttempt = id
  held : isHeld trial.state = true → ∃ attempt,
    attempts.find? trial.authoritativeAttempt = some attempt ∧ attempt.trial = key ∧
      isAttemptTerminal attempt.state = false
  ready : trial.state = .ready → trial.authoritativeAttempt = .null
  phase : isTerminal trial.state = true ∨ isHeld trial.state = true ∨ trial.state = .ready

/-- The invariant of a trial reads only the attempts that name it. -/
theorem SavedCell.congr {attempts attempts' : OrderedMap TrialAttemptId AttemptRecord}
    {key : TrialId} {trial : TrialRecord} (cell : SavedCell attempts key trial)
    (same : ∀ id attempt, attempt.trial = key →
      (attempts'.find? id = some attempt ↔ attempts.find? id = some attempt)) :
    SavedCell attempts' key trial where
  id := cell.id
  branch := fun id attempt found owned =>
    cell.branch id attempt ((same id attempt owned).mp found) owned
  trialOpen := fun id attempt found owned =>
    cell.trialOpen id attempt ((same id attempt owned).mp found) owned
  committed := fun id attempt found owned =>
    cell.committed id attempt ((same id attempt owned).mp found) owned
  completed := fun finished => by
    obtain ⟨attempt, found, owned, committed⟩ := cell.completed finished
    exact ⟨attempt, (same _ attempt owned).mpr found, owned, committed⟩
  count := cell.count

theorem Cell.congr {attempts attempts' : OrderedMap TrialAttemptId AttemptRecord} {key : TrialId}
    {trial : TrialRecord} (cell : Cell attempts key trial)
    (same : ∀ id attempt, attempt.trial = key →
      (attempts'.find? id = some attempt ↔ attempts.find? id = some attempt)) :
    Cell attempts' key trial where
  toSavedCell := cell.toSavedCell.congr same
  live := fun id attempt found owned =>
    cell.live id attempt ((same id attempt owned).mp found) owned
  held := fun isHeld => by
    obtain ⟨attempt, found, owned, stillOpen⟩ := cell.held isHeld
    exact ⟨attempt, (same _ attempt owned).mpr found, owned, stillOpen⟩
  ready := cell.ready
  phase := cell.phase

/-- Keys name their trials and attempts, lie below the watermarks, and every attempt has a trial. -/
structure Keyed (marks : Watermarks) (record : ExperimentRecord R) : Prop where
  trialBound : ∀ key trial, record.trials.find? key = some trial → key.value ≤ marks.trial
  attemptId : ∀ key attempt, record.attempts.find? key = some attempt → attempt.id = key
  attemptValid : ∀ key attempt, record.attempts.find? key = some attempt → key.value ≠ 0
  attemptBound : ∀ key attempt, record.attempts.find? key = some attempt →
    key.value ≤ marks.attempt
  attemptTrial : ∀ key attempt, record.attempts.find? key = some attempt →
    ∃ trial, record.trials.find? attempt.trial = some trial

/-- The invariant of a saved record. -/
structure Recoverable (marks : Watermarks) (record : ExperimentRecord R) : Prop
    extends Keyed marks record where
  trial : ∀ key trial, record.trials.find? key = some trial → SavedCell record.attempts key trial

/-- The invariant of a record between operations. -/
structure Lifecycle (marks : Watermarks) (record : ExperimentRecord R) : Prop
    extends Keyed marks record where
  trial : ∀ key trial, record.trials.find? key = some trial → Cell record.attempts key trial

section Record

variable {marks : Watermarks} {record : ExperimentRecord R}

theorem Lifecycle.recoverable (life : Lifecycle marks record) : Recoverable marks record :=
  ⟨life.toKeyed, fun key trial found => (life.trial key trial found).toSavedCell⟩

theorem Keyed.mono {marks' : Watermarks} (keyed : Keyed marks record) (grows : marks.Grows marks') :
    Keyed marks' record where
  trialBound := fun key trial found => (keyed.trialBound key trial found).trans grows.trial
  attemptId := keyed.attemptId
  attemptValid := keyed.attemptValid
  attemptBound := fun key attempt found => (keyed.attemptBound key attempt found).trans grows.attempt
  attemptTrial := keyed.attemptTrial

theorem Lifecycle.mono {marks' : Watermarks} (life : Lifecycle marks record)
    (grows : marks.Grows marks') : Lifecycle marks' record :=
  ⟨life.toKeyed.mono grows, life.trial⟩

theorem Recoverable.mono {marks' : Watermarks} (saved : Recoverable marks record)
    (grows : marks.Grows marks') : Recoverable marks' record :=
  ⟨saved.toKeyed.mono grows, saved.trial⟩

/-- The invariant reads only the trials and the attempts. -/
theorem Lifecycle.congr {other : ExperimentRecord R} (life : Lifecycle marks record)
    (trials : other.trials = record.trials) (attempts : other.attempts = record.attempts) :
    Lifecycle marks other := by
  obtain ⟨⟨trialBound, attemptId, attemptValid, attemptBound, attemptTrial⟩, cells⟩ := life
  exact ⟨⟨by rwa [trials], by rwa [attempts], by rwa [attempts], by rwa [attempts],
    by rwa [attempts, trials]⟩, by rwa [trials, attempts]⟩

/-! ## A change of one trial and its live attempt -/

/-- The live attempt of an open trial belongs to it. -/
theorem LivePair.owned {trialKey : TrialId} {attemptKey : TrialAttemptId} {trial : TrialRecord}
    {attempt : AttemptRecord} (life : Lifecycle marks record)
    (pair : LivePair record trialKey attemptKey trial attempt) : attempt.trial = trialKey := by
  have cell := life.trial trialKey trial pair.trialFound
  rcases cell.phase with terminal | held | ready
  · simp [pair.trialOpen] at terminal
  · obtain ⟨held, found, owned, -⟩ := cell.held held
    rw [pair.authoritative, pair.attemptFound] at found
    obtain rfl := Option.some.inj found
    exact owned
  · have null : attemptKey = .null := pair.authoritative.symm.trans (cell.ready ready)
    exact (life.attemptValid attemptKey attempt pair.attemptFound (by simp [null])).elim

/-- Every other attempt of the trial is closed and uncommitted. -/
theorem LivePair.others {trialKey : TrialId} {attemptKey : TrialAttemptId} {trial : TrialRecord}
    {attempt : AttemptRecord} (life : Lifecycle marks record)
    (pair : LivePair record trialKey attemptKey trial attempt) {id : TrialAttemptId}
    {other : AttemptRecord} (found : record.attempts.find? id = some other)
    (owned : other.trial = trialKey) (different : id ≠ attemptKey) :
    isAttemptTerminal other.state = true ∧ other.committed = false := by
  have cell := life.trial trialKey trial pair.trialFound
  constructor
  · by_contra stillOpen
    have named := (cell.live id other found owned (by simpa using stillOpen)).2
    exact different (named.symm.trans pair.authoritative)
  · by_contra committed
    have finished := (cell.committed id other found owned (by simpa using committed)).2.1
    exact absurd pair.trialOpen (by simp [finished, isTerminal])

/-- What a change of a trial and its live attempt must establish. -/
structure PairStep (attemptKey : TrialAttemptId) (trial trial' : TrialRecord)
    (attempt attempt' : AttemptRecord) : Prop where
  trialId : trial'.id = trial.id
  trialBranch : trial'.branch = trial.branch
  attemptId : attempt'.id = attempt.id
  attemptTrial : attempt'.trial = attempt.trial
  attemptBranch : attempt'.branch = attempt.branch
  live : isAttemptTerminal attempt'.state = false →
    isHeld trial'.state = true ∧ trial'.authoritativeAttempt = attemptKey
  committed : attempt'.committed = true → attempt'.state = .completed ∧
    trial'.state = .completed ∧ trial'.authoritativeAttempt = attemptKey
  held : isHeld trial'.state = true →
    trial'.authoritativeAttempt = attemptKey ∧ isAttemptTerminal attempt'.state = false
  completed : trial'.state = .completed →
    trial'.authoritativeAttempt = attemptKey ∧ attempt'.committed = true
  count : trial'.committedAttempts = if trial'.state = .completed then 1 else 0
  ready : trial'.state = .ready → trial'.authoritativeAttempt = .null
  phase : isTerminal trial'.state = true ∨ isHeld trial'.state = true ∨ trial'.state = .ready

/-- The changed trial and its attempts satisfy the invariant of one trial. -/
theorem pairCell {trialKey : TrialId} {attemptKey : TrialAttemptId} {trial trial' : TrialRecord}
    {attempt attempt' : AttemptRecord} (life : Lifecycle marks record)
    (pair : LivePair record trialKey attemptKey trial attempt)
    (step : PairStep attemptKey trial trial' attempt attempt')
    {attempts : OrderedMap TrialAttemptId AttemptRecord}
    (lookup : ∀ id other, attempts.find? id = some other →
      (id = attemptKey ∧ other = attempt') ∨
        (id ≠ attemptKey ∧ record.attempts.find? id = some other))
    (changed : attempts.find? attemptKey = some attempt') : Cell attempts trialKey trial' := by
  have owned := pair.owned life
  have cell := life.trial trialKey trial pair.trialFound
  have stillOpen : ∀ id other, attempts.find? id = some other → other.trial = trialKey →
      isAttemptTerminal other.state = false →
        isHeld trial'.state = true ∧ trial'.authoritativeAttempt = id := by
    intro id other found named isOpen
    rcases lookup id other found with ⟨rfl, rfl⟩ | ⟨different, found⟩
    · exact step.live isOpen
    · simp [(pair.others life found named different).1] at isOpen
  refine ⟨⟨step.trialId.trans cell.id, ?_, ?_, ?_, ?_, step.count⟩, stillOpen, ?_, step.ready,
    step.phase⟩
  · intro id other found named
    rw [step.trialBranch]
    rcases lookup id other found with ⟨rfl, rfl⟩ | ⟨-, found⟩
    · exact step.attemptBranch.trans (cell.branch id attempt pair.attemptFound owned)
    · exact cell.branch id other found named
  · intro id other found named isOpen
    exact isTerminal_of_isHeld (stillOpen id other found named isOpen).1
  · intro id other found named committed
    rcases lookup id other found with ⟨rfl, rfl⟩ | ⟨different, found⟩
    · exact step.committed committed
    · simp [(pair.others life found named different).2] at committed
  · intro finished
    obtain ⟨named, committed⟩ := step.completed finished
    exact ⟨attempt', named ▸ changed, step.attemptTrial.trans owned, committed⟩
  · intro isHeld
    obtain ⟨named, isOpen⟩ := step.held isHeld
    exact ⟨attempt', named ▸ changed, step.attemptTrial.trans owned, isOpen⟩

/-- Changing a trial together with its live attempt keeps the invariant. -/
theorem Lifecycle.updatePair {trialKey : TrialId} {attemptKey : TrialAttemptId}
    {trial : TrialRecord} {attempt : AttemptRecord} (life : Lifecycle marks record)
    (pair : LivePair record trialKey attemptKey trial attempt)
    (changeTrial : TrialRecord → TrialRecord) (changeAttempt : AttemptRecord → AttemptRecord)
    {after : ExperimentRecord R}
    (trials : after.trials = record.trials.modify trialKey changeTrial)
    (attempts : after.attempts = record.attempts.modify attemptKey changeAttempt)
    (step : PairStep attemptKey trial (changeTrial trial) attempt (changeAttempt attempt)) :
    Lifecycle marks after := by
  have owned := pair.owned life
  have cell := life.trial trialKey trial pair.trialFound
  have lookup : ∀ id other, after.attempts.find? id = some other →
      (id = attemptKey ∧ other = changeAttempt attempt) ∨
        (id ≠ attemptKey ∧ record.attempts.find? id = some other) := by
    intro id other found
    rw [attempts, OrderedMap.find?_modify] at found
    by_cases here : id = attemptKey
    · simp only [here, if_true, pair.attemptFound, Option.map_some, Option.some.injEq] at found
      exact .inl ⟨here, found.symm⟩
    · exact .inr ⟨here, by simpa [here] using found⟩
  have changed : after.attempts.find? attemptKey = some (changeAttempt attempt) := by
    simp [attempts, pair.attemptFound]
  have trialHeld : ∀ key other, after.trials.find? key = some other →
      ∃ before, record.trials.find? key = some before := by
    intro key other found
    rw [trials, OrderedMap.find?_modify] at found
    by_cases here : key = trialKey
    · exact ⟨trial, here ▸ pair.trialFound⟩
    · exact ⟨other, by simpa [here] using found⟩
  have trialKept : ∀ key before, record.trials.find? key = some before →
      ∃ other, after.trials.find? key = some other := by
    intro key before found
    by_cases here : key = trialKey
    · exact ⟨changeTrial before, by simp [trials, here, here ▸ found]⟩
    · exact ⟨before, by simp [trials, here, found]⟩
  refine ⟨⟨?_, ?_, ?_, ?_, ?_⟩, ?_⟩
  · intro key other found
    obtain ⟨before, found⟩ := trialHeld key other found
    exact life.trialBound key before found
  · intro id other found
    rcases lookup id other found with ⟨rfl, rfl⟩ | ⟨-, found⟩
    · exact step.attemptId.trans (life.attemptId id attempt pair.attemptFound)
    · exact life.attemptId id other found
  · intro id other found
    rcases lookup id other found with ⟨rfl, rfl⟩ | ⟨-, found⟩
    · exact life.attemptValid id attempt pair.attemptFound
    · exact life.attemptValid id other found
  · intro id other found
    rcases lookup id other found with ⟨rfl, rfl⟩ | ⟨-, found⟩
    · exact life.attemptBound id attempt pair.attemptFound
    · exact life.attemptBound id other found
  · intro id other found
    rcases lookup id other found with ⟨rfl, rfl⟩ | ⟨-, found⟩
    · exact trialKept _ trial (by rw [step.attemptTrial, owned, pair.trialFound])
    · obtain ⟨before, trialFound⟩ := life.attemptTrial id other found
      exact trialKept _ before trialFound
  · intro key other found
    by_cases here : key = trialKey
    · subst here
      obtain rfl : changeTrial trial = other := by
        simpa [trials, pair.trialFound] using found
      exact pairCell life pair step lookup changed
    · have before : record.trials.find? key = some other := by simpa [trials, here] using found
      refine (life.trial key other before).congr fun id candidate named => ⟨fun found => ?_, ?_⟩
      · rcases lookup id candidate found with ⟨rfl, rfl⟩ | ⟨-, found⟩
        · exact (here (named.symm.trans (step.attemptTrial.trans owned))).elim
        · exact found
      · intro found
        have different : id ≠ attemptKey := by
          rintro rfl
          obtain rfl := Option.some.inj (pair.attemptFound.symm.trans found)
          exact here (named.symm.trans owned)
        simp [attempts, different, found]

/-! ## Changes of many trials -/

/-- A change that no lifecycle field of a trial sees. -/
structure SamePhase (trial trial' : TrialRecord) : Prop where
  id : trial'.id = trial.id
  branch : trial'.branch = trial.branch
  state : trial'.state = trial.state
  authoritative : trial'.authoritativeAttempt = trial.authoritativeAttempt
  committedAttempts : trial'.committedAttempts = trial.committedAttempts

theorem Cell.samePhase {attempts : OrderedMap TrialAttemptId AttemptRecord} {key : TrialId}
    {trial trial' : TrialRecord} (cell : Cell attempts key trial) (same : SamePhase trial trial') :
    Cell attempts key trial' := by
  obtain ⟨⟨id, branch, trialOpen, committed, completed, count⟩, live, held, ready, phase⟩ := cell
  exact ⟨⟨by rwa [same.id], by rwa [same.branch], by rwa [same.state],
    by rwa [same.state, same.authoritative], by rwa [same.state, same.authoritative],
    by rwa [same.state, same.committedAttempts]⟩, by rwa [same.state, same.authoritative],
    by rwa [same.state, same.authoritative], by rwa [same.state, same.authoritative],
    by rwa [same.state]⟩

theorem Lifecycle.modifyTrial (life : Lifecycle marks record) (key : TrialId)
    (change : TrialRecord → TrialRecord) (same : ∀ trial, SamePhase trial (change trial))
    {after : ExperimentRecord R} (trials : after.trials = record.trials.modify key change)
    (attempts : after.attempts = record.attempts) : Lifecycle marks after := by
  have lookup : ∀ id other, after.trials.find? id = some other →
      ∃ before, record.trials.find? id = some before ∧ SamePhase before other := by
    intro id other found
    rw [trials] at found
    rcases OrderedMap.find?_modify_cases found with ⟨rfl, before, held, rfl⟩ | ⟨-, held⟩
    · exact ⟨before, held, same before⟩
    · exact ⟨other, held, rfl, rfl, rfl, rfl, rfl⟩
  refine ⟨⟨?_, by rw [attempts]; exact life.attemptId, by rw [attempts]; exact life.attemptValid,
    by rw [attempts]; exact life.attemptBound, ?_⟩, ?_⟩
  · intro id other found
    obtain ⟨before, held, -⟩ := lookup id other found
    exact life.trialBound id before held
  · rw [attempts]
    intro id attempt found
    obtain ⟨before, held⟩ := life.attemptTrial id attempt found
    by_cases here : attempt.trial = key
    · exact ⟨change before, by simp [trials, here, here ▸ held]⟩
    · exact ⟨before, by simp [trials, here, held]⟩
  · intro id other found
    obtain ⟨before, held, same⟩ := lookup id other found
    rw [attempts]
    exact (life.trial id before held).samePhase same

/-- A closed trial was selected and open; any other trial is unchanged. -/
theorem closeTrial_cases (select : TrialRecord → Bool) (state : TrialState) (kind : FailureKind)
    (detail : Text) (sequence : Nat) (trial : TrialRecord) :
    (select trial = true ∧ isTerminal trial.state = false ∧
      closeTrial select state kind detail sequence trial =
        trial.finish state kind detail sequence) ∨
    ((select trial = false ∨ isTerminal trial.state = true) ∧
      closeTrial select state kind detail sequence trial = trial) := by
  unfold closeTrial
  split
  · rename_i chosen
    simp only [Bool.and_eq_true, Bool.not_eq_true'] at chosen
    exact .inl ⟨chosen.1, chosen.2, rfl⟩
  · rename_i spared
    refine .inr ⟨?_, rfl⟩
    by_cases chosen : select trial = true
    · exact .inr (by simpa [chosen] using spared)
    · exact .inl (by simpa using chosen)

/-- A closed attempt was selected and open; any other attempt is unchanged. -/
theorem closeAttempt_cases (select : AttemptRecord → Bool) (state : AttemptState)
    (kind : FailureKind) (detail : Text) (sequence : Nat) (attempt : AttemptRecord) :
    (select attempt = true ∧ isAttemptTerminal attempt.state = false ∧
      closeAttempt select state kind detail sequence attempt =
        attempt.finish state kind detail sequence) ∨
    ((select attempt = false ∨ isAttemptTerminal attempt.state = true) ∧
      closeAttempt select state kind detail sequence attempt = attempt) := by
  unfold closeAttempt
  split
  · rename_i chosen
    simp only [Bool.and_eq_true, Bool.not_eq_true'] at chosen
    exact .inl ⟨chosen.1, chosen.2, rfl⟩
  · rename_i spared
    refine .inr ⟨?_, rfl⟩
    by_cases chosen : select attempt = true
    · exact .inr (by simpa [chosen] using spared)
    · exact .inl (by simpa using chosen)

/-- Closing a trial together with its open attempts keeps its invariant. -/
theorem Cell.close {attempts : OrderedMap TrialAttemptId AttemptRecord} {key : TrialId}
    {trial : TrialRecord} (cell : Cell attempts key trial) {selectTrial : TrialRecord → Bool}
    {selectAttempt : AttemptRecord → Bool}
    (agree : ∀ id attempt, attempts.find? id = some attempt → attempt.trial = key →
      selectAttempt attempt = selectTrial trial)
    {trialState : TrialState} {attemptState : AttemptState} (trialEnds : isTerminal trialState = true)
    (notCompleted : trialState ≠ .completed) (attemptEnds : isAttemptTerminal attemptState = true)
    (kind kind' : FailureKind) (detail detail' : Text) (sequence sequence' : Nat) :
    Cell (closeAttempts selectAttempt attemptState kind' detail' sequence' attempts) key
      (closeTrial selectTrial trialState kind detail sequence trial) := by
  have lookup : ∀ id other,
      (closeAttempts selectAttempt attemptState kind' detail' sequence' attempts).find? id =
        some other → ∃ attempt, attempts.find? id = some attempt ∧
          closeAttempt selectAttempt attemptState kind' detail' sequence' attempt = other := by
    intro id other found
    simpa [closeAttempts] using found
  rcases closeTrial_cases selectTrial trialState kind detail sequence trial with
    ⟨chosen, wasOpen, closed⟩ | ⟨spared, same⟩
  · -- The trial is closed: all its attempts end, and none of them was committed.
    rw [closed]
    have ended : ∀ id other,
        (closeAttempts selectAttempt attemptState kind' detail' sequence' attempts).find? id =
          some other → other.trial = key → isAttemptTerminal other.state = true ∧
            other.committed = false ∧ other.branch = trial.branch := by
      intro id other found named
      obtain ⟨attempt, before, rfl⟩ := lookup id other found
      have uncommitted : ∀ owned : attempt.trial = key, attempt.committed = false := fun owned => by
        by_contra committed
        have finished := (cell.committed id attempt before owned (by simpa using committed)).2.1
        simp [finished, isTerminal] at wasOpen
      rcases closeAttempt_cases selectAttempt attemptState kind' detail' sequence' attempt with
        ⟨-, -, closed⟩ | ⟨spared, same⟩
      · rw [closed] at named ⊢
        exact ⟨attemptEnds, uncommitted named, cell.branch id attempt before named⟩
      · rw [same] at named ⊢
        refine ⟨?_, uncommitted named, cell.branch id attempt before named⟩
        simpa [agree id attempt before named, chosen] using spared
    have notHeld : isHeld trialState = false := by
      cases trialState <;> simp_all [isTerminal, isHeld]
    have notReady : trialState ≠ .ready := by
      rintro rfl
      simp [isTerminal] at trialEnds
    refine ⟨⟨cell.id, fun id other found named => (ended id other found named).2.2, ?_, ?_,
      fun finished => (notCompleted finished).elim, ?_⟩, ?_, ?_,
      fun ready => (notReady ready).elim, .inl trialEnds⟩
    · intro id other found named isOpen
      simp [(ended id other found named).1] at isOpen
    · intro id other found named committed
      simp [(ended id other found named).2.1] at committed
    · have notFinished : trial.state ≠ .completed := by
        intro finished
        simp [finished, isTerminal] at wasOpen
      simpa [TrialRecord.finish, notFinished, notCompleted] using cell.count
    · intro id other found named isOpen
      simp [(ended id other found named).1] at isOpen
    · intro held
      simp [TrialRecord.finish, notHeld] at held
  · -- The trial is unchanged, and so is every attempt that names it.
    rw [same]
    have untouched : ∀ id attempt, attempts.find? id = some attempt → attempt.trial = key →
        closeAttempt selectAttempt attemptState kind' detail' sequence' attempt = attempt := by
      intro id attempt found named
      rcases closeAttempt_cases selectAttempt attemptState kind' detail' sequence' attempt with
        ⟨chosen, wasOpen, -⟩ | ⟨-, same⟩
      · have held := (cell.live id attempt found named wasOpen).1
        rw [← agree id attempt found named, chosen, isTerminal_of_isHeld held] at spared
        simp at spared
      · exact same
    refine cell.congr fun id attempt named => ⟨fun found => ?_, fun found => ?_⟩
    · obtain ⟨before, held, rfl⟩ := lookup id attempt found
      have sameTrial : before.trial = key := by
        rcases closeAttempt_cases selectAttempt attemptState kind' detail' sequence' before with
          ⟨-, -, closed⟩ | ⟨-, same⟩
        · rw [closed] at named
          exact named
        · rw [same] at named
          exact named
      rw [untouched id before held sameTrial, held]
    · simp [closeAttempts, found, untouched id attempt found named]

/-- Closing selected open trials together with their open attempts keeps the invariant. -/
theorem Lifecycle.close (life : Lifecycle marks record) (selectTrial : TrialRecord → Bool)
    (selectAttempt : AttemptRecord → Bool)
    (agree : ∀ id attempt trial, record.attempts.find? id = some attempt →
      record.trials.find? attempt.trial = some trial → selectAttempt attempt = selectTrial trial)
    {trialState : TrialState} {attemptState : AttemptState} (trialEnds : isTerminal trialState = true)
    (notCompleted : trialState ≠ .completed) (attemptEnds : isAttemptTerminal attemptState = true)
    {kind kind' : FailureKind} {detail detail' : Text} {sequence sequence' : Nat}
    {after : ExperimentRecord R}
    (trials : after.trials = closeTrials selectTrial trialState kind detail sequence record.trials)
    (attempts : after.attempts =
      closeAttempts selectAttempt attemptState kind' detail' sequence' record.attempts) :
    Lifecycle marks after := by
  have attemptLookup : ∀ id other, after.attempts.find? id = some other →
      ∃ attempt, record.attempts.find? id = some attempt ∧ other.id = attempt.id ∧
        other.trial = attempt.trial := by
    intro id other found
    obtain ⟨attempt, before, rfl⟩ :=
      Option.map_eq_some_iff.mp (by simpa [attempts, closeAttempts] using found)
    refine ⟨attempt, before, ?_⟩
    unfold closeAttempt
    split <;> exact ⟨rfl, rfl⟩
  refine ⟨⟨?_, ?_, ?_, ?_, ?_⟩, ?_⟩
  · intro key other found
    obtain ⟨trial, before, -⟩ :=
      Option.map_eq_some_iff.mp (by simpa [trials, closeTrials] using found)
    exact life.trialBound key trial before
  · intro id other found
    obtain ⟨attempt, before, same, -⟩ := attemptLookup id other found
    exact same.trans (life.attemptId id attempt before)
  · intro id other found
    obtain ⟨attempt, before, -⟩ := attemptLookup id other found
    exact life.attemptValid id attempt before
  · intro id other found
    obtain ⟨attempt, before, -⟩ := attemptLookup id other found
    exact life.attemptBound id attempt before
  · intro id other found
    obtain ⟨attempt, before, -, named⟩ := attemptLookup id other found
    obtain ⟨trial, held⟩ := life.attemptTrial id attempt before
    exact ⟨_, by rw [named, trials, closeTrials, OrderedMap.find?_mapValues, held]; rfl⟩
  · intro key other found
    obtain ⟨trial, before, rfl⟩ :=
      Option.map_eq_some_iff.mp (by simpa [trials, closeTrials] using found)
    rw [attempts]
    exact (life.trial key trial before).close
      (fun id attempt found named => agree id attempt trial found (named ▸ before)) trialEnds
      notCompleted attemptEnds ..

/-! ## New trials and attempts -/

variable {marks' : Watermarks}

theorem Lifecycle.addTrial (life : Lifecycle marks record) (grows : marks.Grows marks')
    {experiment : ExperimentId} {branch : BranchDefinition} {id : TrialId} {payload : Text}
    {sequence : Nat} (fresh : marks.trial < id.value) (known : id.value ≤ marks'.trial) :
    Lifecycle marks' (record.addTrial (record.newTrial experiment branch id payload sequence)) := by
  have unnamed : ∀ key attempt, record.attempts.find? key = some attempt → attempt.trial ≠ id := by
    rintro key attempt found rfl
    obtain ⟨trial, held⟩ := life.attemptTrial key attempt found
    exact (life.trialBound _ trial held).not_gt fresh
  have absent : record.trials.find? id = none := by
    by_contra present
    obtain ⟨trial, held⟩ := Option.ne_none_iff_exists'.mp present
    exact (life.trialBound id trial held).not_gt fresh
  have lookup : ∀ key, (record.addTrial
      (record.newTrial experiment branch id payload sequence)).trials.find? key =
        if key = id then some (record.newTrial experiment branch id payload sequence)
        else record.trials.find? key := by
    intro key
    simp [ExperimentRecord.addTrial, ExperimentRecord.log, ExperimentRecord.newTrial,
      OrderedMap.find?_emplace, absent]
  have keyed := life.toKeyed.mono grows
  refine ⟨⟨?_, keyed.attemptId, keyed.attemptValid, keyed.attemptBound, ?_⟩, ?_⟩
  · intro key trial found
    rw [lookup] at found
    by_cases here : key = id
    · exact here ▸ known
    · exact keyed.trialBound key trial (by simpa [here] using found)
  · intro key attempt found
    obtain ⟨trial, held⟩ := life.attemptTrial key attempt found
    exact ⟨trial, by rw [lookup, if_neg (unnamed key attempt found), held]⟩
  · intro key trial found
    rw [lookup] at found
    by_cases here : key = id
    · subst here
      obtain rfl := Option.some.inj (by simpa using found)
      refine ⟨⟨rfl, ?_, ?_, ?_, fun finished => by simp [ExperimentRecord.newTrial] at finished,
        rfl⟩, ?_, fun held => by simp [ExperimentRecord.newTrial, isHeld] at held, fun _ => rfl,
        .inr (.inr rfl)⟩
      all_goals exact fun other attempt found named => (unnamed other attempt found named).elim
    · exact life.trial key trial (by simpa [here] using found)

/-- A trial whose creation was undone leaves the record as it was. -/
theorem Lifecycle.addTrialUndone (life : Lifecycle marks record)
    {experiment : ExperimentId} {branch : BranchDefinition} {id : TrialId} {payload : Text}
    {sequence : Nat} (fresh : marks.trial < id.value) :
    ((record.addTrial (record.newTrial experiment branch id payload sequence)).removeTrial
      id).trials = record.trials := by
  have absent : record.trials.find? id = none := by
    by_contra present
    obtain ⟨trial, held⟩ := Option.ne_none_iff_exists'.mp present
    exact (life.trialBound id trial held).not_gt fresh
  ext1 key
  by_cases here : key = id
  · simp [ExperimentRecord.addTrial, ExperimentRecord.removeTrial, ExperimentRecord.log, here,
      absent]
  · simp [ExperimentRecord.addTrial, ExperimentRecord.removeTrial, ExperimentRecord.log,
      ExperimentRecord.newTrial, OrderedMap.find?_emplace, here]

/-- A claimable trial is ready. -/
theorem claimable_ready {limits : Limits} {trial : TrialRecord} {branch : BranchDefinition}
    (claimable : record.claimable limits trial = some branch) : trial.state = .ready := by
  by_contra other
  simp [ExperimentRecord.claimable, other] at claimable

/-- The attempts of a ready trial are closed and uncommitted. -/
theorem Cell.closed_of_ready {attempts : OrderedMap TrialAttemptId AttemptRecord} {key : TrialId}
    {trial : TrialRecord} (cell : Cell attempts key trial) (ready : trial.state = .ready)
    {id : TrialAttemptId} {attempt : AttemptRecord} (found : attempts.find? id = some attempt)
    (named : attempt.trial = key) :
    isAttemptTerminal attempt.state = true ∧ attempt.committed = false := by
  constructor
  · by_contra isOpen
    have held := (cell.live id attempt found named (by simpa using isOpen)).1
    simp [ready, isHeld] at held
  · by_contra committed
    have finished := (cell.committed id attempt found named (by simpa using committed)).2.1
    simp [ready] at finished

/-- The attempts after an issue are the new one and those there were. -/
theorem find?_issue_attempts {id : TrialAttemptId} (absent : record.attempts.find? id = none)
    (key : TrialId) (trial : TrialRecord) (worker : WorkerId) (boot : WorkerBootId)
    (epoch : CoordinatorEpoch) (producer : ProducerId) (sequence : Nat) (other : TrialAttemptId) :
    (record.issue key (record.newAttempt trial id worker boot epoch producer sequence)
        sequence).attempts.find? other =
      if other = id then some (record.newAttempt trial id worker boot epoch producer sequence)
      else record.attempts.find? other := by
  simp [ExperimentRecord.issue, ExperimentRecord.newAttempt, OrderedMap.find?_emplace, absent]

/-- The keys of the record after an issue whose identity is known. -/
theorem Keyed.issue (keyed : Keyed marks record) {key : TrialId} {trial : TrialRecord}
    (found : record.trials.find? key = some trial) {issued : AttemptRecord}
    (owner : issued.trial = key) (valid : issued.id.value ≠ 0)
    (known : issued.id.value ≤ marks.attempt) (sequence : Nat) :
    Keyed marks (record.issue key issued sequence) := by
  have trialKept : ∀ other before, record.trials.find? other = some before → ∃ after,
      (record.issue key issued sequence).trials.find? other = some after := by
    intro other before held
    by_cases here : other = key
    · exact ⟨_, by simp [ExperimentRecord.issue, here, found]; rfl⟩
    · exact ⟨before, by simp [ExperimentRecord.issue, here, held]⟩
  constructor
  · intro other after held
    by_cases here : other = key
    · exact here ▸ keyed.trialBound key trial found
    · exact keyed.trialBound other after (by simpa [ExperimentRecord.issue, here] using held)
  · intro other attempt held
    rcases ExperimentRecord.find?_issue held with held | ⟨rfl, rfl⟩
    · exact keyed.attemptId other attempt held
    · rfl
  · intro other attempt held
    rcases ExperimentRecord.find?_issue held with held | ⟨rfl, rfl⟩
    · exact keyed.attemptValid other attempt held
    · exact valid
  · intro other attempt held
    rcases ExperimentRecord.find?_issue held with held | ⟨rfl, rfl⟩
    · exact keyed.attemptBound other attempt held
    · exact known
  · intro other attempt held
    rcases ExperimentRecord.find?_issue held with held | ⟨rfl, rfl⟩
    · obtain ⟨before, trialHeld⟩ := keyed.attemptTrial other attempt held
      exact trialKept _ before trialHeld
    · exact trialKept _ trial (owner ▸ found)

/-- The cell of a ready trial after an attempt was issued for it. -/
theorem Cell.issue {key : TrialId} {trial after : TrialRecord}
    (cell : Cell record.attempts key trial) (found : record.trials.find? key = some trial)
    (ready : trial.state = .ready) {issued : AttemptRecord}
    (absent : record.attempts.find? issued.id = none) (owner : issued.trial = key)
    (branch : issued.branch = trial.branch) (uncommitted : issued.committed = false)
    (live : isAttemptTerminal issued.state = false) {sequence : Nat}
    (held : (record.issue key issued sequence).trials.find? key = some after) :
    Cell (record.issue key issued sequence).attempts key after := by
  obtain rfl := Option.some.inj (by simpa [ExperimentRecord.issue, found] using held)
  have current : ∀ candidate attempt,
      (record.issue key issued sequence).attempts.find? candidate = some attempt →
      attempt.trial = key → attempt.branch = trial.branch ∧ attempt.committed = false ∧
        (isAttemptTerminal attempt.state = false → issued.id = candidate) := by
    intro candidate attempt present named
    rcases ExperimentRecord.find?_issue present with present | ⟨rfl, rfl⟩
    · obtain ⟨ended, before⟩ := cell.closed_of_ready ready present named
      refine ⟨cell.branch candidate attempt present named, before, fun isOpen => ?_⟩
      simp [ended] at isOpen
    · exact ⟨branch, uncommitted, fun _ => rfl⟩
  refine ⟨⟨cell.id, fun candidate attempt present named => (current candidate attempt present named).1,
    fun _ _ _ _ _ => rfl, ?_, fun finished => by simp at finished, ?_⟩, ?_, ?_,
    fun isReady => by simp at isReady, .inr (.inl rfl)⟩
  · intro candidate attempt present named committed
    simp [(current candidate attempt present named).2.1] at committed
  · simpa [ready] using cell.count
  · intro candidate attempt present named isOpen
    exact ⟨rfl, (current candidate attempt present named).2.2 isOpen⟩
  · intro _
    refine ⟨issued, ?_, owner, live⟩
    simp [ExperimentRecord.issue, OrderedMap.find?_emplace, absent]

theorem Lifecycle.issue (life : Lifecycle marks record) (grows : marks.Grows marks')
    {key : TrialId} {trial : TrialRecord} (found : record.trials.find? key = some trial)
    (ready : trial.state = .ready) {id : TrialAttemptId} {worker : WorkerId} {boot : WorkerBootId}
    {epoch : CoordinatorEpoch} {producer : ProducerId} {sequence : Nat}
    (fresh : marks.attempt < id.value) (known : id.value ≤ marks'.attempt) :
    Lifecycle marks' (record.issue key
      (record.newAttempt trial id worker boot epoch producer sequence) sequence) := by
  have cell := life.trial key trial found
  have absent : record.attempts.find? id = none := by
    by_contra present
    obtain ⟨attempt, held⟩ := Option.ne_none_iff_exists'.mp present
    exact (life.attemptBound id attempt held).not_gt fresh
  refine ⟨(life.toKeyed.mono grows).issue found cell.id (Nat.ne_zero_of_lt fresh) known sequence, ?_⟩
  intro other after held
  by_cases here : other = key
  · subst here
    exact cell.issue found ready absent cell.id rfl rfl rfl held
  · have before : record.trials.find? other = some after := by
      simpa [ExperimentRecord.issue, here] using held
    -- An attempt of another trial is not the one issued.
    refine (life.trial other after before).congr fun candidate attempt named =>
      ⟨fun present => ?_, fun present => ?_⟩
    · rcases ExperimentRecord.find?_issue present with present | ⟨rfl, rfl⟩
      · exact present
      · exact (here (named.symm.trans cell.id)).elim
    · have different : candidate ≠ id := by
        rintro rfl
        cases absent.symm.trans present
      rw [find?_issue_attempts absent, if_neg different, present]

/-! ## Lost and failed attempts -/

theorem LivePair.uncommitted {trialKey : TrialId} {attemptKey : TrialAttemptId}
    {trial : TrialRecord} {attempt : AttemptRecord} (life : Lifecycle marks record)
    (pair : LivePair record trialKey attemptKey trial attempt) :
    attempt.committed = false ∧ trial.committedAttempts = 0 := by
  have cell := life.trial trialKey trial pair.trialFound
  have unfinished : trial.state ≠ .completed := fun finished => by
    simpa [finished, isTerminal] using pair.trialOpen
  constructor
  · by_contra committed
    exact unfinished (cell.committed attemptKey attempt pair.attemptFound (pair.owned life)
      (by simpa using committed)).2.1
  · simpa [unfinished] using cell.count

/-- Ending the live attempt of a trial and releasing the trial is a step of the pair. -/
theorem LivePair.release {trialKey : TrialId} {attemptKey : TrialAttemptId}
    {trial : TrialRecord} {attempt attempt' : AttemptRecord} (life : Lifecycle marks record)
    (pair : LivePair record trialKey attemptKey trial attempt) (retry : Bool) (kind : FailureKind)
    (detail : Text) (sequence : Nat) (id : attempt'.id = attempt.id)
    (owner : attempt'.trial = attempt.trial) (branch : attempt'.branch = attempt.branch)
    (ended : isAttemptTerminal attempt'.state = true)
    (committed : attempt'.committed = attempt.committed) :
    PairStep attemptKey trial (trial.release retry kind detail sequence) attempt attempt' := by
  have uncommitted := pair.uncommitted life
  rw [uncommitted.1] at committed
  cases retry with
  | false =>
      exact ⟨rfl, rfl, id, owner, branch, fun isOpen => by simp [ended] at isOpen,
        fun done => by simp [committed] at done, fun held => by simp [TrialRecord.release, isHeld] at held,
        fun finished => by simp [TrialRecord.release] at finished,
        by simp [TrialRecord.release, uncommitted.2], fun ready => by simp [TrialRecord.release] at ready,
        .inl rfl⟩
  | true =>
      exact ⟨rfl, rfl, id, owner, branch, fun isOpen => by simp [ended] at isOpen,
        fun done => by simp [committed] at done, fun held => by simp [TrialRecord.release, isHeld] at held,
        fun finished => by simp [TrialRecord.release] at finished,
        by simp [TrialRecord.release, uncommitted.2], fun _ => rfl, .inr (.inr rfl)⟩

/-- Losing a live attempt releases its trial. -/
theorem Lifecycle.loseAttempt (life : Lifecycle marks record) (kind : FailureKind)
    (attemptDetail trialDetail : Text) (sequence : Nat) {entry : TrialAttemptId × AttemptRecord}
    (found : record.attempts.find? entry.1 = some entry.2)
    (isOpen : isAttemptTerminal entry.2.state = false) :
    Lifecycle marks
      (ExperimentRecord.loseAttempt kind attemptDetail trialDetail sequence record entry) := by
  obtain ⟨trial, trialFound⟩ := life.attemptTrial entry.1 entry.2 found
  obtain ⟨held, named⟩ :=
    (life.trial _ trial trialFound).live entry.1 entry.2 found rfl isOpen
  have pair : LivePair record entry.2.trial entry.1 trial entry.2 :=
    ⟨trialFound, isTerminal_of_isHeld held, named, found, isOpen⟩
  have identity : entry.2.id = entry.1 := life.attemptId entry.1 entry.2 found
  have released : record.releaseFrom entry.2.id kind trialDetail sequence trial =
      trial.release (record.retryable trial) kind trialDetail sequence := by
    simp [ExperimentRecord.releaseFrom, pair.trialOpen, identity, named]
  refine life.updatePair pair (record.releaseFrom entry.2.id kind trialDetail sequence)
    (·.finish .abandoned kind attemptDetail sequence) rfl rfl ?_
  rw [released]
  exact pair.release life _ kind trialDetail sequence rfl rfl rfl rfl rfl

/-- Losing several distinct live attempts, one after another. -/
theorem Lifecycle.loseAttempts (life : Lifecycle marks record) (kind : FailureKind)
    (attemptDetail trialDetail : Text) (sequence : Nat)
    {lost : List (TrialAttemptId × AttemptRecord)}
    (distinct : (lost.map Prod.fst).Nodup)
    (isLive : ∀ entry ∈ lost, record.attempts.find? entry.1 = some entry.2 ∧
      isAttemptTerminal entry.2.state = false) :
    Lifecycle marks (lost.foldl
      (ExperimentRecord.loseAttempt kind attemptDetail trialDetail sequence) record) := by
  induction lost generalizing record with
  | nil => exact life
  | cons entry rest ih =>
      have ⟨fresh, distinctRest⟩ := List.nodup_cons.mp distinct
      obtain ⟨found, isOpen⟩ := isLive entry List.mem_cons_self
      refine ih (life.loseAttempt kind attemptDetail trialDetail sequence found isOpen)
        distinctRest fun other member => ?_
      have different : other.1 ≠ entry.1 := fun same =>
        fresh (same ▸ List.mem_map_of_mem member)
      have before := isLive other (List.mem_cons_of_mem entry member)
      exact ⟨by simpa [ExperimentRecord.loseAttempt, different] using before.1, before.2⟩

/-- The live attempts of an incarnation are stored under different identities and open. -/
theorem liveAttemptsOf_spec (record : ExperimentRecord R) (worker : WorkerId)
    (boot : WorkerBootId) :
    ((record.liveAttemptsOf worker boot).map Prod.fst).Nodup ∧
      ∀ entry ∈ record.liveAttemptsOf worker boot,
        record.attempts.find? entry.1 = some entry.2 ∧
          isAttemptTerminal entry.2.state = false := by
  refine ⟨record.attempts.keys_nodup.sublist (List.filter_sublist.map _), fun entry member => ?_⟩
  simp only [ExperimentRecord.liveAttemptsOf, List.mem_filter, Bool.and_eq_true,
    Bool.not_eq_true', decide_eq_true_eq] at member
  exact ⟨(OrderedMap.mem_entries_iff _ _ _).mp member.1, member.2.2⟩

theorem Lifecycle.loseWorker (life : Lifecycle marks record) (worker : WorkerId)
    (boot : WorkerBootId) (kind : FailureKind) (attemptDetail trialDetail : Text) (sequence : Nat)
    (line : Text) :
    Lifecycle marks
      (record.loseWorker worker boot kind attemptDetail trialDetail sequence line) := by
  obtain ⟨distinct, live⟩ := liveAttemptsOf_spec record worker boot
  have lost := life.loseAttempts kind attemptDetail trialDetail sequence distinct live
  unfold ExperimentRecord.loseWorker
  dsimp only
  split
  · exact lost
  · exact lost.congr rfl rfl

/-! ## Moves -/

theorem LivePair.held {trialKey : TrialId} {attemptKey : TrialAttemptId} {trial : TrialRecord}
    {attempt : AttemptRecord} (life : Lifecycle marks record)
    (pair : LivePair record trialKey attemptKey trial attempt) : isHeld trial.state = true :=
  ((life.trial trialKey trial pair.trialFound).live attemptKey attempt pair.attemptFound
    (pair.owned life) pair.attemptOpen).1

/-- A change of a held trial and its live attempt that ends neither. -/
theorem LivePair.advance {trialKey : TrialId} {attemptKey : TrialAttemptId} {trial : TrialRecord}
    {attempt : AttemptRecord} (life : Lifecycle marks record)
    (pair : LivePair record trialKey attemptKey trial attempt) {trial' : TrialRecord}
    {attempt' : AttemptRecord} (id : trial'.id = trial.id) (branch : trial'.branch = trial.branch)
    (authoritative : trial'.authoritativeAttempt = trial.authoritativeAttempt)
    (count : trial'.committedAttempts = trial.committedAttempts)
    (held : isHeld trial'.state = true) (attemptId : attempt'.id = attempt.id)
    (owner : attempt'.trial = attempt.trial) (attemptBranch : attempt'.branch = attempt.branch)
    (committed : attempt'.committed = attempt.committed)
    (isOpen : isAttemptTerminal attempt'.state = false) :
    PairStep attemptKey trial trial' attempt attempt' := by
  have uncommitted := pair.uncommitted life
  have named := authoritative.trans pair.authoritative
  have unfinished : trial'.state ≠ .completed := fun finished => by simp [finished, isHeld] at held
  exact ⟨id, branch, attemptId, owner, attemptBranch, fun _ => ⟨held, named⟩,
    fun done => by simp [committed, uncommitted.1] at done, fun _ => ⟨named, isOpen⟩,
    fun finished => (unfinished finished).elim, by simp [unfinished, count, uncommitted.2],
    fun ready => by simp [ready, isHeld] at held, .inr (.inl held)⟩

theorem Lifecycle.observe {trialKey : TrialId} {attemptKey : TrialAttemptId} {trial : TrialRecord}
    {attempt : AttemptRecord} (life : Lifecycle marks record)
    (pair : LivePair record trialKey attemptKey trial attempt) (sequence : Nat) :
    Lifecycle marks (record.observe trial attempt trialKey attemptKey sequence).1 := by
  have held := pair.held life
  unfold ExperimentRecord.observe
  dsimp only
  split
  · split
    · exact life.updatePair pair (·.observing (sequence + 1)) (·.started (sequence + 1 + 1)) rfl rfl
        (pair.advance life rfl rfl rfl rfl rfl rfl rfl rfl rfl rfl)
    · exact life.updatePair pair id (·.started (sequence + 1))
        (OrderedMap.modify_self fun _ _ => rfl).symm rfl
        (pair.advance life rfl rfl rfl rfl held rfl rfl rfl rfl rfl)
  · split
    · exact life.updatePair pair (·.observing (sequence + 1)) id rfl
        (OrderedMap.modify_self fun _ _ => rfl).symm
        (pair.advance life rfl rfl rfl rfl rfl rfl rfl rfl rfl pair.attemptOpen)
    · exact life

theorem Lifecycle.complete {trialKey : TrialId} {attemptKey : TrialAttemptId} {trial : TrialRecord}
    {attempt : AttemptRecord} (life : Lifecycle marks record)
    (pair : LivePair record trialKey attemptKey trial attempt) (sequence : Nat) :
    Lifecycle marks (record.complete trialKey attemptKey sequence) := by
  have named := pair.authoritative
  refine life.updatePair pair (·.commit sequence) (·.commit sequence) rfl rfl
    ⟨rfl, rfl, rfl, rfl, rfl, ?_, fun _ => ⟨rfl, rfl, named⟩, ?_, fun _ => ⟨named, rfl⟩, rfl, ?_,
      .inl rfl⟩
  · simp [AttemptRecord.commit, isAttemptTerminal]
  · simp [TrialRecord.commit, isHeld]
  · simp [TrialRecord.commit]

theorem Lifecycle.fail {trialKey : TrialId} {attemptKey : TrialAttemptId} {trial : TrialRecord}
    {attempt : AttemptRecord} (life : Lifecycle marks record)
    (pair : LivePair record trialKey attemptKey trial attempt) (kind : FailureKind) (detail : Text)
    (retry : Bool) (sequence : Nat) :
    Lifecycle marks (record.fail trial trialKey attemptKey kind detail retry sequence) := by
  refine life.updatePair pair
    (fun current => current.release (retry && record.retryable current) kind detail sequence)
    (·.finish .failed kind detail sequence) ?_ ?_
    (pair.release life _ kind detail sequence rfl rfl rfl rfl rfl)
  · exact fail_trials ..
  · exact fail_attempts ..

theorem Lifecycle.cancelTrial {trialKey : TrialId} {trial : TrialRecord}
    (life : Lifecycle marks record) (found : record.trials.find? trialKey = some trial)
    (trialOpen : isTerminal trial.state = false) (reason : Text) (sequence : Nat) :
    Lifecycle marks (record.cancelTrial trialKey reason sequence) := by
  have asClosing : record.trials.modify trialKey
      (·.finish .cancelled .cancellation reason sequence) =
        closeTrials (·.id = trialKey) .cancelled .cancellation reason sequence record.trials := by
    ext1 key
    rw [closeTrials, OrderedMap.find?_mapValues, OrderedMap.find?_modify]
    by_cases here : key = trialKey
    · subst here
      simp [found, closeTrial, (life.trial key trial found).id, trialOpen]
    · cases held : record.trials.find? key with
      | none => simp [here]
      | some other => simp [here, closeTrial, (life.trial key other held).id]
  refine life.close (·.id = trialKey) (·.trial = trialKey) ?_ rfl (by decide) rfl asClosing rfl
  intro id attempt owner _ ownerFound
  simp [(life.trial _ owner ownerFound).id]

/-- Every move keeps the invariant. -/
theorem Lifecycle.move [MetricReal R] [CanonicalDigests R] {experiment : ExperimentId}
    {after : ExperimentRecord R} (life : Lifecycle marks record)
    (move : Move experiment record after) : Lifecycle marks after := by
  cases move with
  | revise spec sequence opened =>
      exact life.close (fun _ => true) (fun _ => true) (fun _ _ _ _ _ => rfl) rfl (by decide) rfl rfl
        rfl
  | fork branch sequence opened => exact life.congr rfl rfl
  | forkUndone branch sequence opened => exact life.congr rfl rfl
  | retire branch reason sequence =>
      refine life.close (·.branch = branch) (·.branch = branch) ?_ rfl (by decide) rfl rfl rfl
      intro id attempt trial found owner
      simp [(life.trial _ trial owner).branch id attempt found rfl]
  | reject kind identifier verdict =>
      obtain ⟨rejected, same⟩ := reject_frame record kind identifier verdict
      rw [same]
      exact life.congr rfl rfl
  | pushObservation observation => exact life.congr rfl rfl
  | observe opened live sequence => exact life.observe live sequence
  | pushArtifact trialKey artifact =>
      exact life.modifyTrial trialKey (·.hold artifact.id) (fun _ => ⟨rfl, rfl, rfl, rfl, rfl⟩) rfl
        rfl
  | touch trialKey sequence =>
      exact life.modifyTrial trialKey (·.touch sequence) (fun _ => ⟨rfl, rfl, rfl, rfl, rfl⟩) rfl rfl
  | complete opened live sequence => exact life.complete live sequence
  | fail opened live kind detail retry sequence => exact life.fail live kind detail retry sequence
  | cancelTrial found trialOpen reason sequence =>
      exact life.cancelTrial found trialOpen reason sequence
  | cancel reason sequence allowed =>
      exact life.close (fun _ => true) (fun _ => true) (fun _ _ _ _ _ => rfl) rfl (by decide) rfl rfl
        rfl
  | finalize candidate reason id point sequence notFinalized => exact life.congr rfl rfl
  | rollback chosen point reason sequence notCancelled member =>
      exact life.close (fun _ => true) (fun _ => true) (fun _ _ _ _ _ => rfl) rfl (by decide) rfl rfl
        rfl

end Record

end ExperimentFabric
