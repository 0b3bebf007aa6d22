import ExperimentFabric.Eligibility
import ExperimentFabric.Retention

/-!
# The attempts of a trial

A trial counts its attempts and keeps the number of the next one.  The claim loop writes both when it
issues an attempt; failures, lost workers and recovery write the second one again.  Throughout every
run the attempts of a trial are numbered from one without gaps, in the order of their identities.
-/

namespace ExperimentFabric

open Lib Relation

variable {R : Type}

/-- The attempts of a trial, in the order of the map. -/
def ExperimentRecord.attemptsOf (record : ExperimentRecord R) (trial : TrialId) :
    List AttemptRecord :=
  record.attempts.values.filter (·.trial = trial)

/-- A ready trial numbers its next attempt after those it counts. -/
def TrialRecord.NumbersNext (trial : TrialRecord) : Prop :=
  trial.state = .ready → trial.nextAttemptNumber = ⟨trial.attemptCount + 1⟩

/-- The attempts of every trial are numbered from one, in the order of their identities. -/
structure Numbered (record : ExperimentRecord R) : Prop where
  numbers : ∀ key trial, record.trials.find? key = some trial →
    (record.attemptsOf key).map (·.number.value) = List.range' 1 trial.attemptCount
  ordered : ∀ key, (record.attemptsOf key).Pairwise fun earlier later => earlier.id < later.id
  next : ∀ key trial, record.trials.find? key = some trial → trial.NumbersNext

/-! ## What changes of a record keep -/

/-- The trial counts as many attempts as before and still numbers the next one after them. -/
structure KeepsCount (trial trial' : TrialRecord) : Prop where
  attemptCount : trial'.attemptCount = trial.attemptCount
  next : trial.NumbersNext → trial'.NumbersNext

theorem KeepsCount.refl (trial : TrialRecord) : KeepsCount trial trial := ⟨rfl, id⟩

theorem KeepsCount.trans (first second third : TrialRecord) (earlier : KeepsCount first second)
    (later : KeepsCount second third) : KeepsCount first third :=
  ⟨later.attemptCount.trans earlier.attemptCount, later.next ∘ earlier.next⟩

/-- A trial that is not made ready. -/
theorem KeepsCount.ofBusy {trial trial' : TrialRecord}
    (attemptCount : trial'.attemptCount = trial.attemptCount) (busy : trial'.state ≠ .ready) :
    KeepsCount trial trial' :=
  ⟨attemptCount, fun _ ready => (busy ready).elim⟩

theorem release_keepsCount (trial : TrialRecord) (retry : Bool) (kind : FailureKind) (detail : Text)
    (sequence : Nat) : KeepsCount trial (trial.release retry kind detail sequence) := by
  cases retry with
  | true => exact ⟨rfl, fun _ _ => rfl⟩
  | false => exact .ofBusy rfl fun ready => nomatch ready

theorem closeTrials_keepsCount (select : TrialRecord → Bool) {state : TrialState}
    (terminal : isTerminal state = true) (kind : FailureKind) (detail : Text) (sequence : Nat)
    (trials : OrderedMap TrialId TrialRecord) :
    OrderedMap.Evolves KeepsCount trials (closeTrials select state kind detail sequence trials) := by
  refine .mapValues fun trial => ?_
  rcases closeTrial_cases select state kind detail sequence trial with ⟨-, -, same⟩ | ⟨-, same⟩
  · rw [same]
    refine .ofBusy rfl fun ready => ?_
    have ended : state = .ready := ready
    rw [ended] at terminal
    cases terminal
  · rw [same]
    exact .refl trial

section Moves

variable [MetricReal R] [CanonicalDigests R] {experiment : ExperimentId}
  {record after : ExperimentRecord R}

theorem Move.keepsCount (move : Move experiment record after) :
    OrderedMap.Evolves KeepsCount record.trials after.trials := by
  cases move with
  | revise spec sequence opened => exact closeTrials_keepsCount _ rfl _ _ _ _
  | fork branch sequence opened => exact .refl .refl
  | forkUndone branch sequence opened => exact .refl .refl
  | retire branch reason sequence => exact closeTrials_keepsCount _ rfl _ _ _ _
  | reject kind identifier verdict =>
      obtain ⟨rejected, same⟩ := reject_frame record kind identifier verdict
      rw [same]
      exact .refl .refl
  | pushObservation observation => exact .refl .refl
  | @observe trialKey attemptKey trial attempt opened live sequence =>
      have observing : ∀ reached, OrderedMap.Evolves KeepsCount record.trials
          (record.trials.modify trialKey (·.observing reached)) := by
        intro reached
        apply OrderedMap.Evolves.modify KeepsCount.refl
        exact fun trial _ => .ofBusy rfl fun ready => nomatch ready
      unfold ExperimentRecord.observe
      dsimp only
      split <;> split <;> first | exact observing _ | exact .refl .refl
  | pushArtifact trialKey artifact =>
      unfold ExperimentRecord.pushArtifact
      dsimp only
      apply OrderedMap.Evolves.modify KeepsCount.refl
      exact fun trial _ => ⟨rfl, id⟩
  | touch trialKey sequence =>
      unfold ExperimentRecord.touch
      dsimp only
      apply OrderedMap.Evolves.modify KeepsCount.refl
      exact fun trial _ => ⟨rfl, id⟩
  | complete opened live sequence =>
      unfold ExperimentRecord.complete ExperimentRecord.log
      dsimp only
      apply OrderedMap.Evolves.modify KeepsCount.refl
      exact fun trial _ => .ofBusy rfl fun ready => nomatch ready
  | fail opened live kind detail retry sequence =>
      rw [fail_trials]
      apply OrderedMap.Evolves.modify KeepsCount.refl
      exact fun trial _ => release_keepsCount trial _ _ _ _
  | cancelTrial found trialOpen reason sequence =>
      unfold ExperimentRecord.cancelTrial ExperimentRecord.log
      dsimp only
      apply OrderedMap.Evolves.modify KeepsCount.refl
      exact fun trial _ => .ofBusy rfl fun ready => nomatch ready
  | cancel reason sequence allowed => exact closeTrials_keepsCount _ rfl _ _ _ _
  | finalize candidate reason id point sequence notFinalized => exact .refl .refl
  | rollback chosen point reason sequence notCancelled member =>
      exact closeTrials_keepsCount _ rfl _ _ _ _

theorem moves_keepsCount (moves : ReflTransGen (Move experiment) record after) :
    OrderedMap.Evolves KeepsCount record.trials after.trials := by
  induction moves with
  | refl => exact .refl .refl
  | tail _ last ih => exact ih.trans .trans last.keepsCount

end Moves

theorem loseWorker_keepsCount (worker : WorkerId) (boot : WorkerBootId) (kind : FailureKind)
    (attemptDetail trialDetail : Text) (sequence : Nat) (line : Text)
    (record : ExperimentRecord R) :
    OrderedMap.Evolves KeepsCount record.trials
      (record.loseWorker worker boot kind attemptDetail trialDetail sequence line).trials := by
  refine loseWorker_trials .refl .trans (fun attempt trial => ?_) worker boot attemptDetail line
  unfold ExperimentRecord.releaseFrom
  split
  · exact .refl trial
  · exact release_keepsCount trial _ _ _ _

theorem stage_keepsCount (record : ExperimentRecord R) (sequence : Nat) :
    OrderedMap.Evolves KeepsCount record.trials (record.stage sequence).2.trials := by
  refine stage_trials_evolve record sequence fun reached trial => ?_
  unfold stageTrial
  split
  · exact .refl trial
  · exact .ofBusy rfl fun ready => nomatch ready

theorem recoveredTrial_keepsCount (record : ExperimentRecord R) (trial : TrialRecord) :
    KeepsCount trial (record.recoveredTrial trial) := by
  unfold ExperimentRecord.recoveredTrial ExperimentRecord.resolvedTrial
  split
  · exact .refl trial
  · split
    · exact ⟨rfl, fun _ _ => rfl⟩
    · exact .ofBusy rfl fun ready => nomatch ready

/-! ## The numbers -/

/-- The attempts of a trial are those of the fixed parts. -/
theorem attemptsOf_fixed {record after : ExperimentRecord R}
    (fixed : after.attempts.values.map AttemptRecord.fixed =
      record.attempts.values.map AttemptRecord.fixed) (key : TrialId) :
    (after.attemptsOf key).map AttemptRecord.fixed =
      (record.attemptsOf key).map AttemptRecord.fixed := by
  have filtered : ∀ attempts : List AttemptRecord,
      (attempts.filter (·.trial = key)).map AttemptRecord.fixed =
        (attempts.map AttemptRecord.fixed).filter (·.trial = key) := by
    intro attempts
    rw [List.filter_map]
    rfl
  rw [ExperimentRecord.attemptsOf, ExperimentRecord.attemptsOf, filtered, filtered, fixed]

/-- A change that keeps the counts of the trials and the fixed parts of the attempts. -/
theorem Numbered.keep {record after : ExperimentRecord R} (numbered : Numbered record)
    (trials : OrderedMap.Evolves KeepsCount record.trials after.trials)
    (fixed : after.attempts.values.map AttemptRecord.fixed =
      record.attempts.values.map AttemptRecord.fixed) : Numbered after := by
  have view : ∀ key {β : Type} (read : AttemptRecord → β),
      (∀ attempt, read attempt.fixed = read attempt) →
        (after.attemptsOf key).map read = (record.attemptsOf key).map read := by
    intro key β read reads
    have same := congrArg (List.map read) (attemptsOf_fixed fixed key)
    simpa only [List.map_map, Function.comp_def, reads] using same
  refine ⟨fun key trial' found => ?_, fun key => ?_, fun key trial' found => ?_⟩
  · obtain ⟨trial, before, step⟩ := trials.source found
    rw [view key _ fun _ => rfl, step.attemptCount]
    exact numbered.numbers key trial before
  · have ids := view key AttemptRecord.id fun _ => rfl
    have before := List.pairwise_map.mpr (numbered.ordered key)
    rw [← ids] at before
    exact List.pairwise_map.mp before
  · obtain ⟨trial, before, step⟩ := trials.source found
    exact step.next (numbered.next key trial before)

theorem Rewritten.attemptsFixed {record after : ExperimentRecord R}
    (rewritten : Rewritten record after) :
    after.attempts.values.map AttemptRecord.fixed =
      record.attempts.values.map AttemptRecord.fixed :=
  rewritten.attempts.view fun _ _ kept => kept.fixed

/-- A new trial has no attempts. -/
theorem Numbered.addTrial {record : ExperimentRecord R} {marks : Watermarks}
    (numbered : Numbered record) (life : Lifecycle marks record) (experiment : ExperimentId)
    (branch : BranchDefinition) {id : TrialId} (fresh : marks.trial < id.value) (payload : Text)
    (sequence : Nat) :
    Numbered (record.addTrial (record.newTrial experiment branch id payload sequence)) := by
  have absent : record.trials.find? id = none := by
    by_contra bound
    obtain ⟨trial, found⟩ := Option.ne_none_iff_exists'.mp bound
    exact absurd (life.trialBound id trial found) fresh.not_ge
  have unowned : record.attemptsOf id = [] := by
    refine List.filter_eq_nil_iff.mpr fun attempt member owned => ?_
    obtain ⟨key, found⟩ := (OrderedMap.mem_values_iff _ _).mp member
    obtain ⟨trial, held⟩ := life.attemptTrial key attempt found
    rw [of_decide_eq_true owned, absent] at held
    cases held
  have lookup : ∀ key trial, (record.addTrial (record.newTrial experiment branch id payload
      sequence)).trials.find? key = some trial → record.trials.find? key = some trial ∨
        key = id ∧ trial = record.newTrial experiment branch id payload sequence :=
    fun _ _ => ExperimentRecord.find?_addTrial
  refine ⟨fun key trial found => ?_, numbered.ordered, fun key trial found => ?_⟩
  · rcases lookup key trial found with before | ⟨rfl, rfl⟩
    · exact numbered.numbers key trial before
    · exact congrArg (List.map (·.number.value)) unowned
  · rcases lookup key trial found with before | ⟨rfl, rfl⟩
    · exact numbered.next key trial before
    · exact fun _ => rfl

/-- An issued attempt continues the numbers of its trial. -/
theorem Numbered.issue {record : ExperimentRecord R} {marks : Watermarks}
    (numbered : Numbered record) (life : Lifecycle marks record) {key : TrialId}
    {trial : TrialRecord} (found : record.trials.find? key = some trial)
    (ready : trial.state = .ready) {id : TrialAttemptId} (fresh : marks.attempt < id.value)
    (worker : WorkerId) (boot : WorkerBootId) (epoch : CoordinatorEpoch) (producer : ProducerId)
    (sequence : Nat) :
    Numbered (record.issue key (record.newAttempt trial id worker boot epoch producer sequence)
      sequence) := by
  let attempt := record.newAttempt trial id worker boot epoch producer sequence
  have below : ∀ other held, record.attempts.find? other = some held → other < id :=
    fun other held lookup => (life.attemptBound other held lookup).trans_lt fresh
  have named : attempt.trial = key := (life.trial key trial found).id
  have appended : ∀ other, (record.issue key attempt sequence).attemptsOf other =
      record.attemptsOf other ++ if other = key then [attempt] else [] := by
    intro other
    have values : (record.issue key attempt sequence).attempts.values =
        record.attempts.values ++ [attempt] := OrderedMap.values_emplace_of_forall_lt below attempt
    rw [ExperimentRecord.attemptsOf, values, List.filter_append]
    refine congrArg _ ?_
    by_cases here : other = key
    · simp [here, named]
    · simp [here, named, Ne.symm here]
  have number : attempt.number.value = trial.attemptCount + 1 := by
    have next := numbered.next key trial found ready
    simp [attempt, ExperimentRecord.newAttempt, next]
  have lookup : ∀ other trial', (record.issue key attempt sequence).trials.find? other =
      some trial' → (other = key ∧ trial'.attemptCount = trial.attemptCount + 1 ∧
        trial'.state = .assigned) ∨ (other ≠ key ∧ record.trials.find? other = some trial') := by
    intro other trial' lookup
    rcases ExperimentRecord.find?_issue_trial lookup with
      ⟨rfl, before, held, rfl⟩ | ⟨different, held⟩
    · obtain rfl := Option.some.inj (found.symm.trans held)
      exact .inl ⟨rfl, rfl, rfl⟩
    · exact .inr ⟨different, held⟩
  refine ⟨fun other trial' held => ?_, fun other => ?_, fun other trial' held => ?_⟩
  · rw [appended]
    rcases lookup other trial' held with ⟨rfl, count, -⟩ | ⟨different, before⟩
    · rw [if_pos rfl, List.map_append, numbered.numbers _ trial found, count, List.range'_concat,
        List.map_singleton, number]
      simp [Nat.add_comm]
    · rw [if_neg different, List.append_nil]
      exact numbered.numbers other trial' before
  · rw [appended]
    refine List.pairwise_append.mpr ⟨numbered.ordered other, ?_, fun earlier member later last => ?_⟩
    · split
      · exact List.pairwise_singleton _ _
      · exact .nil
    · obtain rfl : later = attempt := by
        split at last
        · exact List.mem_singleton.mp last
        · cases last
      have held := (List.mem_filter.mp member).1
      obtain ⟨at_, before⟩ := (OrderedMap.mem_values_iff _ _).mp held
      rw [life.attemptId at_ earlier before]
      exact below at_ earlier before
  · rcases lookup other trial' held with ⟨rfl, -, state⟩ | ⟨-, before⟩
    · intro isReady
      rw [state] at isReady
      cases isReady
    · exact numbered.next other trial' before

/-! ## Runs -/

theorem recovered_attemptsFixed {record after : ExperimentRecord R}
    (same : after.forget = record.recovered.forget) :
    after.attempts.values.map AttemptRecord.fixed =
      record.attempts.values.map AttemptRecord.fixed := by
  have attempts := congrArg (fun forgotten => forgotten.attempts.values) same
  simp only [ExperimentRecord.forget, ExperimentRecord.recovered, OrderedMap.values_mapValues,
    List.map_map] at attempts
  have fixed := congrArg (List.map AttemptRecord.fixed) attempts
  simp only [List.map_map] at fixed
  refine Eq.trans ?_ (fixed.trans ?_)
  · exact List.map_congr_left fun _ _ => rfl
  · refine List.map_congr_left fun attempt _ => ?_
    simp only [Function.comp_apply, recoveredAttempt]
    split <;> rfl

theorem recovered_keepsCount {record after : ExperimentRecord R}
    (same : after.forget = record.recovered.forget) :
    OrderedMap.Evolves KeepsCount record.trials after.trials where
  extends_ := fun key trial found => by
    have held : record.recovered.trials.find? key = some (record.reopened.recoveredTrial trial) := by
      simp [ExperimentRecord.recovered, found, ExperimentRecord.reopened]
    obtain ⟨trial', lookup, equal⟩ := forget_trial same.symm held
    refine ⟨trial', lookup, ?_⟩
    have count := congrArg TrialRecord.attemptCount equal
    have state := congrArg TrialRecord.state equal
    have next := congrArg TrialRecord.nextAttemptNumber equal
    have kept := recoveredTrial_keepsCount record.reopened trial
    refine ⟨count.trans kept.attemptCount, fun numbers ready => ?_⟩
    have resolved := kept.next numbers (state.symm.trans ready)
    refine next.trans (resolved.trans ?_)
    rw [show trial'.attemptCount = (record.reopened.recoveredTrial trial).attemptCount from count]
  absent := fun key absent => by
    by_contra bound
    obtain ⟨trial', found⟩ := Option.ne_none_iff_exists'.mp bound
    obtain ⟨trial, held, -⟩ := forget_trial same found
    simp [ExperimentRecord.recovered, ExperimentRecord.reopened, absent] at held

section Runs

variable [MetricReal R] [CanonicalDigests R]

theorem numbered_invariant : RecordRunInvariant (fun _ _ => True) (@Numbered R) where
  kept := fun {c request fault old} _ _ =>
    { logged := fun numbered => numbered.keep (.refl .refl) rfl
      created := by
        rintro spec expected branches _ - - - rfl -
        refine ⟨fun key trial found => ?_, fun key => .nil, fun key trial found => ?_⟩ <;> cases found
      changed := fun effect _ numbered => numbered.keep (moves_keepsCount effect.moves)
        (moves_rewritten effect.moves).attemptsFixed
      added := fun _ life fresh numbered => numbered.addTrial life _ _
        (fresh ▸ Nat.lt_succ_self _) _ _
      issued := fun _ _ _ _ found claimable life fresh numbered => numbered.issue life found
        (claimable_ready claimable) fresh _ _ _ _ _
      lost := fun _ _ _ numbered => numbered.keep (loseWorker_keepsCount ..)
        (loseWorker_rewritten ..).attemptsFixed }
  staged := fun {record} sequence numbered => numbered.keep (stage_keepsCount record sequence)
    (stage_rewritten record sequence).attemptsFixed
  recovered := fun _ _ same _ numbered => numbered.keep (recovered_keepsCount same)
    (recovered_attemptsFixed same)

/-- In every reachable world, in memory and in the file, the attempts of each trial carry the numbers
from one to its attempt count, in the order of their identities, and a ready trial numbers its next
attempt after them. -/
theorem attempts_numbered {path : Text} {world : World R} (reachable : world.Reachable path) :
    world.Upholds (CoordinatorState.Every Numbered) :=
  reachable.upholds numbered_invariant.durable

end Runs

/-- The ledger of the claimed sample trial. -/
theorem attempts_numbered_sample : (World.running Sample.claimed).Upholds
    (CoordinatorState.Every Numbered) :=
  attempts_numbered Sample.claimed_reachable

end ExperimentFabric
