import ExperimentFabric.Transitions
import ExperimentFabric.Session

/-!
# Which requests conform

The exact condition under which a request takes only transitions that the lifecycle tables allow, and
the two phases of recovery, which always do.
-/

namespace ExperimentFabric

open Lib Relation

variable {R : Type}

/-- Every experiment of the first state is in the second one, without the live attempts of some
incarnations. -/
def CoordinatorState.Loses (lost : WorkerId → WorkerBootId → Prop) (old new : CoordinatorState R) :
    Prop :=
  OrderedMap.Extends (ExperimentRecord.Loses lost) old.experiments new.experiments

theorem CoordinatorState.Loses.conforms_iff {lost : WorkerId → WorkerBootId → Prop}
    {old new : CoordinatorState R} (consistent : old.Consistent) (loses : old.Loses lost new) :
    old.Conforms new ↔
      ∀ id record, old.experiments.find? id = some record → record.Unstarted lost := by
  constructor
  · intro conforms id record found
    obtain ⟨after, found', moves⟩ := conforms id record found
    obtain ⟨same, lookup, losing⟩ := loses id record found
    obtain rfl := Option.some.inj (found'.symm.trans lookup)
    exact (losing.conforms_iff (consistent id record found)).mp moves
  · intro unstarted id record found
    obtain ⟨after, found', losing⟩ := loses id record found
    exact ⟨after, found', (losing.conforms_iff (consistent id record found)).mpr
      (unstarted id record found)⟩

namespace Coordinator

/-- Incarnations whose live attempts the request abandons. -/
def Loses (c : Coordinator R) : Request R → WorkerId → WorkerBootId → Prop
  | .revokeWorker worker boot _ _ => fun other otherBoot =>
      (c.findLiveWorker worker boot).isSome = true ∧ other = worker ∧ otherBoot = boot
  | .registerWorker request => fun other otherBoot =>
      c.registerWorkerGuard request = .ok () ∧
        c.findLiveWorker request.worker request.boot = none ∧
          ∃ live ∈ c.replacedBy request.worker request.boot,
            other = live.worker ∧ otherBoot = live.boot
  | _ => fun _ _ => False

theorem replaceIncarnation_loses (sequence : Nat) (c : Coordinator R) (live : LiveWorker)
    (consistent : c.state.Consistent) :
    c.state.Loses (fun worker boot => worker = live.worker ∧ boot = live.boot)
      (replaceIncarnation sequence c live).state := by
  intro id record found
  have stored := OrderedMap.find?_mapValues c.state.experiments (ExperimentRecord.loseWorker
    live.worker live.boot .producerLoss
    (text "worker process incarnation replaced by a fresh boot identity")
    (text "producer lost; assignment transitioned conservatively") sequence
    (text "worker-incarnation-replaced worker=" ++ live.worker.toText)) id
  rw [found, Option.map_some] at stored
  exact ⟨_, stored, (consistent id record found).loses ..⟩

theorem replaceIncarnation_consistent (sequence : Nat) (c : Coordinator R) (live : LiveWorker)
    (consistent : c.state.Consistent) : (replaceIncarnation sequence c live).state.Consistent := by
  intro id record found
  simp only [replaceIncarnation, OrderedMap.find?_mapValues] at found
  obtain ⟨before, lookup, rfl⟩ := Option.map_eq_some_iff.mp found
  exact (consistent id before lookup).loseWorker ..

/-- Replacing incarnations one after another loses all of them. -/
theorem replaceIncarnations_loses (sequence : Nat) (replaced : List LiveWorker)
    (c : Coordinator R) (consistent : c.state.Consistent) :
    c.state.Loses (fun worker boot => ∃ live ∈ replaced, worker = live.worker ∧ boot = live.boot)
      (replaced.foldl (replaceIncarnation sequence) c).state := by
  induction replaced generalizing c with
  | nil =>
      simp only [List.not_mem_nil, false_and, exists_false]
      exact .refl .refl
  | cons live rest ih =>
      have after := c.replaceIncarnation_consistent sequence live consistent
      have first := c.replaceIncarnation_loses sequence live consistent
      intro id record found
      obtain ⟨middle, reached, losing⟩ := first id record found
      obtain ⟨last, ended, later⟩ := ih _ after id middle reached
      refine ⟨last, ended, ?_⟩
      have both := losing.trans (after id middle reached) later
      convert both using 2
      funext boot
      simp only [List.mem_cons, exists_eq_or_imp]

/-- The condition under which a request takes only allowed transitions. -/
def Conforming (c : Coordinator R) : Request R → Prop
  | .failTrial request => ∀ check, c.failTrialGuard request = .ok check →
      request.retryable = true → check.record.retryable check.trial = true →
        check.trial.state = .assigned
  | .commitTrial request => ∀ check, c.commitTrialGuard request = .ok check →
      observationsHeld check.record check.trial.id check.attempt.id ≠ 0 →
        (registerArtifacts request.envelope c.nextSequence request.artifacts).2 = .ok () →
          check.attempt.state.isValidTransition .completed = true →
            check.trial.state = .observing
  | request => ∀ experiment record, c.findExperiment experiment = some record →
      record.Unstarted (c.Loses request)

theorem conforms_self (state : CoordinatorState R) : state.Conforms state :=
  .refl fun _ => ⟨.refl fun _ => .inl rfl, .refl fun _ => .inl rfl⟩

theorem settle_id_state {α : Type} (prepared : Coordinator R) (fault : Option SaveFault)
    (value : α) : (prepared.settle fault id value).1.state = prepared.state := by
  rw [settle_id_fst, persistLocked_state]

/-- A revocation loses the live attempts of the revoked incarnation. -/
theorem revokeWorker_loses (c : Coordinator R) (consistent : c.state.Consistent)
    (worker : WorkerId) (boot : WorkerBootId) (kind : FailureKind) (reason : Text)
    (fault : Option SaveFault) :
    c.state.Loses (c.Loses (.revokeWorker worker boot kind reason))
      (c.revokeWorker worker boot kind reason fault).1.state := by
  unfold revokeWorker
  cases known : c.findLiveWorker worker boot with
  | none =>
      simp only [Loses, known, Option.isSome_none, Bool.false_eq_true, false_and]
      exact .refl .refl
  | some live =>
      simp only [Loses, known, Option.isSome_some, true_and, settle_id_state]
      intro id record found
      have stored := OrderedMap.find?_mapValues c.state.experiments (ExperimentRecord.loseWorker
        worker boot kind reason reason c.nextSequence.currentSequence
        (text "worker-revoked worker=" ++ worker.toText ++ text " reason=" ++ reason)) id
      rw [found, Option.map_some] at stored
      exact ⟨_, stored, (consistent id record found).loses ..⟩

/-- A registration loses the live attempts of the incarnations it replaces. -/
theorem registerWorker_loses (c : Coordinator R) (consistent : c.state.Consistent)
    (request : RegisterWorkerRequest) (fault : Option SaveFault) :
    c.state.Loses (c.Loses (.registerWorker request))
      (c.registerWorker request fault).1.state := by
  have none : (∀ worker boot, ¬ c.Loses (.registerWorker request) worker boot) →
      c.state.Loses (c.Loses (.registerWorker request)) c.state := by
    intro spared
    have same : c.Loses (.registerWorker request) = fun _ _ => False := by
      funext worker boot
      exact eq_false (spared worker boot)
    rw [same]
    exact .refl .refl
  unfold registerWorker
  cases guarded : c.registerWorkerGuard request with
  | error failure =>
      refine none fun worker boot lost => ?_
      rw [Loses, guarded] at lost
      exact nomatch lost.1
  | ok _ =>
      cases known : c.findLiveWorker request.worker request.boot with
      | some live =>
          have spared := none fun worker boot lost => by
            rw [Loses, known] at lost
            exact nomatch lost.2.1
          dsimp only
          split <;> exact spared
      | none =>
          have replaced := replaceIncarnations_loses c.nextSequence.currentSequence
            (c.nextSequence.replacedBy request.worker request.boot) c.nextSequence consistent
          have same : c.Loses (.registerWorker request) = fun worker boot =>
              ∃ live ∈ c.nextSequence.replacedBy request.worker request.boot,
                worker = live.worker ∧ boot = live.boot := by
            funext worker boot
            simp only [Loses, guarded, known, true_and]
            rfl
          rw [same]
          dsimp only
          split
          · exact replaced
          · split
            · rename_i settled
              have state := congrArg (fun result => result.1.state) settled
              dsimp only at state
              rw [settle_id_state] at state
              exact fun id record found => state ▸ replaced id record found
            · rename_i settled
              have state := congrArg (fun result => result.1.state) settled
              dsimp only at state
              rw [settle_id_state] at state
              exact fun id record found => state ▸ replaced id record found

end Coordinator

/-! ## Failure and commit -/

/-- Storing a changed record conforms exactly when the change of the record does. -/
theorem conforms_assign_iff {old new : CoordinatorState R} {experiment : ExperimentId}
    {before after : ExperimentRecord R} (found : old.experiments.find? experiment = some before)
    (stored : new.experiments = old.experiments.assign experiment after) :
    old.Conforms new ↔
      before.StatesMove TrialState.Conforms AttemptState.Conforms after := by
  constructor
  · intro conforms
    obtain ⟨same, lookup, moves⟩ := conforms experiment before found
    rw [stored, OrderedMap.find?_assign_self] at lookup
    obtain rfl := Option.some.inj lookup
    exact moves
  · intro moves
    unfold CoordinatorState.Conforms CoordinatorState.StatesMove
    rw [stored]
    refine (OrderedMap.Evolves.assign (fun record => ?_) found moves).extends_
    exact ⟨.refl fun _ => .inl rfl, .refl fun _ => .inl rfl⟩

/-- A change of one trial and one attempt conforms exactly when both changes do. -/
theorem conforms_pair_iff {before after : ExperimentRecord R} {trialKey : TrialId}
    {attemptKey : TrialAttemptId} {trial trial' : TrialRecord} {attempt attempt' : AttemptRecord}
    (trialFound : before.trials.find? trialKey = some trial)
    (attemptFound : before.attempts.find? attemptKey = some attempt)
    (trialFound' : after.trials.find? trialKey = some trial')
    (attemptFound' : after.attempts.find? attemptKey = some attempt')
    (others : ∀ key held, key ≠ trialKey → before.trials.find? key = some held →
      ∃ held', after.trials.find? key = some held' ∧ held'.state = held.state)
    (otherAttempts : ∀ id, id ≠ attemptKey → after.attempts.find? id = before.attempts.find? id) :
    before.StatesMove TrialState.Conforms AttemptState.Conforms after ↔
      trial.state.Conforms trial'.state ∧ attempt.state.Conforms attempt'.state := by
  constructor
  · intro moves
    obtain ⟨sameTrial, lookup, trialMoves⟩ := moves.trials trialKey trial trialFound
    obtain rfl := Option.some.inj (trialFound'.symm.trans lookup)
    obtain ⟨sameAttempt, lookup, attemptMoves⟩ := moves.attempts attemptKey attempt attemptFound
    obtain rfl := Option.some.inj (attemptFound'.symm.trans lookup)
    exact ⟨trialMoves, attemptMoves⟩
  · rintro ⟨trialMoves, attemptMoves⟩
    refine ⟨fun key held found => ?_, fun id held found => ?_⟩
    · by_cases here : key = trialKey
      · subst here
        obtain rfl := Option.some.inj (trialFound.symm.trans found)
        exact ⟨trial', trialFound', trialMoves⟩
      · obtain ⟨held', found', same⟩ := others key held here found
        exact ⟨held', found', .inl same⟩
    · by_cases here : id = attemptKey
      · subst here
        obtain rfl := Option.some.inj (attemptFound.symm.trans found)
        exact ⟨attempt', attemptFound', attemptMoves⟩
      · exact ⟨held, (otherAttempts id here).trans found, .inl rfl⟩

section Pair

variable {marks : Watermarks} {record : ExperimentRecord R} {trialKey : TrialId}
  {attemptKey : TrialAttemptId} {trial : TrialRecord} {attempt : AttemptRecord}

/-- A failure conforms exactly when it does not retry a trial that was observed already. -/
theorem fail_conforms_iff (life : Lifecycle marks record)
    (pair : LivePair record trialKey attemptKey trial attempt) (kind : FailureKind)
    (detail : Text) (retry : Bool) (sequence : Nat) :
    record.StatesMove TrialState.Conforms AttemptState.Conforms
        (record.fail trial trialKey attemptKey kind detail retry sequence) ↔
      (retry = true → record.retryable trial = true → trial.state = .assigned) := by
  have trials := fail_trials record trial trialKey attemptKey kind detail retry sequence
  have attempts := fail_attempts record trial trialKey attemptKey kind detail retry sequence
  have trialFound' : (record.fail trial trialKey attemptKey kind detail retry
      sequence).trials.find? trialKey =
        some (trial.release (retry && record.retryable trial) kind detail sequence) := by
    simp [trials, pair.trialFound]
  have attemptFound' : (record.fail trial trialKey attemptKey kind detail retry
      sequence).attempts.find? attemptKey =
        some (attempt.finish .failed kind detail sequence) := by
    simp [attempts, pair.attemptFound]
  have isHeld := pair.held life
  rw [conforms_pair_iff pair.trialFound pair.attemptFound trialFound' attemptFound'
    (fun key held other found => ⟨held, by simp [trials, other, found], rfl⟩)
    (fun id other => by simp [attempts, other]), TrialRecord.release_state]
  constructor
  · rintro ⟨trialMoves, -⟩ retried retryable
    rw [retried, retryable] at trialMoves
    exact (conforms_ready_iff isHeld).mp trialMoves
  · intro unstarted
    refine ⟨?_, conforms_ended pair.attemptOpen (.inl rfl)⟩
    split
    · rename_i retried
      simp only [Bool.and_eq_true] at retried
      exact (conforms_ready_iff isHeld).mpr (unstarted retried.1 retried.2)
    · exact conforms_failed isHeld

/-- Completing an attempt that may be completed conforms exactly when its trial was observed. -/
theorem complete_conforms_iff [MetricReal R] [CanonicalDigests R] (life : Lifecycle marks record)
    (pair : LivePair record trialKey attemptKey trial attempt)
    (allowed : attempt.state.isValidTransition .completed = true) {experiment : ExperimentId}
    {registered : ExperimentRecord R} {old new : CoordinatorState R}
    (added : Coordinator.ArtifactsAdded experiment record registered old new) (sequence : Nat) :
    record.StatesMove TrialState.Conforms AttemptState.Conforms
        (registered.complete trialKey attemptKey sequence) ↔ trial.state = .observing := by
  obtain ⟨artifacts, trialFound⟩ := added.trials trialKey trial pair.trialFound
  have trialFound' : (registered.complete trialKey attemptKey sequence).trials.find? trialKey =
      some (({ trial with artifacts := artifacts } : TrialRecord).commit sequence) := by
    simp [ExperimentRecord.complete, ExperimentRecord.log, trialFound]
  have attemptFound' : (registered.complete trialKey attemptKey sequence).attempts.find?
      attemptKey = some (attempt.commit sequence) := by
    simp [ExperimentRecord.complete, ExperimentRecord.log, added.attempts, pair.attemptFound]
  have others : ∀ key held, key ≠ trialKey → record.trials.find? key = some held →
      ∃ held', (registered.complete trialKey attemptKey sequence).trials.find? key = some held' ∧
        held'.state = held.state := by
    intro key held other found
    obtain ⟨heldArtifacts, found'⟩ := added.trials key held found
    exact ⟨{ held with artifacts := heldArtifacts },
      by simp [ExperimentRecord.complete, ExperimentRecord.log, other, found'], rfl⟩
  have otherAttempts : ∀ id, id ≠ attemptKey →
      (registered.complete trialKey attemptKey sequence).attempts.find? id =
        record.attempts.find? id := by
    intro id other
    simp [ExperimentRecord.complete, ExperimentRecord.log, other, added.attempts]
  rw [conforms_pair_iff pair.trialFound pair.attemptFound trialFound' attemptFound' others
    otherAttempts]
  exact ⟨fun moves => (conforms_completed_iff (pair.held life)).mp moves.1,
    fun observed => ⟨(conforms_completed_iff (pair.held life)).mpr observed, .inr allowed⟩⟩

end Pair

namespace Coordinator

theorem failTrial_conforms_iff (c : Coordinator R) (consistent : c.state.Consistent)
    (request : FailTrialRequest) (fault : Option SaveFault) :
    c.state.Conforms (c.failTrial request fault).1.state ↔ c.Conforming (.failTrial request) := by
  unfold failTrial
  cases guarded : c.failTrialGuard request with
  | error failure =>
      refine ⟨fun _ check accepted => ?_, fun _ => conforms_self c.state⟩
      exact nomatch guarded.symm.trans accepted
  | ok check =>
      obtain ⟨-, -, -, found, admitted⟩ :=
        (c.checkEnvelope_eq_ok _ _).mp (failTrialGuard_ok guarded).1
      rw [settle_id_state, conforms_assign_iff found rfl,
        fail_conforms_iff (consistent _ check.record found) admitted.livePair]
      constructor
      · intro unstarted same accepted
        obtain rfl := Except.ok.inj (guarded.symm.trans accepted)
        exact unstarted
      · exact fun conforming => conforming check guarded

theorem commitTrial_conforms_iff [MetricReal R] [CanonicalDigests R] (c : Coordinator R)
    (consistent : c.state.Consistent) (request : CommitTrialRequest) (fault : Option SaveFault) :
    c.state.Conforms (c.commitTrial request fault).1.state ↔
      c.Conforming (.commitTrial request) := by
  unfold commitTrial
  cases guarded : c.commitTrialGuard request with
  | error failure =>
      refine ⟨fun _ check accepted => ?_, fun _ => conforms_self c.state⟩
      cases guarded.symm.trans accepted
  | ok check =>
      obtain ⟨-, -, -, found, admitted⟩ :=
        (c.checkEnvelope_eq_ok _ _).mp (commitTrialGuard_ok guarded)
      have pair := admitted.livePair
      have unfinished : check.trial.state ≠ .completed := fun finished => by
        simpa [finished, isTerminal] using pair.trialOpen
      obtain ⟨registered, added⟩ := registerArtifacts_added request.envelope request.artifacts
        c.nextSequence check.record found
      -- Only this check passed the guard.
      have conforming_iff : c.Conforming (.commitTrial request) ↔
          (observationsHeld check.record check.trial.id check.attempt.id ≠ 0 →
            (registerArtifacts request.envelope c.nextSequence request.artifacts).2 = .ok () →
              check.attempt.state.isValidTransition .completed = true →
                check.trial.state = .observing) := by
        constructor
        · exact fun conforming => conforming check guarded
        · intro observed same accepted
          obtain rfl := Except.ok.inj (guarded.symm.trans accepted)
          exact observed
      rw [conforming_iff]
      dsimp only
      rw [if_neg (by simp [unfinished])]
      split
      · rename_i without
        exact ⟨fun _ held => (held without).elim, fun _ => conforms_self c.state⟩
      · rename_i evidence
        split
        · rename_i failure refused
          rw [refused] at added ⊢
          refine ⟨fun _ _ impossible => (by cases impossible), fun _ => ?_⟩
          refine (conforms_assign_iff found added.stored).mpr ⟨fun key trial held => ?_, ?_⟩
          · obtain ⟨artifacts, held'⟩ := added.trials key trial held
            exact ⟨_, held', .inl rfl⟩
          · rw [added.attempts]
            exact .refl fun _ => .inl rfl
        · rename_i accepted
          rw [accepted] at added ⊢
          split
          · rename_i forbidden
            refine ⟨fun _ _ _ allowed => ?_, fun _ => ?_⟩
            · simp [allowed] at forbidden
            · have restored := withdrawArtifacts_experiments request.envelope request.artifacts
                (show c.nextSequence.findExperiment request.envelope.experiment =
                  some check.record from found) admitted.trialFound (congrArg Prod.snd accepted)
              rw [accepted] at restored
              unfold CoordinatorState.Conforms CoordinatorState.StatesMove
              rw [restored]
              exact conforms_self c.state
          · rename_i allowed
            simp only [Bool.not_eq_true', Bool.not_eq_false] at allowed
            have stored := added.stored
            dsimp only at stored
            rw [findExperiment, stored, OrderedMap.find?_assign_self]
            dsimp only
            rw [settle_id_state, conforms_assign_iff found
              (by simp only [withRecord, withExperiments, stored]
                  exact OrderedMap.assign_assign ..),
              complete_conforms_iff (consistent _ check.record found) pair allowed added]
            exact ⟨fun observed _ _ _ => observed, fun conforming => conforming evidence rfl allowed⟩

end Coordinator

/-! ## Recovery -/

theorem stage_conforms (record : ExperimentRecord R) (sequence : Nat) :
    record.StatesMove TrialState.Conforms AttemptState.Conforms (record.stage sequence).2 := by
  constructor
  · refine (stage_trials_evolve record sequence fun reached trial => ?_).extends_
    unfold stageTrial
    cases state : trial.state <;> simp [isTerminal, state] <;> decide
  · refine (stage_attempts_evolve record sequence fun reached attempt => ?_).extends_
    unfold stageAttempt
    cases state : attempt.state <;> simp [isAttemptTerminal, state] <;> decide

theorem resolve_conforms (record : ExperimentRecord R) (sequence : Nat) :
    record.StatesMove TrialState.Conforms AttemptState.Conforms (record.resolve sequence).2 := by
  refine ⟨fun key trial found => ?_, fun id attempt found => ?_⟩
  · have visited := resolve_trials record sequence key
    rw [found, Option.map_some] at visited
    obtain ⟨trial', found', same⟩ := Option.map_eq_some_iff.mp visited
    have state := congrArg TrialRecord.state same
    refine ⟨trial', found', ?_⟩
    simp only [TrialRecord.unsequenced] at state
    dsimp only
    rw [state]
    split
    · rename_i staged
      rw [staged]
      unfold ExperimentRecord.resolvedTrial
      split <;> exact .inr rfl
    · exact .inl rfl
  · have visited := resolve_attempts record sequence id
    rw [found, Option.map_some] at visited
    obtain ⟨attempt', found', same⟩ := Option.map_eq_some_iff.mp visited
    have state := congrArg AttemptRecord.state same
    refine ⟨attempt', found', ?_⟩
    simp only [AttemptRecord.unsequenced] at state
    dsimp only
    rw [state, abandonedBy]
    split
    · rename_i chosen
      simp only [Bool.and_eq_true, Bool.not_eq_true'] at chosen
      exact conforms_ended chosen.1 (.inr rfl)
    · exact .inl rfl

theorem PartlyStaged.conforms {old new : CoordinatorState R} (staged : PartlyStaged old new) :
    old.Conforms new := by
  intro id record found
  rcases staged.present id record found with same | ⟨sequence, same⟩
  · exact ⟨record, same, .refl fun _ => .inl rfl, .refl fun _ => .inl rfl⟩
  · exact ⟨_, same, stage_conforms record sequence⟩

namespace Coordinator

/-- Wherever staging ends, some experiments are staged and the others are as they were loaded. -/
theorem stageAll_partly (outcomes : WriteOutcomes) {old : CoordinatorState R}
    (remaining done : List ExperimentId) (distinct : (done ++ remaining).Nodup) (writes : Nat)
    (c : Coordinator R) (progress : StagedUpTo done old c.state) :
    PartlyStaged old (stageAll outcomes writes c remaining).1.state := by
  induction remaining generalizing done writes c with
  | nil => exact progress.partly
  | cons id rest ih =>
      have fresh : id ∉ done := fun member =>
        (List.nodup_append.mp distinct).2.2 id member id List.mem_cons_self rfl
      have regrouped : done ++ id :: rest = (done ++ [id]) ++ rest := by simp
      rw [regrouped] at distinct
      unfold stageAll
      split
      · rename_i absent
        exact ih (done ++ [id]) distinct writes c (progress.skip fresh absent)
      · rename_i record found
        have next := progress.next fresh found
        split
        · have kept := (c.stageExperiment id record).persistLocked_state (outcomes writes) true
          split
          · rename_i unsaved failure persisted
            rw [persisted] at kept
            exact kept ▸ next.partly
          · rename_i saved persisted
            rw [persisted] at kept
            exact ih (done ++ [id]) distinct (writes + 1) saved (kept ▸ next)
        · exact ih (done ++ [id]) distinct writes _ next

theorem stageAll_conforms (c : Coordinator R) (outcomes : WriteOutcomes) :
    c.state.Conforms (stageAll outcomes 0 c c.state.experiments.keys).1.state := by
  refine PartlyStaged.conforms (stageAll_partly outcomes c.state.experiments.keys []
    c.state.experiments.keys_nodup 0 c ⟨rfl, fun _ _ => rfl, fun _ member => ?_⟩)
  cases member

theorem resolveAll_conforms (c : Coordinator R) : c.state.Conforms c.resolveAll.state := by
  intro id record found
  obtain ⟨reached, resolved⟩ := c.resolveAll_lookup id
  rw [found, Option.map_some] at resolved
  exact ⟨_, resolved, resolve_conforms record reached⟩

end Coordinator

/-! ## Every request and both phases of recovery -/

section Requests

variable [MetricReal R] [CanonicalDigests R]

/-- In every reachable state a request takes only allowed transitions exactly when it is conforming,
and both phases of recovery always do. -/
theorem transitions_conform {path : Text} {c : Coordinator R}
    (reachable : (World.running c).Reachable path) (request : Request R)
    (fault : Option SaveFault) (loaded : Coordinator R) (outcomes : WriteOutcomes) :
    (c.state.Conforms (c.perform request fault).1.state ↔ c.Conforming request) ∧
      loaded.state.Conforms
        (Coordinator.stageAll outcomes 0 loaded loaded.state.experiments.keys).1.state ∧
      loaded.state.Conforms loaded.resolveAll.state := by
  refine ⟨?_, loaded.stageAll_conforms outcomes, loaded.resolveAll_conforms⟩
  obtain ⟨-, consistent, arranged, -⟩ := reachable.sound
  have oneWay : request.oneWay = true →
      (∀ worker boot, ¬ c.Loses request worker boot) →
        (c.state.Conforms (c.perform request fault).1.state ↔
          ∀ experiment record, c.findExperiment experiment = some record →
            record.Unstarted (c.Loses request)) := by
    intro oneWay spared
    refine ⟨fun _ experiment record found key trial held lost => ?_,
      fun _ => c.perform_conforms request fault consistent arranged oneWay⟩
    obtain ⟨id, attempt, -, -, named, -⟩ := lost
    exact (spared _ _ named).elim
  cases request with
  | failTrial request => exact c.failTrial_conforms_iff consistent request fault
  | commitTrial request => exact c.commitTrial_conforms_iff consistent request fault
  | revokeWorker worker boot kind reason =>
      exact (c.revokeWorker_loses consistent worker boot kind reason fault).conforms_iff consistent
  | registerWorker request =>
      exact (c.registerWorker_loses consistent request fault).conforms_iff consistent
  | _ => exact oneWay rfl fun _ _ lost => lost

end Requests

namespace Sample

/-- The coordinator after the claimed trial was observed. -/
def observed : Coordinator ℚ := claimed.session (committing.take 1)

/-- A failure of the observed trial that asks for a retry. -/
def failure : FailTrialRequest :=
  { epoch := coordinator.epoch, worker, boot, envelope, retryable := true }

theorem observed_reachable : (World.running observed).Reachable config.statePath :=
  claimed_reachable.session (committing.take 1)

end Sample

/-- Failing the sample trial before it is observed conforms. -/
theorem transitions_conform_sample : Sample.claimed.state.Conforms
    (Sample.claimed.perform (.failTrial Sample.failure) none).1.state := by
  refine (transitions_conform Sample.claimed_reachable (.failTrial Sample.failure) none
    Sample.coordinator fun _ => none).1.mpr fun check guarded _ _ => ?_
  have assigned : (Sample.claimed.failTrialGuard Sample.failure).toOption.all
      (·.trial.state = .assigned) = true := by decide +kernel
  simpa [guarded, Except.toOption] using assigned

/-- An observed trial that fails is ready again, which the lifecycle does not allow. -/
theorem observed_trial_retried : ∃ (c : Coordinator ℚ) (request : Request ℚ),
    (World.running c).Reachable Sample.config.statePath ∧
      ¬ c.state.Conforms (c.perform request none).1.state := by
  refine ⟨Sample.observed, .failTrial Sample.failure, Sample.observed_reachable, fun conforms => ?_⟩
  obtain ⟨-, consistent, -⟩ := Sample.observed_reachable.sound
  have conforming :=
    (Sample.observed.failTrial_conforms_iff consistent Sample.failure none).mp conforms
  have retried : (Sample.observed.failTrialGuard Sample.failure).toOption.any
      (fun check => check.record.retryable check.trial && check.trial.state = .observing) =
        true := by decide +kernel
  cases guarded : Sample.observed.failTrialGuard Sample.failure with
  | error failure => simp [guarded, Except.toOption] at retried
  | ok check =>
      simp only [guarded, Except.toOption, Option.any_some, Bool.and_eq_true,
        decide_eq_true_eq] at retried
      exact nomatch (conforming check guarded rfl retried.1).symm.trans retried.2

end ExperimentFabric
