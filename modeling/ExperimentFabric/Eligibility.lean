import ExperimentFabric.Currency
import ExperimentFabric.Invariants
import ExperimentFabric.Session

/-!
# Ready trials can be claimed

Trials become ready when they are created, when a failure or a lost worker leaves a retry, and when
recovery resolves them, each by its own copy of the retry rule.  The claim loop applies another copy.
The invariant below says that they agree, and the condition on the steps of a run names the two places
where they do not: recovery, which resumes a trial of an experiment without retries, and a failure
that invalidates a branch on which trials still wait.
-/

namespace ExperimentFabric

open Lib Relation

variable {R : Type}

/-- The eligibility tests of the claim loop for one trial. -/
structure ExperimentRecord.Eligible (record : ExperimentRecord R) (trial : TrialRecord) : Prop where
  generation : trial.generation = record.definition.generation
  hypothesisRevision : trial.hypothesisRevision = record.definition.hypothesisRevision
  budget : trial.attemptCount < record.definition.maxAttemptsPerTrial
  retry : record.definition.retryPolicy = .noRetry → trial.attemptCount = 0
  branch : ∃ branch, record.findBranch trial.branch = some branch ∧
    isBranchEligible branch.state = true ∧ branch.generation = trial.branchGeneration

/-- A ready trial that is eligible is issued, as long as the experiment has room for an attempt. -/
theorem ExperimentRecord.Eligible.claimable {record : ExperimentRecord R} {trial : TrialRecord}
    (eligible : record.Eligible trial) (ready : trial.state = .ready) (limits : Limits)
    (room : record.attempts.size < record.trials.size * limits.maxAttemptsPerTrial + 16) :
    ∃ branch, record.claimable limits trial = some branch := by
  obtain ⟨branch, found, active, same⟩ := eligible.branch
  have unspent : ¬ (record.definition.retryPolicy = .noRetry ∧ trial.attemptCount > 0) :=
    fun ⟨policy, used⟩ => used.ne' (eligible.retry policy)
  refine ⟨branch, ?_⟩
  unfold ExperimentRecord.claimable
  rw [if_neg (by simp [ready, eligible.generation, eligible.hypothesisRevision]),
    if_neg eligible.budget.not_ge, if_neg (by simpa using unspent), found]
  dsimp only
  rw [if_neg (by simp [active, same]), if_neg room.not_ge]

/-! ## How trials go on -/

/-- What every change of a trial keeps: a trial becomes ready again only by the retry rule. -/
structure Continues (record : ExperimentRecord R) (trial trial' : TrialRecord) : Prop where
  fixed : trial'.fixed = trial.fixed
  attemptCount : trial'.attemptCount = trial.attemptCount
  opened : isTerminal trial'.state = false → isTerminal trial.state = false
  ready : trial'.state = .ready → trial.state = .ready ∨ record.retryable trial = true

theorem Continues.refl (record : ExperimentRecord R) (trial : TrialRecord) :
    Continues record trial trial :=
  ⟨rfl, rfl, id, .inl⟩

theorem Continues.trans {record : ExperimentRecord R} {first second third : TrialRecord}
    (earlier : Continues record first second) (later : Continues record second third) :
    Continues record first third := by
  refine ⟨later.fixed.trans earlier.fixed, later.attemptCount.trans earlier.attemptCount,
    fun isOpen => earlier.opened (later.opened isOpen), fun ready => ?_⟩
  rcases later.ready ready with ready | retryable
  · exact earlier.ready ready
  · refine .inr ?_
    unfold ExperimentRecord.retryable at retryable ⊢
    rwa [earlier.attemptCount] at retryable

/-- Closing trials leaves none of them ready. -/
theorem closeTrials_continues (record : ExperimentRecord R) (select : TrialRecord → Bool)
    {state : TrialState} (terminal : isTerminal state = true) (kind : FailureKind) (detail : Text)
    (sequence : Nat) (trials : OrderedMap TrialId TrialRecord) :
    OrderedMap.Evolves (Continues record) trials
      (closeTrials select state kind detail sequence trials) := by
  refine .mapValues fun trial => ?_
  rcases closeTrial_cases select state kind detail sequence trial with
    ⟨-, isOpen, same⟩ | ⟨-, same⟩
  · rw [same]
    refine ⟨rfl, rfl, fun _ => isOpen, fun ready => ?_⟩
    have ended : state = .ready := ready
    rw [ended] at terminal
    cases terminal
  · rw [same]
    exact .refl record trial

/-- A change of one open trial that does not make it ready. -/
theorem modify_continues (record : ExperimentRecord R) {trials : OrderedMap TrialId TrialRecord}
    {key : TrialId} {change : TrialRecord → TrialRecord}
    (each : ∀ trial, trials.find? key = some trial → Continues record trial (change trial)) :
    OrderedMap.Evolves (Continues record) trials (trials.modify key change) :=
  .modify (.refl record) each

theorem release_continues (record : ExperimentRecord R) {trial : TrialRecord}
    (isOpen : isTerminal trial.state = false) {retry : Bool}
    (allowed : retry = true → record.retryable trial = true) (kind : FailureKind) (detail : Text)
    (sequence : Nat) : Continues record trial (trial.release retry kind detail sequence) := by
  cases retry with
  | true => exact ⟨rfl, rfl, fun _ => isOpen, fun _ => .inr (allowed rfl)⟩
  | false => exact ⟨rfl, rfl, fun _ => isOpen, fun ready => nomatch ready⟩

theorem observe_continues {record : ExperimentRecord R} {trialKey : TrialId}
    {attemptKey : TrialAttemptId} {trial : TrialRecord} {attempt : AttemptRecord}
    (live : LivePair record trialKey attemptKey trial attempt) (sequence : Nat) :
    OrderedMap.Evolves (Continues record) record.trials
      (record.observe trial attempt trialKey attemptKey sequence).1.trials := by
  have observing : ∀ reached, OrderedMap.Evolves (Continues record) record.trials
      (record.trials.modify trialKey (·.observing reached)) := by
    intro reached
    refine modify_continues record fun held found => ?_
    obtain rfl := Option.some.inj (live.trialFound.symm.trans found)
    exact ⟨rfl, rfl, fun _ => live.trialOpen, fun ready => nomatch ready⟩
  unfold ExperimentRecord.observe
  dsimp only
  split <;> split <;> first | exact observing _ | exact .refl (.refl record)

theorem touch_continues (record : ExperimentRecord R) (trials : OrderedMap TrialId TrialRecord)
    (key : TrialId) {change : TrialRecord → TrialRecord}
    (fixed : ∀ trial, (change trial).fixed = trial.fixed)
    (state : ∀ trial, (change trial).state = trial.state)
    (count : ∀ trial, (change trial).attemptCount = trial.attemptCount) :
    OrderedMap.Evolves (Continues record) trials (trials.modify key change) := by
  refine modify_continues record fun trial _ => ⟨fixed trial, count trial, ?_, ?_⟩
  · rw [state]
    exact id
  · rw [state]
    exact .inl

theorem artifactsAdded_continues [MetricReal R] [CanonicalDigests R] {experiment : ExperimentId}
    {record registered : ExperimentRecord R} {old new : CoordinatorState R}
    (added : Coordinator.ArtifactsAdded experiment record registered old new) :
    OrderedMap.Evolves (Continues record) record.trials registered.trials where
  extends_ := fun key trial found => by
    obtain ⟨artifacts, found'⟩ := added.trials key trial found
    exact ⟨_, found', rfl, rfl, id, .inl⟩
  absent := (moves_rewritten added.moves).trials.absent

section Effects

variable [MetricReal R] [CanonicalDigests R] {c : Coordinator R} {experiment : ExperimentId}
  {record after : ExperimentRecord R} {marks : Watermarks} {request : Request R}

theorem Effect.continues (effect : Effect c experiment record marks request after) :
    OrderedMap.Evolves (Continues record) record.trials after.trials := by
  cases effect with
  | revise guarded => exact closeTrials_continues record _ rfl _ _ _ _
  | fork guarded forked valid allocated => exact .refl (.refl record)
  | forkUndone guarded => exact .refl (.refl record)
  | retire guarded => exact closeTrials_continues record _ rfl _ _ _ _
  | refuseObservation named found refused =>
      obtain ⟨observations, rejected, same⟩ := refusedObservation_frame c record _ _
      rw [same]
      exact .refl (.refl record)
  | @publishObservation published branch trial attempt admitted named accepted admission =>
      have live := ((c.checkEnvelope_eq_ok _ _).mp accepted).2.2.2.2.livePair
      have pushed : LivePair
          (record.pushObservation { admitted with sequence := c.currentSequence + 1 })
          published.observation.trial published.observation.attempt trial attempt :=
        ⟨live.trialFound, live.trialOpen, live.authoritative, live.attemptFound, live.attemptOpen⟩
      exact (observe_continues pushed (c.currentSequence + 1)).mono fun _ _ step =>
        ⟨step.fixed, step.attemptCount, step.opened, step.ready⟩
  | publishObservationUndone named accepted =>
      exact observe_continues ((c.checkEnvelope_eq_ok _ _).mp accepted).2.2.2.2.livePair _
  | refuseArtifact named found built refused =>
      obtain ⟨rejected, same⟩ := reject_frame record _ _ _
      rw [same]
      exact .refl (.refl record)
  | publishArtifact named built accepted admission =>
      unfold ExperimentRecord.touch ExperimentRecord.pushArtifact
      dsimp only
      rw [OrderedMap.modify_modify]
      apply touch_continues <;> exact fun _ => rfl
  | publishArtifactUndone named built accepted =>
      unfold ExperimentRecord.touch
      dsimp only
      apply touch_continues <;> exact fun _ => rfl
  | registerArtifacts named guarded refused stored =>
      subst named
      exact artifactsAdded_continues (registered_pair guarded stored)
  | @commit committing branch trial attempt registered named guarded accepted stored =>
      subst named
      obtain ⟨-, -, -, -, admitted⟩ :=
        (c.checkEnvelope_eq_ok _ _).mp (Coordinator.commitTrialGuard_ok guarded)
      have added := registered_pair guarded stored
      obtain ⟨held, live⟩ := added.livePair admitted.livePair
      have completed : OrderedMap.Evolves (Continues record) registered.trials
          (registered.trials.modify committing.envelope.trial
            (·.commit (c.currentSequence + 1))) := by
        refine modify_continues record fun other found => ?_
        obtain rfl := Option.some.inj (live.trialFound.symm.trans found)
        exact ⟨rfl, rfl, fun _ => live.trialOpen, fun ready => nomatch ready⟩
      exact (artifactsAdded_continues added).trans (fun _ _ _ => .trans) completed
  | @fail failure branch trial attempt named guarded =>
      obtain ⟨-, -, -, -, admitted⟩ :=
        (c.checkEnvelope_eq_ok _ _).mp (Coordinator.failTrialGuard_ok guarded).1
      have live := admitted.livePair
      rw [fail_trials]
      refine modify_continues record fun held found => ?_
      obtain rfl := Option.some.inj (live.trialFound.symm.trans found)
      refine release_continues record live.trialOpen (fun retried => ?_) _ _ _
      simp only [Bool.and_eq_true] at retried
      exact retried.2
  | @cancelTrial trialKey reason held owner isOpen =>
      unfold ExperimentRecord.cancelTrial ExperimentRecord.log
      dsimp only
      refine modify_continues record fun trial found => ?_
      obtain rfl := Option.some.inj ((c.ownerOf_eq_some owner).2.symm.trans found)
      exact ⟨rfl, rfl, fun _ => isOpen, fun ready => nomatch ready⟩
  | cancel found allowed => exact closeTrials_continues record _ rfl _ _ _ _
  | finalize guarded decided allocated pointed => exact .refl (.refl record)
  | rollback guarded => exact closeTrials_continues record _ rfl _ _ _ _

/-- No request changes the retry rule of an experiment or sends it back to recovery. -/
theorem Effect.keepsRetryRule (effect : Effect c experiment record marks request after) :
    after.definition.maxAttemptsPerTrial = record.definition.maxAttemptsPerTrial ∧
      after.definition.retryPolicy = record.definition.retryPolicy ∧
        (record.state ≠ .recovering → after.state ≠ .recovering) := by
  refine ⟨?_, ?_, fun settled => ?_⟩
  · exact effect.view_fixed ExperimentDefinition.maxAttemptsPerTrial fun _ _ _ _ => rfl
  · exact effect.view_fixed ExperimentDefinition.retryPolicy fun _ _ _ _ => rfl
  · rcases effect.view_state with same | ⟨_, rfl⟩ | ⟨_, _, -, -, reached⟩ | ⟨_, _, rfl⟩
    · exact same ▸ settled
    · exact fun recovering => nomatch recovering
    · rw [reached]
      cases (Coordinator.finalDecision record _ _ _ _).outcome <;>
        simp [ExperimentRecord.stateAfter, settled]
    · simp only [ExperimentRecord.rollback, ExperimentRecord.log]
      split
      · simp
      · exact settled

end Effects

/-! ## The invariant -/

/-- The trial is open, and it is unclaimed or may still be retried. -/
def ExperimentRecord.Waiting (record : ExperimentRecord R) (trial : TrialRecord) : Prop :=
  isTerminal trial.state = false ∧ (trial.attemptCount = 0 ∨ record.retryable trial = true)

/-- Ready trials have an attempt left, and trials that can become ready are current. -/
structure Prepared (record : ExperimentRecord R) : Prop where
  budget : record.definition.maxAttemptsPerTrial ≠ 0
  settled : record.state ≠ .recovering
  ready : ∀ key trial, record.trials.find? key = some trial → trial.state = .ready →
    trial.attemptCount < record.definition.maxAttemptsPerTrial ∧
      (record.definition.retryPolicy = .noRetry → trial.attemptCount = 0)
  current : record.state = .opened → ∀ key trial, record.trials.find? key = some trial →
    record.Waiting trial → record.Current trial

theorem retryable_iff (record : ExperimentRecord R) (trial : TrialRecord) :
    record.retryable trial = true ↔ record.definition.retryPolicy ≠ .noRetry ∧
      trial.attemptCount < record.definition.maxAttemptsPerTrial := by
  simp [ExperimentRecord.retryable]

/-- In a prepared record every ready trial of an open experiment is eligible. -/
theorem Prepared.eligible {record : ExperimentRecord R} (prepared : Prepared record)
    (opened : record.state = .opened) {key : TrialId} {trial : TrialRecord}
    (found : record.trials.find? key = some trial) (ready : trial.state = .ready) :
    record.Eligible trial := by
  obtain ⟨budget, retry⟩ := prepared.ready key trial found ready
  have waiting : record.Waiting trial := by
    refine ⟨by rw [ready]; rfl, ?_⟩
    by_cases policy : record.definition.retryPolicy = .noRetry
    · exact .inl (retry policy)
    · exact .inr ((retryable_iff record trial).mpr ⟨policy, budget⟩)
  have current := prepared.current opened key trial found waiting
  obtain ⟨branch, lookup, active, same⟩ := current.branch
  exact ⟨current.generation, current.hypothesisRevision, budget, retry, branch, lookup,
    by rw [active]; rfl, same⟩

/-- A change that keeps the retry rule and carries trials on keeps a record prepared. -/
theorem Prepared.carry {record after : ExperimentRecord R} (prepared : Prepared record)
    (rule : after.definition.maxAttemptsPerTrial = record.definition.maxAttemptsPerTrial ∧
      after.definition.retryPolicy = record.definition.retryPolicy ∧
        (record.state ≠ .recovering → after.state ≠ .recovering))
    (continues : OrderedMap.Evolves (Continues record) record.trials after.trials)
    (opened : after.state = .opened → record.state = .opened ∨ after.Ended)
    (currency : after.Ended ∨ KeepsCurrency after.Waiting record after) : Prepared after := by
  obtain ⟨budget, policy, settled⟩ := rule
  have retryable : ∀ {trial trial' : TrialRecord}, trial'.attemptCount = trial.attemptCount →
      after.retryable trial' = record.retryable trial := by
    intro trial trial' count
    unfold ExperimentRecord.retryable
    rw [budget, policy, count]
  refine ⟨by rw [budget]; exact prepared.budget, settled prepared.settled, ?_, ?_⟩
  · intro key trial' found ready
    obtain ⟨trial, lookup, step⟩ := continues.source found
    rw [budget, policy, step.attemptCount]
    rcases step.ready ready with waiting | again
    · exact prepared.ready key trial lookup waiting
    · obtain ⟨allowed, left⟩ := (retryable_iff record trial).mp again
      exact ⟨left, fun never => (allowed never).elim⟩
  · intro isOpen key trial' found waiting
    have notEnded : ¬ after.Ended := fun ended => by
      have closed := ended.trials key trial' found
      rw [waiting.1] at closed
      cases closed
    obtain ⟨trial, lookup, step⟩ := continues.source found
    refine (currency.resolve_left notEnded).current found waiting step.fixed ?_
    refine prepared.current ((opened isOpen).resolve_right notEnded) key trial lookup
      ⟨step.opened waiting.1, ?_⟩
    rw [← step.attemptCount, ← retryable step.attemptCount]
    exact waiting.2

theorem Prepared.trials {record after : ExperimentRecord R} (prepared : Prepared record)
    (state : after.state = record.state) (definition : after.definition = record.definition)
    (continues : OrderedMap.Evolves (Continues record) record.trials after.trials) :
    Prepared after := by
  refine prepared.carry ?_ continues (fun opened => .inl (state ▸ opened))
    (.inr (.ofDefinition definition))
  rw [state, definition]
  exact ⟨rfl, rfl, id⟩

/-- Losing a worker releases its trials by the retry rule. -/
theorem loseWorker_continues (worker : WorkerId) (boot : WorkerBootId) (kind : FailureKind)
    (attemptDetail trialDetail : Text) (sequence : Nat) (line : Text)
    (record : ExperimentRecord R) :
    OrderedMap.Evolves (Continues record) record.trials
      (record.loseWorker worker boot kind attemptDetail trialDetail sequence line).trials := by
  refine loseWorker_trials (.refl record) (fun _ _ _ => .trans) (fun attempt trial => ?_) worker boot
    attemptDetail line
  unfold ExperimentRecord.releaseFrom
  split
  · exact .refl record trial
  · rename_i isOpen
    simp only [Bool.or_eq_true, not_or, Bool.not_eq_true] at isOpen
    exact release_continues record isOpen.1 id _ _ _

/-- A new trial is current and unclaimed. -/
theorem Prepared.addTrial {record : ExperimentRecord R} (prepared : Prepared record)
    (experiment : ExperimentId) {branch : BranchDefinition} {branchId : BranchId}
    (branchFound : record.findBranch branchId = some branch) (active : branch.state = .active)
    (id : TrialId) (payload : Text) (sequence : Nat) :
    Prepared (record.addTrial (record.newTrial experiment branch id payload sequence)) := by
  have here : record.findBranch branch.id = some branch := by
    rw [ExperimentRecord.findBranch_id branchFound, branchFound]
  refine ⟨prepared.budget, prepared.settled, fun key trial found ready => ?_,
    fun opened key trial found waiting => ?_⟩
  · rcases ExperimentRecord.find?_addTrial found with before | ⟨-, rfl⟩
    · exact prepared.ready key trial before ready
    · exact ⟨Nat.pos_of_ne_zero prepared.budget, fun _ => rfl⟩
  · rcases ExperimentRecord.find?_addTrial found with before | ⟨-, rfl⟩
    · obtain ⟨generation, revision, policy, policyGeneration, known⟩ :=
        prepared.current opened key trial before waiting
      exact ⟨generation, revision, policy, policyGeneration, known⟩
    · exact ⟨rfl, rfl, rfl, rfl, branch, here, active, rfl⟩

/-- Issuing an attempt for a ready trial uses up one of its attempts. -/
theorem Prepared.issue {record : ExperimentRecord R} (prepared : Prepared record) {key : TrialId}
    {trial : TrialRecord} (found : record.trials.find? key = some trial)
    (ready : trial.state = .ready) (attempt : AttemptRecord) (sequence : Nat) :
    Prepared (record.issue key attempt sequence) := by
  have lookup : ∀ other trial', (record.issue key attempt sequence).trials.find? other =
      some trial' → ∃ before, record.trials.find? other = some before ∧
        trial'.fixed = before.fixed ∧ (trial' = before ∨ (trial'.state = .assigned ∧
          trial'.attemptCount = before.attemptCount + 1 ∧ before.state = .ready)) := by
    intro other trial' lookup
    rcases ExperimentRecord.find?_issue_trial lookup with ⟨rfl, before, held, rfl⟩ | ⟨-, held⟩
    · obtain rfl := Option.some.inj (found.symm.trans held)
      exact ⟨trial, held, rfl, .inr ⟨rfl, rfl, ready⟩⟩
    · exact ⟨trial', held, rfl, .inl rfl⟩
  have keeps : KeepsCurrency (record.issue key attempt sequence).Waiting record
      (record.issue key attempt sequence) := .ofDefinition rfl
  refine ⟨prepared.budget, prepared.settled, fun other trial' found' isReady => ?_,
    fun opened other trial' found' waiting => ?_⟩
  · obtain ⟨before, held, -, rfl | ⟨assigned, -⟩⟩ := lookup other trial' found'
    · exact prepared.ready other _ held isReady
    · rw [assigned] at isReady
      cases isReady
  · obtain ⟨before, held, fixed, change⟩ := lookup other trial' found'
    refine keeps.current found' waiting fixed (prepared.current opened other before held ?_)
    rcases change with rfl | ⟨-, -, wasReady⟩
    · exact waiting
    · refine ⟨by rw [wasReady]; rfl, ?_⟩
      obtain ⟨budget, retry⟩ := prepared.ready other before held wasReady
      by_cases policy : record.definition.retryPolicy = .noRetry
      · exact .inl (retry policy)
      · exact .inr ((retryable_iff record before).mpr ⟨policy, budget⟩)

/-! ## Recovery -/

theorem Prepared.stage {record : ExperimentRecord R} (prepared : Prepared record)
    (sequence : Nat) : Prepared (record.stage sequence).2 := by
  have fields := stage_forget_fields record sequence
  have definition : (record.stage sequence).2.definition = record.definition := by
    rw [fields]
    rfl
  have state : (record.stage sequence).2.state = record.state := by
    rw [fields]
    exact if_neg prepared.settled
  refine prepared.trials state definition (stage_trials_evolve record sequence ?_)
  intro reached trial
  unfold stageTrial
  split
  · exact .refl record trial
  · rename_i isOpen
    exact ⟨rfl, rfl, fun _ => by simpa using isOpen, fun ready => nomatch ready⟩

/-- Recovery keeps a record prepared when it resumes no claimed trial of an experiment without
retries. -/
theorem Prepared.recovered {record after : ExperimentRecord R} (prepared : Prepared record)
    (same : after.forget = record.recovered.forget)
    (unclaimed : ∀ key trial, record.trials.find? key = some trial →
      isTerminal trial.state = false → record.definition.retryPolicy = .noRetry →
        record.resumable trial = true → trial.attemptCount = 0) : Prepared after := by
  have reopened : record.reopened = record := by
    unfold ExperimentRecord.reopened
    rw [if_neg prepared.settled]
  have definition : after.definition = record.definition :=
    congrArg (fun forgotten => forgotten.definition) same
  have state : after.state = record.state := by
    have forgotten := congrArg (fun forgotten => forgotten.state) same
    exact forgotten.trans (if_neg prepared.settled)
  have lookup : ∀ key trial', after.trials.find? key = some trial' →
      ∃ trial, record.trials.find? key = some trial ∧ trial'.fixed = trial.fixed ∧
        trial'.attemptCount = trial.attemptCount ∧
          trial'.state = (record.recoveredTrial trial).state := by
    intro key trial' found
    obtain ⟨resolved, held, equal⟩ := forget_trial same found
    simp only [ExperimentRecord.recovered, OrderedMap.find?_mapValues, reopened] at held
    obtain ⟨trial, before, rfl⟩ := Option.map_eq_some_iff.mp held
    have fixed := congrArg TrialRecord.fixed equal
    have count := congrArg TrialRecord.attemptCount equal
    have state := congrArg TrialRecord.state equal
    refine ⟨trial, before, ?_, ?_, state.symm⟩
    · refine fixed.symm.trans ?_
      unfold ExperimentRecord.recoveredTrial ExperimentRecord.resolvedTrial
      split
      · rfl
      · split <;> rfl
    · refine count.symm.trans ?_
      unfold ExperimentRecord.recoveredTrial ExperimentRecord.resolvedTrial
      split
      · rfl
      · split <;> rfl
  -- An open trial is one that recovery made ready.
  have resumed : ∀ key trial', after.trials.find? key = some trial' →
      isTerminal trial'.state = false → ∃ trial, record.trials.find? key = some trial ∧
        trial'.fixed = trial.fixed ∧ trial'.attemptCount = trial.attemptCount ∧
          isTerminal trial.state = false ∧ record.resumable trial = true := by
    intro key trial' found isOpen
    obtain ⟨trial, before, fixed, count, state⟩ := lookup key trial' found
    rw [state] at isOpen
    unfold ExperimentRecord.recoveredTrial at isOpen
    split at isOpen
    · rename_i closed
      rw [closed] at isOpen
      cases isOpen
    · rename_i wasOpen
      unfold ExperimentRecord.resolvedTrial at isOpen
      split at isOpen
      · rename_i resumable
        exact ⟨trial, before, fixed, count, by simpa using wasOpen, resumable⟩
      · cases isOpen
  have budgeted : ∀ trial, record.resumable trial = true →
      trial.attemptCount < record.definition.maxAttemptsPerTrial := by
    intro trial resumable
    simp only [ExperimentRecord.resumable, Bool.and_eq_true, decide_eq_true_eq] at resumable
    exact resumable.1.1.1
  refine ⟨by rw [definition]; exact prepared.budget, by rw [state]; exact prepared.settled, ?_, ?_⟩
  · intro key trial' found ready
    obtain ⟨trial, before, -, count, isOpen, resumable⟩ :=
      resumed key trial' found (by rw [ready]; rfl)
    rw [definition, count]
    exact ⟨budgeted trial resumable, fun policy =>
      unclaimed key trial before isOpen policy resumable⟩
  · intro opened key trial' found waiting
    obtain ⟨trial, before, fixed, count, isOpen, resumable⟩ := resumed key trial' found waiting.1
    refine (KeepsCurrency.ofDefinition definition).current found waiting fixed ?_
    refine prepared.current (state ▸ opened) key trial before ⟨isOpen, ?_⟩
    by_cases policy : record.definition.retryPolicy = .noRetry
    · exact .inl (unclaimed key trial before isOpen policy resumable)
    · exact .inr ((retryable_iff record trial).mpr ⟨policy, budgeted trial resumable⟩)

/-! ## Runs -/

theorem validateSpec_attempts [MetricReal R] {spec : ExperimentSpec R} {limits : Limits}
    (accepted : validateSpec spec limits = .ok ()) : spec.maxAttemptsPerTrial ≠ 0 := by
  simp only [validateSpec, sequence_cons_eq_ok] at accepted
  obtain ⟨-, -, -, -, -, -, -, -, -, -, -, -, -, -, attempts, -⟩ := accepted
  rw [require_eq_ok, Bool.and_eq_true, decide_eq_true_eq] at attempts
  exact attempts.1

/-- A failure that invalidates the branch of its trial is not retried, and no other trial of the
branch waits to be claimed or retried. -/
def Coordinator.FailsCleanly (c : Coordinator R) (failure : FailTrialRequest) : Prop :=
  ∀ check, c.failTrialGuard failure = .ok check →
    check.record.definition.partialFailurePolicy = .invalidateBranch →
      ¬ (failure.retryable = true ∧ check.record.retryable check.trial = true) ∧
        ∀ key trial, check.record.trials.find? key = some trial → key ≠ failure.envelope.trial →
          trial.branch = check.trial.branch → ¬ check.record.Waiting trial

/-- No experiment without retries holds an open trial that was claimed before and that recovery would
resume. -/
def CoordinatorState.RecoversCleanly (state : CoordinatorState R) : Prop :=
  ∀ id record key trial, state.experiments.find? id = some record →
    record.trials.find? key = some trial → isTerminal trial.state = false →
      record.definition.retryPolicy = .noRetry → record.resumable trial = true →
        trial.attemptCount = 0

/-- The condition on the steps of a run: failures and recoveries leave no ready trial behind. -/
def LeavesNoneBehind : World R → Event R → Prop
  | .running c, .request (.failTrial failure) _ => c.FailsCleanly failure
  | .down image, .start config _ => (Coordinator.origin config image).RecoversCleanly
  | _, _ => True

section Runs

variable [MetricReal R] [CanonicalDigests R]

theorem Effect.prepared {c : Coordinator R} {experiment : ExperimentId}
    {record after : ExperimentRecord R} {marks : Watermarks} {request : Request R}
    (effect : Effect c experiment record marks request after) (prepared : Prepared record)
    (clean : ∀ failure, request = .failTrial failure → c.FailsCleanly failure) :
    Prepared after := by
  have rule := effect.keepsRetryRule
  refine prepared.carry rule effect.continues (fun opened => ?_)
    (effect.keepsCurrency (fun _ waiting => waiting.1) ?_)
  · rcases effect.keepsAuthority with ended | keeps
    · exact .inr ended
    · exact .inl (keeps.opened opened)
  · rintro failure check rfl guarded ⟨invalidates, key, trial, found, waiting, here⟩
    cases effect with
    | @fail _ branch failed attempt named accepted =>
        obtain rfl := Except.ok.inj (accepted.symm.trans guarded)
        obtain ⟨-, -, -, -, admitted⟩ :=
          (c.checkEnvelope_eq_ok _ _).mp (Coordinator.failTrialGuard_ok guarded).1
        have policy : record.definition.partialFailurePolicy = .invalidateBranch := by
          rw [← invalidates]
          exact (fail_policy ..).symm
        obtain ⟨notRetried, nobody⟩ := clean failure rfl _ guarded policy
        rw [fail_trials] at found
        rcases OrderedMap.find?_modify_cases found with ⟨-, before, held, rfl⟩ | ⟨other, found⟩
        · obtain rfl := Option.some.inj (admitted.trialFound.symm.trans held)
          have ended : (failure.retryable && record.retryable failed) = false := by
            simpa using notRetried
          have isOpen := waiting.1
          rw [ended] at isOpen
          cases isOpen
        · refine nobody key trial found other here ⟨waiting.1, waiting.2.imp id fun again => ?_⟩
          unfold ExperimentRecord.retryable at again ⊢
          rwa [rule.1, rule.2.1] at again

/-- Being prepared is kept by every step that leaves no ready trial behind. -/
theorem prepared_invariant : RecordInvariant LeavesNoneBehind (@Prepared R) where
  logged := fun prepared => prepared.trials rfl rfl (.refl (.refl _))
  created := by
    rintro spec limits marks expected branches _ sequence accepted branched rfl valid
    refine ⟨validateSpec_attempts accepted, by simp [ExperimentSpec.record], ?_, ?_⟩
    · intro key trial found
      simp [ExperimentSpec.record] at found
    · intro opened key trial found
      simp [ExperimentSpec.record] at found
  changed := by
    intro c request fault experiment record after marks marks' meets effect _ prepared
    refine effect.prepared prepared ?_
    rintro failure rfl
    exact meets
  added := by
    intro c experiment branchId payload record branch guarded prepared
    have allowed := Coordinator.createTrialGuard_ok guarded
    exact prepared.addTrial _ allowed.branchFound allowed.active _ _ _
  issued := fun _ trialFound claimable _ _ prepared =>
    prepared.issue trialFound (claimable_ready claimable) _ _
  lost := by
    intro record marks worker boot kind attemptDetail trialDetail line sequence _ prepared
    obtain ⟨state, definition⟩ := loseWorker_fields worker boot kind attemptDetail trialDetail
      sequence line record
    exact prepared.trials state definition (loseWorker_continues ..)
  staged := fun sequence prepared => prepared.stage sequence
  recovered := by
    intro image config outcomes id record after meets found same _ prepared
    exact prepared.recovered same fun key trial held isOpen policy resumable =>
      meets id record key trial found held isOpen policy resumable

/-- Throughout every run whose failures and recoveries leave no ready trial behind, every ready trial
of an open experiment passes the eligibility tests of the claim loop, and is issued as long as its
experiment has room for another attempt. -/
theorem ready_trials_eligible {path : Text} {events : List (Event R)} {c : Coordinator R}
    (run : Run (fun source event target => LeavesNoneBehind source event ∧
      World.Step path source event target) (.down none) events (.running c))
    {experiment : ExperimentId} {record : ExperimentRecord R} {key : TrialId} {trial : TrialRecord}
    (found : c.findExperiment experiment = some record) (opened : record.state = .opened)
    (held : record.trials.find? key = some trial) (ready : trial.state = .ready) :
    record.Eligible trial ∧
      (record.attempts.size < record.trials.size * c.limits.maxAttemptsPerTrial + 16 →
        ∃ branch, record.claimable c.limits trial = some branch) := by
  obtain ⟨-, prepared, -⟩ := prepared_invariant.durable.run run
  have eligible := (prepared experiment record found).eligible opened held ready
  exact ⟨eligible, eligible.claimable ready c.limits⟩

end Runs

namespace Sample

/-- The sample experiment without retries. -/
def onceSpec : ExperimentSpec ℚ := { spec with retryPolicy := .noRetry }

/-- Create the experiment without retries and one trial, register the worker and claim the trial. -/
def claimingOnce : List (Request ℚ × Option SaveFault) :=
  [(.createExperiment onceSpec, none), (.createTrial experiment candidate [], none),
    (.registerWorker { worker, boot }, none),
    (.claimTrials { epoch := coordinator.epoch, worker, boot }, none)]

/-- The coordinator that holds the created trial. -/
def created : Coordinator ℚ := coordinator.session (claiming.take 2)

/-- The coordinator started after the claimed trial of the experiment without retries was lost. -/
def resumed : Option (CoordinatorState ℚ) × Result (Coordinator ℚ) :=
  Coordinator.create config (coordinator.session claimingOnce).image fun _ => none

/-- The first trial of the sample experiment. -/
def firstTrial (c : Coordinator ℚ) : Option (ExperimentRecord ℚ × TrialRecord) := do
  let record ← c.findExperiment experiment
  let trial ← record.trials.find? trial
  return (record, trial)

end Sample

/-- The created trial of the sample is eligible. -/
theorem ready_trials_eligible_sample : ∃ record trial,
    Sample.created.findExperiment Sample.experiment = some record ∧
      record.trials.find? Sample.trial = some trial ∧ record.Eligible trial := by
  have started : Run (fun source event target => LeavesNoneBehind source event ∧
      World.Step Sample.config.statePath source event target) (.down none)
      [.start Sample.config fun _ => none] (.running Sample.coordinator) := by
    refine .single ⟨fun id record key trial found => ?_, .start rfl Sample.coordinator_started⟩
    cases found
  have run := started.append (Sample.coordinator.session_run_of Sample.config.statePath
    (Sample.claiming.take 2) (by
      intro request member reached
      rcases List.mem_cons.mp member with rfl | member
      · trivial
      · rw [List.mem_singleton.mp member]
        trivial))
  have facts : (Sample.firstTrial Sample.created).any (fun found =>
      found.1.state = .opened && found.2.state = .ready) = true := by decide +kernel
  cases lookup : Sample.created.state.experiments.find? Sample.experiment with
  | none => simp [Sample.firstTrial, lookup] at facts
  | some record =>
      cases held : record.trials.find? Sample.trial with
      | none => simp [Sample.firstTrial, lookup, held] at facts
      | some trial =>
          simp [Sample.firstTrial, lookup, held] at facts
          exact ⟨record, trial, lookup, held,
            (ready_trials_eligible run lookup facts.1 held facts.2).1⟩

/-- Recovery makes a claimed trial of an experiment without retries ready, and no claim takes it. -/
theorem resumed_trial_stranded : ∃ (c : Coordinator ℚ) (record : ExperimentRecord ℚ)
    (trial : TrialRecord), (World.running c).Reachable Sample.config.statePath ∧
      c.findExperiment Sample.experiment = some record ∧ record.state = .opened ∧
      record.trials.find? Sample.trial = some trial ∧ trial.state = .ready ∧
      ¬ record.Eligible trial := by
  have facts : (Sample.resumed.2.toOption.bind Sample.firstTrial).any (fun found =>
      found.1.state = .opened && found.2.state = .ready &&
        found.1.definition.retryPolicy = .noRetry && found.2.attemptCount ≠ 0) = true := by
    decide +kernel
  cases result : Sample.resumed with
  | mk left outcome =>
      cases outcome with
      | error failure => simp [result, Except.toOption] at facts
      | ok c =>
          have reachable : (World.running c).Reachable Sample.config.statePath :=
            ((Sample.coordinator_reachable.session Sample.claimingOnce).step (.stop _)).start rfl
              result
          cases lookup : c.state.experiments.find? Sample.experiment with
          | none => simp [result, Except.toOption, Sample.firstTrial, lookup] at facts
          | some record =>
              cases held : record.trials.find? Sample.trial with
              | none => simp [result, Except.toOption, Sample.firstTrial, lookup, held] at facts
              | some trial =>
                  simp [result, Except.toOption, Sample.firstTrial, lookup, held] at facts
                  obtain ⟨⟨⟨opened, ready⟩, policy⟩, claimed⟩ := facts
                  exact ⟨c, record, trial, reachable, lookup, opened, held, ready,
                    fun eligible => claimed (eligible.retry policy)⟩

end ExperimentFabric
