import ExperimentFabric.ArtifactCurrency
import ExperimentFabric.Revival

/-!
# The policy on failures

Under the policy that invalidates branches, no active branch keeps a failed trial of the current
generations and revision.  The reports of workers apply the policy, even when the trial is retried.
Lost incarnations, recoveries and rollbacks do not, so a run follows the policy exactly when none of
them leaves such a trial behind and no report is retried.
-/

namespace ExperimentFabric

open Lib Relation

variable {R : Type}

/-- The trial is on an active branch, at the current generations and revision. -/
structure ExperimentRecord.Relevant (record : ExperimentRecord R) (trial : TrialRecord) : Prop where
  generation : trial.generation = record.definition.generation
  hypothesisRevision : trial.hypothesisRevision = record.definition.hypothesisRevision
  branch : ∃ branch, record.findBranch trial.branch = some branch ∧ branch.state = .active ∧
    branch.generation = trial.branchGeneration

/-- If failures invalidate branches, no relevant trial is failed. -/
def ExperimentRecord.FailuresApplied (record : ExperimentRecord R) : Prop :=
  record.definition.partialFailurePolicy = .invalidateBranch →
    ∀ key trial, record.trials.find? key = some trial → trial.state = .failed →
      ¬ record.Relevant trial

/-- A trial that is failed now was failed before. -/
def ExperimentRecord.FailsNone (record after : ExperimentRecord R) : Prop :=
  ∀ key trial', after.trials.find? key = some trial' → trial'.state = .failed →
    ∃ trial, record.trials.find? key = some trial ∧ trial.state = .failed ∧
      trial'.fixed = trial.fixed

section Records

variable {record after : ExperimentRecord R} {trial trial' : TrialRecord}

theorem ExperimentRecord.Relevant.of_fixed (relevant : record.Relevant trial)
    (fixed : trial'.fixed = trial.fixed) : record.Relevant trial' where
  generation := (congrArg TrialRecord.generation fixed).trans relevant.generation
  hypothesisRevision :=
    (congrArg TrialRecord.hypothesisRevision fixed).trans relevant.hypothesisRevision
  branch := by
    obtain ⟨branch, found, active, generation⟩ := relevant.branch
    refine ⟨branch, ?_, active, ?_⟩
    · rwa [TrialRecord.branch_of_fixed fixed]
    · exact generation.trans (congrArg TrialRecord.branchGeneration fixed).symm

theorem ExperimentRecord.relevant_congr (definition : after.definition = record.definition)
    (trial : TrialRecord) : after.Relevant trial ↔ record.Relevant trial := by
  constructor
  · rintro ⟨generation, revision, branch⟩
    unfold ExperimentRecord.findBranch at branch
    rw [definition] at generation revision branch
    exact ⟨generation, revision, branch⟩
  · rintro ⟨generation, revision, branch⟩
    unfold ExperimentRecord.findBranch at branch
    rw [← definition] at generation revision branch
    exact ⟨generation, revision, branch⟩

/-- A trial is relevant only if it was, unless its branch was made active. -/
theorem KeepsAuthority.relevant (keeps : KeepsAuthority record after)
    (known : (record.findBranch trial.branch).isSome = true) (relevant : after.Relevant trial) :
    record.Relevant trial where
  generation := relevant.generation.trans keeps.generation
  hypothesisRevision := relevant.hypothesisRevision.trans keeps.hypothesisRevision
  branch := by
    obtain ⟨branch', found', active', generation'⟩ := relevant.branch
    obtain ⟨branch, found, active, same⟩ := keeps.branch _ branch' known found' active'
    exact ⟨branch, found, active, same.trans generation'⟩

theorem ExperimentRecord.FailuresApplied.keep {experiment : ExperimentId}
    (applied : record.FailuresApplied) (placed : Placed experiment record)
    (keeps : KeepsAuthority record after)
    (policy : after.definition.partialFailurePolicy = record.definition.partialFailurePolicy)
    (failsNone : record.FailsNone after) : after.FailuresApplied := by
  intro invalidates key trial' found' failed' relevant
  obtain ⟨trial, found, failed, fixed⟩ := failsNone key trial' found' failed'
  have known := placed.branch key trial found
  exact applied (policy ▸ invalidates) key trial found failed
    (keeps.relevant known (relevant.of_fixed fixed.symm))

/-- Nothing but trials that did not fail was changed. -/
theorem ExperimentRecord.FailuresApplied.same (applied : record.FailuresApplied)
    (definition : after.definition = record.definition) (failsNone : record.FailsNone after) :
    after.FailuresApplied := by
  intro invalidates key trial' found' failed' relevant
  obtain ⟨trial, found, failed, fixed⟩ := failsNone key trial' found' failed'
  rw [definition] at invalidates
  exact applied invalidates key trial found failed
    (((relevant_congr definition trial).mp (relevant.of_fixed fixed.symm)))

end Records

/-! ## Lost incarnations, recovery and rollbacks -/

/-- Relevant trials in the hands of the incarnations can be retried. -/
def ExperimentRecord.Survives (lost : WorkerId → WorkerBootId → Prop)
    (record : ExperimentRecord R) : Prop :=
  record.definition.partialFailurePolicy = .invalidateBranch →
    ∀ key trial, record.trials.find? key = some trial → record.HeldBy lost key →
      record.Relevant trial → record.retryable trial = true

/-- Relevant trials that a recovery interrupts have an attempt left, in an experiment that may still
change. -/
def ExperimentRecord.Resumes (record : ExperimentRecord R) : Prop :=
  record.definition.partialFailurePolicy = .invalidateBranch →
    ∀ key trial, record.trials.find? key = some trial → isTerminal trial.state = false →
      record.Relevant trial → trial.attemptCount < record.definition.maxAttemptsPerTrial ∧
        isExperimentMutable record.reopened.state = true

/-- The rollback point makes no branch active on which a trial of its generations has failed. -/
def ExperimentRecord.RestoresClean (record : ExperimentRecord R) (chosen : RollbackPoint) : Prop :=
  record.definition.partialFailurePolicy = .invalidateBranch →
    ∀ key trial, record.trials.find? key = some trial → trial.state = .failed →
      trial.generation = chosen.generation →
        trial.hypothesisRevision = record.definition.hypothesisRevision →
          ∀ snapshot ∈ chosen.authority, snapshot.branch = trial.branch →
            snapshot.generation = trial.branchGeneration → snapshot.state ≠ .active

section Records

variable {record after : ExperimentRecord R}

/-- A loss follows the policy exactly when every relevant trial survives it. -/
theorem ExperimentRecord.Loses.failuresApplied_iff {lost : WorkerId → WorkerBootId → Prop}
    (loses : record.Loses lost after) (carries : Carries record after)
    (applied : record.FailuresApplied) : after.FailuresApplied ↔ record.Survives lost := by
  constructor
  · intro applied' invalidates key trial found held relevant
    by_contra final
    rw [Bool.not_eq_true] at final
    obtain ⟨trial', found', state⟩ := loses.released key trial found held
    obtain ⟨same, lookup, fixed⟩ := carries.trials.extends_ key trial found
    obtain rfl := Option.some.inj (found'.symm.trans lookup)
    rw [ExperimentRecord.releasedState, final] at state
    rw [← loses.definition] at invalidates
    exact applied' invalidates key trial' found' state
      ((relevant_congr loses.definition trial').mpr (relevant.of_fixed fixed))
  · intro survives invalidates key trial' found' failed' relevant'
    rw [loses.definition] at invalidates
    obtain ⟨trial, found, fixed⟩ := carries.trials.source found'
    have relevant : record.Relevant trial :=
      (relevant_congr loses.definition trial).mp (relevant'.of_fixed fixed.symm)
    by_cases held : record.HeldBy lost key
    · obtain ⟨same, lookup, state⟩ := loses.released key trial found held
      obtain rfl := Option.some.inj (found'.symm.trans lookup)
      rw [ExperimentRecord.releasedState, survives invalidates key trial found held relevant,
        failed'] at state
      cases state
    · obtain rfl := Option.some.inj (found'.symm.trans (loses.spared key trial found held))
      exact applied invalidates key trial' found failed' relevant

/-- A relevant trial can be resumed when it has an attempt left and the experiment may change. -/
theorem ExperimentRecord.Relevant.resumable_iff {trial : TrialRecord}
    (relevant : record.Relevant trial) :
    record.reopened.resumable trial = true ↔
      trial.attemptCount < record.definition.maxAttemptsPerTrial ∧
        isExperimentMutable record.reopened.state = true := by
  obtain ⟨branch, found, active, generation⟩ := relevant.branch
  have lookup : record.reopened.findBranch trial.branch = some branch := found
  have current : trial.generation = record.reopened.definition.generation := relevant.generation
  unfold ExperimentRecord.resumable
  rw [lookup]
  simp only [Option.any_some, active, generation, current, isBranchEligible, decide_true,
    Bool.and_true, Bool.and_eq_true, decide_eq_true_eq]
  exact Iff.rfl

/-- A recovery follows the policy exactly when every relevant trial is resumed. -/
theorem recovered_failuresApplied_iff (same : after.forget = record.recovered.forget)
    (applied : record.FailuresApplied) : after.FailuresApplied ↔ record.Resumes := by
  have definition : after.definition = record.definition :=
    congrArg (fun forgotten => forgotten.definition) same
  have carries := recovered_carries same
  have recovered : ∀ key trial trial', record.trials.find? key = some trial →
      after.trials.find? key = some trial' →
        trial'.state = (record.reopened.recoveredTrial trial).state := by
    intro key trial trial' found found'
    obtain ⟨other, lookup, equal⟩ := forget_trial same found'
    have resolved : record.recovered.trials.find? key =
        some (record.reopened.recoveredTrial trial) := by
      simp [ExperimentRecord.recovered, found, ExperimentRecord.reopened]
    obtain rfl := Option.some.inj (resolved.symm.trans lookup)
    exact (congrArg TrialRecord.state equal).symm
  constructor
  · intro applied' invalidates key trial found isOpen relevant
    rw [← relevant.resumable_iff]
    by_contra final
    obtain ⟨trial', found', fixed⟩ := carries.trials.extends_ key trial found
    have state := recovered key trial trial' found found'
    rw [ExperimentRecord.recoveredTrial, isOpen, ExperimentRecord.resolvedTrial,
      if_neg final] at state
    rw [← definition] at invalidates
    exact applied' invalidates key trial' found' state
      ((ExperimentRecord.relevant_congr definition trial').mpr (relevant.of_fixed fixed))
  · intro resumes invalidates key trial' found' failed' relevant'
    rw [definition] at invalidates
    obtain ⟨trial, found, fixed⟩ := carries.trials.source found'
    have relevant : record.Relevant trial :=
      (ExperimentRecord.relevant_congr definition trial).mp (relevant'.of_fixed fixed.symm)
    have state := recovered key trial trial' found found'
    rw [failed', ExperimentRecord.recoveredTrial] at state
    cases isOpen : isTerminal trial.state with
    | true =>
        rw [isOpen] at state
        exact applied invalidates key trial found state.symm relevant
    | false =>
        have resumable := relevant.resumable_iff.mpr
          (resumes invalidates key trial found isOpen relevant)
        rw [isOpen, ExperimentRecord.resolvedTrial, if_pos resumable] at state
        cases state

theorem stage_failsNone (record : ExperimentRecord R) (sequence : Nat) :
    record.FailsNone (record.stage sequence).2 := by
  intro key trial' found' failed'
  obtain ⟨trial, found, staged⟩ :=
    (stage_trials_evolve record sequence stageTrial_staged).source found'
  have closed : isTerminal trial.state = true := by
    by_contra isOpen
    have revalidating := staged.staged (by simpa using isOpen)
    rw [failed'] at revalidating
    cases revalidating
  obtain rfl := staged.closed closed
  exact ⟨trial', found, failed', rfl⟩

end Records

section Rollback

variable [CanonicalDigests R] {record : ExperimentRecord R} {chosen : RollbackPoint}

/-- A rollback follows the policy exactly when its point makes no branch with failures active. -/
theorem rollback_failuresApplied_iff {experiment : ExperimentId}
    (placed : Placed experiment record)
    (distinct : (chosen.authority.map BranchAuthoritySnapshot.branch).Nodup)
    (point : RollbackPointId) (reason : Text) (sequence : Nat) :
    (record.rollback experiment chosen point reason sequence).FailuresApplied ↔
      record.RestoresClean chosen := by
  have lookup : ∀ id, (record.rollback experiment chosen point reason sequence).findBranch id =
      (record.findBranch id).map (restoredBranch chosen.authority) :=
    fun id => find?_restoreBranches distinct record.definition.branches id
  have failed_iff : ∀ {key : TrialId} {trial : TrialRecord},
      (record.rollback experiment chosen point reason sequence).trials.find? key = some trial ∧
        trial.state = .failed ↔ record.trials.find? key = some trial ∧ trial.state = .failed :=
    rollback_ended experiment chosen point reason sequence rfl (by decide)
  constructor
  · intro applied invalidates key trial found failed generation revision snapshot member named
      numbered active
    obtain ⟨found', -⟩ := failed_iff.mpr ⟨found, failed⟩
    refine applied invalidates key trial found' failed ⟨generation, revision, ?_⟩
    obtain ⟨branch, known⟩ := Option.isSome_iff_exists.mp (placed.branch key trial found)
    have restored := restoredBranch_listed distinct member
      ((ExperimentRecord.findBranch_id known).trans named.symm)
    refine ⟨restoredBranch chosen.authority branch, ?_, ?_, ?_⟩
    · rw [lookup, known, Option.map_some]
    · rw [restored]
      exact active
    · rw [restored]
      exact numbered
  · rintro clean invalidates key trial found' failed ⟨generation, revision, branch', held,
      active, numbered⟩
    obtain ⟨found, -⟩ := failed_iff.mp ⟨found', failed⟩
    rw [lookup] at held
    obtain ⟨branch, known, rfl⟩ := Option.map_eq_some_iff.mp held
    have named := ExperimentRecord.findBranch_id known
    by_cases listed : branch.id ∈ chosen.authority.map BranchAuthoritySnapshot.branch
    · obtain ⟨snapshot, member, same⟩ := List.mem_map.mp listed
      rw [restoredBranch_listed distinct member same.symm] at active numbered
      exact clean invalidates key trial found failed generation revision snapshot member
        (same.trans named) numbered active
    · rw [restoredBranch, if_neg listed] at active
      exact retireUnknown_inactive branch active

end Rollback

/-! ## Reported failures -/

section Failures

variable {record : ExperimentRecord R} {trial : TrialRecord} {trialKey : TrialId}
  {attemptKey : TrialAttemptId} {attempt : AttemptRecord} (kind : FailureKind) (detail : Text)
  (retry : Bool) (sequence : Nat)

theorem TrialRecord.release_fixed (trial : TrialRecord) :
    (trial.release retry kind detail sequence).fixed = trial.fixed := by
  unfold TrialRecord.release
  split <;> rfl

theorem find?_fail (record : ExperimentRecord R) (trial : TrialRecord) (trialKey : TrialId)
    (attemptKey : TrialAttemptId) (kind : FailureKind) (detail : Text) (retry : Bool)
    (sequence : Nat) (key : TrialId) :
    (record.fail trial trialKey attemptKey kind detail retry sequence).trials.find? key =
      if key = trialKey then (record.trials.find? trialKey).map fun current =>
        current.release (retry && record.retryable current) kind detail sequence
      else record.trials.find? key := by
  rw [fail_trials, OrderedMap.find?_modify]
  by_cases here : key = trialKey
  · simp only [if_pos here]
  · simp only [if_neg here]

/-- A reported failure leaves the branch of the trial invalid, if failures invalidate branches. -/
theorem fail_findBranch (trialKey : TrialId) (attemptKey : TrialAttemptId) (kind : FailureKind)
    (detail : Text) (retry : Bool) (sequence : Nat)
    (invalidates : record.definition.partialFailurePolicy = .invalidateBranch)
    {branch : BranchDefinition} (found : record.findBranch trial.branch = some branch)
    (active : branch.state = .active) :
    (record.fail trial trialKey attemptKey kind detail retry sequence).findBranch trial.branch =
      some { branch with state := .invalid } := by
  unfold ExperimentRecord.fail ExperimentRecord.invalidateBranch
  dsimp only
  rw [if_pos invalidates]
  have known : ({ record with
      attempts := record.attempts.modify attemptKey (·.finish .failed kind detail sequence)
      trials := record.trials.modify trialKey fun current =>
        current.release (retry && record.retryable current) kind detail sequence } :
          ExperimentRecord R).findBranch trial.branch = some branch := found
  have allowed : branch.state.isValidTransition .invalid = true := by
    rw [active]
    rfl
  simp only [known, allowed, if_true]
  simp only [ExperimentRecord.log, ExperimentRecord.findBranch]
  rw [ExperimentRecord.find?_updateBranch]
  · rw [if_pos rfl, show record.definition.branches.find? (·.id = trial.branch) = some branch
      from found]
    rfl
  · exact fun _ => rfl

theorem fail_keepsAuthority :
    KeepsAuthority record (record.fail trial trialKey attemptKey kind detail retry sequence) := by
  unfold ExperimentRecord.fail
  apply invalidateBranch_keepsAuthority <;> rfl

/-- A reported failure follows the policy. -/
theorem ExperimentRecord.FailuresApplied.fail {experiment : ExperimentId}
    (applied : record.FailuresApplied) (placed : Placed experiment record)
    (trialFound : record.trials.find? trialKey = some trial) :
    (record.fail trial trialKey attemptKey kind detail retry sequence).FailuresApplied := by
  intro invalidates key trial' found' failed' relevant'
  rw [fail_policy] at invalidates
  have keeps : KeepsAuthority record
      (record.fail trial trialKey attemptKey kind detail retry sequence) :=
    fail_keepsAuthority kind detail retry sequence
  rw [find?_fail] at found'
  split at found'
  · -- The branch of the trial was active, so the report has made it invalid.
    rw [trialFound, Option.map_some] at found'
    obtain rfl := Option.some.inj found'
    obtain ⟨branch', held, active', -⟩ :=
      (relevant'.of_fixed (TrialRecord.release_fixed ..).symm).branch
    obtain ⟨branch, known, active, -⟩ :=
      keeps.branch _ branch' (placed.branch trialKey trial trialFound) held active'
    rw [fail_findBranch trialKey attemptKey kind detail retry sequence invalidates known
      active] at held
    obtain rfl := Option.some.inj held
    exact nomatch active'
  · have known := placed.branch key trial' found'
    exact applied invalidates key trial' found' failed' (keeps.relevant known relevant')

end Failures

/-! ## Revisions -/

/-- The definition names the latest revision of the hypothesis, and no trial names a later one. -/
structure ExperimentRecord.Revised (record : ExperimentRecord R) : Prop where
  latest : record.definition.hypothesisRevision = record.hypothesis.revision
  trials : ∀ key trial, record.trials.find? key = some trial →
    trial.hypothesisRevision.value ≤ record.hypothesis.revision.value

/-- The revision is kept, or it is a later one that the definition names. -/
def ExperimentRecord.Revises (record after : ExperimentRecord R) : Prop :=
  after.definition.hypothesisRevision = record.definition.hypothesisRevision ∧
      after.hypothesis.revision = record.hypothesis.revision ∨
    after.definition.hypothesisRevision = after.hypothesis.revision ∧
      record.hypothesis.revision.value ≤ after.hypothesis.revision.value

theorem ExperimentRecord.Revised.step {record after : ExperimentRecord R} (revised : record.Revised)
    (revises : record.Revises after) (carries : Carries record after) : after.Revised := by
  have later : record.hypothesis.revision.value ≤ after.hypothesis.revision.value := by
    rcases revises with ⟨-, same⟩ | ⟨-, later⟩
    · exact same ▸ le_rfl
    · exact later
  refine ⟨?_, fun key trial' found' => ?_⟩
  · rcases revises with ⟨definition, same⟩ | ⟨latest, -⟩
    · rw [definition, same, revised.latest]
    · exact latest
  · obtain ⟨trial, found, fixed⟩ := carries.trials.source found'
    have same := congrArg (fun fixed => fixed.hypothesisRevision.value) fixed
    exact (show trial'.hypothesisRevision.value = trial.hypothesisRevision.value from same).le.trans
      ((revised.trials key trial found).trans later)

section Revisions

variable [MetricReal R] [CanonicalDigests R]

theorem Move.revises {experiment : ExperimentId} {record after : ExperimentRecord R}
    (move : Move experiment record after) : record.Revises after := by
  cases move with
  | revise spec sequence opened => exact .inr ⟨rfl, Nat.le_succ _⟩
  | reject kind identifier verdict =>
      obtain ⟨rejected, same⟩ := reject_frame record kind identifier verdict
      rw [same]
      exact .inl ⟨rfl, rfl⟩
  | @observe trialKey attemptKey trial attempt opened live sequence =>
      obtain ⟨trials, attempts, same⟩ :=
        observe_frame record trial attempt trialKey attemptKey sequence
      rw [same]
      exact .inl ⟨rfl, rfl⟩
  | fail opened live kind detail retry sequence =>
      obtain ⟨branches, lines, same, -⟩ := fail_frame record _ _ _ _ _ _ _
      rw [same]
      exact .inl ⟨rfl, rfl⟩
  | _ => exact .inl ⟨rfl, rfl⟩

theorem moves_revised {experiment : ExperimentId} {record after : ExperimentRecord R}
    (moves : ReflTransGen (Move experiment) record after) (revised : record.Revised) :
    after.Revised := by
  induction moves with
  | refl => exact revised
  | tail _ last ih => exact ih.step last.revises last.rewritten.carries

theorem revised_invariant :
    RecordInvariant (fun _ _ => True) (ExperimentRecord.Revised : ExperimentRecord R → Prop) where
  logged := fun revised => ⟨revised.latest, revised.trials⟩
  created := by
    rintro spec limits marks expected branches _ sequence - - rfl -
    exact ⟨rfl, fun key trial found => nomatch found⟩
  changed := fun _ effect _ revised => moves_revised effect.moves revised
  added := by
    intro c experiment branchId payload record branch guarded revised
    refine ⟨revised.latest, fun key trial found => ?_⟩
    rcases ExperimentRecord.find?_addTrial found with held | ⟨-, rfl⟩
    · exact revised.trials key trial held
    · exact (congrArg StrongId.value revised.latest).le
  issued := by
    intro record limits key trial branch marks id worker boot epoch producer sequence _ found _ _ _
      revised
    refine ⟨revised.latest, fun other held lookup => ?_⟩
    rcases ExperimentRecord.find?_issue_trial lookup with ⟨rfl, before, there, rfl⟩ | ⟨-, there⟩
    · exact revised.trials other before there
    · exact revised.trials other held there
  lost := by
    intro record marks worker boot kind attemptDetail trialDetail line sequence _ revised
    have carries := (loseWorker_rewritten worker boot kind attemptDetail trialDetail sequence line
      record).carries
    refine revised.step ?_ carries
    obtain ⟨trials, attempts, lines, same⟩ :=
      loseWorker_frame worker boot kind attemptDetail trialDetail sequence line record
    rw [same]
    exact .inl ⟨rfl, rfl⟩
  staged := by
    intro record sequence revised
    refine revised.step ?_ (stage_carries record sequence)
    rw [stage_forget_fields record sequence]
    exact .inl ⟨rfl, rfl⟩
  recovered := by
    intro image config outcomes id record after _ _ same _ revised
    refine revised.step (.inl ⟨?_, ?_⟩) (recovered_carries same)
    · exact congrArg (fun forgotten => forgotten.definition.hypothesisRevision) same
    · exact congrArg (fun forgotten => forgotten.hypothesis.revision) same

end Revisions

/-! ## What requests do -/

/-- The request leaves no relevant trial failed, and retries none whose branch it invalidates. -/
def Coordinator.AppliesPolicy (c : Coordinator R) : Request R → Prop
  | .failTrial request => ∀ check, c.failTrialGuard request = .ok check →
      check.record.definition.partialFailurePolicy = .invalidateBranch →
        request.retryable = true → check.record.retryable check.trial = false
  | .rollback experiment target _ => ∀ record chosen,
      c.rollbackGuard experiment target = .ok (record, chosen) → record.RestoresClean chosen
  | request => c.state.Every (ExperimentRecord.Survives (c.Loses request))

theorem Request.TrialMove.failed {request : Request R} {state : TrialState}
    (move : request.TrialMove state .failed) : state = .failed := by
  refine Eq.symm ?_
  cases request <;> simpa [Request.TrialMove, OneWay] using move

section Effects

variable [MetricReal R] [CanonicalDigests R] {c : Coordinator R} {experiment : ExperimentId}
  {record after : ExperimentRecord R} {marks : Watermarks} {request : Request R}

/-- Among changes of a record, only a reported failure fails a trial. -/
theorem Effect.failsNone (effect : Effect c experiment record marks request after)
    (notReport : ∀ report, request ≠ .failTrial report) : record.FailsNone after := by
  intro key trial' found' failed'
  obtain ⟨trial, found, kept⟩ := (moves_rewritten effect.moves).trials.source found'
  refine ⟨trial, found, ?_, kept.fixed⟩
  have added : ∀ {report : CommitTrialRequest} {branch : BranchDefinition} {pair : TrialRecord}
      {attempt : AttemptRecord} {registered : ExperimentRecord R},
      c.commitTrialGuard report = .ok ⟨record, branch, pair, attempt⟩ →
        (Coordinator.registerArtifacts report.envelope c.nextSequence
          report.artifacts).1.findExperiment report.envelope.experiment = some registered →
          registered.trials.find? key = some trial' → trial.state = .failed := by
    intro report branch pair attempt registered guarded stored held
    obtain ⟨artifacts, lookup⟩ := (registered_pair guarded stored).trials key trial found
    obtain rfl := Option.some.inj (lookup.symm.trans held)
    exact failed'
  by_cases oneWay : request.oneWay = true
  · obtain ⟨same, lookup, move⟩ := (effect.statesMove oneWay).trials key trial found
    obtain rfl := Option.some.inj (found'.symm.trans lookup)
    rw [failed'] at move
    exact move.failed
  · cases effect with
    | registerArtifacts named guarded refused stored =>
        subst named
        exact added guarded stored found'
    | @commit report branch pair attempt registered named guarded accepted stored =>
        subst named
        have completed : (registered.complete report.envelope.trial report.envelope.attempt
            (c.currentSequence + 1)).trials.find? key = some trial' := found'
        rcases OrderedMap.find?_modify_cases completed with ⟨-, before, -, rfl⟩ | ⟨-, there⟩
        · cases failed'
        · exact added guarded stored there
    | fail named guarded => exact (notReport _ rfl).elim
    | _ => exact (oneWay rfl).elim

/-- A change of a record follows the policy, if its request does. -/
theorem Effect.failuresApplied (effect : Effect c experiment record marks request after)
    (placed : Placed experiment record) (charted : record.Charted) (revised : record.Revised)
    (meets : c.AppliesPolicy request) (applied : record.FailuresApplied) :
    after.FailuresApplied := by
  have carries := (moves_rewritten effect.moves).carries
  rcases effect.authority with keeps | ⟨spec, rfl, guarded, rfl⟩ |
    ⟨target, reason, chosen, rfl, guarded, rfl⟩
  · by_cases reported : ∃ report, request = .failTrial report
    · obtain ⟨report, rfl⟩ := reported
      cases effect with
      | fail named guarded =>
          obtain ⟨-, -, -, -, admitted⟩ :=
            (c.checkEnvelope_eq_ok _ _).mp (Coordinator.failTrialGuard_ok guarded).1
          exact applied.fail _ _ _ _ placed admitted.trialFound
    · have policy := effect.view_fixed ExperimentDefinition.partialFailurePolicy fun _ _ _ _ => rfl
      exact applied.keep placed keeps policy
        (effect.failsNone fun report same => reported ⟨report, same⟩)
  · -- No earlier trial names the new revision.
    intro _ key trial' found' _ relevant
    obtain ⟨trial, found, fixed⟩ := carries.trials.source found'
    have bound := revised.trials key trial found
    have later := congrArg StrongId.value (relevant.of_fixed fixed.symm).hypothesisRevision
    have next : trial.hypothesisRevision.value = record.hypothesis.revision.value + 1 := later
    omega
  · exact (rollback_failuresApplied_iff placed
      (charted.points chosen (Coordinator.rollbackGuard_ok guarded).member) _ _ _).mpr
        (meets record chosen guarded)

end Effects

/-- The request revokes or replaces incarnations of a worker. -/
def Request.losesWork : Request R → Bool
  | .revokeWorker .. | .registerWorker _ => true
  | _ => false

section Requests

variable [MetricReal R] [CanonicalDigests R] {c : Coordinator R} {request : Request R}

theorem failuresApplied_kept {path : Text} (reachable : (World.running c).Reachable path)
    (meets : c.AppliesPolicy request) (spares : request.losesWork = false)
    (old : CoordinatorState R) : RecordsKept c request old ExperimentRecord.FailuresApplied where
  logged := fun applied =>
    applied.same rfl fun key trial found failed => ⟨trial, found, failed, rfl⟩
  created := by
    rintro spec expected branches _ - - - rfl - _ key trial found
    cases found
  changed := by
    intro experiment record after marks effect _ applied
    obtain ⟨-, -, arranged, -⟩ := reachable.sound
    exact effect.failuresApplied (arranged.placed _ record effect.found)
      ((reachable.holds charted_invariant.durable).1 _ record effect.found)
      ((reachable.holds revised_invariant.durable).1 _ record effect.found) meets applied
  added := by
    intro experiment branchId payload record branch guarded life fresh applied
    refine applied.same rfl fun key trial found failed => ?_
    rcases ExperimentRecord.find?_addTrial found with held | ⟨-, rfl⟩
    · exact ⟨trial, held, failed, rfl⟩
    · cases failed
  issued := by
    intro claim live experiment record key trial branch id sequence _ _ _ _ held _ _ _ applied
    refine applied.same rfl fun other trial' found failed => ?_
    rcases ExperimentRecord.find?_issue_trial found with ⟨-, before, -, rfl⟩ | ⟨-, there⟩
    · cases failed
    · exact ⟨trial', there, failed, rfl⟩
  lost := by
    rintro worker boot kind attemptDetail trialDetail line sequence id record
      (⟨reason, rfl⟩ | ⟨registration, rfl, -⟩) - - -
    · cases spares
    · cases spares

/-- Losing work leaves everything about trials as it was issued. -/
theorem StateSteps.carries {new : CoordinatorState R} (steps : StateSteps c request c.state new)
    (loses : request.losesWork = true) :
    OrderedMap.Evolves Carries c.state.experiments new.experiments := by
  have trans : ∀ first second third : ExperimentRecord R, Carries first second →
      Carries second third → Carries first third := fun first second third earlier later =>
    ⟨earlier.trials.trans (fun _ _ _ before after => after.trans before) later.trials,
      earlier.attempts.trans (fun _ _ _ before after => after.trans before) later.attempts⟩
  induction steps with
  | refl => exact .refl .refl
  | tail _ last ih =>
      refine ih.trans trans ?_
      cases last.1 with
      | quiet same workers => exact same ▸ .refl .refl
      | change found effect stored workers => cases effect <;> exact nomatch loses
      | create named => exact nomatch named ▸ loses
      | addTrial named => exact nomatch named ▸ loses
      | addTrialUndone named => exact nomatch named ▸ loses
      | issue named => exact nomatch named ▸ loses
      | lose named stored workers =>
          rw [stored]
          exact .mapValues fun record => (loseWorker_rewritten ..).carries
      | register named guarded fresh identity same workers => exact same ▸ .refl .refl

omit [MetricReal R] [CanonicalDigests R] in
theorem CoordinatorState.Loses.failuresApplied_iff {lost : WorkerId → WorkerBootId → Prop}
    {old new : CoordinatorState R} (loses : old.Loses lost new)
    (carries : OrderedMap.Evolves Carries old.experiments new.experiments)
    (applied : old.Every ExperimentRecord.FailuresApplied) :
    new.Every ExperimentRecord.FailuresApplied ↔ old.Every (ExperimentRecord.Survives lost) := by
  constructor
  · intro applied' id record found
    obtain ⟨after, found', losing⟩ := loses id record found
    obtain ⟨same, lookup, carried⟩ := carries.extends_ id record found
    obtain rfl := Option.some.inj (found'.symm.trans lookup)
    exact (losing.failuresApplied_iff carried (applied id record found)).mp (applied' id after found')
  · intro survives id after found'
    obtain ⟨record, found, carried⟩ := carries.source found'
    obtain ⟨same, lookup, losing⟩ := loses id record found
    obtain rfl := Option.some.inj (found'.symm.trans lookup)
    exact (losing.failuresApplied_iff carried (applied id record found)).mpr
      (survives id record found)

/-- A request that loses work follows the policy exactly when relevant trials survive it. -/
theorem losing_failuresApplied_iff (consistent : c.state.Consistent)
    (loses : request.losesWork = true) (fault : Option SaveFault)
    (applied : c.state.Every ExperimentRecord.FailuresApplied) :
    (c.perform request fault).1.state.Every ExperimentRecord.FailuresApplied ↔
      c.AppliesPolicy request := by
  have carries := StateSteps.carries (c.perform_steps request fault) loses
  cases request with
  | revokeWorker worker boot kind reason =>
      exact (c.revokeWorker_loses consistent worker boot kind reason fault).failuresApplied_iff
        carries applied
  | registerWorker registration =>
      exact (c.registerWorker_loses consistent registration fault).failuresApplied_iff
        carries applied
  | _ => exact nomatch loses

/-! ## Reports -/

theorem failTrial_findExperiment {report : FailTrialRequest} {check : EnvelopeCheck R}
    (guarded : c.failTrialGuard report = .ok check) (fault : Option SaveFault) :
    (c.perform (.failTrial report) fault).1.findExperiment report.envelope.experiment =
      some (check.record.fail check.trial report.envelope.trial report.envelope.attempt report.kind
        report.detail report.retryable (c.currentSequence + 1)) := by
  have state : (c.perform (.failTrial report) fault).1.state =
      (c.nextSequence.withRecord report.envelope.experiment (check.record.fail check.trial
        report.envelope.trial report.envelope.attempt report.kind report.detail report.retryable
        (c.currentSequence + 1))).state := by
    change (c.failTrial report fault).1.state = _
    unfold Coordinator.failTrial
    rw [guarded]
    exact Coordinator.settle_id_state _ fault _
  rw [Coordinator.findExperiment, state]
  exact OrderedMap.find?_assign_self ..

/-- A report that leaves its trial ready for a retry does not invalidate the branch. -/
def World.SparesRetried : World R → Event R → World R → Prop
  | .running c, .request (.failTrial report) _, .running c' =>
      ∀ record record' trial branch branch',
        c.findExperiment report.envelope.experiment = some record →
          c'.findExperiment report.envelope.experiment = some record' →
            record'.trials.find? report.envelope.trial = some trial → trial.state = .ready →
              record.findBranch trial.branch = some branch →
                record'.findBranch trial.branch = some branch' → branch'.state = .invalid →
                  branch.state = .invalid
  | _, _, _ => True

/-- A report spares retried trials exactly when none is retried whose branch it would invalidate. -/
theorem failTrial_sparesRetried_iff (report : FailTrialRequest) (fault : Option SaveFault) :
    (World.running c).SparesRetried (.request (.failTrial report) fault)
        (.running (c.perform (.failTrial report) fault).1) ↔
      c.AppliesPolicy (.failTrial report) := by
  constructor
  · intro spares check guarded invalidates asked
    obtain ⟨-, -, -, found, admitted⟩ :=
      (c.checkEnvelope_eq_ok _ _).mp (Coordinator.failTrialGuard_ok guarded).1
    by_contra retried
    rw [Bool.not_eq_false] at retried
    have branchFound : check.record.findBranch check.trial.branch = some check.branch :=
      admitted.trialBranch ▸ admitted.branchFound
    have trialFound := find?_fail check.record check.trial report.envelope.trial
      report.envelope.attempt report.kind report.detail report.retryable (c.currentSequence + 1)
      report.envelope.trial
    rw [if_pos rfl, admitted.trialFound, Option.map_some] at trialFound
    let released := check.trial.release (report.retryable && check.record.retryable check.trial)
      report.kind report.detail (c.currentSequence + 1)
    have ready : released.state = .ready := by
      rw [TrialRecord.release_state, asked, retried]
      rfl
    have same : released.branch = check.trial.branch :=
      TrialRecord.branch_of_fixed (TrialRecord.release_fixed ..)
    have after := fail_findBranch report.envelope.trial report.envelope.attempt report.kind
      report.detail report.retryable (c.currentSequence + 1) invalidates branchFound
      admitted.branchActive
    have invalid := spares check.record _ released check.branch _ found
      (failTrial_findExperiment guarded fault) trialFound ready (by rwa [same]) (by rwa [same]) rfl
    cases admitted.branchActive.symm.trans invalid
  · intro meets record record' trial branch branch' found found' trialFound ready branchFound
      branchFound' invalid
    cases guarded : c.failTrialGuard report with
    | error failure =>
        have same : (c.perform (.failTrial report) fault).1 = c := by
          change (c.failTrial report fault).1 = c
          unfold Coordinator.failTrial
          rw [guarded]
        rw [same] at found'
        obtain rfl := Option.some.inj (found.symm.trans found')
        obtain rfl := Option.some.inj (branchFound.symm.trans branchFound')
        exact invalid
    | ok check =>
        obtain ⟨-, -, -, held, admitted⟩ :=
          (c.checkEnvelope_eq_ok _ _).mp (Coordinator.failTrialGuard_ok guarded).1
        obtain rfl := Option.some.inj (held.symm.trans found)
        obtain rfl := Option.some.inj ((failTrial_findExperiment guarded fault).symm.trans found')
        rw [find?_fail, if_pos rfl, admitted.trialFound, Option.map_some] at trialFound
        obtain rfl := Option.some.inj trialFound
        -- A trial that is ready was retried, so nothing is to be invalidated.
        rw [TrialRecord.release_state] at ready
        split at ready
        · rename_i retried
          obtain ⟨asked, retryable⟩ := (Bool.and_eq_true _ _).mp retried
          have tolerant : check.record.definition.partialFailurePolicy ≠ .invalidateBranch := by
            intro invalidates
            cases (meets check guarded invalidates asked).symm.trans retryable
          have kept : (check.record.fail check.trial report.envelope.trial report.envelope.attempt
              report.kind report.detail report.retryable (c.currentSequence + 1)).definition =
                check.record.definition := by
            unfold ExperimentRecord.fail ExperimentRecord.invalidateBranch
            dsimp only
            rw [if_neg tolerant]
            rfl
          rw [ExperimentRecord.findBranch, kept] at branchFound'
          obtain rfl := Option.some.inj (branchFound.symm.trans branchFound')
          exact invalid
        · cases ready

/-- A request follows the policy, in what it leaves and in what it retries, exactly when it meets the
condition. -/
theorem perform_failuresApplied_iff {path : Text} (reachable : (World.running c).Reachable path)
    (request : Request R) (fault : Option SaveFault)
    (applied : c.state.Every ExperimentRecord.FailuresApplied) :
    ((c.perform request fault).1.state.Every ExperimentRecord.FailuresApplied ∧
      (World.running c).SparesRetried (.request request fault)
        (.running (c.perform request fault).1)) ↔ c.AppliesPolicy request := by
  obtain ⟨-, consistent, arranged, -⟩ := reachable.sound
  have kept : request.losesWork = false → c.AppliesPolicy request →
      (c.perform request fault).1.state.Every ExperimentRecord.FailuresApplied :=
    fun spares meets => RecordsKept.steps (failuresApplied_kept reachable meets spares)
      (c.perform_steps request fault) consistent arranged applied
  have losing : request.losesWork = true →
      ((c.perform request fault).1.state.Every ExperimentRecord.FailuresApplied ↔
        c.AppliesPolicy request) :=
    fun loses => losing_failuresApplied_iff consistent loses fault applied
  cases request with
  | failTrial report =>
      have spares := failTrial_sparesRetried_iff (c := c) report fault
      exact ⟨fun follows => spares.mp follows.2, fun meets => ⟨kept rfl meets, spares.mpr meets⟩⟩
  | rollback experiment target reason =>
      refine ⟨fun follows record chosen guarded => ?_, fun meets => ⟨kept rfl meets, trivial⟩⟩
      have allowed := Coordinator.rollbackGuard_ok guarded
      have charted := (reachable.holds charted_invariant.durable).1 experiment record allowed.found
      exact (rollback_failuresApplied_iff (arranged.placed _ record allowed.found)
        (charted.points chosen allowed.member) _ _ _).mp
          (follows.1 experiment _ (rollback_findExperiment guarded reason fault))
  | revokeWorker worker boot kind reason =>
      exact ⟨fun follows => (losing rfl).mp follows.1, fun meets => ⟨(losing rfl).mpr meets, trivial⟩⟩
  | registerWorker registration =>
      exact ⟨fun follows => (losing rfl).mp follows.1, fun meets => ⟨(losing rfl).mpr meets, trivial⟩⟩
  | _ =>
      refine ⟨fun _ id record found _ key trial held lost => ?_,
        fun meets => ⟨kept rfl meets, trivial⟩⟩
      obtain ⟨_, _, _, _, impossible, _⟩ := lost
      exact impossible.elim

/-! ## Runs -/

omit [MetricReal R] [CanonicalDigests R] in
/-- A start follows the policy exactly when every relevant trial it finds open is resumed. -/
theorem Recovers.failuresApplied_iff {old new : CoordinatorState R} (recovers : Recovers old new)
    (applied : old.Every ExperimentRecord.FailuresApplied) :
    new.Every ExperimentRecord.FailuresApplied ↔ old.Every ExperimentRecord.Resumes := by
  constructor
  · intro applied' id record found
    have same := recovers.records id
    rw [found, Option.map_some] at same
    obtain ⟨after, found', equal⟩ := Option.map_eq_some_iff.mp same
    exact (recovered_failuresApplied_iff equal (applied id record found)).mp
      (applied' id after found')
  · intro resumes id after found'
    obtain ⟨record, found, equal, -⟩ := recovers.source found'
    exact (recovered_failuresApplied_iff equal (applied id record found)).mpr
      (resumes id record found)

/-- The step leaves no relevant trial failed, and retries none whose branch it invalidates. -/
def World.AppliesPolicy : World R → Event R → Prop
  | .running c, .request request _ => c.AppliesPolicy request
  | .down image, .start config outcomes =>
      ∀ c, (Coordinator.create config image outcomes).2 = .ok c →
        (Coordinator.origin config image).Every ExperimentRecord.Resumes
  | _, _ => True

/-- From a world that follows the policy, a step does exactly when it meets the condition. -/
theorem step_failuresApplied_iff {path : Text} {source target : World R} {event : Event R}
    (reachable : source.Reachable path)
    (upholds : source.Upholds (CoordinatorState.Every ExperimentRecord.FailuresApplied))
    (step : World.Step path source event target) :
    (target.Upholds (CoordinatorState.Every ExperimentRecord.FailuresApplied) ∧
      source.SparesRetried event target) ↔ source.AppliesPolicy event := by
  have empty : (({} : CoordinatorState R)).Every ExperimentRecord.FailuresApplied :=
    fun id record found => nomatch found
  have staged : ∀ {old new : CoordinatorState R}, old.Every ExperimentRecord.FailuresApplied →
      PartlyStaged old new → new.Every ExperimentRecord.FailuresApplied := by
    intro old new applied partly
    refine applied.stage partly fun sequence held => held.same ?_ (stage_failsNone _ sequence)
    rw [stage_forget_fields]
    rfl
  cases step with
  | request c request fault =>
      have memory := perform_failuresApplied_iff reachable request fault upholds.1
      refine ⟨fun follows => memory.mp ⟨follows.1.1, follows.2⟩, fun meets => ?_⟩
      obtain ⟨after, spares⟩ := memory.mpr meets
      exact ⟨upholds.operated (c.perform_operated request fault) after, spares⟩
  | stop c => exact ⟨fun _ => trivial, fun _ => ⟨upholds.2, trivial⟩⟩
  | @start config image left outcomes c samePath started =>
      have origin := upholds.origin empty config
      have outcome := Coordinator.create_spec config image outcomes
        (reachable.sound.origin config).1
      have memory := (outcome.recovers c (by rw [started])).failuresApplied_iff origin
      refine ⟨fun follows _ _ => memory.mp follows.1.1, fun meets => ⟨?_, trivial⟩⟩
      refine (upholds.create reachable.sound (fun _ => staged origin) fun c' started' => ?_).2 c
        (by rw [started])
      rw [started] at started'
      obtain rfl := Except.ok.inj started'
      exact memory.mpr (meets c (by rw [started]))
  | @failedStart config image left outcomes failure samePath refused =>
      have origin := upholds.origin empty config
      have refuses : ∀ c, (Coordinator.create config image outcomes).2 ≠ .ok c :=
        fun c started => nomatch (congrArg Prod.snd refused).symm.trans started
      refine ⟨fun _ c started => (refuses c started).elim, fun _ => ⟨?_, trivial⟩⟩
      have kept := (upholds.create reachable.sound (fun _ => staged origin)
        fun c started => (refuses c started).elim).1
      rwa [refused] at kept

/-- The runs that follow the failure policy, in every world they reach and in every report, are those
whose steps meet the condition. -/
theorem failure_policy_applied {path : Text} {events : List (Event R)} {world : World R} :
    Run (fun source event target => World.Step path source event target ∧
        target.Upholds (CoordinatorState.Every ExperimentRecord.FailuresApplied) ∧
        source.SparesRetried event target) (.down none) events world ↔
    Run (fun source event target => World.Step path source event target ∧
        source.AppliesPolicy event) (.down none) events world := by
  let invariant (reached : World R) : Prop := reached.Reachable path ∧
    reached.Upholds (CoordinatorState.Every ExperimentRecord.FailuresApplied)
  have start : invariant (.down none) := ⟨.empty path, (World.start_upholds path _).2⟩
  refine Run.iff_of_invariant (fun source event target holds => ?_) ?_ start
  · exact and_congr_right fun step => step_failuresApplied_iff holds.1 holds.2 step
  · rintro source event target ⟨reachable, -⟩ ⟨step, upholds, -⟩
    exact ⟨reachable.step step, upholds⟩

end Requests

namespace Sample

/-- The claimed trial of an experiment whose failures invalidate branches. -/
def strict (retryPolicy : RetryPolicy) : Coordinator ℚ :=
  coordinator.session [(.createExperiment
      { spec with retryPolicy := retryPolicy, partialFailurePolicy := .invalidateBranch }, none),
    (.createTrial experiment candidate [], none), (.registerWorker { worker, boot }, none),
    (.claimTrials { epoch := coordinator.epoch, worker, boot }, none)]

/-- The coordinator after the worker of a trial without retries was revoked. -/
def revoked : Coordinator ℚ :=
  (strict .noRetry).session [(.revokeWorker worker boot .producerLoss (text "lost"), none)]

theorem revoked_reachable : (World.running revoked).Reachable config.statePath :=
  (coordinator_reachable.session _).session _

end Sample

/-- The trial of a revoked worker has failed for good, and its branch is still active. -/
theorem revoked_trial_leaves_branch_active : ∃ record trial,
    (World.running Sample.revoked).Reachable Sample.config.statePath ∧
      Sample.revoked.findExperiment Sample.experiment = some record ∧
      record.definition.partialFailurePolicy = .invalidateBranch ∧
      record.trials.find? Sample.trial = some trial ∧ trial.state = .failed ∧
      record.Relevant trial := by
  have facts : (Sample.revoked.findExperiment Sample.experiment).any (fun record =>
      decide (record.definition.partialFailurePolicy = .invalidateBranch) &&
        (record.trials.find? Sample.trial).any fun trial =>
          decide (trial.state = .failed ∧ trial.generation = record.definition.generation ∧
            trial.hypothesisRevision = record.definition.hypothesisRevision) &&
          (record.findBranch trial.branch).any fun branch =>
            decide (branch.state = .active ∧ branch.generation = trial.branchGeneration)) =
      true := by decide +kernel
  obtain ⟨record, found, facts⟩ := (Option.any_eq_true _ _).mp facts
  obtain ⟨invalidates, facts⟩ := (Bool.and_eq_true _ _).mp facts
  obtain ⟨trial, held, facts⟩ := (Option.any_eq_true _ _).mp facts
  obtain ⟨current, facts⟩ := (Bool.and_eq_true _ _).mp facts
  obtain ⟨branch, lookup, active⟩ := (Option.any_eq_true _ _).mp facts
  obtain ⟨failed, generation, revision⟩ := of_decide_eq_true current
  exact ⟨record, trial, Sample.revoked_reachable, found, of_decide_eq_true invalidates, held, failed,
    generation, revision, branch, lookup, of_decide_eq_true active⟩

end ExperimentFabric
