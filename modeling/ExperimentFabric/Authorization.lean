import ExperimentFabric.Soundness

/-!
# Where authority comes from

An envelope that a record admits names a live attempt.  Requests other than claims issue no attempt
and, unless they end every attempt of the record, make no stale field of an envelope current again:
generations and branch states are only restored by rollbacks, which abandon all live work.  So
whatever is admitted after such a request was admitted before it.
-/

namespace ExperimentFabric

open Lib Relation

variable {R : Type}

/-! ## Live attempts -/

theorem AttemptKept.live {attempt attempt' : AttemptRecord} (kept : AttemptKept attempt attempt')
    (isOpen : isAttemptTerminal attempt'.state = false) :
    isAttemptTerminal attempt.state = false := by
  by_contra closed
  rw [Bool.not_eq_false] at closed
  rw [kept.frozen closed, closed] at isOpen
  cases isOpen

/-- Every attempt of the record is terminal. -/
def ExperimentRecord.AllClosed (record : ExperimentRecord R) : Prop :=
  ∀ id attempt, record.attempts.find? id = some attempt → isAttemptTerminal attempt.state = true

theorem allClosed_of_closeAttempts {record after : ExperimentRecord R} {state : AttemptState}
    {kind : FailureKind} {detail : Text} {sequence : Nat}
    (terminal : isAttemptTerminal state = true)
    (closed : after.attempts =
      closeAttempts (fun _ => true) state kind detail sequence record.attempts) :
    after.AllClosed := by
  intro id attempt found
  rw [closed, closeAttempts, OrderedMap.find?_mapValues] at found
  obtain ⟨before, -, rfl⟩ := Option.map_eq_some_iff.mp found
  rcases closeAttempt_cases (fun _ => true) state kind detail sequence before with
    ⟨-, -, same⟩ | ⟨spared, same⟩
  · rw [same]
    exact terminal
  · rw [same]
    simpa using spared

/-- Every trial and every attempt of the record is terminal. -/
structure ExperimentRecord.Ended (record : ExperimentRecord R) : Prop where
  trials : ∀ key trial, record.trials.find? key = some trial → isTerminal trial.state = true
  attempts : record.AllClosed

theorem closeTrials_terminal {select : TrialRecord → Bool} {state : TrialState} {kind : FailureKind}
    {detail : Text} {sequence : Nat} {trials : OrderedMap TrialId TrialRecord} {key : TrialId}
    {trial : TrialRecord} (terminal : isTerminal state = true)
    (found : (closeTrials select state kind detail sequence trials).find? key = some trial)
    (selected : ∀ before, trial.fixed = before.fixed → select before = true) :
    isTerminal trial.state = true := by
  rw [closeTrials, OrderedMap.find?_mapValues] at found
  obtain ⟨before, -, rfl⟩ := Option.map_eq_some_iff.mp found
  rcases closeTrial_cases select state kind detail sequence before with ⟨-, -, same⟩ | ⟨spared, same⟩
  · rw [same]
    exact terminal
  · rw [same] at selected ⊢
    simpa [selected before rfl] using spared

/-- Closing all attempts and trials ends the record. -/
theorem ended_of_close {record after : ExperimentRecord R} {state : TrialState}
    {attemptState : AttemptState} {kind : FailureKind} {detail : Text} {sequence : Nat}
    (terminal : isTerminal state = true) (attemptTerminal : isAttemptTerminal attemptState = true)
    (trials : after.trials =
      closeTrials (fun _ => true) state kind detail sequence record.trials)
    (attempts : after.attempts =
      closeAttempts (fun _ => true) attemptState kind detail sequence record.attempts) :
    after.Ended where
  trials := fun key trial found => by
    rw [trials] at found
    exact closeTrials_terminal terminal found fun _ _ => rfl
  attempts := allClosed_of_closeAttempts attemptTerminal attempts

/-! ## What a record compares envelopes with -/

/-- Nothing that an envelope is compared with has become current again. -/
structure KeepsAuthority (old new : ExperimentRecord R) : Prop where
  opened : new.state = .opened → old.state = .opened
  generation : new.definition.generation = old.definition.generation
  hypothesis : new.definition.hypothesis = old.definition.hypothesis
  hypothesisRevision : new.definition.hypothesisRevision = old.definition.hypothesisRevision
  policy : new.definition.policy = old.definition.policy
  branch : ∀ id branch', (old.findBranch id).isSome = true → new.findBranch id = some branch' →
    branch'.state = .active → ∃ branch, old.findBranch id = some branch ∧
      branch.state = .active ∧ branch.generation = branch'.generation

theorem KeepsAuthority.ofDefinition {old new : ExperimentRecord R}
    (opened : new.state = .opened → old.state = .opened)
    (definition : new.definition = old.definition) : KeepsAuthority old new where
  opened := opened
  generation := by rw [definition]
  hypothesis := by rw [definition]
  hypothesisRevision := by rw [definition]
  policy := by rw [definition]
  branch := fun id branch' _ found active =>
    ⟨branch', by rwa [ExperimentRecord.findBranch, ← definition], active, rfl⟩

/-- Branches may be appended, or changed to something that is not active. -/
theorem KeepsAuthority.ofBranches {old new : ExperimentRecord R}
    (opened : new.state = .opened → old.state = .opened) (branches : List BranchDefinition)
    (definition : new.definition = { old.definition with branches := branches })
    (branch : ∀ id branch', (old.findBranch id).isSome = true →
      branches.find? (·.id = id) = some branch' → branch'.state = .active →
        ∃ branch, old.findBranch id = some branch ∧ branch.state = .active ∧
          branch.generation = branch'.generation) : KeepsAuthority old new where
  opened := opened
  generation := by rw [definition]
  hypothesis := by rw [definition]
  hypothesisRevision := by rw [definition]
  policy := by rw [definition]
  branch := fun id branch' known found active =>
    branch id branch' known (by rwa [ExperimentRecord.findBranch, definition] at found) active

/-- A branch that is closed in place is the only one that changes. -/
theorem find?_closed {record : ExperimentRecord R} {target : BranchId}
    {change : BranchDefinition → BranchDefinition} {id : BranchId} {branch' : BranchDefinition}
    (found : (ExperimentRecord.updateBranch target change record.definition.branches).find?
      (·.id = id) = some branch') (active : branch'.state = .active)
    (keepsId : ∀ branch, (change branch).id = branch.id)
    (closes : ∀ branch, (change branch).state ≠ .active) :
    ∃ branch, record.findBranch id = some branch ∧ branch.state = .active ∧
      branch.generation = branch'.generation := by
  rw [ExperimentRecord.find?_updateBranch target id keepsId] at found
  split at found
  · obtain ⟨branch, -, rfl⟩ := Option.map_eq_some_iff.mp found
    exact (closes branch active).elim
  · exact ⟨branch', found, active, rfl⟩

theorem observe_fields (record : ExperimentRecord R) (trial : TrialRecord) (attempt : AttemptRecord)
    (trialKey : TrialId) (attemptKey : TrialAttemptId) (sequence : Nat) :
    (record.observe trial attempt trialKey attemptKey sequence).1.state = record.state ∧
      (record.observe trial attempt trialKey attemptKey sequence).1.definition =
        record.definition := by
  obtain ⟨trials, attempts, same⟩ :=
    observe_frame record trial attempt trialKey attemptKey sequence
  rw [same]
  exact ⟨rfl, rfl⟩

theorem reject_fields (record : ExperimentRecord R) (kind : Text) (identifier : Nat)
    (verdict : Status) :
    (record.reject kind identifier verdict).state = record.state ∧
      (record.reject kind identifier verdict).definition = record.definition := by
  obtain ⟨rejected, same⟩ := reject_frame record kind identifier verdict
  rw [same]
  exact ⟨rfl, rfl⟩

section Effects

variable [MetricReal R] [CanonicalDigests R]

omit [MetricReal R] [CanonicalDigests R] in
theorem invalidateBranch_keepsAuthority {record failed : ExperimentRecord R}
    (state : failed.state = record.state) (definition : failed.definition = record.definition)
    (branch : BranchId) (detail line : Text) :
    KeepsAuthority record ((failed.invalidateBranch branch detail).log line) := by
  have same : failed.definition.branches = record.definition.branches := by rw [definition]
  have unchanged : KeepsAuthority record (failed.log line) :=
    .ofDefinition (fun opened => state ▸ opened) definition
  unfold ExperimentRecord.invalidateBranch
  split
  · split
    · exact unchanged
    · split
      · refine .ofBranches (fun opened => state ▸ opened)
          (ExperimentRecord.updateBranch branch (fun found => { found with state := .invalid })
            record.definition.branches) ?_ ?_
        · simp only [ExperimentRecord.log, definition]
        · intro id branch' known found active
          refine find?_closed found active ?_ ?_
          · exact fun _ => rfl
          · exact fun _ => by simp
      · exact unchanged
  · exact unchanged

/-- A change keeps what a view shows of the definition apart from its branches, revises the hypothesis
or rolls back. -/
theorem Effect.view_definition {β : Type} (view : ExperimentDefinition R → β)
    (kept : ∀ definition branches, view { definition with branches := branches } = view definition)
    {c : Coordinator R} {experiment : ExperimentId} {record after : ExperimentRecord R}
    {marks : Watermarks} {request : Request R}
    (effect : Effect c experiment record marks request after) :
    view after.definition = view record.definition ∨
      (∃ spec, request = .reviseHypothesis experiment spec ∧
        c.reviseHypothesisGuard experiment spec = .ok record ∧
          after = record.revise spec (c.currentSequence + 1)) ∨
      ∃ target reason chosen, request = .rollback experiment target reason ∧
        c.rollbackGuard experiment target = .ok (record, chosen) ∧
          after = record.rollback experiment chosen ⟨c.state.watermarks.rollback + 1⟩ reason
            (c.currentSequence + 1) := by
  have same : after.definition = record.definition →
      view after.definition = view record.definition := congrArg view
  cases effect with
  | @revise spec guarded => exact .inr (.inl ⟨spec, rfl, guarded, rfl⟩)
  | @rollback target reason chosen guarded allocated =>
      exact .inr (.inr ⟨target, reason, chosen, rfl, guarded, rfl⟩)
  | fork guarded => exact .inl (kept _ _)
  | forkUndone guarded => exact .inl (kept record.definition _)
  | retire guarded => exact .inl (kept _ _)
  | refuseObservation named found refused =>
      obtain ⟨observations, rejected, equal⟩ := refusedObservation_frame c record _ _
      exact .inl (by rw [equal])
  | publishObservation named accepted => exact .inl (same (observe_fields _ _ _ _ _ _).2)
  | publishObservationUndone named accepted => exact .inl (same (observe_fields _ _ _ _ _ _).2)
  | refuseArtifact named found built refused => exact .inl (same (reject_fields record _ _ _).2)
  | registerArtifacts named guarded refused stored =>
      subst named
      exact .inl (same (registered_pair guarded stored).definition)
  | commit named guarded accepted stored =>
      subst named
      exact .inl (same (registered_pair guarded stored).definition)
  | fail named guarded =>
      obtain ⟨branches, lines, equal, -⟩ := fail_frame record _ _ _ _ _ _ _
      rw [equal]
      exact .inl (kept _ _)
  | _ => exact .inl rfl

/-- A change keeps what a view shows of the definition apart from its branches, generation and
hypothesis revision. -/
theorem Effect.view_fixed {β : Type} (view : ExperimentDefinition R → β)
    (kept : ∀ definition branches generation revision,
      view { definition with
        branches := branches, generation := generation, hypothesisRevision := revision } =
          view definition)
    {c : Coordinator R} {experiment : ExperimentId} {record after : ExperimentRecord R}
    {marks : Watermarks} {request : Request R}
    (effect : Effect c experiment record marks request after) :
    view after.definition = view record.definition := by
  have branched : ∀ definition branches,
      view { definition with branches := branches } = view definition :=
    fun definition branches => kept definition branches _ _
  rcases effect.view_definition view branched with same | ⟨_, -, -, rfl⟩ | ⟨_, _, _, -, -, rfl⟩
  · exact same
  · exact kept record.definition record.definition.branches _ _
  · exact kept record.definition _ _ record.definition.hypothesisRevision

/-- A change keeps the state of a record, cancels or finalizes it, or rolls it back. -/
theorem Effect.view_state {c : Coordinator R} {experiment : ExperimentId}
    {record after : ExperimentRecord R} {marks : Watermarks} {request : Request R}
    (effect : Effect c experiment record marks request after) :
    after.state = record.state ∨
      (∃ reason, after = record.cancel reason (c.currentSequence + 1)) ∨
      (∃ candidate reason, request = .finalizeExperiment experiment candidate reason ∧
        c.finalizeGuard experiment = .ok record ∧
          after.state = ExperimentRecord.stateAfter record.state
            (Coordinator.finalDecision record candidate reason ⟨c.state.watermarks.decision + 1⟩
              (c.currentSequence + 1)).outcome) ∨
      ∃ chosen reason, after = record.rollback experiment chosen
        ⟨c.state.watermarks.rollback + 1⟩ reason (c.currentSequence + 1) := by
  cases effect with
  | refuseObservation named found refused =>
      obtain ⟨observations, rejected, equal⟩ := refusedObservation_frame c record _ _
      exact .inl (by rw [equal])
  | publishObservation named accepted => exact .inl (observe_fields _ _ _ _ _ _).1
  | publishObservationUndone named accepted => exact .inl (observe_fields _ _ _ _ _ _).1
  | refuseArtifact named found built refused => exact .inl (reject_fields record _ _ _).1
  | registerArtifacts named guarded refused stored =>
      subst named
      exact .inl (registered_pair guarded stored).state
  | commit named guarded accepted stored =>
      subst named
      exact .inl (registered_pair guarded stored).state
  | fail named guarded =>
      obtain ⟨branches, lines, equal, -⟩ := fail_frame record _ _ _ _ _ _ _
      exact .inl (by rw [equal])
  | @cancel reason found allowed => exact .inr (.inl ⟨reason, rfl⟩)
  | @finalize candidate reason decision guarded decided allocated pointed =>
      subst decided
      exact .inr (.inr (.inl ⟨candidate, reason, rfl, guarded, rfl⟩))
  | @rollback target reason chosen guarded allocated =>
      exact .inr (.inr (.inr ⟨chosen, reason, rfl⟩))
  | _ => exact .inl rfl

/-- A change keeps what envelopes are compared with, unless it revises the hypothesis or rolls
back. -/
theorem Effect.authority {c : Coordinator R} {experiment : ExperimentId}
    {record after : ExperimentRecord R} {marks : Watermarks} {request : Request R}
    (effect : Effect c experiment record marks request after) :
    KeepsAuthority record after ∨
      (∃ spec, request = .reviseHypothesis experiment spec ∧
        c.reviseHypothesisGuard experiment spec = .ok record ∧
          after = record.revise spec (c.currentSequence + 1)) ∨
      ∃ target reason chosen, request = .rollback experiment target reason ∧
        c.rollbackGuard experiment target = .ok (record, chosen) ∧
          after = record.rollback experiment chosen ⟨c.state.watermarks.rollback + 1⟩ reason
            (c.currentSequence + 1) := by
  cases effect with
  | @revise spec guarded => exact .inr (.inl ⟨spec, rfl, guarded, rfl⟩)
  | @fork parent spec parentBranch branch guarded forked valid allocated =>
      refine .inl (.ofBranches id (record.definition.branches ++ [branch]) rfl ?_)
      intro id branch' known found active
      obtain ⟨held, lookup⟩ := Option.isSome_iff_exists.mp known
      rw [List.find?_append, show record.definition.branches.find? (·.id = id) = some held
        from lookup, Option.some_or] at found
      obtain rfl := Option.some.inj found
      exact ⟨held, lookup, active, rfl⟩
  | forkUndone guarded =>
      refine .inl (.ofDefinition id ?_)
      simp [ExperimentRecord.fork, ExperimentRecord.log, ExperimentRecord.unfork]
  | retire guarded =>
      refine .inl (.ofBranches id _ rfl ?_)
      intro id branch' known found active
      refine find?_closed found active ?_ ?_
      · exact fun _ => rfl
      · exact fun _ => by simp
  | @refuseObservation publication verdict named found refused =>
      have fields : (c.refusedObservation record publication.observation verdict).state =
            record.state ∧
          (c.refusedObservation record publication.observation verdict).definition =
            record.definition := by
        obtain ⟨observations, rejected, same⟩ :=
          refusedObservation_frame c record publication.observation verdict
        rw [same]
        exact ⟨rfl, rfl⟩
      exact .inl (.ofDefinition (fun opened => fields.1 ▸ opened) fields.2)
  | publishObservation named accepted =>
      obtain ⟨state, definition⟩ := observe_fields (record.pushObservation _) _ _ _ _ _
      exact .inl (.ofDefinition (fun opened => state ▸ opened) definition)
  | publishObservationUndone named accepted =>
      obtain ⟨state, definition⟩ := observe_fields record _ _ _ _ _
      exact .inl (.ofDefinition (fun opened => state ▸ opened) definition)
  | refuseArtifact named found built refused =>
      obtain ⟨state, definition⟩ := reject_fields record _ _ _
      exact .inl (.ofDefinition (fun opened => state ▸ opened) definition)
  | publishArtifact named built accepted => exact .inl (.ofDefinition id rfl)
  | publishArtifactUndone named built accepted => exact .inl (.ofDefinition id rfl)
  | registerArtifacts named guarded refused stored =>
      subst named
      have added := registered_pair guarded stored
      exact .inl (.ofDefinition (fun opened => added.state ▸ opened) added.definition)
  | commit named guarded accepted stored =>
      subst named
      have added := registered_pair guarded stored
      exact .inl (.ofDefinition (fun opened => added.state ▸ opened) added.definition)
  | fail named guarded =>
      refine .inl ?_
      unfold ExperimentRecord.fail
      apply invalidateBranch_keepsAuthority <;> rfl
  | cancelTrial owner isOpen => exact .inl (.ofDefinition id rfl)
  | cancel found allowed =>
      refine .inl (.ofDefinition (fun opened => ?_) rfl)
      cases opened
  | @finalize candidate reason decision guarded decided allocated pointed =>
      refine .inl (.ofDefinition (fun opened => ?_) rfl)
      have after : ExperimentRecord.stateAfter record.state decision.outcome = .opened := opened
      revert after
      cases decision.outcome <;> simp [ExperimentRecord.stateAfter]
  | @rollback target reason chosen guarded allocated =>
      exact .inr (.inr ⟨target, reason, chosen, rfl, guarded, rfl⟩)

/-- A request that leaves a live attempt keeps what envelopes are compared with. -/
theorem Effect.keepsAuthority {c : Coordinator R} {experiment : ExperimentId}
    {record after : ExperimentRecord R} {marks : Watermarks} {request : Request R}
    (effect : Effect c experiment record marks request after) :
    after.Ended ∨ KeepsAuthority record after := by
  rcases effect.authority with keeps | ⟨_, -, -, rfl⟩ | ⟨_, _, _, -, -, rfl⟩
  · exact .inr keeps
  · exact .inl (ended_of_close rfl rfl rfl rfl)
  · exact .inl (ended_of_close rfl rfl rfl rfl)

end Effects

/-! ## Admission before and after -/

/-- An envelope that the record admits now was admitted before, when its attempt existed before. -/
theorem Admitted.source {marks marks' : Watermarks} {experiment : ExperimentId}
    {old new : ExperimentRecord R} (trials : OrderedMap.Extends TrialKept old.trials new.trials)
    (keeps : KeepsAuthority old new) (lifeOld : Lifecycle marks old)
    (lifeNew : Lifecycle marks' new) (placed : Placed experiment old)
    {envelope : AuthorityEnvelope} {branch' : BranchDefinition} {trial' : TrialRecord}
    {attempt attempt' : AttemptRecord} (admitted : Admitted new envelope branch' trial' attempt')
    (attemptFound : old.attempts.find? envelope.attempt = some attempt)
    (attemptKept : AttemptKept attempt attempt') :
    ∃ branch trial, Admitted old envelope branch trial attempt := by
  have fixed := attemptKept.fixed
  have owned := admitted.livePair.owned lifeNew
  have named : attempt.trial = envelope.trial :=
    (congrArg AttemptRecord.trial fixed).symm.trans owned
  obtain ⟨trial, trialFound⟩ := lifeOld.attemptTrial _ attempt attemptFound
  rw [named] at trialFound
  obtain ⟨trial'', lookup, trialKept⟩ := trials _ trial trialFound
  obtain rfl := Option.some.inj (lookup.symm.trans admitted.trialFound)
  have isOpen := attemptKept.live admitted.attemptOpen
  have trialFixed := trialKept.fixed
  obtain ⟨held, authoritative⟩ :=
    (lifeOld.trial _ trial trialFound).live _ attempt attemptFound named isOpen
  have onBranch : trial.branch = envelope.branch :=
    (congrArg TrialRecord.branch trialFixed).symm.trans admitted.trialBranch
  obtain ⟨branch, branchFound, active, generation⟩ := keeps.branch envelope.branch branch'
    (onBranch ▸ placed.branch _ trial trialFound) admitted.branchFound admitted.branchActive
  exact ⟨branch, trial, {
    opened := keeps.opened admitted.opened
    generation := admitted.generation.trans keeps.generation
    hypothesis := admitted.hypothesis.trans keeps.hypothesis
    hypothesisRevision := admitted.hypothesisRevision.trans keeps.hypothesisRevision
    policy := admitted.policy.trans (congrArg ComparisonPolicy.id keeps.policy)
    policyGeneration :=
      admitted.policyGeneration.trans (congrArg ComparisonPolicy.generation keeps.policy)
    branchFound := branchFound
    branchGeneration := generation.trans admitted.branchGeneration
    branchActive := active
    trialFound := trialFound
    trialBranch := onBranch
    trialGeneration := (congrArg TrialRecord.generation trialFixed).symm.trans
      admitted.trialGeneration
    trialBranchGeneration := (congrArg TrialRecord.branchGeneration trialFixed).symm.trans
      admitted.trialBranchGeneration
    trialRevision := (congrArg TrialRecord.hypothesisRevision trialFixed).symm.trans
      admitted.trialRevision
    trialPolicy := (congrArg TrialRecord.policy trialFixed).symm.trans admitted.trialPolicy
    trialPolicyGeneration := (congrArg TrialRecord.policyGeneration trialFixed).symm.trans
      admitted.trialPolicyGeneration
    trialOpen := isTerminal_of_isHeld held
    authoritative := authoritative
    attemptFound := attemptFound
    attemptWorker := (congrArg AttemptRecord.worker fixed).symm.trans admitted.attemptWorker
    attemptBoot := (congrArg AttemptRecord.boot fixed).symm.trans admitted.attemptBoot
    attemptEpoch := (congrArg AttemptRecord.epoch fixed).symm.trans admitted.attemptEpoch
    attemptOpen := isOpen }⟩

/-- Some experiment of the state admits the envelope. -/
def CoordinatorState.Admits (state : CoordinatorState R) (envelope : AuthorityEnvelope) : Prop :=
  ∃ record branch trial attempt, state.experiments.find? envelope.experiment = some record ∧
    Admitted record envelope branch trial attempt

theorem loseWorker_fields (worker : WorkerId) (boot : WorkerBootId) (kind : FailureKind)
    (attemptDetail trialDetail : Text) (sequence : Nat) (line : Text)
    (record : ExperimentRecord R) :
    (record.loseWorker worker boot kind attemptDetail trialDetail sequence line).state =
        record.state ∧
      (record.loseWorker worker boot kind attemptDetail trialDetail sequence line).definition =
        record.definition := by
  obtain ⟨trials, attempts, lines, same⟩ :=
    loseWorker_frame worker boot kind attemptDetail trialDetail sequence line record
  rw [same]
  exact ⟨rfl, rfl⟩

section Steps

variable [MetricReal R] [CanonicalDigests R] {c : Coordinator R} {request : Request R}
  {envelope : AuthorityEnvelope}

/-- A step that issues nothing admits nothing new. -/
theorem StateStep.admits_source {old new : CoordinatorState R}
    (step : StateStep c request old new) (notClaim : ∀ claim, request ≠ .claimTrials claim)
    (consistent : old.Consistent) (arranged : old.Arranged) (consistentNew : new.Consistent)
    (admits : new.Admits envelope) : old.Admits envelope := by
  obtain ⟨record', branch', trial', attempt', found', admitted⟩ := admits
  have lifeNew := consistentNew _ record' found'
  have unchanged : new.experiments = old.experiments → old.Admits envelope := fun same =>
    ⟨record', branch', trial', attempt', same ▸ found', admitted⟩
  have assigned : ∀ {target : ExperimentId} {after : ExperimentRecord R},
      new.experiments = old.experiments.assign target after →
        (envelope.experiment = target ∧ record' = after) ∨
          old.experiments.find? envelope.experiment = some record' := by
    intro target after stored
    rw [stored, OrderedMap.find?_assign] at found'
    split at found'
    · rename_i here
      exact .inl ⟨here, (Option.some.inj found').symm⟩
    · exact .inr found'
  cases step with
  | quiet same => exact unchanged same
  | @change target before after found effect stored =>
      rcases assigned stored with ⟨here, rfl⟩ | elsewhere
      · subst here
        have life := consistent _ before found
        rcases effect.keepsAuthority with ended | keeps
        · have terminal := ended.attempts _ attempt' admitted.attemptFound
          rw [admitted.attemptOpen] at terminal
          cases terminal
        · have rewritten := moves_rewritten effect.moves
          obtain ⟨attempt, attemptFound, kept⟩ := rewritten.attempts.source admitted.attemptFound
          obtain ⟨branch, trial, earlier⟩ := admitted.source rewritten.trials.extends_ keeps life
            lifeNew (arranged.placed _ before found) attemptFound kept
          exact ⟨before, branch, trial, attempt, found, earlier⟩
      · exact ⟨record', branch', trial', attempt', elsewhere, admitted⟩
  | create named accepted room defined valid allocated before absent stored =>
      rcases assigned stored with ⟨here, rfl⟩ | elsewhere
      · have found := admitted.trialFound
        rw [defined] at found
        simp [ExperimentSpec.record] at found
      · exact ⟨record', branch', trial', attempt', elsewhere, admitted⟩
  | @addTrial target record branchId branch payload named guarded valid found fresh allocated
      stored =>
      rcases assigned stored with ⟨here, same⟩ | elsewhere
      · subst here
        have attemptFound : record.attempts.find? envelope.attempt = some attempt' := by
          have lookup := admitted.attemptFound
          rwa [same] at lookup
        have trials : OrderedMap.Extends TrialKept record.trials record'.trials := by
          rw [same]
          exact .emplace .refl
        have keeps : KeepsAuthority record record' := by
          rw [same]
          exact .ofDefinition id rfl
        obtain ⟨branch, trial, earlier⟩ := admitted.source trials keeps (consistent _ record found)
          lifeNew (arranged.placed _ record found) attemptFound (.refl attempt')
        exact ⟨record, branch, trial, attempt', found, earlier⟩
      · exact ⟨record', branch', trial', attempt', elsewhere, admitted⟩
  | @addTrialUndone target record branchId branch payload named guarded found fresh stored =>
      rcases assigned stored with ⟨here, same⟩ | elsewhere
      · subst here
        have life := consistent _ record found
        have attemptFound : record.attempts.find? envelope.attempt = some attempt' := by
          have lookup := admitted.attemptFound
          rwa [same] at lookup
        have trials : OrderedMap.Extends TrialKept record.trials record'.trials := by
          rw [same, life.addTrialUndone (fresh ▸ Nat.lt_succ_self _)]
          exact .refl .refl
        have keeps : KeepsAuthority record record' := by
          rw [same]
          exact .ofDefinition id rfl
        obtain ⟨branch, trial, earlier⟩ := admitted.source trials keeps life lifeNew
          (arranged.placed _ record found) attemptFound (.refl attempt')
        exact ⟨record, branch, trial, attempt', found, earlier⟩
      · exact ⟨record', branch', trial', attempt', elsewhere, admitted⟩
  | issue named => exact (notClaim _ named).elim
  | @lose worker boot kind attemptDetail trialDetail line sequence named stored =>
      rw [stored, OrderedMap.find?_mapValues] at found'
      obtain ⟨before, found, rfl⟩ := Option.map_eq_some_iff.mp found'
      obtain ⟨state, definition⟩ := loseWorker_fields worker boot kind attemptDetail trialDetail
        sequence line before
      have rewritten := loseWorker_rewritten worker boot kind attemptDetail trialDetail sequence
        line before
      obtain ⟨attempt, attemptFound, kept⟩ := rewritten.attempts.source admitted.attemptFound
      obtain ⟨branch, trial, earlier⟩ := admitted.source rewritten.trials.extends_
        (.ofDefinition (fun opened => state ▸ opened) definition) (consistent _ before found)
        lifeNew (arranged.placed _ before found) attemptFound kept
      exact ⟨before, branch, trial, attempt, found, earlier⟩
  | register named guarded fresh identity same => exact unchanged same

theorem StateSteps.admits_source {old new : CoordinatorState R}
    (steps : StateSteps c request old new) (notClaim : ∀ claim, request ≠ .claimTrials claim)
    (consistent : old.Consistent) (arranged : old.Arranged) (admits : new.Admits envelope) :
    old.Admits envelope := by
  induction steps with
  | refl => exact admits
  | tail earlier last ih =>
      obtain ⟨consistent', arranged'⟩ := StateSteps.sound earlier consistent arranged
      exact ih (last.1.admits_source notClaim consistent' arranged'
        (last.1.consistent last.2.marks consistent') admits)

end Steps

/-! ## Live attempts of a state -/

/-- Every live attempt of the second state is a live attempt of the first. -/
def CoordinatorState.LiveFrom (old new : CoordinatorState R) : Prop :=
  ∀ experiment record' id attempt', new.experiments.find? experiment = some record' →
    record'.attempts.find? id = some attempt' → isAttemptTerminal attempt'.state = false →
      ∃ record attempt, old.experiments.find? experiment = some record ∧
        record.attempts.find? id = some attempt ∧ isAttemptTerminal attempt.state = false ∧
        attempt'.fixed = attempt.fixed

theorem CoordinatorState.LiveFrom.ofEq {old new : CoordinatorState R}
    (same : new.experiments = old.experiments) : old.LiveFrom new :=
  fun _ record' _ attempt' found lookup isOpen =>
    ⟨record', attempt', same ▸ found, lookup, isOpen, rfl⟩

theorem CoordinatorState.LiveFrom.trans {first second third : CoordinatorState R}
    (earlier : first.LiveFrom second) (later : second.LiveFrom third) : first.LiveFrom third := by
  intro experiment record id attempt found lookup isOpen
  obtain ⟨record', attempt', found', lookup', isOpen', fixed'⟩ :=
    later experiment record id attempt found lookup isOpen
  obtain ⟨record'', attempt'', found'', lookup'', isOpen'', fixed''⟩ :=
    earlier experiment record' id attempt' found' lookup' isOpen'
  exact ⟨record'', attempt'', found'', lookup'', isOpen'', fixed'.trans fixed''⟩

/-- One record is replaced by one whose attempts were rewritten. -/
theorem CoordinatorState.LiveFrom.assign {old new : CoordinatorState R} {experiment : ExperimentId}
    {before after : ExperimentRecord R} (found : old.experiments.find? experiment = some before)
    (attempts : OrderedMap.Evolves AttemptKept before.attempts after.attempts)
    (stored : new.experiments = old.experiments.assign experiment after) : old.LiveFrom new := by
  intro other record' id attempt' lookup held isOpen
  rw [stored, OrderedMap.find?_assign] at lookup
  split at lookup
  · rename_i here
    obtain rfl := Option.some.inj lookup
    obtain ⟨attempt, before', kept⟩ := attempts.source held
    exact ⟨before, attempt, here ▸ found, before', kept.live isOpen, kept.fixed⟩
  · exact ⟨record', attempt', lookup, held, isOpen, rfl⟩

/-- Every record is replaced by one whose attempts were rewritten. -/
theorem CoordinatorState.LiveFrom.mapValues {old new : CoordinatorState R}
    {change : ExperimentRecord R → ExperimentRecord R}
    (attempts : ∀ record, OrderedMap.Evolves AttemptKept record.attempts (change record).attempts)
    (stored : new.experiments = old.experiments.mapValues change) : old.LiveFrom new := by
  intro other record' id attempt' lookup held isOpen
  rw [stored, OrderedMap.find?_mapValues] at lookup
  obtain ⟨before, found, rfl⟩ := Option.map_eq_some_iff.mp lookup
  obtain ⟨attempt, before', kept⟩ := (attempts before).source held
  exact ⟨before, attempt, found, before', kept.live isOpen, kept.fixed⟩

section Steps

variable [MetricReal R] [CanonicalDigests R] {c : Coordinator R} {request : Request R}

theorem StateStep.liveFrom {old new : CoordinatorState R} (step : StateStep c request old new)
    (notClaim : ∀ claim, request ≠ .claimTrials claim) : old.LiveFrom new := by
  cases step with
  | quiet same => exact .ofEq same
  | change found effect stored =>
      exact .assign found (moves_rewritten effect.moves).attempts stored
  | create named accepted room defined valid allocated before absent stored =>
      intro other record' id attempt' lookup held isOpen
      rw [stored, OrderedMap.find?_assign] at lookup
      split at lookup
      · obtain rfl := Option.some.inj lookup
        rw [defined] at held
        simp [ExperimentSpec.record] at held
      · exact ⟨record', attempt', lookup, held, isOpen, rfl⟩
  | addTrial named guarded valid found fresh allocated stored =>
      refine .assign found ?_ stored
      exact .refl .refl
  | addTrialUndone named guarded found fresh stored =>
      refine .assign found ?_ stored
      exact .refl .refl
  | issue named => exact (notClaim _ named).elim
  | lose named stored => exact .mapValues (fun record => (loseWorker_rewritten ..).attempts) stored
  | register named guarded fresh identity same => exact .ofEq same

theorem StateSteps.liveFrom {old new : CoordinatorState R} (steps : StateSteps c request old new)
    (notClaim : ∀ claim, request ≠ .claimTrials claim) : old.LiveFrom new := by
  induction steps with
  | refl => exact .ofEq rfl
  | tail _ last ih => exact ih.trans (last.1.liveFrom notClaim)

end Steps

end ExperimentFabric
