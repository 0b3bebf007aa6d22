import ExperimentFabric.Currency
import ExperimentFabric.Descent
import ExperimentFabric.Epochs
import ExperimentFabric.Fencing
import ExperimentFabric.LiveTable

/-!
# Live work can be finished

The worker that holds a live attempt can commit or fail it as long as the envelope it was given is
still accepted.  Every operation that moves what an envelope is compared with must therefore end the
attempts it fences.  Two do not: a finalization that concludes an experiment with live attempts, and
a failure that invalidates a branch on which another trial is held.
-/

namespace ExperimentFabric

open Lib Relation

variable {R : Type}

/-! ## Registered incarnations -/

namespace Coordinator

/-- The epoch and every identity in the live worker table are not null. -/
structure Registered (c : Coordinator R) : Prop where
  epoch : c.epoch.valid = true
  worker : ∀ worker boot live, c.findLiveWorker worker boot = some live →
    worker.valid = true ∧ boot.valid = true ∧ live.producer.valid = true

theorem Registered.keep {c c' : Coordinator R} (registered : c.Registered)
    (epoch : c'.epoch = c.epoch)
    (kept : OrderedMap.Evolves LiveKept c.liveWorkers c'.liveWorkers) : c'.Registered where
  epoch := epoch ▸ registered.epoch
  worker := fun worker boot live' found => by
    obtain ⟨live, before, same⟩ := kept.source found
    rw [same.producer]
    exact registered.worker worker boot live before

theorem Registered.addWorker {c : Coordinator R} (registered : c.Registered)
    {request : RegisterWorkerRequest} (worker : request.worker.valid = true)
    (boot : request.boot.valid = true) : (c.addWorker request).Registered where
  epoch := registered.epoch
  worker := fun other otherBoot live found => by
    rcases OrderedMap.find?_emplace_cases found with before | ⟨here, rfl⟩
    · exact registered.worker other otherBoot live before
    · obtain ⟨rfl, rfl⟩ := workerKey_inj here
      exact ⟨worker, boot, rfl⟩

section Perform

variable [MetricReal R] [CanonicalDigests R]

/-- Every request keeps the live worker table free of null identities. -/
theorem Registered.perform {c : Coordinator R} (registered : c.Registered) (request : Request R)
    (fault : Option SaveFault) : (c.perform request fault).1.Registered := by
  have epoch := (c.perform_operated request fault).epoch
  cases c.perform_liveChange request fault with
  | kept workers => exact registered.keep epoch workers
  | @registered registration guarded unknown fresh workers state saved =>
      have identities : registration.worker.valid = true ∧ registration.boot.valid = true := by
        simp only [registerWorkerGuard, require_bind_eq_ok, Bool.and_eq_true] at guarded
        exact guarded.2.1
      have replaced : (c.replacing registration).Registered :=
        registered.keep (replaceIncarnations_sameProcess _ _ c.nextSequence).epoch
          (replacing_kept c registration)
      have added := replaced.addWorker identities.1 identities.2
      refine ⟨epoch ▸ registered.epoch, fun worker boot live found => ?_⟩
      rw [findLiveWorker, workers] at found
      exact added.worker worker boot live found

end Perform

end Coordinator

/-- A running coordinator has only registered incarnations. -/
def World.Registered : World R → Prop
  | .running c => c.Registered
  | .down _ => True

section World

variable [MetricReal R] [CanonicalDigests R]

omit [CanonicalDigests R] in
theorem started_registered {path : Text} {config : Config} {image left : Option (CoordinatorState R)}
    {outcomes : WriteOutcomes} {c : Coordinator R} (sound : SoundImage path image)
    (started : Coordinator.create config image outcomes = (left, .ok c)) : c.Registered where
  epoch := by
    have minted := (Coordinator.create_minted config image outcomes).2 c (by rw [started])
    have positive : Coordinator.mintEpoch (Coordinator.origin config image).lastEpoch
        config.epochSeed ≠ 0 := by
      unfold Coordinator.mintEpoch
      dsimp only
      split <;> split <;> first | assumption | exact one_ne_zero
    simp [StrongId.valid, minted, positive]
  worker := fun worker boot live found => by
    have outcome := Coordinator.create_spec config image outcomes (sound.origin config).1
    rw [Coordinator.findLiveWorker, outcome.liveWorkers c (by rw [started])] at found
    simp at found

theorem World.Step.registered {path : Text} {source target : World R} {event : Event R}
    (step : World.Step path source event target) (sound : source.Sound path)
    (registered : source.Registered) : target.Registered := by
  cases step with
  | request c request fault => exact Coordinator.Registered.perform registered request fault
  | stop c => trivial
  | start samePath started => exact started_registered sound started
  | failedStart samePath refused => trivial

theorem World.Reachable.registered {path : Text} {world : World R}
    (reachable : world.Reachable path) : world.Registered := by
  obtain ⟨events, run⟩ := reachable
  have both := run.preserves (fun source event target holds step =>
    And.intro (World.Step.sound step holds.1) (World.Step.registered step holds.1 holds.2))
    ⟨(World.Reachable.empty path).sound, trivial⟩
  exact both.2

end World

/-! ## Attended records -/

/-- Live work is attended: its experiment is open and its trials are current. -/
structure Attended (record : ExperimentRecord R) : Prop where
  opened : ∀ id attempt, record.attempts.find? id = some attempt →
    isAttemptTerminal attempt.state = false → record.state = .opened
  current : ∀ key trial, record.trials.find? key = some trial → isHeld trial.state = true →
    record.Current trial

/-- A record without live attempts holds no trial, so it is attended. -/
theorem Attended.ofClosed {record : ExperimentRecord R} {marks : Watermarks}
    (life : Lifecycle marks record) (closed : record.AllClosed) : Attended record where
  opened := fun id attempt found isOpen => by
    rw [closed id attempt found] at isOpen
    cases isOpen
  current := fun key trial found held => by
    obtain ⟨attempt, lookup, -, isOpen⟩ := (life.trial key trial found).held held
    rw [closed _ attempt lookup] at isOpen
    cases isOpen

/-- A change that keeps the definition and holds no new trial keeps work attended. -/
theorem Attended.same {record after : ExperimentRecord R} (attended : Attended record)
    (definition : after.definition = record.definition)
    (opened : ∀ id attempt', after.attempts.find? id = some attempt' →
      isAttemptTerminal attempt'.state = false → ∃ attempt,
        record.attempts.find? id = some attempt ∧ isAttemptTerminal attempt.state = false)
    (state : record.state = .opened → after.state = .opened)
    (held : ∀ key trial', after.trials.find? key = some trial' → isHeld trial'.state = true →
      record.trials.find? key = some trial') : Attended after where
  opened := fun id attempt' found isOpen => by
    obtain ⟨attempt, before, wasOpen⟩ := opened id attempt' found isOpen
    exact state (attended.opened id attempt before wasOpen)
  current := fun key trial found isHeld => by
    have keeps : KeepsCurrency (fun _ => True) record after := .ofDefinition definition
    exact keeps.current found trivial rfl
      (attended.current key trial (held key trial found isHeld) isHeld)

/-- A change that starts no work keeps it attended, as long as the experiment stays open and its held
trials stay current. -/
theorem Attended.carry {record after : ExperimentRecord R} {marks marks' : Watermarks}
    (attended : Attended record) (life : Lifecycle marks record) (life' : Lifecycle marks' after)
    (attempts : OrderedMap.Evolves AttemptKept record.attempts after.attempts)
    (trials : OrderedMap.Evolves (fun trial trial' => trial'.fixed = trial.fixed) record.trials
      after.trials)
    (opened : ∀ id attempt, record.attempts.find? id = some attempt →
      isAttemptTerminal attempt.state = false → record.state = .opened →
        after.AllClosed ∨ after.state = .opened)
    (keeps : after.AllClosed ∨ KeepsCurrency (fun trial => isHeld trial.state = true) record after) :
    Attended after := by
  by_cases closed : after.AllClosed
  · exact .ofClosed life' closed
  · refine ⟨fun id attempt' found isOpen => ?_, fun key trial' found held => ?_⟩
    · obtain ⟨attempt, before, kept⟩ := attempts.source found
      have wasOpen := kept.live isOpen
      exact (opened id attempt before wasOpen
        (attended.opened id attempt before wasOpen)).resolve_left closed
    · obtain ⟨trial, before, fixed⟩ := trials.source found
      refine (keeps.resolve_left closed).current found held fixed
        (attended.current key trial before ?_)
      obtain ⟨attempt', lookup, named, isOpen⟩ := (life'.trial key trial' found).held held
      obtain ⟨attempt, lookup', kept⟩ := attempts.source lookup
      have sameTrial := congrArg AttemptRecord.trial kept.fixed
      exact ((life.trial key trial before).live _ attempt lookup' (sameTrial.symm.trans named)
        (kept.live isOpen)).1

section Effects

variable [MetricReal R] [CanonicalDigests R]

/-- A request ends all work of an experiment, keeps its state, or finalizes it. -/
theorem Effect.keepsState {c : Coordinator R} {experiment : ExperimentId}
    {record after : ExperimentRecord R} {marks : Watermarks} {request : Request R}
    (effect : Effect c experiment record marks request after) :
    after.Ended ∨ after.state = record.state ∨ ∃ candidate reason,
      request = .finalizeExperiment experiment candidate reason ∧
        c.finalizeGuard experiment = .ok record ∧
          after.state = ExperimentRecord.stateAfter record.state
            (Coordinator.finalDecision record candidate reason ⟨c.state.watermarks.decision + 1⟩
              (c.currentSequence + 1)).outcome := by
  rcases effect.view_state with same | ⟨_, rfl⟩ | finalized | ⟨_, _, rfl⟩
  · exact .inr (.inl same)
  · exact .inl (ended_of_close rfl rfl rfl rfl)
  · exact .inr (.inr finalized)
  · exact .inl (ended_of_close rfl rfl rfl rfl)

end Effects

/-! ## The condition on the steps of a run -/

section Condition

variable [MetricReal R] [CanonicalDigests R]

/-- A finalization of an experiment with live attempts leaves it open. -/
def Coordinator.FinalizesIdle (c : Coordinator R) (experiment : ExperimentId) (candidate : BranchId)
    (reason : Text) : Prop :=
  ∀ record id attempt, c.finalizeGuard experiment = .ok record →
    record.attempts.find? id = some attempt → isAttemptTerminal attempt.state = false →
      ExperimentRecord.stateAfter .opened
        (Coordinator.finalDecision record candidate reason ⟨c.state.watermarks.decision + 1⟩
          (c.currentSequence + 1)).outcome = .opened

omit [MetricReal R] [CanonicalDigests R] in
/-- A failure that invalidates the branch of its trial finds no other trial held on that branch. -/
def Coordinator.FailsAlone (c : Coordinator R) (failure : FailTrialRequest) : Prop :=
  ∀ check, c.failTrialGuard failure = .ok check →
    check.record.definition.partialFailurePolicy = .invalidateBranch →
      ∀ key trial, check.record.trials.find? key = some trial → key ≠ failure.envelope.trial →
        trial.branch = check.trial.branch → isHeld trial.state = false

/-- The condition on the steps of a run: no finalization and no failure leaves live work behind. -/
def OrphansNothing : World R → Event R → Prop
  | .running c, .request (.finalizeExperiment experiment candidate reason) _ =>
      c.FinalizesIdle experiment candidate reason
  | .running c, .request (.failTrial failure) _ => c.FailsAlone failure
  | _, _ => True

omit [MetricReal R] [CanonicalDigests R] in
/-- A failure on a branch without other held trials leaves none of them behind. -/
theorem Coordinator.FailsAlone.leavesNothing {c : Coordinator R} {failure : FailTrialRequest}
    (alone : c.FailsAlone failure) {record : ExperimentRecord R} {branch : BranchDefinition}
    {failed : TrialRecord} {attempt : AttemptRecord}
    (guarded : c.failTrialGuard failure = .ok ⟨record, branch, failed, attempt⟩) (sequence : Nat) :
    ¬ (record.fail failed failure.envelope.trial failure.envelope.attempt failure.kind
      failure.detail failure.retryable sequence).LeftBehind (fun trial => isHeld trial.state = true)
        failed.branch := by
  rintro ⟨invalidates, key, trial, found, held, here⟩
  have policy : record.definition.partialFailurePolicy = .invalidateBranch := by
    rw [← invalidates]
    exact (fail_policy ..).symm
  rw [fail_trials] at found
  rcases OrderedMap.find?_modify_cases found with ⟨-, before, -, rfl⟩ | ⟨other, found⟩
  · unfold TrialRecord.release at held
    dsimp only at held
    split at held <;> cases held
  · rw [alone _ guarded policy key trial found other here] at held
    cases held

omit [MetricReal R] [CanonicalDigests R] in
/-- A new trial is not held. -/
theorem Attended.addTrial {record : ExperimentRecord R} (attended : Attended record)
    (experiment : ExperimentId) (branch : BranchDefinition) (id : TrialId) (payload : Text)
    (sequence : Nat) :
    Attended (record.addTrial (record.newTrial experiment branch id payload sequence)) := by
  refine ⟨attended.opened, ?_⟩
  intro key trial stored held
  have before : record.trials.find? key = some trial := by
    rcases ExperimentRecord.find?_addTrial stored with before | ⟨-, rfl⟩
    · exact before
    · cases held
  have keeps : KeepsCurrency (fun _ => True) record
      (record.addTrial (record.newTrial experiment branch id payload sequence)) := .ofDefinition rfl
  exact keeps.current stored trivial rfl (attended.current key trial before held)

omit [MetricReal R] [CanonicalDigests R] in
/-- A trial is issued when it is current, in an open experiment. -/
theorem Attended.issue {record : ExperimentRecord R} {limits : Limits} {key : TrialId}
    {trial : TrialRecord} {branch : BranchDefinition} (attended : Attended record)
    (identified : Identified record) (opened : record.state = .opened)
    (found : record.trials.find? key = some trial)
    (claimable : record.claimable limits trial = some branch) (attempt : AttemptRecord)
    (sequence : Nat) : Attended (record.issue key attempt sequence) := by
  refine ⟨fun _ _ _ _ => opened, ?_⟩
  intro other trial' lookup held
  have currentNow : ∀ before : TrialRecord, trial'.fixed = before.fixed → record.Current before →
      (record.issue key attempt sequence).Current trial' := by
    intro before fixed current
    have keeps : KeepsCurrency (fun trial => isHeld trial.state = true) record
        (record.issue key attempt sequence) := .ofDefinition rfl
    exact keeps.current lookup held fixed current
  rcases ExperimentRecord.find?_issue_trial lookup with ⟨rfl, before, there, rfl⟩ | ⟨-, stored⟩
  · obtain rfl := Option.some.inj (found.symm.trans there)
    refine currentNow trial rfl ?_
    obtain ⟨policy, policyGeneration⟩ := identified.trialPolicy other trial found
    obtain ⟨generation, revision, branchFound, active, same⟩ := claimable_current claimable
    exact ⟨generation, revision, policy, policyGeneration, branch, branchFound, active, same⟩
  · exact currentNow trial' rfl (attended.current other trial' stored held)

omit [MetricReal R] [CanonicalDigests R] in
/-- Staging opens no attempt and holds no trial. -/
theorem Attended.stage {record : ExperimentRecord R} (attended : Attended record) (sequence : Nat) :
    Attended (record.stage sequence).2 := by
  have fields := stage_forget_fields record sequence
  refine attended.same ?_ ?_ ?_ ?_
  · rw [fields]
    rfl
  · intro id attempt' found isOpen
    obtain ⟨reached, visited⟩ := stage_attempts record sequence id
    rw [visited] at found
    obtain ⟨attempt, before, rfl⟩ := Option.map_eq_some_iff.mp found
    refine ⟨attempt, before, ?_⟩
    by_contra closed
    rw [Bool.not_eq_false] at closed
    rw [stageAttempt, if_pos closed, closed] at isOpen
    cases isOpen
  · intro opened
    rw [fields]
    unfold ExperimentRecord.reopened
    dsimp only
    split
    · rfl
    · exact opened
  · intro key trial' found held
    obtain ⟨reached, visited⟩ := stage_trials record sequence key
    rw [visited] at found
    obtain ⟨trial, before, rfl⟩ := Option.map_eq_some_iff.mp found
    by_cases closed : isTerminal trial.state = true
    · rw [stageTrial, if_pos closed]
      exact before
    · rw [stageTrial, if_neg closed] at held
      cases held

omit [MetricReal R] [CanonicalDigests R] in
/-- After recovery every attempt is closed, and no trial is held. -/
theorem attended_of_recovered {record after : ExperimentRecord R}
    (same : after.forget = record.recovered.forget) : Attended after := by
  refine ⟨?_, ?_⟩
  · intro key attempt lookup isOpen
    obtain ⟨recovered, held, equal⟩ := forget_attempt same lookup
    simp only [ExperimentRecord.recovered, OrderedMap.find?_mapValues] at held
    obtain ⟨before, -, rfl⟩ := Option.map_eq_some_iff.mp held
    have state := congrArg (fun forgotten => forgotten.state) equal
    have closed := recoveredAttempt_terminal before
    rw [show (recoveredAttempt before).state = attempt.state from state, isOpen] at closed
    cases closed
  · intro key trial lookup isHeld
    obtain ⟨recovered, held, equal⟩ := forget_trial same lookup
    simp only [ExperimentRecord.recovered, OrderedMap.find?_mapValues] at held
    obtain ⟨before, -, rfl⟩ := Option.map_eq_some_iff.mp held
    have state := congrArg (fun forgotten => forgotten.state) equal
    rw [← show (record.reopened.recoveredTrial before).state = trial.state from state] at isHeld
    unfold ExperimentRecord.recoveredTrial at isHeld
    split at isHeld
    · rename_i closed
      rw [isTerminal_of_isHeld isHeld] at closed
      cases closed
    · unfold ExperimentRecord.resolvedTrial at isHeld
      split at isHeld <;> cases isHeld

/-- Being attended is kept by every step that leaves no live work behind. -/
theorem attended_invariant : RecordInvariant OrphansNothing
    fun record : ExperimentRecord R => Identified record ∧ Attended record where
  logged := fun {record} {line} ⟨identified, attended⟩ =>
    ⟨identified_invariant.logged identified, attended.same rfl
      (fun _ attempt found isOpen => ⟨attempt, found, isOpen⟩) id (fun _ _ found _ => found)⟩
  created := by
    rintro spec limits marks expected branches _ sequence accepted branched rfl valid
    refine ⟨identified_invariant.created accepted branched rfl valid, ?_, ?_⟩
    all_goals
      intro key value found
      simp [ExperimentSpec.record] at found
  changed := by
    rintro c request fault experiment record after marks marks' meets effect life
      ⟨identified, attended⟩
    have rewritten := moves_rewritten effect.moves
    refine ⟨effect.identified identified,
      attended.carry life (moves_lifecycle life effect.moves) rewritten.attempts
        rewritten.carries.trials ?_ ?_⟩
    · intro id attempt found isOpen opened
      rcases effect.keepsState with ended | same | ⟨candidate, reason, rfl, guarded, reached⟩
      · exact .inl ended.attempts
      · exact .inr (same.trans opened)
      · rw [reached, opened]
        exact .inr (meets record id attempt guarded found isOpen)
    · have keeps : after.Ended ∨
          KeepsCurrency (fun trial => isHeld trial.state = true) record after := by
        refine effect.keepsCurrency (fun _ held => isTerminal_of_isHeld held) ?_
        rintro failure check rfl guarded
        cases effect with
        | @fail _ branch failed attempt named accepted =>
            obtain rfl := Except.ok.inj (accepted.symm.trans guarded)
            exact Coordinator.FailsAlone.leavesNothing meets guarded _
      exact keeps.imp (fun ended => ended.attempts) id
  added := by
    rintro c experiment branchId payload record branch guarded ⟨identified, attended⟩
    exact ⟨identified_invariant.added guarded identified, attended.addTrial ..⟩
  issued := by
    rintro record limits key trial branch marks id worker boot epoch producer sequence opened found
      claimable life fresh ⟨identified, attended⟩
    exact ⟨identified.issue life found _ _ _ _ _ _,
      attended.issue identified opened found claimable _ _⟩
  lost := by
    rintro record marks worker boot kind attemptDetail trialDetail line sequence life
      ⟨identified, attended⟩
    have rewritten := loseWorker_rewritten worker boot kind attemptDetail trialDetail sequence line
      record
    obtain ⟨state, definition⟩ := loseWorker_fields worker boot kind attemptDetail trialDetail
      sequence line record
    refine ⟨identified_invariant.lost life identified, attended.carry life (life.loseWorker ..)
      rewritten.attempts rewritten.carries.trials (fun _ _ _ _ opened => .inr (state.trans opened))
      (.inr (.ofDefinition definition))⟩
  staged := by
    rintro record sequence ⟨identified, attended⟩
    exact ⟨identified_invariant.staged sequence identified, attended.stage sequence⟩
  recovered := by
    rintro image config outcomes id record after _ found same frozen ⟨identified, attended⟩
    exact ⟨identified.recovered same, attended_of_recovered same⟩

/-! ## Acceptance -/

omit [MetricReal R] [CanonicalDigests R] in
/-- The envelope of a live attempt is admitted by an attended record. -/
theorem Attended.admitted {record : ExperimentRecord R} {marks : Watermarks}
    (attended : Attended record) (identified : Identified record) (life : Lifecycle marks record)
    {id : TrialAttemptId} {attempt : AttemptRecord} (found : record.attempts.find? id = some attempt)
    (isOpen : isAttemptTerminal attempt.state = false) :
    ∃ branch trial, Admitted record (record.envelopeOf attempt) branch trial attempt ∧
      branch ∈ record.definition.branches := by
  obtain ⟨trial, trialFound, onBranch, atGeneration⟩ := identified.attemptBranch id attempt found
  have cell := life.trial _ trial trialFound
  obtain ⟨held, authoritative⟩ := cell.live id attempt found rfl isOpen
  have current := attended.current _ trial trialFound held
  obtain ⟨branch, branchFound, active, generation⟩ := current.branch
  have named : attempt.id = id := life.attemptId id attempt found
  refine ⟨branch, trial, ?_, List.mem_of_find?_eq_some branchFound⟩
  exact {
    opened := attended.opened id attempt found isOpen
    generation := rfl
    hypothesis := rfl
    hypothesisRevision := rfl
    policy := rfl
    policyGeneration := rfl
    branchFound := by
      rw [show (record.envelopeOf attempt).branch = trial.branch from onBranch]
      exact branchFound
    branchGeneration := generation.trans atGeneration.symm
    branchActive := active
    trialFound := trialFound
    trialBranch := onBranch.symm
    trialGeneration := current.generation
    trialBranchGeneration := atGeneration.symm
    trialRevision := current.hypothesisRevision
    trialPolicy := current.policy
    trialPolicyGeneration := current.policyGeneration
    trialOpen := isTerminal_of_isHeld held
    authoritative := authoritative.trans named.symm
    attemptFound := by
      rw [show (record.envelopeOf attempt).attempt = id from named]
      exact found
    attemptWorker := rfl
    attemptBoot := rfl
    attemptEpoch := rfl
    attemptOpen := isOpen }

omit [MetricReal R] [CanonicalDigests R] in
/-- No identity in the envelope of a live attempt is null. -/
theorem Admitted.wellFormed {c : Coordinator R} {record : ExperimentRecord R} {marks : Watermarks}
    {branch : BranchDefinition} {trial : TrialRecord} {attempt : AttemptRecord}
    {id : TrialAttemptId}
    (admitted : Admitted record (record.envelopeOf attempt) branch trial attempt)
    (identified : Identified record) (life : Lifecycle marks record) (registered : c.Registered)
    (held : record.attempts.find? id = some attempt)
    (declared : branch ∈ record.definition.branches)
    (holds : attempt.epoch = c.epoch ∧ c.HasProducer attempt.worker attempt.boot attempt.producer) :
    validateEnvelopeStructure (record.envelopeOf attempt) = .ok () := by
  obtain ⟨epoch, live, liveFound, -, producer⟩ := holds
  obtain ⟨workerValid, bootValid, producerValid⟩ := registered.worker _ _ live liveFound
  obtain ⟨branchValid, generationValid⟩ := identified.branches branch declared
  have branchId := ExperimentRecord.findBranch_id admitted.branchFound
  have epochValid : attempt.epoch.valid = true := by rw [epoch, registered.epoch]
  rw [producer] at producerValid
  have attemptValid : attempt.id.valid = true := by
    rw [life.attemptId id attempt held]
    simpa [StrongId.valid] using life.attemptValid id attempt held
  simp only [validateEnvelopeStructure, require_bind_eq_ok, require_eq_ok]
  exact ⟨epochValid, identified.identity, identified.generation,
    identified.hypothesis, identified.hypothesisRevision, identified.policy,
    identified.policyGeneration, branchId ▸ branchValid, admitted.branchGeneration ▸ generationValid,
    identified.trialKey _ trial admitted.trialFound, attemptValid, workerValid, bootValid,
    producerValid⟩

/-- Throughout every run whose finalizations and failures leave no live work behind, a coordinator
that admits work accepts, for every live attempt, the envelope that a claim of its lifetime returned
for it. -/
theorem live_attempts_accepted {path : Text} {events : List (Event R)} {c : Coordinator R}
    (run : Run (fun source event target => OrphansNothing source event ∧
      World.Step path source event target) (.down none) events (.running c))
    (admitting : c.admittingWork = true) {experiment : ExperimentId} {record : ExperimentRecord R}
    {id : TrialAttemptId} {attempt : AttemptRecord}
    (found : c.findExperiment experiment = some record)
    (held : record.attempts.find? id = some attempt)
    (isOpen : isAttemptTerminal attempt.state = false) :
    ∃ envelope check, envelope.attempt = id ∧ ClaimedSince path envelope events (.running c) ∧
      c.checkEnvelope envelope = .ok check := by
  obtain ⟨⟨-, consistent, arranged, -⟩, attended, -⟩ := attended_invariant.durable.run run
  obtain ⟨identified, attends⟩ := attended experiment record found
  have steps : Run (World.Step path) (.down none) events (.running c) :=
    run.mono fun _ _ _ step => step.2
  have reachable : (World.running c).Reachable path := ⟨events, steps⟩
  have life := consistent experiment record found
  obtain ⟨branch, trial, admitted, declared⟩ :=
    attends.admitted identified life held isOpen
  have placed := arranged.placed experiment record found
  have lookup : c.findExperiment (record.envelopeOf attempt).experiment = some record := by
    rw [show (record.envelopeOf attempt).experiment = experiment from placed.identity]
    exact found
  have granted : (World.running c).Grants (record.envelopeOf attempt) :=
    ⟨record, branch, trial, attempt, lookup, admitted, rfl⟩
  refine ⟨record.envelopeOf attempt, ⟨record, branch, trial, attempt⟩,
    life.attemptId id attempt held, granted.claimedSince steps, ?_⟩
  have holds := reachable.liveAuthority experiment record id attempt found held isOpen
  refine (c.checkEnvelope_eq_ok _ _).mpr ⟨?_, admitting, ⟨holds.1, holds.2⟩, lookup, admitted⟩
  exact admitted.wellFormed identified life reachable.registered held declared holds

end Condition

namespace Sample

/-- The claimed trial, after its experiment was finalized for the baseline. -/
def finalizedEarly : Coordinator ℚ :=
  claimed.session [(.finalizeExperiment experiment baseline [], none)]

/-- The live attempts of the sample experiment. -/
def liveAttempts (c : Coordinator ℚ) : List (TrialAttemptId × AttemptRecord) :=
  ((c.findExperiment experiment).map fun record => record.liveAttemptsOf worker boot).getD []

/-- The live attempt of the sample experiment. -/
theorem liveAttempts_ne_nil {c : Coordinator ℚ} (live : liveAttempts c ≠ []) :
    ∃ record id attempt, c.findExperiment experiment = some record ∧
      record.attempts.find? id = some attempt ∧ isAttemptTerminal attempt.state = false := by
  obtain ⟨entry, member⟩ := List.exists_mem_of_ne_nil _ live
  unfold liveAttempts at member
  cases found : c.findExperiment experiment with
  | none =>
      rw [found] at member
      cases member
  | some record =>
      rw [found] at member
      obtain ⟨listed, selected⟩ := List.mem_filter.mp member
      refine ⟨record, entry.1, entry.2, rfl, (OrderedMap.mem_entries_iff _ _ _).mp listed, ?_⟩
      simpa using (Bool.and_eq_true_iff.mp selected).2

end Sample

/-- The envelope of the claimed sample trial is accepted. -/
theorem live_attempts_accepted_sample : ∃ envelope check,
    Sample.claimed.checkEnvelope envelope = .ok check := by
  have started : Run (fun source event target => OrphansNothing source event ∧
      World.Step Sample.config.statePath source event target) (.down none)
      [.start Sample.config fun _ => none] (.running Sample.coordinator) :=
    .single ⟨trivial, .start rfl Sample.coordinator_started⟩
  have run := started.append (Sample.coordinator.session_run_of Sample.config.statePath
    Sample.claiming (by
      intro request member reached
      simp only [Sample.claiming, List.mem_cons, List.not_mem_nil, or_false] at member
      rcases member with rfl | rfl | rfl | rfl <;> trivial))
  have live : Sample.liveAttempts Sample.claimed ≠ [] := by decide +kernel
  obtain ⟨record, id, attempt, found, held, isOpen⟩ := Sample.liveAttempts_ne_nil live
  have admitting : Sample.claimed.admittingWork = true := by decide +kernel
  obtain ⟨envelope, check, -, -, accepted⟩ := live_attempts_accepted run admitting found held isOpen
  exact ⟨envelope, check, accepted⟩

/-- A finalization concludes an experiment while an attempt is live, and the envelope the claim
returned for it is refused from then on. -/
theorem finalized_attempt_orphaned :
    (World.running Sample.finalizedEarly).Reachable Sample.config.statePath ∧
      Sample.finalizedEarly.admittingWork = true ∧
      Sample.liveAttempts Sample.finalizedEarly ≠ [] ∧
      (((Sample.coordinator.session (Sample.claiming.take 3)).claimTrials
        { epoch := Sample.coordinator.epoch, worker := Sample.worker, boot := Sample.boot }
        none).2.assignments.map TrialAssignment.envelope = [Sample.envelope]) ∧
      ∀ check, Sample.finalizedEarly.checkEnvelope Sample.envelope ≠ .ok check := by
  refine ⟨Sample.claimed_reachable.session _, by decide +kernel, by decide +kernel,
    by decide +kernel, fun check accepted => ?_⟩
  have refused : (Sample.finalizedEarly.checkEnvelope Sample.envelope).isOk = false := by
    decide +kernel
  rw [accepted] at refused
  cases refused


end ExperimentFabric
