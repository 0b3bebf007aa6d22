import ExperimentFabric.Endings
import ExperimentFabric.Issuance
import ExperimentFabric.Session

/-!
# Fencing

An envelope that a coordinator accepts was handed out by a claim of the same lifetime, and nothing
that takes authority away has happened since.  Generations alone do not give this, for a rollback
restores old ones; it follows from the live attempt the envelope names.
-/

namespace ExperimentFabric

open Lib Relation

variable {R : Type}

/-! ## Live attempts have live incarnations -/

namespace Coordinator

theorem LiveAuthority.congr {c c' : Coordinator R} (authority : c.LiveAuthority)
    (experiments : c'.state.experiments = c.state.experiments) (epoch : c'.epoch = c.epoch)
    (workers : c'.liveWorkers = c.liveWorkers) : c'.LiveAuthority :=
  authority.keep (.ofEq experiments) epoch (HasProducer.ofEq workers)

theorem LiveAuthority.persisted {c : Coordinator R} (authority : c.LiveAuthority)
    (fault : Option SaveFault) : (c.persistLocked fault).1.LiveAuthority :=
  authority.congr (by rw [persistLocked_state]) (by simp) (by simp)

theorem LiveAuthority.replaceIncarnations {c : Coordinator R} (authority : c.LiveAuthority)
    (sequence : Nat) (replaced : List LiveWorker) :
    (replaced.foldl (replaceIncarnation sequence) c).LiveAuthority := by
  induction replaced generalizing c with
  | nil => exact authority
  | cons live rest ih =>
      have first : (replaceIncarnation sequence c live).LiveAuthority := by
        refine authority.lose rfl (fun key other => ?_) rfl
        simp [replaceIncarnation, other]
      exact ih first

theorem LiveAuthority.addWorker {c : Coordinator R} (authority : c.LiveAuthority)
    (request : RegisterWorkerRequest) : (c.addWorker request).LiveAuthority := by
  refine authority.keep (.ofEq rfl) rfl ?_
  rintro worker boot producer ⟨live, found, held⟩
  refine ⟨live, ?_, held⟩
  have lookup : c.liveWorkers.find? (workerKey worker boot) = some live := found
  rw [findLiveWorker, Coordinator.addWorker, OrderedMap.find?_emplace]
  split
  · rename_i here
    rw [← here]
    simp [lookup]
  · exact lookup

theorem LiveAuthority.registerWorker {c : Coordinator R} (authority : c.LiveAuthority)
    (request : RegisterWorkerRequest) (fault : Option SaveFault) :
    (c.registerWorker request fault).1.LiveAuthority := by
  unfold Coordinator.registerWorker
  split
  · exact authority
  · split
    · split <;> exact authority
    · have counted : c.nextSequence.LiveAuthority := authority.congr rfl rfl rfl
      have replaced := counted.replaceIncarnations c.nextSequence.currentSequence
        (c.nextSequence.replacedBy request.worker request.boot)
      dsimp only
      split
      · exact replaced
      · have ended := (replaced.addWorker request).persisted fault
        rw [← settle_id_fst _ fault ()] at ended
        split <;>
        · rename_i settled
          rw [settled] at ended
          exact ended

theorem LiveAuthority.revokeWorker {c : Coordinator R} (authority : c.LiveAuthority)
    (worker : WorkerId) (boot : WorkerBootId) (kind : FailureKind) (reason : Text)
    (fault : Option SaveFault) :
    (c.revokeWorker worker boot kind reason fault).1.LiveAuthority := by
  unfold Coordinator.revokeWorker
  split
  · exact authority
  · rw [settle_id_fst]
    apply LiveAuthority.persisted
    refine authority.lose rfl (fun key other => ?_) rfl
    simp [other]

theorem LiveAuthority.claimTrials {c : Coordinator R} (authority : c.LiveAuthority)
    (claim : ClaimTrialRequest) (fault : Option SaveFault) :
    (c.claimTrials claim fault).1.LiveAuthority := by
  rcases c.claimTrials_spec claim fault with same | ⟨live, guarded, invariant, state, workers, -⟩
  · rw [same]
    exact authority
  · have epoch : (c.claimTrials claim fault).1.epoch = c.epoch :=
      (c.claimTrials_operated claim fault).epoch
    have kept : ∀ worker boot producer, c.HasProducer worker boot producer →
        (c.claimTrials claim fault).1.HasProducer worker boot producer := by
      intro worker boot producer held
      have earlier : (c.claimLoop claim live).coordinator.HasProducer worker boot producer :=
        .ofEq invariant.workers _ _ _ held
      unfold countAssignments at workers
      dsimp only at workers
      refine .modify workers ?_ _ _ _ earlier
      exact fun _ => ⟨rfl, rfl⟩
    intro experiment record' id attempt found lookup isOpen
    rw [findExperiment, state] at found
    obtain ⟨record, earlier, claimed⟩ := invariant.records experiment record' found
    rcases claimed.attempts id attempt lookup with before | issued
    · obtain ⟨sameEpoch, held⟩ := authority experiment record id attempt earlier before isOpen
      exact ⟨sameEpoch.trans epoch.symm, kept _ _ _ held⟩
    · have allowed := claimTrialsGuard_ok guarded
      refine ⟨issued.epoch.trans epoch.symm, kept _ _ _ ⟨live, ?_, allowed.unrevoked, ?_⟩⟩
      · rw [issued.worker, issued.boot]
        exact allowed.found
      · exact issued.producer.symm

section Perform

variable [MetricReal R] [CanonicalDigests R]

/-- Every request keeps the authority of live attempts. -/
theorem LiveAuthority.perform {c : Coordinator R} (authority : c.LiveAuthority)
    (request : Request R) (fault : Option SaveFault) :
    (c.perform request fault).1.LiveAuthority := by
  cases writes : writesWorkers request with
  | false =>
      have notClaim : ∀ claim, request ≠ .claimTrials claim := by
        rintro claim rfl
        cases writes
      exact authority.keep ((c.perform_steps request fault).liveFrom notClaim)
        (c.perform_operated request fault).epoch
        (HasProducer.ofEq (c.perform_liveWorkers request fault writes))
  | true =>
      cases request with
      | registerWorker request => exact authority.registerWorker request fault
      | revokeWorker worker boot kind reason =>
          exact authority.revokeWorker worker boot kind reason fault
      | heartbeat request =>
          refine authority.keep
            ((c.perform_steps (.heartbeat request) fault).liveFrom fun _ => by simp)
            (c.perform_operated (.heartbeat request) fault).epoch ?_
          simp only [Coordinator.perform, Coordinator.heartbeat]
          split
          · exact fun _ _ _ held => held
          · intro worker boot producer held
            have reported : (c.reporting request).liveWorkers =
                c.liveWorkers.modify (workerKey request.worker request.boot) fun entry =>
                  { entry with activeAssignments := request.activeAssignments } := rfl
            refine HasProducer.modify reported ?_ worker boot producer held
            exact fun _ => ⟨rfl, rfl⟩
      | claimTrials request => exact authority.claimTrials request fault
      | _ => cases writes

end Perform

end Coordinator

/-- A start leaves no live attempt. -/
theorem Recovers.closed {old new : CoordinatorState R} (recovers : Recovers old new)
    {experiment : ExperimentId} {record : ExperimentRecord R}
    (found : new.experiments.find? experiment = some record) : record.AllClosed := by
  obtain ⟨original, -, same, -⟩ := recovers.source found
  intro id attempt lookup
  obtain ⟨recovered, held, equal⟩ := forget_attempt same lookup
  simp only [ExperimentRecord.recovered, OrderedMap.find?_mapValues] at held
  obtain ⟨before, -, rfl⟩ := Option.map_eq_some_iff.mp held
  have state : (recoveredAttempt before).state = attempt.state :=
    congrArg (fun forgotten => forgotten.state) equal
  rw [← state]
  exact recoveredAttempt_terminal before

/-- The invariant of worlds: a running coordinator has live incarnations for its live attempts. -/
def World.LiveAuthority : World R → Prop
  | .running c => c.LiveAuthority
  | .down _ => True

section World

variable [MetricReal R] [CanonicalDigests R]

omit [CanonicalDigests R] in
/-- A coordinator that has just started holds no live attempt. -/
theorem started_closed {path : Text} {config : Config} {image left : Option (CoordinatorState R)}
    {outcomes : WriteOutcomes} {c : Coordinator R} (sound : SoundImage path image)
    (started : Coordinator.create config image outcomes = (left, .ok c))
    {experiment : ExperimentId} {record : ExperimentRecord R}
    (found : c.findExperiment experiment = some record) : record.AllClosed := by
  have outcome := Coordinator.create_spec config image outcomes (sound.origin config).1
  exact (outcome.recovers c (by rw [started])).closed found

theorem World.Step.liveAuthority {path : Text} {source target : World R} {event : Event R}
    (step : World.Step path source event target) (sound : source.Sound path)
    (authority : source.LiveAuthority) : target.LiveAuthority := by
  cases step with
  | request c request fault => exact Coordinator.LiveAuthority.perform authority request fault
  | stop c => trivial
  | start samePath started =>
      intro experiment record id attempt found lookup isOpen
      rw [started_closed sound started found id attempt lookup] at isOpen
      cases isOpen
  | failedStart samePath refused => trivial

theorem World.Reachable.liveAuthority {path : Text} {world : World R}
    (reachable : world.Reachable path) : world.LiveAuthority := by
  obtain ⟨events, run⟩ := reachable
  have both := run.preserves (fun source event target holds step =>
    And.intro (World.Step.sound step holds.1) (World.Step.liveAuthority step holds.1 holds.2))
    ⟨(World.Reachable.empty path).sound, trivial⟩
  exact both.2

end World

/-! ## Granted envelopes -/

/-- The state admits the envelope, and its attempt was issued to the producer it names. -/
def CoordinatorState.Grants (state : CoordinatorState R) (envelope : AuthorityEnvelope) : Prop :=
  ∃ record branch trial attempt, state.experiments.find? envelope.experiment = some record ∧
    Admitted record envelope branch trial attempt ∧ attempt.producer = envelope.producer

/-- A running coordinator grants the envelope. -/
def World.Grants (envelope : AuthorityEnvelope) : World R → Prop
  | .running c => c.state.Grants envelope
  | .down _ => False

/-- An accepted envelope is granted. -/
theorem grants_of_checkEnvelope {c : Coordinator R} {envelope : AuthorityEnvelope}
    {check : EnvelopeCheck R} (authority : c.LiveAuthority)
    (accepted : c.checkEnvelope envelope = .ok check) : c.state.Grants envelope := by
  obtain ⟨-, -, holds, found, admitted⟩ := (c.checkEnvelope_eq_ok _ _).mp accepted
  refine ⟨check.record, check.branch, check.trial, check.attempt, found, admitted, ?_⟩
  obtain ⟨-, live, liveFound, -, producer⟩ :=
    authority _ _ _ _ found admitted.attemptFound admitted.attemptOpen
  obtain ⟨other, otherFound, -, same⟩ := holds.live
  rw [admitted.attemptWorker, admitted.attemptBoot, otherFound] at liveFound
  obtain rfl := Option.some.inj liveFound
  exact producer.symm.trans same

section Granted

variable [MetricReal R] [CanonicalDigests R] {c : Coordinator R} {envelope : AuthorityEnvelope}

/-- Requests other than claims grant nothing new. -/
theorem StateSteps.grants_source {request : Request R} {old new : CoordinatorState R}
    (steps : StateSteps c request old new) (notClaim : ∀ claim, request ≠ .claimTrials claim)
    (consistent : old.Consistent) (arranged : old.Arranged) (grants : new.Grants envelope) :
    old.Grants envelope := by
  obtain ⟨record', branch', trial', attempt', found', admitted', producer⟩ := grants
  obtain ⟨record, branch, trial, attempt, found, admitted⟩ := steps.admits_source notClaim
    consistent arranged ⟨record', branch', trial', attempt', found', admitted'⟩
  obtain ⟨other, earlier, lookup, held, -, fixed⟩ := steps.liveFrom notClaim _ _ _ _ found'
    admitted'.attemptFound admitted'.attemptOpen
  obtain rfl := Option.some.inj (found.symm.trans lookup)
  obtain rfl := Option.some.inj (admitted.attemptFound.symm.trans held)
  obtain ⟨-, -, -, same⟩ := Coordinator.issuedTo_of_fixed fixed
  exact ⟨record, branch, trial, attempt, found, admitted, same.symm.trans producer⟩

omit [MetricReal R] [CanonicalDigests R] in
/-- The envelope of a granted attempt is the one its assignment carries. -/
theorem IssuedBy.envelope_eq {claim : ClaimTrialRequest} {producer : ProducerId}
    {epoch : CoordinatorEpoch} {assignments : List TrialAssignment} {marks : Watermarks}
    {record : ExperimentRecord R} {branch : BranchDefinition} {trial : TrialRecord}
    {attempt : AttemptRecord} (issued : IssuedBy claim epoch producer assignments record attempt)
    (life : Lifecycle marks record) (placed : Placed envelope.experiment record)
    (admitted : Admitted record envelope branch trial attempt)
    (sameProducer : attempt.producer = envelope.producer) :
    record.envelopeOf attempt = envelope := by
  have owned : attempt.trial = envelope.trial := admitted.livePair.owned life
  obtain ⟨key, named, lookup, trialId, branchId, generation⟩ := issued.trial
  have sameKey : key = envelope.trial := by
    rw [← owned, trialId, (life.trial key named lookup).id]
  subst sameKey
  obtain rfl := Option.some.inj (lookup.symm.trans admitted.trialFound)
  obtain ⟨epoch, experiment, generation', hypothesis, revision, policy, policyGeneration, branch',
    branchGeneration, trial', attempt', worker, boot, producer'⟩ := envelope
  simp only [ExperimentRecord.envelopeOf, AuthorityEnvelope.mk.injEq]
  refine ⟨admitted.attemptEpoch, placed.identity, admitted.generation.symm,
    admitted.hypothesis.symm, admitted.hypothesisRevision.symm, admitted.policy.symm,
    admitted.policyGeneration.symm, branchId.trans admitted.trialBranch,
    generation.trans admitted.trialBranchGeneration, owned, ?_, admitted.attemptWorker,
    admitted.attemptBoot, sameProducer⟩
  exact life.attemptId _ attempt admitted.attemptFound

/-- The claim returned an assignment with the envelope, to the incarnation it names. -/
def Coordinator.Assigned (c : Coordinator R) (claim : ClaimTrialRequest)
    (fault : Option SaveFault) (envelope : AuthorityEnvelope) : Prop :=
  claim.worker = envelope.worker ∧ claim.boot = envelope.boot ∧
    ∃ assignment ∈ (c.claimTrials claim fault).2.assignments, assignment.envelope = envelope

/-- A claim that makes an envelope granted returned it. -/
theorem Coordinator.assigned_of_claim {claim : ClaimTrialRequest} {fault : Option SaveFault}
    (consistent : c.state.Consistent) (arranged : c.state.Arranged)
    (absent : ¬ c.state.Grants envelope)
    (grants : (c.claimTrials claim fault).1.state.Grants envelope) :
    c.Assigned claim fault envelope := by
  obtain ⟨consistent', arranged'⟩ := (c.claimTrials_steps claim fault).sound consistent arranged
  obtain ⟨record', branch', trial', attempt, found', admitted, producer⟩ := grants
  rcases c.claimTrials_spec claim fault with same | ⟨live, guarded, invariant, state, -, assigned⟩
  · rw [same] at found'
    exact (absent ⟨record', branch', trial', attempt, found', admitted, producer⟩).elim
  · have life := consistent' _ record' found'
    have placed := arranged'.placed _ record' found'
    rw [state] at found'
    obtain ⟨record, found, claimed⟩ := invariant.records _ record' found'
    rcases claimed.attempts _ attempt admitted.attemptFound with before | issued
    · obtain ⟨branch, trial, earlier⟩ := admitted.source claimed.trials.extends_
        (.ofDefinition (fun opened => claimed.state ▸ opened) claimed.definition)
        (consistent _ record found) life (arranged.placed _ record found) before (.refl attempt)
      exact (absent ⟨record, branch, trial, attempt, found, earlier, producer⟩).elim
    · obtain ⟨assignment, listed, carries⟩ := issued.assigned
      refine ⟨?_, ?_, assignment, assigned ▸ listed, ?_⟩
      · exact issued.worker.symm.trans admitted.attemptWorker
      · exact issued.boot.symm.trans admitted.attemptBoot
      · exact carries.trans (issued.envelope_eq life placed admitted producer)

/-- Only claims make an envelope granted. -/
theorem World.Step.grants_established {path : Text} {source target : World R} {event : Event R}
    (step : World.Step path source event target) (sound : source.Sound path)
    (absent : ¬ source.Grants envelope) (present : target.Grants envelope) :
    ∃ c claim fault, source = .running c ∧ event = .request (.claimTrials claim) fault ∧
      target = .running (c.claimTrials claim fault).1 ∧ c.Assigned claim fault envelope := by
  cases step with
  | request c request fault =>
      obtain ⟨-, consistent, arranged, -⟩ := sound
      by_cases claims : ∃ claim, request = .claimTrials claim
      · obtain ⟨claim, rfl⟩ := claims
        exact ⟨c, claim, fault, rfl, rfl, rfl,
          Coordinator.assigned_of_claim consistent arranged absent present⟩
      · have notClaim : ∀ claim, request ≠ .claimTrials claim :=
          fun claim same => claims ⟨claim, same⟩
        exact (absent ((c.perform_steps request fault).grants_source notClaim consistent arranged
          present)).elim
  | stop c => exact present.elim
  | start samePath started =>
      obtain ⟨record, branch, trial, attempt, found, admitted, -⟩ := present
      have terminal := started_closed sound started found _ _ admitted.attemptFound
      rw [admitted.attemptOpen] at terminal
      cases terminal
  | failedStart samePath refused => exact present.elim

end Granted

/-! ## What takes authority away -/

/-- Requests whose success takes the authority of an envelope away. -/
inductive FencingRequest (envelope : AuthorityEnvelope) : Request R → Prop where
  | revise (spec : HypothesisRevisionSpec) :
      FencingRequest envelope (.reviseHypothesis envelope.experiment spec)
  | rollback (target : ExperimentGeneration) (reason : Text) :
      FencingRequest envelope (.rollback envelope.experiment target reason)
  | cancel (reason : Text) :
      FencingRequest envelope (.cancelExperiment envelope.experiment reason)
  | retire (reason : Text) :
      FencingRequest envelope (.retireBranch envelope.experiment envelope.branch reason)
  | cancelTrial (reason : Text) : FencingRequest envelope (.cancelTrial envelope.trial reason)
  | commit (request : CommitTrialRequest) (same : request.envelope.trial = envelope.trial) :
      FencingRequest envelope (.commitTrial request)
  | fail (request : FailTrialRequest) (same : request.envelope.trial = envelope.trial) :
      FencingRequest envelope (.failTrial request)
  | revoke (kind : FailureKind) (reason : Text) :
      FencingRequest envelope (.revokeWorker envelope.worker envelope.boot kind reason)

section Fences

variable [MetricReal R] [CanonicalDigests R]

/-- A step that takes the authority of an envelope away: it ends the lifetime, it is the success of
a fencing request, or it leaves the experiment not open, the branch not active, or the incarnation
revoked or unknown. -/
inductive Fences (envelope : AuthorityEnvelope) : World R → Event R → World R → Prop where
  | lifetime {source target : World R} {event : Event R}
      (notRequest : ∀ request fault, event ≠ .request request fault) :
      Fences envelope source event target
  | succeeded {c : Coordinator R} {request : Request R} {fault : Option SaveFault}
      (fencing : FencingRequest envelope request)
      (success : (c.perform request fault).2.succeeded = true) :
      Fences envelope (.running c) (.request request fault)
        (.running (c.perform request fault).1)
  | closed {source : World R} {event : Event R} {c : Coordinator R} {record : ExperimentRecord R}
      (found : c.findExperiment envelope.experiment = some record)
      (notOpen : record.state ≠ .opened) : Fences envelope source event (.running c)
  | branchClosed {source : World R} {event : Event R} {c : Coordinator R}
      {record : ExperimentRecord R} {branch : BranchDefinition}
      (found : c.findExperiment envelope.experiment = some record)
      (branchFound : record.findBranch envelope.branch = some branch)
      (notActive : branch.state ≠ .active) : Fences envelope source event (.running c)
  | workerLost {source : World R} {event : Event R} {c : Coordinator R}
      (lost : ∀ live, c.findLiveWorker envelope.worker envelope.boot = some live →
        live.revoked = true) : Fences envelope source event (.running c)

variable {c : Coordinator R} {envelope : AuthorityEnvelope}

omit [MetricReal R] [CanonicalDigests R] in
theorem not_grants_of_closed {state : CoordinatorState R} {record : ExperimentRecord R}
    (found : state.experiments.find? envelope.experiment = some record)
    (closed : record.AllClosed) : ¬ state.Grants envelope := by
  rintro ⟨other, branch, trial, attempt, lookup, admitted, -⟩
  obtain rfl := Option.some.inj (found.symm.trans lookup)
  have terminal := closed _ attempt admitted.attemptFound
  rw [admitted.attemptOpen] at terminal
  cases terminal

omit [MetricReal R] [CanonicalDigests R] in
/-- A trial that no attempt holds has no granted envelope. -/
theorem not_grants_of_released {state : CoordinatorState R} {experiment : ExperimentId}
    {record : ExperimentRecord R} {trial : TrialRecord} (consistent : state.Consistent)
    (arranged : state.Arranged) (found : state.experiments.find? experiment = some record)
    (trialFound : record.trials.find? envelope.trial = some trial)
    (released : isHeld trial.state = false) : ¬ state.Grants envelope := by
  rintro ⟨other, branch, trial', attempt, lookup, admitted, -⟩
  obtain rfl := arranged.apart _ _ record other _ trial trial' found lookup trialFound
    admitted.trialFound
  obtain rfl := Option.some.inj (found.symm.trans lookup)
  obtain rfl := Option.some.inj (trialFound.symm.trans admitted.trialFound)
  have life := consistent _ record found
  have owned := admitted.livePair.owned life
  obtain ⟨held, -⟩ := (life.trial _ trial trialFound).live _ attempt admitted.attemptFound owned
    admitted.attemptOpen
  rw [released] at held
  cases held

omit [MetricReal R] [CanonicalDigests R] in
theorem cancelTrial_released {record : ExperimentRecord R} {held : TrialRecord} {key : TrialId}
    (found : record.trials.find? key = some held) (reason : Text) (sequence : Nat) :
    ∃ released, (record.cancelTrial key reason sequence).trials.find? key = some released ∧
      isHeld released.state = false := by
  refine ⟨held.finish .cancelled .cancellation reason sequence, ?_, rfl⟩
  simp [ExperimentRecord.cancelTrial, ExperimentRecord.log, found]

omit [MetricReal R] [CanonicalDigests R] in
theorem complete_released {record : ExperimentRecord R} {held : TrialRecord} {key : TrialId}
    (found : record.trials.find? key = some held) (attempt : TrialAttemptId) (sequence : Nat) :
    ∃ released, (record.complete key attempt sequence).trials.find? key = some released ∧
      isHeld released.state = false := by
  refine ⟨held.commit sequence, ?_, rfl⟩
  simp [ExperimentRecord.complete, ExperimentRecord.log, found]

omit [MetricReal R] [CanonicalDigests R] in
theorem fail_released {record : ExperimentRecord R} {held : TrialRecord} {key : TrialId}
    (found : record.trials.find? key = some held) (trial : TrialRecord) (attempt : TrialAttemptId)
    (kind : FailureKind) (detail : Text) (retry : Bool) (sequence : Nat) :
    ∃ released, (record.fail trial key attempt kind detail retry sequence).trials.find? key =
      some released ∧ isHeld released.state = false := by
  refine ⟨_, by rw [fail_trials, OrderedMap.find?_modify, if_pos rfl, found]; rfl, ?_⟩
  unfold TrialRecord.release
  dsimp only
  split <;> rfl

omit [MetricReal R] [CanonicalDigests R] in
theorem retire_retired {record : ExperimentRecord R} {branch : BranchId} {reason : Text}
    {sequence : Nat} {found : BranchDefinition}
    (lookup : (record.retire branch reason sequence).findBranch branch = some found) :
    found.state = .retired := by
  unfold ExperimentRecord.findBranch ExperimentRecord.retire ExperimentRecord.log at lookup
  dsimp only at lookup
  rw [ExperimentRecord.find?_updateBranch, if_pos rfl] at lookup
  swap
  · exact fun _ => rfl
  obtain ⟨before, -, rfl⟩ := Option.map_eq_some_iff.mp lookup
  rfl

/-- What a fencing request saves grants nothing. -/
theorem FencingRequest.fences_saved {request : Request R} {prepared after : Coordinator R}
    {undo : Coordinator R → Coordinator R} {answer : Check Status → Reply R}
    (fencing : FencingRequest envelope request) (saves : Saving c request prepared undo answer)
    (state : after.state = prepared.state) (workers : after.liveWorkers = prepared.liveWorkers)
    (consistent : after.state.Consistent) (arranged : after.state.Arranged)
    (authority : after.LiveAuthority) : ¬ after.state.Grants envelope := by
  rw [state] at consistent arranged ⊢
  have stored : ∀ {other : Coordinator R} {experiment : ExperimentId}
      {record : ExperimentRecord R}, (other.withRecord experiment
        record).state.experiments.find? experiment = some record := by
    intro other experiment record
    simp
  cases fencing with
  | revise spec =>
      cases saves with
      | revise guarded => exact not_grants_of_closed stored (allClosed_of_closeAttempts rfl rfl)
  | rollback target reason =>
      cases saves with
      | rollback guarded built valid =>
          rw [built]
          exact not_grants_of_closed stored (allClosed_of_closeAttempts rfl rfl)
  | cancel reason =>
      cases saves with
      | cancel found allowed =>
          exact not_grants_of_closed stored (allClosed_of_closeAttempts rfl rfl)
  | retire reason =>
      cases saves with
      | retire guarded =>
          rintro ⟨other, branch, trial, attempt, lookup, admitted, -⟩
          obtain rfl := Option.some.inj (stored.symm.trans lookup)
          have retired := retire_retired admitted.branchFound
          rw [admitted.branchActive] at retired
          cases retired
  | cancelTrial reason =>
      cases saves with
      | cancelTrial owner isOpen =>
          obtain ⟨found, held⟩ := c.ownerOf_eq_some owner
          obtain ⟨released, lookup, free⟩ :=
            cancelTrial_released held reason (c.currentSequence + 1)
          exact not_grants_of_released consistent arranged stored lookup free
  | commit commit same =>
      cases saves with
      | @commit _ check registered record guarded evidence accepted allowed found =>
          obtain ⟨before, branch, trial, attempt⟩ := check
          have kept : (Coordinator.registerArtifacts commit.envelope c.nextSequence
              commit.artifacts).1.findExperiment commit.envelope.experiment = some record := by
            rw [accepted]
            exact found
          obtain ⟨-, -, -, -, admitted⟩ :=
            (c.checkEnvelope_eq_ok _ _).mp (Coordinator.commitTrialGuard_ok guarded)
          obtain ⟨artifacts, held⟩ := (registered_pair guarded kept).trials _ trial
            admitted.trialFound
          obtain ⟨released, lookup, free⟩ :=
            complete_released held commit.envelope.attempt (c.currentSequence + 1)
          exact not_grants_of_released consistent arranged stored (same ▸ lookup) free
  | fail fail same =>
      cases saves with
      | @fail _ check guarded =>
          obtain ⟨-, -, -, -, admitted⟩ :=
            (c.checkEnvelope_eq_ok _ _).mp (Coordinator.failTrialGuard_ok guarded).1
          obtain ⟨released, lookup, free⟩ := fail_released admitted.trialFound check.trial
            fail.envelope.attempt fail.kind fail.detail fail.retryable (c.currentSequence + 1)
          exact not_grants_of_released consistent arranged stored (same ▸ lookup) free
  | revoke kind reason =>
      cases saves with
      | @revoke _ _ _ _ live known =>
          rintro ⟨record, branch, trial, attempt, found, admitted, -⟩
          rw [← state] at found
          obtain ⟨-, live', lookup, unrevoked, -⟩ :=
            authority _ record _ attempt found admitted.attemptFound admitted.attemptOpen
          rw [Coordinator.findLiveWorker, workers, admitted.attemptWorker,
            admitted.attemptBoot] at lookup
          simp only [Coordinator.revoking, Coordinator.nextSequence, OrderedMap.find?_modify,
            if_pos] at lookup
          obtain ⟨before, -, rfl⟩ := Option.map_eq_some_iff.mp lookup
          cases unrevoked

omit [CanonicalDigests R] in
/-- What was withdrawn before a fencing request, and is only answered, is not granted. -/
theorem FencingRequest.fences_answered {request : Request R}
    (fencing : FencingRequest envelope request) (answered : AnsweredFromMemory c request)
    (consistent : c.state.Consistent) (arranged : c.state.Arranged) :
    ¬ c.state.Grants envelope := by
  cases fencing with
  | cancel reason =>
      cases answered with
      | experimentCancelled found cancelled =>
          rintro ⟨other, branch, trial, attempt, lookup, admitted, -⟩
          obtain rfl := Option.some.inj (found.symm.trans lookup)
          have opened := admitted.opened
          rw [cancelled] at opened
          cases opened
  | cancelTrial reason =>
      cases answered with
      | trialCancelled owner cancelled =>
          obtain ⟨found, held⟩ := c.ownerOf_eq_some owner
          exact not_grants_of_released consistent arranged found held (by rw [cancelled]; rfl)
  | revise spec => cases answered
  | rollback target reason => cases answered
  | retire reason => cases answered
  | commit request same => cases answered
  | fail request same => cases answered
  | revoke kind reason => cases answered

/-- A successful fencing request leaves nothing granted. -/
theorem FencingRequest.fences {request : Request R} {fault : Option SaveFault}
    (fencing : FencingRequest envelope request) (authority : c.LiveAuthority)
    (consistent : c.state.Consistent) (arranged : c.state.Arranged)
    (success : (c.perform request fault).2.succeeded = true) :
    ¬ (c.perform request fault).1.state.Grants envelope := by
  obtain ⟨consistent', arranged'⟩ := (c.perform_steps request fault).sound consistent arranged
  rcases Coordinator.perform_succeeded success with
    ⟨prepared, undo, answer, saves, -, ended⟩ | ⟨same, answered⟩ | ⟨process, -⟩
  · apply fencing.fences_saved saves _ _ consistent' arranged' (authority.perform request fault)
    · rw [ended, Coordinator.persistLocked_state]
    · rw [ended, Coordinator.persistLocked_liveWorkers]
  · rw [same]
    exact fencing.fences_answered answered consistent arranged
  · cases fencing <;> cases process

/-- A step that fences an envelope leaves it not granted. -/
theorem Fences.not_granted {path : Text} {source target : World R} {event : Event R}
    (fences : Fences envelope source event target) (step : World.Step path source event target)
    (sound : source.Sound path) (authority : source.LiveAuthority) : ¬ target.Grants envelope := by
  have authority' := step.liveAuthority sound authority
  intro grants
  cases fences with
  | lifetime notRequest =>
      cases step with
      | request c request fault => exact notRequest request fault rfl
      | stop c => exact grants
      | start samePath started =>
          obtain ⟨record, branch, trial, attempt, found, admitted, -⟩ := grants
          have terminal := started_closed sound started found _ _ admitted.attemptFound
          rw [admitted.attemptOpen] at terminal
          cases terminal
      | failedStart samePath refused => exact grants
  | succeeded fencing success =>
      obtain ⟨-, consistent, arranged, -⟩ := sound
      exact fencing.fences authority consistent arranged success grants
  | closed found notOpen =>
      obtain ⟨record, branch, trial, attempt, lookup, admitted, -⟩ := grants
      obtain rfl := Option.some.inj (lookup.symm.trans found)
      exact notOpen admitted.opened
  | branchClosed found branchFound notActive =>
      obtain ⟨record, branch, trial, attempt, lookup, admitted, -⟩ := grants
      obtain rfl := Option.some.inj (lookup.symm.trans found)
      obtain rfl := Option.some.inj (admitted.branchFound.symm.trans branchFound)
      exact notActive admitted.branchActive
  | workerLost lost =>
      obtain ⟨record, branch, trial, attempt, lookup, admitted, -⟩ := grants
      obtain ⟨-, live, liveFound, unrevoked, -⟩ :=
        authority' _ record _ attempt lookup admitted.attemptFound admitted.attemptOpen
      rw [admitted.attemptWorker, admitted.attemptBoot] at liveFound
      rw [lost live liveFound] at unrevoked
      cases unrevoked

/-- The request completes or fails the trial its envelope names. -/
inductive Completes (envelope : AuthorityEnvelope) : Request R → Prop where
  | commit (request : CommitTrialRequest) (same : request.envelope = envelope) :
      Completes envelope (.commitTrial request)
  | fail (request : FailTrialRequest) (same : request.envelope = envelope) :
      Completes envelope (.failTrial request)

theorem Completes.granted {request : Request R} {fault : Option SaveFault}
    (completes : Completes envelope request) (authority : c.LiveAuthority)
    (success : (c.perform request fault).2.succeeded = true) : c.state.Grants envelope := by
  rcases Coordinator.perform_succeeded success with
    ⟨prepared, undo, answer, saves, -, -⟩ | ⟨-, answered⟩ | ⟨process, -⟩
  · cases completes with
    | commit request same =>
        cases saves with
        | commit guarded =>
            exact same ▸ grants_of_checkEnvelope authority (Coordinator.commitTrialGuard_ok guarded)
    | fail request same =>
        cases saves with
        | fail guarded =>
            exact same ▸ grants_of_checkEnvelope authority (Coordinator.failTrialGuard_ok guarded).1
  · cases completes <;> cases answered
  · cases completes <;> cases process

/-- Among the events there is a claim that returned the envelope to its incarnation, and no step
since that claim fences the envelope. -/
def ClaimedSince (path : Text) (envelope : AuthorityEnvelope) (events : List (Event R))
    (reached : World R) : Prop :=
  ∃ front claim fault back source, events = front ++ .request (.claimTrials claim) fault :: back ∧
    Run (World.Step path) (.down none) front (.running source) ∧
    source.Assigned claim fault envelope ∧
    Run (fun before event after => World.Step path before event after ∧
      ¬ Fences envelope before event after) (.running (source.claimTrials claim fault).1) back
      reached

/-- A granted envelope was returned by an earlier claim of the same lifetime to the same incarnation,
and nothing has fenced it since. -/
theorem World.Grants.claimedSince {path : Text} {events : List (Event R)}
    (granted : (World.running c).Grants envelope)
    (run : Run (World.Step path) (.down none) events (.running c)) :
    ClaimedSince path envelope events (.running c) := by
  have absent : ¬ World.Grants envelope (World.down none : World R) := fun impossible => impossible
  obtain ⟨front, event, back, before, after, split, lead, made, missing, present, since⟩ :=
    run.established absent granted
  have reachableBefore : before.Reachable path := ⟨front, lead⟩
  obtain ⟨source, claim, claimFault, rfl, rfl, rfl, assigned⟩ :=
    made.grants_established reachableBefore.sound missing present
  refine ⟨front, claim, claimFault, back, source, split, lead, assigned, ?_⟩
  -- Every later step ends in a world that grants the envelope, so it does not fence it.
  have reachableAfter := reachableBefore.step made
  have guarded : ∀ {labels : List (Event R)} {world : World R},
      Run (fun first label second => World.Grants envelope first ∧ World.Grants envelope second ∧
        World.Step path first label second) (.running (source.claimTrials claim claimFault).1)
        labels world →
      world.Reachable path ∧ Run (fun before event after => World.Step path before event after ∧
        ¬ Fences envelope before event after) (.running (source.claimTrials claim claimFault).1)
        labels world := by
    intro labels world steps
    induction steps with
    | nil => exact ⟨reachableAfter, .nil _⟩
    | snoc _ last ih =>
        obtain ⟨reached, led⟩ := ih
        refine ⟨reached.step last.2.2, led.snoc ⟨last.2.2, fun fences => ?_⟩⟩
        exact fences.not_granted last.2.2 reached.sound reached.liveAuthority last.2.1
  exact (guarded since).2

/-- Whenever a commit or a failure report succeeds, its envelope was returned by an earlier claim of
the same lifetime to the same incarnation, and nothing has fenced it since. -/
theorem completion_fenced {path : Text} {events : List (Event R)} {request : Request R}
    {fault : Option SaveFault} (run : Run (World.Step path) (.down none) events (.running c))
    (completes : Completes envelope request)
    (success : (c.perform request fault).2.succeeded = true) :
    ClaimedSince path envelope events (.running c) := by
  have reachable : (World.running c).Reachable path := ⟨events, run⟩
  have granted : (World.running c).Grants envelope :=
    completes.granted reachable.liveAuthority success
  exact granted.claimedSince run

end Fences

/-- The sample worker commits the trial it claimed. -/
theorem completion_fenced_sample : ∃ events, ClaimedSince Sample.config.statePath Sample.envelope
    events (.running (Sample.claimed.session (Sample.committing.take 1))) := by
  obtain ⟨events, run⟩ := Sample.claimed_reachable.session (Sample.committing.take 1)
  let commit : CommitTrialRequest :=
    { epoch := Sample.coordinator.epoch
      worker := Sample.worker
      boot := Sample.boot
      envelope := Sample.envelope }
  have success : ((Sample.claimed.session (Sample.committing.take 1)).perform
      (.commitTrial commit) none).2.succeeded = true := by
    decide +kernel
  exact ⟨events, completion_fenced run (.commit commit rfl) success⟩

end ExperimentFabric
