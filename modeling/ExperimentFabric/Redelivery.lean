import ExperimentFabric.Atomicity
import ExperimentFabric.RefusedCommit

/-!
# Requests delivered twice

A transport may deliver a request again after it succeeded.  A commit closes its trial, so its second
delivery is refused.  A publication leaves its trial open, and its second delivery is compared with
what the first one stored.
-/

namespace ExperimentFabric

open Lib

variable {R : Type}

/-! ## The same authority -/

/-- Two coordinators of one process judge the presenting incarnation alike. -/
structure Coordinator.SameAuthority (c c' : Coordinator R) : Prop where
  admittingWork : c'.admittingWork = c.admittingWork
  epoch : c'.epoch = c.epoch
  liveWorkers : c'.liveWorkers = c.liveWorkers

namespace Coordinator.SameAuthority

variable {c c' : Coordinator R} (same : c.SameAuthority c')

include same

theorem holdsAuthority {envelope : AuthorityEnvelope} (holds : c.HoldsAuthority envelope) :
    c'.HoldsAuthority envelope := by
  refine ⟨holds.epoch.trans same.epoch.symm, ?_⟩
  rw [findLiveWorker, same.liveWorkers]
  exact holds.live

theorem persisted (fault : Option SaveFault) : c.SameAuthority (c'.persistLocked fault).1 := by
  refine ⟨?_, ?_, ?_⟩
  · rw [persistLocked_admittingWork, same.admittingWork]
  · rw [persistLocked_epoch, same.epoch]
  · rw [persistLocked_liveWorkers, same.liveWorkers]

end Coordinator.SameAuthority

/-- A trial and its attempt in a later record, still open to the envelope they were admitted by. -/
structure StillOpen (check : EnvelopeCheck R) (envelope : AuthorityEnvelope)
    (after : ExperimentRecord R) (trial : TrialRecord) (attempt : AttemptRecord) : Prop where
  state : after.state = check.record.state
  definition : after.definition = check.record.definition
  trialFound : after.trials.find? envelope.trial = some trial
  trialFixed : trial.fixed = check.trial.fixed
  trialOpen : isTerminal trial.state = false
  authoritative : trial.authoritativeAttempt = check.trial.authoritativeAttempt
  attemptFound : after.attempts.find? envelope.attempt = some attempt
  attemptFixed : attempt.fixed = check.attempt.fixed
  attemptOpen : isAttemptTerminal attempt.state = false

section Again

variable {c c' : Coordinator R} {envelope : AuthorityEnvelope} {check : EnvelopeCheck R}
  {after : ExperimentRecord R} {trial : TrialRecord} {attempt : AttemptRecord}

/-- An accepted envelope is accepted again as long as its trial and attempt are open. -/
theorem checkEnvelope_again (same : c.SameAuthority c')
    (accepted : c.checkEnvelope envelope = .ok check)
    (found : c'.findExperiment envelope.experiment = some after)
    (isOpen : StillOpen check envelope after trial attempt) :
    c'.checkEnvelope envelope = .ok ⟨after, check.branch, trial, attempt⟩ := by
  obtain ⟨wellFormed, admitting, holds, -, admitted⟩ := (c.checkEnvelope_eq_ok _ _).mp accepted
  have branches : after.findBranch envelope.branch = check.record.findBranch envelope.branch := by
    rw [ExperimentRecord.findBranch, isOpen.definition, ExperimentRecord.findBranch]
  have fixed {β : Type} (field : TrialRecord → β) (blind : ∀ held, field held.fixed = field held) :
      field trial = field check.trial := by
    rw [← blind, isOpen.trialFixed, blind]
  have issued {β : Type} (field : AttemptRecord → β)
      (blind : ∀ held, field held.fixed = field held) : field attempt = field check.attempt := by
    rw [← blind, isOpen.attemptFixed, blind]
  refine (c'.checkEnvelope_eq_ok _ _).mpr ⟨wellFormed, same.admittingWork.trans admitting,
    same.holdsAuthority holds, found, ?_⟩
  exact
    { opened := isOpen.state.trans admitted.opened
      generation := by rw [isOpen.definition, admitted.generation]
      hypothesis := by rw [isOpen.definition, admitted.hypothesis]
      hypothesisRevision := by rw [isOpen.definition, admitted.hypothesisRevision]
      policy := by rw [isOpen.definition, admitted.policy]
      policyGeneration := by rw [isOpen.definition, admitted.policyGeneration]
      branchFound := branches.trans admitted.branchFound
      branchGeneration := admitted.branchGeneration
      branchActive := admitted.branchActive
      trialFound := isOpen.trialFound
      trialBranch := (fixed (·.branch) fun _ => rfl).trans admitted.trialBranch
      trialGeneration := (fixed (·.generation) fun _ => rfl).trans admitted.trialGeneration
      trialBranchGeneration :=
        (fixed (·.branchGeneration) fun _ => rfl).trans admitted.trialBranchGeneration
      trialRevision := (fixed (·.hypothesisRevision) fun _ => rfl).trans admitted.trialRevision
      trialPolicy := (fixed (·.policy) fun _ => rfl).trans admitted.trialPolicy
      trialPolicyGeneration :=
        (fixed (·.policyGeneration) fun _ => rfl).trans admitted.trialPolicyGeneration
      trialOpen := isOpen.trialOpen
      authoritative := isOpen.authoritative.trans admitted.authoritative
      attemptFound := isOpen.attemptFound
      attemptWorker := (issued (·.worker) fun _ => rfl).trans admitted.attemptWorker
      attemptBoot := (issued (·.boot) fun _ => rfl).trans admitted.attemptBoot
      attemptEpoch := (issued (·.epoch) fun _ => rfl).trans admitted.attemptEpoch
      attemptOpen := isOpen.attemptOpen }

/-- Once its trial is completed, an accepted envelope is refused. -/
theorem checkEnvelope_completed (same : c.SameAuthority c')
    (accepted : c.checkEnvelope envelope = .ok check)
    (found : c'.findExperiment envelope.experiment = some after)
    (state : after.state = check.record.state)
    (definition : after.definition = check.record.definition)
    (trialFound : after.trials.find? envelope.trial = some trial)
    (trialFixed : trial.fixed = check.trial.fixed) (completed : trial.state = .completed) :
    c'.checkEnvelope envelope = .error (authorityError .staleAttempt
      (text "trial is already terminal: COMPLETED")) := by
  obtain ⟨wellFormed, admitting, holds, -, admitted⟩ := (c.checkEnvelope_eq_ok _ _).mp accepted
  have branchFound : after.findBranch envelope.branch = some check.branch := by
    rw [ExperimentRecord.findBranch, definition]
    exact admitted.branchFound
  have fixed {β : Type} (field : TrialRecord → β) (blind : ∀ held, field held.fixed = field held) :
      field trial = field check.trial := by
    rw [← blind, trialFixed, blind]
  have worker : c'.checkWorker envelope = .ok () :=
    (c'.checkWorker_eq_ok _).mpr (same.holdsAuthority holds)
  have record : checkRecord after envelope = .ok () := by
    refine (checkRecord_eq_ok _ _).mpr ⟨state.trans admitted.opened, ?_⟩
    rw [definition]
    exact ⟨admitted.generation, ⟨admitted.hypothesis, admitted.hypothesisRevision⟩,
      admitted.policy, admitted.policyGeneration⟩
  have branch : checkBranch check.branch envelope = .ok () :=
    (checkBranch_eq_ok _ _).mpr ⟨admitted.branchGeneration, admitted.branchActive⟩
  have terminal : checkTrial trial envelope = .error (authorityError .staleAttempt
      (text "trial is already terminal: COMPLETED")) := by
    unfold checkTrial
    rw [(fixed (·.branch) fun _ => rfl).trans admitted.trialBranch,
      (fixed (·.generation) fun _ => rfl).trans admitted.trialGeneration,
      (fixed (·.branchGeneration) fun _ => rfl).trans admitted.trialBranchGeneration,
      (fixed (·.hypothesisRevision) fun _ => rfl).trans admitted.trialRevision,
      (fixed (·.policy) fun _ => rfl).trans admitted.trialPolicy,
      (fixed (·.policyGeneration) fun _ => rfl).trans admitted.trialPolicyGeneration, completed]
    simp [require, bind, Except.bind, isTerminal]
    rfl
  unfold Coordinator.checkEnvelope
  rw [wellFormed, same.admittingWork, admitting, worker, found]
  simp only [require, demand, bind, Except.bind, if_true, record, branchFound, branch, trialFound,
    terminal]

end Again

/-! ## Commits -/

theorem registerArtifacts_sameAuthority (envelope : AuthorityEnvelope)
    (artifacts : List ArtifactRecord) (c : Coordinator R) :
    c.SameAuthority (Coordinator.registerArtifacts envelope c artifacts).1 := by
  let property (reached : Coordinator R) : Prop := c.SameAuthority reached
  have kept : property (Coordinator.registerArtifacts envelope c artifacts).1 := by
    refine Coordinator.registerArtifacts_keeps envelope ?_ ?_ artifacts ⟨rfl, rfl, rfl⟩
    · exact fun _ same => ⟨same.admittingWork, same.epoch, same.liveWorkers⟩
    · exact fun _ _ _ _ same _ _ _ _ => ⟨same.admittingWork, same.epoch, same.liveWorkers⟩
  exact kept

section Delivered

variable [MetricReal R] [CanonicalDigests R] {c : Coordinator R} {fault : Option SaveFault}

/-- A commit that succeeded has closed its trial to the envelope it presented. -/
theorem commitTrial_closes {request : CommitTrialRequest}
    (succeeded : (c.perform (.commitTrial request) fault).2.succeeded = true) :
    (c.perform (.commitTrial request) fault).1.commitTrialGuard request =
      .error (authorityError .staleAttempt (text "trial is already terminal: COMPLETED")) := by
  rcases Coordinator.perform_succeeded succeeded with ⟨prepared, undo, answer, saves, -, ended⟩ |
    ⟨-, answered⟩ | ⟨impossible, -⟩
  · rw [ended]
    cases saves with
    | @commit _ check registered record guarded evidence accepted allowed found =>
        have presented := Coordinator.commitTrialGuard_ok guarded
        obtain ⟨-, -, -, lookup, admitted⟩ := (c.checkEnvelope_eq_ok _ _).mp presented
        obtain ⟨after, added⟩ := Coordinator.registerArtifacts_added request.envelope
          request.artifacts c.nextSequence check.record lookup
        have process := registerArtifacts_sameAuthority request.envelope request.artifacts
          c.nextSequence
        rw [accepted] at added process
        have stored : registered.findExperiment request.envelope.experiment = some after := by
          rw [Coordinator.findExperiment, added.stored, OrderedMap.find?_assign_self]
        obtain rfl := Option.some.inj (found.symm.trans stored)
        obtain ⟨references, held⟩ := added.trials _ _ admitted.trialFound
        obtain ⟨completed, built⟩ : ∃ completed, completed = record.complete request.envelope.trial
          request.envelope.attempt (c.currentSequence + 1) := ⟨_, rfl⟩
        rw [← built]
        have committed : completed.trials.find? request.envelope.trial =
            some (({ check.trial with artifacts := references } : TrialRecord).commit
              (c.currentSequence + 1)) := by
          rw [built]
          refine (OrderedMap.find?_modify ..).trans ?_
          rw [if_pos rfl, held, Option.map_some]
        have same : c.SameAuthority (registered.withRecord request.envelope.experiment completed) :=
          ⟨process.admittingWork, process.epoch, process.liveWorkers⟩
        have stored' : ((registered.withRecord request.envelope.experiment
            completed).persistLocked fault).1.findExperiment request.envelope.experiment =
              some completed := by
          rw [Coordinator.findExperiment, Coordinator.persistLocked_state]
          exact OrderedMap.find?_assign_self ..
        have refused := checkEnvelope_completed (same.persisted fault) presented stored'
          (built ▸ added.state) (built ▸ added.definition) committed rfl rfl
        have transport : Coordinator.transportMatches request.epoch request.worker request.boot
            request.envelope = true := by
          simp only [Coordinator.commitTrialGuard, require_bind_eq_ok] at guarded
          exact guarded.1
        rw [Coordinator.commitTrialGuard, transport, refused]
        rfl
  · cases answered
  · cases impossible

/-- Every commit that succeeded is refused when it is delivered again, because its trial is
terminal; nothing changes. -/
theorem commit_redelivery_refused {request : CommitTrialRequest}
    (succeeded : (c.perform (.commitTrial request) fault).2.succeeded = true)
    (again : Option SaveFault) :
    ((c.perform (.commitTrial request) fault).1.perform (.commitTrial request)
        again).2.succeeded = false ∧
      (c.perform (.commitTrial request) fault).1.perform (.commitTrial request) again =
        ((c.perform (.commitTrial request) fault).1, .status (.error (authorityError .staleAttempt
          (text "trial is already terminal: COMPLETED")))) := by
  have refused := commitTrial_closes succeeded
  generalize (c.perform (.commitTrial request) fault).1 = committed at refused ⊢
  have answer : committed.perform (.commitTrial request) again = (committed, .status (.error
      (authorityError .staleAttempt (text "trial is already terminal: COMPLETED")))) := by
    rw [Coordinator.perform, Coordinator.commitTrial, refused]
    rfl
  exact ⟨by rw [answer]; rfl, answer⟩

end Delivered

/-- The sample commit is refused when it is delivered again. -/
theorem commit_redelivery_refused_sample :
    ((Sample.observed.perform (.commitTrial Sample.commit) none).1.perform
      (.commitTrial Sample.commit) none).2.succeeded = false :=
  (commit_redelivery_refused (by decide +kernel) none).1

/-- A commit that succeeds and is then delivered again fails. -/
theorem commit_redelivery_fails :
    (World.running Sample.observed).Reachable Sample.config.statePath ∧
      (Sample.observed.perform (.commitTrial Sample.commit) none).2.succeeded = true ∧
      ((Sample.observed.perform (.commitTrial Sample.commit) none).1.perform
        (.commitTrial Sample.commit) none).2.succeeded = false :=
  ⟨Sample.observed_reachable, by decide +kernel, by decide +kernel⟩

/-! ## Observations -/

namespace Coordinator

/-- The identity of an observation is indexed in its experiment. -/
def knowsObservation (c : Coordinator R) (observation : Observation R) : Bool :=
  (c.findExperiment observation.experiment).any fun record =>
    ((c.observationsOf record.definition.id).find? observation.id).isSome

/-- The identity of an artifact is indexed in its experiment. -/
def knowsArtifact (c : Coordinator R) (artifact : ArtifactRecord) : Bool :=
  (c.findExperiment artifact.experiment).any fun record =>
    ((c.artifactsOf record.definition.id).find? artifact.id).isSome

/-- After one more artifact, the experiment and the trial have room for yet another. -/
def HasRoomForTwo (c : Coordinator R) (artifact : ArtifactRecord) : Prop :=
  ∃ record trial, c.findExperiment artifact.experiment = some record ∧
    record.trials.find? artifact.trial = some trial ∧
    record.artifacts.length + 1 < c.limits.maxArtifactsPerExperiment ∧
    trial.artifacts.length + 1 < c.limits.maxArtifactsPerAttempt

/-- The publication repeats a stored one, or what it stores is recognised when it comes again: the
real value of an observation equals itself, and an artifact does not fill its collections. -/
def Recognises [MetricReal R] (c : Coordinator R) : Request R → Prop
  | .publishObservation request => c.knowsObservation request.observation = true ∨
      MetricReal.eq request.observation.value.real request.observation.value.real = true
  | .publishArtifact request => c.knowsArtifact request.artifact = true ∨
      c.HasRoomForTwo request.artifact
  | _ => False

end Coordinator

/-- The request publishes evidence. -/
def Request.publishes : Request R → Bool
  | .publishObservation _ | .publishArtifact _ => true
  | _ => false

section Observations

variable [MetricReal R] {c : Coordinator R} {record : ExperimentRecord R}
  {observation : Observation R}

/-- An observation is admitted as a repetition exactly when its identity is indexed. -/
theorem admitObservation_indexed {result : Option (Observation R)}
    (admission : c.admitObservation record observation = .ok result) :
    ((c.observationsOf record.definition.id).find? observation.id).isSome = result.isNone := by
  cases result with
  | some admitted =>
      rw [(Coordinator.admitObservation_ok admission).2.free]
      rfl
  | none =>
      simp only [Coordinator.admitObservation, demand_bind_eq_ok] at admission
      obtain ⟨metric, -, admission⟩ := admission
      split at admission
      · rename_i position indexed
        rw [indexed]
        rfl
      · simp only [require_bind_eq_ok] at admission
        obtain ⟨-, -, admission⟩ := admission
        split at admission
        · simp only [check_bind_eq_ok] at admission
          cases admission.2.2
        · cases admission

/-- An observation equals its stored copy exactly when its real value equals itself. -/
theorem sameObservation_stored (observation : Observation R) (sequence : Nat) :
    sameObservation { observation with sequence := sequence } observation =
      MetricReal.eq observation.value.real observation.value.real := by
  simp [sameObservation, sameMetricValue]

/-- An indexed observation is compared with the one at its position. -/
theorem admitObservation_known {metric : MetricDefinition R} {position : Nat}
    {held : Observation R} (declared : record.findMetric observation.metric = some metric)
    (indexed : (c.observationsOf record.definition.id).find? observation.id = some position)
    (there : record.observations[position]? = some held) :
    c.admitObservation record observation =
      if sameObservation held observation then .ok none
      else .error ⟨.alreadyExists, .identity,
        text "observation identity already exists with different content"⟩ := by
  simp only [Coordinator.admitObservation, declared, indexed, demand, bind, Except.bind]
  rw [there, Option.any_some]
  cases sameObservation held observation <;> rfl

theorem publishObservation_admitted {request : PublishObservationRequest R}
    {check : EnvelopeCheck R} (found : c.findExperiment request.observation.experiment = some record)
    (accepted : c.checkEnvelope (observationEnvelope request record) = .ok check)
    (admission : c.admitObservation check.record request.observation = .ok none)
    (fault : Option SaveFault) : c.publishObservation request fault = (c, .ok ()) := by
  simp only [Coordinator.publishObservation, found, accepted, admission]

theorem publishObservation_refused {request : PublishObservationRequest R}
    {check : EnvelopeCheck R} {failure : Status}
    (found : c.findExperiment request.observation.experiment = some record)
    (accepted : c.checkEnvelope (observationEnvelope request record) = .ok check)
    (admission : c.admitObservation check.record request.observation = .error failure)
    (fault : Option SaveFault) : c.publishObservation request fault = (c, .error failure) := by
  simp only [Coordinator.publishObservation, found, accepted, admission]

omit [MetricReal R] in
/-- The observed trial and attempt stay open to the envelope of the observation. -/
theorem observing_stillOpen {envelope : AuthorityEnvelope} {check : EnvelopeCheck R}
    (admitted : Admitted check.record envelope check.branch check.trial check.attempt)
    (observation : Observation R) (sequence : Nat) :
    ∃ trial attempt, StillOpen check envelope
      ((check.record.pushObservation observation).observe check.trial check.attempt envelope.trial
        envelope.attempt sequence).1 trial attempt := by
  obtain ⟨trials, later, attempts⟩ := (check.record.pushObservation observation).observe_moved
    check.trial check.attempt envelope.trial envelope.attempt sequence
  obtain ⟨state, definition⟩ := observe_fields (check.record.pushObservation observation)
    check.trial check.attempt envelope.trial envelope.attempt sequence
  have trialHeld : (check.record.pushObservation observation).trials.find? envelope.trial =
      some check.trial := admitted.trialFound
  have attemptHeld : (check.record.pushObservation observation).attempts.find? envelope.attempt =
      some check.attempt := admitted.attemptFound
  obtain ⟨trial, trialFound, trialFixed, trialOpen, authoritative⟩ : ∃ trial : TrialRecord,
      ((check.record.pushObservation observation).observe check.trial check.attempt envelope.trial
        envelope.attempt sequence).1.trials.find? envelope.trial = some trial ∧
      trial.fixed = check.trial.fixed ∧ isTerminal trial.state = false ∧
      trial.authoritativeAttempt = check.trial.authoritativeAttempt := by
    rw [trials]
    split
    · refine ⟨check.trial.observing (sequence + 1), ?_, rfl, rfl, rfl⟩
      rw [OrderedMap.find?_modify, if_pos rfl, trialHeld, Option.map_some]
    · exact ⟨check.trial, trialHeld, rfl, admitted.trialOpen, rfl⟩
  obtain ⟨attempt, attemptFound, attemptFixed, attemptOpen⟩ : ∃ attempt : AttemptRecord,
      ((check.record.pushObservation observation).observe check.trial check.attempt envelope.trial
        envelope.attempt sequence).1.attempts.find? envelope.attempt = some attempt ∧
      attempt.fixed = check.attempt.fixed ∧ isAttemptTerminal attempt.state = false := by
    rw [attempts]
    split
    · refine ⟨check.attempt.started later, ?_, rfl, rfl⟩
      rw [OrderedMap.find?_modify, if_pos rfl, attemptHeld, Option.map_some]
    · exact ⟨check.attempt, attemptHeld, rfl, admitted.attemptOpen⟩
  exact ⟨trial, attempt, state, definition, trialFound, trialFixed, trialOpen, authoritative,
    attemptFound, attemptFixed, attemptOpen⟩

end Observations

/-! ## Artifacts -/

section Artifacts

variable {c : Coordinator R} {record : ExperimentRecord R} {trial : TrialRecord}
  {artifact : ArtifactRecord}

/-- An artifact is admitted as a repetition exactly when its identity is indexed. -/
theorem admitArtifact_indexed {fresh : Bool}
    (admission : c.admitArtifact record trial artifact = .ok fresh) :
    ((c.artifactsOf record.definition.id).find? artifact.id).isSome = !fresh := by
  simp only [Coordinator.admitArtifact, require_bind_eq_ok] at admission
  obtain ⟨-, -, -, -, admission⟩ := admission
  split at admission
  · rename_i position indexed
    simp only [require_bind_eq_ok] at admission
    obtain rfl := Except.ok.inj admission.2
    rw [indexed]
    rfl
  · rename_i free
    obtain rfl := Except.ok.inj admission
    rw [free]
    rfl

/-- An admitted artifact has a locator and a provenance within the bounds. -/
theorem admitArtifact_located {fresh : Bool}
    (admission : c.admitArtifact record trial artifact = .ok fresh) :
    (artifact.locator ≠ [] ∧ artifact.locator.length ≤ c.limits.maxLocatorLength) ∧
      artifact.provenance.length ≤ c.limits.maxProvenanceLength := by
  simp only [Coordinator.admitArtifact, require_bind_eq_ok, Bool.and_eq_true,
    decide_eq_true_eq] at admission
  obtain ⟨-, -, located, provenance, -⟩ := admission
  exact ⟨located, provenance⟩

/-- An artifact whose copy is stored is admitted again exactly when there is room for another. -/
theorem admitArtifact_stored_iff {position : Nat} {held : ArtifactRecord}
    (located : artifact.locator ≠ [] ∧ artifact.locator.length ≤ c.limits.maxLocatorLength)
    (provenance : artifact.provenance.length ≤ c.limits.maxProvenanceLength)
    (indexed : (c.artifactsOf record.definition.id).find? artifact.id = some position)
    (there : record.artifacts[position]? = some held)
    (same : sameArtifact held artifact = true) :
    c.admitArtifact record trial artifact = .ok false ↔
      record.artifacts.length < c.limits.maxArtifactsPerExperiment ∧
        trial.artifacts.length < c.limits.maxArtifactsPerAttempt := by
  simp only [Coordinator.admitArtifact, require_bind_eq_ok, indexed, there, Option.any_some, same,
    located, provenance, decide_eq_true_eq, pure, Except.pure, Bool.and_eq_true, ne_eq,
    not_false_eq_true, decide_true, and_true]

theorem artifactEnvelope_again {request : PublishArtifactRequest} {after : ExperimentRecord R}
    (definition : after.definition = record.definition) (attempts : after.attempts = record.attempts) :
    artifactEnvelope request after = artifactEnvelope request record := by
  unfold artifactEnvelope ExperimentRecord.findBranch
  rw [definition, attempts]

end Artifacts

/-! ## Publications -/

section Publications

variable [MetricReal R] [CanonicalDigests R] {c : Coordinator R} {fault : Option SaveFault}

omit [CanonicalDigests R] in
/-- After an observation was stored, delivering it again changes nothing, and succeeds exactly when
its real value equals itself. -/
theorem publishObservation_again (fault : Option SaveFault)
    {request : PublishObservationRequest R}
    {record : ExperimentRecord R} {check : EnvelopeCheck R} {admitted : Observation R}
    (found : c.findExperiment request.observation.experiment = some record)
    (accepted : c.checkEnvelope (observationEnvelope request record) = .ok check)
    (admission : c.admitObservation check.record request.observation = .ok (some admitted))
    {stored : Coordinator R}
    (persisted : stored = ((c.observing check request.observation admitted).persistLocked fault).1)
    (again : Option SaveFault) :
    (stored.publishObservation request again).1 = stored ∧
      ((stored.publishObservation request again).2 = .ok () ↔
        MetricReal.eq request.observation.value.real request.observation.value.real = true) := by
  obtain ⟨-, -, -, lookup, admits⟩ := (c.checkEnvelope_eq_ok _ _).mp accepted
  obtain rfl : record = check.record := Option.some.inj (found.symm.trans lookup)
  obtain ⟨rfl, allowed⟩ := Coordinator.admitObservation_ok admission
  obtain ⟨metric, declared⟩ := allowed.metric
  obtain ⟨trial, attempt, isOpen⟩ := observing_stillOpen admits
    { request.observation with sequence := c.currentSequence + 1 } (c.currentSequence + 1)
  have same : c.SameAuthority stored := by
    rw [persisted]
    have process : c.SameAuthority (c.observing check request.observation request.observation) :=
      ⟨rfl, rfl, rfl⟩
    exact process.persisted fault
  obtain ⟨after, built⟩ : ∃ after, after = ((check.record.pushObservation { request.observation with
    sequence := c.currentSequence + 1 }).observe check.trial check.attempt
      request.observation.trial request.observation.attempt (c.currentSequence + 1)).1 := ⟨_, rfl⟩
  have found' : stored.findExperiment request.observation.experiment = some after := by
    rw [persisted, built, Coordinator.findExperiment, Coordinator.persistLocked_state]
    exact OrderedMap.find?_assign_self ..
  have observations : after.observations = check.record.observations ++
      [{ request.observation with sequence := c.currentSequence + 1 }] := by
    obtain ⟨trials, attempts, framed⟩ := observe_frame (check.record.pushObservation
      { request.observation with sequence := c.currentSequence + 1 }) check.trial check.attempt
        request.observation.trial request.observation.attempt (c.currentSequence + 1)
    rw [built, framed]
    rfl
  replace isOpen : StillOpen check (observationEnvelope request check.record) after trial attempt := by
    rw [built]
    exact isOpen
  have presented : observationEnvelope request after = observationEnvelope request check.record := by
    unfold observationEnvelope
    rw [isOpen.definition]
  have accepted' : stored.checkEnvelope (observationEnvelope request after) =
      .ok ⟨after, check.branch, trial, attempt⟩ := by
    rw [presented]
    exact checkEnvelope_again same accepted found' isOpen
  have indexed : (stored.observationsOf after.definition.id).find? request.observation.id =
      some check.record.observations.length := by
    rw [isOpen.definition, Coordinator.observationsOf, persisted,
      Coordinator.persistLocked_observationIndex]
    simp [Coordinator.observing]
  have there : after.observations[check.record.observations.length]? =
      some { request.observation with sequence := c.currentSequence + 1 } := by
    simp [observations]
  have declared' : after.findMetric request.observation.metric = some metric := by
    rw [ExperimentRecord.findMetric, isOpen.definition]
    exact declared
  have answer := admitObservation_known declared' indexed there
  rw [sameObservation_stored] at answer
  cases recognised : MetricReal.eq request.observation.value.real request.observation.value.real with
  | true =>
      rw [recognised, if_pos rfl] at answer
      rw [publishObservation_admitted found' accepted' answer again]
      exact ⟨rfl, iff_of_true rfl rfl⟩
  | false =>
      rw [recognised, if_neg Bool.false_ne_true] at answer
      rw [publishObservation_refused found' accepted' answer again]
      exact ⟨rfl, iff_of_false (fun impossible => by cases impossible) Bool.false_ne_true⟩

omit [CanonicalDigests R] [MetricReal R] in
/-- The trial and the attempt of a stored artifact stay open to its envelope. -/
theorem heldArtifact_stillOpen {envelope : AuthorityEnvelope} {check : EnvelopeCheck R}
    {artifact : ArtifactRecord}
    (admitted : Admitted check.record envelope check.branch check.trial check.attempt)
    (named : artifact.trial = envelope.trial) :
    StillOpen check envelope (c.heldArtifact check artifact)
      ((check.trial.hold artifact.id).touch (c.currentSequence + 2)) check.attempt where
  state := rfl
  definition := rfl
  trialFound := by
    rw [Coordinator.heldArtifact]
    simp [ExperimentRecord.touch, ExperimentRecord.pushArtifact, named, admitted.trialFound]
  trialFixed := rfl
  trialOpen := admitted.trialOpen
  authoritative := rfl
  attemptFound := admitted.attemptFound
  attemptFixed := rfl
  attemptOpen := admitted.attemptOpen

omit [CanonicalDigests R] [MetricReal R] in
/-- After an artifact was stored, delivering it again changes nothing, and succeeds exactly when its
experiment and its trial have room for another. -/
theorem publishArtifact_again (fault : Option SaveFault) {request : PublishArtifactRequest}
    {record : ExperimentRecord R}
    {envelope : AuthorityEnvelope} {check : EnvelopeCheck R}
    (found : c.findExperiment request.artifact.experiment = some record)
    (envelopeBuilt : artifactEnvelope request record = .ok envelope)
    (accepted : c.checkEnvelope envelope = .ok check)
    (admission : c.admitArtifact check.record check.trial request.artifact = .ok true)
    {stored : Coordinator R}
    (persisted : stored = ((c.holding check request.artifact).persistLocked fault).1)
    (again : Option SaveFault) :
    (stored.publishArtifact request again).1 = stored ∧
      ((stored.publishArtifact request again).2 = .ok () ↔
        c.HasRoomForTwo request.artifact) := by
  obtain ⟨-, -, -, lookup, admits⟩ := (c.checkEnvelope_eq_ok _ _).mp accepted
  have named := Coordinator.artifactEnvelope_experiment envelopeBuilt
  have trialNamed := Coordinator.artifactEnvelope_trial envelopeBuilt
  rw [named] at lookup
  obtain rfl : record = check.record := Option.some.inj (found.symm.trans lookup)
  have same : c.SameAuthority stored := by
    rw [persisted]
    have process : c.SameAuthority (c.holding check request.artifact) := ⟨rfl, rfl, rfl⟩
    exact process.persisted fault
  obtain ⟨after, built⟩ : ∃ after, after = c.heldArtifact check request.artifact := ⟨_, rfl⟩
  have found' : stored.findExperiment request.artifact.experiment = some after := by
    rw [persisted, built, Coordinator.findExperiment, Coordinator.persistLocked_state]
    exact OrderedMap.find?_assign_self ..
  have trialFound : check.record.trials.find? request.artifact.trial = some check.trial :=
    trialNamed ▸ admits.trialFound
  let trial := (check.trial.hold request.artifact.id).touch (c.currentSequence + 2)
  have isOpen : StillOpen check envelope after trial check.attempt :=
    built ▸ heldArtifact_stillOpen admits trialNamed.symm
  have presented : artifactEnvelope request after = .ok envelope := by
    rw [← envelopeBuilt]
    exact artifactEnvelope_again isOpen.definition (by rw [built]; rfl)
  have accepted' : stored.checkEnvelope envelope = .ok ⟨after, check.branch, trial, check.attempt⟩ :=
    checkEnvelope_again same accepted (named ▸ found') isOpen
  have artifacts : after.artifacts = check.record.artifacts ++
      [{ request.artifact with sequence := c.currentSequence + 1, current := true }] := by
    rw [built]
    rfl
  have indexed : (stored.artifactsOf after.definition.id).find? request.artifact.id =
      some check.record.artifacts.length := by
    rw [isOpen.definition, Coordinator.artifactsOf, persisted,
      Coordinator.persistLocked_artifactIndex]
    simp [Coordinator.holding]
  have there : after.artifacts[check.record.artifacts.length]? =
      some { request.artifact with sequence := c.currentSequence + 1, current := true } := by
    simp [artifacts]
  have limits : stored.limits = c.limits := by
    rw [Coordinator.limits, persisted, Coordinator.persistLocked_config]
    rfl
  have room : stored.admitArtifact after trial request.artifact = .ok false ↔
      c.HasRoomForTwo request.artifact := by
    obtain ⟨located, provenance⟩ := admitArtifact_located admission
    rw [← limits] at located provenance
    rw [admitArtifact_stored_iff located provenance indexed there (by simp [sameArtifact]), limits]
    have longer : after.artifacts.length = check.record.artifacts.length + 1 := by simp [artifacts]
    have fuller : trial.artifacts.length = check.trial.artifacts.length + 1 := by
      simp [trial, TrialRecord.touch, TrialRecord.hold]
    rw [longer, fuller]
    constructor
    · rintro ⟨experimentRoom, trialRoom⟩
      exact ⟨check.record, check.trial, found, trialFound, experimentRoom, trialRoom⟩
    · rintro ⟨record, owner, recordFound, ownerFound, experimentRoom, trialRoom⟩
      obtain rfl := Option.some.inj (recordFound.symm.trans found)
      obtain rfl := Option.some.inj (ownerFound.symm.trans trialFound)
      exact ⟨experimentRoom, trialRoom⟩
  cases answer : stored.admitArtifact after trial request.artifact with
  | error failure =>
      simp only [Coordinator.publishArtifact, found', presented, accepted', answer]
      refine ⟨trivial, iff_of_false (fun impossible => by cases impossible) fun roomy => ?_⟩
      cases answer.symm.trans (room.mpr roomy)
  | ok fresh =>
      have known := admitArtifact_indexed answer
      rw [indexed, Option.isSome_some] at known
      obtain rfl : fresh = false := by simpa using known
      simp only [Coordinator.publishArtifact, found', presented, accepted', answer]
      exact ⟨trivial, iff_of_true trivial (room.mp answer)⟩

omit [MetricReal R] [CanonicalDigests R] in
theorem Reply.status_succeeded_iff (result : Result Unit) :
    (Reply.status result : Reply R).succeeded = true ↔ result = .ok () := by
  cases result with
  | ok value => exact iff_of_true rfl rfl
  | error failure => exact iff_of_false Bool.false_ne_true fun impossible => nomatch impossible

/-- Delivering a publication that succeeded once more leaves the coordinator as it is. -/
theorem publication_again (again : Option SaveFault) {request : Request R}
    (publication : request.publishes = true)
    (succeeded : (c.perform request fault).2.succeeded = true) :
    ((c.perform request fault).1.perform request again).1 = (c.perform request fault).1 ∧
      (((c.perform request fault).1.perform request again).2.succeeded = true ↔
        c.Recognises request) := by
  rcases Coordinator.perform_succeeded succeeded with ⟨prepared, undo, answer, saves, -, ended⟩ |
    ⟨unchanged, answered⟩ | ⟨process, -⟩
  · rw [ended] at succeeded ⊢
    cases saves with
    | refuseObservation => cases succeeded
    | refuseArtifact => cases succeeded
    | @publishObservation request record check admitted found accepted admission =>
        obtain ⟨kept, answer⟩ := publishObservation_again fault found accepted admission
          rfl again
        refine ⟨kept, ?_⟩
        have fresh : c.knowsObservation request.observation = false := by
          have lookup := ((c.checkEnvelope_eq_ok _ _).mp accepted).2.2.2.1
          obtain rfl : record = check.record := Option.some.inj (found.symm.trans lookup)
          rw [Coordinator.knowsObservation, found]
          exact admitObservation_indexed admission
        simp only [Coordinator.Recognises, fresh, Bool.false_eq_true, false_or]
        rw [← answer]
        exact Reply.status_succeeded_iff _
    | @publishArtifact request record envelope check found built accepted admission =>
        obtain ⟨kept, answer⟩ := publishArtifact_again fault found built accepted
          admission rfl again
        refine ⟨kept, ?_⟩
        have fresh : c.knowsArtifact request.artifact = false := by
          have lookup := ((c.checkEnvelope_eq_ok _ _).mp accepted).2.2.2.1
          rw [Coordinator.artifactEnvelope_experiment built] at lookup
          obtain rfl : record = check.record := Option.some.inj (found.symm.trans lookup)
          rw [Coordinator.knowsArtifact, found]
          exact admitArtifact_indexed admission
        simp only [Coordinator.Recognises, fresh, Bool.false_eq_true, false_or]
        rw [← answer]
        exact Reply.status_succeeded_iff _
    | _ => cases publication
  · rw [unchanged]
    cases answered with
    | @observationHeld request record check found accepted admission =>
        have lookup := ((c.checkEnvelope_eq_ok _ _).mp accepted).2.2.2.1
        obtain rfl : record = check.record := Option.some.inj (found.symm.trans lookup)
        have known : c.knowsObservation request.observation = true := by
          rw [Coordinator.knowsObservation, found]
          exact admitObservation_indexed admission
        have answer := publishObservation_admitted found accepted admission again
        rw [Coordinator.perform, answer]
        exact ⟨rfl, iff_of_true rfl (.inl known)⟩
    | @artifactHeld request record envelope check found built accepted admission =>
        have lookup := ((c.checkEnvelope_eq_ok _ _).mp accepted).2.2.2.1
        rw [Coordinator.artifactEnvelope_experiment built] at lookup
        obtain rfl : record = check.record := Option.some.inj (found.symm.trans lookup)
        have known : c.knowsArtifact request.artifact = true := by
          rw [Coordinator.knowsArtifact, found]
          exact admitArtifact_indexed admission
        have answer : c.publishArtifact request again = (c, .ok ()) := by
          simp only [Coordinator.publishArtifact, found, built, accepted, admission]
        rw [Coordinator.perform, answer]
        exact ⟨rfl, iff_of_true rfl (.inl known)⟩
    | _ => cases publication
  · cases request with
    | publishObservation _ => cases process
    | publishArtifact _ => cases process
    | _ => cases publication

/-- A publication that succeeded succeeds again, with the state unchanged, exactly when it repeats a
stored one or what it stored is recognised. -/
theorem publication_idempotent_iff {request : Request R} (publication : request.publishes = true)
    (succeeded : (c.perform request fault).2.succeeded = true) (again : Option SaveFault) :
    (((c.perform request fault).1.perform request again).2.succeeded = true ∧
      ((c.perform request fault).1.perform request again).1.state =
        (c.perform request fault).1.state) ↔ c.Recognises request := by
  obtain ⟨kept, answer⟩ := publication_again again publication succeeded
  rw [kept, answer]
  exact and_iff_left rfl

end Publications

namespace Sample

/-- An artifact of the claimed attempt. -/
def report : PublishArtifactRequest where
  epoch := coordinator.epoch
  worker := worker
  boot := boot
  artifact :=
    { id := ⟨1⟩, experiment, generation := ⟨1⟩, branch := candidate, trial, attempt := ⟨1⟩,
      locator := text "report" }

/-- A coordinator that accepts one artifact from each attempt, after the claim. -/
def narrow : Coordinator ℚ := (limited { maxArtifactsPerAttempt := 1 }).session claiming

end Sample

/-- The sample observation is recognised when it is delivered again. -/
theorem publication_idempotent_sample :
    ((Sample.claimed.perform (.publishObservation Sample.publication) none).1.perform
        (.publishObservation Sample.publication) none).2.succeeded = true ∧
      ((Sample.claimed.perform (.publishObservation Sample.publication) none).1.perform
        (.publishObservation Sample.publication) none).1.state =
        (Sample.claimed.perform (.publishObservation Sample.publication) none).1.state :=
  (publication_idempotent_iff rfl (by decide +kernel) none).mpr (.inr (decide_eq_true rfl))

/-- An artifact that fills its trial is refused when it is delivered again. -/
theorem publication_redelivery_fails :
    (World.running Sample.narrow).Reachable (text "state") ∧
      (Sample.narrow.perform (.publishArtifact Sample.report) none).2.succeeded = true ∧
      ((Sample.narrow.perform (.publishArtifact Sample.report) none).1.perform
        (.publishArtifact Sample.report) none).2.succeeded = false :=
  ⟨Sample.limited_reachable rfl _, by decide +kernel, by decide +kernel⟩

end ExperimentFabric
