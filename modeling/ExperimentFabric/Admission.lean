import ExperimentFabric.System

/-!
# What a passed check establishes

The envelope check is a long sequence of comparisons.  Its success is one structure of facts about
the designated record and one about the presenting worker incarnation.  The guards of the other
operations get one structure of facts each.
-/

namespace ExperimentFabric

open Lib

variable {R : Type}

/-- What an accepted envelope says about the record it designates. -/
structure Admitted (record : ExperimentRecord R) (envelope : AuthorityEnvelope)
    (branch : BranchDefinition) (trial : TrialRecord) (attempt : AttemptRecord) : Prop where
  opened : record.state = .opened
  generation : envelope.generation = record.definition.generation
  hypothesis : envelope.hypothesis = record.definition.hypothesis
  hypothesisRevision : envelope.hypothesisRevision = record.definition.hypothesisRevision
  policy : envelope.policy = record.definition.policy.id
  policyGeneration : envelope.policyGeneration = record.definition.policy.generation
  branchFound : record.findBranch envelope.branch = some branch
  branchGeneration : branch.generation = envelope.branchGeneration
  branchActive : branch.state = .active
  trialFound : record.trials.find? envelope.trial = some trial
  trialBranch : trial.branch = envelope.branch
  trialGeneration : trial.generation = envelope.generation
  trialBranchGeneration : trial.branchGeneration = envelope.branchGeneration
  trialRevision : trial.hypothesisRevision = envelope.hypothesisRevision
  trialPolicy : trial.policy = envelope.policy
  trialPolicyGeneration : trial.policyGeneration = envelope.policyGeneration
  trialOpen : isTerminal trial.state = false
  authoritative : trial.authoritativeAttempt = envelope.attempt
  attemptFound : record.attempts.find? envelope.attempt = some attempt
  attemptWorker : attempt.worker = envelope.worker
  attemptBoot : attempt.boot = envelope.boot
  attemptEpoch : attempt.epoch = envelope.epoch
  attemptOpen : isAttemptTerminal attempt.state = false

theorem checkRecord_eq_ok (record : ExperimentRecord R) (envelope : AuthorityEnvelope) :
    checkRecord record envelope = .ok () ↔
      record.state = .opened ∧ envelope.generation = record.definition.generation ∧
        (envelope.hypothesis = record.definition.hypothesis ∧
          envelope.hypothesisRevision = record.definition.hypothesisRevision) ∧
        envelope.policy = record.definition.policy.id ∧
          envelope.policyGeneration = record.definition.policy.generation := by
  simp only [checkRecord, require_bind_eq_ok, require_eq_ok, isExperimentMutable,
    Bool.and_eq_true, decide_eq_true_eq, ne_eq, decide_not, Bool.not_eq_true',
    decide_eq_false_iff_not]
  constructor
  · rintro ⟨-, -, opened, rest⟩
    exact ⟨opened, rest⟩
  · rintro ⟨opened, rest⟩
    exact ⟨by simp [opened], by simp [opened], opened, rest⟩

theorem checkBranch_eq_ok (branch : BranchDefinition) (envelope : AuthorityEnvelope) :
    checkBranch branch envelope = .ok () ↔
      branch.generation = envelope.branchGeneration ∧ branch.state = .active := by
  simp [checkBranch, isBranchEligible]

theorem checkTrial_eq_ok (trial : TrialRecord) (envelope : AuthorityEnvelope) :
    checkTrial trial envelope = .ok () ↔
      trial.branch = envelope.branch ∧ trial.generation = envelope.generation ∧
        trial.branchGeneration = envelope.branchGeneration ∧
        trial.hypothesisRevision = envelope.hypothesisRevision ∧
        (trial.policy = envelope.policy ∧ trial.policyGeneration = envelope.policyGeneration) ∧
        isTerminal trial.state = false ∧ trial.authoritativeAttempt = envelope.attempt := by
  simp only [checkTrial, require_bind_eq_ok, require_eq_ok, Bool.and_eq_true,
    decide_eq_true_eq, ne_eq, decide_not, Bool.not_eq_true', decide_eq_false_iff_not]
  constructor
  · rintro ⟨branch, generation, branchGeneration, revision, policy, -, open', attempt⟩
    exact ⟨branch, generation, branchGeneration, revision, policy, open', attempt⟩
  · rintro ⟨branch, generation, branchGeneration, revision, policy, open', attempt⟩
    refine ⟨branch, generation, branchGeneration, revision, policy, ?_, open', attempt⟩
    intro cancelled
    simp [cancelled, isTerminal] at open'

theorem checkAttempt_eq_ok (attempt : AttemptRecord) (envelope : AuthorityEnvelope) :
    checkAttempt attempt envelope = .ok () ↔
      (attempt.worker = envelope.worker ∧ attempt.boot = envelope.boot) ∧
        attempt.epoch = envelope.epoch ∧ isAttemptTerminal attempt.state = false := by
  simp [checkAttempt]

namespace Coordinator

/-- The presenting incarnation is registered in this lifetime and holds its authority. -/
structure HoldsAuthority (c : Coordinator R) (envelope : AuthorityEnvelope) : Prop where
  epoch : envelope.epoch = c.epoch
  live : ∃ live, c.findLiveWorker envelope.worker envelope.boot = some live ∧
    live.revoked = false ∧ live.producer = envelope.producer

theorem checkWorker_eq_ok (c : Coordinator R) (envelope : AuthorityEnvelope) :
    c.checkWorker envelope = .ok () ↔ c.HoldsAuthority envelope := by
  have holds : c.HoldsAuthority envelope ↔ envelope.epoch = c.epoch ∧
      ∃ live, c.findLiveWorker envelope.worker envelope.boot = some live ∧
        live.revoked = false ∧ live.producer = envelope.producer :=
    ⟨fun ⟨epoch, live⟩ => ⟨epoch, live⟩, fun ⟨epoch, live⟩ => ⟨epoch, live⟩⟩
  rw [holds]
  simp [checkWorker]

/-- An envelope is accepted exactly when it is well formed, the coordinator admits work, its
incarnation holds authority and the record it designates admits it. -/
theorem checkEnvelope_eq_ok (c : Coordinator R) (envelope : AuthorityEnvelope)
    (check : EnvelopeCheck R) :
    c.checkEnvelope envelope = .ok check ↔
      validateEnvelopeStructure envelope = .ok () ∧ c.admittingWork = true ∧
        c.HoldsAuthority envelope ∧ c.findExperiment envelope.experiment = some check.record ∧
        Admitted check.record envelope check.branch check.trial check.attempt := by
  simp only [checkEnvelope, check_bind_eq_ok, require_eq_ok, demand_bind_eq_ok,
    checkWorker_eq_ok, checkRecord_eq_ok, checkBranch_eq_ok, checkTrial_eq_ok, checkAttempt_eq_ok,
    pure, Except.pure, Except.ok.injEq]
  constructor
  · rintro ⟨wellFormed, admitting, authority, record, found,
      ⟨opened, generation, ⟨hypothesis, revision⟩, policy, policyGeneration⟩, branch, branchFound,
      ⟨branchGeneration, active⟩, trial, trialFound, ⟨trialBranch, trialGeneration,
      trialBranchGeneration, trialRevision, ⟨trialPolicy, trialPolicyGeneration⟩, trialOpen,
      authoritative⟩, attempt, attemptFound, ⟨⟨worker, boot⟩, epoch, attemptOpen⟩, rfl⟩
    exact ⟨wellFormed, admitting, authority, found, opened, generation, hypothesis, revision,
      policy, policyGeneration, branchFound, branchGeneration, active, trialFound, trialBranch,
      trialGeneration, trialBranchGeneration, trialRevision, trialPolicy, trialPolicyGeneration,
      trialOpen, authoritative, attemptFound, worker, boot, epoch, attemptOpen⟩
  · rintro ⟨wellFormed, admitting, authority, found, admitted⟩
    exact ⟨wellFormed, admitting, authority, check.record, found,
      ⟨admitted.opened, admitted.generation, ⟨admitted.hypothesis, admitted.hypothesisRevision⟩,
        admitted.policy, admitted.policyGeneration⟩, check.branch, admitted.branchFound,
      ⟨admitted.branchGeneration, admitted.branchActive⟩, check.trial, admitted.trialFound,
      ⟨admitted.trialBranch, admitted.trialGeneration, admitted.trialBranchGeneration,
        admitted.trialRevision, ⟨admitted.trialPolicy, admitted.trialPolicyGeneration⟩,
        admitted.trialOpen, admitted.authoritative⟩, check.attempt, admitted.attemptFound,
      ⟨⟨admitted.attemptWorker, admitted.attemptBoot⟩, admitted.attemptEpoch,
        admitted.attemptOpen⟩, rfl⟩

theorem checkEnvelope_opened {c : Coordinator R} {envelope : AuthorityEnvelope}
    {check : EnvelopeCheck R} (accepted : c.checkEnvelope envelope = .ok check) :
    check.record.state = .opened := by
  obtain ⟨-, -, -, -, admitted⟩ := (c.checkEnvelope_eq_ok _ _).mp accepted
  exact admitted.opened

/-! ## Guards -/

/-- A hypothesis revision that passed its guard. -/
structure ReviseAllowed (c : Coordinator R) (experiment : ExperimentId)
    (spec : HypothesisRevisionSpec) (record : ExperimentRecord R) : Prop where
  found : c.findExperiment experiment = some record
  opened : record.state = .opened
  statement : spec.statement ≠ [] ∧ spec.statement.length ≤ c.limits.maxStatementLength
  metric : spec.expectedMetric.valid = true → (record.findMetric spec.expectedMetric).isSome = true

theorem reviseHypothesisGuard_ok {c : Coordinator R} {experiment : ExperimentId}
    {spec : HypothesisRevisionSpec} {record : ExperimentRecord R}
    (guarded : c.reviseHypothesisGuard experiment spec = .ok record) :
    c.ReviseAllowed experiment spec record := by
  simp only [reviseHypothesisGuard, demand_bind_eq_ok, require_bind_eq_ok, isExperimentMutable,
    Bool.and_eq_true, decide_eq_true_eq, Bool.or_eq_true, Bool.not_eq_true'] at guarded
  obtain ⟨_, found, opened, statement, metric, equal⟩ := guarded
  cases equal
  refine ⟨found, opened, statement, fun valid => ?_⟩
  rcases metric with invalid | known
  · simp [invalid] at valid
  · exact known

/-- A fork that passed its guard. -/
structure ForkAllowed (c : Coordinator R) (experiment : ExperimentId) (parent : BranchId)
    (spec : BranchSpec) (record : ExperimentRecord R) (parentBranch : BranchDefinition) :
    Prop where
  found : c.findExperiment experiment = some record
  opened : record.state = .opened
  parentFound : record.findBranch parent = some parentBranch
  room : record.definition.branches.length < c.limits.maxBranchesPerExperiment

theorem forkBranchGuard_ok {c : Coordinator R} {experiment : ExperimentId} {parent : BranchId}
    {spec : BranchSpec} {record : ExperimentRecord R} {parentBranch : BranchDefinition}
    (guarded : c.forkBranchGuard experiment parent spec = .ok (record, parentBranch)) :
    c.ForkAllowed experiment parent spec record parentBranch := by
  simp only [forkBranchGuard, demand_bind_eq_ok, require_bind_eq_ok, isExperimentMutable,
    decide_eq_true_eq] at guarded
  obtain ⟨_, found, opened, _, parentFound, -, room, -, -, -, -, -, equal⟩ := guarded
  cases equal
  exact ⟨found, opened, parentFound, room⟩

/-- A retirement that passed its guard. -/
structure RetireAllowed (c : Coordinator R) (experiment : ExperimentId) (branch : BranchId)
    (record : ExperimentRecord R) : Prop where
  found : c.findExperiment experiment = some record
  allowed : ∃ definition, record.findBranch branch = some definition ∧
    definition.state.isValidTransition .retired = true

theorem retireBranchGuard_ok {c : Coordinator R} {experiment : ExperimentId} {branch : BranchId}
    {record : ExperimentRecord R} (guarded : c.retireBranchGuard experiment branch = .ok record) :
    c.RetireAllowed experiment branch record := by
  simp only [retireBranchGuard, demand_bind_eq_ok, require_bind_eq_ok] at guarded
  obtain ⟨_, found, definition, branchFound, allowed, equal⟩ := guarded
  cases equal
  exact ⟨found, definition, branchFound, allowed⟩

/-- A trial creation that passed its guard. -/
structure TrialAllowed (c : Coordinator R) (experiment : ExperimentId) (branchId : BranchId)
    (payload : Text) (record : ExperimentRecord R) (branch : BranchDefinition) : Prop where
  found : c.findExperiment experiment = some record
  opened : record.state = .opened
  branchFound : record.findBranch branchId = some branch
  active : branch.state = .active
  payload : payload.length ≤ c.limits.maxPayloadTextLength

theorem createTrialGuard_ok {c : Coordinator R} {experiment : ExperimentId} {branchId : BranchId}
    {payload : Text} {record : ExperimentRecord R} {branch : BranchDefinition}
    (guarded : c.createTrialGuard experiment branchId payload = .ok (record, branch)) :
    c.TrialAllowed experiment branchId payload record branch := by
  simp only [createTrialGuard, demand_bind_eq_ok, require_bind_eq_ok, isExperimentMutable,
    isBranchEligible, decide_eq_true_eq] at guarded
  obtain ⟨_, found, opened, _, branchFound, active, payloadFits, -, -, equal⟩ := guarded
  cases equal
  exact ⟨found, opened, branchFound, active, payloadFits⟩

theorem commitTrialGuard_ok {c : Coordinator R} {request : CommitTrialRequest}
    {check : EnvelopeCheck R} (guarded : c.commitTrialGuard request = .ok check) :
    c.checkEnvelope request.envelope = .ok check := by
  simp only [commitTrialGuard, require_bind_eq_ok] at guarded
  exact guarded.2

theorem failTrialGuard_ok {c : Coordinator R} {request : FailTrialRequest}
    {check : EnvelopeCheck R} (guarded : c.failTrialGuard request = .ok check) :
    c.checkEnvelope request.envelope = .ok check ∧ request.kind ≠ .none := by
  rw [failTrialGuard, require_bind_eq_ok, bind_eq_ok] at guarded
  obtain ⟨-, _, accepted, rest⟩ := guarded
  simp only [require_bind_eq_ok, decide_eq_true_eq] at rest
  obtain ⟨named, equal⟩ := rest
  cases equal
  exact ⟨accepted, named⟩

/-- An observation that is stored: its identity is free, there is room, and it is alone in its cell
if it is valid. -/
structure ObservationAdmitted [MetricReal R] (c : Coordinator R) (record : ExperimentRecord R)
    (observation : Observation R) : Prop where
  metric : ∃ metric, record.findMetric observation.metric = some metric
  free : (c.observationsOf record.definition.id).find? observation.id = none
  room : record.observations.length < c.limits.maxObservationsPerExperiment
  budget : record.observations.length < c.limits.maxObservationsPerTrial * max 1 record.trials.size
  single : observation.validity = .valid → ∀ earlier ∈ record.observations,
    sameAttemptCell observation earlier = false

/-- An admitted observation is the submitted one. -/
theorem admitObservation_ok [MetricReal R] {c : Coordinator R} {record : ExperimentRecord R}
    {observation admitted : Observation R}
    (admission : c.admitObservation record observation = .ok (some admitted)) :
    admitted = observation ∧ c.ObservationAdmitted record observation := by
  simp only [admitObservation, demand_bind_eq_ok] at admission
  obtain ⟨metric, found, admission⟩ := admission
  split at admission
  · simp only [require_bind_eq_ok] at admission
    cases admission.2
  · rename_i free
    simp only [require_bind_eq_ok, decide_eq_true_eq] at admission
    obtain ⟨room, budget, admission⟩ := admission
    split at admission
    · simp only [check_bind_eq_ok, require_eq_ok, Bool.not_eq_true', List.any_eq_false,
        Bool.not_eq_true] at admission
      obtain ⟨-, alone, same⟩ := admission
      cases same
      exact ⟨rfl, ⟨metric, found⟩, free, room, budget, fun _ => alone⟩
    · cases admission
      rename_i other
      exact ⟨rfl, ⟨metric, found⟩, free, room, budget, fun valid => (other valid).elim⟩

/-- The value of an admitted valid observation is admissible for its metric. -/
theorem admitObservation_checked [MetricReal R] {c : Coordinator R} {record : ExperimentRecord R}
    {observation admitted : Observation R}
    (admission : c.admitObservation record observation = .ok (some admitted))
    (valid : observation.validity = .valid) :
    ∃ metric, record.findMetric observation.metric = some metric ∧
      checkValue metric observation.value = .ok () := by
  simp only [admitObservation, demand_bind_eq_ok] at admission
  obtain ⟨metric, found, admission⟩ := admission
  refine ⟨metric, found, ?_⟩
  split at admission
  · simp only [require_bind_eq_ok] at admission
    cases admission.2
  · simp only [if_pos valid, check_bind_eq_ok] at admission
    obtain ⟨-, -, checked, -⟩ := admission
    exact checked

/-- The value of an admitted valid observation is of the kind of its metric. -/
theorem admitObservation_kind [MetricReal R] {c : Coordinator R} {record : ExperimentRecord R}
    {observation admitted : Observation R}
    (admission : c.admitObservation record observation = .ok (some admitted))
    (valid : observation.validity = .valid) :
    ∃ metric, record.findMetric observation.metric = some metric ∧
      observation.value.kind = metric.kind := by
  obtain ⟨metric, found, checked⟩ := admitObservation_checked admission valid
  simp only [checkValue, require_bind_eq_ok, decide_eq_true_eq] at checked
  exact ⟨metric, found, checked.1⟩

/-- An artifact that is stored: its identity is free and there is room. -/
structure ArtifactAdmitted (c : Coordinator R) (record : ExperimentRecord R) (trial : TrialRecord)
    (artifact : ArtifactRecord) : Prop where
  free : (c.artifactsOf record.definition.id).find? artifact.id = none
  room : record.artifacts.length < c.limits.maxArtifactsPerExperiment
  budget : trial.artifacts.length < c.limits.maxArtifactsPerAttempt

theorem admitArtifact_ok {c : Coordinator R} {record : ExperimentRecord R} {trial : TrialRecord}
    {artifact : ArtifactRecord} (admission : c.admitArtifact record trial artifact = .ok true) :
    c.ArtifactAdmitted record trial artifact := by
  simp only [admitArtifact, require_bind_eq_ok, decide_eq_true_eq] at admission
  obtain ⟨room, budget, -, -, admission⟩ := admission
  split at admission
  · simp only [require_bind_eq_ok] at admission
    cases admission.2
  · rename_i free
    exact ⟨free, room, budget⟩

/-- A claim that passed its guard comes from a live worker of this lifetime. -/
structure ClaimAllowed (c : Coordinator R) (request : ClaimTrialRequest) (live : LiveWorker) :
    Prop where
  epoch : request.epoch = c.epoch
  found : c.findLiveWorker request.worker request.boot = some live
  unrevoked : live.revoked = false

theorem claimTrialsGuard_ok {c : Coordinator R} {request : ClaimTrialRequest} {live : LiveWorker}
    (guarded : c.claimTrialsGuard request = .ok live) : c.ClaimAllowed request live := by
  rw [claimTrialsGuard, bind_eq_ok] at guarded
  obtain ⟨_, requester, rest⟩ := guarded
  simp only [liveRequester, require_bind_eq_ok, demand_bind_eq_ok, decide_eq_true_eq,
    Bool.not_eq_true'] at requester
  obtain ⟨-, epoch, _, found, unrevoked, same⟩ := requester
  simp only [require_bind_eq_ok] at rest
  obtain ⟨-, equal⟩ := rest
  cases equal
  cases same
  exact ⟨epoch, found, unrevoked⟩

/-- A decision that passed its guard. -/
structure FinalizeAllowed (c : Coordinator R) (experiment : ExperimentId)
    (record : ExperimentRecord R) : Prop where
  found : c.findExperiment experiment = some record
  notFinalized : record.state ≠ .finalized
  room : record.decisions.length < c.limits.maxDecisionsPerExperiment

theorem finalizeGuard_ok {c : Coordinator R} {experiment : ExperimentId}
    {record : ExperimentRecord R} (guarded : c.finalizeGuard experiment = .ok record) :
    c.FinalizeAllowed experiment record := by
  simp only [finalizeGuard, demand_bind_eq_ok, require_bind_eq_ok, decide_eq_true_eq] at guarded
  obtain ⟨_, found, notFinalized, room, equal⟩ := guarded
  cases equal
  exact ⟨found, notFinalized, room⟩

/-- A rollback that passed its guard. -/
structure RollbackAllowed (c : Coordinator R) (experiment : ExperimentId)
    (target : ExperimentGeneration) (record : ExperimentRecord R) (chosen : RollbackPoint) :
    Prop where
  found : c.findExperiment experiment = some record
  notCancelled : record.state ≠ .cancelled
  member : chosen ∈ record.rollbackPoints
  generation : chosen.generation = target
  valid : target.valid = true

theorem rollbackGuard_ok {c : Coordinator R} {experiment : ExperimentId}
    {target : ExperimentGeneration} {record : ExperimentRecord R} {chosen : RollbackPoint}
    (guarded : c.rollbackGuard experiment target = .ok (record, chosen)) :
    c.RollbackAllowed experiment target record chosen := by
  simp only [rollbackGuard, demand_bind_eq_ok, require_bind_eq_ok, decide_eq_true_eq] at guarded
  obtain ⟨_, found, notCancelled, valid, _, chosenFound, -, equal⟩ := guarded
  cases equal
  exact ⟨found, notCancelled, List.mem_reverse.mp (List.mem_of_find?_eq_some chosenFound),
    by simpa using List.find?_some chosenFound, valid⟩

end Coordinator

end ExperimentFabric
