import ExperimentFabric.Backing
import ExperimentFabric.Reservations

/-!
# What a success promises

A success acknowledges an effect: an identity, a registration, an attempt, evidence, an outcome.
Everything acknowledged by a saved request is in the file, and a restart keeps it.  A request that is
answered from memory promises what the memory has, which a failed write may have kept from the file.
-/

namespace ExperimentFabric

open Lib

variable {R : Type}

/-! ## Effects -/

/-- The record holds the observation, as it was published or with the same content. -/
def ExperimentRecord.Observes [MetricReal R] (record : ExperimentRecord R)
    (observation : Observation R) : Prop :=
  ∃ held ∈ record.observations, { held with sequence := observation.sequence } = observation ∨
    sameObservation held observation = true

/-- The record holds an artifact of the same content. -/
def ExperimentRecord.Holds (record : ExperimentRecord R) (artifact : ArtifactRecord) : Prop :=
  ∃ held ∈ record.artifacts, sameArtifact held artifact = true

/-- The trial is completed by the attempt, and the submitted artifacts are held for it. -/
def ExperimentRecord.Completes (record : ExperimentRecord R) (trial : TrialId)
    (attempt : TrialAttemptId) (artifacts : List ArtifactRecord) : Prop :=
  (∃ done, record.trials.find? trial = some done ∧ done.state = .completed ∧
      done.authoritativeAttempt = attempt) ∧
    (∃ committed, record.attempts.find? attempt = some committed ∧
      committed.state = .completed ∧ committed.committed = true) ∧
    ∀ submitted ∈ artifacts, ∃ held ∈ record.artifacts,
      held.id = submitted.id ∧ held.attempt = attempt

/-- The attempt was issued for the trial to the worker incarnation. -/
def ExperimentRecord.Issues (record : ExperimentRecord R) (attempt : TrialAttemptId)
    (trial : TrialId) (worker : WorkerId) (boot : WorkerBootId) : Prop :=
  ∃ issued, record.attempts.find? attempt = some issued ∧ issued.trial = trial ∧
    issued.worker = worker ∧ issued.boot = boot

/-- The trial is cancelled. -/
def ExperimentRecord.CancelsTrial (record : ExperimentRecord R) (trial : TrialId) : Prop :=
  ∃ held, record.trials.find? trial = some held ∧ held.state = .cancelled

/-- The experiment is there and has the property. -/
def CoordinatorState.Has (state : CoordinatorState R) (experiment : ExperimentId)
    (property : ExperimentRecord R → Prop) : Prop :=
  ∃ record, state.experiments.find? experiment = some record ∧ property record

/-- The state has the effect that a success acknowledges. -/
def CoordinatorState.Acknowledges [MetricReal R] (state : CoordinatorState R) :
    Request R → Reply R → Prop
  | .createExperiment spec, .experiment (.ok id) =>
      state.Has id fun record => record.definition.name = spec.name
  | .reviseHypothesis experiment spec, .revision (.ok revision) =>
      state.Has experiment fun record =>
        record.hypothesis.revision = revision ∧ record.hypothesis.statement = spec.statement
  | .forkBranch experiment parent spec, .branch (.ok id) =>
      state.Has experiment fun record => ∃ branch ∈ record.definition.branches,
        branch.id = id ∧ branch.parent = parent ∧ branch.name = spec.name
  | .retireBranch experiment id _, _ =>
      state.Has experiment fun record =>
        ∃ branch, record.findBranch id = some branch ∧ branch.state = .retired
  | .createTrial experiment branch payload, .trial (.ok id) =>
      state.Has experiment fun record => ∃ trial, record.trials.find? id = some trial ∧
        trial.branch = branch ∧ trial.payload = payload
  | .registerWorker request, .registration reply =>
      state.Registers request.worker request.boot reply.producer reply.epoch
  | .claimTrials request, .claim reply =>
      ∀ assignment ∈ reply.assignments, state.Has assignment.envelope.experiment
        (·.Issues assignment.envelope.attempt assignment.envelope.trial request.worker request.boot)
  | .publishObservation request, _ =>
      state.Has request.observation.experiment (·.Observes request.observation)
  | .publishArtifact request, _ =>
      state.Has request.artifact.experiment (·.Holds request.artifact)
  | .commitTrial request, _ =>
      state.Has request.envelope.experiment
        (·.Completes request.envelope.trial request.envelope.attempt request.artifacts)
  | .failTrial request, _ =>
      state.Has request.envelope.experiment fun record =>
        ∃ attempt, record.attempts.find? request.envelope.attempt = some attempt ∧
          attempt.state = .failed ∧ attempt.failureKind = request.kind
  | .cancelTrial trial _, _ => ∃ experiment, state.Has experiment (·.CancelsTrial trial)
  | .cancelExperiment experiment _, _ => state.Has experiment (·.state = .cancelled)
  | .finalizeExperiment experiment _ _, .decision (.ok decision) =>
      state.Has experiment (decision ∈ ·.decisions)
  | .rollback experiment target _, _ =>
      state.Has experiment (·.definition.generation = target)
  | _, _ => True

theorem CoordinatorState.Has.stored {state : CoordinatorState R} {id : ExperimentId}
    {record : ExperimentRecord R} {experiments : OrderedMap ExperimentId (ExperimentRecord R)}
    {property : ExperimentRecord R → Prop} (stored : state.experiments = experiments.assign id record)
    (holds : property record) : state.Has id property :=
  ⟨record, by rw [stored, OrderedMap.find?_assign_self], holds⟩

/-- What every experiment keeps, the state keeps. -/
theorem CoordinatorState.Has.mono {old new : CoordinatorState R} {id : ExperimentId}
    {related : ExperimentRecord R → ExperimentRecord R → Prop}
    {property : ExperimentRecord R → Prop} (has : old.Has id property)
    (extends_ : OrderedMap.Extends related old.experiments new.experiments)
    (kept : ∀ before after, related before after → property before → property after) :
    new.Has id property := by
  obtain ⟨before, found, holds⟩ := has
  obtain ⟨after, lookup, same⟩ := extends_ id before found
  exact ⟨after, lookup, kept before after same holds⟩

/-! ## Saved requests -/

/-- What a claim has issued so far is in memory. -/
structure Assigned (request : ClaimTrialRequest) (progress : ClaimProgress R) : Prop where
  identity : ∀ id record, progress.coordinator.findExperiment id = some record →
    record.definition.id = id
  bounded : ∀ id record key attempt, progress.coordinator.findExperiment id = some record →
    record.attempts.find? key = some attempt →
      key.value ≤ progress.coordinator.state.watermarks.attempt
  issued : ∀ assignment ∈ progress.assignments,
    progress.coordinator.state.Has assignment.envelope.experiment
      (·.Issues assignment.envelope.attempt assignment.envelope.trial request.worker request.boot)

/-- No issued attempt is lost. -/
def IssuesKept (before after : ExperimentRecord R) : Prop :=
  ∀ attempt trial worker boot, before.Issues attempt trial worker boot →
    after.Issues attempt trial worker boot

theorem issue_issuesKept (record : ExperimentRecord R) (key : TrialId) (added : AttemptRecord)
    (sequence : Nat) : IssuesKept record (record.issue key added sequence) := by
  rintro attempt trial worker boot ⟨issued, found, same⟩
  obtain ⟨kept, lookup, rfl⟩ := OrderedMap.Extends.emplace (fun _ => rfl) attempt issued found
  exact ⟨_, lookup, same⟩

theorem issue_issues (record : ExperimentRecord R) (key : TrialId) (added : AttemptRecord)
    (sequence : Nat) (absent : record.attempts.find? added.id = none) :
    (record.issue key added sequence).Issues added.id added.trial added.worker added.boot :=
  ⟨added, by simp [ExperimentRecord.issue, OrderedMap.find?_emplace, absent], rfl, rfl, rfl⟩

theorem Assigned.claimTrial {request : ClaimTrialRequest} {progress : ClaimProgress R}
    (assigned : Assigned request progress) (producer : ProducerId) (experiment : ExperimentId)
    (key : TrialId) :
    Assigned request (Coordinator.claimTrial request producer experiment progress key) := by
  unfold Coordinator.claimTrial
  split
  · exact assigned
  · split
    · exact assigned
    · rename_i record found
      split
      · exact assigned
      · rename_i trial trialFound
        split
        · exact assigned
        · -- The attempt gets the next identity, which no attempt of the record has yet.
          have absent : record.attempts.find?
              ⟨progress.coordinator.state.watermarks.attempt + 1⟩ = none := by
            by_contra present
            obtain ⟨attempt, held⟩ := Option.ne_none_iff_exists'.mp present
            exact absurd (assigned.bounded experiment record _ attempt found held)
              (Nat.not_succ_le_self _)
          constructor
          · intro id other lookup
            simp only [Coordinator.findExperiment, Coordinator.withRecord,
              Coordinator.withExperiments, OrderedMap.find?_assign] at lookup
            split at lookup
            · rename_i here
              obtain rfl := Option.some.inj lookup
              exact here ▸ assigned.identity experiment record found
            · exact assigned.identity id other lookup
          · intro id other candidate attempt lookup held
            simp only [Coordinator.findExperiment, Coordinator.withRecord,
              Coordinator.withExperiments, OrderedMap.find?_assign] at lookup
            split at lookup
            · obtain rfl := Option.some.inj lookup
              rw [ExperimentRecord.issue, OrderedMap.find?_emplace] at held
              split at held
              · rename_i here
                exact here ▸ le_rfl
              · exact (assigned.bounded experiment record candidate attempt found held).trans
                  (Nat.le_succ _)
            · exact (assigned.bounded id other candidate attempt lookup held).trans (Nat.le_succ _)
          · intro assignment member
            have kept : ∀ added sequence, OrderedMap.Extends IssuesKept
                progress.coordinator.state.experiments
                (progress.coordinator.state.experiments.assign experiment
                  (record.issue key added sequence)) := fun added sequence =>
              (OrderedMap.Evolves.assign (fun _ _ _ _ _ => id) found
                (issue_issuesKept record key added sequence)).extends_
            rcases List.mem_append.mp member with earlier | last
            · exact (assigned.issued assignment earlier).mono (kept _ _)
                fun _ _ kept => kept _ _ _ _
            · obtain rfl := List.mem_singleton.mp last
              dsimp only [ExperimentRecord.envelopeOf]
              rw [assigned.identity experiment record found]
              exact CoordinatorState.Has.stored rfl (issue_issues record key _ _ absent)

theorem claimLoop_assigned {c : Coordinator R} (arranged : c.state.Arranged)
    (consistent : c.state.Consistent) (request : ClaimTrialRequest) (live : LiveWorker) :
    Assigned request (c.claimLoop request live) := by
  refine Coordinator.claimLoop_keeps c live (fun progress experiment key assigned =>
    assigned.claimTrial live.producer experiment key) fun _ => ⟨?_, ?_, ?_⟩
  · exact fun id record found => (arranged.placed id record found).identity
  · exact fun id record key attempt found held => (consistent id record found).attemptBound key
      attempt held
  · exact fun _ member => (List.not_mem_nil member).elim

section Saving

variable [MetricReal R] [CanonicalDigests R] {c : Coordinator R} {request : Request R}

/-- A commit completes its trial in the record that holds the registered artifacts. -/
theorem registerArtifacts_completes (envelope : AuthorityEnvelope)
    (artifacts : List ArtifactRecord) {c : Coordinator R} {record : ExperimentRecord R}
    {trial : TrialRecord} {attempt : AttemptRecord}
    (found : c.findExperiment envelope.experiment = some record)
    (trialFound : record.trials.find? envelope.trial = some trial)
    (authoritative : trial.authoritativeAttempt = envelope.attempt)
    (attemptFound : record.attempts.find? envelope.attempt = some attempt)
    (accepted : (Coordinator.registerArtifacts envelope c artifacts).2 = .ok ()) :
    ∃ after, (Coordinator.registerArtifacts envelope c artifacts).1.findExperiment
        envelope.experiment = some after ∧
      ∀ sequence, (after.complete envelope.trial envelope.attempt sequence).Completes
        envelope.trial envelope.attempt artifacts := by
  obtain ⟨after, registered⟩ :=
    Coordinator.registerArtifacts_added envelope artifacts c record found
  obtain ⟨held, added, stored, grown, uses⟩ :=
    Coordinator.registerArtifacts_appended envelope artifacts found trialFound accepted
  have lookup : (Coordinator.registerArtifacts envelope c artifacts).1.findExperiment
      envelope.experiment = some after := by
    rw [Coordinator.findExperiment, registered.stored, OrderedMap.find?_assign_self]
  obtain rfl : after = held := Option.some.inj (lookup.symm.trans stored)
  refine ⟨after, lookup, fun sequence => ⟨?_, ?_, ?_⟩⟩
  · obtain ⟨references, trialHeld⟩ := registered.trials envelope.trial trial trialFound
    refine ⟨({ trial with artifacts := references } : TrialRecord).commit sequence, ?_, rfl,
      authoritative⟩
    refine (OrderedMap.find?_modify ..).trans ?_
    rw [if_pos rfl, trialHeld]
    rfl
  · refine ⟨attempt.commit sequence, ?_, rfl, rfl⟩
    refine (OrderedMap.find?_modify ..).trans ?_
    rw [if_pos rfl, registered.attempts, attemptFound]
    rfl
  · intro submitted member
    have use : (⟨.artifact, envelope.attempt, none, submitted.id.value⟩ : Reservation) ∈
        added.map ArtifactRecord.use := by
      rw [uses]
      exact List.mem_map_of_mem member
    obtain ⟨artifact, there, same⟩ := List.mem_map.mp use
    have sameAttempt := congrArg Reservation.attempt same
    have sameValue := congrArg Reservation.id same
    refine ⟨artifact, ?_, congrArg StrongId.mk sameValue, sameAttempt⟩
    exact grown ▸ List.mem_append_right _ there

/-- What a request saves has the effect that its success acknowledges. -/
theorem Saving.acknowledges {prepared : Coordinator R} {undo : Coordinator R → Coordinator R}
    {answer : Check Status → Reply R} (saves : Saving c request prepared undo answer)
    (arranged : c.state.Arranged) (consistent : c.state.Consistent)
    (succeeded : (answer (.ok ())).succeeded = true) :
    prepared.state.Acknowledges request (answer (.ok ())) := by
  cases saves with
  | create accepted admitting room absent metrics known defined built valid =>
      subst built
      exact .stored rfl rfl
  | revise guarded => exact .stored rfl ⟨rfl, rfl⟩
  | fork guarded built valid =>
      subst built
      have allowed := Coordinator.forkBranchGuard_ok guarded
      refine .stored rfl ⟨_, List.mem_append_right _ List.mem_cons_self, rfl, ?_, rfl⟩
      exact ExperimentRecord.findBranch_id allowed.parentFound
  | retire guarded =>
      obtain ⟨definition, branchFound, -⟩ := (Coordinator.retireBranchGuard_ok guarded).allowed
      refine .stored rfl ⟨{ definition with
        state := .retired, generation := ⟨definition.generation.value + 1⟩ }, ?_, rfl⟩
      unfold ExperimentRecord.findBranch at branchFound ⊢
      dsimp only [ExperimentRecord.retire, ExperimentRecord.log]
      rw [ExperimentRecord.find?_updateBranch, if_pos rfl, branchFound]
      · rfl
      · exact fun _ => rfl
  | @addTrial experiment _ payload record _ branch guarded built valid =>
      subst built
      have allowed := Coordinator.createTrialGuard_ok guarded
      have absent : record.trials.find? ⟨c.state.watermarks.trial + 1⟩ = none := by
        by_contra present
        obtain ⟨trial, held⟩ := Option.ne_none_iff_exists'.mp present
        exact absurd ((consistent experiment record allowed.found).trialBound _ trial held)
          (Nat.not_succ_le_self _)
      refine .stored rfl ⟨record.newTrial experiment branch ⟨c.state.watermarks.trial + 1⟩ payload
        (c.currentSequence + 1), ?_, ExperimentRecord.findBranch_id allowed.branchFound, rfl⟩
      exact congrArg (OrderedMap.find? · _) (OrderedMap.emplace_absent absent _) |>.trans (by simp)
  | register guarded unknown fresh =>
      exact ⟨_, List.mem_append_right _ List.mem_cons_self, rfl, rfl, rfl, rfl, rfl⟩
  | revoke known => trivial
  | claim guarded issued => exact (claimLoop_assigned arranged consistent _ _).issued
  | refuseObservation found refused => cases succeeded
  | @publishObservation request record check admitted found accepted admission =>
      obtain ⟨rfl, -⟩ := Coordinator.admitObservation_ok admission
      obtain ⟨trials, attempts, observed⟩ := observe_frame (check.record.pushObservation
        { request.observation with sequence := c.currentSequence + 1 }) check.trial check.attempt
        request.observation.trial request.observation.attempt (c.currentSequence + 1)
      refine .stored rfl ?_
      rw [observed]
      exact ⟨_, List.mem_append_right _ List.mem_cons_self, .inl rfl⟩
  | refuseArtifact found built refused => cases succeeded
  | publishArtifact found built accepted admission =>
      refine .stored rfl ⟨_, List.mem_append_right _ List.mem_cons_self, ?_⟩
      simp [sameArtifact]
  | @commit request check registered record guarded evidence accepted allowed found =>
      obtain ⟨-, -, -, lookup, admitted⟩ :=
        (c.checkEnvelope_eq_ok _ _).mp (Coordinator.commitTrialGuard_ok guarded)
      have artifacts := registerArtifacts_completes request.envelope request.artifacts
        (c := c.nextSequence) lookup admitted.trialFound admitted.authoritative
        admitted.attemptFound (by rw [accepted])
      rw [accepted] at artifacts
      obtain ⟨held, sameRecord, completes⟩ := artifacts
      obtain rfl : record = held := Option.some.inj (found.symm.trans sameRecord)
      exact .stored rfl (completes (c.currentSequence + 1))
  | @fail request check guarded =>
      obtain ⟨-, -, -, -, admitted⟩ :=
        (c.checkEnvelope_eq_ok _ _).mp (Coordinator.failTrialGuard_ok guarded).1
      have failed := fail_attempts check.record check.trial request.envelope.trial
        request.envelope.attempt request.kind request.detail request.retryable
        (c.currentSequence + 1)
      refine .stored rfl ⟨check.attempt.finish .failed request.kind request.detail
        (c.currentSequence + 1), ?_, rfl, rfl⟩
      rw [failed, OrderedMap.find?_modify, if_pos rfl, admitted.attemptFound]
      rfl
  | @cancelTrial trial reason experiment record held owner isOpen =>
      obtain ⟨-, found⟩ := c.ownerOf_eq_some owner
      refine ⟨experiment, .stored rfl ⟨held.finish .cancelled .cancellation reason
        (c.currentSequence + 1), ?_, rfl⟩⟩
      refine (OrderedMap.find?_modify ..).trans ?_
      rw [if_pos rfl, found]
      rfl
  | cancel found allowed => exact .stored rfl rfl
  | finalize guarded decided =>
      refine .stored rfl ?_
      exact List.mem_append_right _ List.mem_cons_self
  | rollback guarded built valid =>
      subst built
      exact .stored rfl (Coordinator.rollbackGuard_ok guarded).generation
  | save => trivial
  | stopServer active => trivial

end Saving

/-! ## Restarts -/

/-- A record that recovery has gone over. -/
structure Carried (before after : ExperimentRecord R) : Prop extends HistoryKept before after where
  definition : after.definition = before.definition
  hypothesis : after.hypothesis = before.hypothesis
  cancelled : before.state = .cancelled → after.state = .cancelled

theorem Carried.refl (record : ExperimentRecord R) : Carried record record :=
  ⟨.refl record, rfl, rfl, id⟩

theorem Carried.trans {first second third : ExperimentRecord R} (earlier : Carried first second)
    (later : Carried second third) : Carried first third :=
  ⟨earlier.toHistoryKept.trans later.toHistoryKept, later.definition.trans earlier.definition,
    later.hypothesis.trans earlier.hypothesis,
    fun cancelled => later.cancelled (earlier.cancelled cancelled)⟩

/-- What recovery leaves of a state. -/
structure CoordinatorState.CarriedOver (old new : CoordinatorState R) : Prop where
  experiments : OrderedMap.Extends Carried old.experiments new.experiments
  workers : new.workers = old.workers

theorem CoordinatorState.CarriedOver.changed {first second third : CoordinatorState R}
    (earlier : first.CarriedOver second)
    (experiments : OrderedMap.Extends Carried second.experiments third.experiments)
    (workers : third.workers = second.workers) : first.CarriedOver third :=
  ⟨earlier.experiments.trans (fun _ _ _ earlier later => Carried.trans earlier later) experiments,
    workers.trans earlier.workers⟩

/-- Recovery keeps every acknowledged effect. -/
theorem CoordinatorState.Acknowledges.carried [MetricReal R] {old new : CoordinatorState R}
    {request : Request R} {reply : Reply R} (acknowledges : old.Acknowledges request reply)
    (carries : old.CarriedOver new) : new.Acknowledges request reply := by
  have keeps : ∀ {id : ExperimentId} {property : ExperimentRecord R → Prop},
      old.Has id property → (∀ before after, Carried before after → property before →
        property after) → new.Has id property :=
    fun has kept => has.mono carries.experiments kept
  unfold CoordinatorState.Acknowledges at acknowledges ⊢
  split at acknowledges
  · refine keeps acknowledges fun before after carried named => ?_
    rwa [carried.definition]
  · refine keeps acknowledges fun before after carried revised => ?_
    rwa [carried.hypothesis]
  · refine keeps acknowledges fun before after carried forked => ?_
    rwa [carried.definition]
  · refine keeps acknowledges fun before after carried retired => ?_
    unfold ExperimentRecord.findBranch
    rwa [carried.definition]
  · refine keeps acknowledges fun before after carried created => ?_
    obtain ⟨trial, found, branch, payload⟩ := created
    obtain ⟨trial', lookup, kept⟩ := carried.trials _ trial found
    exact ⟨trial', lookup, kept.branch.trans branch,
      (congrArg TrialRecord.payload kept.fixed).trans payload⟩
  · unfold CoordinatorState.Registers
    rwa [carries.workers]
  · refine fun assignment member => keeps (acknowledges assignment member)
      fun before after carried issues => ?_
    obtain ⟨issued, found, trial, worker, boot⟩ := issues
    obtain ⟨attempt, lookup, kept⟩ := carried.attempts _ issued found
    obtain ⟨-, sameWorker, sameBoot, -⟩ := Coordinator.issuedTo_of_fixed kept.fixed
    exact ⟨attempt, lookup, (congrArg AttemptRecord.trial kept.fixed).trans trial,
      sameWorker.trans worker, sameBoot.trans boot⟩
  · refine keeps acknowledges fun before after carried observes => ?_
    obtain ⟨held, member, same⟩ := observes
    exact ⟨held, carried.evidence.observations.subset member, same⟩
  · refine keeps acknowledges fun before after carried holds => ?_
    obtain ⟨held, member, same⟩ := holds
    exact ⟨held, carried.evidence.artifacts.subset member, same⟩
  · refine keeps acknowledges fun before after carried completes => ?_
    obtain ⟨⟨done, found, completed, authoritative⟩, ⟨committed, held, ended, flag⟩, artifacts⟩ :=
      completes
    have trialEnded : isTerminal done.state = true := by rw [completed]; rfl
    have attemptEnded : isAttemptTerminal committed.state = true := by rw [ended]; rfl
    obtain ⟨trial, lookup, kept⟩ := carried.trials _ done found
    obtain ⟨attempt, lookup', frozen⟩ := carried.attempts _ committed held
    obtain rfl := frozen.frozen attemptEnded
    refine ⟨⟨trial, lookup, (kept.state trialEnded).trans completed,
      (kept.authoritative trialEnded).trans authoritative⟩, ⟨attempt, lookup', ended, flag⟩, ?_⟩
    intro submitted member
    obtain ⟨artifact, there, same⟩ := artifacts submitted member
    exact ⟨artifact, carried.evidence.artifacts.subset there, same⟩
  · refine keeps acknowledges fun before after carried failed => ?_
    obtain ⟨attempt, found, ended, kind⟩ := failed
    have terminal : isAttemptTerminal attempt.state = true := by rw [ended]; rfl
    obtain ⟨attempt', lookup, kept⟩ := carried.attempts _ attempt found
    obtain rfl := kept.frozen terminal
    exact ⟨attempt', lookup, ended, kind⟩
  · obtain ⟨experiment, has⟩ := acknowledges
    refine ⟨experiment, keeps has fun before after carried cancels => ?_⟩
    obtain ⟨held, found, cancelled⟩ := cancels
    have terminal : isTerminal held.state = true := by rw [cancelled]; rfl
    obtain ⟨trial, lookup, kept⟩ := carried.trials _ held found
    exact ⟨trial, lookup, (kept.state terminal).trans cancelled⟩
  · exact keeps acknowledges fun before after carried cancelled => carried.cancelled cancelled
  · exact keeps acknowledges fun before after carried member =>
      carried.evidence.decisions.subset member
  · refine keeps acknowledges fun before after carried restored => ?_
    rwa [carried.definition]
  · trivial

namespace Coordinator

/-- A repeated observation repeats one of the record. -/
theorem admitObservation_repeated [MetricReal R] {c : Coordinator R} {record : ExperimentRecord R}
    {observation : Observation R}
    (admission : c.admitObservation record observation = .ok none) :
    ∃ held ∈ record.observations, sameObservation held observation = true := by
  simp only [admitObservation, demand_bind_eq_ok] at admission
  obtain ⟨metric, -, admission⟩ := admission
  split at admission
  · simp only [require_bind_eq_ok] at admission
    obtain ⟨held, there, same⟩ := (Option.any_eq_true _ _).mp admission.1
    exact ⟨held, List.mem_of_getElem? there, same⟩
  · simp only [require_bind_eq_ok] at admission
    obtain ⟨-, -, admission⟩ := admission
    split at admission
    · simp only [check_bind_eq_ok] at admission
      cases admission.2.2
    · cases admission

/-- A repeated artifact repeats one of the record. -/
theorem admitArtifact_repeated {c : Coordinator R} {record : ExperimentRecord R}
    {trial : TrialRecord} {artifact : ArtifactRecord}
    (admission : c.admitArtifact record trial artifact = .ok false) :
    record.Holds artifact := by
  simp only [admitArtifact, require_bind_eq_ok] at admission
  obtain ⟨-, -, -, -, admission⟩ := admission
  split at admission
  · simp only [require_bind_eq_ok] at admission
    obtain ⟨held, there, same⟩ := (Option.any_eq_true _ _).mp admission.1
    exact ⟨held, List.mem_of_getElem? there, same⟩
  · cases admission

/-- The file has what an answer from memory acknowledges. -/
def Covers [MetricReal R] (c : Coordinator R) : Request R → Prop
  | .registerWorker request => ∀ live, c.findLiveWorker request.worker request.boot = some live →
      c.file.Registers request.worker request.boot live.producer c.epoch
  | request => c.file.Acknowledges request (.status (.ok ()))

/-- The file has as many artifacts as the memory, of the experiment an artifact is published for. -/
def ArtifactsFiled (c : Coordinator R) (request : Request R) : Prop :=
  ∀ publication, request = .publishArtifact publication → ∀ record,
    c.findExperiment publication.artifact.experiment = some record →
      c.file.Has publication.artifact.experiment (·.artifacts.length = record.artifacts.length)

end Coordinator

section Memory

variable [MetricReal R] [CanonicalDigests R] {c : Coordinator R} {request : Request R}
  {fault : Option SaveFault}

omit [CanonicalDigests R] in
/-- While no write has failed, the file has what requests are answered from. -/
theorem Coordinator.Filed.covers (filed : c.Filed) (retains : c.file.Retains c.state)
    (artifacts : c.ArtifactsFiled request) (answered : AnsweredFromMemory c request) :
    c.Covers request := by
  cases answered with
  | registered known unrevoked =>
      intro live found
      obtain rfl := Option.some.inj (known.symm.trans found)
      exact filed.workers _ _ _ known unrevoked
  | observationHeld found accepted admission =>
      obtain ⟨-, -, -, lookup, -⟩ := (c.checkEnvelope_eq_ok _ _).mp accepted
      obtain ⟨held, member, same⟩ := Coordinator.admitObservation_repeated admission
      obtain ⟨saved, stored, backed⟩ := filed.experiments.source lookup
      exact ⟨saved, stored, held, backed.observations ▸ member, .inr same⟩
  | @artifactHeld request record envelope check found built accepted admission =>
      obtain ⟨-, -, -, lookup, -⟩ := (c.checkEnvelope_eq_ok _ _).mp accepted
      rw [artifactEnvelope_experiment built] at lookup
      obtain ⟨held, member, same⟩ := Coordinator.admitArtifact_repeated admission
      obtain ⟨saved, stored, equal⟩ := artifacts request rfl check.record lookup
      obtain ⟨kept, there, history⟩ := retains _ saved stored
      obtain rfl := Option.some.inj (lookup.symm.trans there)
      rw [← history.evidence.artifacts.eq_of_length equal] at member
      exact ⟨saved, stored, held, member, same⟩
  | @trialCancelled trial reason experiment record held owner cancelled =>
      obtain ⟨found, trialFound⟩ := c.ownerOf_eq_some owner
      obtain ⟨saved, stored, backed⟩ := filed.experiments.source found
      obtain ⟨filedTrial, lookup, entering⟩ := backed.trials.source trialFound
      exact ⟨experiment, saved, stored, filedTrial, lookup, entering cancelled⟩
  | experimentCancelled found cancelled =>
      obtain ⟨saved, stored, backed⟩ := filed.experiments.source found
      exact ⟨saved, stored, backed.state cancelled⟩

end Memory

section World

variable [MetricReal R] [CanonicalDigests R]

/-- The sample deployment after a cancellation that could not be saved. -/
def Sample.unsaved : Coordinator ℚ :=
  coordinator.session [(.createExperiment spec, none),
    (.cancelExperiment experiment [], some .replace)]

end World

end ExperimentFabric
