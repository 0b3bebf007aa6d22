import ExperimentFabric.Completion

/-!
# Cancellation

A decision on a cancelled experiment normally repeats the cancellation.  A candidate that does not
exist, or that is the designated baseline, is refused before the state of the experiment is looked
at; that refusal finalizes the experiment, and a rollback then reopens it.  Without such decisions,
and when no process stops with the cancellation unsaved, a cancelled experiment stays cancelled.
-/

namespace ExperimentFabric

open Lib

variable {R : Type}

/-! ## The first failed constraint decides -/

section Constraints

variable {ruling : Ruling} {outcome : DecisionOutcome} (failed : outcome ≠ .accept)
  (decided : ruling.outcome = outcome)

include failed decided

theorem Ruling.failWhen_outcome (condition : Bool) (other : DecisionOutcome) (kind : FailureKind)
    (reason : Text) : (ruling.failWhen condition other kind reason).outcome = outcome := by
  have notAccepted : ruling.outcome ≠ .accept := decided ▸ failed
  unfold Ruling.failWhen Ruling.fail
  rw [if_neg notAccepted]
  split <;> exact decided

theorem constrainCandidate_outcome (candidate : BranchDefinition)
    (evidence : Option (BranchEvidence R)) :
    (constrainCandidate candidate evidence ruling).outcome = outcome := by
  have kept : (ruling.add (text "candidate_branch_eligible")
      (evidence.any fun entry =>
        isBranchEligible candidate.state && entry.generation = candidate.generation)
      (text "candidate branch state is " ++ candidate.state.toText)).outcome = outcome := decided
  unfold constrainCandidate
  dsimp only
  split
  · split <;> exact Ruling.failWhen_outcome failed kept true _ _ _
  · exact decided

theorem constrainBaseline_outcome (policy : ComparisonPolicy R)
    (baseline : Option BranchDefinition) (evidence : Option (BranchEvidence R)) :
    (constrainBaseline policy baseline evidence ruling).outcome = outcome := by
  unfold constrainBaseline
  cases baseline with
  | none =>
      apply Ruling.failWhen_outcome failed
      exact decided
  | some baseline =>
      apply Ruling.failWhen_outcome failed
      exact decided

theorem constrainCompleted_outcome (policy : ComparisonPolicy R) (name reason : Text)
    (evidence : Option (BranchEvidence R)) :
    (constrainCompleted policy name reason evidence ruling).outcome = outcome := by
  unfold constrainCompleted
  cases evidence with
  | none => exact decided
  | some evidence =>
      apply Ruling.failWhen_outcome failed
      exact decided

theorem constrainPresence_outcome (policy : ComparisonPolicy R) (name : Text) (side : MetricSide)
    (found : Option (MetricAggregate R)) :
    (constrainPresence policy name side found ruling).outcome = outcome := by
  unfold constrainPresence
  split
  · apply Ruling.failWhen_outcome failed
    exact decided
  · dsimp only
    split
    · apply Ruling.failWhen_outcome failed
      exact decided
    · exact decided

theorem constrainMetric_outcome (policy : ComparisonPolicy R)
    (candidate baseline : Option (BranchEvidence R)) (metric : MetricDefinition R) :
    (constrainMetric policy candidate baseline ruling metric).outcome = outcome := by
  have onCandidate := constrainPresence_outcome failed decided policy metric.name candidateSide
    (candidate.bind (branchHasMetric · metric.id))
  unfold constrainMetric
  split
  · exact decided
  · cases baseline with
    | none =>
        dsimp only
        split
        · apply Ruling.failWhen_outcome failed
          exact onCandidate
        · exact onCandidate
    | some baseline =>
        have onBaseline := constrainPresence_outcome failed onCandidate policy metric.name
          baselineSide (branchHasMetric baseline metric.id)
        dsimp only
        split
        · apply Ruling.failWhen_outcome failed
          exact onBaseline
        · exact onBaseline

theorem constrainMetrics_outcome (policy : ComparisonPolicy R)
    (candidate baseline : Option (BranchEvidence R)) (metrics : List (MetricDefinition R)) :
    (metrics.foldl (constrainMetric policy candidate baseline) ruling).outcome = outcome := by
  induction metrics generalizing ruling with
  | nil => exact decided
  | cons metric rest ih =>
      exact ih (constrainMetric_outcome failed decided policy candidate baseline metric)

theorem constrainEnvironment_outcome (record : ExperimentRecord R) (candidate : BranchDefinition)
    (baseline : Option BranchDefinition) :
    (constrainEnvironment record candidate baseline ruling).outcome = outcome := by
  unfold constrainEnvironment
  split
  · exact decided
  · dsimp only
    split
    all_goals
      apply Ruling.failWhen_outcome failed
      exact decided

end Constraints

/-- The constraints of a cancelled experiment fail with the cancellation. -/
theorem applyConstraints_cancelled {record : ExperimentRecord R}
    (cancelled : record.state = .cancelled) (candidate : BranchDefinition)
    (baseline : Option BranchDefinition) (evidence : List (BranchEvidence R)) :
    (applyConstraints record candidate baseline evidence).outcome = .cancelled := by
  have failed : (.cancelled : DecisionOutcome) ≠ .accept := by decide
  have first : (constrainState record.state {}).outcome = .cancelled := by
    rw [cancelled]
    rfl
  apply constrainEnvironment_outcome failed
  apply constrainMetrics_outcome failed
  apply constrainCompleted_outcome failed
  apply constrainCompleted_outcome failed
  apply constrainBaseline_outcome failed
  apply constrainCandidate_outcome failed
  exact first

section Decisions

variable [MetricReal R] [CanonicalDigests R]

/-- The candidate is refused before the state of the experiment is looked at. -/
def refusedEarly (record : ExperimentRecord R) (candidate : BranchId) : Bool :=
  record.definition.branches.all (·.id ≠ candidate) ||
    (baselineBranch record).any (·.id = candidate)

/-- The decision on a cancelled experiment: the cancellation again, unless the candidate was
refused early. -/
theorem finalDecision_cancelled {record : ExperimentRecord R}
    (cancelled : record.state = .cancelled) (candidate : BranchId) (reason : Text)
    (id : DecisionId) (sequence : Nat) :
    (Coordinator.finalDecision record candidate reason id sequence).outcome =
      if refusedEarly record candidate then .invalid else .cancelled := by
  have outcome : (Coordinator.finalDecision record candidate reason id sequence).outcome =
      (buildDecision record candidate id sequence).outcome := by
    unfold Coordinator.finalDecision
    dsimp only
    split <;> rfl
  rw [outcome, buildDecision]
  dsimp only
  cases known : candidateBranch record candidate with
  | none =>
      have absent : record.definition.branches.all (·.id ≠ candidate) = true := by
        simpa [candidateBranch] using known
      rw [refusedEarly, absent, Bool.true_or, if_pos rfl]
      rfl
  | some branch =>
      have identity : branch.id = candidate := by simpa using List.find?_some known
      have present : record.definition.branches.all (·.id ≠ candidate) = false := by
        simp only [ne_eq, decide_not, List.all_eq_false, Bool.not_eq_true', decide_eq_false_iff_not,
          not_not]
        exact ⟨branch, List.mem_reverse.mp (List.mem_of_find?_eq_some known), identity⟩
      dsimp only
      rw [refusedEarly, present, Bool.false_or, identity]
      by_cases designated : (baselineBranch record).any (·.id = candidate) = true
      · rw [if_pos designated, if_pos designated]
        rfl
      · rw [if_neg designated, if_neg designated]
        have ruled := applyConstraints_cancelled cancelled branch (baselineBranch record)
          record.computeEvidence
        have undecided : (applyConstraints record branch (baselineBranch record)
            record.computeEvidence).outcome ≠ .accept := by
          rw [ruled]
          decide
        rw [identity] at *
        unfold conclude
        dsimp only
        rw [if_pos undecided]
        exact ruled

/-! ## Records -/

/-- A record that was cancelled and is: no attempt was issued, no trial completed, and no accepting
or rejecting decision recorded. -/
structure StaysCancelled (before after : ExperimentRecord R) : Prop where
  state : after.state = .cancelled
  issued : ∀ id attempt, after.attempts.find? id = some attempt →
    (before.attempts.find? id).isSome = true
  completed : ∀ key trial, after.trials.find? key = some trial → trial.state = .completed →
    ∃ earlier, before.trials.find? key = some earlier ∧ earlier.state = .completed
  decided : ∀ decision ∈ after.decisions, decision.outcome = .accept ∨ decision.outcome = .reject →
    decision ∈ before.decisions

omit [MetricReal R] [CanonicalDigests R] in
theorem StaysCancelled.refl {record : ExperimentRecord R} (cancelled : record.state = .cancelled) :
    StaysCancelled record record :=
  ⟨cancelled, fun id attempt found => by simp [found], fun _ trial found done => ⟨trial, found, done⟩,
    fun _ member _ => member⟩

omit [MetricReal R] [CanonicalDigests R] in
theorem StaysCancelled.trans {first second third : ExperimentRecord R}
    (earlier : StaysCancelled first second) (later : StaysCancelled second third) :
    StaysCancelled first third where
  state := later.state
  issued := fun id attempt found => by
    obtain ⟨attempt', found'⟩ := Option.isSome_iff_exists.mp (later.issued id attempt found)
    exact earlier.issued id attempt' found'
  completed := fun key trial found done => by
    obtain ⟨trial', found', done'⟩ := later.completed key trial found done
    exact earlier.completed key trial' found' done'
  decided := fun decision member concluded =>
    earlier.decided decision (later.decided decision member concluded) concluded

/-- The trial is not being completed. -/
def NotCompleting (trial trial' : TrialRecord) : Prop :=
  trial'.state = .completed → trial.state = .completed

omit [MetricReal R] [CanonicalDigests R] in
/-- A record rewritten in place stays cancelled when no trial becomes completed. -/
theorem Rewritten.staysCancelled {before after : ExperimentRecord R}
    (rewritten : Rewritten before after) (cancelled : after.state = .cancelled)
    (unfinished : OrderedMap.Evolves NotCompleting before.trials after.trials)
    (undecided : after.decisions = before.decisions) : StaysCancelled before after where
  state := cancelled
  issued := fun id attempt found => by
    obtain ⟨earlier, lookup, -⟩ := rewritten.attempts.source found
    simp [lookup]
  completed := fun key trial found done => by
    obtain ⟨earlier, lookup, kept⟩ := unfinished.source found
    exact ⟨earlier, lookup, kept done⟩
  decided := fun decision member _ => undecided ▸ member

/-- The trial does not move into the state. -/
def NotEntering (target : TrialState) (trial trial' : TrialRecord) : Prop :=
  trial'.state = target → trial.state = target

omit [MetricReal R] [CanonicalDigests R] in
theorem closeTrials_notEntering {target state : TrialState} (select : TrialRecord → Bool)
    (other : state ≠ target) (kind : FailureKind) (detail : Text) (sequence : Nat)
    (trials : OrderedMap TrialId TrialRecord) :
    OrderedMap.Evolves (NotEntering target) trials
      (closeTrials select state kind detail sequence trials) := by
  refine .mapValues fun trial => ?_
  rcases closeTrial_cases select state kind detail sequence trial with ⟨-, -, same⟩ | ⟨-, same⟩
  · rw [same]
    exact fun entered => (other entered).elim
  · rw [same]
    exact id

omit [MetricReal R] [CanonicalDigests R] in
theorem releaseFrom_notEntering {target : TrialState} (unready : target ≠ .ready)
    (unfailed : target ≠ .failed) (record : ExperimentRecord R) (attempt : TrialAttemptId)
    (kind : FailureKind) (detail : Text) (sequence : Nat) (trial : TrialRecord) :
    NotEntering target trial (record.releaseFrom attempt kind detail sequence trial) := by
  unfold ExperimentRecord.releaseFrom TrialRecord.release NotEntering
  dsimp only
  split
  · exact id
  · split
    · exact fun entered => (unready entered.symm).elim
    · exact fun entered => (unfailed entered.symm).elim

omit [MetricReal R] [CanonicalDigests R] in
/-- Losing a worker leaves its trials ready or failed. -/
theorem loseAttempts_notEntering {target : TrialState} (unready : target ≠ .ready)
    (unfailed : target ≠ .failed) (kind : FailureKind) (attemptDetail trialDetail : Text)
    (sequence : Nat) (lost : List (TrialAttemptId × AttemptRecord)) (record : ExperimentRecord R) :
    OrderedMap.Evolves (NotEntering target) record.trials (lost.foldl
      (ExperimentRecord.loseAttempt kind attemptDetail trialDetail sequence) record).trials := by
  induction lost generalizing record with
  | nil => exact .refl fun _ => id
  | cons entry rest ih =>
      have first : OrderedMap.Evolves (NotEntering target) record.trials
          (ExperimentRecord.loseAttempt kind attemptDetail trialDetail sequence record
            entry).trials := by
        refine .modify (fun _ => id) ?_
        exact fun trial _ => releaseFrom_notEntering unready unfailed record entry.2.id kind
          trialDetail sequence trial
      exact first.trans (fun _ _ _ earlier later entered => earlier (later entered)) (ih _)

omit [MetricReal R] [CanonicalDigests R] in
theorem loseWorker_staysCancelled {record : ExperimentRecord R}
    (cancelled : record.state = .cancelled) (worker : WorkerId) (boot : WorkerBootId)
    (kind : FailureKind) (attemptDetail trialDetail : Text) (sequence : Nat) (line : Text) :
    StaysCancelled record
      (record.loseWorker worker boot kind attemptDetail trialDetail sequence line) := by
  have fields : ∀ (lost : List (TrialAttemptId × AttemptRecord)) (record : ExperimentRecord R),
      (lost.foldl (ExperimentRecord.loseAttempt kind attemptDetail trialDetail sequence)
        record).state = record.state ∧
      (lost.foldl (ExperimentRecord.loseAttempt kind attemptDetail trialDetail sequence)
        record).decisions = record.decisions := by
    intro lost
    induction lost with
    | nil => exact fun _ => ⟨rfl, rfl⟩
    | cons entry rest ih => exact fun record => ih _
  have rewritten := loseWorker_rewritten worker boot kind attemptDetail trialDetail sequence line
    record
  have unfinished : OrderedMap.Evolves NotCompleting record.trials _ :=
    loseAttempts_notEntering (by decide) (by decide) kind attemptDetail trialDetail sequence
      (record.liveAttemptsOf worker boot) record
  obtain ⟨state, decisions⟩ := fields (record.liveAttemptsOf worker boot) record
  unfold ExperimentRecord.loseWorker at rewritten ⊢
  dsimp only at rewritten ⊢
  split
  · rename_i idle
    rw [if_pos idle] at rewritten
    exact rewritten.staysCancelled (state.trans cancelled) unfinished decisions
  · rename_i busy
    rw [if_neg busy] at rewritten
    exact rewritten.staysCancelled (state.trans cancelled) unfinished decisions

/-- What a request does to a cancelled record leaves it cancelled, early refusals apart. -/
theorem Effect.staysCancelled {c : Coordinator R} {experiment : ExperimentId}
    {record after : ExperimentRecord R} {marks : Watermarks} {request : Request R}
    (effect : Effect c experiment record marks request after)
    (cancelled : record.state = .cancelled)
    (considered : ∀ candidate reason, request = .finalizeExperiment experiment candidate reason →
      c.finalizeGuard experiment = .ok record → refusedEarly record candidate = false) :
    StaysCancelled record after := by
  have closed : record.state ≠ .opened := by rw [cancelled]; decide
  have rewritten := moves_rewritten effect.moves
  cases effect with
  | revise guarded => exact (closed (Coordinator.reviseHypothesisGuard_ok guarded).opened).elim
  | fork guarded => exact (closed (Coordinator.forkBranchGuard_ok guarded).opened).elim
  | forkUndone guarded => exact (closed (Coordinator.forkBranchGuard_ok guarded).opened).elim
  | retire guarded =>
      exact rewritten.staysCancelled cancelled (closeTrials_notEntering _ (by decide) _ _ _ _) rfl
  | @refuseObservation request verdict named found refused =>
      have fields : (c.refusedObservation record request.observation verdict).state = record.state ∧
          (c.refusedObservation record request.observation verdict).trials = record.trials ∧
          (c.refusedObservation record request.observation verdict).decisions =
            record.decisions := by
        obtain ⟨observations, rejected, same⟩ :=
          refusedObservation_frame c record request.observation verdict
        rw [same]
        exact ⟨rfl, rfl, rfl⟩
      exact rewritten.staysCancelled (fields.1.trans cancelled)
        (fields.2.1 ▸ .refl fun _ => id) fields.2.2
  | publishObservation named accepted =>
      exact (closed (Coordinator.checkEnvelope_opened accepted)).elim
  | publishObservationUndone named accepted =>
      exact (closed (Coordinator.checkEnvelope_opened accepted)).elim
  | @refuseArtifact request envelope verdict named found built refused =>
      have fields : (record.reject (text "artifact") request.artifact.id.value verdict).state =
            record.state ∧
          (record.reject (text "artifact") request.artifact.id.value verdict).trials =
            record.trials ∧
          (record.reject (text "artifact") request.artifact.id.value verdict).decisions =
            record.decisions := by
        obtain ⟨rejected, same⟩ := reject_frame record _ _ _
        rw [same]
        exact ⟨rfl, rfl, rfl⟩
      exact rewritten.staysCancelled (fields.1.trans cancelled)
        (fields.2.1 ▸ .refl fun _ => id) fields.2.2
  | publishArtifact named built accepted =>
      exact (closed (Coordinator.checkEnvelope_opened accepted)).elim
  | publishArtifactUndone named built accepted =>
      exact (closed (Coordinator.checkEnvelope_opened accepted)).elim
  | registerArtifacts named guarded =>
      exact (closed (Coordinator.checkEnvelope_opened
        (Coordinator.commitTrialGuard_ok guarded))).elim
  | commit named guarded =>
      exact (closed (Coordinator.checkEnvelope_opened
        (Coordinator.commitTrialGuard_ok guarded))).elim
  | fail named guarded =>
      exact (closed (Coordinator.checkEnvelope_opened
        (Coordinator.failTrialGuard_ok guarded).1)).elim
  | @cancelTrial trial reason held owner isOpen =>
      have unfinished : OrderedMap.Evolves NotCompleting record.trials (record.trials.modify trial
          (·.finish .cancelled .cancellation reason (c.currentSequence + 1))) :=
        .modify (fun _ => id) fun _ _ done => by cases done
      exact rewritten.staysCancelled cancelled unfinished rfl
  | cancel found allowed =>
      rw [cancelled] at allowed
      cases allowed
  | @finalize candidate reason decision guarded decided allocated pointed =>
      have outcome : decision.outcome = .cancelled := by
        rw [decided, finalDecision_cancelled cancelled, considered candidate reason rfl guarded]
        rfl
      refine ⟨?_, fun id attempt found => ?_, fun key trial found done => ⟨trial, found, done⟩, ?_⟩
      · simp [ExperimentRecord.finalize, ExperimentRecord.log, outcome,
          ExperimentRecord.stateAfter]
      · have found : record.attempts.find? id = some attempt := found
        simp [found]
      · intro other member concluded
        have member : other ∈ record.decisions ++ [decision] := member
        rcases List.mem_append.mp member with earlier | last
        · exact earlier
        · obtain rfl := List.mem_singleton.mp last
          simp [outcome] at concluded
  | rollback guarded =>
      exact ((Coordinator.rollbackGuard_ok guarded).notCancelled cancelled).elim

/-! ## Runs -/

/-- The experiment is cancelled in a durable state. -/
def CoordinatorState.Cancelled (state : CoordinatorState R) (experiment : ExperimentId) : Prop :=
  ∃ record, state.experiments.find? experiment = some record ∧ record.state = .cancelled

/-- The experiment is cancelled: in memory while a process runs, in the file otherwise. -/
def World.Cancelled (experiment : ExperimentId) : World R → Prop
  | .running c => c.state.Cancelled experiment
  | .down image => ∃ saved, image = some saved ∧ saved.Cancelled experiment

/-- The condition on each step of a run: no decision on the cancelled experiment is refused early,
and no process stops before the cancellation is in the file. -/
def RespectsCancellation (experiment : ExperimentId) : World R → Event R → Prop
  | .running c, .request (.finalizeExperiment target candidate _) _ =>
      target = experiment → ∀ record, c.finalizeGuard experiment = .ok record →
        record.state = .cancelled → refusedEarly record candidate = false
  | .running c, .stop =>
      c.state.Cancelled experiment → ∃ saved, c.image = some saved ∧ saved.Cancelled experiment
  | _, _ => True

section Steps

variable {c : Coordinator R} {experiment : ExperimentId} {request : Request R}
  (considered : ∀ candidate reason record,
    request = .finalizeExperiment experiment candidate reason →
      c.finalizeGuard experiment = .ok record → record.state = .cancelled →
        refusedEarly record candidate = false)

include considered

/-- A step of the durable state leaves a cancelled experiment cancelled. -/
theorem StateStep.staysCancelled {old new : CoordinatorState R}
    (step : StateStep c request old new) {record : ExperimentRecord R}
    (found : old.experiments.find? experiment = some record)
    (cancelled : record.state = .cancelled) :
    ∃ after, new.experiments.find? experiment = some after ∧ StaysCancelled record after := by
  have unchanged : new.experiments = old.experiments →
      ∃ after, new.experiments.find? experiment = some after ∧ StaysCancelled record after :=
    fun same => ⟨record, same ▸ found, .refl cancelled⟩
  have elsewhere : ∀ {other : ExperimentId} {after : ExperimentRecord R}, other ≠ experiment →
      new.experiments = old.experiments.assign other after →
      ∃ after, new.experiments.find? experiment = some after ∧ StaysCancelled record after :=
    fun {other after} different stored =>
      ⟨record, by rw [stored, OrderedMap.find?_assign, if_neg different.symm, found],
        .refl cancelled⟩
  cases step with
  | quiet same => exact unchanged same
  | @change other before after lookup effect stored =>
      by_cases here : other = experiment
      · subst here
        obtain rfl := Option.some.inj (lookup.symm.trans found)
        refine ⟨after, by rw [stored, OrderedMap.find?_assign_self], ?_⟩
        exact effect.staysCancelled cancelled fun candidate reason named guarded =>
          considered candidate reason before named guarded cancelled
      · exact elsewhere here stored
  | create named accepted room defined valid allocated before absent stored =>
      refine elsewhere (fun here => ?_) stored
      rw [here, found] at absent
      cases absent
  | addTrial named guarded valid lookup fresh allocated stored =>
      refine elsewhere (fun here => ?_) stored
      subst here
      obtain rfl := Option.some.inj (lookup.symm.trans found)
      have opened := (Coordinator.createTrialGuard_ok guarded).opened
      simp [cancelled] at opened
  | addTrialUndone named guarded lookup fresh stored =>
      refine elsewhere (fun here => ?_) stored
      subst here
      obtain rfl := Option.some.inj (lookup.symm.trans found)
      have opened := (Coordinator.createTrialGuard_ok guarded).opened
      simp [cancelled] at opened
  | issue named guarded lookup opened trialFound claimable fresh allocated stored =>
      refine elsewhere (fun here => ?_) stored
      subst here
      obtain rfl := Option.some.inj (lookup.symm.trans found)
      simp [cancelled] at opened
  | @lose worker boot kind attemptDetail trialDetail line sequence named stored =>
      refine ⟨record.loseWorker worker boot kind attemptDetail trialDetail sequence line, ?_,
        loseWorker_staysCancelled cancelled ..⟩
      rw [stored, OrderedMap.find?_mapValues, found, Option.map_some]
  | register named guarded fresh identity same => exact unchanged same

theorem StateSteps.staysCancelled {old new : CoordinatorState R}
    (steps : StateSteps c request old new) {record : ExperimentRecord R}
    (found : old.experiments.find? experiment = some record)
    (cancelled : record.state = .cancelled) :
    ∃ after, new.experiments.find? experiment = some after ∧ StaysCancelled record after := by
  induction steps with
  | refl => exact ⟨record, found, .refl cancelled⟩
  | tail _ last ih =>
      obtain ⟨middle, lookup, earlier⟩ := ih
      obtain ⟨after, ended, later⟩ := last.1.staysCancelled considered lookup earlier.state
      exact ⟨after, ended, earlier.trans later⟩

end Steps

/-- An operation that respects the cancellation leaves the experiment cancelled. -/
theorem Coordinator.perform_staysCancelled {c : Coordinator R} {experiment : ExperimentId}
    {request : Request R} {fault : Option SaveFault}
    (respects : RespectsCancellation experiment (.running c) (.request request fault))
    {record : ExperimentRecord R} (found : c.findExperiment experiment = some record)
    (cancelled : record.state = .cancelled) :
    ∃ after, (c.perform request fault).1.findExperiment experiment = some after ∧
      StaysCancelled record after := by
  refine (c.perform_steps request fault).staysCancelled ?_ found cancelled
  rintro candidate reason held rfl guarded state
  exact respects rfl held guarded state

omit [MetricReal R] [CanonicalDigests R] in
theorem PartlyStaged.cancelled {old new : CoordinatorState R} (staged : PartlyStaged old new)
    {experiment : ExperimentId} (cancelled : old.Cancelled experiment) :
    new.Cancelled experiment := by
  obtain ⟨record, found, state⟩ := cancelled
  rcases staged.present experiment record found with same | ⟨sequence, same⟩
  · exact ⟨record, same, state⟩
  · refine ⟨_, same, ?_⟩
    rw [stage_forget_fields]
    simp [ExperimentRecord.reopened, state]

omit [MetricReal R] [CanonicalDigests R] in
theorem Recovers.cancelled {old new : CoordinatorState R} (recovers : Recovers old new)
    {experiment : ExperimentId} (cancelled : old.Cancelled experiment) :
    new.Cancelled experiment := by
  obtain ⟨record, found, state⟩ := cancelled
  have same := recovers.records experiment
  rw [found, Option.map_some] at same
  obtain ⟨after, lookup, equal⟩ := Option.map_eq_some_iff.mp same
  refine ⟨after, lookup, ?_⟩
  have states : after.state = record.recovered.state :=
    congrArg (fun forgotten => forgotten.state) equal
  rw [states]
  simp [ExperimentRecord.recovered, ExperimentRecord.reopened, state]

omit [CanonicalDigests R] in
/-- A start finds the cancellation in the file, keeps it there and brings it into memory. -/
theorem create_cancelled {path : Text} {config : Config} {image : Option (CoordinatorState R)}
    (outcomes : WriteOutcomes) (samePath : config.statePath = path) (sound : SoundImage path image)
    {experiment : ExperimentId}
    (cancelled : ∃ saved, image = some saved ∧ saved.Cancelled experiment) :
    (∃ left, (Coordinator.create config image outcomes).1 = some left ∧
      left.Cancelled experiment) ∧
      ∀ c, (Coordinator.create config image outcomes).2 = .ok c →
        c.state.Cancelled experiment := by
  obtain ⟨saved, rfl, held⟩ := cancelled
  have hasPath : config.statePath ≠ [] := fun empty => by
    cases sound.1 (samePath ▸ empty)
  have origin : Coordinator.origin config (some saved) = saved := if_neg hasPath
  have outcome := Coordinator.create_spec config (some saved) outcomes (sound.origin config).1
  have running : ∀ c, (Coordinator.create config (some saved) outcomes).2 = .ok c →
      c.state.Cancelled experiment := fun c started =>
    (origin ▸ outcome.recovers c started).cancelled held
  refine ⟨?_, running⟩
  cases file : (Coordinator.create config (some saved) outcomes).1 with
  | none => cases outcome.absent file
  | some left =>
      refine ⟨left, rfl, ?_⟩
      rcases outcome.written hasPath left file with staged | ⟨c, started, rfl⟩
      · exact (origin ▸ staged).cancelled held
      · exact running c started

/-- A step that respects the cancellation keeps it. -/
theorem World.Step.cancelled {path : Text} {source target : World R} {event : Event R}
    (step : World.Step path source event target) (sound : source.Sound path)
    {experiment : ExperimentId} (respects : RespectsCancellation experiment source event)
    (cancelled : source.Cancelled experiment) : target.Cancelled experiment := by
  cases step with
  | request c request fault =>
      obtain ⟨record, found, state⟩ := cancelled
      obtain ⟨after, ended, stays⟩ := c.perform_staysCancelled respects found state
      exact ⟨after, ended, stays.state⟩
  | stop c => exact respects cancelled
  | @start config image left outcomes c samePath started =>
      exact (create_cancelled outcomes samePath sound cancelled).2 c (by rw [started])
  | @failedStart config image left outcomes failure samePath refused =>
      have kept := (create_cancelled outcomes samePath sound cancelled).1
      rw [refused] at kept
      exact kept

/-- In a run that respects the cancellation, a cancelled experiment is cancelled in every state
reached, and no operation performed there issues an attempt for it, completes one of its trials or
records an accepting or rejecting decision. -/
theorem cancellation_final {path : Text} {source target : World R} {events : List (Event R)}
    {experiment : ExperimentId} (reachable : source.Reachable path)
    (cancelled : source.Cancelled experiment)
    (run : Run (fun before event after => RespectsCancellation experiment before event ∧
      World.Step path before event after) source events target) :
    target.Cancelled experiment ∧
      ∀ c request fault record, target = .running c →
        RespectsCancellation experiment target (.request request fault) →
        c.findExperiment experiment = some record →
          ∃ after, (c.perform request fault).1.findExperiment experiment = some after ∧
            StaysCancelled record after := by
  obtain ⟨-, ended⟩ := run.preserves_of
    (fun before event after (kept : before.Sound path ∧ before.Cancelled experiment) respects step =>
      ⟨step.sound kept.1, step.cancelled kept.1 respects kept.2⟩) ⟨reachable.sound, cancelled⟩
  refine ⟨ended, ?_⟩
  rintro c request fault record rfl respects found
  obtain ⟨held, lookup, state⟩ := ended
  obtain rfl := Option.some.inj (lookup.symm.trans found)
  exact c.perform_staysCancelled respects found state

end Decisions

namespace Sample

/-- Create the experiment and cancel it. -/
def cancelling : List (Request ℚ × Option SaveFault) :=
  [(.createExperiment spec, none), (.cancelExperiment experiment [], none)]

/-- The coordinator after the cancellation. -/
def cancelled : Coordinator ℚ := coordinator.session cancelling

theorem cancelled_reachable : (World.running cancelled).Reachable config.statePath :=
  coordinator_reachable.session cancelling

theorem experiment_cancelled : (World.running cancelled).Cancelled experiment := by
  have state : (cancelled.findExperiment experiment).map ExperimentRecord.state =
      some .cancelled := by
    decide +kernel
  obtain ⟨record, found, held⟩ := Option.map_eq_some_iff.mp state
  exact ⟨record, found, held⟩

end Sample

/-- A decision on the candidate keeps the cancelled sample cancelled. -/
theorem cancellation_final_sample : (World.running (Sample.cancelled.perform
    (.finalizeExperiment Sample.experiment Sample.candidate []) none).1).Cancelled
      Sample.experiment := by
  refine (cancellation_final Sample.cancelled_reachable Sample.experiment_cancelled
    (.single ⟨?_, .request Sample.cancelled
      (.finalizeExperiment Sample.experiment Sample.candidate []) none⟩)).1
  have considered : (Sample.cancelled.findExperiment Sample.experiment).all
      (refusedEarly · Sample.candidate = false) = true := by
    decide +kernel
  intro same record guarded state
  have found := (Coordinator.finalizeGuard_ok guarded).found
  rw [found] at considered
  simpa using considered

/-- A decision on a branch that does not exist finalizes the cancelled sample, and a rollback then
reopens it. -/
theorem cancellation_undone : ∃ c : Coordinator ℚ,
    (World.running c).Reachable Sample.config.statePath ∧
      (World.running c).Cancelled Sample.experiment ∧
      ((c.session [(.finalizeExperiment Sample.experiment ⟨9⟩ [], none)]).findExperiment
        Sample.experiment).map ExperimentRecord.state = some .finalized ∧
      ((c.session [(.finalizeExperiment Sample.experiment ⟨9⟩ [], none),
        (.rollback Sample.experiment ⟨1⟩ [], none)]).findExperiment
          Sample.experiment).map ExperimentRecord.state = some .opened :=
  ⟨Sample.cancelled, Sample.cancelled_reachable, Sample.experiment_cancelled, by decide +kernel,
    by decide +kernel⟩

end ExperimentFabric
