import ExperimentFabric.Authorization
import ExperimentFabric.Conformance

/-!
# Closed experiments

No request but a rollback changes the definition or the hypothesis of an experiment that is not
open, except that a branch of it can still be retired.
-/

namespace ExperimentFabric

open Lib Relation

variable {R : Type}

/-- The request returns an experiment to a rollback point. -/
def Request.isRollback : Request R → Bool
  | .rollback _ _ _ => true
  | _ => false

/-- The request retires a branch of the record that can be retired. -/
def Request.Retires (request : Request R) (experiment : ExperimentId)
    (record : ExperimentRecord R) : Prop :=
  ∃ branch reason held, request = .retireBranch experiment branch reason ∧
    record.findBranch branch = some held ∧ held.state.isValidTransition .retired = true

/-- A closed record that keeps its definition and hypothesis, and stays closed. -/
structure KeptClosed (record after : ExperimentRecord R) : Prop where
  definition : after.definition = record.definition
  hypothesis : after.hypothesis = record.hypothesis
  closed : after.state ≠ .opened

theorem KeptClosed.trans {first second third : ExperimentRecord R} (earlier : KeptClosed first second)
    (later : KeptClosed second third) : KeptClosed first third :=
  ⟨later.definition.trans earlier.definition, later.hypothesis.trans earlier.hypothesis,
    later.closed⟩

/-- A lost worker leaves alone the definitions of closed experiments. -/
theorem loseWorker_keptClosed (worker : WorkerId) (boot : WorkerBootId) (kind : FailureKind)
    (attemptDetail trialDetail : Text) (sequence : Nat) (line : Text) {record : ExperimentRecord R}
    (closed : record.state ≠ .opened) :
    KeptClosed record (record.loseWorker worker boot kind attemptDetail trialDetail sequence line) := by
  have hypothesis : ∀ (lost : List (TrialAttemptId × AttemptRecord)) (record : ExperimentRecord R),
      (lost.foldl (ExperimentRecord.loseAttempt kind attemptDetail trialDetail sequence)
        record).hypothesis = record.hypothesis := by
    intro lost
    induction lost with
    | nil => exact fun _ => rfl
    | cons entry rest ih => exact fun record => ih _
  have fields := loseWorker_fields worker boot kind attemptDetail trialDetail sequence line record
  refine ⟨fields.2, ?_, fun opened => closed (fields.1 ▸ opened)⟩
  unfold ExperimentRecord.loseWorker
  dsimp only
  split <;> exact hypothesis _ record

/-- No outcome opens an experiment. -/
theorem stateAfter_closed {state : ExperimentState} (closed : state ≠ .opened)
    (outcome : DecisionOutcome) : ExperimentRecord.stateAfter state outcome ≠ .opened := by
  cases outcome with
  | accept | reject | invalid | cancelled | superseded =>
      intro opened
      cases opened
  | inconclusive | insufficientEvidence => exact closed

section Steps

variable [MetricReal R] [CanonicalDigests R] {c : Coordinator R} {experiment : ExperimentId}
  {request : Request R} {record : ExperimentRecord R}

/-- What a request does to a closed record, rollbacks and retired branches apart. -/
theorem Effect.keptClosed {after : ExperimentRecord R} {marks : Watermarks}
    (effect : Effect c experiment record marks request after) (closed : record.state ≠ .opened)
    (forward : request.isRollback = false) (keeps : ¬ request.Retires experiment record) :
    KeptClosed record after := by
  cases effect with
  | revise guarded => exact (closed (Coordinator.reviseHypothesisGuard_ok guarded).opened).elim
  | fork guarded => exact (closed (Coordinator.forkBranchGuard_ok guarded).opened).elim
  | forkUndone guarded => exact (closed (Coordinator.forkBranchGuard_ok guarded).opened).elim
  | retire guarded =>
      obtain ⟨held, branchFound, allowed⟩ := (Coordinator.retireBranchGuard_ok guarded).allowed
      exact (keeps ⟨_, _, held, rfl, branchFound, allowed⟩).elim
  | refuseObservation named found refused =>
      obtain ⟨observations, rejected, same⟩ := refusedObservation_frame c record _ _
      rw [same]
      exact ⟨rfl, rfl, closed⟩
  | publishObservation named accepted =>
      exact (closed (Coordinator.checkEnvelope_opened accepted)).elim
  | publishObservationUndone named accepted =>
      exact (closed (Coordinator.checkEnvelope_opened accepted)).elim
  | refuseArtifact named found built refused =>
      obtain ⟨rejected, same⟩ := reject_frame record _ _ _
      rw [same]
      exact ⟨rfl, rfl, closed⟩
  | publishArtifact named built accepted =>
      exact (closed (Coordinator.checkEnvelope_opened accepted)).elim
  | publishArtifactUndone named built accepted =>
      exact (closed (Coordinator.checkEnvelope_opened accepted)).elim
  | registerArtifacts named guarded =>
      exact (closed (Coordinator.checkEnvelope_opened
        (Coordinator.commitTrialGuard_ok guarded))).elim
  | commit named guarded =>
      exact (closed (Coordinator.checkEnvelope_opened
        (Coordinator.commitTrialGuard_ok guarded))).elim
  | fail named guarded =>
      exact (closed (Coordinator.checkEnvelope_opened
        (Coordinator.failTrialGuard_ok guarded).1)).elim
  | cancelTrial owner isOpen => exact ⟨rfl, rfl, closed⟩
  | cancel found allowed => exact ⟨rfl, rfl, fun opened => nomatch opened⟩
  | finalize guarded decided allocated pointed =>
      exact ⟨rfl, rfl, stateAfter_closed closed _⟩
  | rollback guarded => cases forward

/-- A step of the durable state leaves a closed experiment as it is. -/
theorem StateStep.keptClosed {old new : CoordinatorState R} (step : StateStep c request old new)
    (found : old.experiments.find? experiment = some record) (closed : record.state ≠ .opened)
    (forward : request.isRollback = false) (keeps : ¬ request.Retires experiment record) :
    ∃ after, new.experiments.find? experiment = some after ∧ KeptClosed record after := by
  have elsewhere : ∀ {other : ExperimentId} {after : ExperimentRecord R}, other ≠ experiment →
      new.experiments = old.experiments.assign other after →
        ∃ after, new.experiments.find? experiment = some after ∧ KeptClosed record after :=
    fun {other after} different stored =>
      ⟨record, by rw [stored, OrderedMap.find?_assign, if_neg different.symm, found],
        rfl, rfl, closed⟩
  cases step with
  | quiet same => exact ⟨record, same ▸ found, rfl, rfl, closed⟩
  | @change other before after lookup effect stored =>
      by_cases here : other = experiment
      · subst here
        obtain rfl := Option.some.inj (lookup.symm.trans found)
        exact ⟨after, by rw [stored, OrderedMap.find?_assign_self],
          effect.keptClosed closed forward keeps⟩
      · exact elsewhere here stored
  | create named accepted room defined valid allocated before absent stored =>
      refine elsewhere (fun here => ?_) stored
      rw [here, found] at absent
      cases absent
  | addTrial named guarded valid lookup fresh allocated stored =>
      refine elsewhere (fun here => ?_) stored
      subst here
      obtain rfl := Option.some.inj (lookup.symm.trans found)
      exact closed (Coordinator.createTrialGuard_ok guarded).opened
  | addTrialUndone named guarded lookup fresh stored =>
      refine elsewhere (fun here => ?_) stored
      subst here
      obtain rfl := Option.some.inj (lookup.symm.trans found)
      exact closed (Coordinator.createTrialGuard_ok guarded).opened
  | issue named guarded lookup opened trialFound claimable fresh allocated stored =>
      refine elsewhere (fun here => ?_) stored
      subst here
      obtain rfl := Option.some.inj (lookup.symm.trans found)
      exact closed opened
  | lose named stored =>
      refine ⟨_, by rw [stored, OrderedMap.find?_mapValues, found, Option.map_some], ?_⟩
      exact loseWorker_keptClosed _ _ _ _ _ _ _ closed
  | register named guarded fresh identity same => exact ⟨record, same ▸ found, rfl, rfl, closed⟩

omit [MetricReal R] [CanonicalDigests R] in
/-- The branches stay as they are along the steps, so a request that retires none retires none
later. -/
theorem KeptClosed.keeps {after : ExperimentRecord R} (kept : KeptClosed record after)
    (keeps : ¬ request.Retires experiment record) : ¬ request.Retires experiment after := by
  rintro ⟨branch, reason, held, named, found, allowed⟩
  refine keeps ⟨branch, reason, held, named, ?_, allowed⟩
  rw [ExperimentRecord.findBranch, ← kept.definition]
  exact found

/-- A request that neither rolls back nor retires a branch freezes closed experiments. -/
theorem perform_keptClosed (found : c.findExperiment experiment = some record)
    (closed : record.state ≠ .opened) (forward : request.isRollback = false)
    (keeps : ¬ request.Retires experiment record) (fault : Option SaveFault) :
    ∃ after, (c.perform request fault).1.findExperiment experiment = some after ∧
      KeptClosed record after := by
  have steps : ∀ {state : CoordinatorState R}, StateSteps c request c.state state →
      ∃ after, state.experiments.find? experiment = some after ∧ KeptClosed record after := by
    intro state steps
    induction steps with
    | refl => exact ⟨record, found, rfl, rfl, closed⟩
    | tail _ last ih =>
        obtain ⟨middle, middleFound, kept⟩ := ih
        obtain ⟨after, afterFound, later⟩ :=
          last.1.keptClosed middleFound kept.closed forward (kept.keeps keeps)
        exact ⟨after, afterFound, kept.trans later⟩
  exact steps (c.perform_steps request fault)

/-- A retired branch changes the definition, whatever becomes of the write. -/
theorem perform_retires (found : c.findExperiment experiment = some record)
    (retires : request.Retires experiment record) (fault : Option SaveFault) :
    ∃ after, (c.perform request fault).1.findExperiment experiment = some after ∧
      after.definition ≠ record.definition := by
  obtain ⟨branch, reason, held, rfl, branchFound, allowed⟩ := retires
  have guarded : c.retireBranchGuard experiment branch = .ok record := by
    simp only [Coordinator.retireBranchGuard, demand_bind_eq_ok, require_bind_eq_ok]
    exact ⟨record, found, held, branchFound, allowed, rfl⟩
  refine ⟨record.retire branch reason c.nextSequence.currentSequence, ?_, fun same => ?_⟩
  · change (c.retireBranch experiment branch reason fault).1.findExperiment experiment = _
    rw [Coordinator.retireBranch, guarded]
    dsimp only
    rw [Coordinator.findExperiment, Coordinator.settle_id_state]
    exact (OrderedMap.find?_assign _ _ _ _).trans (if_pos rfl)
  · have branches := congrArg (fun definition =>
      ExperimentDefinition.branches definition |>.find? (·.id = branch)) same
    dsimp only [ExperimentRecord.retire, ExperimentRecord.log] at branches
    rw [ExperimentRecord.findBranch] at branchFound
    rw [ExperimentRecord.find?_updateBranch branch branch (by intro _; rfl), if_pos rfl,
      branchFound] at branches
    have generation := congrArg (fun branch : BranchDefinition => branch.generation.value)
      (Option.some.inj branches)
    exact absurd generation (Nat.succ_ne_self _)

end Steps

/-- The definition and the hypothesis of an experiment are those of a record. -/
def Coordinator.Defines (c : Coordinator R) (experiment : ExperimentId)
    (record : ExperimentRecord R) : Prop :=
  ∃ held, c.findExperiment experiment = some held ∧ held.definition = record.definition ∧
    held.hypothesis = record.hypothesis

section Runs

variable [MetricReal R] [CanonicalDigests R]

/-- A request that neither rolls back nor retires a branch of the experiment. -/
def Spares (experiment : ExperimentId) (c : Coordinator R) (request : Request R × Option SaveFault)
    (next : Coordinator R) : Prop :=
  request.1.isRollback = false ∧
    (∀ record, c.findExperiment experiment = some record →
      ¬ request.1.Retires experiment record) ∧
    next = (c.perform request.1 request.2).1

/-- A run of requests that spare a closed experiment. -/
theorem spared_keptClosed {experiment : ExperimentId} {c last : Coordinator R}
    {requests : List (Request R × Option SaveFault)} {record : ExperimentRecord R}
    (found : c.findExperiment experiment = some record) (closed : record.state ≠ .opened)
    (run : Run (Spares experiment) c requests last) :
    ∃ after, last.findExperiment experiment = some after ∧ KeptClosed record after := by
  induction run with
  | nil => exact ⟨record, found, rfl, rfl, closed⟩
  | snoc earlier last ih =>
      obtain ⟨middle, middleFound, kept⟩ := ih
      obtain ⟨forward, keeps, rfl⟩ := last
      obtain ⟨after, afterFound, later⟩ :=
        perform_keptClosed middleFound kept.closed forward (keeps middle middleFound) _
      exact ⟨after, afterFound, kept.trans later⟩

/-- From every reachable state, a request that is no rollback leaves the definition and hypothesis
of a closed experiment alone exactly when it retires none of its branches; so do all requests of a
run of such requests. -/
theorem closed_frozen_iff {path : Text} {c : Coordinator R}
    (_reachable : (World.running c).Reachable path) {experiment : ExperimentId}
    {record : ExperimentRecord R} (found : c.findExperiment experiment = some record)
    (closed : record.state ≠ .opened) :
    (∀ (request : Request R) (fault : Option SaveFault), request.isRollback = false →
      ((c.perform request fault).1.Defines experiment record ↔
        ¬ request.Retires experiment record)) ∧
    ∀ (requests : List (Request R × Option SaveFault)) (last : Coordinator R),
      Run (Spares experiment) c requests last → last.Defines experiment record := by
  refine ⟨fun request fault forward => ⟨?_, fun keeps => ?_⟩, fun requests last run => ?_⟩
  · rintro ⟨held, heldFound, definition, -⟩ retires
    obtain ⟨after, afterFound, changed⟩ := perform_retires found retires fault
    obtain rfl := Option.some.inj (afterFound.symm.trans heldFound)
    exact changed definition
  · obtain ⟨after, afterFound, kept⟩ := perform_keptClosed found closed forward keeps fault
    exact ⟨after, afterFound, kept.definition, kept.hypothesis⟩
  · obtain ⟨after, afterFound, kept⟩ := spared_keptClosed found closed run
    exact ⟨after, afterFound, kept.definition, kept.hypothesis⟩

end Runs

namespace Sample

/-- The sample experiment after a decision on a candidate that does not exist. -/
def decided : Coordinator ℚ :=
  coordinator.session [(.createExperiment spec, none),
    (.finalizeExperiment experiment ⟨9⟩ [], none)]

theorem decided_reachable : (World.running decided).Reachable config.statePath :=
  coordinator_reachable.session _

end Sample

/-- A cancellation leaves the definition of the decided sample experiment alone. -/
theorem closed_frozen_sample : ∃ record,
    Sample.decided.findExperiment Sample.experiment = some record ∧ record.state = .finalized ∧
    (Sample.decided.perform (.cancelExperiment Sample.experiment []) none).1.Defines
      Sample.experiment record := by
  have finalized : (Sample.decided.findExperiment Sample.experiment).any (·.state = .finalized) := by
    decide +kernel
  obtain ⟨record, found, state⟩ := (Option.any_eq_true _ _).mp finalized
  have finalized := of_decide_eq_true state
  refine ⟨record, found, finalized, ?_⟩
  refine ((closed_frozen_iff Sample.decided_reachable found (by simp [finalized])).1 _ _ rfl).mpr ?_
  rintro ⟨_, _, _, named, -⟩
  cases named

/-- A branch of a finalized experiment can still be retired, which changes the definition that its
decision and its rollback point describe. -/
theorem finalized_branch_retired : ∃ record,
    (World.running Sample.decided).Reachable Sample.config.statePath ∧
    Sample.decided.findExperiment Sample.experiment = some record ∧ record.state = .finalized ∧
    ¬ (Sample.decided.perform (.retireBranch Sample.experiment Sample.candidate []) none).1.Defines
      Sample.experiment record := by
  have retired : (Sample.decided.findExperiment Sample.experiment).any (fun record =>
      record.state = .finalized && ((Sample.decided.perform
        (.retireBranch Sample.experiment Sample.candidate []) none).1.findExperiment
          Sample.experiment).any (·.definition ≠ record.definition)) := by
    decide +kernel
  obtain ⟨record, found, changed⟩ := (Option.any_eq_true _ _).mp retired
  obtain ⟨finalized, after⟩ := Bool.and_eq_true_iff.mp changed
  refine ⟨record, Sample.decided_reachable, found, of_decide_eq_true finalized, ?_⟩
  rintro ⟨held, heldFound, same, -⟩
  rw [heldFound] at after
  exact of_decide_eq_true after same

end ExperimentFabric
