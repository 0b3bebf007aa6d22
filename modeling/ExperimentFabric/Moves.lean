import Mathlib.Logic.Relation
import ExperimentFabric.Admission

/-!
# Elementary changes of a record

`Move` lists the elementary changes the runtime makes to the record of an experiment, each with the
fact that makes it possible.  An invariant of records is preserved by every operation once it is
preserved by every move.
-/

namespace ExperimentFabric

open Lib Relation

variable {R : Type}

/-- No watermark decreases. -/
structure Watermarks.Grows (old new : Watermarks) : Prop where
  experiment : old.experiment ≤ new.experiment
  hypothesis : old.hypothesis ≤ new.hypothesis
  branch : old.branch ≤ new.branch
  metric : old.metric ≤ new.metric
  policy : old.policy ≤ new.policy
  trial : old.trial ≤ new.trial
  attempt : old.attempt ≤ new.attempt
  observation : old.observation ≤ new.observation
  artifact : old.artifact ≤ new.artifact
  decision : old.decision ≤ new.decision
  rollback : old.rollback ≤ new.rollback

theorem Watermarks.Grows.refl (marks : Watermarks) : marks.Grows marks := by
  constructor <;> exact le_rfl

/-- The trial and attempt an operation acts on: the trial is open, the attempt is its live
authoritative one. -/
structure LivePair (record : ExperimentRecord R) (trialKey : TrialId) (attemptKey : TrialAttemptId)
    (trial : TrialRecord) (attempt : AttemptRecord) : Prop where
  trialFound : record.trials.find? trialKey = some trial
  trialOpen : isTerminal trial.state = false
  authoritative : trial.authoritativeAttempt = attemptKey
  attemptFound : record.attempts.find? attemptKey = some attempt
  attemptOpen : isAttemptTerminal attempt.state = false

theorem Admitted.livePair {record : ExperimentRecord R} {envelope : AuthorityEnvelope}
    {branch : BranchDefinition} {trial : TrialRecord} {attempt : AttemptRecord}
    (admitted : Admitted record envelope branch trial attempt) :
    LivePair record envelope.trial envelope.attempt trial attempt :=
  ⟨admitted.trialFound, admitted.trialOpen, admitted.authoritative, admitted.attemptFound,
    admitted.attemptOpen⟩

/-- One change of the record of an experiment, under its guard. -/
inductive Move [MetricReal R] [CanonicalDigests R] (experiment : ExperimentId)
    (record : ExperimentRecord R) : ExperimentRecord R → Prop where
  | revise (spec : HypothesisRevisionSpec) (sequence : Nat) (opened : record.state = .opened) :
      Move experiment record (record.revise spec sequence)
  | fork (branch : BranchDefinition) (sequence : Nat) (opened : record.state = .opened) :
      Move experiment record (record.fork branch sequence)
  | forkUndone (branch : BranchDefinition) (sequence : Nat) (opened : record.state = .opened) :
      Move experiment record (record.fork branch sequence).unfork
  | retire (branch : BranchId) (reason : Text) (sequence : Nat) :
      Move experiment record (record.retire branch reason sequence)
  | reject (kind : Text) (identifier : Nat) (verdict : Status) :
      Move experiment record (record.reject kind identifier verdict)
  | pushObservation (observation : Observation R) :
      Move experiment record (record.pushObservation observation)
  | observe {trialKey : TrialId} {attemptKey : TrialAttemptId} {trial : TrialRecord}
      {attempt : AttemptRecord} (opened : record.state = .opened)
      (live : LivePair record trialKey attemptKey trial attempt) (sequence : Nat) :
      Move experiment record (record.observe trial attempt trialKey attemptKey sequence).1
  | pushArtifact (trialKey : TrialId) (artifact : ArtifactRecord) :
      Move experiment record (record.pushArtifact trialKey artifact)
  | touch (trialKey : TrialId) (sequence : Nat) :
      Move experiment record (record.touch trialKey sequence)
  | complete {trialKey : TrialId} {attemptKey : TrialAttemptId} {trial : TrialRecord}
      {attempt : AttemptRecord} (opened : record.state = .opened)
      (live : LivePair record trialKey attemptKey trial attempt) (sequence : Nat) :
      Move experiment record (record.complete trialKey attemptKey sequence)
  | fail {trialKey : TrialId} {attemptKey : TrialAttemptId} {trial : TrialRecord}
      {attempt : AttemptRecord} (opened : record.state = .opened)
      (live : LivePair record trialKey attemptKey trial attempt) (kind : FailureKind)
      (detail : Text) (retry : Bool) (sequence : Nat) :
      Move experiment record (record.fail trial trialKey attemptKey kind detail retry sequence)
  | cancelTrial {trialKey : TrialId} {trial : TrialRecord}
      (found : record.trials.find? trialKey = some trial)
      (trialOpen : isTerminal trial.state = false) (reason : Text) (sequence : Nat) :
      Move experiment record (record.cancelTrial trialKey reason sequence)
  | cancel (reason : Text) (sequence : Nat)
      (allowed : record.state.isValidTransition .cancelled = true) :
      Move experiment record (record.cancel reason sequence)
  | finalize (candidate : BranchId) (reason : Text) (id : DecisionId) (point : RollbackPointId)
      (sequence : Nat) (notFinalized : record.state ≠ .finalized) :
      Move experiment record (record.finalize experiment
        (Coordinator.finalDecision record candidate reason id sequence) point sequence)
  | rollback (chosen : RollbackPoint) (point : RollbackPointId) (reason : Text) (sequence : Nat)
      (notCancelled : record.state ≠ .cancelled) (member : chosen ∈ record.rollbackPoints) :
      Move experiment record (record.rollback experiment chosen point reason sequence)

/-! ## What changes leave alone -/

/-- Observing touches nothing but one trial and one attempt. -/
theorem observe_frame (record : ExperimentRecord R) (trial : TrialRecord) (attempt : AttemptRecord)
    (trialKey : TrialId) (attemptKey : TrialAttemptId) (sequence : Nat) :
    ∃ trials attempts, (record.observe trial attempt trialKey attemptKey sequence).1 =
      { record with trials := trials, attempts := attempts } := by
  unfold ExperimentRecord.observe
  dsimp only
  split <;> split <;> exact ⟨_, _, rfl⟩

/-- A rejection adds at most to the rejected evidence. -/
theorem reject_frame (record : ExperimentRecord R) (kind : Text) (identifier : Nat)
    (verdict : Status) :
    ∃ rejected, record.reject kind identifier verdict =
      { record with rejectedEvidence := rejected } := by
  unfold ExperimentRecord.reject
  split <;> exact ⟨_, rfl⟩

/-- Losing a worker touches nothing but trials, attempts and the log. -/
theorem loseWorker_frame (worker : WorkerId) (boot : WorkerBootId) (kind : FailureKind)
    (attemptDetail trialDetail : Text) (sequence : Nat) (line : Text)
    (record : ExperimentRecord R) :
    ∃ trials attempts lines,
      record.loseWorker worker boot kind attemptDetail trialDetail sequence line =
        { record with trials := trials, attempts := attempts, lifecycleLog := lines } := by
  have lost : ∀ (entries : List (TrialAttemptId × AttemptRecord)) (other : ExperimentRecord R),
      ∃ trials attempts,
        entries.foldl (ExperimentRecord.loseAttempt kind attemptDetail trialDetail sequence)
          other = { other with trials := trials, attempts := attempts } := by
    intro entries
    induction entries with
    | nil => exact fun other => ⟨other.trials, other.attempts, rfl⟩
    | cons entry rest ih =>
        intro other
        obtain ⟨trials, attempts, same⟩ := ih
          (ExperimentRecord.loseAttempt kind attemptDetail trialDetail sequence other entry)
        exact ⟨trials, attempts, same⟩
  obtain ⟨trials, attempts, same⟩ := lost (record.liveAttemptsOf worker boot) record
  unfold ExperimentRecord.loseWorker
  dsimp only
  rw [same]
  split <;> exact ⟨_, _, _, rfl⟩

/-- Losing a worker changes each trial by releases from lost attempts. -/
theorem loseWorker_trials {related : TrialRecord → TrialRecord → Prop}
    (reflexive : ∀ trial, related trial trial)
    (transitive : ∀ first second third, related first second → related second third →
      related first third)
    {kind : FailureKind} {trialDetail : Text} {sequence : Nat} {record : ExperimentRecord R}
    (each : ∀ attempt trial,
      related trial (record.releaseFrom attempt kind trialDetail sequence trial))
    (worker : WorkerId) (boot : WorkerBootId) (attemptDetail line : Text) :
    OrderedMap.Evolves related record.trials
      (record.loseWorker worker boot kind attemptDetail trialDetail sequence line).trials := by
  have released : ∀ (lost : List (TrialAttemptId × AttemptRecord)) (other : ExperimentRecord R),
      other.definition = record.definition →
        OrderedMap.Evolves related other.trials
          (lost.foldl (ExperimentRecord.loseAttempt kind attemptDetail trialDetail sequence)
            other).trials := by
    intro lost
    induction lost with
    | nil => exact fun _ _ => .refl reflexive
    | cons entry rest ih =>
        intro other definition
        have same : other.releaseFrom entry.2.id kind trialDetail sequence =
            record.releaseFrom entry.2.id kind trialDetail sequence := by
          unfold ExperimentRecord.releaseFrom ExperimentRecord.retryable
          rw [definition]
        have first : OrderedMap.Evolves related other.trials
            (ExperimentRecord.loseAttempt kind attemptDetail trialDetail sequence other
              entry).trials := by
          unfold ExperimentRecord.loseAttempt
          dsimp only
          rw [same]
          exact .modify reflexive fun trial _ => each entry.2.id trial
        exact first.trans transitive (ih _ definition)
  unfold ExperimentRecord.loseWorker
  dsimp only
  split <;> exact released _ record rfl

/-- A reported failure moves one trial and one attempt, may invalidate the branch, and is logged. -/
theorem fail_frame (record : ExperimentRecord R) (trial : TrialRecord) (trialKey : TrialId)
    (attemptKey : TrialAttemptId) (kind : FailureKind) (detail : Text) (retry : Bool)
    (sequence : Nat) :
    ∃ branches lines, record.fail trial trialKey attemptKey kind detail retry sequence =
        { record with
          definition := { record.definition with branches := branches }
          attempts := record.attempts.modify attemptKey (·.finish .failed kind detail sequence)
          trials := record.trials.modify trialKey fun current =>
            current.release (retry && record.retryable current) kind detail sequence
          lifecycleLog := lines } ∧
      (branches = record.definition.branches ∨
        branches = ExperimentRecord.updateBranch trial.branch
          (fun found => { found with state := .invalid }) record.definition.branches) := by
  unfold ExperimentRecord.fail ExperimentRecord.invalidateBranch
  dsimp only
  split
  · split
    · exact ⟨_, _, rfl, .inl rfl⟩
    · split
      · exact ⟨_, _, rfl, .inr rfl⟩
      · exact ⟨_, _, rfl, .inl rfl⟩
  · exact ⟨_, _, rfl, .inl rfl⟩

section Failure

variable (record : ExperimentRecord R) (trial : TrialRecord) (trialKey : TrialId)
  (attemptKey : TrialAttemptId) (kind : FailureKind) (detail : Text) (retry : Bool)
  (sequence : Nat)

theorem fail_trials :
    (record.fail trial trialKey attemptKey kind detail retry sequence).trials =
      record.trials.modify trialKey fun current =>
        current.release (retry && record.retryable current) kind detail sequence := by
  obtain ⟨branches, lines, same, -⟩ :=
    fail_frame record trial trialKey attemptKey kind detail retry sequence
  rw [same]

theorem fail_attempts :
    (record.fail trial trialKey attemptKey kind detail retry sequence).attempts =
      record.attempts.modify attemptKey (·.finish .failed kind detail sequence) := by
  obtain ⟨branches, lines, same, -⟩ :=
    fail_frame record trial trialKey attemptKey kind detail retry sequence
  rw [same]

theorem fail_policy :
    (record.fail trial trialKey attemptKey kind detail retry
      sequence).definition.partialFailurePolicy = record.definition.partialFailurePolicy := by
  obtain ⟨branches, lines, same, -⟩ :=
    fail_frame record trial trialKey attemptKey kind detail retry sequence
  rw [same]

/-- A failed attempt leaves the evidence alone. -/
theorem fail_evidence :
    (record.fail trial trialKey attemptKey kind detail retry sequence).observations =
        record.observations ∧
      (record.fail trial trialKey attemptKey kind detail retry sequence).artifacts =
        record.artifacts := by
  obtain ⟨branches, lines, same, -⟩ :=
    fail_frame record trial trialKey attemptKey kind detail retry sequence
  rw [same]
  exact ⟨rfl, rfl⟩

end Failure

/-! ## Compound changes -/

/-- Dropping a published observation again leaves only the progress of its trial and attempt. -/
theorem observe_pushObservation_dropLast (record : ExperimentRecord R) (observation : Observation R)
    (trial : TrialRecord) (attempt : AttemptRecord) (trialKey : TrialId)
    (attemptKey : TrialAttemptId) (sequence : Nat) :
    let observed := ((record.pushObservation observation).observe trial attempt trialKey attemptKey
      sequence).1
    { observed with observations := observed.observations.dropLast } =
      (record.observe trial attempt trialKey attemptKey sequence).1 := by
  by_cases issued : attempt.state = .issued <;>
    by_cases advanced : (trial.state = .assigned ∨ trial.state = .running) ∧
      trial.state.isValidTransition .observing = true <;>
      simp [ExperimentRecord.observe, ExperimentRecord.pushObservation, issued, advanced]

/-- Dropping a published artifact again leaves only the touched trial. -/
theorem dropArtifact_touch_pushArtifact (record : ExperimentRecord R) (trialKey : TrialId)
    (artifact : ArtifactRecord) (sequence : Nat) :
    ((record.pushArtifact trialKey artifact).touch trialKey sequence).dropArtifact trialKey =
      record.touch trialKey sequence := by
  simp [ExperimentRecord.dropArtifact, ExperimentRecord.touch, ExperimentRecord.pushArtifact,
    TrialRecord.touch, TrialRecord.hold]

/-- Dropping an artifact that was just added restores the record. -/
theorem dropArtifact_pushArtifact (record : ExperimentRecord R) (trialKey : TrialId)
    (artifact : ArtifactRecord) :
    (record.pushArtifact trialKey artifact).dropArtifact trialKey = record := by
  simp [ExperimentRecord.dropArtifact, ExperimentRecord.pushArtifact, TrialRecord.hold,
    OrderedMap.modify_self]

/-- Withdrawing artifacts touches one record and the positions of its artifacts. -/
theorem Coordinator.withdrawArtifacts_frame (envelope : AuthorityEnvelope)
    (registered : List ArtifactId) (c : Coordinator R) :
    ∃ experiments positions, Coordinator.withdrawArtifacts envelope registered c =
      { c with
        state := { c.state with experiments := experiments }
        artifactIndex := positions } := by
  unfold Coordinator.withdrawArtifacts
  split
  · exact ⟨c.state.experiments, c.artifactIndex, rfl⟩
  · exact ⟨_, _, rfl⟩

/-- What registering the artifacts of a commit establishes holds after the commit, when withdrawing
them and storing the completed record keep it. -/
theorem Coordinator.commitTrial_keeps (before after : Coordinator R → Prop) {c : Coordinator R}
    {request : CommitTrialRequest} {fault : Option SaveFault} (unchanged : after c)
    (registered : before
      (registerArtifacts request.envelope c.nextSequence request.artifacts).1)
    (kept : ∀ later, before later → after later)
    (withdrawn : ∀ later experiments positions, before later → after { later with
      state := { later.state with experiments := experiments }
      artifactIndex := positions })
    (settled : ∀ later record, before later →
      after ((later.withRecord request.envelope.experiment record).settle fault id ()).1) :
    after (c.commitTrial request fault).1 := by
  unfold commitTrial
  split
  · exact unchanged
  · split
    · exact unchanged
    · split
      · exact unchanged
      · dsimp only
        split
        · rename_i later failure ended
          rw [ended] at registered
          exact kept later registered
        · rename_i later ended
          rw [ended] at registered
          split
          · obtain ⟨experiments, positions, same⟩ := withdrawArtifacts_frame request.envelope
              (request.artifacts.map ArtifactRecord.id) later
            rw [same]
            exact withdrawn later experiments positions registered
          · split
            · exact kept later registered
            · exact settled later _ registered

/-- An accepted artifact has a free identity and is stored before the next one. -/
theorem Coordinator.registerArtifacts_accepted {envelope : AuthorityEnvelope}
    {submitted : ArtifactRecord} {rest : List ArtifactRecord} {c : Coordinator R}
    {record : ExperimentRecord R} {trial : TrialRecord}
    (found : c.findExperiment envelope.experiment = some record)
    (held : record.trials.find? envelope.trial = some trial)
    (accepted : (Coordinator.registerArtifacts envelope c (submitted :: rest)).2 = .ok ()) :
    (c.artifactsOf record.definition.id).find? submitted.id = none ∧
      Coordinator.registerArtifacts envelope c (submitted :: rest) =
        Coordinator.registerArtifacts envelope
          (c.nextSequence.storeArtifact envelope.experiment record envelope.trial
            (Coordinator.submittedArtifact record trial envelope.attempt submitted
              (c.currentSequence + 1))) rest := by
  simp only [Coordinator.registerArtifacts, found, held] at accepted ⊢
  split at accepted
  · cases accepted
  · rename_i roomy
    rw [if_neg roomy]
    split at accepted
    · cases accepted
    · rename_i unfilled
      rw [if_neg unfilled]
      split at accepted
      · cases accepted
      · rename_i located
        rw [if_neg located]
        split at accepted
        · cases accepted
        · rename_i free
          rw [if_neg free]
          exact ⟨Option.not_isSome_iff_eq_none.mp free, rfl⟩

/-- The record that registering artifacts leaves, when all of them are accepted; dropping as many
artifacts as were registered restores the record from before. -/
theorem Coordinator.registerArtifacts_dropped (envelope : AuthorityEnvelope)
    (artifacts : List ArtifactRecord) {c : Coordinator R} {record : ExperimentRecord R}
    {trial : TrialRecord} (found : c.findExperiment envelope.experiment = some record)
    (held : record.trials.find? envelope.trial = some trial)
    (accepted : (Coordinator.registerArtifacts envelope c artifacts).2 = .ok ()) :
    ∃ after, (Coordinator.registerArtifacts envelope c artifacts).1.state.experiments =
        c.state.experiments.assign envelope.experiment after ∧
      (·.dropArtifact envelope.trial)^[artifacts.length] after = record := by
  induction artifacts generalizing c record trial with
  | nil => exact ⟨record, (OrderedMap.assign_self found).symm, rfl⟩
  | cons submitted rest ih =>
      obtain ⟨-, next⟩ := Coordinator.registerArtifacts_accepted found held accepted
      rw [next] at accepted ⊢
      let artifact := Coordinator.submittedArtifact record trial envelope.attempt submitted
        (c.currentSequence + 1)
      have foundNext : (c.nextSequence.storeArtifact envelope.experiment record envelope.trial
          artifact).findExperiment envelope.experiment =
            some (record.pushArtifact envelope.trial artifact) := by
        simp [Coordinator.storeArtifact]
      have heldNext : (record.pushArtifact envelope.trial artifact).trials.find? envelope.trial =
          some (trial.hold artifact.id) := by
        simp [ExperimentRecord.pushArtifact, held]
      obtain ⟨after, stored, dropped⟩ := ih foundNext heldNext accepted
      refine ⟨after, stored.trans (OrderedMap.assign_assign ..), ?_⟩
      rw [List.length_cons, Function.iterate_succ_apply', dropped]
      exact dropArtifact_pushArtifact record envelope.trial artifact

/-- Withdrawing every registered artifact restores the experiments. -/
theorem Coordinator.withdrawArtifacts_experiments (envelope : AuthorityEnvelope)
    (artifacts : List ArtifactRecord) {c : Coordinator R} {record : ExperimentRecord R}
    {trial : TrialRecord} (found : c.findExperiment envelope.experiment = some record)
    (held : record.trials.find? envelope.trial = some trial)
    (accepted : (Coordinator.registerArtifacts envelope c artifacts).2 = .ok ()) :
    (Coordinator.withdrawArtifacts envelope (artifacts.map ArtifactRecord.id)
      (Coordinator.registerArtifacts envelope c artifacts).1).state.experiments =
        c.state.experiments := by
  obtain ⟨after, stored, dropped⟩ :=
    Coordinator.registerArtifacts_dropped envelope artifacts found held accepted
  have lookup : (Coordinator.registerArtifacts envelope c artifacts).1.findExperiment
      envelope.experiment = some after := by
    rw [Coordinator.findExperiment, stored, OrderedMap.find?_assign_self]
  simp only [Coordinator.withdrawArtifacts, lookup, List.length_map, dropped,
    Coordinator.indexArtifacts, Coordinator.withRecord, Coordinator.withExperiments, stored]
  rw [OrderedMap.assign_assign, OrderedMap.assign_self found]

/-- An accepted observation is appended, then its trial and attempt move forward. -/
theorem publish_moves [MetricReal R] [CanonicalDigests R] (experiment : ExperimentId)
    {record : ExperimentRecord R} {trialKey : TrialId}
    {attemptKey : TrialAttemptId} {trial : TrialRecord} {attempt : AttemptRecord}
    (opened : record.state = .opened) (live : LivePair record trialKey attemptKey trial attempt)
    (observation : Observation R) (sequence : Nat) :
    ReflTransGen (Move experiment) record
      ((record.pushObservation observation).observe trial attempt trialKey attemptKey
        sequence).1 := by
  have pushed : LivePair (record.pushObservation observation) trialKey attemptKey trial attempt :=
    ⟨live.trialFound, live.trialOpen, live.authoritative, live.attemptFound, live.attemptOpen⟩
  have stillOpen : (record.pushObservation observation).state = .opened := opened
  have advanced : Move experiment (record.pushObservation observation)
      ((record.pushObservation observation).observe trial attempt trialKey attemptKey sequence).1 :=
    .observe stillOpen pushed sequence
  exact .tail (.single (.pushObservation observation)) advanced

end ExperimentFabric
