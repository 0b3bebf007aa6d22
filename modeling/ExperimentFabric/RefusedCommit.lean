import ExperimentFabric.Conformance
import ExperimentFabric.Indexes
import ExperimentFabric.RefusedEvidence

/-!
# Refused commits

A commit registers its artifacts one after another and takes them back only when the attempt cannot be
completed.  A refused artifact therefore leaves the ones before it registered, and a commit that
cannot be saved leaves the trial completed.
-/

namespace ExperimentFabric

open Lib

variable {R : Type}

/-! ## Admissible artifacts -/

/-- A list of artifacts that a trial can take as a whole. -/
structure Coordinator.Admissible (c : Coordinator R) (record : ExperimentRecord R)
    (trial : TrialRecord) (artifacts : List ArtifactRecord) : Prop where
  room : artifacts.length ≤ c.limits.maxArtifactsPerExperiment - record.artifacts.length
  budget : artifacts.length ≤ c.limits.maxArtifactsPerAttempt - trial.artifacts.length
  located : ∀ artifact ∈ artifacts, artifact.locator ≠ [] ∧
    artifact.locator.length ≤ c.limits.maxLocatorLength
  distinct : (artifacts.map ArtifactRecord.id).Nodup
  free : ∀ artifact ∈ artifacts,
    (c.artifactsOf record.definition.id).find? artifact.id = none

section Artifacts

variable {c : Coordinator R} {envelope : AuthorityEnvelope} {record : ExperimentRecord R}
  {trial : TrialRecord} {submitted : ArtifactRecord} {rest artifacts : List ArtifactRecord}

/-- The coordinator that has stored the first artifact of a commit. -/
def Coordinator.afterFirst (c : Coordinator R) (envelope : AuthorityEnvelope)
    (record : ExperimentRecord R) (trial : TrialRecord) (submitted : ArtifactRecord) :
    Coordinator R :=
  c.nextSequence.storeArtifact envelope.experiment record envelope.trial
    (Coordinator.submittedArtifact record trial envelope.attempt submitted (c.currentSequence + 1))

/-- An artifact is stored when it is admissible by itself. -/
theorem registerArtifacts_admitted (found : c.findExperiment envelope.experiment = some record)
    (held : record.trials.find? envelope.trial = some trial)
    (admissible : c.Admissible record trial [submitted]) :
    Coordinator.registerArtifacts envelope c (submitted :: rest) =
      Coordinator.registerArtifacts envelope (c.afterFirst envelope record trial submitted) rest := by
  obtain ⟨room, budget, located, -, free⟩ := admissible
  obtain ⟨named, short⟩ := located submitted List.mem_cons_self
  have free := free submitted List.mem_cons_self
  rw [List.length_singleton] at room budget
  simp only [Coordinator.registerArtifacts, found, held]
  rw [if_neg (by omega), if_neg (by omega), if_neg (by simpa [named] using short)]
  exact if_neg (by rw [Option.not_isSome_iff_eq_none]; exact free)

/-- An artifact that is not admissible ends the commit before anything is stored. -/
theorem registerArtifacts_refused (found : c.findExperiment envelope.experiment = some record)
    (held : record.trials.find? envelope.trial = some trial)
    (refused : ¬ c.Admissible record trial [submitted]) (rest : List ArtifactRecord) :
    ∃ failure, Coordinator.registerArtifacts envelope c (submitted :: rest) = (c, .error failure) ∨
      Coordinator.registerArtifacts envelope c (submitted :: rest) =
        (c.nextSequence, .error failure) := by
  simp only [Coordinator.registerArtifacts, found, held]
  split
  · exact ⟨_, .inl rfl⟩
  · rename_i room
    split
    · exact ⟨_, .inl rfl⟩
    · rename_i budget
      split
      · exact ⟨_, .inl rfl⟩
      · rename_i located
        split
        · exact ⟨_, .inr rfl⟩
        · rename_i free
          refine absurd ⟨?_, ?_, ?_, List.nodup_singleton _, ?_⟩ refused
          · rw [List.length_singleton]
            omega
          · rw [List.length_singleton]
            omega
          · intro artifact member
            rw [List.mem_singleton.mp member]
            simpa using located
          · intro artifact member
            rw [List.mem_singleton.mp member]
            exact Option.not_isSome_iff_eq_none.mp free

theorem Coordinator.Admissible.nil : c.Admissible record trial [] where
  room := Nat.zero_le _
  budget := Nat.zero_le _
  located := fun _ member => absurd member List.not_mem_nil
  distinct := List.nodup_nil
  free := fun _ member => absurd member List.not_mem_nil

/-- Counting an event changes nothing that artifacts are compared with. -/
theorem admissible_nextSequence :
    c.nextSequence.Admissible record trial artifacts ↔ c.Admissible record trial artifacts :=
  ⟨fun ⟨room, budget, located, distinct, free⟩ => ⟨room, budget, located, distinct, free⟩,
    fun ⟨room, budget, located, distinct, free⟩ => ⟨room, budget, located, distinct, free⟩⟩

/-- A list of artifacts is admissible when its first one is, and the others are once it is stored. -/
theorem admissible_cons (envelope : AuthorityEnvelope) :
    c.Admissible record trial (submitted :: rest) ↔ c.Admissible record trial [submitted] ∧
      (c.afterFirst envelope record trial submitted).Admissible
        (record.pushArtifact envelope.trial (Coordinator.submittedArtifact record trial
          envelope.attempt submitted (c.currentSequence + 1))) (trial.hold submitted.id) rest := by
  have positions : (c.afterFirst envelope record trial submitted).artifactsOf record.definition.id =
      (c.artifactsOf record.definition.id).assign submitted.id record.artifacts.length := by
    simp only [Coordinator.afterFirst, Coordinator.storeArtifact, Coordinator.artifactsOf,
      Coordinator.indexArtifacts, OrderedMap.find?_assign, if_true, Option.getD_some]
    rfl
  have stored : ∀ id, ((c.afterFirst envelope record trial submitted).artifactsOf
      record.definition.id).find? id = none ↔
        id ≠ submitted.id ∧ (c.artifactsOf record.definition.id).find? id = none := by
    intro id
    rw [positions, OrderedMap.find?_assign]
    by_cases same : id = submitted.id
    · simp [same]
    · simp [same]
  constructor
  · rintro ⟨room, budget, located, distinct, free⟩
    rw [List.map_cons, List.nodup_cons] at distinct
    rw [List.length_cons] at room budget
    refine ⟨⟨?_, ?_, ?_, List.nodup_singleton _, ?_⟩, ⟨?_, ?_, ?_, distinct.2, ?_⟩⟩
    · rw [List.length_singleton]
      omega
    · rw [List.length_singleton]
      omega
    · intro artifact member
      rw [List.mem_singleton.mp member]
      exact located submitted List.mem_cons_self
    · intro artifact member
      rw [List.mem_singleton.mp member]
      exact free submitted List.mem_cons_self
    · change rest.length ≤ c.limits.maxArtifactsPerExperiment - (record.artifacts ++ [_]).length
      rw [List.length_append, List.length_singleton]
      omega
    · change rest.length ≤ c.limits.maxArtifactsPerAttempt - (trial.artifacts ++ [_]).length
      rw [List.length_append, List.length_singleton]
      omega
    · exact fun artifact member => located artifact (List.mem_cons_of_mem _ member)
    · intro artifact member
      refine (stored artifact.id).mpr ⟨fun same => ?_, free artifact (List.mem_cons_of_mem _ member)⟩
      exact distinct.1 (same ▸ List.mem_map_of_mem member)
  · rintro ⟨⟨room, budget, located, -, free⟩, ⟨roomRest, budgetRest, locatedRest, distinct, freeRest⟩⟩
    change rest.length ≤ c.limits.maxArtifactsPerExperiment - (record.artifacts ++ [_]).length
      at roomRest
    change rest.length ≤ c.limits.maxArtifactsPerAttempt - (trial.artifacts ++ [_]).length
      at budgetRest
    rw [List.length_append, List.length_singleton] at roomRest budgetRest
    rw [List.length_singleton] at room budget
    have later : ∀ artifact ∈ rest, artifact.id ≠ submitted.id ∧
        (c.artifactsOf record.definition.id).find? artifact.id = none :=
      fun artifact member => (stored artifact.id).mp (freeRest artifact member)
    refine ⟨?_, ?_, ?_, ?_, ?_⟩
    · rw [List.length_cons]
      omega
    · rw [List.length_cons]
      omega
    · intro artifact member
      rcases List.mem_cons.mp member with rfl | among
      · exact located artifact List.mem_cons_self
      · exact locatedRest artifact among
    · rw [List.map_cons, List.nodup_cons]
      refine ⟨fun known => ?_, distinct⟩
      obtain ⟨artifact, member, same⟩ := List.mem_map.mp known
      exact (later artifact member).1 same
    · intro artifact member
      rcases List.mem_cons.mp member with rfl | among
      · exact free artifact List.mem_cons_self
      · exact (later artifact among).2

theorem afterFirst_found : (c.afterFirst envelope record trial submitted).findExperiment
    envelope.experiment = some (record.pushArtifact envelope.trial
      (Coordinator.submittedArtifact record trial envelope.attempt submitted
        (c.currentSequence + 1))) := by
  simp [Coordinator.afterFirst, Coordinator.storeArtifact]

theorem afterFirst_held (held : record.trials.find? envelope.trial = some trial) :
    (record.pushArtifact envelope.trial (Coordinator.submittedArtifact record trial
      envelope.attempt submitted (c.currentSequence + 1))).trials.find? envelope.trial =
        some (trial.hold submitted.id) := by
  simp [ExperimentRecord.pushArtifact, held, Coordinator.submittedArtifact]

/-- The artifacts of a commit are registered exactly when they are admissible as a whole. -/
theorem registerArtifacts_ok_iff (found : c.findExperiment envelope.experiment = some record)
    (held : record.trials.find? envelope.trial = some trial) :
    (Coordinator.registerArtifacts envelope c artifacts).2 = .ok () ↔
      c.Admissible record trial artifacts := by
  induction artifacts generalizing c record trial with
  | nil => exact ⟨fun _ => .nil, fun _ => rfl⟩
  | cons submitted rest ih =>
      rw [admissible_cons envelope]
      by_cases admissible : c.Admissible record trial [submitted]
      · rw [registerArtifacts_admitted found held admissible, and_iff_right admissible]
        exact ih afterFirst_found (afterFirst_held held)
      · obtain ⟨failure, same | same⟩ := registerArtifacts_refused found held admissible rest
        · simp [same, admissible]
        · simp [same, admissible]

/-- Registering artifacts removes none. -/
theorem registerArtifacts_lengthens (found : c.findExperiment envelope.experiment = some record)
    (artifacts : List ArtifactRecord) :
    ∃ after, (Coordinator.registerArtifacts envelope c artifacts).1.findExperiment
      envelope.experiment = some after ∧ record.artifacts.length ≤ after.artifacts.length := by
  let property (reached : Coordinator R) : Prop := ∃ after,
    reached.findExperiment envelope.experiment = some after ∧
      record.artifacts.length ≤ after.artifacts.length
  have kept : property (Coordinator.registerArtifacts envelope c artifacts).1 := by
    refine Coordinator.registerArtifacts_keeps envelope (fun _ holds => holds) ?_ artifacts
      ⟨record, found, le_rfl⟩
    rintro reached stored trial submitted ⟨after, lookup, longer⟩ present - - -
    obtain rfl := Option.some.inj (lookup.symm.trans present)
    refine ⟨_, afterFirst_found, longer.trans ?_⟩
    simp [ExperimentRecord.pushArtifact]
  exact kept

/-- Every registered artifact adds a record. -/
theorem registerArtifacts_recordCount (found : c.findExperiment envelope.experiment = some record)
    (held : record.trials.find? envelope.trial = some trial)
    (admissible : c.Admissible record trial artifacts) :
    ∃ after, (Coordinator.registerArtifacts envelope c artifacts).1.findExperiment
      envelope.experiment = some after ∧
        after.recordCount = record.recordCount + artifacts.length := by
  induction artifacts generalizing c record trial with
  | nil => exact ⟨record, found, rfl⟩
  | cons submitted rest ih =>
      obtain ⟨first, others⟩ := (admissible_cons envelope).mp admissible
      rw [registerArtifacts_admitted found held first]
      obtain ⟨after, lookup, count⟩ := ih afterFirst_found (afterFirst_held held) others
      refine ⟨after, lookup, ?_⟩
      rw [count, pushArtifact_recordCount, List.length_cons]
      omega

end Artifacts

/-! ## Refusals -/

/-- The artifacts of an experiment and their positions, a trial and an attempt are as before. -/
structure Coordinator.SameSubmission (c c' : Coordinator R) (envelope : AuthorityEnvelope) :
    Prop where
  artifacts : (c'.findExperiment envelope.experiment).map ExperimentRecord.artifacts =
    (c.findExperiment envelope.experiment).map ExperimentRecord.artifacts
  index : ∀ experiment, c'.artifactsOf experiment = c.artifactsOf experiment
  trial : ((c'.findExperiment envelope.experiment).bind (·.trials.find? envelope.trial)) =
    (c.findExperiment envelope.experiment).bind (·.trials.find? envelope.trial)
  attempt : ((c'.findExperiment envelope.experiment).bind (·.attempts.find? envelope.attempt)) =
    (c.findExperiment envelope.experiment).bind (·.attempts.find? envelope.attempt)

theorem Coordinator.SameSubmission.of_experiments {c c' : Coordinator R}
    (experiments : c'.state.experiments = c.state.experiments)
    (index : ∀ experiment, c'.artifactsOf experiment = c.artifactsOf experiment)
    (envelope : AuthorityEnvelope) : c.SameSubmission c' envelope := by
  have same : c'.findExperiment envelope.experiment = c.findExperiment envelope.experiment :=
    congrArg (fun experiments => experiments.find? envelope.experiment) experiments
  exact ⟨by rw [same], index, by rw [same], by rw [same]⟩

section Commit

variable {c : Coordinator R} {request : CommitTrialRequest}
  {check : EnvelopeCheck R}

/-- A commit that passed its guard and holds evidence registers its artifacts. -/
theorem commitTrial_registers (guarded : c.commitTrialGuard request = .ok check)
    (observed : Coordinator.observationsHeld check.record check.trial.id check.attempt.id ≠ 0)
    (fault : Option SaveFault) :
    c.commitTrial request fault =
      match Coordinator.registerArtifacts request.envelope c.nextSequence request.artifacts with
      | (registered, .error failure) => (registered, .error failure)
      | (registered, .ok ()) =>
          if !check.attempt.state.isValidTransition .completed then
            (Coordinator.withdrawArtifacts request.envelope
              (request.artifacts.map ArtifactRecord.id) registered,
              .error (invalidTransitionStatus (text "attempt") check.attempt.state.toText
                (text "COMPLETED")))
          else match registered.findExperiment request.envelope.experiment with
            | none => (registered, .ok ())
            | some record =>
                (registered.withRecord request.envelope.experiment
                  (record.complete request.envelope.trial request.envelope.attempt
                    (c.currentSequence + 1))).settle fault id () := by
  obtain ⟨-, -, -, found, admitted⟩ :=
    (c.checkEnvelope_eq_ok _ _).mp (Coordinator.commitTrialGuard_ok guarded)
  have unfinished : check.trial.state ≠ .completed := fun done => by
    have isOpen := admitted.trialOpen
    simp [done, isTerminal] at isOpen
  rw [Coordinator.commitTrial, guarded]
  dsimp only
  rw [if_neg (by simp [unfinished]), if_neg observed]
  rfl

/-- Nothing stands in the way of a commit that has evidence, or its first artifact does. -/
def Coordinator.CleanCommit (c : Coordinator R) (request : CommitTrialRequest)
    (check : EnvelopeCheck R) : Prop :=
  (∃ first rest, request.artifacts = first :: rest ∧
    ¬ c.Admissible check.record check.trial [first]) ∨
  c.Admissible check.record check.trial request.artifacts ∧
    (check.attempt.state.isValidTransition .completed = true →
      c.Fits (request.artifacts.length + check.record.logGrowth))

/-- A commit whose first artifact is refused stores nothing. -/
theorem commitTrial_firstRefused (guarded : c.commitTrialGuard request = .ok check)
    (observed : Coordinator.observationsHeld check.record check.trial.id check.attempt.id ≠ 0)
    {first : ArtifactRecord} {rest : List ArtifactRecord}
    (submitted : request.artifacts = first :: rest)
    (refused : ¬ c.Admissible check.record check.trial [first]) (fault : Option SaveFault) :
    c.SameSubmission (c.commitTrial request fault).1 request.envelope := by
  obtain ⟨-, -, -, found, admitted⟩ :=
    (c.checkEnvelope_eq_ok _ _).mp (Coordinator.commitTrialGuard_ok guarded)
  have foundNext : c.nextSequence.findExperiment request.envelope.experiment = some check.record :=
    found
  rw [← admissible_nextSequence] at refused
  obtain ⟨failure, stopped⟩ := registerArtifacts_refused foundNext
    admitted.trialFound refused rest
  rw [commitTrial_registers guarded observed, submitted]
  rcases stopped with same | same
  · rw [same]
    change c.SameSubmission c.nextSequence request.envelope
    apply Coordinator.SameSubmission.of_experiments
    · rfl
    · exact fun _ => rfl
  · rw [same]
    change c.SameSubmission c.nextSequence.nextSequence request.envelope
    apply Coordinator.SameSubmission.of_experiments
    · rfl
    · exact fun _ => rfl

/-- A commit that stored its first artifact and refuses a later one leaves the first one stored. -/
theorem commitTrial_laterRefused (guarded : c.commitTrialGuard request = .ok check)
    (observed : Coordinator.observationsHeld check.record check.trial.id check.attempt.id ≠ 0)
    {first : ArtifactRecord} {rest : List ArtifactRecord}
    (submitted : request.artifacts = first :: rest)
    (stored : c.Admissible check.record check.trial [first])
    (refused : ¬ c.Admissible check.record check.trial request.artifacts)
    (fault : Option SaveFault) :
    (∃ failure, (c.commitTrial request fault).2 = .error failure) ∧
      ¬ c.SameSubmission (c.commitTrial request fault).1 request.envelope := by
  obtain ⟨-, -, -, found, admitted⟩ :=
    (c.checkEnvelope_eq_ok _ _).mp (Coordinator.commitTrialGuard_ok guarded)
  have foundNext : c.nextSequence.findExperiment request.envelope.experiment = some check.record :=
    found
  rw [← admissible_nextSequence] at stored refused
  have notAccepted := mt (registerArtifacts_ok_iff foundNext admitted.trialFound).mp refused
  rw [commitTrial_registers guarded observed, submitted] at *
  have grown := registerArtifacts_lengthens (c := c.nextSequence.afterFirst request.envelope
    check.record check.trial first) afterFirst_found rest
  rw [← registerArtifacts_admitted foundNext admitted.trialFound stored] at grown
  obtain ⟨after, lookup, longer⟩ := grown
  cases registration : Coordinator.registerArtifacts request.envelope c.nextSequence
      (first :: rest) with
  | mk registered result =>
      rw [registration] at notAccepted lookup
      cases result with
      | ok done => exact absurd rfl notAccepted
      | error failure =>
          refine ⟨⟨failure, rfl⟩, fun same => ?_⟩
          have lists := same.artifacts
          rw [lookup, found] at lists
          have lengths := congrArg List.length (Option.some.inj lists)
          rw [lengths] at longer
          simp [ExperimentRecord.pushArtifact] at longer

/-- A commit that cannot be completed takes its artifacts back. -/
theorem commitTrial_withdrawn [MetricReal R] [CanonicalDigests R] (named : c.Named)
    (guarded : c.commitTrialGuard request = .ok check)
    (observed : Coordinator.observationsHeld check.record check.trial.id check.attempt.id ≠ 0)
    (admissible : c.Admissible check.record check.trial request.artifacts)
    (blocked : check.attempt.state.isValidTransition .completed = false)
    (fault : Option SaveFault) :
    c.SameSubmission (c.commitTrial request fault).1 request.envelope := by
  obtain ⟨-, -, -, found, admitted⟩ :=
    (c.checkEnvelope_eq_ok _ _).mp (Coordinator.commitTrialGuard_ok guarded)
  have foundNext : c.nextSequence.findExperiment request.envelope.experiment = some check.record :=
    found
  have namedNext : c.nextSequence.Named := named
  rw [← admissible_nextSequence] at admissible
  have accepted := (registerArtifacts_ok_iff foundNext admitted.trialFound).mpr admissible
  have experiments := Coordinator.withdrawArtifacts_experiments request.envelope request.artifacts
    foundNext admitted.trialFound accepted
  have evidence := Coordinator.withdrawArtifacts_sameEvidence request.envelope request.artifacts
    namedNext foundNext admitted.trialFound accepted
  rw [commitTrial_registers guarded observed]
  cases registration : Coordinator.registerArtifacts request.envelope c.nextSequence
      request.artifacts with
  | mk registered result =>
      rw [registration] at accepted experiments evidence
      obtain rfl : result = .ok () := accepted
      dsimp only at experiments evidence ⊢
      rw [blocked]
      change c.SameSubmission (Coordinator.withdrawArtifacts _ _ registered) request.envelope
      apply Coordinator.SameSubmission.of_experiments
      · exact experiments
      · exact evidence.artifactsOf

/-- A commit that nothing refuses completes its trial and attempt before it is saved. -/
theorem commitTrial_completes [MetricReal R] [CanonicalDigests R]
    (guarded : c.commitTrialGuard request = .ok check)
    (observed : Coordinator.observationsHeld check.record check.trial.id check.attempt.id ≠ 0)
    (admissible : c.Admissible check.record check.trial request.artifacts)
    (allowed : check.attempt.state.isValidTransition .completed = true)
    (fault : Option SaveFault) :
    ¬ c.SameSubmission (c.commitTrial request fault).1 request.envelope ∧
      ((c.commitTrial request none).2 = .ok () ↔
        c.Fits (request.artifacts.length + check.record.logGrowth)) := by
  obtain ⟨-, -, -, found, admitted⟩ :=
    (c.checkEnvelope_eq_ok _ _).mp (Coordinator.commitTrialGuard_ok guarded)
  have foundNext : c.nextSequence.findExperiment request.envelope.experiment = some check.record :=
    found
  rw [← admissible_nextSequence] at admissible
  have accepted := (registerArtifacts_ok_iff foundNext admitted.trialFound).mpr admissible
  obtain ⟨after, lookup, count⟩ :=
    registerArtifacts_recordCount foundNext admitted.trialFound admissible
  obtain ⟨_, added⟩ := Coordinator.registerArtifacts_added request.envelope request.artifacts
    c.nextSequence check.record foundNext
  obtain ⟨-, -, _, lookupLog, log⟩ := registerArtifacts_grows request.envelope request.artifacts
    foundNext
  have process := Coordinator.registerArtifacts_sameProcess request.envelope request.artifacts
    c.nextSequence
  obtain rfl := Option.some.inj (lookup.symm.trans lookupLog)
  rw [commitTrial_registers guarded observed, commitTrial_registers guarded observed]
  cases registration : Coordinator.registerArtifacts request.envelope c.nextSequence
      request.artifacts with
  | mk registered result =>
      rw [registration] at accepted lookup added process
      obtain rfl : result = .ok () := accepted
      dsimp only at lookup added process ⊢
      rw [allowed, lookup]
      dsimp only
      let done := after.complete request.envelope.trial request.envelope.attempt
        (c.currentSequence + 1)
      let prepared := registered.withRecord request.envelope.experiment done
      have stored : prepared.findExperiment request.envelope.experiment = some done :=
        OrderedMap.find?_assign_self ..
      have grown : done.recordCount = check.record.recordCount +
          (request.artifacts.length + check.record.logGrowth) := by
        have sameLog : after.logGrowth = check.record.logGrowth := by
          rw [ExperimentRecord.logGrowth, log]
          rfl
        rw [complete_recordCount, count, sameLog, Nat.add_assoc]
      have savable : prepared.Savable none ↔
          c.Fits (request.artifacts.length + check.record.logGrowth) := by
        refine Coordinator.savable_iff_fits found ?_ added.workers process.config added.format grown
        change registered.state.experiments.assign _ done = _
        rw [added.stored]
        exact OrderedMap.assign_assign ..
      rw [← savable]
      refine ⟨fun same => ?_, Coordinator.settle_ok_iff prepared none id ()⟩
      have left : (prepared.settle fault id ()).1.findExperiment request.envelope.experiment =
          some done := by
        rw [Coordinator.findExperiment, Coordinator.settle_id_fst, Coordinator.persistLocked_state]
        exact stored
      have trial := same.trial
      change ((prepared.settle fault id ()).1.findExperiment _).bind _ = _ at trial
      rw [left, found, Option.bind_some, Option.bind_some, admitted.trialFound] at trial
      have completed : done.trials.find? request.envelope.trial =
          (after.trials.find? request.envelope.trial).map (·.commit (c.currentSequence + 1)) :=
        (OrderedMap.find?_modify ..).trans (if_pos rfl)
      obtain ⟨before, -, committed⟩ := Option.map_eq_some_iff.mp (completed.symm.trans trial)
      have isOpen := admitted.trialOpen
      rw [← committed] at isOpen
      cases isOpen

/-- In every reachable state, a commit that is refused although no storage write fails leaves its
artifacts, trial and attempt as they were exactly when it is refused before anything is stored or
nothing stands in its way. -/
theorem refused_commit_iff [MetricReal R] [CanonicalDigests R] {path : Text}
    (reachable : (World.running c).Reachable path) (request : CommitTrialRequest) :
    (∀ failure, (c.commitTrial request none).2 = .error failure →
      c.SameSubmission (c.commitTrial request none).1 request.envelope) ↔
      ∀ check, c.commitTrialGuard request = .ok check →
        Coordinator.observationsHeld check.record check.trial.id check.attempt.id ≠ 0 →
          c.CleanCommit request check := by
  constructor
  · intro unchanged check guarded observed
    by_cases admissible : c.Admissible check.record check.trial request.artifacts
    · refine .inr ⟨admissible, fun allowed => ?_⟩
      obtain ⟨changed, saved⟩ := commitTrial_completes guarded observed admissible allowed none
      rw [← saved]
      cases answer : (c.commitTrial request none).2 with
      | ok done => rfl
      | error failure => exact absurd (unchanged failure answer) changed
    · cases submitted : request.artifacts with
      | nil =>
          rw [submitted] at admissible
          exact absurd .nil admissible
      | cons first rest =>
          refine .inl ⟨first, rest, submitted, fun stored => ?_⟩
          obtain ⟨⟨failure, answer⟩, changed⟩ :=
            commitTrial_laterRefused guarded observed submitted stored admissible none
          exact changed (unchanged failure answer)
  · intro clean failure answer
    have named : c.Named := fun experiment record found =>
      (reachable.sound.2.2.1.placed experiment record found).identity
    have untouched : c.SameSubmission c request.envelope := .of_experiments rfl (fun _ => rfl) _
    cases guarded : c.commitTrialGuard request with
    | error blame =>
        rw [Coordinator.commitTrial, guarded]
        exact untouched
    | ok check =>
        by_cases observed : Coordinator.observationsHeld check.record check.trial.id
            check.attempt.id = 0
        · rw [Coordinator.commitTrial, guarded]
          dsimp only
          rw [if_pos observed]
          split
          · exact untouched
          · exact untouched
        · rcases clean check guarded observed with ⟨first, rest, submitted, refused⟩ |
            ⟨admissible, fits⟩
          · exact commitTrial_firstRefused guarded observed submitted refused none
          · cases allowed : check.attempt.state.isValidTransition .completed with
            | false => exact commitTrial_withdrawn named guarded observed admissible allowed none
            | true =>
                have saved := (commitTrial_completes guarded observed admissible allowed none).2
                exact nomatch (saved.mpr (fits allowed)).symm.trans answer

end Commit

namespace Sample

/-- A commit whose second artifact has no locator. -/
def halfCommit : CommitTrialRequest where
  epoch := coordinator.epoch
  worker := worker
  boot := boot
  envelope := envelope
  artifacts := [{ id := ⟨1⟩, locator := text "report" }, { id := ⟨2⟩ }]

end Sample

/-- The sample commit stores its first artifact before it is refused. -/
theorem refused_commit_sample :
    (∀ failure, (Sample.observed.commitTrial Sample.halfCommit none).2 = .error failure →
      Sample.observed.SameSubmission (Sample.observed.commitTrial Sample.halfCommit none).1
        Sample.halfCommit.envelope) ↔
      ∀ check, Sample.observed.commitTrialGuard Sample.halfCommit = .ok check →
        Coordinator.observationsHeld check.record check.trial.id check.attempt.id ≠ 0 →
          Sample.observed.CleanCommit Sample.halfCommit check :=
  refused_commit_iff Sample.observed_reachable Sample.halfCommit

/-- A commit that is refused for its second artifact leaves the first one registered. -/
theorem refused_commit_changes :
    (World.running Sample.observed).Reachable Sample.config.statePath ∧
    ∃ failure, (Sample.observed.commitTrial Sample.halfCommit none).2 = .error failure ∧
      ¬ Sample.observed.SameSubmission (Sample.observed.commitTrial Sample.halfCommit none).1
        Sample.halfCommit.envelope := by
  have refused : (Sample.observed.commitTrial Sample.halfCommit none).2.isOk = false := by
    decide +kernel
  have before : ((Sample.observed.findExperiment Sample.experiment).map
      ExperimentRecord.artifacts).map List.length = some 0 := by
    decide +kernel
  have after : (((Sample.observed.commitTrial Sample.halfCommit none).1.findExperiment
      Sample.experiment).map ExperimentRecord.artifacts).map List.length = some 1 := by
    decide +kernel
  refine ⟨Sample.observed_reachable, ?_⟩
  cases answer : (Sample.observed.commitTrial Sample.halfCommit none).2 with
  | ok done =>
      rw [answer] at refused
      cases refused
  | error failure =>
      refine ⟨failure, rfl, fun same => ?_⟩
      have lists : ((Sample.observed.commitTrial Sample.halfCommit none).1.findExperiment
          Sample.experiment).map ExperimentRecord.artifacts =
            (Sample.observed.findExperiment Sample.experiment).map ExperimentRecord.artifacts :=
        same.artifacts
      rw [lists, before] at after
      cases after

end ExperimentFabric
