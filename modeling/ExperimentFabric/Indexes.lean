import ExperimentFabric.Authorization
import ExperimentFabric.Endings
import ExperimentFabric.Session

/-!
# The evidence indexes

A coordinator finds stored evidence through two indexes that it updates with every change of the
stored lists.  Whatever is refused, undone or recovered, they are the indexes a recomputation from
the stored lists gives.
-/

namespace ExperimentFabric

open Lib

variable {R : Type}

/-! ## Positions -/

namespace Coordinator

section Positions

variable {α : Type} {tag : Tag} (identity : α → StrongId tag)

/-- The last item of a list has the last position. -/
theorem positions_concat (items : List α) (item : α) :
    positions identity (items ++ [item]) =
      (positions identity items).assign (identity item) items.length := by
  simp [positions, List.zipIdx_append]

/-- A position belongs to an item that carries the identity. -/
theorem positions_carries {items : List α} {id : StrongId tag} {position : Nat}
    (found : (positions identity items).find? id = some position) :
    ∃ item, items[position]? = some item ∧ identity item = id := by
  induction items using List.reverseRecOn with
  | nil => cases found
  | append_singleton items item ih =>
      rw [positions_concat, OrderedMap.find?_assign] at found
      split at found
      · rename_i same
        obtain rfl := Option.some.inj found
        exact ⟨item, by simp, same.symm⟩
      · obtain ⟨earlier, held, carried⟩ := ih found
        refine ⟨earlier, ?_, carried⟩
        rw [List.getElem?_append_left (List.getElem?_eq_some_iff.mp held).1]
        exact held

/-- An identity has no position exactly when no item carries it. -/
theorem positions_eq_none_iff (items : List α) (id : StrongId tag) :
    (positions identity items).find? id = none ↔ ∀ item ∈ items, identity item ≠ id := by
  induction items using List.reverseRecOn with
  | nil => simp [positions]
  | append_singleton items item ih =>
      rw [positions_concat, OrderedMap.find?_assign]
      by_cases same : id = identity item
      · simp [same]
      · simp [same, ih, Ne.symm same, or_imp, forall_and]

/-- Erasing the position that was just assigned to a free identity. -/
theorem erased_positions {index : OrderedMap ExperimentId (OrderedMap (StrongId tag) Nat)}
    {experiment : ExperimentId} {id : StrongId tag}
    (free : ((index.find? experiment).getD .empty).find? id = none) (position : Nat)
    (other : ExperimentId) :
    let added := index.assign experiment
      (((index.find? experiment).getD .empty).assign id position)
    (((added.assign experiment (((added.find? experiment).getD .empty).erase id)).find?
      other).getD .empty) = (index.find? other).getD .empty := by
  dsimp only
  rw [OrderedMap.find?_assign]
  split
  · rename_i same
    rw [same, OrderedMap.find?_assign_self]
    exact OrderedMap.erase_assign _ _ _ free
  · rename_i apart
    rw [OrderedMap.find?_assign, if_neg apart]

end Positions

end Coordinator

/-! ## Coherence -/

/-- The observations stored for an experiment. -/
def CoordinatorState.storedObservations (state : CoordinatorState R) (experiment : ExperimentId) :
    List (Observation R) :=
  ((state.experiments.find? experiment).map ExperimentRecord.observations).getD []

/-- The artifacts stored for an experiment. -/
def CoordinatorState.storedArtifacts (state : CoordinatorState R) (experiment : ExperimentId) :
    List ArtifactRecord :=
  ((state.experiments.find? experiment).map ExperimentRecord.artifacts).getD []

namespace Coordinator

/-- Both indexes give the positions of the stored evidence. -/
structure Indexed (c : Coordinator R) : Prop where
  observations : ∀ experiment, c.observationsOf experiment =
    positions Observation.id (c.state.storedObservations experiment)
  artifacts : ∀ experiment, c.artifactsOf experiment =
    positions ArtifactRecord.id (c.state.storedArtifacts experiment)

/-- Recomputed indexes are coherent. -/
theorem rebuildIndexes_indexed (c : Coordinator R) : c.rebuildIndexes.Indexed := by
  constructor
  · intro experiment
    simp only [observationsOf, rebuildIndexes, OrderedMap.find?_mapValues,
      CoordinatorState.storedObservations]
    cases c.state.experiments.find? experiment <;> rfl
  · intro experiment
    simp only [artifactsOf, rebuildIndexes, OrderedMap.find?_mapValues,
      CoordinatorState.storedArtifacts]
    cases c.state.experiments.find? experiment <;> rfl

/-- The two coordinators hold the same evidence under the same indexes. -/
structure SameEvidence (c c' : Coordinator R) : Prop where
  observations : ∀ experiment,
    c'.state.storedObservations experiment = c.state.storedObservations experiment
  artifacts : ∀ experiment,
    c'.state.storedArtifacts experiment = c.state.storedArtifacts experiment
  observationsOf : ∀ experiment, c'.observationsOf experiment = c.observationsOf experiment
  artifactsOf : ∀ experiment, c'.artifactsOf experiment = c.artifactsOf experiment

theorem SameEvidence.trans {first second third : Coordinator R}
    (earlier : SameEvidence first second) (later : SameEvidence second third) :
    SameEvidence first third :=
  ⟨fun experiment => (later.observations experiment).trans (earlier.observations experiment),
    fun experiment => (later.artifacts experiment).trans (earlier.artifacts experiment),
    fun experiment => (later.observationsOf experiment).trans (earlier.observationsOf experiment),
    fun experiment => (later.artifactsOf experiment).trans (earlier.artifactsOf experiment)⟩

theorem Indexed.kept {c c' : Coordinator R} (indexed : c.Indexed) (same : SameEvidence c c') :
    c'.Indexed := by
  constructor
  · intro experiment
    rw [same.observationsOf, same.observations, indexed.observations]
  · intro experiment
    rw [same.artifactsOf, same.artifacts, indexed.artifacts]

/-- Nothing but the experiments matters for the stored evidence. -/
theorem SameEvidence.of_experiments {c c' : Coordinator R}
    (experiments : c'.state.experiments = c.state.experiments)
    (observationsOf : ∀ experiment, c'.observationsOf experiment = c.observationsOf experiment)
    (artifactsOf : ∀ experiment, c'.artifactsOf experiment = c.artifactsOf experiment) :
    SameEvidence c c' := by
  refine ⟨fun experiment => ?_, fun experiment => ?_, observationsOf, artifactsOf⟩
  · rw [CoordinatorState.storedObservations, experiments]
    rfl
  · rw [CoordinatorState.storedArtifacts, experiments]
    rfl

theorem SameEvidence.refl (c : Coordinator R) : SameEvidence c c :=
  .of_experiments rfl (fun _ => rfl) fun _ => rfl

/-- One record is replaced by one that holds the same evidence. -/
theorem SameEvidence.assign {c c' : Coordinator R} {experiment : ExperimentId}
    {record after : ExperimentRecord R} (found : c.findExperiment experiment = some record)
    (stored : c'.state.experiments = c.state.experiments.assign experiment after)
    (observations : after.observations = record.observations)
    (artifacts : after.artifacts = record.artifacts)
    (observationsOf : ∀ experiment, c'.observationsOf experiment = c.observationsOf experiment)
    (artifactsOf : ∀ experiment, c'.artifactsOf experiment = c.artifactsOf experiment) :
    SameEvidence c c' := by
  rw [findExperiment] at found
  refine ⟨fun other => ?_, fun other => ?_, observationsOf, artifactsOf⟩
  · rw [CoordinatorState.storedObservations, stored, OrderedMap.find?_assign]
    by_cases same : other = experiment
    · simp [CoordinatorState.storedObservations, same, found, observations]
    · simp [CoordinatorState.storedObservations, same]
  · rw [CoordinatorState.storedArtifacts, stored, OrderedMap.find?_assign]
    by_cases same : other = experiment
    · simp [CoordinatorState.storedArtifacts, same, found, artifacts]
    · simp [CoordinatorState.storedArtifacts, same]

/-- A record without evidence is added. -/
theorem SameEvidence.added {c c' : Coordinator R} {experiment : ExperimentId}
    {record : ExperimentRecord R} (absent : c.findExperiment experiment = none)
    (stored : c'.state.experiments = c.state.experiments.assign experiment record)
    (observations : record.observations = []) (artifacts : record.artifacts = [])
    (observationsOf : ∀ experiment, c'.observationsOf experiment = c.observationsOf experiment)
    (artifactsOf : ∀ experiment, c'.artifactsOf experiment = c.artifactsOf experiment) :
    SameEvidence c c' := by
  rw [findExperiment] at absent
  refine ⟨fun other => ?_, fun other => ?_, observationsOf, artifactsOf⟩
  · rw [CoordinatorState.storedObservations, stored, OrderedMap.find?_assign]
    by_cases same : other = experiment
    · simp [CoordinatorState.storedObservations, same, absent, observations]
    · simp [CoordinatorState.storedObservations, same]
  · rw [CoordinatorState.storedArtifacts, stored, OrderedMap.find?_assign]
    by_cases same : other = experiment
    · simp [CoordinatorState.storedArtifacts, same, absent, artifacts]
    · simp [CoordinatorState.storedArtifacts, same]

/-- Every record is replaced by one that holds the same evidence. -/
theorem SameEvidence.each {c c' : Coordinator R}
    (stored : ∀ experiment, ∃ change : ExperimentRecord R → ExperimentRecord R,
      c'.state.experiments.find? experiment = (c.state.experiments.find? experiment).map change ∧
        ∀ record, (change record).observations = record.observations ∧
          (change record).artifacts = record.artifacts)
    (observationsOf : ∀ experiment, c'.observationsOf experiment = c.observationsOf experiment)
    (artifactsOf : ∀ experiment, c'.artifactsOf experiment = c.artifactsOf experiment) :
    SameEvidence c c' := by
  refine ⟨fun experiment => ?_, fun experiment => ?_, observationsOf, artifactsOf⟩
  · obtain ⟨change, found, kept⟩ := stored experiment
    rw [CoordinatorState.storedObservations, CoordinatorState.storedObservations, found]
    cases c.state.experiments.find? experiment with
    | none => rfl
    | some record => exact (kept record).1
  · obtain ⟨change, found, kept⟩ := stored experiment
    rw [CoordinatorState.storedArtifacts, CoordinatorState.storedArtifacts, found]
    cases c.state.experiments.find? experiment with
    | none => rfl
    | some record => exact (kept record).2

/-- An observation is appended and indexed. -/
theorem Indexed.pushObservation {c c' : Coordinator R} (indexed : c.Indexed)
    {experiment : ExperimentId} {record after : ExperimentRecord R} (observation : Observation R)
    (found : c.findExperiment experiment = some record)
    (stored : c'.state.experiments = c.state.experiments.assign experiment after)
    (observations : after.observations = record.observations ++ [observation])
    (artifacts : after.artifacts = record.artifacts)
    (index : c'.observationIndex = c.observationIndex.assign experiment
      ((c.observationsOf experiment).assign observation.id record.observations.length))
    (artifactIndex : c'.artifactIndex = c.artifactIndex) : c'.Indexed := by
  rw [findExperiment] at found
  constructor
  · intro other
    rw [observationsOf, index, CoordinatorState.storedObservations, stored,
      OrderedMap.find?_assign, OrderedMap.find?_assign]
    by_cases same : other = experiment
    · have before := indexed.observations experiment
      rw [CoordinatorState.storedObservations, found] at before
      rw [if_pos same, if_pos same, Option.map_some, observations]
      simp only [Option.getD_some, positions_concat]
      rw [before]
      rfl
    · rw [if_neg same, if_neg same]
      exact indexed.observations other
  · intro other
    rw [Coordinator.artifactsOf, artifactIndex, CoordinatorState.storedArtifacts, stored,
      OrderedMap.find?_assign]
    refine (indexed.artifacts other).trans ?_
    by_cases same : other = experiment
    · rw [if_pos same, same, CoordinatorState.storedArtifacts, found, Option.map_some,
        Option.map_some, artifacts]
    · rw [if_neg same]
      rfl

/-- An artifact is appended and indexed. -/
theorem Indexed.pushArtifact {c c' : Coordinator R} (indexed : c.Indexed)
    {experiment : ExperimentId} {record after : ExperimentRecord R} (artifact : ArtifactRecord)
    (found : c.findExperiment experiment = some record)
    (stored : c'.state.experiments = c.state.experiments.assign experiment after)
    (artifacts : after.artifacts = record.artifacts ++ [artifact])
    (observations : after.observations = record.observations)
    (index : c'.artifactIndex = c.artifactIndex.assign experiment
      ((c.artifactsOf experiment).assign artifact.id record.artifacts.length))
    (observationIndex : c'.observationIndex = c.observationIndex) : c'.Indexed := by
  rw [findExperiment] at found
  constructor
  · intro other
    rw [Coordinator.observationsOf, observationIndex, CoordinatorState.storedObservations, stored,
      OrderedMap.find?_assign]
    refine (indexed.observations other).trans ?_
    by_cases same : other = experiment
    · rw [if_pos same, same, CoordinatorState.storedObservations, found, Option.map_some,
        Option.map_some, observations]
    · rw [if_neg same]
      rfl
  · intro other
    rw [artifactsOf, index, CoordinatorState.storedArtifacts, stored,
      OrderedMap.find?_assign, OrderedMap.find?_assign]
    by_cases same : other = experiment
    · have before := indexed.artifacts experiment
      rw [CoordinatorState.storedArtifacts, found] at before
      rw [if_pos same, if_pos same, Option.map_some, artifacts]
      simp only [Option.getD_some, positions_concat]
      rw [before]
      rfl
    · rw [if_neg same, if_neg same]
      exact indexed.artifacts other

/-! ## Loops -/

theorem loseWorker_evidence (worker : WorkerId) (boot : WorkerBootId) (kind : FailureKind)
    (attemptDetail trialDetail : Text) (sequence : Nat) (line : Text)
    (record : ExperimentRecord R) :
    (record.loseWorker worker boot kind attemptDetail trialDetail sequence line).observations =
        record.observations ∧
      (record.loseWorker worker boot kind attemptDetail trialDetail sequence line).artifacts =
        record.artifacts := by
  obtain ⟨trials, attempts, lines, same⟩ :=
    loseWorker_frame worker boot kind attemptDetail trialDetail sequence line record
  rw [same]
  exact ⟨rfl, rfl⟩

theorem replaceIncarnations_sameEvidence (sequence : Nat) (replaced : List LiveWorker)
    (c : Coordinator R) : SameEvidence c (replaced.foldl (replaceIncarnation sequence) c) := by
  induction replaced generalizing c with
  | nil => exact .refl c
  | cons live rest ih =>
      have first : SameEvidence c (replaceIncarnation sequence c live) :=
        .each (fun experiment => ⟨_, OrderedMap.find?_mapValues .., fun record =>
          loseWorker_evidence ..⟩)
          (fun _ => rfl) fun _ => rfl
      exact first.trans (ih _)

theorem claimTrial_sameEvidence (request : ClaimTrialRequest) (producer : ProducerId)
    (experiment : ExperimentId) (progress : ClaimProgress R) (key : TrialId) :
    SameEvidence progress.coordinator
      (claimTrial request producer experiment progress key).coordinator := by
  unfold claimTrial
  split
  · exact .refl _
  · split
    · exact .refl _
    · rename_i record found
      split
      · exact .refl _
      · split
        · exact .refl _
        · exact .assign found rfl rfl rfl (fun _ => rfl) fun _ => rfl

theorem replacing_sameEvidence (c : Coordinator R) (request : RegisterWorkerRequest) :
    SameEvidence c (c.replacing request) := by
  have counted : SameEvidence c c.nextSequence := .of_experiments rfl (fun _ => rfl) fun _ => rfl
  exact counted.trans (replaceIncarnations_sameEvidence _ _ _)

theorem claiming_sameEvidence (c : Coordinator R) (request : ClaimTrialRequest)
    (live : LiveWorker) : SameEvidence c (c.claiming request live) := by
  let property (reached : ClaimProgress R) : Prop := SameEvidence c reached.coordinator
  have looped : property (c.claimLoop request live) := by
    refine claimLoop_keeps c live ?_ fun _ => .refl c
    exact fun reached experiment key same =>
      same.trans (claimTrial_sameEvidence request live.producer experiment reached key)
  have counted : SameEvidence (c.claimLoop request live).coordinator (c.claiming request live) :=
    .of_experiments rfl (fun _ => rfl) fun _ => rfl
  exact SameEvidence.trans looped counted

/-- The state of a coordinator stores each experiment under its own identity. -/
def Named (c : Coordinator R) : Prop :=
  ∀ experiment record, c.findExperiment experiment = some record →
    record.definition.id = experiment

theorem storeArtifact_named {c : Coordinator R} (named : c.Named) {experiment : ExperimentId}
    {record : ExperimentRecord R} (found : c.findExperiment experiment = some record)
    (trialKey : TrialId) (artifact : ArtifactRecord) :
    (c.nextSequence.storeArtifact experiment record trialKey artifact).Named := by
  intro other later lookup
  simp only [storeArtifact, indexArtifacts, withRecord, withExperiments, findExperiment,
    OrderedMap.find?_assign] at lookup
  split at lookup
  · rename_i same
    obtain rfl := Option.some.inj lookup
    exact (named experiment record found).trans same.symm
  · exact named other later lookup

/-- Registering artifacts keeps the indexes coherent, wherever it stops. -/
theorem registerArtifacts_indexed (envelope : AuthorityEnvelope) (artifacts : List ArtifactRecord)
    (c : Coordinator R) (indexed : c.Indexed) (named : c.Named) :
    (registerArtifacts envelope c artifacts).1.Indexed ∧
      (registerArtifacts envelope c artifacts).1.Named := by
  let property (reached : Coordinator R) : Prop := reached.Indexed ∧ reached.Named
  have kept : property (registerArtifacts envelope c artifacts).1 := by
    refine registerArtifacts_keeps envelope ?_ ?_ artifacts ⟨indexed, named⟩
    · rintro c ⟨indexed, named⟩
      have counted : SameEvidence c c.nextSequence :=
        .of_experiments rfl (fun _ => rfl) fun _ => rfl
      exact ⟨indexed.kept counted, named⟩
    · rintro c record trial submitted ⟨indexed, named⟩ found - - -
      refine ⟨indexed.pushArtifact _ found rfl rfl rfl ?_ rfl,
        storeArtifact_named named found envelope.trial _⟩
      simp only [storeArtifact, indexArtifacts, named _ record found]
      rfl
  exact kept

/-- What registering artifacts does to the indexes when every artifact is accepted: their
identities were free, and no other identity changes its position. -/
structure PositionsAdded (experiment : ExperimentId) (ids : List ArtifactId)
    (c c' : Coordinator R) : Prop where
  observations : c'.observationIndex = c.observationIndex
  elsewhere : ∀ other, other ≠ experiment → c'.artifactsOf other = c.artifactsOf other
  fresh : ∀ id ∈ ids, (c.artifactsOf experiment).find? id = none
  others : ∀ id, id ∉ ids → (c'.artifactsOf experiment).find? id =
    (c.artifactsOf experiment).find? id

theorem registerArtifacts_positions (envelope : AuthorityEnvelope)
    (artifacts : List ArtifactRecord) (c : Coordinator R) (named : c.Named)
    {record : ExperimentRecord R} {trial : TrialRecord}
    (found : c.findExperiment envelope.experiment = some record)
    (held : record.trials.find? envelope.trial = some trial)
    (accepted : (registerArtifacts envelope c artifacts).2 = .ok ()) :
    PositionsAdded envelope.experiment (artifacts.map ArtifactRecord.id) c
      (registerArtifacts envelope c artifacts).1 := by
  induction artifacts generalizing c record trial with
  | nil =>
      exact {
        observations := rfl
        elsewhere := fun _ _ => rfl
        fresh := fun _ member => (List.not_mem_nil member).elim
        others := fun _ _ => rfl }
  | cons submitted rest ih =>
      obtain ⟨free, next⟩ := registerArtifacts_accepted found held accepted
      rw [next] at accepted ⊢
      have identity := named _ record found
      rw [identity] at free
      let artifact := submittedArtifact record trial envelope.attempt submitted
        (c.currentSequence + 1)
      let stored := c.nextSequence.storeArtifact envelope.experiment record envelope.trial artifact
      have here : stored.artifactsOf envelope.experiment =
          (c.artifactsOf envelope.experiment).assign submitted.id record.artifacts.length := by
        simp only [stored, storeArtifact, artifactsOf, indexArtifacts, identity,
          OrderedMap.find?_assign, if_true, Option.getD_some]
        rfl
      have elsewhere : ∀ other, other ≠ envelope.experiment →
          stored.artifactsOf other = c.artifactsOf other := by
        intro other apart
        simp only [stored, storeArtifact, artifactsOf, indexArtifacts, identity,
          OrderedMap.find?_assign, if_neg apart]
        rfl
      have foundNext : stored.findExperiment envelope.experiment =
          some (record.pushArtifact envelope.trial artifact) := by
        simp [stored, storeArtifact]
      have heldNext : (record.pushArtifact envelope.trial artifact).trials.find? envelope.trial =
          some (trial.hold artifact.id) := by
        simp [ExperimentRecord.pushArtifact, held]
      have later := ih stored (storeArtifact_named named found envelope.trial artifact) foundNext
        heldNext accepted
      refine ⟨later.observations,
        fun other apart => (later.elsewhere other apart).trans (elsewhere other apart), ?_, ?_⟩
      · intro id member
        rcases List.mem_cons.mp member with same | member
        · exact same ▸ free
        · have none := later.fresh id member
          rw [here, OrderedMap.find?_assign] at none
          split at none
          · cases none
          · exact none
      · intro id absent
        rw [List.map_cons, List.mem_cons, not_or] at absent
        rw [later.others id absent.2, here, OrderedMap.find?_assign, if_neg absent.1]

/-- Erasing identities one after another. -/
theorem find?_foldl_erase (ids : List ArtifactId) (map : OrderedMap ArtifactId Nat)
    (id : ArtifactId) :
    (ids.foldl OrderedMap.erase map).find? id = if id ∈ ids then none else map.find? id := by
  induction ids generalizing map with
  | nil => simp
  | cons first rest ih =>
      rw [List.foldl_cons, ih, OrderedMap.find?_erase]
      by_cases same : id = first
      · simp [same]
      · simp [same]

/-- Registering artifacts and withdrawing all of them again leaves the evidence as it was. -/
theorem withdrawArtifacts_sameEvidence [MetricReal R] [CanonicalDigests R]
    (envelope : AuthorityEnvelope)
    (artifacts : List ArtifactRecord) {c : Coordinator R} (named : c.Named)
    {record : ExperimentRecord R} {trial : TrialRecord}
    (found : c.findExperiment envelope.experiment = some record)
    (held : record.trials.find? envelope.trial = some trial)
    (accepted : (registerArtifacts envelope c artifacts).2 = .ok ()) :
    SameEvidence c (withdrawArtifacts envelope (artifacts.map ArtifactRecord.id)
      (registerArtifacts envelope c artifacts).1) := by
  have added := registerArtifacts_positions envelope artifacts c named found held accepted
  obtain ⟨after, registered⟩ := registerArtifacts_added envelope artifacts c record found
  have lookup : (registerArtifacts envelope c artifacts).1.findExperiment envelope.experiment =
      some after := by
    rw [findExperiment, registered.stored, OrderedMap.find?_assign_self]
  have identity : after.definition.id = envelope.experiment := by
    rw [registered.definition]
    exact named _ record found
  refine .of_experiments (withdrawArtifacts_experiments envelope artifacts found held accepted)
    (fun other => ?_) fun other => ?_
  · simp only [withdrawArtifacts, lookup, observationsOf, indexArtifacts, withRecord,
      withExperiments, added.observations]
  · simp only [withdrawArtifacts, lookup, indexArtifacts, identity]
    by_cases same : other = envelope.experiment
    · refine OrderedMap.ext fun id => ?_
      simp only [artifactsOf, same, OrderedMap.find?_assign, if_true, Option.getD_some]
      rw [find?_foldl_erase]
      split
      · rename_i member
        exact (added.fresh id member).symm
      · rename_i absent
        exact added.others id absent
    · simp only [artifactsOf, OrderedMap.find?_assign, if_neg same]
      exact added.elsewhere other same

/-! ## Requests -/

/-- Evidence that is left alone stays indexed, whether or not saving succeeds. -/
theorem Indexed.saved {c prepared : Coordinator R} (indexed : c.Indexed)
    (same : SameEvidence c prepared) :
    prepared.Indexed ∧ (id { prepared with persistenceDegraded := true }).Indexed := by
  have degraded : SameEvidence prepared { prepared with persistenceDegraded := true } :=
    .of_experiments rfl (fun _ => rfl) fun _ => rfl
  exact ⟨indexed.kept same, (indexed.kept same).kept degraded⟩

theorem reject_evidence (record : ExperimentRecord R) (kind : Text) (identifier : Nat)
    (verdict : Status) :
    (record.reject kind identifier verdict).observations = record.observations ∧
      (record.reject kind identifier verdict).artifacts = record.artifacts := by
  unfold ExperimentRecord.reject
  split <;> exact ⟨rfl, rfl⟩

/-- A refused observation is indexed if it is retained. -/
theorem Indexed.rejectObservation {c : Coordinator R} (indexed : c.Indexed) (named : c.Named)
    {record : ExperimentRecord R} {observation : Observation R}
    (found : c.findExperiment observation.experiment = some record) (verdict : Status) :
    (c.rejectObservation record observation verdict).Indexed := by
  obtain ⟨observations, artifacts⟩ :=
    reject_evidence record (text "observation") observation.id.value verdict
  have identity : (record.reject (text "observation") observation.id.value
      verdict).definition.id = observation.experiment := by
    rw [(reject_fields record _ _ _).2]
    exact named _ record found
  unfold Coordinator.rejectObservation
  dsimp only
  split
  · refine indexed.pushObservation (historical observation verdict (c.currentSequence + 1)) found
      rfl ?_ artifacts ?_ rfl
    · simp only [ExperimentRecord.pushObservation, observations]
      rfl
    · simp only [storeObservation, indexObservations, identity, observations]
      rfl
  · exact indexed.kept (.assign found rfl observations artifacts (fun _ => rfl) fun _ => rfl)

variable [MetricReal R]

omit [MetricReal R] in
theorem observe_evidence (record : ExperimentRecord R) (trial : TrialRecord)
    (attempt : AttemptRecord) (trialKey : TrialId) (attemptKey : TrialAttemptId) (sequence : Nat) :
    (record.observe trial attempt trialKey attemptKey sequence).1.observations =
        record.observations ∧
      (record.observe trial attempt trialKey attemptKey sequence).1.artifacts =
        record.artifacts := by
  obtain ⟨trials, attempts, same⟩ :=
    observe_frame record trial attempt trialKey attemptKey sequence
  rw [same]
  exact ⟨rfl, rfl⟩

/-- An accepted observation is indexed, and no longer when it could not be saved. -/
theorem Indexed.publishObservation {c : Coordinator R} (indexed : c.Indexed) (named : c.Named)
    {request : PublishObservationRequest R} {record : ExperimentRecord R} {check : EnvelopeCheck R}
    {admitted : Observation R}
    (accepted : c.checkEnvelope (observationEnvelope request record) = .ok check)
    (admission : c.admitObservation check.record request.observation = .ok (some admitted)) :
    (c.observing check request.observation admitted).Indexed ∧
      (undoObservation request.observation.experiment request.observation.id
        ((check.record.pushObservation
          { admitted with sequence := c.currentSequence + 1 }).observe check.trial check.attempt
            request.observation.trial request.observation.attempt (c.currentSequence + 1)).1
        { c.observing check request.observation admitted with
          persistenceDegraded := true }).Indexed := by
  have found : c.findExperiment request.observation.experiment = some check.record :=
    ((c.checkEnvelope_eq_ok _ _).mp accepted).2.2.2.1
  have identity := named _ _ found
  obtain ⟨rfl, allowed⟩ := admitObservation_ok admission
  have free := allowed.free
  rw [identity] at free
  let stored : Observation R := { request.observation with sequence := c.currentSequence + 1 }
  have observed := observe_evidence (check.record.pushObservation stored) check.trial check.attempt
    request.observation.trial request.observation.attempt (c.currentSequence + 1)
  have definition := (observe_fields (check.record.pushObservation stored) check.trial
    check.attempt request.observation.trial request.observation.attempt (c.currentSequence + 1)).2
  constructor
  · refine indexed.pushObservation stored found rfl observed.1 observed.2 ?_ rfl
    simp only [observing, indexObservations, identity]
    rfl
  · refine indexed.kept (.assign found (OrderedMap.assign_assign ..) ?_ observed.2 ?_
      fun _ => rfl)
    · dsimp only
      rw [observed.1]
      exact List.dropLast_concat
    · intro other
      simp only [undoObservation, observing, observationsOf, indexObservations, identity]
      rw [definition, ExperimentRecord.pushObservation, identity]
      exact erased_positions free _ other

omit [MetricReal R] in
/-- An accepted artifact is indexed, and no longer when it could not be saved. -/
theorem Indexed.publishArtifact {c : Coordinator R} (indexed : c.Indexed) (named : c.Named)
    {request : PublishArtifactRequest} {record : ExperimentRecord R} {envelope : AuthorityEnvelope}
    {check : EnvelopeCheck R} (built : artifactEnvelope request record = .ok envelope)
    (accepted : c.checkEnvelope envelope = .ok check)
    (admission : c.admitArtifact check.record check.trial request.artifact = .ok true) :
    (c.holding check request.artifact).Indexed ∧
      (undoArtifact request.artifact.experiment request.artifact.trial request.artifact.id
        (c.heldArtifact check request.artifact)
        { c.holding check request.artifact with persistenceDegraded := true }).Indexed := by
  have found : c.findExperiment request.artifact.experiment = some check.record := by
    rw [← artifactEnvelope_experiment built]
    exact ((c.checkEnvelope_eq_ok _ _).mp accepted).2.2.2.1
  have identity := named _ _ found
  have free := (admitArtifact_ok admission).free
  rw [identity] at free
  let stored : ArtifactRecord :=
    { request.artifact with sequence := c.currentSequence + 1, current := true }
  constructor
  · refine indexed.pushArtifact stored found rfl rfl rfl ?_ rfl
    simp only [holding, indexArtifacts, identity]
    rfl
  · refine indexed.kept (.assign found (OrderedMap.assign_assign ..) rfl ?_ (fun _ => rfl) ?_)
    · exact List.dropLast_concat
    · intro other
      simp only [undoArtifact, holding, artifactsOf, indexArtifacts, identity]
      rw [show (c.heldArtifact check request.artifact).definition = check.record.definition from
        rfl, identity]
      exact erased_positions free _ other

variable [CanonicalDigests R]

/-- What a request hands to `persistLocked` is indexed, and so is what it undoes. -/
theorem saving_indexed {c prepared : Coordinator R} {request : Request R}
    {undo : Coordinator R → Coordinator R} {answer : Check Status → Reply R}
    (saves : Saving c request prepared undo answer) (indexed : c.Indexed) (named : c.Named) :
    prepared.Indexed ∧ (undo { prepared with persistenceDegraded := true }).Indexed := by
  cases saves with
  | @create spec expected branch branches record accepted admitting room absent metrics known
      defined built valid =>
      have empty : record.observations = [] ∧ record.artifacts = [] := by
        rw [built]
        exact ⟨rfl, rfl⟩
      exact ⟨indexed.kept (.added absent rfl empty.1 empty.2 (fun _ => rfl) fun _ => rfl),
        indexed.kept (.of_experiments (OrderedMap.erase_assign _ _ _ absent) (fun _ => rfl)
          fun _ => rfl)⟩
  | revise guarded =>
      exact indexed.saved (.assign (reviseHypothesisGuard_ok guarded).found rfl rfl rfl
        (fun _ => rfl) fun _ => rfl)
  | fork guarded built valid =>
      subst built
      have found := (forkBranchGuard_ok guarded).found
      exact ⟨indexed.kept (.assign found rfl rfl rfl (fun _ => rfl) fun _ => rfl),
        indexed.kept (.assign found (OrderedMap.assign_assign ..) rfl rfl (fun _ => rfl)
          fun _ => rfl)⟩
  | retire guarded =>
      exact indexed.saved (.assign (retireBranchGuard_ok guarded).found rfl rfl rfl
        (fun _ => rfl) fun _ => rfl)
  | addTrial guarded built valid =>
      subst built
      have found := (createTrialGuard_ok guarded).found
      exact ⟨indexed.kept (.assign found rfl rfl rfl (fun _ => rfl) fun _ => rfl),
        indexed.kept (.assign found (OrderedMap.assign_assign ..) rfl rfl (fun _ => rfl)
          fun _ => rfl)⟩
  | @register registration guarded unknown fresh =>
      have added : SameEvidence (c.replacing registration)
          ((c.replacing registration).addWorker registration) :=
        .of_experiments rfl (fun _ => rfl) fun _ => rfl
      exact indexed.saved ((replacing_sameEvidence c registration).trans added)
  | revoke known =>
      exact indexed.saved (.each (fun experiment =>
        ⟨_, OrderedMap.find?_mapValues .., fun record => loseWorker_evidence ..⟩)
        (fun _ => rfl) fun _ => rfl)
  | @claim request live guarded issued => exact indexed.saved (claiming_sameEvidence c request live)
  | @refuseObservation request record verdict found refused =>
      have rejected := indexed.rejectObservation named found verdict
      exact ⟨rejected, rejected.kept (.of_experiments rfl (fun _ => rfl) fun _ => rfl)⟩
  | publishObservation found accepted admission =>
      exact indexed.publishObservation named accepted admission
  | refuseArtifact found built refused =>
      exact indexed.saved (.assign found rfl (reject_evidence ..).1 (reject_evidence ..).2
        (fun _ => rfl) fun _ => rfl)
  | publishArtifact found built accepted admission =>
      exact indexed.publishArtifact named built accepted admission
  | @commit request check registered record guarded evidence accepted allowed found =>
      have counted : SameEvidence c c.nextSequence :=
        .of_experiments rfl (fun _ => rfl) fun _ => rfl
      have loop := (registerArtifacts_indexed request.envelope request.artifacts c.nextSequence
        (indexed.kept counted) named).1
      rw [accepted] at loop
      exact loop.saved (.assign found rfl rfl rfl (fun _ => rfl) fun _ => rfl)
  | fail guarded =>
      have found := ((c.checkEnvelope_eq_ok _ _).mp (failTrialGuard_ok guarded).1).2.2.2.1
      exact indexed.saved (.assign found rfl (fail_evidence ..).1 (fail_evidence ..).2
        (fun _ => rfl) fun _ => rfl)
  | cancelTrial owner isOpen =>
      exact indexed.saved (.assign (c.ownerOf_eq_some owner).1 rfl rfl rfl (fun _ => rfl)
        fun _ => rfl)
  | cancel found allowed =>
      exact indexed.saved (.assign found rfl rfl rfl (fun _ => rfl) fun _ => rfl)
  | @finalize experiment candidate reason record decision guarded decided =>
      have found := (finalizeGuard_ok guarded).found
      unfold deciding
      split <;> exact indexed.saved (.assign found rfl rfl rfl (fun _ => rfl) fun _ => rfl)
  | rollback guarded built valid =>
      subst built
      exact indexed.saved (.assign (rollbackGuard_ok guarded).found rfl rfl rfl (fun _ => rfl)
        fun _ => rfl)
  | save => exact indexed.saved (.refl c)
  | stopServer active =>
      exact indexed.saved (.of_experiments rfl (fun _ => rfl) fun _ => rfl)

omit [MetricReal R] [CanonicalDigests R] in
theorem persistLocked_sameEvidence (c : Coordinator R) (fault : Option SaveFault) :
    SameEvidence c (c.persistLocked fault).1 := by
  refine .of_experiments (by rw [persistLocked_state]) (fun experiment => ?_) fun experiment => ?_
  · rw [observationsOf, persistLocked_observationIndex]
    rfl
  · rw [artifactsOf, persistLocked_artifactIndex]
    rfl

/-- Every request keeps the indexes coherent, however it ends. -/
theorem ending_indexed {c : Coordinator R} {fault : Option SaveFault} {request : Request R}
    {result : Coordinator R × Reply R} (ending : Ending c fault request result)
    (indexed : c.Indexed) (named : c.Named) : result.1.Indexed := by
  cases ending with
  | @saving _ prepared undo answer saves =>
      have kept := saving_indexed saves indexed named
      rcases prepared.endWith_cases fault undo answer with ⟨-, same⟩ | ⟨-, failure, same⟩
      · rw [same]
        exact kept.1.kept (persistLocked_sameEvidence prepared fault)
      · rw [same]
        exact kept.2
  | counted failed => exact indexed.kept (.of_experiments rfl (fun _ => rfl) fun _ => rfl)
  | forkInvalid guarded built =>
      subst built
      exact indexed.kept (.assign (forkBranchGuard_ok guarded).found
        (OrderedMap.assign_assign ..) rfl rfl (fun _ => rfl) fun _ => rfl)
  | trialInvalid guarded built =>
      subst built
      exact indexed.kept (.assign (createTrialGuard_ok guarded).found
        (OrderedMap.assign_assign ..) rfl rfl (fun _ => rfl) fun _ => rfl)
  | replaced guarded unknown refused => exact indexed.kept (replacing_sameEvidence c _)
  | heartbeat => exact indexed.kept (.of_experiments rfl (fun _ => rfl) fun _ => rfl)
  | idle guarded none => exact indexed.kept (claiming_sameEvidence c _ _)
  | @artifactsKept request check registered failure guarded refused =>
      have counted : SameEvidence c c.nextSequence :=
        .of_experiments rfl (fun _ => rfl) fun _ => rfl
      have loop := (registerArtifacts_indexed request.envelope request.artifacts c.nextSequence
        (indexed.kept counted) named).1
      rwa [refused] at loop
  | @artifactsWithdrawn request check registered failure guarded accepted =>
      obtain ⟨-, -, -, found, admitted⟩ :=
        (c.checkEnvelope_eq_ok _ _).mp (commitTrialGuard_ok guarded)
      have counted : SameEvidence c c.nextSequence :=
        .of_experiments rfl (fun _ => rfl) fun _ => rfl
      have withdrawn := withdrawArtifacts_sameEvidence request.envelope request.artifacts
        (c := c.nextSequence) named found admitted.trialFound (congrArg Prod.snd accepted)
      rw [accepted] at withdrawn
      exact indexed.kept (counted.trans withdrawn)
  | rollbackInvalid guarded built refused =>
      subst built
      exact indexed.kept (.assign (rollbackGuard_ok guarded).found rfl rfl rfl (fun _ => rfl)
        fun _ => rfl)
  | requestShutdown => exact indexed.kept (.of_experiments rfl (fun _ => rfl) fun _ => rfl)
  | startServer => exact indexed.kept (.of_experiments rfl (fun _ => rfl) fun _ => rfl)
  | _ => exact indexed

/-! ## Startup -/

omit [CanonicalDigests R] [MetricReal R] in
theorem stage_evidence (record : ExperimentRecord R) (sequence : Nat) :
    (record.stage sequence).2.observations = record.observations ∧
      (record.stage sequence).2.artifacts = record.artifacts := by
  have reopened : record.reopened.observations = record.observations ∧
      record.reopened.artifacts = record.artifacts := by
    unfold ExperimentRecord.reopened
    split <;> exact ⟨rfl, rfl⟩
  have observations := congrArg ExperimentRecord.observations (stage_forget_fields record sequence)
  have artifacts := congrArg ExperimentRecord.artifacts (stage_forget_fields record sequence)
  exact ⟨observations.trans reopened.1, artifacts.trans reopened.2⟩

omit [CanonicalDigests R] [MetricReal R] in
theorem stageExperiment_sameEvidence (c : Coordinator R) {id : ExperimentId}
    {record : ExperimentRecord R} (found : c.findExperiment id = some record) :
    SameEvidence c (c.stageExperiment id record) := by
  obtain ⟨observations, artifacts⟩ := stage_evidence record c.currentSequence
  exact .assign found rfl observations artifacts (fun _ => rfl) fun _ => rfl

omit [CanonicalDigests R] [MetricReal R] in
theorem stageAll_sameEvidence (outcomes : WriteOutcomes) (experiments : List ExperimentId)
    (writes : Nat) (c : Coordinator R) :
    SameEvidence c (stageAll outcomes writes c experiments).1 := by
  induction experiments generalizing writes c with
  | nil => exact .refl c
  | cons id rest ih =>
      unfold stageAll
      split
      · exact ih writes c
      · rename_i record found
        have staged := c.stageExperiment_sameEvidence found
        split
        · have saved := staged.trans
            (persistLocked_sameEvidence (c.stageExperiment id record) (outcomes writes))
          split
          · rename_i ended
            rwa [ended] at saved
          · rename_i ended
            rw [ended] at saved
            exact saved.trans (ih _ _)
        · exact staged.trans (ih _ _)

omit [CanonicalDigests R] [MetricReal R] in
theorem resolveAll_sameEvidence (c : Coordinator R) : SameEvidence c c.resolveAll := by
  refine .each (fun id => ?_) (fun _ => rfl) fun _ => rfl
  obtain ⟨reached, resolved⟩ := c.resolveAll_lookup id
  refine ⟨_, resolved, fun record => ?_⟩
  have observations := congrArg ExperimentRecord.observations (resolve_fields record reached)
  have artifacts := congrArg ExperimentRecord.artifacts (resolve_fields record reached)
  exact ⟨observations, artifacts⟩

omit [CanonicalDigests R] [MetricReal R] in
theorem reconcile_sameEvidence (c : Coordinator R) (outcomes : WriteOutcomes) :
    SameEvidence c (c.reconcileRecoveredState outcomes).1 := by
  have staged := stageAll_sameEvidence outcomes c.state.experiments.keys 0 c
  unfold reconcileRecoveredState
  split
  · rename_i ended
    rwa [ended] at staged
  · rename_i ended
    rw [ended] at staged
    split
    · exact (staged.trans (resolveAll_sameEvidence _)).trans (persistLocked_sameEvidence _ _)
    · exact staged

omit [CanonicalDigests R] in
/-- A coordinator starts with coherent indexes. -/
theorem create_indexed {config : Config} {image left : Option (CoordinatorState R)}
    {outcomes : WriteOutcomes} {c : Coordinator R}
    (started : Coordinator.create config image outcomes = (left, .ok c)) : c.Indexed := by
  unfold create at started
  split at started
  · cases started
  · split at started
    · cases started
    · rename_i loaded load
      have reconciled := reconcile_sameEvidence (boot config image loaded) outcomes
      split at started
      · cases started
      · rename_i later ended
        cases started
        rw [ended] at reconciled
        exact (rebuildIndexes_indexed _).kept reconciled

end Coordinator

/-! ## Runs -/

section Runs

variable [MetricReal R] [CanonicalDigests R]

/-- The running coordinator, if any, has coherent indexes. -/
def World.Indexed : World R → Prop
  | .running c => c.Indexed
  | .down _ => True

theorem World.Step.indexed {path : Text} {source target : World R} {event : Event R}
    (step : World.Step path source event target) (sound : source.Sound path)
    (indexed : source.Indexed) : target.Indexed := by
  cases step with
  | request c request fault =>
      have named : c.Named := fun experiment record found =>
        (sound.2.2.1.placed experiment record found).identity
      exact Coordinator.ending_indexed (c.perform_ending fault request) indexed named
  | stop c => trivial
  | start samePath started => exact Coordinator.create_indexed started
  | failedStart samePath refused => trivial

theorem World.Reachable.indexed {path : Text} {world : World R}
    (reachable : world.Reachable path) : world.Indexed := by
  let property (world : World R) : Prop := world.Sound path ∧ world.Indexed
  have both : property world := by
    refine reachable.invariant ⟨(World.Reachable.empty path).sound, trivial⟩ ?_
    intro source event target holds step
    exact ⟨step.sound holds.1, step.indexed holds.1 holds.2⟩
  exact both.2

/-- In every reachable state both indexes are the recomputed ones.  An identity has a position
exactly when some stored piece of evidence carries it, and the position is that of one. -/
theorem indexes_coherent {path : Text} {c : Coordinator R}
    (reachable : (World.running c).Reachable path) (experiment : ExperimentId) :
    c.observationsOf experiment = c.rebuildIndexes.observationsOf experiment ∧
      c.artifactsOf experiment = c.rebuildIndexes.artifactsOf experiment ∧
      ∀ record, c.findExperiment experiment = some record →
        (∀ id, (c.observationsOf experiment).find? id = none ↔
          ∀ observation ∈ record.observations, observation.id ≠ id) ∧
        (∀ id position, (c.observationsOf experiment).find? id = some position →
          ∃ observation, record.observations[position]? = some observation ∧
            observation.id = id) ∧
        (∀ id, (c.artifactsOf experiment).find? id = none ↔
          ∀ artifact ∈ record.artifacts, artifact.id ≠ id) ∧
        ∀ id position, (c.artifactsOf experiment).find? id = some position →
          ∃ artifact, record.artifacts[position]? = some artifact ∧ artifact.id = id := by
  have indexed : c.Indexed := reachable.indexed
  have rebuilt := c.rebuildIndexes_indexed
  refine ⟨(indexed.observations experiment).trans (rebuilt.observations experiment).symm,
    (indexed.artifacts experiment).trans (rebuilt.artifacts experiment).symm, ?_⟩
  intro record found
  rw [Coordinator.findExperiment] at found
  have observations : c.observationsOf experiment =
      Coordinator.positions Observation.id record.observations := by
    rw [indexed.observations, CoordinatorState.storedObservations, found]
    rfl
  have artifacts : c.artifactsOf experiment =
      Coordinator.positions ArtifactRecord.id record.artifacts := by
    rw [indexed.artifacts, CoordinatorState.storedArtifacts, found]
    rfl
  rw [observations, artifacts]
  exact ⟨Coordinator.positions_eq_none_iff _ _, fun _ _ => Coordinator.positions_carries _,
    Coordinator.positions_eq_none_iff _ _, fun _ _ => Coordinator.positions_carries _⟩

end Runs

/-- The sample observation is found at its position in the recomputed index. -/
theorem committed_index_rebuilt :
    (World.running Sample.committed).Reachable Sample.config.statePath ∧
      (Sample.committed.observationsOf Sample.experiment).find? Sample.observation.id = some 0 ∧
      Sample.committed.observationsOf Sample.experiment =
        Sample.committed.rebuildIndexes.observationsOf Sample.experiment := by
  refine ⟨Sample.committed_reachable, by decide +kernel, ?_⟩
  exact (indexes_coherent Sample.committed_reachable Sample.experiment).1

end ExperimentFabric
