import ExperimentFabric.Accounts
import ExperimentFabric.Currency
import ExperimentFabric.Fencing

/-!
# Provenance of observations

An observation names its experiment, branch, trial, attempt, producer, worker incarnation and epoch.
The envelope of a publication takes the incarnation and the epoch from the request and everything
else from the observation.  A stored observation agrees with the record of its attempt exactly when
it names the incarnation and the epoch that published it.
-/

namespace ExperimentFabric

open Lib

variable {R : Type}

/-! ## What attempts copy -/

/-- Attempts name their experiment and the generation of their trial. -/
def ExperimentRecord.AttemptsNamed (record : ExperimentRecord R) : Prop :=
  ∀ id attempt, record.attempts.find? id = some attempt →
    attempt.experiment = record.definition.id ∧
      ∃ trial, record.trials.find? attempt.trial = some trial ∧
        attempt.generation = trial.generation

namespace ExperimentRecord.AttemptsNamed

variable {record after : ExperimentRecord R}

theorem step (named : record.AttemptsNamed) (carries : Carries record after)
    (identity : after.definition.id = record.definition.id) : after.AttemptsNamed := by
  intro id attempt' found
  obtain ⟨attempt, before, fixed⟩ := carries.attempts.source found
  obtain ⟨experiment, trial, held, generation⟩ := named id attempt before
  have sameTrial := congrArg AttemptRecord.trial fixed
  have sameExperiment := congrArg AttemptRecord.experiment fixed
  have sameGeneration := congrArg AttemptRecord.generation fixed
  obtain ⟨trial', held', trialFixed⟩ := carries.trials.extends_ _ trial held
  have trialGeneration := congrArg TrialRecord.generation trialFixed
  refine ⟨(sameExperiment.trans experiment).trans identity.symm, trial', ?_,
    (sameGeneration.trans generation).trans trialGeneration.symm⟩
  rw [show attempt'.trial = attempt.trial from sameTrial]
  exact held'

theorem addTrial (named : record.AttemptsNamed) (experiment : ExperimentId)
    (branch : BranchDefinition) (id : TrialId) (payload : Text) (sequence : Nat) :
    (record.addTrial (record.newTrial experiment branch id payload sequence)).AttemptsNamed := by
  intro key attempt found
  obtain ⟨same, trial, held, generation⟩ := named key attempt found
  have extended : OrderedMap.Extends Eq record.trials (record.addTrial
      (record.newTrial experiment branch id payload sequence)).trials := by
    apply OrderedMap.Extends.emplace
    exact fun _ => rfl
  obtain ⟨trial', held', rfl⟩ := extended _ trial held
  exact ⟨same, trial, held', generation⟩

theorem issue {marks : Watermarks} (named : record.AttemptsNamed) (life : Lifecycle marks record)
    {key : TrialId} {trial : TrialRecord} (found : record.trials.find? key = some trial)
    (current : trial.generation = record.definition.generation) (id : TrialAttemptId)
    (worker : WorkerId) (boot : WorkerBootId) (epoch : CoordinatorEpoch) (producer : ProducerId)
    (sequence : Nat) :
    (record.issue key (record.newAttempt trial id worker boot epoch producer sequence)
      sequence).AttemptsNamed := by
  have evolves := issue_trials record key
    (record.newAttempt trial id worker boot epoch producer sequence) sequence
  intro other attempt held
  have source : (∃ before, record.trials.find? attempt.trial = some before ∧
      attempt.generation = before.generation) ∧ attempt.experiment = record.definition.id := by
    rcases ExperimentRecord.find?_issue held with present | ⟨-, rfl⟩
    · obtain ⟨same, rest⟩ := named _ _ present
      exact ⟨rest, same⟩
    · refine ⟨⟨trial, ?_, current.symm⟩, rfl⟩
      rw [show (record.newAttempt trial id worker boot epoch producer sequence).trial = key from
        (life.trial key trial found).id]
      exact found
  obtain ⟨⟨before, lookup, generation⟩, same⟩ := source
  obtain ⟨trial', lookup', fixed⟩ := evolves.extends_ _ before lookup
  have trialGeneration := congrArg TrialRecord.generation fixed
  exact ⟨same, trial', lookup', generation.trans trialGeneration.symm⟩

end ExperimentRecord.AttemptsNamed

section Runs

variable [MetricReal R] [CanonicalDigests R]

/-- Attempts name their experiment and their generation in every reachable state. -/
theorem attemptsNamed_invariant :
    RecordInvariant (fun (_ : World R) _ => True) (@ExperimentRecord.AttemptsNamed R) where
  logged := fun {record} {line} named =>
    named.step (Rewritten.carries (rewritten_log record line)) rfl
  created := by
    rintro spec limits marks expected branches _ sequence accepted branched rfl valid key attempt found
    simp [ExperimentSpec.record] at found
  changed := fun _ effect _ named =>
    named.step (moves_rewritten effect.moves).carries (moves_rewritten effect.moves).identity
  added := fun _ named => named.addTrial _ _ _ _ _
  issued := fun _ found claimable life _ named =>
    named.issue life found (claimable_current claimable).1 _ _ _ _ _ _
  lost := fun {record} _ worker boot kind attemptDetail trialDetail line sequence _ named =>
    have rewritten := loseWorker_rewritten worker boot kind attemptDetail trialDetail sequence line
      record
    named.step rewritten.carries rewritten.identity
  staged := by
    intro record sequence named
    refine named.step (stage_carries record sequence) ?_
    rw [stage_forget_fields record sequence]
    rfl
  recovered := by
    intro image config outcomes id record after _ _ same _ named
    have definition := congrArg (fun forgotten => forgotten.definition) same
    exact named.step (recovered_carries same) (congrArg ExperimentDefinition.id definition)

theorem World.Reachable.attemptsNamed {path : Text} {c : Coordinator R}
    (reachable : (World.running c).Reachable path) {experiment : ExperimentId}
    {record : ExperimentRecord R} (found : c.findExperiment experiment = some record) :
    record.AttemptsNamed :=
  (reachable.holds attemptsNamed_invariant.durable).1 experiment record found

end Runs

/-! ## Publications -/

/-- The observation names the incarnation and the epoch that publish it. -/
structure PublishObservationRequest.Attributed (request : PublishObservationRequest R) : Prop where
  worker : request.observation.worker = request.worker
  boot : request.observation.boot = request.boot
  epoch : request.observation.epoch = request.epoch

/-- The observation agrees with the record of an attempt. -/
structure Observation.Agrees (observation : Observation R) (attempt : AttemptRecord) : Prop where
  trial : observation.trial = attempt.trial
  experiment : observation.experiment = attempt.experiment
  generation : observation.generation = attempt.generation
  branch : observation.branch = attempt.branch
  branchGeneration : observation.branchGeneration = attempt.branchGeneration
  producer : observation.producer = attempt.producer
  worker : observation.worker = attempt.worker
  boot : observation.boot = attempt.boot
  epoch : observation.epoch = attempt.epoch

/-- The observation as it is stored. -/
def Observation.sequenced (observation : Observation R) (sequence : Nat) : Observation R :=
  { observation with sequence := sequence }

theorem Observation.Agrees.fixed {observation : Observation R} {attempt attempt' : AttemptRecord}
    (agrees : observation.Agrees attempt) (same : attempt'.fixed = attempt.fixed) :
    observation.Agrees attempt' where
  trial := agrees.trial.trans (congrArg AttemptRecord.trial same).symm
  experiment := agrees.experiment.trans (congrArg AttemptRecord.experiment same).symm
  generation := agrees.generation.trans (congrArg AttemptRecord.generation same).symm
  branch := agrees.branch.trans (congrArg AttemptRecord.branch same).symm
  branchGeneration := agrees.branchGeneration.trans
    (congrArg AttemptRecord.branchGeneration same).symm
  producer := agrees.producer.trans (congrArg AttemptRecord.producer same).symm
  worker := agrees.worker.trans (congrArg AttemptRecord.worker same).symm
  boot := agrees.boot.trans (congrArg AttemptRecord.boot same).symm
  epoch := agrees.epoch.trans (congrArg AttemptRecord.epoch same).symm

namespace Coordinator

/-- What an operation has appended to a list of an experiment. -/
def appended {β : Type} (select : ExperimentRecord R → List β) (c after : Coordinator R)
    (experiment : ExperimentId) : List β :=
  match c.findExperiment experiment, after.findExperiment experiment with
  | some old, some new => (select new).drop (select old).length
  | _, _ => []

theorem appended_append {β : Type} {select : ExperimentRecord R → List β} {c after : Coordinator R}
    {experiment : ExperimentId} {old new : ExperimentRecord R} {added : List β}
    (found : c.findExperiment experiment = some old)
    (stored : after.findExperiment experiment = some new)
    (grown : select new = select old ++ added) : appended select c after experiment = added := by
  rw [appended, found, stored]
  dsimp only
  rw [grown, List.drop_left]

theorem appended_self {β : Type} (select : ExperimentRecord R → List β) (c : Coordinator R)
    (experiment : ExperimentId) : appended select c c experiment = [] := by
  unfold appended
  split
  · rename_i old new first second
    obtain rfl := Option.some.inj (first.symm.trans second)
    exact List.drop_length
  · rfl

variable [MetricReal R] [CanonicalDigests R]

/-- The observations a successful publication stores, with the request. -/
def publications (c : Coordinator R) (request : Request R) (fault : Option SaveFault) :
    List (PublishObservationRequest R × Observation R) :=
  match request with
  | .publishObservation publication =>
      if (c.perform request fault).2.succeeded then
        (appended ExperimentRecord.observations c (c.perform request fault).1
          publication.observation.experiment).map (publication, ·)
      else []
  | _ => []

/-- An observation that a publication stored. -/
structure Published (c after : Coordinator R) (publication : PublishObservationRequest R)
    (stored : Observation R) (check : EnvelopeCheck R) : Prop where
  found : c.findExperiment publication.observation.experiment = some check.record
  accepted : c.checkEnvelope (observationEnvelope publication check.record) = .ok check
  admission : c.admitObservation check.record publication.observation =
    .ok (some publication.observation)
  sequenced : stored = publication.observation.sequenced (c.currentSequence + 1)
  held : ∃ record', after.findExperiment publication.observation.experiment = some record' ∧
    stored ∈ record'.observations
  saved : after.InStep

omit [CanonicalDigests R] in
theorem observing_find (c : Coordinator R) (check : EnvelopeCheck R)
    (published admitted : Observation R) :
    ∃ record', (c.observing check published admitted).findExperiment published.experiment =
        some record' ∧
      record'.observations = check.record.observations ++
        [admitted.sequenced (c.currentSequence + 1)] := by
  obtain ⟨trials, attempts, frame⟩ := observe_frame (check.record.pushObservation
    (admitted.sequenced (c.currentSequence + 1))) check.trial check.attempt published.trial
      published.attempt (c.currentSequence + 1)
  refine ⟨((check.record.pushObservation (admitted.sequenced (c.currentSequence + 1))).observe
    check.trial check.attempt published.trial published.attempt (c.currentSequence + 1)).1, ?_, ?_⟩
  · exact OrderedMap.find?_assign_self ..
  · rw [frame]
    rfl

theorem publications_published {c : Coordinator R} {request : Request R}
    {fault : Option SaveFault} {publication : PublishObservationRequest R} {stored : Observation R}
    (member : (publication, stored) ∈ c.publications request fault) :
    request = .publishObservation publication ∧
      ∃ check, Published c (c.perform request fault).1 publication stored check := by
  cases request with
  | publishObservation other =>
      unfold publications at member
      dsimp only at member
      split at member
      · rename_i succeeded
        obtain ⟨observation, added, same⟩ := List.mem_map.mp member
        cases same
        refine ⟨rfl, ?_⟩
        rcases c.perform_succeeded succeeded with ⟨prepared, undo, answer, saves, savable, ended⟩ |
          ⟨same, -⟩ | ⟨impossible, -⟩
        · rw [ended] at added ⊢
          cases saves with
          | refuseObservation found refused =>
              rw [ended] at succeeded
              cases succeeded
          | @publishObservation _ record check admitted found accepted admission =>
              obtain ⟨-, -, -, lookup, -⟩ := (c.checkEnvelope_eq_ok _ _).mp accepted
              obtain rfl : check.record = record := Option.some.inj (lookup.symm.trans found)
              obtain ⟨rfl, -⟩ := admitObservation_ok admission
              obtain ⟨record', held, grown⟩ := c.observing_find check publication.observation
                publication.observation
              have after : ((c.observing check publication.observation
                  publication.observation).persistLocked fault).1.findExperiment
                    publication.observation.experiment = some record' := by
                rw [findExperiment, persistLocked_state]
                exact held
              rw [appended_append found after grown, List.mem_singleton] at added
              refine ⟨check, found, accepted, admission, added, ⟨record', after, ?_⟩,
                persistLocked_inStep _ savable⟩
              rw [grown, added]
              exact List.mem_append_right _ List.mem_cons_self
        · rw [same, appended_self] at added
          exact (List.not_mem_nil added).elim
        · cases impossible
      · exact (List.not_mem_nil member).elim
  | _ => exact (List.not_mem_nil member).elim

/-- An accepted observation agrees with its attempt exactly when it names the incarnation and the
epoch that publish it. -/
theorem agrees_iff {path : Text} {c : Coordinator R}
    (reachable : (World.running c).Reachable path) {publication : PublishObservationRequest R}
    {check : EnvelopeCheck R}
    (accepted : c.checkEnvelope (observationEnvelope publication check.record) = .ok check)
    (sequence : Nat) :
    (publication.observation.sequenced sequence).Agrees check.attempt ↔
      publication.Attributed := by
  obtain ⟨-, -, holds, found, admitted⟩ := (c.checkEnvelope_eq_ok _ _).mp accepted
  obtain ⟨-, consistent, arranged, -⟩ := reachable.sound
  have identified := reachable.identified found
  have owned : check.attempt.trial = publication.observation.trial :=
    admitted.livePair.owned (consistent _ _ found)
  obtain ⟨experiment, trial, held, generation⟩ :=
    reachable.attemptsNamed found _ _ admitted.attemptFound
  obtain ⟨trial', held', branch, branchGeneration⟩ :=
    identified.attemptBranch _ _ admitted.attemptFound
  obtain rfl := Option.some.inj (held.symm.trans held')
  rw [owned] at held
  obtain rfl := Option.some.inj (held.symm.trans admitted.trialFound)
  have placed := (arranged.placed _ _ found).identity
  obtain ⟨record, otherBranch, otherTrial, attempt, otherFound, otherAdmitted, producer⟩ :=
    grants_of_checkEnvelope reachable.liveAuthority accepted
  obtain rfl := Option.some.inj (found.symm.trans otherFound)
  obtain rfl := Option.some.inj (admitted.attemptFound.symm.trans otherAdmitted.attemptFound)
  constructor
  · intro agrees
    exact ⟨agrees.worker.trans admitted.attemptWorker, agrees.boot.trans admitted.attemptBoot,
      agrees.epoch.trans admitted.attemptEpoch⟩
  · intro attributed
    exact ⟨owned.symm, (experiment.trans placed).symm, (generation.trans admitted.trialGeneration).symm,
      (branch.trans admitted.trialBranch).symm,
      (branchGeneration.trans admitted.trialBranchGeneration).symm, producer.symm,
      attributed.worker.trans admitted.attemptWorker.symm,
      attributed.boot.trans admitted.attemptBoot.symm,
      attributed.epoch.trans admitted.attemptEpoch.symm⟩

end Coordinator

section Provenance

variable [MetricReal R] [CanonicalDigests R]

/-- The record holds the observation with its attempt, and they agree exactly if the publication
was attributed to its incarnation and epoch. -/
def Vouched (entry : PublishObservationRequest R × Observation R) (record : ExperimentRecord R) :
    Prop :=
  entry.2 ∈ record.observations ∧
    ∃ attempt, record.attempts.find? entry.2.attempt = some attempt ∧
      (entry.2.Agrees attempt ↔ entry.1.Attributed)

omit [MetricReal R] [CanonicalDigests R] in
theorem Vouched.lasts {entry : PublishObservationRequest R × Observation R}
    (old new : ExperimentRecord R) (lasts : RecordLasts old new) (vouched : Vouched entry old) :
    Vouched entry new := by
  obtain ⟨held, attempt, found, agrees⟩ := vouched
  obtain ⟨attempt', found', fixed⟩ := lasts.attempts _ attempt found
  refine ⟨lasts.observations.subset held, attempt', found', ?_⟩
  rw [← agrees]
  exact ⟨fun later => later.fixed fixed.symm, fun earlier => earlier.fixed fixed⟩

/-- In every state of every run, in memory and in the file, an observation that a successful
publication stored agrees with the record of its attempt on its whole provenance exactly when the
publication named its own incarnation and epoch. -/
theorem published_provenance {path : Text}
    {entries : List (PublishObservationRequest R × Observation R)} {world : World R}
    (account : Account path anyStep Coordinator.publications entries world) :
    ∀ entry ∈ entries, world.Retains path fun state =>
      ∃ record, state.experiments.find? entry.2.experiment = some record ∧
        entry.2 ∈ record.observations ∧
        ∃ attempt, record.attempts.find? entry.2.attempt = some attempt ∧
          (entry.2.Agrees attempt ↔ entry.1.Attributed) := by
  let property (entry : PublishObservationRequest R × Observation R) (state : CoordinatorState R) :
      Prop :=
    ∃ record, state.experiments.find? entry.2.experiment = some record ∧ Vouched entry record
  have retained : ∀ entry ∈ entries, world.Retains path (property entry) := by
    refine Account.retains (fun entry => Lasting.ofRecord _ Vouched.lasts) ?_ account
    rintro _ c request fault ⟨publication, stored⟩ earlier - member
    obtain ⟨rfl, check, published⟩ := Coordinator.publications_published member
    refine ⟨?_, published.saved⟩
    obtain ⟨record', found', held⟩ := published.held
    obtain ⟨-, -, -, -, admitted⟩ := (c.checkEnvelope_eq_ok _ _).mp published.accepted
    obtain ⟨record, found, lasts⟩ := (c.perform_steps (.publishObservation publication) fault).lasts
      _ _ published.found
    obtain rfl := Option.some.inj (found.symm.trans found')
    obtain ⟨attempt, kept, fixed⟩ := lasts.attempts _ _ admitted.attemptFound
    have agrees := Coordinator.agrees_iff earlier.reachable published.accepted
      (c.currentSequence + 1)
    rw [← published.sequenced] at agrees
    have named : stored.experiment = publication.observation.experiment ∧
        stored.attempt = publication.observation.attempt := by
      rw [published.sequenced]
      exact ⟨rfl, rfl⟩
    refine ⟨record, by rw [named.1]; exact found, held, attempt, by rw [named.2]; exact kept, ?_⟩
    rw [← agrees]
    exact ⟨fun later => later.fixed fixed.symm, fun earlier => earlier.fixed fixed⟩
  exact retained

end Provenance

namespace Sample

/-- Publish an observation of the claimed trial. -/
def publishing (observation : Observation ℚ) : Request ℚ × Option SaveFault :=
  (.publishObservation ⟨coordinator.epoch, worker, boot, observation⟩, none)

/-- The observation under the name of another worker. -/
def misattributed : Observation ℚ := { observation with worker := ⟨8⟩ }

/-- The observation is stored beside an attempt of another worker. -/
def heldElsewhere (c : Coordinator ℚ) (observation : Observation ℚ) : Bool :=
  (c.findExperiment observation.experiment).any fun record =>
    decide (observation ∈ record.observations) &&
      (record.attempts.find? observation.attempt).any fun attempt =>
        decide (observation.worker ≠ attempt.worker)

theorem published_account (observation : Observation ℚ) :
    Account config.statePath anyStep Coordinator.publications
      ([] ++ coordinator.entriesOf Coordinator.publications (claiming ++ [publishing observation]))
      (.running (coordinator.session (claiming ++ [publishing observation]))) := by
  have started : Account config.statePath anyStep Coordinator.publications []
      (.running coordinator) :=
    start_ledger .empty rfl trivial rfl coordinator_started
  exact session_ledger (fun _ _ => rfl) started _ fun _ _ _ _ => trivial

end Sample

/-- The observation that the sample session publishes. -/
theorem published_provenance_sample : ∃ entries world,
    Account (R := ℚ) Sample.config.statePath anyStep Coordinator.publications entries world ∧
      entries.length = 1 ∧
      ∀ entry ∈ entries, world.Retains Sample.config.statePath fun state =>
        ∃ record, state.experiments.find? entry.2.experiment = some record ∧
          entry.2 ∈ record.observations ∧
          ∃ attempt, record.attempts.find? entry.2.attempt = some attempt ∧
            (entry.2.Agrees attempt ↔ entry.1.Attributed) :=
  ⟨_, _, Sample.published_account Sample.observation, by decide +kernel,
    published_provenance (Sample.published_account Sample.observation)⟩

/-- A published observation that names another worker than its attempt is stored. -/
theorem misattributed_observation_stored : ∃ entries c,
    Account (R := ℚ) Sample.config.statePath anyStep Coordinator.publications entries
      (.running c) ∧
    ∃ entry ∈ entries, ∃ record attempt,
      c.findExperiment entry.2.experiment = some record ∧ entry.2 ∈ record.observations ∧
        record.attempts.find? entry.2.attempt = some attempt ∧ ¬ entry.2.Agrees attempt := by
  refine ⟨_, _, Sample.published_account Sample.misattributed, ?_⟩
  have ran : ([] ++ Sample.coordinator.entriesOf Coordinator.publications
      (Sample.claiming ++ [Sample.publishing Sample.misattributed])).any (fun entry =>
        Sample.heldElsewhere (Sample.coordinator.session
          (Sample.claiming ++ [Sample.publishing Sample.misattributed])) entry.2) = true := by
    decide +kernel
  obtain ⟨entry, member, compared⟩ := List.any_eq_true.mp ran
  obtain ⟨record, found, compared⟩ := (Option.any_eq_true _ _).mp compared
  obtain ⟨held, compared⟩ := Bool.and_eq_true_iff.mp compared
  obtain ⟨attempt, lookup, differs⟩ := (Option.any_eq_true _ _).mp compared
  rw [decide_eq_true_eq] at held differs
  exact ⟨entry, member, record, attempt, found, held, lookup, fun agrees => differs agrees.worker⟩

end ExperimentFabric
