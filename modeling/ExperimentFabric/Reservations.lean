import ExperimentFabric.Freshness
import ExperimentFabric.Provenance

/-!
# Reserved identities

A claim reserves observation and artifact identities in its reply and keeps no record of them, and a
publication stores whatever identity its producer presents.  As long as producers present what was
reserved for their attempt, stored identities lie below the counters and are never reserved again.
-/

namespace ExperimentFabric

open Lib

variable {R : Type}

/-! ## Reservations and publications -/

/-- An identity of evidence, with the attempt and the metric it is for. -/
structure Reservation where
  kind : IdKind
  attempt : TrialAttemptId
  metric : Option MetricId
  id : Nat
  deriving DecidableEq

/-- What happens to an identity of evidence. -/
inductive IdentityUse where
  | reserved (reservation : Reservation)
  | stored (reservation : Reservation)
  deriving DecidableEq

/-- The identity the use is about. -/
def IdentityUse.identity : IdentityUse → Identity
  | reserved reservation | stored reservation => ⟨reservation.kind, reservation.id⟩

/-- The identities an assignment reserves. -/
def TrialAssignment.reservations (assignment : TrialAssignment) : List Reservation :=
  assignment.metrics.map (fun metric =>
    ⟨.observation, assignment.envelope.attempt, some metric.metric, metric.observationId.value⟩) ++
    assignment.artifactIds.map fun artifact =>
      ⟨.artifact, assignment.envelope.attempt, none, artifact.value⟩

/-- The identity of an observation, for its attempt and metric. -/
def Observation.use (observation : Observation R) : Reservation :=
  ⟨.observation, observation.attempt, some observation.metric, observation.id.value⟩

/-- The identity of an artifact, for its attempt. -/
def ArtifactRecord.use (artifact : ArtifactRecord) : Reservation :=
  ⟨.artifact, artifact.attempt, none, artifact.id.value⟩

namespace Coordinator

variable [MetricReal R]

/-- The identities that a request presents for storage, after the checks of the coordinator. -/
def presents (c : Coordinator R) : Request R → List Reservation
  | .publishObservation request =>
      match c.findExperiment request.observation.experiment with
      | none => []
      | some record =>
          match c.checkEnvelope (observationEnvelope request record) with
          | .error _ => []
          | .ok check =>
              match c.admitObservation check.record request.observation with
              | .ok (some _) => [request.observation.use]
              | _ => []
  | .publishArtifact request =>
      match c.findExperiment request.artifact.experiment with
      | none => []
      | some record =>
          match artifactEnvelope request record with
          | .error _ => []
          | .ok envelope =>
              match c.checkEnvelope envelope with
              | .error _ => []
              | .ok check =>
                  match c.admitArtifact check.record check.trial request.artifact with
                  | .ok true => [request.artifact.use]
                  | _ => []
  | .commitTrial request =>
      match c.commitTrialGuard request with
      | .error _ => []
      | .ok _ =>
          match (registerArtifacts request.envelope c.nextSequence request.artifacts).2 with
          | .error _ => []
          | .ok () => request.artifacts.map fun artifact =>
              ⟨.artifact, request.envelope.attempt, none, artifact.id.value⟩
  | _ => []

variable [CanonicalDigests R]

/-- The identities that a successful request reserves or stores. -/
def identityUses (c : Coordinator R) (request : Request R) (fault : Option SaveFault) :
    List IdentityUse :=
  let result := c.perform request fault
  if result.2.succeeded then
    match request, result.2 with
    | .claimTrials _, .claim reply =>
        (reply.assignments.flatMap TrialAssignment.reservations).map .reserved
    | .publishObservation publication, _ =>
        (appended ExperimentRecord.observations c result.1
          publication.observation.experiment).map fun observation => .stored observation.use
    | .publishArtifact publication, _ =>
        (appended ExperimentRecord.artifacts c result.1 publication.artifact.experiment).map
          fun artifact => .stored artifact.use
    | .commitTrial commit, _ =>
        (appended ExperimentRecord.artifacts c result.1 commit.envelope.experiment).map
          fun artifact => .stored artifact.use
    | _, _ => []
  else []

end Coordinator

/-! ## What requests reserve and store -/

namespace Coordinator

/-- The artifacts of a commit are appended under the committing attempt. -/
theorem registerArtifacts_appended (envelope : AuthorityEnvelope) (artifacts : List ArtifactRecord)
    {c : Coordinator R} {record : ExperimentRecord R} {trial : TrialRecord}
    (found : c.findExperiment envelope.experiment = some record)
    (held : record.trials.find? envelope.trial = some trial)
    (accepted : (registerArtifacts envelope c artifacts).2 = .ok ()) :
    ∃ after added, (registerArtifacts envelope c artifacts).1.findExperiment envelope.experiment =
        some after ∧ after.artifacts = record.artifacts ++ added ∧
      added.map ArtifactRecord.use = artifacts.map fun artifact =>
        ⟨.artifact, envelope.attempt, none, artifact.id.value⟩ := by
  induction artifacts generalizing c record trial with
  | nil => exact ⟨record, [], found, (List.append_nil _).symm, rfl⟩
  | cons submitted rest ih =>
      obtain ⟨-, next⟩ := registerArtifacts_accepted found held accepted
      rw [next] at accepted ⊢
      let artifact := submittedArtifact record trial envelope.attempt submitted
        (c.currentSequence + 1)
      have foundNext : (c.nextSequence.storeArtifact envelope.experiment record envelope.trial
          artifact).findExperiment envelope.experiment =
            some (record.pushArtifact envelope.trial artifact) := by
        simp [storeArtifact]
      have heldNext : (record.pushArtifact envelope.trial artifact).trials.find? envelope.trial =
          some (trial.hold artifact.id) := by
        simp [ExperimentRecord.pushArtifact, held]
      obtain ⟨after, added, stored, grown, uses⟩ := ih foundNext heldNext accepted
      refine ⟨after, artifact :: added, stored, ?_, ?_⟩
      · rw [grown]
        exact List.append_assoc record.artifacts [artifact] added
      · rw [List.map_cons, uses]
        rfl

variable [MetricReal R] [CanonicalDigests R]

omit [MetricReal R] [CanonicalDigests R] in
theorem holding_find (c : Coordinator R) (check : EnvelopeCheck R) (artifact : ArtifactRecord) :
    ∃ record' stored, (c.holding check artifact).findExperiment artifact.experiment =
        some record' ∧ record'.artifacts = check.record.artifacts ++ [stored] ∧
      stored.use = artifact.use :=
  ⟨c.heldArtifact check artifact, _, OrderedMap.find?_assign_self .., rfl, rfl⟩

/-- A stored observation was presented, and is saved. -/
theorem presents_observation {c : Coordinator R} {publication : PublishObservationRequest R}
    {fault : Option SaveFault}
    (succeeded : (c.perform (.publishObservation publication) fault).2.succeeded = true)
    {observation : Observation R}
    (added : observation ∈ appended ExperimentRecord.observations c
      (c.perform (.publishObservation publication) fault).1 publication.observation.experiment) :
    observation.use ∈ c.presents (.publishObservation publication) ∧
      (c.perform (.publishObservation publication) fault).1.InStep := by
  have entry : (publication, observation) ∈
      c.publications (.publishObservation publication) fault := by
    unfold publications
    dsimp only
    rw [if_pos succeeded]
    exact List.mem_map_of_mem added
  obtain ⟨-, check, published⟩ := publications_published entry
  refine ⟨?_, published.saved⟩
  simp only [presents, published.found, published.accepted, published.admission,
    published.sequenced, List.mem_singleton]
  rfl

/-- A stored artifact was presented, and is saved. -/
theorem presents_artifact {c : Coordinator R} {publication : PublishArtifactRequest}
    {fault : Option SaveFault}
    (succeeded : (c.perform (.publishArtifact publication) fault).2.succeeded = true)
    {artifact : ArtifactRecord}
    (added : artifact ∈ appended ExperimentRecord.artifacts c
      (c.perform (.publishArtifact publication) fault).1 publication.artifact.experiment) :
    artifact.use ∈ c.presents (.publishArtifact publication) ∧
      (c.perform (.publishArtifact publication) fault).1.InStep := by
  rcases c.perform_succeeded succeeded with ⟨prepared, undo, answer, saves, savable, ended⟩ |
    ⟨same, -⟩ | ⟨impossible, -⟩
  · rw [ended] at added ⊢
    cases saves with
    | refuseArtifact found built refused =>
        rw [ended] at succeeded
        cases succeeded
    | @publishArtifact _ record envelope check found built accepted admission =>
        obtain ⟨-, -, -, lookup, -⟩ := (c.checkEnvelope_eq_ok _ _).mp accepted
        rw [artifactEnvelope_experiment built] at lookup
        obtain rfl : check.record = record := Option.some.inj (lookup.symm.trans found)
        obtain ⟨record', stored, held, grown, use⟩ := c.holding_find check publication.artifact
        have after : ((c.holding check publication.artifact).persistLocked
            fault).1.findExperiment publication.artifact.experiment = some record' := by
          rw [findExperiment, persistLocked_state]
          exact held
        rw [appended_append found after grown, List.mem_singleton] at added
        refine ⟨?_, persistLocked_inStep _ savable⟩
        simp only [presents, found, built, accepted, admission, added, use, List.mem_singleton]
  · rw [same, appended_self] at added
    exact (List.not_mem_nil added).elim
  · cases impossible

/-- An artifact that a commit stored was presented, and is saved. -/
theorem presents_commit {c : Coordinator R} {commit : CommitTrialRequest}
    {fault : Option SaveFault}
    (succeeded : (c.perform (.commitTrial commit) fault).2.succeeded = true)
    {artifact : ArtifactRecord}
    (added : artifact ∈ appended ExperimentRecord.artifacts c
      (c.perform (.commitTrial commit) fault).1 commit.envelope.experiment) :
    artifact.use ∈ c.presents (.commitTrial commit) ∧
      (c.perform (.commitTrial commit) fault).1.InStep := by
  rcases c.perform_succeeded succeeded with ⟨prepared, undo, answer, saves, savable, ended⟩ |
    ⟨-, impossible⟩ | ⟨impossible, -⟩
  · rw [ended] at added ⊢
    cases saves with
    | @commit _ check registered record guarded evidence accepted allowed found =>
        obtain ⟨-, -, -, lookup, admitted⟩ :=
          (c.checkEnvelope_eq_ok _ _).mp (commitTrialGuard_ok guarded)
        have registers : (registerArtifacts commit.envelope c.nextSequence
            commit.artifacts).2 = .ok () := by rw [accepted]
        obtain ⟨after, new, stored, grown, uses⟩ := registerArtifacts_appended commit.envelope
          commit.artifacts (c := c.nextSequence) lookup admitted.trialFound registers
        rw [accepted] at stored
        obtain rfl := Option.some.inj (stored.symm.trans found)
        have held : ((registered.withRecord commit.envelope.experiment
            (after.complete commit.envelope.trial commit.envelope.attempt
              (c.currentSequence + 1))).persistLocked fault).1.findExperiment
                commit.envelope.experiment = some (after.complete commit.envelope.trial
                  commit.envelope.attempt (c.currentSequence + 1)) := by
          rw [findExperiment, persistLocked_state]
          exact OrderedMap.find?_assign_self ..
        rw [appended_append lookup held grown] at added
        refine ⟨?_, persistLocked_inStep _ savable⟩
        simp only [presents, guarded, registers]
        rw [← uses]
        exact List.mem_map_of_mem added
  · cases impossible
  · cases impossible

/-- A stored identity was presented, and is saved. -/
theorem identityUses_stored {c : Coordinator R} {request : Request R} {fault : Option SaveFault}
    {reservation : Reservation}
    (member : .stored reservation ∈ c.identityUses request fault) :
    reservation ∈ c.presents request ∧ (c.perform request fault).1.InStep := by
  unfold identityUses at member
  dsimp only at member
  split at member
  · rename_i succeeded
    split at member
    · simp at member
    · obtain ⟨observation, added, same⟩ := List.mem_map.mp member
      cases same
      exact presents_observation succeeded added
    · obtain ⟨artifact, added, same⟩ := List.mem_map.mp member
      cases same
      exact presents_artifact succeeded added
    · obtain ⟨artifact, added, same⟩ := List.mem_map.mp member
      cases same
      exact presents_commit succeeded added
    · exact (List.not_mem_nil member).elim
  · exact (List.not_mem_nil member).elim

/-- A reserved identity lies above the counter before and below the counter after, which is saved. -/
theorem identityUses_reserved {c : Coordinator R} {request : Request R} {fault : Option SaveFault}
    {reservation : Reservation}
    (member : .reserved reservation ∈ c.identityUses request fault) :
    c.state.mark reservation.kind < reservation.id ∧
      reservation.id ≤ (c.perform request fault).1.state.mark reservation.kind ∧
      (c.perform request fault).1.InStep := by
  have issued : (⟨reservation.kind, reservation.id⟩ : Identity) ∈ c.issues request fault := by
    unfold identityUses at member
    dsimp only at member
    split at member
    · rename_i succeeded
      split at member
      · rename_i claim reply replied
        obtain ⟨other, reserved, same⟩ := List.mem_map.mp member
        cases same
        obtain ⟨assignment, assigned, reserves⟩ := List.mem_flatMap.mp reserved
        have handed : c.issues (.claimTrials claim) fault =
            c.identitiesOf (.claimTrials claim) (c.perform (.claimTrials claim) fault) :=
          if_neg Bool.false_ne_true
        rw [replied] at succeeded
        have accepted : reply.status.isOk = true := succeeded
        rw [handed]
        generalize c.perform (.claimTrials claim) fault = result at replied ⊢
        obtain ⟨after, answer⟩ := result
        obtain rfl : answer = .claim reply := replied
        simp only [identitiesOf, accepted, if_true]
        refine List.mem_flatMap.mpr ⟨assignment, assigned, ?_⟩
        unfold TrialAssignment.reservations at reserves
        unfold TrialAssignment.identities
        refine List.mem_cons_of_mem _ ?_
        rcases List.mem_append.mp reserves with metric | artifact
        · obtain ⟨metric, listed, rfl⟩ := List.mem_map.mp metric
          exact List.mem_append_left _ (List.mem_map_of_mem listed)
        · obtain ⟨artifact, listed, rfl⟩ := List.mem_map.mp artifact
          exact List.mem_append_right _ (List.mem_map_of_mem listed)
      all_goals simp at member
    · exact (List.not_mem_nil member).elim
  obtain ⟨fresh, saved⟩ := c.issues_fresh request fault
  exact ⟨(fresh.above _ issued).1, (fresh.above _ issued).2, saved (List.ne_nil_of_mem issued)⟩

/-- No request both stores and reserves. -/
theorem stores_or_reserves {c : Coordinator R} {request : Request R} {fault : Option SaveFault}
    {stored reserved : Reservation} (stores : .stored stored ∈ c.identityUses request fault)
    (reserves : .reserved reserved ∈ c.identityUses request fault) : False := by
  have presented := (identityUses_stored stores).1
  unfold identityUses at reserves
  dsimp only at reserves
  split at reserves
  · split at reserves
    · exact List.not_mem_nil presented
    all_goals simp at reserves
  · exact List.not_mem_nil reserves

end Coordinator

/-! ## Runs -/

/-- Producers present only identities that were reserved for their attempt, and their metric. -/
def presentsReserved [MetricReal R] : List IdentityUse → World R → Event R → Prop
  | uses, .running c, .request request _ => ∀ reservation ∈ c.presents request,
      .reserved reservation ∈ uses
  | _, _, _ => True

section Runs

variable [MetricReal R] [CanonicalDigests R] {path : Text} {uses : List IdentityUse}
  {world : World R}

/-- The counter of a reserved identity never falls below it. -/
theorem reserved_retained
    (account : Account path presentsReserved Coordinator.identityUses uses world)
    {reservation : Reservation} (member : .reserved reservation ∈ uses) :
    world.Retains path fun state => reservation.id ≤ state.mark reservation.kind := by
  let property : IdentityUse → CoordinatorState R → Prop
    | .reserved reservation, state => reservation.id ≤ state.mark reservation.kind
    | .stored _, _ => True
  have all : ∀ use ∈ uses, world.Retains path (property use) := by
    refine Account.retains (fun use => ?_) ?_ account
    · cases use with
      | reserved reservation => exact mark_lasting ⟨reservation.kind, reservation.id⟩
      | stored reservation => exact ⟨fun _ _ => trivial, fun _ _ _ => trivial⟩
    · intro _ c request fault use _ _ recorded
      cases use with
      | reserved reservation => exact (Coordinator.identityUses_reserved recorded).2
      | stored reservation => exact ⟨trivial, (Coordinator.identityUses_stored recorded).2⟩
  exact all _ member

/-- The counters cover every identity of the run. -/
theorem use_retained (account : Account path presentsReserved Coordinator.identityUses uses world) :
    ∀ use ∈ uses, world.Retains path fun state =>
      use.identity.value ≤ state.mark use.identity.kind := by
  refine Account.retains (fun use => mark_lasting use.identity) ?_ account
  intro entries c request fault use earlier meets recorded
  cases use with
  | reserved reservation => exact (Coordinator.identityUses_reserved recorded).2
  | stored reservation =>
      obtain ⟨presented, saved⟩ := Coordinator.identityUses_stored recorded
      have covered := (reserved_retained earlier (meets reservation presented)).1
      exact ⟨covered.trans (c.perform_mark_le request fault reservation.kind), saved⟩

/-- A stored identity was reserved before, and a reserved identity is not null. -/
theorem use_grounded (account : Account path presentsReserved Coordinator.identityUses uses world) :
    ∀ use ∈ uses, (∀ reservation, use = .stored reservation → .reserved reservation ∈ uses) ∧
      ∀ reservation, use = .reserved reservation → reservation.id ≠ 0 := by
  let property (uses : List IdentityUse) (use : IdentityUse) : Prop :=
    (∀ reservation, use = .stored reservation → .reserved reservation ∈ uses) ∧
      ∀ reservation, use = .reserved reservation → reservation.id ≠ 0
  have all : ∀ use ∈ uses, property uses use := by
    refine Account.grounded ?_ ?_ account
    · intro entries more use holds
      exact ⟨fun reservation same => List.mem_append_left _ (holds.1 reservation same), holds.2⟩
    · intro entries c request fault use earlier meets recorded
      constructor
      · rintro reservation rfl
        exact meets reservation (Coordinator.identityUses_stored recorded).1
      · rintro reservation rfl
        exact (Nat.zero_lt_of_lt (Coordinator.identityUses_reserved recorded).1).ne'
  exact all

/-- If producers present only what was reserved for their attempt and metric, then in every state of
every run each stored identity was reserved for its attempt and metric, is non-null, lies below its
counter in memory and in the file, and no identity reserved later equals it. -/
theorem stored_identities_authorized
    (account : Account path presentsReserved Coordinator.identityUses uses world) :
    (∀ reservation, .stored reservation ∈ uses → .reserved reservation ∈ uses ∧
      reservation.id ≠ 0 ∧
      world.Retains path fun state => reservation.id ≤ state.mark reservation.kind) ∧
    uses.Pairwise fun earlier later => ∀ stored reserved,
      earlier = .stored stored → later = .reserved reserved → stored.kind = reserved.kind →
        stored.id ≠ reserved.id := by
  constructor
  · intro reservation member
    have reserved := (use_grounded account _ member).1 reservation rfl
    exact ⟨reserved, (use_grounded account _ reserved).2 reservation rfl,
      use_retained account _ member⟩
  · refine Account.pairwise ?_ account
    intro entries c request fault earlier meets
    -- A request either reserves or stores; what was stored before lies below its counter.
    refine ⟨List.pairwise_of_forall_mem_list fun first member second other => ?_, ?_⟩
    · rintro stored reserved rfl rfl
      exact (Coordinator.stores_or_reserves member other).elim
    · rintro first member second recorded stored reserved rfl rfl same
      have low : stored.id ≤ c.state.mark stored.kind := (use_retained earlier _ member).1
      have high := (Coordinator.identityUses_reserved recorded).1
      rw [same] at low
      exact (low.trans_lt high).ne

end Runs

namespace Sample

/-- The identities of the sample session up to its claim. -/
theorem claimed_uses : Account config.statePath presentsReserved Coordinator.identityUses
    ([] ++ coordinator.entriesOf Coordinator.identityUses claiming) (.running claimed) := by
  have started : Account config.statePath presentsReserved Coordinator.identityUses []
      (.running coordinator) :=
    start_ledger .empty rfl trivial rfl coordinator_started
  refine session_ledger (fun _ _ => rfl) started claiming ?_
  intro request member uses reached
  simp only [claiming, List.mem_cons, List.not_mem_nil, or_false] at member
  rcases member with rfl | rfl | rfl | rfl <;>
    exact fun _ impossible => (List.not_mem_nil impossible).elim

/-- The observation under an identity of the producer's own choice. -/
def unreserved : Observation ℚ := { observation with id := ⟨99⟩ }

end Sample

/-- The sample producer publishes the identity that was reserved for it. -/
theorem stored_identities_authorized_sample : ∃ uses world,
    Account (R := ℚ) Sample.config.statePath presentsReserved Coordinator.identityUses uses world ∧
      .stored Sample.observation.use ∈ uses ∧ .reserved Sample.observation.use ∈ uses := by
  have meets : presentsReserved ([] ++ Sample.coordinator.entriesOf Coordinator.identityUses
      Sample.claiming) (.running Sample.claimed) (.request
        (Sample.publishing Sample.observation).1 (Sample.publishing Sample.observation).2) := by
    unfold presentsReserved
    decide +kernel
  have published := Ledger.snoc Sample.claimed_uses ⟨meets, .request Sample.claimed _ _⟩
  have stored : .stored Sample.observation.use ∈
      ([] ++ Sample.coordinator.entriesOf Coordinator.identityUses Sample.claiming) ++
        Sample.claimed.identityUses (Sample.publishing Sample.observation).1
          (Sample.publishing Sample.observation).2 := by
    decide +kernel
  exact ⟨_, _, published, stored, ((stored_identities_authorized published).1 _ stored).1⟩

/-- A publication under an identity that was never reserved, above the counter, is stored. -/
theorem unreserved_identity_stored : ∃ uses c,
    Account (R := ℚ) Sample.config.statePath anyStep Coordinator.identityUses uses (.running c) ∧
      ∃ reservation, .stored reservation ∈ uses ∧ .reserved reservation ∉ uses ∧
        c.state.mark reservation.kind < reservation.id := by
  have started : Account Sample.config.statePath anyStep Coordinator.identityUses []
      (.running Sample.coordinator) :=
    start_ledger .empty rfl trivial rfl Sample.coordinator_started
  have published := session_ledger (fun _ _ => rfl) started
    (Sample.claiming ++ [Sample.publishing Sample.unreserved]) fun _ _ _ _ => trivial
  exact ⟨_, _, published, Sample.unreserved.use, by decide +kernel, by decide +kernel,
    by decide +kernel⟩

end ExperimentFabric
