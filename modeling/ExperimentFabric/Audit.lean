import ExperimentFabric.RefusedEvidence

/-!
# Audited refusals

A publication that the envelope check refuses leaves one entry in the rejection log of its
experiment.  The publication of an artifact resolves its branch and its attempt before the check, and
when one of them is unknown it is refused without an entry.
-/

namespace ExperimentFabric

open Lib

variable {R : Type}

/-! ## Failures that are not refusals of authority -/

/-- Failures of other stages than the authority check. -/
def Status.Unauthoritative (status : Status) : Prop := status.stage ≠ .authority

instance (status : Status) : Decidable status.Unauthoritative :=
  inferInstanceAs (Decidable (status.stage ≠ .authority))

section Stages

variable [MetricReal R] {c : Coordinator R} {record : ExperimentRecord R}

theorem fails_checkValue (metric : MetricDefinition R) (value : MetricValue R) :
    Fails (Coordinator.checkValue metric value) Status.Unauthoritative := by
  refine .bind (.require (by decide)) fun _ => ?_
  split
  · exact .require (by decide)
  · split
    · exact .bind (.require (by decide)) fun _ => .require (by decide)
    · exact .bind (.require (by decide)) fun _ => .require (by decide)
    · exact .require (by decide)
    · exact .ok

theorem fails_admitObservation (observation : Observation R) :
    Fails (c.admitObservation record observation) Status.Unauthoritative := by
  refine .bind (.demand (by decide)) fun metric => ?_
  split
  · exact .bind (.require (by decide)) fun _ => .pure
  · refine .bind (.require (by decide)) fun _ => .bind (.require (by decide)) fun _ => ?_
    split
    · exact .bind (fails_checkValue metric observation.value) fun _ =>
        .bind (.require (by decide)) fun _ => .pure
    · exact .pure

omit [MetricReal R] in
theorem fails_admitArtifact (trial : TrialRecord) (artifact : ArtifactRecord) :
    Fails (c.admitArtifact record trial artifact) Status.Unauthoritative := by
  refine .bind (.require (by decide)) fun _ => .bind (.require (by decide)) fun _ =>
    .bind (.require (by decide)) fun _ => .bind (.require (by decide)) fun _ => ?_
  split
  · exact .bind (.require (by decide)) fun _ => .pure
  · exact .pure

omit [MetricReal R] in
theorem fails_serializable (state : CoordinatorState R) (limits : Limits) :
    Fails (serializable state limits) Status.Unauthoritative := by
  refine .sequence fun check member => ?_
  rcases List.mem_pair.mp member with rfl | rfl
  · exact .require (by decide)
  · exact .require (by decide)

omit [MetricReal R] in
theorem fails_persistLocked (fault : Option SaveFault) :
    Fails (c.persistLocked fault).2 Status.Unauthoritative := by
  unfold Coordinator.persistLocked
  split
  · exact .ok
  · split
    · exact .ok
    · have refusals := fails_serializable c.state c.limits
      cases run : serializable c.state c.limits with
      | error failure => exact fun _ failed => Except.error.inj failed ▸ refusals failure run
      | ok done =>
          cases fault with
          | none => exact .ok
          | some fault =>
              rintro failure failed
              obtain rfl := Except.error.inj failed
              cases fault <;> decide

omit [MetricReal R] in
theorem fails_settle {α : Type} (fault : Option SaveFault) (undo : Coordinator R → Coordinator R)
    (value : α) : Fails (c.settle fault undo value).2 Status.Unauthoritative := by
  intro failure failed
  rcases c.settle_cases fault undo value with ⟨saved, -, ended⟩ | ⟨unsaved, other, stopped, ended⟩
  · rw [ended] at failed
    cases failed
  · rw [ended] at failed
    obtain rfl := Except.error.inj failed
    exact fails_persistLocked fault other (by rw [stopped])

end Stages

/-! ## Publications -/

/-- A publication of evidence. -/
inductive Publication (R : Type) where
  | observation (request : PublishObservationRequest R)
  | artifact (request : PublishArtifactRequest)

namespace Publication

/-- The experiment the publication names. -/
def experiment : Publication R → ExperimentId
  | observation request => request.observation.experiment
  | artifact request => request.artifact.experiment

/-- The identity of the evidence. -/
def identifier : Publication R → Nat
  | observation request => request.observation.id.value
  | artifact request => request.artifact.id.value

/-- The kind under which a refusal is recorded. -/
def kind : Publication R → Text
  | observation _ => text "observation"
  | artifact _ => text "artifact"

/-- The publication is handed to a coordinator. -/
def deliver [MetricReal R] (c : Coordinator R) (fault : Option SaveFault) :
    Publication R → Coordinator R × Result Unit
  | observation request => c.publishObservation request fault
  | artifact request => c.publishArtifact request fault

/-- The record knows the branch and the attempt an artifact names. -/
def Resolves (record : ExperimentRecord R) : Publication R → Prop
  | observation _ => True
  | artifact request =>
      (record.findBranch request.artifact.branch).isSome ∧
        (record.attempts.find? request.artifact.attempt).isSome

/-- Exactly one entry was appended to the rejection log of the experiment: the identity and the kind
of the refused evidence, and the code of the refusal. -/
def Audited (publication : Publication R) (code : ErrorCode) (c c' : Coordinator R) : Prop :=
  ∃ before after entry, c.findExperiment publication.experiment = some before ∧
    c'.findExperiment publication.experiment = some after ∧
    after.rejectedEvidence = before.rejectedEvidence ++ [entry] ∧
    entry.identifier = publication.identifier ∧ entry.kind = publication.kind ∧ entry.reason = code

theorem Audited.of_refused {publication : Publication R} {c c' : Coordinator R}
    {record : ExperimentRecord R} {observations : List (Observation R)} {verdict : Status}
    (room : record.rejectedEvidence.length < 65536)
    (left : EvidenceRefused c c' publication.experiment record observations
      (record.rejections publication.kind publication.identifier verdict)) :
    publication.Audited verdict.code c c' := by
  have after := left.find publication.experiment
  rw [if_pos rfl] at after
  refine ⟨record, _, ⟨publication.kind, publication.identifier, verdict.code, verdict.reason⟩,
    left.found, after, ?_, rfl, rfl, rfl⟩
  rw [ExperimentRecord.withEvidence, ExperimentRecord.rejections, ExperimentRecord.reject,
    if_pos room]

end Publication

/-! ## Refusals of authority -/

section Refusals

variable [MetricReal R] {c : Coordinator R} {record : ExperimentRecord R} {failure : Status}
  {fault : Option SaveFault}

omit [MetricReal R] in
/-- An answer of the authority stage after a refused envelope carries the code of the verdict. -/
theorem refused_code {prepared saved : Coordinator R} {verdict : Status}
    (refused : (match prepared.settle fault id () with
      | (saved, .error other) => (saved, .error other)
      | (saved, .ok ()) =>
          (saved, .error (authorityError verdict.code verdict.reason)) :
        Coordinator R × Result Unit) = (saved, .error failure))
    (stage : failure.stage = .authority) : failure.code = verdict.code := by
  split at refused
  · rename_i unsaved other stopped
    obtain rfl : other = failure := Except.error.inj (Prod.mk.inj refused).2
    exact absurd stage (fails_settle fault id () other (by rw [stopped]))
  · obtain rfl := Except.error.inj (Prod.mk.inj refused).2
    rfl

/-- An observation is refused for its authority only by the envelope check, which is recorded. -/
theorem publishObservation_audited {request : PublishObservationRequest R}
    (found : c.findExperiment request.observation.experiment = some record)
    (room : record.rejectedEvidence.length < 65536)
    (refused : (c.publishObservation request fault).2 = .error failure)
    (stage : failure.stage = .authority) :
    (Publication.observation request).Audited failure.code c
      (c.publishObservation request fault).1 := by
  have answered : c.publishObservation request fault =
      ((c.publishObservation request fault).1, .error failure) := Prod.ext rfl refused
  cases checked : c.checkEnvelope (observationEnvelope request record) with
  | error verdict =>
      rw [Coordinator.publishObservation_refused found checked]
      simp only [Coordinator.publishObservation, found, checked] at answered
      rw [refused_code answered stage]
      exact .of_refused room ((Coordinator.rejectObservation_refused verdict found).persistLocked _)
  | ok check =>
      refine absurd stage ?_
      simp only [Coordinator.publishObservation, found, checked] at refused
      split at refused
      · rename_i other admitted
        obtain rfl : other = failure := Except.error.inj refused
        exact fails_admitObservation request.observation other admitted
      · cases refused
      · exact fails_settle _ _ _ failure refused

omit [MetricReal R] in
/-- The envelope of an artifact can be built exactly when its branch and its attempt are known. -/
theorem artifactEnvelope_ok_iff {request : PublishArtifactRequest} :
    (∃ envelope, artifactEnvelope request record = .ok envelope) ↔
      (Publication.artifact request).Resolves record := by
  simp only [artifactEnvelope, demand_bind_eq_ok, Publication.Resolves, Option.isSome_iff_exists]
  constructor
  · rintro ⟨envelope, branch, named, attempt, held, -⟩
    exact ⟨⟨branch, named⟩, ⟨attempt, held⟩⟩
  · rintro ⟨⟨branch, named⟩, ⟨attempt, held⟩⟩
    exact ⟨_, branch, named, attempt, held, rfl⟩

omit [MetricReal R] in
/-- An artifact that names a known branch and a known attempt is refused for its authority only by
the envelope check, which is recorded; otherwise nothing changes. -/
theorem publishArtifact_audited_iff {request : PublishArtifactRequest}
    (found : c.findExperiment request.artifact.experiment = some record)
    (room : record.rejectedEvidence.length < 65536)
    (refused : (c.publishArtifact request fault).2 = .error failure)
    (stage : failure.stage = .authority) :
    (Publication.artifact request : Publication R).Audited failure.code c
      (c.publishArtifact request fault).1 ↔ (Publication.artifact request).Resolves record := by
  have answered : c.publishArtifact request fault =
      ((c.publishArtifact request fault).1, .error failure) := Prod.ext rfl refused
  cases built : artifactEnvelope request record with
  | error early =>
      have unresolved : ¬ (Publication.artifact request).Resolves record := fun resolved => by
        obtain ⟨envelope, other⟩ := artifactEnvelope_ok_iff.mpr resolved
        rw [built] at other
        cases other
      refine iff_of_false ?_ unresolved
      rintro ⟨before, after, entry, held, kept, grown, -⟩
      simp only [Coordinator.publishArtifact, found, built] at kept
      obtain rfl := Option.some.inj (held.symm.trans kept)
      simp at grown
  | ok envelope =>
      refine iff_of_true ?_ (artifactEnvelope_ok_iff.mp ⟨envelope, built⟩)
      cases checked : c.checkEnvelope envelope with
      | error verdict =>
          have left := Coordinator.publishArtifact_refused found built checked fault
          simp only [Coordinator.publishArtifact, found, built, checked] at answered
          rw [refused_code answered stage]
          exact .of_refused room left
      | ok check =>
          refine absurd stage ?_
          simp only [Coordinator.publishArtifact, found, built, checked] at refused
          split at refused
          · rename_i other admitted
            obtain rfl : other = failure := Except.error.inj refused
            exact fails_admitArtifact check.trial request.artifact other admitted
          · cases refused
          · exact fails_settle _ _ _ failure refused

/-- While the rejection log has room, a refusal of authority is recorded exactly when the
publication is an observation or names a branch and an attempt the experiment knows. -/
theorem refusal_audited_iff {publication : Publication R}
    (found : c.findExperiment publication.experiment = some record)
    (room : record.rejectedEvidence.length < 65536)
    (refused : (publication.deliver c fault).2 = .error failure)
    (stage : failure.stage = .authority) :
    publication.Audited failure.code c (publication.deliver c fault).1 ↔
      publication.Resolves record := by
  cases publication with
  | observation request =>
      exact iff_of_true (publishObservation_audited found room refused stage) trivial
  | artifact request => exact publishArtifact_audited_iff found room refused stage

end Refusals

namespace Sample

/-- The claimed worker publishes an artifact of its attempt under another epoch. -/
def staleArtifact : PublishArtifactRequest where
  epoch := ⟨2⟩
  worker := worker
  boot := boot
  artifact :=
    { id := ⟨1⟩, experiment := experiment, branch := candidate, trial := trial, attempt := ⟨1⟩,
      locator := text "report" }

/-- The artifact names a branch that does not exist. -/
def strayArtifact : PublishArtifactRequest :=
  { staleArtifact with artifact := { staleArtifact.artifact with branch := ⟨9⟩ } }

/-- The stage at which the claimed coordinator refuses an artifact. -/
def refusalStage (request : PublishArtifactRequest) : Option ErrorStage :=
  match (claimed.publishArtifact request none).2 with
  | .ok _ => none
  | .error failure => some failure.stage

theorem refused_of_stage {request : PublishArtifactRequest}
    (stage : refusalStage request = some .authority) :
    ∃ failure, (claimed.publishArtifact request none).2 = .error failure ∧
      failure.stage = .authority := by
  unfold refusalStage at stage
  split at stage
  · cases stage
  · rename_i failure refused
    exact ⟨failure, refused, Option.some.inj stage⟩

/-- What the claimed coordinator has recorded so far. -/
theorem claimed_log :
    ((claimed.findExperiment experiment).map (·.rejectedEvidence.length)) = some 0 := by
  decide +kernel

end Sample

/-- The artifact of the stale epoch is recorded, the one of an unknown branch is not. -/
theorem refusal_audited_sample :
    ∃ failure, (Sample.claimed.publishArtifact Sample.staleArtifact none).2 = .error failure ∧
      (Publication.artifact Sample.staleArtifact : Publication ℚ).Audited failure.code
        Sample.claimed (Sample.claimed.publishArtifact Sample.staleArtifact none).1 := by
  obtain ⟨record, found, size⟩ := Option.map_eq_some_iff.mp Sample.claimed_log
  obtain ⟨failure, refused, stage⟩ := Sample.refused_of_stage
    (show Sample.refusalStage Sample.staleArtifact = some .authority by decide +kernel)
  have known : (Sample.claimed.findExperiment Sample.experiment).all (fun record =>
      (record.findBranch Sample.candidate).isSome && (record.attempts.find? ⟨1⟩).isSome) = true := by
    decide +kernel
  rw [found] at known
  have resolved : (Publication.artifact Sample.staleArtifact).Resolves record :=
    Bool.and_eq_true_iff.mp known
  have delivered : ((Publication.artifact Sample.staleArtifact : Publication ℚ).deliver
      Sample.claimed none).2 = .error failure := refused
  exact ⟨failure, refused, (refusal_audited_iff found (by omega) delivered stage).mpr resolved⟩

/-- An artifact of a branch that does not exist is refused for its authority and not recorded. -/
theorem stray_artifact_unrecorded :
    (World.running Sample.claimed).Reachable Sample.config.statePath ∧
    ∃ record failure, Sample.claimed.findExperiment Sample.experiment = some record ∧
      record.rejectedEvidence.length < 65536 ∧
      (Sample.claimed.publishArtifact Sample.strayArtifact none).2 = .error failure ∧
      failure.stage = .authority ∧
      ¬ (Publication.artifact Sample.strayArtifact : Publication ℚ).Audited failure.code
        Sample.claimed (Sample.claimed.publishArtifact Sample.strayArtifact none).1 := by
  obtain ⟨record, found, size⟩ := Option.map_eq_some_iff.mp Sample.claimed_log
  obtain ⟨failure, refused, stage⟩ := Sample.refused_of_stage
    (show Sample.refusalStage Sample.strayArtifact = some .authority by decide +kernel)
  refine ⟨Sample.claimed_reachable, record, failure, found, by omega, refused, stage, ?_⟩
  have after : ((Sample.claimed.publishArtifact Sample.strayArtifact none).1.findExperiment
      Sample.experiment).map (·.rejectedEvidence.length) = some 0 := by
    decide +kernel
  rintro ⟨before, recorded, entry, held, kept, grown, -⟩
  have kept : (Sample.claimed.publishArtifact Sample.strayArtifact none).1.findExperiment
      Sample.experiment = some recorded := kept
  rw [kept, Option.map_some, grown] at after
  simp at after

end ExperimentFabric
