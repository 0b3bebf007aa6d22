import ExperimentFabric.Authorization

/-!
# Observations of a record

A change of a record keeps its metrics, and adds at most one observation: a refused one, which is
kept as history and is not valid, or a submitted one that was admitted.
-/

namespace ExperimentFabric

open Lib Relation

variable {R : Type}

theorem observe_observations (record : ExperimentRecord R) (trial : TrialRecord)
    (attempt : AttemptRecord) (trialKey : TrialId) (attemptKey : TrialAttemptId) (sequence : Nat) :
    (record.observe trial attempt trialKey attemptKey sequence).1.observations =
      record.observations := by
  obtain ⟨trials, attempts, same⟩ :=
    observe_frame record trial attempt trialKey attemptKey sequence
  rw [same]

theorem loseWorker_observations (worker : WorkerId) (boot : WorkerBootId) (kind : FailureKind)
    (attemptDetail trialDetail : Text) (sequence : Nat) (line : Text)
    (record : ExperimentRecord R) :
    (record.loseWorker worker boot kind attemptDetail trialDetail sequence line).observations =
      record.observations := by
  obtain ⟨trials, attempts, lines, same⟩ :=
    loseWorker_frame worker boot kind attemptDetail trialDetail sequence line record
  rw [same]

variable [MetricReal R]

/-- What a change does to the observations of a record. -/
inductive Observing (c : Coordinator R) (record after : ExperimentRecord R) : Prop where
  | nothing (same : after.observations = record.observations)
  | history (observation : Observation R)
      (added : after.observations = record.observations ++ [observation])
      (invalid : observation.validity ≠ .valid)
  | admitted (observation : Observation R) (sequence : Nat)
      (added : after.observations = record.observations ++
        [{ observation with sequence := sequence }])
      (admission : c.admitObservation record observation = .ok (some observation))

/-- A valid observation that a change adds is a submitted one that was admitted. -/
theorem Observing.mem {c : Coordinator R} {record after : ExperimentRecord R}
    (observing : Observing c record after) {observation : Observation R}
    (member : observation ∈ after.observations) :
    observation ∈ record.observations ∨ (observation.validity = .valid →
      ∃ (submitted : Observation R) (sequence : Nat),
        observation = { submitted with sequence := sequence } ∧
          c.admitObservation record submitted = .ok (some submitted)) := by
  cases observing with
  | nothing same => exact .inl (same ▸ member)
  | history retained added invalid =>
      rw [added, List.mem_append, List.mem_singleton] at member
      rcases member with before | rfl
      · exact .inl before
      · exact .inr fun valid => (invalid valid).elim
  | admitted submitted sequence added admission =>
      rw [added, List.mem_append, List.mem_singleton] at member
      rcases member with before | rfl
      · exact .inl before
      · exact .inr fun _ => ⟨submitted, sequence, rfl, admission⟩

variable [CanonicalDigests R]

theorem Effect.observing {c : Coordinator R} {experiment : ExperimentId}
    {record after : ExperimentRecord R} {marks : Watermarks} {request : Request R}
    (effect : Effect c experiment record marks request after) : Observing c record after := by
  cases effect with
  | @refuseObservation publication verdict named found refused =>
      obtain ⟨rejected, same⟩ :=
        reject_frame record (text "observation") publication.observation.id.value verdict
      unfold Coordinator.refusedObservation
      dsimp only
      rw [same]
      split
      · refine .history (Coordinator.historical publication.observation verdict
          (c.currentSequence + 1)) rfl ?_
        exact fun valid => nomatch valid
      · exact .nothing rfl
  | @publishObservation publication branch trial attempt admitted named accepted admission =>
      obtain ⟨rfl, allowed⟩ := Coordinator.admitObservation_ok admission
      refine .admitted publication.observation (c.currentSequence + 1) ?_ admission
      rw [observe_observations]
      rfl
  | publishObservationUndone named accepted => exact .nothing (observe_observations _ _ _ _ _ _)
  | refuseArtifact named found built refused =>
      obtain ⟨rejected, same⟩ := reject_frame record _ _ _
      exact .nothing (by rw [same])
  | registerArtifacts named guarded refused stored =>
      subst named
      exact .nothing (registered_pair guarded stored).observations
  | commit named guarded accepted stored =>
      subst named
      exact .nothing (registered_pair guarded stored).observations
  | fail named guarded => exact .nothing (fail_evidence _ _ _ _ _ _ _ _).1
  | _ => exact .nothing rfl

theorem Effect.metrics {c : Coordinator R} {experiment : ExperimentId}
    {record after : ExperimentRecord R} {marks : Watermarks} {request : Request R}
    (effect : Effect c experiment record marks request after) :
    after.definition.metrics = record.definition.metrics :=
  effect.view_fixed ExperimentDefinition.metrics fun _ _ _ _ => rfl

end ExperimentFabric
