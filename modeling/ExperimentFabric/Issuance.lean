import ExperimentFabric.Incarnations

/-!
# What a claim issues

The claim loop keeps the definition and the state of every experiment.  Every attempt it leaves is an
old one, unchanged, or was issued to the claiming incarnation together with an assignment that
carries its envelope.
-/

namespace ExperimentFabric

open Lib Relation

variable {R : Type}

/-- The attempt was issued by a claim: it names its trial, and an assignment carries its envelope. -/
structure IssuedBy (claim : ClaimTrialRequest) (epoch : CoordinatorEpoch) (producer : ProducerId)
    (assignments : List TrialAssignment) (record : ExperimentRecord R) (attempt : AttemptRecord) :
    Prop where
  worker : attempt.worker = claim.worker
  boot : attempt.boot = claim.boot
  epoch : attempt.epoch = epoch
  producer : attempt.producer = producer
  trial : ∃ key trial, record.trials.find? key = some trial ∧ attempt.trial = trial.id ∧
    attempt.branch = trial.branch ∧ attempt.branchGeneration = trial.branchGeneration
  assigned : ∃ assignment ∈ assignments, assignment.envelope = record.envelopeOf attempt

/-- A record before and after a claim. -/
structure ClaimedFrom (claim : ClaimTrialRequest) (epoch : CoordinatorEpoch) (producer : ProducerId)
    (assignments : List TrialAssignment) (old new : ExperimentRecord R) : Prop where
  state : new.state = old.state
  definition : new.definition = old.definition
  trials : OrderedMap.Evolves TrialKept old.trials new.trials
  attempts : ∀ id attempt, new.attempts.find? id = some attempt →
    old.attempts.find? id = some attempt ∨
      IssuedBy claim epoch producer assignments new attempt

theorem ClaimedFrom.refl {claim : ClaimTrialRequest} {epoch : CoordinatorEpoch}
    {producer : ProducerId} {assignments : List TrialAssignment} (record : ExperimentRecord R) :
    ClaimedFrom claim epoch producer assignments record record :=
  ⟨rfl, rfl, .refl .refl, fun _ _ found => .inl found⟩

theorem ClaimedFrom.mono {claim : ClaimTrialRequest} {epoch : CoordinatorEpoch}
    {producer : ProducerId} {assignments more : List TrialAssignment}
    {old new : ExperimentRecord R} (claimed : ClaimedFrom claim epoch producer assignments old new)
    (grows : assignments ⊆ more) : ClaimedFrom claim epoch producer more old new where
  state := claimed.state
  definition := claimed.definition
  trials := claimed.trials
  attempts := fun id attempt found => by
    rcases claimed.attempts id attempt found with earlier | issued
    · exact .inl earlier
    · obtain ⟨assignment, listed, same⟩ := issued.assigned
      exact .inr { issued with assigned := ⟨assignment, grows listed, same⟩ }

/-- One more attempt is issued. -/
theorem ClaimedFrom.issue {claim : ClaimTrialRequest} {epoch : CoordinatorEpoch}
    {producer : ProducerId} {assignments : List TrialAssignment} {old new : ExperimentRecord R}
    (claimed : ClaimedFrom claim epoch producer assignments old new) {key : TrialId}
    {trial : TrialRecord} {attempt : AttemptRecord} {sequence : Nat}
    (trialFound : new.trials.find? key = some trial) (ready : trial.state = .ready)
    (worker : attempt.worker = claim.worker) (boot : attempt.boot = claim.boot)
    (sameEpoch : attempt.epoch = epoch) (sameProducer : attempt.producer = producer)
    (named : attempt.trial = trial.id ∧ attempt.branch = trial.branch ∧
      attempt.branchGeneration = trial.branchGeneration)
    {assignment : TrialAssignment} (carries : assignment.envelope = new.envelopeOf attempt) :
    ClaimedFrom claim epoch producer (assignments ++ [assignment]) old
      (new.issue key attempt sequence) := by
  have evolves : OrderedMap.Evolves TrialKept new.trials (new.issue key attempt sequence).trials := by
    unfold ExperimentRecord.issue
    dsimp only
    apply OrderedMap.Evolves.modify TrialKept.refl
    intro value found
    obtain rfl := Option.some.inj (found.symm.trans trialFound)
    exact .ofOpen rfl (by rw [ready]; rfl)
  have trialOf : ∀ {id : TrialId} {value : TrialRecord} {issued : AttemptRecord},
      new.trials.find? id = some value → issued.trial = value.id ∧ issued.branch = value.branch ∧
        issued.branchGeneration = value.branchGeneration →
      ∃ id value, (new.issue key attempt sequence).trials.find? id = some value ∧
        issued.trial = value.id ∧ issued.branch = value.branch ∧
        issued.branchGeneration = value.branchGeneration := by
    intro id value issued found names
    obtain ⟨value', lookup, kept⟩ := evolves.extends_ id value found
    have sameId := congrArg TrialRecord.id kept.fixed
    have sameBranch := congrArg TrialRecord.branch kept.fixed
    have sameGeneration := congrArg TrialRecord.branchGeneration kept.fixed
    exact ⟨id, value', lookup, names.1.trans sameId.symm, names.2.1.trans sameBranch.symm,
      names.2.2.trans sameGeneration.symm⟩
  refine ⟨claimed.state, claimed.definition, claimed.trials.trans .trans evolves, ?_⟩
  intro id held found
  rcases ExperimentRecord.find?_issue found with present | ⟨-, rfl⟩
  · rcases claimed.attempts id held present with before | issued
    · exact .inl before
    · obtain ⟨assigned, listed, same⟩ := issued.assigned
      obtain ⟨heldKey, heldTrial, heldFound, names⟩ := issued.trial
      exact .inr ⟨issued.worker, issued.boot, issued.epoch, issued.producer,
        trialOf heldFound names, assigned, List.mem_append_left _ listed, same⟩
  · exact .inr ⟨worker, boot, sameEpoch, sameProducer, trialOf trialFound named, assignment,
      List.mem_append_right _ (List.mem_singleton_self _), carries⟩

/-- What a claim has done so far. -/
structure ClaimInvariant (c : Coordinator R) (claim : ClaimTrialRequest) (producer : ProducerId)
    (progress : ClaimProgress R) : Prop where
  epoch : progress.coordinator.epoch = c.epoch
  workers : progress.coordinator.liveWorkers = c.liveWorkers
  records : ∀ id record', progress.coordinator.findExperiment id = some record' →
    ∃ record, c.findExperiment id = some record ∧
      ClaimedFrom claim c.epoch producer progress.assignments record record'

namespace Coordinator

variable {c : Coordinator R} {claim : ClaimTrialRequest} {producer : ProducerId}

theorem claimTrial_invariant {progress : ClaimProgress R}
    (invariant : ClaimInvariant c claim producer progress) (experiment : ExperimentId)
    (key : TrialId) :
    ClaimInvariant c claim producer (claimTrial claim producer experiment progress key) := by
  unfold claimTrial
  split
  · exact invariant
  · split
    · exact invariant
    · rename_i record found
      split
      · exact invariant
      · rename_i trial trialFound
        split
        · exact invariant
        · rename_i branch claimable
          dsimp only
          refine ⟨invariant.epoch, invariant.workers, fun id record' lookup => ?_⟩
          simp only [findExperiment, withRecord, withExperiments, OrderedMap.find?_assign] at lookup
          split at lookup
          · rename_i here
            obtain rfl := Option.some.inj lookup
            obtain ⟨original, earlier, claimed⟩ := invariant.records experiment record found
            refine ⟨original, here ▸ earlier, claimed.issue trialFound (claimable_ready claimable)
              rfl rfl ?_ rfl ⟨rfl, rfl, rfl⟩ rfl⟩
            exact invariant.epoch
          · obtain ⟨original, earlier, claimed⟩ := invariant.records id record' lookup
            exact ⟨original, earlier, claimed.mono fun _ => List.mem_append_left _⟩

theorem claimLoop_invariant (c : Coordinator R) (claim : ClaimTrialRequest) (live : LiveWorker) :
    ClaimInvariant c claim live.producer (c.claimLoop claim live) :=
  claimLoop_keeps c live
    (fun _ experiment key invariant => claimTrial_invariant invariant experiment key)
    fun _ => ⟨rfl, rfl, fun _ record found => ⟨record, found, .refl record⟩⟩

/-- A refused claim changes nothing; an accepted one ends as its loop does, up to the load of the
worker. -/
theorem claimTrials_spec (c : Coordinator R) (claim : ClaimTrialRequest)
    (fault : Option SaveFault) :
    (c.claimTrials claim fault).1 = c ∨
      ∃ live, c.claimTrialsGuard claim = .ok live ∧
        ClaimInvariant c claim live.producer (c.claimLoop claim live) ∧
        (c.claimTrials claim fault).1.state = (c.claimLoop claim live).coordinator.state ∧
        (c.claimTrials claim fault).1.liveWorkers =
          ((c.claimLoop claim live).coordinator.countAssignments claim
            (c.activeAttempts claim.worker claim.boot)
            (c.claimLoop claim live).assignments.length).liveWorkers ∧
        (c.claimTrials claim fault).2.assignments = (c.claimLoop claim live).assignments := by
  unfold claimTrials
  split
  · exact .inl rfl
  · rename_i live guarded
    refine .inr ⟨live, guarded, c.claimLoop_invariant claim live, ?_⟩
    dsimp only
    split
    · rename_i none
      exact ⟨rfl, rfl, (List.isEmpty_iff.mp none).symm⟩
    · refine ⟨?_, ?_, rfl⟩
      · rw [settle_id_fst, persistLocked_state]
        rfl
      · rw [settle_id_liveWorkers]

end Coordinator

end ExperimentFabric
