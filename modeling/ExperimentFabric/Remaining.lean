import ExperimentFabric.Conduct
import ExperimentFabric.Planning
import ExperimentFabric.RemoteWork
import ExperimentFabric.Registrations
import ExperimentFabric.Retries

/-!
# What is left for a worker

Trials have a bounded number of attempts, and no request but the two that make trials adds to those
that are left; a claim uses one up for each of its assignments.  A worker that the coordinator has in
its table keeps its seat there, and loses what it may do with it only when its incarnation is
revoked, after which it is never registered again.
-/

namespace ExperimentFabric

open Lib Protocol

variable {R : Type}

/-! ## Attempts that are left -/

/-- The attempts that the trials of an experiment may still be given. -/
def ExperimentRecord.spare (record : ExperimentRecord R) : Nat :=
  (record.trials.values.map fun trial =>
    record.definition.maxAttemptsPerTrial - trial.attemptCount).sum

/-- The attempts that the trials of all experiments may still be given. -/
def spareOf (experiments : OrderedMap ExperimentId (ExperimentRecord R)) : Nat :=
  (experiments.values.map ExperimentRecord.spare).sum

/-- The attempts that the trials of a coordinator may still be given. -/
def CoordinatorState.spare (state : CoordinatorState R) : Nat := spareOf state.experiments

namespace ExperimentRecord

variable {record after : ExperimentRecord R}

theorem spare_congr
    (budget : after.definition.maxAttemptsPerTrial = record.definition.maxAttemptsPerTrial)
    (trials : OrderedMap.Evolves KeepsCount record.trials after.trials) :
    after.spare = record.spare := by
  unfold spare
  rw [budget]
  refine congrArg List.sum (trials.view fun trial trial' kept => ?_)
  rw [kept.attemptCount]

/-- Issuing an attempt uses one up. -/
theorem spare_issue {key : TrialId} {trial : TrialRecord}
    (found : record.trials.find? key = some trial)
    (room : trial.attemptCount < record.definition.maxAttemptsPerTrial) (attempt : AttemptRecord)
    (sequence : Nat) : (record.issue key attempt sequence).spare + 1 = record.spare := by
  let issued : TrialRecord :=
    { trial with
      attemptCount := trial.attemptCount + 1
      nextAttemptNumber := ⟨attempt.number.value + 1⟩
      authoritativeAttempt := attempt.id
      state := .assigned
      updatedSequence := sequence }
  have trials : (record.issue key attempt sequence).trials = record.trials.assign key issued := by
    dsimp only [ExperimentRecord.issue]
    exact OrderedMap.modify_eq_assign found _
  have summed := OrderedMap.sum_values_assign found issued fun trial =>
    record.definition.maxAttemptsPerTrial - trial.attemptCount
  unfold spare
  rw [trials]
  change ((record.trials.assign key issued).values.map fun trial =>
    record.definition.maxAttemptsPerTrial - trial.attemptCount).sum + 1 = _
  change _ = _ + (record.definition.maxAttemptsPerTrial - (trial.attemptCount + 1)) at summed
  omega

end ExperimentRecord

namespace CoordinatorState

variable {old new : CoordinatorState R}

/-- Replacing a record changes the attempts that are left by those of the record. -/
theorem spare_assign {experiment : ExperimentId} {before after : ExperimentRecord R}
    (found : old.experiments.find? experiment = some before)
    (stored : new.experiments = old.experiments.assign experiment after) :
    new.spare + before.spare = old.spare + after.spare := by
  unfold spare spareOf
  rw [stored]
  exact OrderedMap.sum_values_assign found after ExperimentRecord.spare

end CoordinatorState

variable [MetricReal R] [CanonicalDigests R]

/-- A step of a request that makes no trials adds no attempts. -/
theorem StateStep.spare_le {c : Coordinator R} {request : Request R} {old new : CoordinatorState R}
    (step : StateStep c request old new) (creates : request.creates = false) : new.spare ≤ old.spare := by
  cases step with
  | quiet same workers => exact (congrArg spareOf same).le
  | @change _ before after found effect stored workers =>
      have rule := effect.keepsRetryRule
      have kept := ExperimentRecord.spare_congr rule.1 (moves_keepsCount effect.moves)
      have summed := CoordinatorState.spare_assign found stored
      omega
  | create named =>
      rw [named] at creates
      cases creates
  | addTrial named =>
      rw [named] at creates
      cases creates
  | addTrialUndone named =>
      rw [named] at creates
      cases creates
  | @issue claim live experiment record key trial branch id sequence named guarded found opened
      trialFound claimable fresh allocated stored workers =>
      have used := ExperimentRecord.spare_issue trialFound (claimable_allows claimable).1
        (record.newAttempt trial id claim.worker claim.boot c.epoch live.producer sequence) sequence
      have summed := CoordinatorState.spare_assign found stored
      omega
  | @lose worker boot kind attemptDetail trialDetail line sequence named stored workers =>
      have kept : ∀ record : ExperimentRecord R, (record.loseWorker worker boot kind attemptDetail
          trialDetail sequence line).spare = record.spare := by
        intro record
        have definition := (loseWorker_fields worker boot kind attemptDetail trialDetail sequence
          line record).2
        exact ExperimentRecord.spare_congr (by rw [definition]) (loseWorker_keepsCount ..)
      rw [CoordinatorState.spare, spareOf, stored, OrderedMap.values_mapValues, List.map_map]
      exact (congrArg List.sum (List.map_congr_left fun record _ => kept record)).le
  | register named guarded fresh identity same workers => exact (congrArg spareOf same).le

/-! ## What other callers keep -/

/-- A later state of the coordinator for which no trials were made in between. -/
structure Coordinator.Onward (c c' : Coordinator R) : Prop where
  reachable : ∀ path, (World.running c).Reachable path → (World.running c').Reachable path
  epoch : c'.epoch = c.epoch
  spare : c'.state.spare ≤ c.state.spare
  live : ∀ worker boot live, c.findLiveWorker worker boot = some live →
    ∃ live', c'.findLiveWorker worker boot = some live' ∧ LiveKept live live'

/-- None of the other callers makes trials. -/
def Turn.CreatesNone (turn : Turn R) : Prop :=
  ∀ request ∈ turn.others, request.1.creates = false

namespace Coordinator

theorem Onward.refl (c : Coordinator R) : Onward c c where
  reachable _ := id
  epoch := rfl
  spare := le_rfl
  live _ _ live found := ⟨live, found, .refl live⟩

theorem Onward.trans {first second third : Coordinator R} (earlier : Onward first second)
    (later : Onward second third) : Onward first third where
  reachable path := later.reachable path ∘ earlier.reachable path
  epoch := later.epoch.trans earlier.epoch
  spare := later.spare.trans earlier.spare
  live worker boot live found := by
    obtain ⟨middle, held, kept⟩ := earlier.live worker boot live found
    obtain ⟨last, reached, keeps⟩ := later.live worker boot middle held
    exact ⟨last, reached, kept.trans _ _ _ keeps⟩

/-- An incarnation keeps its entry, and stays revoked when it is. -/
theorem perform_live (c : Coordinator R) (request : Request R) (fault : Option SaveFault)
    {worker : WorkerId} {boot : WorkerBootId} {live : LiveWorker}
    (found : c.findLiveWorker worker boot = some live) :
    ∃ live', (c.perform request fault).1.findLiveWorker worker boot = some live' ∧
      LiveKept live live' := by
  cases c.perform_liveChange request fault with
  | kept workers => exact workers.extends_ _ live found
  | @registered registration guarded unknown fresh workers state saved =>
      obtain ⟨live', held, kept⟩ := (replacing_kept c registration).extends_ _ live found
      refine ⟨live', ?_, kept⟩
      have other : workerKey worker boot ≠ workerKey registration.worker registration.boot := by
        intro same
        obtain ⟨rfl, rfl⟩ := workerKey_inj same
        rw [unknown] at found
        cases found
      rw [findLiveWorker, workers, addWorker, OrderedMap.find?_emplace, if_neg other]
      exact held

theorem perform_onward (c : Coordinator R) (request : Request R) (creates : request.creates = false)
    (fault : Option SaveFault) : Onward c (c.perform request fault).1 where
  reachable _ reached := reached.step (.request c request fault)
  epoch := (c.perform_operated request fault).epoch
  spare := by
    have steps := c.perform_steps request fault
    generalize (c.perform request fault).1.state = after at steps ⊢
    induction steps with
    | refl => exact le_rfl
    | tail _ last ih => exact (last.1.spare_le creates).trans ih
  live _ _ _ found := c.perform_live request fault found

theorem session_onward {requests : List (Request R × Option SaveFault)}
    (none_ : ∀ request ∈ requests, request.1.creates = false) (c : Coordinator R) :
    Onward c (c.session requests) := by
  induction requests generalizing c with
  | nil => exact .refl c
  | cons request rest ih =>
      have here := c.perform_onward request.1 (none_ _ List.mem_cons_self) request.2
      exact here.trans (ih (fun other member => none_ other (List.mem_cons_of_mem _ member)) _)

/-! ## Seats -/

/-- The worker has the epoch of the coordinator and an entry in its table. -/
def Seats (c : Coordinator R) (worker : Worker) : Prop :=
  worker.epoch = c.epoch ∧ (c.findLiveWorker worker.config.worker worker.boot).isSome = true

instance (c : Coordinator R) (worker : Worker) : Decidable (c.Seats worker) :=
  inferInstanceAs (Decidable (_ ∧ _))

/-- The entry of the worker is revoked. -/
def Expels (c : Coordinator R) (worker : Worker) : Prop :=
  ∃ live, c.findLiveWorker worker.config.worker worker.boot = some live ∧ live.revoked = true

/-- The steps a worker may still take: every attempt that is left stands for itself and for a seat
that may be lost while it is used up. -/
def owed (c : Coordinator R) (worker : Worker) : Nat :=
  2 * c.state.spare + if c.Seats worker then 0 else 1

section Onward

omit [MetricReal R] [CanonicalDigests R]

variable {c : Coordinator R} {worker : Worker}

theorem owed_of_seats (seated : c.Seats worker) : c.owed worker = 2 * c.state.spare := by
  rw [owed, if_pos seated, Nat.add_zero]

theorem owed_of_not_seats (unseated : ¬ c.Seats worker) :
    c.owed worker = 2 * c.state.spare + 1 := by
  rw [owed, if_neg unseated]

theorem owed_le (c : Coordinator R) (worker : Worker) : c.owed worker ≤ 2 * c.state.spare + 1 := by
  unfold owed
  split <;> omega

end Onward

section

variable {c c' : Coordinator R} {worker : Worker}

theorem Onward.seats (onward : Onward c c') (seated : c.Seats worker) : c'.Seats worker := by
  obtain ⟨live, found⟩ := Option.isSome_iff_exists.mp seated.2
  obtain ⟨live', held, -⟩ := onward.live _ _ live found
  exact ⟨seated.1.trans onward.epoch.symm, Option.isSome_iff_exists.mpr ⟨live', held⟩⟩

theorem Onward.expels (onward : Onward c c') (expelled : c.Expels worker) :
    c'.Expels worker := by
  obtain ⟨live, found, revoked⟩ := expelled
  obtain ⟨live', held, kept⟩ := onward.live _ _ live found
  exact ⟨live', held, kept.revoked revoked⟩

theorem Onward.owed_le (onward : Onward c c') (worker : Worker) :
    c'.owed worker ≤ c.owed worker := by
  have spare := onward.spare
  by_cases seated : c.Seats worker
  · rw [owed_of_seats seated, owed_of_seats (onward.seats seated)]
    omega
  · have bound := c'.owed_le worker
    rw [owed_of_not_seats seated]
    omega

end

/-! ## Refusals -/

section Refusals

omit [MetricReal R] [CanonicalDigests R]

variable {c : Coordinator R}

/-- A status with the code of an acceptance is one, where failures have other codes. -/
theorem ok_of_code {result : Result Unit} (fails : Fails result fun failure => failure.code ≠ .ok)
    (accepted : (Status.ofResult result).code = .ok) : result = .ok () := by
  cases result with
  | ok done => rfl
  | error failure => exact (fails failure rfl accepted).elim

/-- What a save that failed is not taken for. -/
theorem unsaved_code {failure : Status}
    (unsaved : failure.code = .persistenceFailure ∨ failure.code = .resourceExhausted) :
    failure.code ≠ .ok ∧ failure.code ≠ .notFound ∧ ¬ failure.Fenced := by
  unfold Status.Fenced
  rcases unsaved with same | same <;> rw [same] <;> decide

theorem persistLocked_fails (c : Coordinator R) (fault : Option SaveFault) (required : Bool) :
    Fails (c.persistLocked fault required).2 fun failure =>
      failure.code = .persistenceFailure ∨ failure.code = .resourceExhausted := by
  intro failure failed
  have serialized : Fails (serializable c.state c.limits) fun failure : Status =>
      failure.code = .persistenceFailure ∨ failure.code = .resourceExhausted := by
    refine .sequence ?_
    simp only [List.mem_cons, List.not_mem_nil, or_false]
    rintro check (rfl | rfl)
    · exact .require (.inl rfl)
    · exact .require (.inr rfl)
  unfold persistLocked at failed
  split at failed
  · cases failed
  split at failed
  · cases failed
  split at failed
  · rename_i refused
    cases failed
    exact serialized _ refused
  · split at failed
    · cases failed
      exact .inl rfl
    · cases failed

theorem settle_fails {α : Type} (c : Coordinator R) (fault : Option SaveFault)
    (undo : Coordinator R → Coordinator R) (value : α) :
    Fails (c.settle fault undo value).2 fun failure =>
      failure.code = .persistenceFailure ∨ failure.code = .resourceExhausted := by
  intro failure failed
  rcases c.settle_cases fault undo value with ⟨saved, persisted, ended⟩ |
    ⟨unsaved, refused, persisted, ended⟩
  · rw [ended] at failed
    cases failed
  · rw [ended] at failed
    cases failed
    exact c.persistLocked_fails fault true failure (congrArg Prod.snd persisted)

/-- How a claim is refused: the refusal never reads as an acceptance or as the end of the work. -/
theorem claimTrialsGuard_fails (c : Coordinator R) (claim : ClaimTrialRequest) :
    Fails (c.claimTrialsGuard claim) fun failure =>
      failure.code ≠ .ok ∧ failure.code ≠ .notFound := by
  have coded : ∀ code reason, code ≠ .ok → code ≠ .notFound →
      (authorityError code reason).code ≠ .ok ∧ (authorityError code reason).code ≠ .notFound :=
    fun _ _ refused found => ⟨refused, found⟩
  refine .bind ?_ fun live => .bind (.require (by decide)) fun _ => .pure
  refine .bind (.require (by decide)) fun _ => .bind (.require ?_) fun _ =>
    .bind (.demand ?_) fun live => .bind (.require ?_) fun _ => .pure
  · exact coded _ _ (by decide) (by decide)
  · exact coded _ _ (by decide) (by decide)
  · exact coded _ _ (by decide) (by decide)

/-- A worker with a seat is refused for its credentials only when it is expelled. -/
theorem claimTrialsGuard_seated {worker : Worker} (seated : c.Seats worker)
    (kept : ¬ c.Expels worker) :
    Fails (c.claimTrialsGuard worker.claim) fun failure => ¬ failure.Fenced := by
  obtain ⟨live, found⟩ := Option.isSome_iff_exists.mp seated.2
  have unrevoked : live.revoked = false := by
    by_contra revoked
    exact kept ⟨live, found, by simpa using revoked⟩
  unfold claimTrialsGuard liveRequester
  rw [decide_eq_true (show worker.claim.epoch = c.epoch from seated.1),
    show c.findLiveWorker worker.claim.worker worker.claim.boot = some live from found]
  refine .bind (.bind (.require ?_) fun _ => .bind .ok fun _ => ?_) fun _ =>
    .bind (.require ?_) fun _ => .pure
  · rintro (stale | stale) <;> cases stale
  · change Fails (Lib.require (!live.revoked) _ >>= _) _
    rw [unrevoked]
    exact .ok
  · rintro (stale | stale) <;> cases stale

/-- How a claim ends: refused, with nothing to issue, or with assignments that were issued whether
or not they were saved. -/
theorem claimTrials_cases (c : Coordinator R) (claim : ClaimTrialRequest)
    (fault : Option SaveFault) :
    (∃ failure, c.claimTrialsGuard claim = .error failure ∧
      c.claimTrials claim fault = (c, { status := .error failure })) ∨
    ∃ live, c.claimTrialsGuard claim = .ok live ∧
      (((c.claimLoop claim live).assignments = [] ∧ c.claimTrials claim fault =
        ((c.claimLoop claim live).coordinator.countAssignments claim
          (c.activeAttempts claim.worker claim.boot) 0, { status := .ok () })) ∨
      ((c.claimLoop claim live).assignments ≠ [] ∧
        (c.claimTrials claim fault).1.state = (c.claimLoop claim live).coordinator.state ∧
        (c.claimTrials claim fault).2.assignments = (c.claimLoop claim live).assignments ∧
        Fails (c.claimTrials claim fault).2.status fun failure =>
          failure.code = .persistenceFailure ∨ failure.code = .resourceExhausted)) := by
  unfold claimTrials
  cases guarded : c.claimTrialsGuard claim with
  | error failure => exact .inl ⟨failure, rfl, rfl⟩
  | ok live =>
      refine .inr ⟨live, rfl, ?_⟩
      dsimp only
      by_cases nothing : (c.claimLoop claim live).assignments = []
      · refine .inl ⟨nothing, ?_⟩
        rw [nothing, List.isEmpty_nil, if_pos rfl]
        rfl
      · rw [if_neg (by rwa [List.isEmpty_iff])]
        refine .inr ⟨nothing, ?_, rfl, settle_fails _ fault id ()⟩
        exact settle_id_state _ fault ()

/-- Every assignment uses up an attempt. -/
theorem claimTrial_spare (claim : ClaimTrialRequest) (producer : ProducerId)
    (experiment : ExperimentId) (progress : ClaimProgress R) (key : TrialId) :
    (claimTrial claim producer experiment progress key).coordinator.state.spare +
        (claimTrial claim producer experiment progress key).assignments.length =
      progress.coordinator.state.spare + progress.assignments.length := by
  unfold claimTrial
  split
  · rfl
  split
  · rfl
  rename_i record found
  split
  · rfl
  rename_i trial held
  split
  · rfl
  rename_i branch claimable
  let attempt := record.newAttempt trial ⟨progress.coordinator.state.watermarks.attempt + 1⟩
    claim.worker claim.boot progress.coordinator.epoch producer
    (progress.coordinator.state.lastSequence + 1)
  let issued := record.issue key attempt (progress.coordinator.state.lastSequence + 1)
  have used : issued.spare + 1 = record.spare :=
    ExperimentRecord.spare_issue held (claimable_allows claimable).1 ..
  have summed : (progress.coordinator.withRecord experiment issued).state.spare + record.spare =
      progress.coordinator.state.spare + issued.spare := CoordinatorState.spare_assign found rfl
  rw [List.length_append, List.length_singleton]
  change (progress.coordinator.withRecord experiment issued).state.spare + _ = _
  omega

theorem claimLoop_spare (c : Coordinator R) (claim : ClaimTrialRequest) (live : LiveWorker) :
    (c.claimLoop claim live).coordinator.state.spare +
      (c.claimLoop claim live).assignments.length = c.state.spare := by
  let property (progress : ClaimProgress R) : Prop :=
    progress.coordinator.state.spare + progress.assignments.length = c.state.spare
  have looped : property (c.claimLoop claim live) := by
    refine claimLoop_keeps c live (fun progress experiment key counts => ?_) fun _ => rfl
    exact (claimTrial_spare claim live.producer experiment progress key).trans counts
  exact looped

/-- A claim that issues nothing leaves the coordinator alone. -/
theorem claimLoop_idle {c : Coordinator R} {claim : ClaimTrialRequest} {live : LiveWorker}
    (nothing : (c.claimLoop claim live).assignments = []) :
    (c.claimLoop claim live).coordinator = c := by
  let property (progress : ClaimProgress R) : Prop :=
    progress.assignments = [] → progress.coordinator = c
  have looped : property (c.claimLoop claim live) := by
    refine claimLoop_keeps c live (fun progress experiment key idle => ?_) fun _ _ => rfl
    unfold claimTrial
    split
    · exact idle
    split
    · exact idle
    split
    · exact idle
    split
    · exact idle
    · intro issued
      simp at issued
  exact looped nothing

/-- A registration is never refused with the code of an acceptance. -/
theorem registerWorker_fails (c : Coordinator R) (registration : RegisterWorkerRequest)
    (fault : Option SaveFault) :
    Fails (c.registerWorker registration fault).2.status fun failure => failure.code ≠ .ok := by
  have coded : ∀ code reason, code ≠ .ok → (authorityError code reason).code ≠ .ok :=
    fun _ _ refused => refused
  have guarded : Fails (c.registerWorkerGuard registration) fun failure => failure.code ≠ .ok :=
    .bind (.require (by decide)) fun _ => .bind (.require (coded _ _ (by decide))) fun _ =>
      .bind (.require (coded _ _ (by decide))) fun _ => .require (by decide)
  have fresh : ∀ later : Coordinator R,
      Fails (later.registerFreshGuard registration) fun failure => failure.code ≠ .ok := by
    refine fun later => .and (.forEach (fun incarnation => ?_) _) (.require (by decide))
    split
    · refine .sequence ?_
      simp only [List.mem_cons, List.not_mem_nil, or_false]
      rintro check (rfl | rfl)
      · exact .require (coded _ _ (by decide))
      · exact .require (coded _ _ (by decide))
    · exact .ok
  unfold registerWorker
  split
  · rename_i failure refused
    exact fun _ failed => guarded _ (refused.trans failed)
  split
  · split
    · exact fun _ failed => Except.error.inj failed ▸ coded _ _ (by decide)
    · exact .ok
  dsimp only
  split
  · rename_i failure refused
    exact fun _ failed => fresh _ _ (refused.trans failed)
  split
  · rename_i failure settled
    intro _ failed
    cases failed
    exact (unsaved_code (settle_fails _ _ _ _ failure (congrArg Prod.snd settled))).1
  · exact .ok

/-- The credentials that an accepted registration returns. -/
theorem registerWorker_credentials {c : Coordinator R} {registration : RegisterWorkerRequest}
    {fault : Option SaveFault}
    (accepted : (c.registerWorker registration fault).2.status = .ok ()) :
    (c.registerWorker registration fault).2.epoch = (c.registerWorker registration fault).1.epoch ∧
      (c.registerWorker registration fault).2.boot = registration.boot := by
  unfold registerWorker at accepted ⊢
  cases guarded : c.registerWorkerGuard registration with
  | error failure =>
      rw [guarded] at accepted
      cases accepted
  | ok done =>
      rw [guarded] at accepted
      dsimp only at accepted ⊢
      cases found : c.findLiveWorker registration.worker registration.boot with
      | some live =>
          rw [found] at accepted
          dsimp only at accepted ⊢
          split at accepted
          · cases accepted
          · rename_i unrevoked
            rw [if_neg unrevoked]
            exact ⟨rfl, rfl⟩
      | none =>
          rw [found] at accepted
          dsimp only at accepted ⊢
          split at accepted
          · cases accepted
          · split at accepted
            · cases accepted
            · exact ⟨rfl, rfl⟩

end Refusals

/-- An accepted registration gives a seat to an incarnation that was not expelled. -/
theorem registerWorker_ok {c : Coordinator R} {worker : Worker} {fault : Option SaveFault}
    (accepted : (c.registerWorker worker.registration fault).2.status = .ok ()) :
    ((c.registerWorker worker.registration fault).1.findLiveWorker worker.config.worker
      worker.boot).isSome = true ∧ ¬ c.Expels worker := by
  have accepts : c.Accepts (.registerWorker worker.registration) fault worker.config.worker
      worker.boot := by
    refine ⟨worker.registration, rfl, ?_, rfl, rfl⟩
    change (c.registerWorker worker.registration fault).2.status.isOk = true
    rw [accepted]
    rfl
  obtain ⟨live, found⟩ := accepts.live
  refine ⟨Option.isSome_iff_exists.mpr ⟨live, found⟩, ?_⟩
  rintro ⟨revoked, held, expelled⟩
  rcases accepts.cases with ⟨⟨live, found, unrevoked⟩, -⟩ | ⟨unknown, -⟩
  · obtain rfl := Option.some.inj (held.symm.trans found)
    rw [unrevoked] at expelled
    cases expelled
  · rw [unknown] at held
    cases held

/-! ## Nothing to grant -/

section Nothing

omit [MetricReal R] [CanonicalDigests R]

/-- The worker may claim, and there is nothing for it: its places are all taken, or no trial is on
offer. -/
def HasNothingFor (c : Coordinator R) (worker : Worker) : Prop :=
  ∃ live, c.ClaimAllowed worker.claim live ∧
    (live.maxConcurrentAssignments ≤ c.activeAttempts worker.config.worker worker.boot ∨
      c.offered = [])

variable {c : Coordinator R} {worker : Worker}

/-- A claim that issues nothing was made when there was nothing for the worker. -/
theorem hasNothingFor_of_idle {live : LiveWorker} (arranged : c.state.Arranged)
    (consistent : c.state.Consistent) (guarded : c.claimTrialsGuard worker.claim = .ok live)
    (nothing : (c.claimLoop worker.claim live).assignments = []) : c.HasNothingFor worker := by
  refine ⟨live, claimTrialsGuard_ok guarded, ?_⟩
  obtain ⟨added, assignments, picks⟩ :=
    (claimLoop_picks worker.claim live arranged consistent).assigned
  rw [nothing, List.nil_append] at assignments
  rw [← assignments, List.map_nil] at picks
  rcases List.take_eq_nil_iff.mp picks.symm with spent | none_
  · left
    rw [claimTrialsGuard, bind_eq_ok] at guarded
    obtain ⟨_, -, batch⟩ := guarded
    simp only [require_bind_eq_ok, Bool.and_eq_true, decide_eq_true_eq] at batch
    have least := batch.1.1
    change min worker.claim.maxClaims (live.maxConcurrentAssignments -
      c.activeAttempts worker.config.worker worker.boot) = 0 at spent
    omega
  · exact .inr none_

/-- The load that a claim records does not change what there is for the worker. -/
theorem HasNothingFor.counted (nothing : c.HasNothingFor worker) (active issued : Nat) :
    (c.countAssignments worker.claim active issued).HasNothingFor worker := by
  obtain ⟨live, ⟨epoch, found, unrevoked⟩, reason⟩ := nothing
  refine ⟨{ live with
    activeAssignments := active + issued
    totalAssignments := live.totalAssignments + issued }, ⟨epoch, ?_, unrevoked⟩, reason⟩
  unfold findLiveWorker countAssignments
  dsimp only
  rw [OrderedMap.find?_modify, if_pos rfl]
  exact congrArg (Option.map _) found

end Nothing

end Coordinator

end ExperimentFabric
