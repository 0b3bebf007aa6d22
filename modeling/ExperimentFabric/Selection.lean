import ExperimentFabric.Acknowledgement

/-!
# Which trials a claim issues

The claim loop goes through the open experiments and their trials, and spends one budget on the
trials that are claimable.  An issued attempt takes a place in its experiment, so an experiment
offers no more trials than it has places.  The trials that are issued are the first of those
offered, up to the budget.
-/

namespace ExperimentFabric

open Lib Relation

variable {R : Type}

/-! ## What is offered -/

namespace ExperimentRecord

/-- The trial under the key may be issued. -/
def offers (record : ExperimentRecord R) (limits : Limits) (key : TrialId) : Bool :=
  (record.trials.find? key).any fun trial => (record.claimable limits trial).isSome

/-- Attempts the record still has places for. -/
def places (record : ExperimentRecord R) (limits : Limits) : Nat :=
  record.trials.size * limits.maxAttemptsPerTrial + 16 - record.attempts.size

/-- The keys whose trials may be issued, as far as there are places. -/
def offered (record : ExperimentRecord R) (limits : Limits) (keys : List TrialId) : List TrialId :=
  (keys.filter (record.offers limits)).take (record.places limits)

end ExperimentRecord

namespace Coordinator

/-- The trials that one experiment offers to a claim. -/
def offeredBy (c : Coordinator R) (experiment : ExperimentId) : List (ExperimentId × TrialId) :=
  match c.findExperiment experiment with
  | none => []
  | some record =>
      if isExperimentMutable record.state then
        (record.offered c.limits record.trials.keys).map fun key => (experiment, key)
      else []

/-- The trials that the experiments offer to a claim, in the order of the loop. -/
def offered (c : Coordinator R) : List (ExperimentId × TrialId) :=
  c.state.experiments.keys.flatMap c.offeredBy

/-- The free capacity of a worker incarnation, up to the size of the batch. -/
def claimBudget (c : Coordinator R) (claim : ClaimTrialRequest) (live : LiveWorker) : Nat :=
  min claim.maxClaims
    (live.maxConcurrentAssignments - c.activeAttempts claim.worker claim.boot)

end Coordinator

section Offers

variable {record : ExperimentRecord R} {limits : Limits} {key : TrialId} {trial : TrialRecord}

/-- A record without places offers nothing. -/
theorem offers_place (offers : record.offers limits key = true) : 0 < record.places limits := by
  unfold ExperimentRecord.offers at offers
  obtain ⟨trial, -, claimable⟩ := (Option.any_eq_true _ _).mp offers
  have roomy : ¬ record.attempts.size ≥
      record.trials.size * limits.maxAttemptsPerTrial + 16 := by
    intro full
    unfold ExperimentRecord.claimable at claimable
    simp only [full, ↓reduceIte] at claimable
    repeat' split at claimable
    all_goals cases claimable
  unfold ExperimentRecord.places
  omega

/-- Issuing one trial leaves the other offers as they are while there are places. -/
theorem offers_issue {attempt : AttemptRecord} {sequence : Nat} {other : TrialId}
    (different : other ≠ key)
    (roomy : 0 < (record.issue key attempt sequence).places limits) (former : 0 < record.places limits) :
    (record.issue key attempt sequence).offers limits other = record.offers limits other := by
  have trials : (record.issue key attempt sequence).trials.find? other =
      record.trials.find? other := by
    rw [ExperimentRecord.issue, OrderedMap.find?_modify, if_neg different]
  unfold ExperimentRecord.offers
  rw [trials]
  refine congrArg (fun claims => (record.trials.find? other).any claims) (funext fun trial => ?_)
  have before : ¬ record.attempts.size ≥
      record.trials.size * limits.maxAttemptsPerTrial + 16 := by
    unfold ExperimentRecord.places at former
    omega
  have after : ¬ (record.issue key attempt sequence).attempts.size ≥
      (record.issue key attempt sequence).trials.size * limits.maxAttemptsPerTrial + 16 := by
    unfold ExperimentRecord.places at roomy
    omega
  simp only [ExperimentRecord.claimable, if_neg after, if_neg before]
  rfl

/-- Issuing an attempt under a new identity takes one place. -/
theorem places_issue (limits : Limits) (key : TrialId) {attempt : AttemptRecord} (sequence : Nat)
    (absent : record.attempts.find? attempt.id = none) :
    (record.issue key attempt sequence).places limits = record.places limits - 1 := by
  have size : (record.attempts.emplace attempt.id attempt).size = record.attempts.size + 1 := by
    have assigned := record.attempts.size_assign attempt.id attempt
    rw [absent] at assigned
    rw [OrderedMap.emplace_absent absent]
    simpa using assigned
  unfold ExperimentRecord.places ExperimentRecord.issue
  rw [size, OrderedMap.size_modify]
  omega

/-- After one trial was issued, the others are offered as before, with one place less. -/
theorem offered_issue {attempt : AttemptRecord} (sequence : Nat)
    (absent : record.attempts.find? attempt.id = none) (offers : record.offers limits key = true)
    {rest : List TrialId} (fresh : key ∉ rest) :
    record.offered limits (key :: rest) =
      key :: (record.issue key attempt sequence).offered limits rest := by
  have former := offers_place offers
  have places := places_issue limits key sequence absent
  unfold ExperimentRecord.offered
  rw [List.filter_cons_of_pos offers, places]
  obtain ⟨more, count⟩ := Nat.exists_eq_succ_of_ne_zero former.ne'
  rw [count, List.take_succ_cons, Nat.succ_sub_one]
  refine congrArg (key :: ·) ?_
  rcases Nat.eq_zero_or_pos more with rfl | roomy
  · simp
  · rw [count, Nat.succ_sub_one] at places
    refine congrArg (List.take more) (List.filter_congr fun other member => ?_)
    have different : other ≠ key := fun same => fresh (same ▸ member)
    exact (offers_issue different (places ▸ roomy) former).symm

theorem offered_skip {rest : List TrialId} (refused : record.offers limits key = false) :
    record.offered limits (key :: rest) = record.offered limits rest := by
  unfold ExperimentRecord.offered
  rw [List.filter_cons_of_neg (by simp [refused])]

end Offers

/-! ## What is issued -/

/-- The trial was ready and has one attempt more. -/
structure TakenOn (trial trial' : TrialRecord) : Prop where
  fixed : trial'.fixed = trial.fixed
  ready : trial.state = .ready
  assigned : trial'.state = .assigned
  attemptCount : trial'.attemptCount = trial.attemptCount + 1

/-- The trials of a record before and after some of them were issued. -/
structure PickedFrom (picks : List (ExperimentId × TrialId)) (experiment : ExperimentId)
    (record record' : ExperimentRecord R) : Prop where
  definition : record'.definition = record.definition
  trials : ∀ key trial', record'.trials.find? key = some trial' →
    ∃ trial, record.trials.find? key = some trial ∧
      (trial' = trial ∨ (experiment, key) ∈ picks ∧ TakenOn trial trial')

theorem PickedFrom.refl (picks : List (ExperimentId × TrialId)) (experiment : ExperimentId)
    (record : ExperimentRecord R) : PickedFrom picks experiment record record :=
  ⟨rfl, fun _ trial found => ⟨trial, found, .inl rfl⟩⟩

theorem PickedFrom.trans {picks more : List (ExperimentId × TrialId)} {experiment : ExperimentId}
    {first second third : ExperimentRecord R} (earlier : PickedFrom picks experiment first second)
    (later : PickedFrom more experiment second third) :
    PickedFrom (picks ++ more) experiment first third where
  definition := later.definition.trans earlier.definition
  trials := fun key trial found => by
    obtain ⟨middle, held, step⟩ := later.trials key trial found
    obtain ⟨start, before, first⟩ := earlier.trials key middle held
    refine ⟨start, before, ?_⟩
    rcases step with rfl | ⟨picked, taken⟩
    · exact first.imp id fun ⟨picked, taken⟩ => ⟨List.mem_append_left _ picked, taken⟩
    · rcases first with rfl | ⟨-, assigned⟩
      · exact .inr ⟨List.mem_append_right _ picked, taken⟩
      · exact nomatch taken.ready.symm.trans assigned.assigned

/-- What a part of the claim loop does: it issues the picked trials, one after the other. -/
structure Picks (claim : ClaimTrialRequest) (before after : ClaimProgress R)
    (picks : List (ExperimentId × TrialId)) : Prop where
  budget : after.budget + picks.length = before.budget
  assigned : ∃ added, after.assignments = before.assignments ++ added ∧
    added.map (fun assignment => (assignment.envelope.experiment, assignment.envelope.trial)) = picks
  limits : after.coordinator.limits = before.coordinator.limits
  elsewhere : ∀ id, (∀ pick ∈ picks, pick.1 ≠ id) →
    after.coordinator.findExperiment id = before.coordinator.findExperiment id
  records : ∀ id record', after.coordinator.findExperiment id = some record' →
    ∃ record, before.coordinator.findExperiment id = some record ∧
      PickedFrom picks id record record'
  active : ∀ worker boot, after.coordinator.activeAttempts worker boot =
    before.coordinator.activeAttempts worker boot +
      if worker = claim.worker ∧ boot = claim.boot then picks.length else 0

theorem Picks.none (claim : ClaimTrialRequest) (progress : ClaimProgress R) :
    Picks claim progress progress [] where
  budget := rfl
  assigned := ⟨[], (List.append_nil _).symm, rfl⟩
  limits := rfl
  elsewhere := fun _ _ => rfl
  records := fun id record found => ⟨record, found, .refl [] id record⟩
  active := fun _ _ => by split <;> rfl

theorem Picks.trans {claim : ClaimTrialRequest} {first second third : ClaimProgress R}
    {picks more : List (ExperimentId × TrialId)} (earlier : Picks claim first second picks)
    (later : Picks claim second third more) : Picks claim first third (picks ++ more) where
  budget := by
    have counted := earlier.budget
    have next := later.budget
    rw [List.length_append]
    omega
  assigned := by
    obtain ⟨added, assignments, named⟩ := earlier.assigned
    obtain ⟨added', assignments', named'⟩ := later.assigned
    refine ⟨added ++ added', ?_, ?_⟩
    · rw [assignments', assignments, List.append_assoc]
    · rw [List.map_append, named, named']
  limits := later.limits.trans earlier.limits
  elsewhere := fun id other => by
    rw [later.elsewhere id fun pick member => other pick (List.mem_append_right _ member),
      earlier.elsewhere id fun pick member => other pick (List.mem_append_left _ member)]
  records := fun id record found => by
    obtain ⟨middle, held, step⟩ := later.records id record found
    obtain ⟨start, before, first⟩ := earlier.records id middle held
    exact ⟨start, before, first.trans step⟩
  active := fun worker boot => by
    rw [later.active, earlier.active, List.length_append]
    split <;> omega

theorem liveAttemptsOf_length (record : ExperimentRecord R) (worker : WorkerId)
    (boot : WorkerBootId) : (record.liveAttemptsOf worker boot).length =
      record.attempts.values.countP fun attempt =>
        attempt.worker = worker && attempt.boot = boot && !isAttemptTerminal attempt.state := by
  rw [ExperimentRecord.liveAttemptsOf, OrderedMap.values, List.countP_map,
    List.countP_eq_length_filter]
  rfl

/-- The attempts a claim issues are live attempts of the claiming incarnation. -/
theorem liveAttemptsOf_issue {record : ExperimentRecord R} (key : TrialId)
    {attempt : AttemptRecord} (sequence : Nat)
    (absent : record.attempts.find? attempt.id = none)
    (isOpen : isAttemptTerminal attempt.state = false) (worker : WorkerId) (boot : WorkerBootId) :
    ((record.issue key attempt sequence).liveAttemptsOf worker boot).length =
      (record.liveAttemptsOf worker boot).length +
        if worker = attempt.worker ∧ boot = attempt.boot then 1 else 0 := by
  obtain ⟨front, back, held, added⟩ := OrderedMap.values_emplace absent attempt
  rw [liveAttemptsOf_length, liveAttemptsOf_length, held, show (record.issue key attempt sequence).attempts.values =
    front ++ attempt :: back from added]
  simp only [List.countP_append, List.countP_cons, isOpen, Bool.not_false, Bool.and_true,
    Bool.and_eq_true, decide_eq_true_eq, eq_comm (a := worker), eq_comm (a := boot)]
  omega

/-- Every trial of the coordinator is stored under its identity. -/
def Coordinator.NamesTrials (c : Coordinator R) : Prop :=
  ∀ id record key trial, c.findExperiment id = some record →
    record.trials.find? key = some trial → trial.id = key

theorem Picks.namesTrials {claim : ClaimTrialRequest} {before after : ClaimProgress R}
    {picks : List (ExperimentId × TrialId)} (picked : Picks claim before after picks)
    (names : before.coordinator.NamesTrials) : after.coordinator.NamesTrials := by
  intro id record' key trial' found held
  obtain ⟨record, lookup, from_⟩ := picked.records id record' found
  obtain ⟨trial, there, rfl | ⟨-, taken⟩⟩ := from_.trials key trial' held
  · exact names id record key _ lookup there
  · have same := congrArg TrialRecord.id taken.fixed
    exact same.trans (names id record key trial lookup there)

/-! ## The loop -/

section Loop

variable {claim : ClaimTrialRequest} {producer : ProducerId} {progress : ClaimProgress R}
  {experiment : ExperimentId} {record : ExperimentRecord R} {key : TrialId}

theorem claimTrial_spent (spent : progress.budget = 0) :
    Coordinator.claimTrial claim producer experiment progress key = progress :=
  if_pos spent

theorem claimTrial_refused (found : progress.coordinator.findExperiment experiment = some record)
    (refused : record.offers progress.coordinator.limits key = false) :
    Coordinator.claimTrial claim producer experiment progress key = progress := by
  unfold Coordinator.claimTrial
  split
  · rfl
  · simp only [found]
    split
    · rfl
    · rename_i trial held
      have unclaimable : record.claimable progress.coordinator.limits trial = none := by
        simpa [ExperimentRecord.offers, held] using refused
      simp only [unclaimable]

/-- The active attempts change by those of the record that is stored. -/
theorem Coordinator.activeAttempts_assign {c c' : Coordinator R} {record after : ExperimentRecord R}
    (found : c.findExperiment experiment = some record)
    (stored : c'.state.experiments = c.state.experiments.assign experiment after)
    (worker : WorkerId) (boot : WorkerBootId) :
    c'.activeAttempts worker boot + (record.liveAttemptsOf worker boot).length =
      c.activeAttempts worker boot + (after.liveAttemptsOf worker boot).length := by
  rw [Coordinator.activeAttempts, stored]
  exact OrderedMap.sum_values_assign found after
    fun record => (record.liveAttemptsOf worker boot).length

/-- A trial that is offered while the budget lasts is issued. -/
theorem claimTrial_picks (producer : ProducerId) (assigned : Assigned claim progress)
    (names : progress.coordinator.NamesTrials)
    (found : progress.coordinator.findExperiment experiment = some record)
    (offers : record.offers progress.coordinator.limits key = true) (left : progress.budget ≠ 0) :
    ∃ attempt sequence, record.attempts.find? attempt.id = none ∧
      (Coordinator.claimTrial claim producer experiment progress
        key).coordinator.findExperiment experiment = some (record.issue key attempt sequence) ∧
      Picks claim progress (Coordinator.claimTrial claim producer experiment progress key)
        [(experiment, key)] := by
  obtain ⟨trial, held, claims⟩ := (Option.any_eq_true _ _).mp offers
  obtain ⟨branch, claimable⟩ := Option.isSome_iff_exists.mp claims
  have absent : record.attempts.find?
      ⟨progress.coordinator.state.watermarks.attempt + 1⟩ = none := by
    by_contra present
    obtain ⟨attempt, there⟩ := Option.ne_none_iff_exists'.mp present
    exact absurd (assigned.bounded experiment record _ attempt found there)
      (Nat.not_succ_le_self _)
  let attempt := record.newAttempt trial ⟨progress.coordinator.state.watermarks.attempt + 1⟩
    claim.worker claim.boot progress.coordinator.epoch producer
    (progress.coordinator.state.lastSequence + 1)
  let sequence := progress.coordinator.state.lastSequence + 1
  obtain ⟨after, built⟩ : ∃ after,
      after = Coordinator.claimTrial claim producer experiment progress key := ⟨_, rfl⟩
  have shape := built
  unfold Coordinator.claimTrial at shape
  simp only [if_neg left, found, held, claimable] at shape
  have experiments : after.coordinator.state.experiments =
      progress.coordinator.state.experiments.assign experiment
        (record.issue key attempt sequence) := by
    rw [shape]
    rfl
  have lookup : ∀ id, after.coordinator.findExperiment id =
      if id = experiment then some (record.issue key attempt sequence)
      else progress.coordinator.findExperiment id := by
    intro id
    rw [Coordinator.findExperiment, experiments, OrderedMap.find?_assign]
    by_cases here : id = experiment
    · rw [if_pos here, if_pos here]
    · rw [if_neg here, if_neg here]
      rfl
  refine ⟨attempt, sequence, absent, ?_, ?_⟩
  · rw [← built, lookup, if_pos rfl]
  rw [← built]
  constructor
  · have counted : after.budget = progress.budget - 1 := by rw [shape]
    rw [counted, List.length_singleton]
    omega
  · rw [shape]
    refine ⟨_, rfl, ?_⟩
    have identity := assigned.identity experiment record found
    have named := names experiment record key trial found held
    simp [ExperimentRecord.envelopeOf, ExperimentRecord.newAttempt, identity, named]
  · rw [shape]
    rfl
  · intro id other
    rw [lookup, if_neg fun same => other _ (List.mem_singleton_self _) same.symm]
  · intro id record' there
    rw [lookup] at there
    split at there
    · rename_i here
      obtain rfl := Option.some.inj there
      refine ⟨record, here ▸ found, rfl, fun other trial' heldAfter => ?_⟩
      rcases ExperimentRecord.find?_issue_trial heldAfter with
        ⟨rfl, before, there, rfl⟩ | ⟨-, there⟩
      · obtain rfl := Option.some.inj (held.symm.trans there)
        refine ⟨trial, there, .inr ⟨?_, rfl, claimable_ready claimable, rfl, rfl⟩⟩
        rw [here]
        exact List.mem_singleton_self _
      · exact ⟨trial', there, .inl rfl⟩
    · exact ⟨record', there, .refl _ _ _⟩
  · intro worker boot
    have summed := Coordinator.activeAttempts_assign found experiments worker boot
    have issued := liveAttemptsOf_issue key sequence (show record.attempts.find? attempt.id = none
      from absent) rfl worker boot
    rw [List.length_singleton]
    have owner : (if worker = attempt.worker ∧ boot = attempt.boot then 1 else 0) =
        if worker = claim.worker ∧ boot = claim.boot then 1 else 0 := rfl
    omega

/-- The loop over the trials of one experiment issues those it offers, while the budget lasts. -/
theorem claimKeys_picks {keys : List TrialId} (distinct : keys.Nodup)
    (assigned : Assigned claim progress) (names : progress.coordinator.NamesTrials)
    (found : progress.coordinator.findExperiment experiment = some record) :
    Picks claim progress
      (keys.foldl (Coordinator.claimTrial claim producer experiment) progress)
      (((record.offered progress.coordinator.limits keys).map fun key => (experiment, key)).take
        progress.budget) := by
  induction keys generalizing progress record with
  | nil => simpa [ExperimentRecord.offered] using Picks.none claim progress
  | cons key rest ih =>
      obtain ⟨fresh, distinctRest⟩ := List.nodup_cons.mp distinct
      rw [List.foldl_cons]
      by_cases spent : progress.budget = 0
      · have next := ih distinctRest assigned names found
        rw [claimTrial_spent spent]
        rw [spent, List.take_zero] at next ⊢
        exact next
      · cases offers : record.offers progress.coordinator.limits key with
        | false =>
            rw [claimTrial_refused found offers, offered_skip offers]
            exact ih distinctRest assigned names found
        | true =>
            obtain ⟨attempt, sequence, absent, found', picked⟩ :=
              claimTrial_picks producer assigned names found offers spent
            have next := ih distinctRest (assigned.claimTrial producer experiment key)
              (picked.namesTrials names) found'
            rw [picked.limits] at next
            have counted := picked.budget
            rw [List.length_singleton] at counted
            rw [offered_issue sequence absent offers fresh, ← counted, List.map_cons,
              List.take_succ_cons]
            exact picked.trans next

theorem claimExperiment_picks (producer : ProducerId) (assigned : Assigned claim progress)
    (names : progress.coordinator.NamesTrials) (experiment : ExperimentId) :
    Picks claim progress (Coordinator.claimExperiment claim producer progress experiment)
      ((progress.coordinator.offeredBy experiment).take progress.budget) := by
  unfold Coordinator.claimExperiment Coordinator.offeredBy
  split
  · rename_i spent
    rw [spent, List.take_zero]
    exact .none claim progress
  · cases found : progress.coordinator.findExperiment experiment with
    | none => simpa using Picks.none claim progress
    | some record =>
        dsimp only
        by_cases mutable : isExperimentMutable record.state = true
        · rw [if_neg (by simp [mutable]), if_pos mutable]
          exact claimKeys_picks record.trials.keys_nodup assigned names found
        · rw [if_pos (by simpa using mutable), if_neg mutable, List.take_nil]
          exact .none claim progress

/-- The loop over the experiments issues what they offer, while the budget lasts. -/
theorem claimExperiments_picks {experiments : List ExperimentId} (distinct : experiments.Nodup)
    (assigned : Assigned claim progress) (names : progress.coordinator.NamesTrials) :
    Picks claim progress
      (experiments.foldl (Coordinator.claimExperiment claim producer) progress)
      ((experiments.flatMap progress.coordinator.offeredBy).take progress.budget) := by
  induction experiments generalizing progress with
  | nil => simpa using Picks.none claim progress
  | cons experiment rest ih =>
      obtain ⟨fresh, distinctRest⟩ := List.nodup_cons.mp distinct
      have picked := claimExperiment_picks producer assigned names experiment
      have next := ih distinctRest
        (Coordinator.claimExperiment_keeps
          (fun _ experiment key held => held.claimTrial producer experiment key) assigned experiment)
        (picked.namesTrials names)
      have local_ : ∀ pick ∈ (progress.coordinator.offeredBy experiment).take progress.budget,
          pick.1 = experiment := by
        intro pick member
        have offered := List.mem_of_mem_take member
        unfold Coordinator.offeredBy at offered
        repeat' split at offered
        · cases offered
        · obtain ⟨key, -, rfl⟩ := List.mem_map.mp offered
          rfl
        · cases offered
      have unchanged : rest.flatMap (Coordinator.claimExperiment claim producer progress
          experiment).coordinator.offeredBy = rest.flatMap progress.coordinator.offeredBy := by
        refine List.flatMap_congr fun other member => ?_
        have different : other ≠ experiment := fun same => fresh (same ▸ member)
        unfold Coordinator.offeredBy
        rw [picked.limits, picked.elsewhere other fun pick there same =>
          different (same.symm.trans (local_ pick there))]
      rw [unchanged] at next
      have counted := picked.budget
      rw [List.length_take] at counted
      rw [List.foldl_cons, List.flatMap_cons, List.take_append,
        show progress.budget - (progress.coordinator.offeredBy experiment).length =
          (Coordinator.claimExperiment claim producer progress experiment).budget by omega]
      exact picked.trans next

end Loop

section Claims

variable {c : Coordinator R} {claim : ClaimTrialRequest} {live : LiveWorker}

/-- A claim issues the first of the trials it is offered, up to its budget. -/
theorem claimLoop_picks (claim : ClaimTrialRequest) (live : LiveWorker)
    (arranged : c.state.Arranged) (consistent : c.state.Consistent) :
    Picks claim { coordinator := c, budget := c.claimBudget claim live } (c.claimLoop claim live)
      (c.offered.take (c.claimBudget claim live)) := by
  have assigned : Assigned claim ({ coordinator := c, budget := c.claimBudget claim live } :
      ClaimProgress R) := by
    refine ⟨?_, ?_, fun _ member => (List.not_mem_nil member).elim⟩
    · exact fun id record found => (arranged.placed id record found).identity
    · exact fun id record key attempt found held =>
        (consistent id record found).attemptBound key attempt held
  exact claimExperiments_picks c.state.experiments.keys_nodup assigned
    fun id record key trial found held => ((consistent id record found).trial key trial held).id

/-- What an experiment offers is the key of one of its trials that may be claimed. -/
theorem mem_offered {id : ExperimentId} {key : TrialId} (offered : (id, key) ∈ c.offered) :
    ∃ record trial branch, c.findExperiment id = some record ∧ record.state = .opened ∧
      record.trials.find? key = some trial ∧ record.claimable c.limits trial = some branch := by
  obtain ⟨experiment, -, offered⟩ := List.mem_flatMap.mp offered
  unfold Coordinator.offeredBy at offered
  repeat' split at offered
  · cases offered
  · rename_i record found mutable
    obtain ⟨other, member, same⟩ := List.mem_map.mp offered
    obtain ⟨rfl, rfl⟩ := Prod.mk.inj same
    have offers := (List.mem_filter.mp (List.mem_of_mem_take member)).2
    obtain ⟨trial, held, claims⟩ := (Option.any_eq_true _ _).mp offers
    obtain ⟨branch, claimable⟩ := Option.isSome_iff_exists.mp claims
    exact ⟨record, trial, branch, found, by simpa [isExperimentMutable] using mutable, held,
      claimable⟩
  · cases offered

/-- No trial is offered twice. -/
theorem offered_distinct (arranged : c.state.Arranged) : (c.offered.map Prod.snd).Nodup := by
  have keys : ∀ id, ((c.offeredBy id).map Prod.snd).Nodup ∧
      ∀ key ∈ (c.offeredBy id).map Prod.snd, ∃ record trial, c.findExperiment id = some record ∧
        record.trials.find? key = some trial := by
    intro id
    unfold Coordinator.offeredBy
    split
    · exact ⟨.nil, fun _ member => (List.not_mem_nil member).elim⟩
    · rename_i record found
      split
      · rw [List.map_map]
        have second : (record.offered c.limits record.trials.keys).map
            (Prod.snd ∘ fun key => (id, key)) = record.offered c.limits record.trials.keys :=
          List.map_id _
        rw [second]
        refine ⟨(record.trials.keys_nodup.filter _).sublist (List.take_sublist _ _), ?_⟩
        intro key member
        have listed := (List.mem_filter.mp (List.mem_of_mem_take member)).1
        obtain ⟨trial, held⟩ := (OrderedMap.mem_keys_iff _ _).mp listed
        exact ⟨record, trial, found, held⟩
      · exact ⟨.nil, fun _ member => (List.not_mem_nil member).elim⟩
  rw [Coordinator.offered, List.map_flatMap, List.nodup_flatMap]
  refine ⟨fun id _ => (keys id).1, c.state.experiments.keys_nodup.imp fun different => ?_⟩
  intro key first second
  obtain ⟨record, trial, found, held⟩ := (keys _).2 key first
  obtain ⟨other, trial', found', held'⟩ := (keys _).2 key second
  exact different (arranged.apart _ _ record other key trial trial' found found' held held')

end Claims

end ExperimentFabric
