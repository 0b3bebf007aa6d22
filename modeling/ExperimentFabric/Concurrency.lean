import ExperimentFabric.CrashRecovery
import ExperimentFabric.LiveTable
import ExperimentFabric.Selection

/-!
# The capacity of a worker

A claim counts the live attempts of the claiming incarnation over all experiments and issues no more
than its capacity leaves.  No other request adds a live attempt, and nothing rewrites the capacity
that the first registration of an incarnation entered into the live table.
-/

namespace ExperimentFabric

open Lib Relation

variable {R : Type}

/-! ## Live attempts -/

/-- Live attempts of a worker incarnation over all experiments of a state. -/
def CoordinatorState.activeAttempts (state : CoordinatorState R) (worker : WorkerId)
    (boot : WorkerBootId) : Nat :=
  (state.experiments.values.map fun record => (record.liveAttemptsOf worker boot).length).sum

section Active

variable (worker : WorkerId) (boot : WorkerBootId)

/-- A rewritten record has no more live attempts than before. -/
theorem Rewritten.liveAttempts_le {record after : ExperimentRecord R}
    (rewritten : Rewritten record after) :
    (after.liveAttemptsOf worker boot).length ≤ (record.liveAttemptsOf worker boot).length := by
  rw [liveAttemptsOf_length, liveAttemptsOf_length]
  refine rewritten.attempts.countP_le fun attempt attempt' kept holds => ?_
  have sameWorker := congrArg AttemptRecord.worker kept.fixed
  have sameBoot := congrArg AttemptRecord.boot kept.fixed
  simp only [Bool.and_eq_true, decide_eq_true_eq, Bool.not_eq_true'] at holds ⊢
  refine ⟨⟨sameWorker.symm.trans holds.1.1, sameBoot.symm.trans holds.1.2⟩, ?_⟩
  cases closed : isAttemptTerminal attempt.state with
  | false => rfl
  | true =>
      rw [kept.frozen closed, closed] at holds
      cases holds.2

theorem CoordinatorState.activeAttempts_assign_le {old new : CoordinatorState R}
    {experiment : ExperimentId} {record after : ExperimentRecord R}
    (found : old.experiments.find? experiment = some record)
    (stored : new.experiments = old.experiments.assign experiment after)
    (fewer : (after.liveAttemptsOf worker boot).length ≤
      (record.liveAttemptsOf worker boot).length) :
    new.activeAttempts worker boot ≤ old.activeAttempts worker boot := by
  have summed := OrderedMap.sum_values_assign found after
    fun record => (record.liveAttemptsOf worker boot).length
  unfold CoordinatorState.activeAttempts
  rw [stored]
  omega

variable [MetricReal R] [CanonicalDigests R] {c : Coordinator R} {request : Request R}
  {old new : CoordinatorState R}

/-- Only claims add live attempts. -/
theorem StateStep.activeAttempts_le (step : StateStep c request old new)
    (other : ∀ claim, request ≠ .claimTrials claim) :
    new.activeAttempts worker boot ≤ old.activeAttempts worker boot := by
  cases step with
  | quiet same workers =>
      unfold CoordinatorState.activeAttempts
      rw [same]
  | change found effect stored workers =>
      exact CoordinatorState.activeAttempts_assign_le worker boot found stored
        ((moves_rewritten effect.moves).liveAttempts_le worker boot)
  | @create spec record expected branches named accepted room defined valid allocated before absent
      stored workers branched =>
      obtain ⟨front, back, held, assigned⟩ := old.experiments.values_assign
        ⟨c.state.watermarks.experiment + 1⟩ record
      have idle : (record.liveAttemptsOf worker boot).length = 0 := by
        rw [defined]
        rfl
      rw [absent, Option.toList_none, List.append_nil] at held
      unfold CoordinatorState.activeAttempts
      rw [stored, assigned, held]
      simp [idle]
  | addTrial named guarded valid found fresh allocated stored workers =>
      exact CoordinatorState.activeAttempts_assign_le worker boot found stored le_rfl
  | addTrialUndone named guarded found fresh stored workers =>
      exact CoordinatorState.activeAttempts_assign_le worker boot found stored le_rfl
  | issue named guarded found opened trialFound claimable fresh allocated stored workers =>
      exact (other _ named).elim
  | lose named stored workers =>
      unfold CoordinatorState.activeAttempts
      rw [stored, OrderedMap.values_mapValues, List.map_map]
      refine List.sum_le_sum fun record _ => ?_
      exact (loseWorker_rewritten ..).liveAttempts_le worker boot
  | register named guarded fresh identity same workers =>
      unfold CoordinatorState.activeAttempts
      rw [same]

theorem perform_activeAttempts_le (c : Coordinator R) (fault : Option SaveFault)
    (other : ∀ claim, request ≠ .claimTrials claim) :
    (c.perform request fault).1.activeAttempts worker boot ≤ c.activeAttempts worker boot := by
  let property (state : CoordinatorState R) : Prop :=
    state.activeAttempts worker boot ≤ c.state.activeAttempts worker boot
  have bounded : ∀ state, StateSteps c request c.state state → property state := by
    intro state steps
    induction steps with
    | refl => exact le_rfl
    | tail _ last ih => exact (last.1.activeAttempts_le worker boot other).trans ih
  exact bounded _ (c.perform_steps request fault)

end Active

/-! ## The live table -/

namespace Coordinator

/-- The capacity of an incarnation; one that is not in the table has none. -/
def capacityOf (c : Coordinator R) (worker : WorkerId) (boot : WorkerBootId) : Nat :=
  match c.findLiveWorker worker boot with
  | none => 0
  | some live => live.maxConcurrentAssignments

/-- No incarnation holds more live attempts than its capacity. -/
def Capped (c : Coordinator R) : Prop :=
  ∀ worker boot, c.activeAttempts worker boot ≤ c.capacityOf worker boot

variable [MetricReal R] [CanonicalDigests R]

/-- An incarnation in the table keeps what its registration wrote. -/
theorem perform_known (c : Coordinator R) (request : Request R) (fault : Option SaveFault)
    {worker : WorkerId} {boot : WorkerBootId} {live : LiveWorker}
    (known : c.findLiveWorker worker boot = some live) :
    ∃ live', (c.perform request fault).1.findLiveWorker worker boot = some live' ∧
      live'.registration = live.registration := by
  cases c.perform_tableChange registration_relation request fault with
  | kept workers => exact workers.extends_ _ live known
  | registered guarded unknown fresh workers state saved =>
      obtain ⟨replaced, held, same⟩ :=
        (replacing_related registration_relation c _).extends_ _ live known
      obtain ⟨live', found, rfl⟩ := OrderedMap.Extends.emplace (fun _ => rfl) _ replaced held
      refine ⟨_, ?_, same⟩
      rw [findLiveWorker, workers]
      exact found

/-- An incarnation enters the table by a registration. -/
theorem perform_new (c : Coordinator R) (request : Request R) (fault : Option SaveFault)
    {worker : WorkerId} {boot : WorkerBootId} {live : LiveWorker}
    (unknown : c.findLiveWorker worker boot = none)
    (found : (c.perform request fault).1.findLiveWorker worker boot = some live) :
    ∃ registration, request = .registerWorker registration ∧ registration.worker = worker ∧
      registration.boot = boot ∧
      live.maxConcurrentAssignments = registration.maxConcurrentAssignments := by
  cases c.perform_tableChange registration_relation request fault with
  | kept workers => exact nomatch (workers.absent _ unknown).symm.trans found
  | @registered registration guarded absent fresh workers state saved =>
      have still := (replacing_related registration_relation c registration).absent _ unknown
      have entered : ((c.replacing registration).liveWorkers.emplace
          (workerKey registration.worker registration.boot)
          { worker := registration.worker
            boot := registration.boot
            producer := ⟨(c.replacing registration).state.nextWorkerRegistrationSequence + 1⟩
            endpoint := registration.endpoint
            fingerprint := registration.fingerprint
            maxConcurrentAssignments := registration.maxConcurrentAssignments
            registeredSequence := (c.replacing registration).state.lastSequence + 1 }).find?
          (workerKey worker boot) = some live := by
        rw [findLiveWorker, workers] at found
        exact found
      rw [OrderedMap.find?_emplace] at entered
      split at entered
      · rename_i same
        obtain ⟨rfl, rfl⟩ := workerKey_inj same
        rw [still] at entered
        obtain rfl := Option.some.inj entered
        exact ⟨registration, rfl, rfl, rfl, rfl⟩
      · exact nomatch still.symm.trans entered

theorem capacityOf_le (c : Coordinator R) (request : Request R) (fault : Option SaveFault)
    (worker : WorkerId) (boot : WorkerBootId) :
    c.capacityOf worker boot ≤ (c.perform request fault).1.capacityOf worker boot := by
  unfold capacityOf
  cases known : c.findLiveWorker worker boot with
  | none => exact Nat.zero_le _
  | some live =>
      obtain ⟨live', found, same⟩ := c.perform_known request fault known
      have capacity := congrArg LiveWorker.maxConcurrentAssignments same
      rw [found]
      exact capacity.ge

/-- A claim stays within the capacity of the claiming incarnation. -/
theorem claimTrials_capped {c : Coordinator R} (arranged : c.state.Arranged)
    (consistent : c.state.Consistent) (capped : c.Capped) (claim : ClaimTrialRequest)
    (fault : Option SaveFault) : (c.perform (.claimTrials claim) fault).1.Capped := by
  intro worker boot
  refine le_trans ?_ (c.capacityOf_le (.claimTrials claim) fault worker boot)
  rcases c.claimTrials_spec claim fault with same | ⟨live, guarded, -, state, -, -⟩
  · have unchanged : (c.perform (.claimTrials claim) fault).1 = c := same
    rw [unchanged]
    exact capped worker boot
  · have picked := claimLoop_picks claim live arranged consistent
    have active : (c.perform (.claimTrials claim) fault).1.activeAttempts worker boot =
        (c.claimLoop claim live).coordinator.activeAttempts worker boot := by
      rw [activeAttempts, activeAttempts, ← state]
      rfl
    rw [active, picked.active]
    have before := capped worker boot
    split
    · rename_i same
      obtain ⟨rfl, rfl⟩ := same
      have known := (claimTrialsGuard_ok guarded).found
      have issued := List.length_take_le (c.claimBudget claim live) c.offered
      have budget : c.claimBudget claim live ≤
          live.maxConcurrentAssignments - c.activeAttempts claim.worker claim.boot :=
        Nat.min_le_right _ _
      have capacity : c.capacityOf claim.worker claim.boot = live.maxConcurrentAssignments := by
        rw [capacityOf, known]
      dsimp only
      omega
    · exact before

theorem perform_capped {c : Coordinator R} (arranged : c.state.Arranged)
    (consistent : c.state.Consistent) (capped : c.Capped) (request : Request R)
    (fault : Option SaveFault) : (c.perform request fault).1.Capped := by
  by_cases claims : ∃ claim, request = .claimTrials claim
  · obtain ⟨claim, rfl⟩ := claims
    exact claimTrials_capped arranged consistent capped claim fault
  · intro worker boot
    have fewer := perform_activeAttempts_le worker boot c fault
      fun claim same => claims ⟨claim, same⟩
    exact (fewer.trans (capped worker boot)).trans (c.capacityOf_le request fault worker boot)

end Coordinator

/-! ## Runs -/

section Runs

variable [MetricReal R] [CanonicalDigests R]

omit [CanonicalDigests R] in
/-- After a start no attempt is live. -/
theorem started_idle {path : Text} {image left : Option (CoordinatorState R)} {config : Config}
    {outcomes : WriteOutcomes} {c : Coordinator R} (sound : SoundImage path image)
    (started : Coordinator.create config image outcomes = (left, .ok c)) (worker : WorkerId)
    (boot : WorkerBootId) : c.activeAttempts worker boot = 0 := by
  have saved := (sound.origin config).1
  have outcome := Coordinator.create_spec config image outcomes saved
  rw [started] at outcome
  refine List.sum_eq_zero fun count member => ?_
  obtain ⟨record, listed, rfl⟩ := List.mem_map.mp member
  obtain ⟨id, found⟩ := (OrderedMap.mem_values_iff _ record).mp listed
  obtain ⟨original, before, same, frozen⟩ := (outcome.recovers c rfl).source found
  have restored := restoredFrom_of_forget_eq (saved id original before) same frozen
  rw [liveAttemptsOf_length]
  refine OrderedMap.countP_values_eq_zero fun key attempt held => ?_
  rw [restored.attemptsEnded key attempt held]
  exact Bool.and_false _

/-- The running coordinator keeps every incarnation within its capacity. -/
def World.Capped : World R → Prop
  | .running c => c.Capped
  | .down _ => True

theorem World.Reachable.capped {path : Text} {c : Coordinator R}
    (reachable : (World.running c).Reachable path) : c.Capped := by
  let property (world : World R) : Prop := world.Sound path ∧ world.Capped
  have kept : ∀ source event target, property source → World.Step path source event target →
      property target := by
    intro source event target holds step
    refine ⟨step.sound holds.1, ?_⟩
    cases step with
    | request c request fault =>
        obtain ⟨⟨-, consistent, arranged, -⟩, capped⟩ := holds
        exact Coordinator.perform_capped arranged consistent capped request fault
    | stop c => trivial
    | start samePath started =>
        intro worker boot
        rw [started_idle holds.1 started]
        exact Nat.zero_le _
    | failedStart samePath refused => trivial
  have start : property (.down none) := ⟨(World.start_upholds path fun _ => True).1, trivial⟩
  exact (World.Reachable.invariant start kept reachable).2

/-- The incarnation is in the live table of the running coordinator. -/
def World.Knows (worker : WorkerId) (boot : WorkerBootId) : World R → Prop
  | .running c => ∃ live, c.findLiveWorker worker boot = some live
  | .down _ => False

/-- The live table of the running coordinator holds the registered entry. -/
def World.KeepsEntry (worker : WorkerId) (boot : WorkerBootId) (registration : LiveWorker) :
    World R → Prop
  | .running c => ∃ live, c.findLiveWorker worker boot = some live ∧
      live.registration = registration
  | .down _ => False

/-- The incarnation was entered into the live table by its first registration, under this capacity,
and has been there ever since. -/
def FirstRegistered (path : Text) (events : List (Event R)) (c : Coordinator R) (worker : WorkerId)
    (boot : WorkerBootId) (capacity : Nat) : Prop :=
  ∃ earlier start registration fault later,
    events = earlier ++ .request (.registerWorker registration) fault :: later ∧
    Run (World.Step path) (.down none) earlier (.running start) ∧
    ¬ (World.running start).Knows worker boot ∧
    registration.worker = worker ∧ registration.boot = boot ∧
    registration.maxConcurrentAssignments = capacity ∧
    Run (fun source event target => source.Knows worker boot ∧ target.Knows worker boot ∧
      World.Step path source event target)
      (.running (start.perform (.registerWorker registration) fault).1) later (.running c)

/-- An entry of the live table has the capacity of its first registration. -/
theorem firstRegistered {path : Text} {events : List (Event R)} {c : Coordinator R}
    (run : Run (World.Step path) (.down none) events (.running c)) {worker : WorkerId}
    {boot : WorkerBootId} {live : LiveWorker} (known : c.findLiveWorker worker boot = some live) :
    FirstRegistered path events c worker boot live.maxConcurrentAssignments := by
  have absent : ¬ (World.down none : World R).Knows worker boot := id
  obtain ⟨earlier, event, later, before, after, rfl, lead, step, missing, found, since⟩ :=
    run.established absent ⟨live, known⟩
  cases step with
  | stop c => exact found.elim
  | failedStart samePath refused => exact found.elim
  | @start config image left outcomes c samePath started =>
      have outcome := Coordinator.create_spec config image outcomes
        ((show SoundImage path image from World.Reachable.sound ⟨earlier, lead⟩).origin config).1
      rw [started] at outcome
      obtain ⟨entry, held⟩ := found
      rw [Coordinator.findLiveWorker, outcome.liveWorkers c rfl] at held
      cases held
  | request start request fault =>
      obtain ⟨entry, entered⟩ := found
      have unknown : start.findLiveWorker worker boot = none := by
        by_contra present
        obtain ⟨other, held⟩ := Option.ne_none_iff_exists'.mp present
        exact missing ⟨other, held⟩
      obtain ⟨registration, rfl, sameWorker, sameBoot, capacity⟩ :=
        start.perform_new request fault unknown entered
      -- Nothing after the registration rewrites what it entered.
      have kept : (World.running c).KeepsEntry worker boot entry.registration := by
        refine since.preserves (fun source event target holds taken => ?_) ⟨entry, entered, rfl⟩
        obtain ⟨-, knows, step⟩ := taken
        cases step with
        | request c request fault =>
            obtain ⟨live', held, same⟩ := holds
            obtain ⟨later, reached, sameLater⟩ := c.perform_known request fault held
            exact ⟨later, reached, sameLater.trans same⟩
        | stop _ => exact knows.elim
        | start _ _ => exact holds.elim
        | failedStart _ _ => exact holds.elim
      obtain ⟨live', held, same⟩ := kept
      obtain rfl := Option.some.inj (held.symm.trans known)
      have sameCapacity := congrArg LiveWorker.maxConcurrentAssignments same
      exact ⟨earlier, start, registration, fault, later, rfl, lead, missing, sameWorker, sameBoot,
        capacity.symm.trans sameCapacity.symm, since⟩

/-- Over all experiments, no incarnation of the live table holds more live attempts than it was
first registered for; and a claim returns no more assignments than it asks for, each of another
trial. -/
theorem concurrency_capped {path : Text} {events : List (Event R)} {c : Coordinator R}
    (run : Run (World.Step path) (.down none) events (.running c)) :
    (∀ worker boot live, c.findLiveWorker worker boot = some live →
      ∃ capacity, FirstRegistered path events c worker boot capacity ∧
        c.activeAttempts worker boot ≤ capacity) ∧
    ∀ claim fault,
      (c.claimTrials claim fault).2.assignments.length ≤ claim.maxClaims ∧
        ((c.claimTrials claim fault).2.assignments.map (·.envelope.trial)).Nodup := by
  have reachable : (World.running c).Reachable path := ⟨events, run⟩
  refine ⟨fun worker boot live known => ?_, fun claim fault => ?_⟩
  · refine ⟨live.maxConcurrentAssignments, firstRegistered run known, ?_⟩
    have capped := reachable.capped worker boot
    rwa [Coordinator.capacityOf, known] at capped
  · obtain ⟨-, consistent, arranged, -⟩ := reachable.sound
    cases guarded : c.claimTrialsGuard claim with
    | error failure =>
        have none_ : (c.claimTrials claim fault).2.assignments = [] := by
          simp only [Coordinator.claimTrials, guarded]
        rw [none_]
        exact ⟨Nat.zero_le _, .nil⟩
    | ok live =>
        have picked := claimLoop_picks claim live arranged consistent
        obtain ⟨added, assignments, named⟩ := picked.assigned
        have replied : (c.claimTrials claim fault).2.assignments = added := by
          rw [List.nil_append] at assignments
          rw [← assignments]
          simp only [Coordinator.claimTrials, guarded]
          split
          · rename_i none_
            exact (List.isEmpty_iff.mp none_).symm
          · rfl
        rw [replied]
        constructor
        · have counted := congrArg List.length named
          rw [List.length_map, List.length_take] at counted
          have budget : c.claimBudget claim live ≤ claim.maxClaims := Nat.min_le_left _ _
          omega
        · have trials := congrArg (List.map Prod.snd) named
          rw [List.map_map, List.map_take] at trials
          have distinct := (offered_distinct arranged).sublist
            (List.take_sublist (c.claimBudget claim live) _)
          rw [← trials] at distinct
          exact distinct

end Runs

/-- The sample worker holds one attempt, within the capacity it registered for. -/
theorem concurrency_capped_sample : ∃ capacity events,
    FirstRegistered Sample.config.statePath events Sample.claimed Sample.worker Sample.boot
      capacity ∧ Sample.claimed.activeAttempts Sample.worker Sample.boot ≤ capacity := by
  obtain ⟨events, run⟩ := Sample.claimed_reachable
  have known : (Sample.claimed.findLiveWorker Sample.worker Sample.boot).isSome = true := by
    decide +kernel
  obtain ⟨live, found⟩ := Option.isSome_iff_exists.mp known
  obtain ⟨capacity, registered, held⟩ := (concurrency_capped run).1 _ _ live found
  exact ⟨capacity, events, registered, held⟩

end ExperimentFabric
