import ExperimentFabric.Epochs
import ExperimentFabric.Fencing
import ExperimentFabric.Freshness
import ExperimentFabric.LiveTable

/-!
# Registrations of worker incarnations

At most one incarnation of a worker holds authority.  An incarnation that was accepted is on record,
in memory and in the file, under the epoch of its lifetime, so that no later lifetime accepts it
again; one that was revoked stays in the live table until its lifetime ends, and is on record
afterwards.
-/

namespace ExperimentFabric

open Lib

variable {R : Type}

/-! ## One incarnation for each worker -/

namespace Coordinator

/-- The table is keyed by its incarnations, and at most one of each worker is unrevoked. -/
structure SingleLive (c : Coordinator R) : Prop where
  keyed : c.LiveKeyed
  single : ∀ worker boot boot' live live', c.findLiveWorker worker boot = some live →
    c.findLiveWorker worker boot' = some live' → live.revoked = false → live'.revoked = false →
      boot = boot'

theorem SingleLive.keep {c c' : Coordinator R} (single : c.SingleLive)
    (kept : OrderedMap.Evolves LiveKept c.liveWorkers c'.liveWorkers) : c'.SingleLive where
  keyed := fun key live' found => by
    obtain ⟨live, before, same⟩ := kept.source found
    rw [same.worker, same.boot]
    exact single.keyed key live before
  single := fun worker boot boot' first second found found' unrevoked unrevoked' => by
    obtain ⟨live, before, same⟩ := kept.source found
    obtain ⟨live', before', same'⟩ := kept.source found'
    exact single.single worker boot boot' live live' before before' (same.unrevoked unrevoked)
      (same'.unrevoked unrevoked')

/-- The table after a registration holds the new incarnation and those of the replacement. -/
theorem addWorker_find {c : Coordinator R} {request : RegisterWorkerRequest}
    (unknown : c.findLiveWorker request.worker request.boot = none) {key : WorkerKey}
    {live : LiveWorker}
    (found : ((c.replacing request).addWorker request).liveWorkers.find? key = some live) :
    (key = workerKey request.worker request.boot ∧ live.worker = request.worker ∧
      live.boot = request.boot ∧ live.revoked = false ∧
      live.producer = ⟨(c.replacing request).state.nextWorkerRegistrationSequence + 1⟩) ∨
    (key ≠ workerKey request.worker request.boot ∧
      (c.replacing request).liveWorkers.find? key = some live) := by
  have absent : (c.replacing request).liveWorkers.find?
      (workerKey request.worker request.boot) = none :=
    (replacing_kept c request).absent _ unknown
  rw [Coordinator.addWorker, OrderedMap.find?_emplace] at found
  split at found
  · rename_i here
    refine .inl ⟨here, ?_⟩
    simp only [nextSequence, absent, Option.getD_none, Option.some.injEq] at found
    rw [← found]
    exact ⟨rfl, rfl, rfl, rfl⟩
  · rename_i elsewhere
    exact .inr ⟨elsewhere, found⟩

theorem SingleLive.register {c : Coordinator R} (single : c.SingleLive)
    {request : RegisterWorkerRequest}
    (unknown : c.findLiveWorker request.worker request.boot = none) :
    ((c.replacing request).addWorker request).SingleLive where
  keyed := fun key live found => by
    rcases addWorker_find unknown found with ⟨rfl, worker, boot, -⟩ | ⟨-, before⟩
    · rw [worker, boot]
    · exact (single.keep (replacing_kept c request)).keyed key live before
  single := fun worker boot boot' live live' found found' unrevoked unrevoked' => by
    rcases addWorker_find unknown found with ⟨here, -⟩ | ⟨-, before⟩
    · obtain ⟨rfl, rfl⟩ := workerKey_inj here
      rcases addWorker_find unknown found' with ⟨here', -⟩ | ⟨-, before'⟩
      · exact (workerKey_inj here').2.symm
      · exact (replacing_single single.keyed before' unrevoked').symm
    · rcases addWorker_find unknown found' with ⟨here', -⟩ | ⟨-, before'⟩
      · obtain ⟨rfl, rfl⟩ := workerKey_inj here'
        exact replacing_single single.keyed before unrevoked
      · exact (single.keep (replacing_kept c request)).single worker boot boot' live live' before
          before' unrevoked unrevoked'

theorem SingleLive.perform [MetricReal R] [CanonicalDigests R] {c : Coordinator R}
    (single : c.SingleLive) (request : Request R) (fault : Option SaveFault) :
    (c.perform request fault).1.SingleLive := by
  cases c.perform_liveChange request fault with
  | kept workers => exact single.keep workers
  | registered guarded unknown fresh workers state saved =>
      obtain ⟨keyed, only⟩ := single.register unknown
      refine ⟨fun key live found => keyed key live (workers ▸ found), ?_⟩
      intro worker boot boot' live live' found found'
      rw [findLiveWorker, workers] at found found'
      exact only worker boot boot' live live' found found'

end Coordinator

section Runs

variable [MetricReal R] [CanonicalDigests R] {path : Text}

/-- While a coordinator runs, no worker has two incarnations that count. -/
def World.SingleLive : World R → Prop
  | .running c => c.SingleLive
  | .down _ => True

theorem World.Reachable.singleLive {c : Coordinator R}
    (reachable : (World.running c).Reachable path) : c.SingleLive := by
  let both (world : World R) : Prop := world.Sound path ∧ world.SingleLive
  have holds : both (.running c) := by
    refine reachable.invariant ⟨(World.Reachable.empty path).sound, trivial⟩ ?_
    intro source event target held step
    refine ⟨step.sound held.1, ?_⟩
    cases step with
    | request c request fault => exact Coordinator.SingleLive.perform held.2 request fault
    | stop c => trivial
    | @start config image left outcomes c samePath started =>
        have outcome := Coordinator.create_spec config image outcomes (held.1.origin config).1
        have empty : c.liveWorkers = .empty := outcome.liveWorkers c (by rw [started])
        constructor
        · intro key live found
          simp [empty] at found
        · intro worker boot boot' live live' found
          simp [Coordinator.findLiveWorker, empty] at found
    | failedStart samePath refused => trivial
  exact holds.2

end Runs

/-! ## Incarnations on record -/

/-- The incarnation is on record under the epoch, which the state has reached. -/
def CoordinatorState.Enrolls (worker : WorkerId) (boot : WorkerBootId) (epoch : Nat)
    (state : CoordinatorState R) : Prop :=
  (∃ incarnation ∈ state.workers, incarnation.worker = worker ∧ incarnation.boot = boot ∧
    incarnation.epoch.value = epoch) ∧ epoch ≤ state.lastEpoch

/-- Every save of the run succeeds, and no start finds the epoch counter at its last value. -/
def savesSucceed [MetricReal R] [CanonicalDigests R] : World R → Event R → Prop
  | .running c, .request request fault => (c.perform request fault).1.persistenceDegraded = false
  | .down image, .start _ _ => ∀ state, image = some state → state.lastEpoch + 1 < 2 ^ 64
  | _, _ => True

theorem revokeIncarnation_identity (worker : WorkerId) (boot : WorkerBootId) (kind : FailureKind)
    (sequence : Nat) (incarnation : WorkerIncarnation) :
    (revokeIncarnation worker boot kind sequence incarnation).worker = incarnation.worker ∧
      (revokeIncarnation worker boot kind sequence incarnation).boot = incarnation.boot ∧
      (revokeIncarnation worker boot kind sequence incarnation).epoch = incarnation.epoch := by
  unfold revokeIncarnation
  split <;> exact ⟨rfl, rfl, rfl⟩

/-- Every incarnation on record stays there. -/
def WorkersKept (old new : CoordinatorState R) : Prop :=
  ∀ incarnation ∈ old.workers, ∃ incarnation' ∈ new.workers,
    incarnation'.worker = incarnation.worker ∧ incarnation'.boot = incarnation.boot ∧
      incarnation'.epoch = incarnation.epoch

theorem WorkersKept.ofEq {old new : CoordinatorState R} (same : new.workers = old.workers) :
    WorkersKept old new :=
  fun incarnation member => ⟨incarnation, same ▸ member, rfl, rfl, rfl⟩

theorem WorkersKept.trans {first second third : CoordinatorState R}
    (earlier : WorkersKept first second) (later : WorkersKept second third) :
    WorkersKept first third := by
  intro incarnation member
  obtain ⟨middle, there, worker, boot, epoch⟩ := earlier incarnation member
  obtain ⟨last, ended, worker', boot', epoch'⟩ := later middle there
  exact ⟨last, ended, worker'.trans worker, boot'.trans boot, epoch'.trans epoch⟩

theorem WorkersKept.revoked {old new : CoordinatorState R} {worker : WorkerId} {boot : WorkerBootId}
    {kind : FailureKind} {sequence : Nat}
    (workers : new.workers = old.workers.map (revokeIncarnation worker boot kind sequence)) :
    WorkersKept old new := by
  intro incarnation member
  refine ⟨_, workers ▸ List.mem_map_of_mem member, ?_⟩
  exact revokeIncarnation_identity worker boot kind sequence incarnation

theorem replacing_workersKept (c : Coordinator R) (request : RegisterWorkerRequest) :
    WorkersKept c.state (c.replacing request).state := by
  have replaced : ∀ (sequence : Nat) (workers : List LiveWorker) (c : Coordinator R),
      WorkersKept c.state (workers.foldl (Coordinator.replaceIncarnation sequence) c).state := by
    intro sequence workers
    induction workers with
    | nil => exact fun _ => .ofEq rfl
    | cons live rest ih =>
        intro c
        have first : WorkersKept c.state (Coordinator.replaceIncarnation sequence c live).state :=
          .revoked rfl
        exact first.trans (ih _)
  exact replaced _ _ c.nextSequence

section Record

variable [MetricReal R] [CanonicalDigests R]

theorem StateSteps.workersKept {c : Coordinator R} {request : Request R}
    {old new : CoordinatorState R} (steps : StateSteps c request old new) : WorkersKept old new := by
  induction steps with
  | refl => exact .ofEq rfl
  | tail _ last ih =>
      refine ih.trans ?_
      cases last.1 with
      | lose named stored workers => exact .revoked workers
      | register named guarded fresh identity same workers =>
          intro incarnation member
          exact ⟨incarnation, workers ▸ List.mem_append_left _ member, rfl, rfl, rfl⟩
      | quiet same workers => exact .ofEq workers
      | change found effect stored workers => exact .ofEq workers
      | create _ _ _ _ _ _ _ _ _ workers _ => exact .ofEq workers
      | addTrial _ _ _ _ _ _ _ workers => exact .ofEq workers
      | addTrialUndone _ _ _ _ _ workers => exact .ofEq workers
      | issue _ _ _ _ _ _ _ _ _ workers => exact .ofEq workers

theorem enrolls_lasting (worker : WorkerId) (boot : WorkerBootId) (epoch : Nat) :
    Lasting savesSucceed (CoordinatorState.Enrolls (R := R) worker boot epoch) where
  performed := by
    rintro c request fault - ⟨⟨incarnation, member, sameWorker, sameBoot, sameEpoch⟩, reached⟩
    obtain ⟨kept, there, worker', boot', epoch'⟩ :=
      (c.perform_steps request fault).workersKept incarnation member
    refine ⟨⟨kept, there, worker'.trans sameWorker, boot'.trans sameBoot, ?_⟩, ?_⟩
    · rw [epoch', sameEpoch]
    · rw [(c.perform_counted request fault).epoch]
      exact reached
  resumed := by
    rintro config outcomes old new meets resumes ⟨onRecord, reached⟩
    refine ⟨resumes.workers ▸ onRecord, ?_⟩
    rcases resumes.epoch with same | ⟨seed, minted⟩
    · rw [same]
      exact reached
    · rw [minted]
      exact reached.trans (Coordinator.lt_mintEpoch (meets old rfl) seed).le

/-- The state of a running coordinator carries its epoch. -/
def World.EpochStated : World R → Prop
  | .running c => c.state.lastEpoch = c.epoch.value
  | .down _ => True

theorem World.Reachable.stateEpoch {path : Text} {c : Coordinator R}
    (reachable : (World.running c).Reachable path) : c.state.lastEpoch = c.epoch.value := by
  have holds : (World.running c).EpochStated := by
    refine reachable.invariant trivial ?_
    intro source event target held step
    cases step with
    | request c request fault =>
        have counted := (c.perform_counted request fault).epoch
        have epoch := congrArg StrongId.value (c.perform_operated request fault).epoch
        exact (counted.trans held).trans epoch.symm
    | stop c => trivial
    | @start config image left outcomes c samePath started =>
        let minted (state : CoordinatorState R) : Prop := state.lastEpoch =
          Coordinator.mintEpoch (Coordinator.origin config image).lastEpoch config.epochSeed
        have blind : Coordinator.Blind minted := fun _ _ _ same => same
        have state := (Coordinator.create_upheld blind config outcomes rfl).2 c (by rw [started])
        have epoch := (Coordinator.create_minted config image outcomes).2 c (by rw [started])
        exact state.trans epoch.symm
    | failedStart samePath refused => trivial
  exact holds

/-! ## Acceptance -/

namespace Coordinator

/-- The registration of the incarnation is accepted. -/
def Accepts (c : Coordinator R) (request : Request R) (fault : Option SaveFault) (worker : WorkerId)
    (boot : WorkerBootId) : Prop :=
  ∃ registration, request = .registerWorker registration ∧
    (c.perform request fault).2.succeeded = true ∧ registration.worker = worker ∧
      registration.boot = boot

/-- An accepted incarnation is live and unrevoked, or is new and passes the checks of the record. -/
theorem Accepts.cases {c : Coordinator R} {request : Request R} {fault : Option SaveFault}
    {worker : WorkerId} {boot : WorkerBootId} (accepts : c.Accepts request fault worker boot) :
    ((∃ live, c.findLiveWorker worker boot = some live ∧ live.revoked = false) ∧
      (c.perform request fault).1 = c) ∨
    (c.findLiveWorker worker boot = none ∧ ∃ registration, registration.worker = worker ∧
      registration.boot = boot ∧ (c.replacing registration).registerFreshGuard registration = .ok () ∧
      (c.perform request fault).1.liveWorkers =
        ((c.replacing registration).addWorker registration).liveWorkers) := by
  obtain ⟨registration, rfl, succeeded, rfl, rfl⟩ := accepts
  have ending := c.perform_ending fault (.registerWorker registration)
  generalize c.perform (.registerWorker registration) fault = result at ending succeeded ⊢
  cases ending with
  | @saving _ prepared undo answer saves =>
      cases saves with
      | register guarded unknown fresh =>
          refine .inr ⟨unknown, registration, rfl, rfl, fresh, ?_⟩
          rw [endWith_id, persistLocked_liveWorkers]
  | registered guarded known unrevoked => exact .inl ⟨⟨_, known, unrevoked⟩, rfl⟩
  | replaced guarded unknown refused => cases succeeded
  | refused failed => exact nomatch failed.symm.trans succeeded
  | counted failed => exact nomatch failed.symm.trans succeeded

omit [MetricReal R] [CanonicalDigests R] in
/-- The checks of the record refuse an incarnation of an earlier epoch. -/
theorem registerFreshGuard_refuses {c : Coordinator R} {registration : RegisterWorkerRequest}
    {epoch : Nat} (enrolled : c.state.Enrolls registration.worker registration.boot epoch)
    (earlier : epoch < c.epoch.value) :
    (c.replacing registration).registerFreshGuard registration ≠ .ok () := by
  intro accepted
  obtain ⟨⟨incarnation, member, worker, boot, same⟩, -⟩ := enrolled
  obtain ⟨kept, there, worker', boot', epoch'⟩ :=
    replacing_workersKept c registration incarnation member
  have process : (c.replacing registration).epoch = c.epoch :=
    (replaceIncarnations_sameProcess _ _ c.nextSequence).epoch
  simp only [registerFreshGuard, Check.and_eq_ok, forEach_eq_ok] at accepted
  have checked := accepted.1 kept there
  rw [if_pos (by simp [worker', worker, boot', boot])] at checked
  simp only [sequence_cons_eq_ok, require_eq_ok, decide_eq_true_eq] at checked
  have current : incarnation.epoch = c.epoch := epoch'.symm.trans (checked.2.1.trans process)
  rw [← same, current] at earlier
  exact (lt_irrefl _ earlier).elim

end Coordinator

/-! ## Incarnations that are never accepted again -/

variable {path : Text}

/-- Every incarnation in the live table is on record under the epoch of the process, in memory and in
the file. -/
def World.LiveEnrolled (path : Text) : World R → Prop
  | .running c => ∀ worker boot live, c.findLiveWorker worker boot = some live →
      (World.running c).Retains path (CoordinatorState.Enrolls worker boot c.epoch.value)
  | .down _ => True

/-- The incarnation is revoked in the live table, or is on record under an earlier epoch and not in
the table. -/
def World.Barred (path : Text) (worker : WorkerId) (boot : WorkerBootId) : World R → Prop
  | .running c => (∃ live, c.findLiveWorker worker boot = some live ∧ live.revoked = true) ∨
      (c.findLiveWorker worker boot = none ∧ ∃ epoch < c.epoch.value,
        (World.running c).Retains path (CoordinatorState.Enrolls worker boot epoch))
  | .down image => ∃ epoch,
      (World.down image).Retains path (CoordinatorState.Enrolls worker boot epoch)

theorem World.Step.liveEnrolled {source target : World R} {event : Event R}
    (step : World.Step path source event target) (meets : savesSucceed source event)
    (reachable : source.Reachable path) (enrolled : source.LiveEnrolled path) :
    target.LiveEnrolled path := by
  have sound := reachable.sound
  cases step with
  | request c request fault =>
      intro worker boot live' found
      have epoch : (c.perform request fault).1.epoch = c.epoch :=
        (c.perform_operated request fault).epoch
      have stays : ∀ live, c.findLiveWorker worker boot = some live →
          (World.running (c.perform request fault).1).Retains path
            (CoordinatorState.Enrolls worker boot (c.perform request fault).1.epoch.value) := by
        intro live before
        rw [epoch]
        exact (World.Step.request c request fault).retains (enrolls_lasting worker boot _) meets
          sound rfl (enrolled worker boot live before)
      cases c.perform_liveChange request fault with
      | kept workers =>
          obtain ⟨live, before, -⟩ := workers.source found
          exact stays live before
      | @registered registration guarded unknown fresh workers state saved =>
          rw [Coordinator.findLiveWorker, workers] at found
          rcases Coordinator.addWorker_find unknown found with ⟨here, -⟩ | ⟨-, before⟩
          · obtain ⟨rfl, rfl⟩ := Coordinator.workerKey_inj here
            have process : (c.replacing registration).epoch = c.epoch :=
              (Coordinator.replaceIncarnations_sameProcess _ _ c.nextSequence).epoch
            have current : (c.perform (.registerWorker registration) fault).1.state.Enrolls
                registration.worker registration.boot
                  (c.perform (.registerWorker registration) fault).1.epoch.value := by
              constructor
              · rw [state]
                refine ⟨_, List.mem_append_right _ List.mem_cons_self, rfl, rfl, ?_⟩
                rw [epoch]
                exact congrArg StrongId.value process
              · exact (reachable.step (.request c _ fault)).stateEpoch.ge
            have samePath : (c.perform (.registerWorker registration) fault).1.config.statePath =
                path := by
              rw [(c.perform_operated _ fault).config]
              exact sound.1
            exact ⟨current, fun hasPath => ⟨_, saved meets (samePath ▸ hasPath), current⟩⟩
          · obtain ⟨live, held, -⟩ := (Coordinator.replacing_kept c registration).source before
            exact stays live held
  | stop c => trivial
  | @start config image left outcomes c samePath started =>
      intro worker boot live found
      have outcome := Coordinator.create_spec config image outcomes (sound.origin config).1
      rw [Coordinator.findLiveWorker, outcome.liveWorkers c (by rw [started])] at found
      simp at found
  | failedStart samePath refused => trivial

/-- An incarnation that is barred is not accepted. -/
theorem World.Barred.refused {c : Coordinator R} {worker : WorkerId} {boot : WorkerBootId}
    (barred : (World.running c).Barred path worker boot) (request : Request R)
    (fault : Option SaveFault) : ¬ c.Accepts request fault worker boot := by
  intro accepts
  rcases barred with ⟨live, found, revoked⟩ | ⟨absent, epoch, earlier, retained⟩
  · rcases accepts.cases with ⟨⟨other, known, unrevoked⟩, -⟩ | ⟨unknown, -⟩
    · obtain rfl := Option.some.inj (found.symm.trans known)
      exact nomatch unrevoked.symm.trans revoked
    · exact nomatch unknown.symm.trans found
  · rcases accepts.cases with ⟨⟨other, known, -⟩, -⟩ | ⟨-, registration, rfl, rfl, fresh, -⟩
    · exact nomatch absent.symm.trans known
    · exact Coordinator.registerFreshGuard_refuses retained.1 earlier fresh

theorem World.Step.barred {source target : World R} {event : Event R} {worker : WorkerId}
    {boot : WorkerBootId} (step : World.Step path source event target)
    (meets : savesSucceed source event) (reachable : source.Reachable path)
    (enrolled : source.LiveEnrolled path) (keeps : keepsEntries path event = true)
    (barred : source.Barred path worker boot) : target.Barred path worker boot := by
  have sound := reachable.sound
  have stays : ∀ epoch, source.Retains path (CoordinatorState.Enrolls worker boot epoch) →
      target.Retains path (CoordinatorState.Enrolls worker boot epoch) :=
    fun epoch retained =>
      step.retains (enrolls_lasting worker boot epoch) meets sound keeps retained
  cases step with
  | request c request fault =>
      have epoch : (c.perform request fault).1.epoch = c.epoch :=
        (c.perform_operated request fault).epoch
      rcases barred with ⟨live, found, revoked⟩ | ⟨absent, old, earlier, retained⟩
      · refine .inl ?_
        cases c.perform_liveChange request fault with
        | kept workers =>
            obtain ⟨live', found', kept⟩ := workers.extends_ _ live found
            exact ⟨live', found', kept.revoked revoked⟩
        | @registered registration guarded unknown fresh workers state saved =>
            obtain ⟨live', found', kept⟩ :=
              (Coordinator.replacing_kept c registration).extends_ _ live found
            refine ⟨live', ?_, kept.revoked revoked⟩
            have other : workerKey worker boot ≠
                workerKey registration.worker registration.boot := by
              intro same
              obtain ⟨rfl, rfl⟩ := Coordinator.workerKey_inj same
              exact nomatch unknown.symm.trans found
            rw [Coordinator.findLiveWorker, workers, Coordinator.addWorker,
              OrderedMap.find?_emplace, if_neg other]
            exact found'
      · refine .inr ⟨?_, old, epoch ▸ earlier, stays old retained⟩
        cases c.perform_liveChange request fault with
        | kept workers => exact workers.absent _ absent
        | @registered registration guarded unknown fresh workers state saved =>
            have other : workerKey worker boot ≠
                workerKey registration.worker registration.boot := by
              intro same
              obtain ⟨rfl, rfl⟩ := Coordinator.workerKey_inj same
              exact Coordinator.registerFreshGuard_refuses retained.1 earlier fresh
            rw [Coordinator.findLiveWorker, workers, Coordinator.addWorker,
              OrderedMap.find?_emplace, if_neg other]
            exact (Coordinator.replacing_kept c registration).absent _ absent
  | stop c =>
      have hasPath : path ≠ [] := by simpa [keepsEntries] using keeps
      rcases barred with ⟨live, found, -⟩ | ⟨-, old, -, retained⟩
      · exact ⟨_, hasPath, (enrolled worker boot live found).2 hasPath⟩
      · exact ⟨old, hasPath, retained.2 hasPath⟩
  | @start config image left outcomes c samePath started =>
      obtain ⟨old, retained⟩ := barred
      have outcome := Coordinator.create_spec config image outcomes (sound.origin config).1
      refine .inr ⟨?_, old, ?_, stays old retained⟩
      · rw [Coordinator.findLiveWorker, outcome.liveWorkers c (by rw [started])]
        simp
      · obtain ⟨hasPath, state, rfl, -, reached⟩ := retained
        have minted := (Coordinator.create_minted config (some state) outcomes).2 c (by rw [started])
        rw [minted, Coordinator.origin, if_neg (samePath ▸ hasPath)]
        exact reached.trans_lt (Coordinator.lt_mintEpoch (meets state rfl) config.epochSeed)
  | failedStart samePath refused =>
      obtain ⟨old, retained⟩ := barred
      exact ⟨old, stays old retained⟩

/-! ## The registry of a run -/

/-- What happens to an incarnation; an acceptance carries the number of the lifetime. -/
inductive RegistrationEvent where
  | accepted (lifetime : Nat) (worker : WorkerId) (boot : WorkerBootId)
  | revoked (worker : WorkerId) (boot : WorkerBootId)
  deriving DecidableEq

/-- The lifetimes counted after an event. -/
def Event.countLifetimes (lifetimes : Nat) : Event R → Nat
  | .start _ _ => lifetimes + 1
  | _ => lifetimes

namespace Coordinator

omit [MetricReal R] [CanonicalDigests R] in
/-- The incarnations that an operation has revoked. -/
def revocations (c after : Coordinator R) : List RegistrationEvent :=
  (c.liveWorkers.entries.filter fun entry =>
    !entry.2.revoked && (after.liveWorkers.find? entry.1).any (·.revoked)).map fun entry =>
      .revoked entry.2.worker entry.2.boot

/-- The incarnation that a request registers with success. -/
def acceptances (c : Coordinator R) (lifetime : Nat) (request : Request R)
    (fault : Option SaveFault) : List RegistrationEvent :=
  match request with
  | .registerWorker registration =>
      if (c.perform request fault).2.succeeded then
        [.accepted lifetime registration.worker registration.boot]
      else []
  | _ => []

end Coordinator

/-- The revocations and acceptances of a step. -/
def registrationsOf : World R × Nat → Event R → List RegistrationEvent
  | (.running c, lifetime), .request request fault =>
      c.revocations (c.perform request fault).1 ++ c.acceptances lifetime request fault
  | _, _ => []

/-- The registrations of a run from an empty state path whose saves succeed. -/
abbrev Registry (keeps : Event R → Bool) (path : Text) :
    List RegistrationEvent → World R × Nat → Prop :=
  Ledger (fun _ source event target => savesSucceed source.1 event ∧
    World.Step path source.1 event target.1 ∧ target.2 = event.countLifetimes source.2)
    registrationsOf keeps (.down none, 0)

/-- Where the run has left an incarnation: one accepted in this lifetime is in the live table, and
every other one that was accepted or revoked is barred. -/
def Standing (path : Text) (state : World R × Nat) : RegistrationEvent → Prop
  | .accepted lifetime worker boot => match state with
      | (.running c, now) => (lifetime = now ∧ ∃ live, c.findLiveWorker worker boot = some live) ∨
          (lifetime < now ∧ (World.running c).Barred path worker boot)
      | (.down image, now) => lifetime ≤ now ∧ (World.down image).Barred path worker boot
  | .revoked worker boot => state.1.Barred path worker boot

theorem Registry.reachable {keeps : Event R → Bool} {events : List RegistrationEvent}
    {state : World R × Nat} (registry : Registry keeps path events state) :
    state.1.Reachable path ∧ state.1.LiveEnrolled path := by
  induction registry with
  | empty => exact ⟨.empty path, trivial⟩
  | snoc earlier last ih =>
      obtain ⟨meets, step, -⟩ := last
      exact ⟨ih.1.step step, step.liveEnrolled meets ih.1 ih.2⟩

/-- An incarnation in the live table stays there during its lifetime. -/
theorem Coordinator.perform_findLiveWorker {c : Coordinator R} {worker : WorkerId}
    {boot : WorkerBootId} {live : LiveWorker} (found : c.findLiveWorker worker boot = some live)
    (request : Request R) (fault : Option SaveFault) :
    ∃ live', (c.perform request fault).1.findLiveWorker worker boot = some live' := by
  cases c.perform_liveChange request fault with
  | kept workers =>
      obtain ⟨live', found', -⟩ := workers.extends_ _ live found
      exact ⟨live', found'⟩
  | @registered registration guarded unknown fresh workers state saved =>
      obtain ⟨live', found', -⟩ := (replacing_kept c registration).extends_ _ live found
      refine ⟨live', ?_⟩
      have other : workerKey worker boot ≠ workerKey registration.worker registration.boot := by
        intro same
        obtain ⟨rfl, rfl⟩ := workerKey_inj same
        exact nomatch unknown.symm.trans found
      rw [findLiveWorker, workers, addWorker, OrderedMap.find?_emplace, if_neg other]
      exact found'

namespace Coordinator

/-- An accepted incarnation is in the live table. -/
theorem Accepts.live {c : Coordinator R} {request : Request R} {fault : Option SaveFault}
    {worker : WorkerId} {boot : WorkerBootId} (accepts : c.Accepts request fault worker boot) :
    ∃ live, (c.perform request fault).1.findLiveWorker worker boot = some live := by
  rcases accepts.cases with ⟨⟨live, found, -⟩, same⟩ | ⟨-, registration, rfl, rfl, -, workers⟩
  · exact ⟨live, by rw [same, found]⟩
  · rw [findLiveWorker, workers, addWorker, OrderedMap.find?_emplace, if_pos rfl]
    exact ⟨_, rfl⟩

theorem mem_acceptances {c : Coordinator R} {lifetime : Nat} {request : Request R}
    {fault : Option SaveFault} {event : RegistrationEvent}
    (member : event ∈ c.acceptances lifetime request fault) :
    ∃ worker boot, event = .accepted lifetime worker boot ∧ c.Accepts request fault worker boot := by
  unfold acceptances at member
  split at member
  · rename_i registration
    split at member
    · rename_i succeeded
      exact ⟨_, _, List.mem_singleton.mp member, registration, rfl, succeeded, rfl, rfl⟩
    · exact (List.not_mem_nil member).elim
  · exact (List.not_mem_nil member).elim

omit [MetricReal R] [CanonicalDigests R] in
theorem mem_revocations {c after : Coordinator R} (keyed : c.LiveKeyed)
    {event : RegistrationEvent} (member : event ∈ c.revocations after) :
    ∃ worker boot live live', event = .revoked worker boot ∧
      c.findLiveWorker worker boot = some live ∧ live.revoked = false ∧
      after.findLiveWorker worker boot = some live' ∧ live'.revoked = true := by
  obtain ⟨⟨key, live⟩, selected, rfl⟩ := List.mem_map.mp member
  obtain ⟨held, changed⟩ := List.mem_filter.mp selected
  have found := (OrderedMap.mem_entries_iff _ key live).mp held
  obtain rfl := keyed key live found
  simp only [Bool.and_eq_true, Bool.not_eq_true', Option.any_eq_true] at changed
  obtain ⟨unrevoked, live', found', revoked⟩ := changed
  exact ⟨_, _, live, live', rfl, found, unrevoked, found', revoked⟩

end Coordinator

/-- Every acceptance and revocation of the run has left its incarnation in the live table of its own
lifetime, or barred. -/
theorem Registry.standing {events : List RegistrationEvent} {state : World R × Nat}
    (registry : Registry (keepsEntries path) path events state) :
    ∀ event ∈ events, Standing path state event := by
  refine Ledger.holds ?_ ?_ registry
  · rintro events ⟨source, now⟩ event ⟨target, later⟩ entry earlier ⟨meets, step, counted⟩ - member
    obtain ⟨reachable, enrolled⟩ := Registry.reachable earlier
    dsimp only at meets step counted reachable enrolled
    cases step with
    | request c request fault =>
        obtain rfl : later = now := counted
        rcases List.mem_append.mp member with revoked | accepted
        · obtain ⟨worker, boot, live, live', rfl, -, -, found, revoked⟩ :=
            Coordinator.mem_revocations reachable.singleLive.keyed revoked
          exact .inl ⟨live', found, revoked⟩
        · obtain ⟨worker, boot, rfl, accepts⟩ := Coordinator.mem_acceptances accepted
          exact .inl ⟨rfl, accepts.live⟩
    | stop c => exact (List.not_mem_nil member).elim
    | start samePath started => exact (List.not_mem_nil member).elim
    | failedStart samePath refused => exact (List.not_mem_nil member).elim
  · rintro events ⟨source, now⟩ event ⟨target, later⟩ entry earlier ⟨meets, step, counted⟩ keeps
      standing
    obtain ⟨reachable, enrolled⟩ := Registry.reachable earlier
    dsimp only at meets step counted reachable enrolled
    have stays : ∀ worker boot, source.Barred path worker boot → target.Barred path worker boot :=
      fun worker boot barred => step.barred meets reachable enrolled keeps barred
    cases entry with
    | revoked worker boot => exact stays worker boot standing
    | accepted lifetime worker boot =>
        cases step with
        | request c request fault =>
            obtain rfl : later = now := counted
            rcases standing with ⟨here, live, found⟩ | ⟨past, barred⟩
            · exact .inl ⟨here, Coordinator.perform_findLiveWorker found request fault⟩
            · exact .inr ⟨past, stays worker boot barred⟩
        | stop c =>
            obtain rfl : later = now := counted
            have hasPath : path ≠ [] := by simpa [keepsEntries] using keeps
            rcases standing with ⟨here, live, found⟩ | ⟨past, barred⟩
            · exact ⟨here.le, _, hasPath, (enrolled worker boot live found).2 hasPath⟩
            · exact ⟨past.le, stays worker boot barred⟩
        | start samePath started =>
            obtain rfl : later = now + 1 := counted
            exact .inr ⟨Nat.lt_succ_of_le standing.1, stays worker boot standing.2⟩
        | failedStart samePath refused =>
            obtain rfl : later = now + 1 := counted
            exact ⟨Nat.le_succ_of_le standing.1, stays worker boot standing.2⟩

/-- No acceptance follows a revocation of its incarnation, or an acceptance in another lifetime. -/
def RegistrationEvent.Permits (earlier later : RegistrationEvent) : Prop :=
  ∀ lifetime worker boot, later = .accepted lifetime worker boot →
    earlier ≠ .revoked worker boot ∧
      ∀ other, earlier = .accepted other worker boot → other = lifetime

/-- A request does not accept what it revokes. -/
theorem registrations_permitted {c : Coordinator R} (keyed : c.LiveKeyed) (lifetime : Nat)
    (request : Request R) (fault : Option SaveFault) :
    (registrationsOf (.running c, lifetime) (.request request fault)).Pairwise
      RegistrationEvent.Permits := by
  refine List.pairwise_append.mpr ⟨?_, ?_, ?_⟩
  · refine List.pairwise_of_forall_mem_list fun earlier _ later member now worker boot same => ?_
    obtain ⟨_, _, -, -, rfl, -⟩ := Coordinator.mem_revocations keyed member
    cases same
  · unfold Coordinator.acceptances
    repeat' split
    all_goals simp
  · intro earlier revoked later accepted now worker boot same
    obtain ⟨worker', boot', live, live', rfl, found, unrevoked, found', revoked'⟩ :=
      Coordinator.mem_revocations keyed revoked
    obtain ⟨_, _, rfl, accepts⟩ := Coordinator.mem_acceptances accepted
    cases same
    refine ⟨fun again => ?_, fun other impossible => nomatch impossible⟩
    cases again
    rcases accepts.cases with ⟨-, unchanged⟩ | ⟨unknown, -⟩
    · rw [unchanged, found] at found'
      obtain rfl := Option.some.inj found'
      exact nomatch unrevoked.symm.trans revoked'
    · exact nomatch unknown.symm.trans found

theorem Registry.permitted {events : List RegistrationEvent} {state : World R × Nat}
    (registry : Registry (keepsEntries path) path events state) :
    events.Pairwise RegistrationEvent.Permits := by
  refine Ledger.pairwise ?_ registry
  rintro events ⟨source, now⟩ event ⟨target, later⟩ earlier ⟨-, step, -⟩
  have reachable := (Registry.reachable earlier).1
  dsimp only at step reachable
  have quiet : ([] : List RegistrationEvent).Pairwise RegistrationEvent.Permits ∧
      ∀ old ∈ events, ∀ new ∈ ([] : List RegistrationEvent), old.Permits new :=
    ⟨.nil, fun _ _ _ member => (List.not_mem_nil member).elim⟩
  cases step with
  | request c request fault =>
      refine ⟨registrations_permitted reachable.singleLive.keyed now request fault, ?_⟩
      intro old known new member lifetime worker boot same
      subst same
      have standing := Registry.standing earlier old known
      rcases List.mem_append.mp member with revoked | accepted
      · obtain ⟨_, _, -, -, impossible, -⟩ :=
          Coordinator.mem_revocations reachable.singleLive.keyed revoked
        cases impossible
      · obtain ⟨_, _, same, accepts⟩ := Coordinator.mem_acceptances accepted
        cases same
        constructor
        · rintro rfl
          exact World.Barred.refused standing request fault accepts
        · rintro other rfl
          rcases standing with ⟨here, -⟩ | ⟨-, barred⟩
          · exact here
          · exact (barred.refused request fault accepts).elim
  | stop c => exact quiet
  | start samePath started => exact quiet
  | failedStart samePath refused => exact quiet

/-- At most one incarnation of a worker is unrevoked, every attempt under way belongs to a registered
and unrevoked one in the current epoch, and no incarnation is accepted in two lifetimes on one state
path or again after it was revoked; without a state path, within a lifetime. -/
theorem incarnation_authority {events : List RegistrationEvent} {world : World R} {lifetimes : Nat}
    (registry : Registry (keepsEntries path) path events (world, lifetimes)) :
    (∀ c, world = .running c →
      (∀ worker boot boot' live live', c.findLiveWorker worker boot = some live →
        c.findLiveWorker worker boot' = some live' → live.revoked = false →
          live'.revoked = false → boot = boot') ∧ c.LiveAuthority) ∧
      events.Pairwise RegistrationEvent.Permits := by
  refine ⟨?_, registry.permitted⟩
  rintro c rfl
  have reachable : (World.running c).Reachable path := (Registry.reachable registry).1
  exact ⟨reachable.singleLive.single, reachable.liveAuthority⟩

/-! ## Runs of the sample -/

/-- A request adds its registrations to the registry of the run before it. -/
theorem Registry.request {keeps : Event R → Bool} {events : List RegistrationEvent}
    {c : Coordinator R} {lifetimes : Nat}
    (registry : Registry keeps path events (.running c, lifetimes)) (request : Request R)
    (kept : keeps (.request request none) = true)
    (saved : (c.perform request none).1.persistenceDegraded = false) :
    Registry keeps path (events ++ registrationsOf (.running c, lifetimes) (.request request none))
      (.running (c.perform request none).1, lifetimes) := by
  have allowed : savesSucceed (.running c) (.request request none) := saved
  have next : Registry keeps path _ (.running (c.perform request none).1, lifetimes) :=
    Ledger.snoc registry ⟨allowed, .request c request none, rfl⟩
  rwa [if_pos kept] at next

/-- A start without a file records nothing. -/
theorem Registry.start {keeps : Event R → Bool} {events : List RegistrationEvent}
    {config : Config} {c : Coordinator R} {lifetimes : Nat}
    (registry : Registry keeps path events (.down none, lifetimes))
    (kept : keeps (.start config fun _ => none) = true) (samePath : config.statePath = path)
    (started : Coordinator.create config none (fun _ => none) =
      ((none : Option (CoordinatorState R)), .ok c)) :
    Registry keeps path events (.running c, lifetimes + 1) := by
  have allowed : savesSucceed (.down none : World R) (.start config fun _ => none) :=
    fun _ impossible => nomatch impossible
  have next : Registry keeps path _ (.running c, lifetimes + 1) :=
    Ledger.snoc registry ⟨allowed, .start samePath started, rfl⟩
  rw [if_pos kept] at next
  rwa [show events ++ registrationsOf (.down none, lifetimes) (.start config fun _ => none) = events
    from List.append_nil events] at next

end Record

namespace Sample

/-- The worker registers. -/
def registration : Request ℚ := .registerWorker { worker, boot }

/-- The worker is revoked. -/
def revocation : Request ℚ := .revokeWorker worker boot .producerLoss []

/-- The registry of the sample after the worker registered and was revoked. -/
def enrolled : List RegistrationEvent := [.accepted 1 worker boot, .revoked worker boot]

end Sample

/-- The worker of the sample registers and is revoked. -/
theorem incarnation_authority_sample : ∃ c : Coordinator ℚ,
    Registry (keepsEntries Sample.config.statePath) Sample.config.statePath Sample.enrolled
      (.running c, 1) ∧ c.LiveAuthority ∧ Sample.enrolled.Pairwise RegistrationEvent.Permits := by
  have started : Registry (keepsEntries Sample.config.statePath) Sample.config.statePath []
      (.running Sample.coordinator, 1) :=
    Registry.start .empty rfl rfl Sample.coordinator_started
  have registered := started.request Sample.registration rfl (by decide +kernel)
  have revoked := registered.request Sample.revocation rfl (by decide +kernel)
  rw [show _ ++ _ = Sample.enrolled by decide +kernel] at revoked
  obtain ⟨running, permitted⟩ := incarnation_authority revoked
  exact ⟨_, revoked, (running _ rfl).2, permitted⟩

/-- Without a state path, one incarnation is accepted in two lifetimes. -/
theorem incarnation_accepted_again : ∃ events state,
    Registry (R := ℚ) (fun _ => true) [] events state ∧
      ¬ events.Pairwise RegistrationEvent.Permits := by
  have first : Registry (fun _ => true) [] [] (.running Sample.forgetful, 1) :=
    Registry.start .empty rfl rfl Sample.forgetful_started
  have registered := first.request Sample.registration rfl (by decide +kernel)
  have left : (Sample.forgetful.perform Sample.registration none).1.image = none := by
    decide +kernel
  have ended : World.Step [] (.running (Sample.forgetful.perform Sample.registration none).1) .stop
      (.down none) := left ▸ .stop _
  have allowed : savesSucceed (.running (Sample.forgetful.perform Sample.registration none).1)
      .stop := trivial
  have stopped : Registry (fun _ => true) [] _ (.down none, 1) :=
    Ledger.snoc registered ⟨allowed, ended, rfl⟩
  rw [if_pos rfl] at stopped
  have second := stopped.start rfl rfl Sample.forgetful_started
  have again := second.request Sample.registration rfl (by decide +kernel)
  refine ⟨_, _, again, fun permitted => ?_⟩
  rw [show _ ++ _ = [.accepted 1 Sample.worker Sample.boot, .accepted 2 Sample.worker Sample.boot] by
    decide +kernel] at permitted
  have same := (List.rel_of_pairwise_cons permitted List.mem_cons_self _ _ _ rfl).2 _ rfl
  exact absurd same (by decide)

end ExperimentFabric
