import ExperimentFabric.Remaining

/-!
# Runs of a worker come to an end

Every cycle that gets work uses up attempts, and a worker registers again only when it has no seat.
So the loop of a worker ends by itself, whatever other callers do meanwhile, as long as they make no
trials; and when it reports success there was nothing left that the worker could be granted.
-/

namespace ExperimentFabric

open Lib Protocol

variable {R : Type} {σ : Type}

/-! ## What the calls of a worker keep -/

/-- Every operation of the control plane keeps what holds. -/
structure ControlPlane.Keeps (plane : ControlPlane (StateM σ) R) (holds : σ → Prop) : Prop where
  registerWorker : ∀ request, Ensures holds (plane.registerWorker request) fun _ => holds
  claimTrials : ∀ request, Ensures holds (plane.claimTrials request) fun _ => holds
  publishObservation : ∀ request, Ensures holds (plane.publishObservation request) fun _ => holds
  commitTrial : ∀ request, Ensures holds (plane.commitTrial request) fun _ => holds
  failTrial : ∀ request, Ensures holds (plane.failTrial request) fun _ => holds

theorem ControlPlane.Keeps.scheduled {planes : Nat → ControlPlane (StateM σ) R}
    {holds : σ → Prop} (each : ∀ n, (planes n).Keeps holds) :
    (ControlPlane.scheduled planes).Keeps fun state => holds state.1 where
  registerWorker request := .scheduled fun n => (each n).registerWorker request
  claimTrials request := .scheduled fun n => (each n).claimTrials request
  publishObservation request := .scheduled fun n => (each n).publishObservation request
  commitTrial request := .scheduled fun n => (each n).commitTrial request
  failTrial request := .scheduled fun n => (each n).failTrial request

namespace Worker

variable {plane : ControlPlane (StateM σ) R} {holds : σ → Prop} (keeps : plane.Keeps holds)

include keeps

theorem publishAll_keeps (assignment : TrialAssignment)
    (observations : List (NamedObservation R)) (worker : Worker) :
    Ensures holds (publishAll plane assignment worker observations) fun _ => holds := by
  induction observations generalizing worker with
  | nil => exact .pure fun _ => id
  | cons named rest ih =>
      rw [publishAll]
      cases reservation assignment named.metric with
      | none => exact .pure fun _ => id
      | some reserved =>
          refine (keeps.publishObservation _).bind fun status => ?_
          exact .ite (fun _ => .pure fun _ => id) fun _ => ih _

theorem runAssignment_keeps (task : TaskFunction R) (worker : Worker)
    (assignment : TrialAssignment) :
    Ensures holds (runAssignment plane task worker assignment) fun _ => holds := by
  refine .ite (fun _ => ?_) fun _ => ?_
  · refine (keeps.failTrial _).bind fun status => ?_
    exact .ite (fun _ => .pure fun _ => id) fun _ => .pure fun _ => id
  · refine (publishAll_keeps keeps assignment _ worker).bind fun reached => ?_
    refine .ite (fun _ => ?_) fun _ => ?_
    · exact (keeps.failTrial _).bind fun _ => .pure fun _ => id
    · refine (keeps.commitTrial _).bind fun status => ?_
      exact .ite (fun _ => .pure fun _ => id) fun _ => .pure fun _ => id

theorem runAssignments_keeps (task : TaskFunction R) (assignments : List TrialAssignment)
    (worker : Worker) :
    Ensures holds (runAssignments plane task worker assignments) fun _ => holds := by
  induction assignments generalizing worker with
  | nil => exact .pure fun _ => id
  | cons assignment rest ih =>
      exact (runAssignment_keeps keeps task worker assignment).bind ih

end Worker

/-! ## Cycles -/

section Cycles

variable [MetricReal R] [CanonicalDigests R]

/-- The coordinator as a control plane, the other callers of each turn going first. -/
abbrev Coordinator.inPlace (turns : Nat → Turn R) :
    ControlPlane (StateM (Coordinator R × Nat)) R :=
  .scheduled fun n => Coordinator.controlPlane (turns n)

namespace Coordinator

/-- What lasts while no trials are made is kept by the calls of a worker. -/
theorem controlPlane_keeps {turn : Turn R} (none_ : turn.CreatesNone) {holds : Coordinator R → Prop}
    (lasts : ∀ c c', Onward c c' → holds c → holds c') :
    (controlPlane turn).Keeps holds := by
  have performed : ∀ (c c' : Coordinator R) (request : Request R), request.creates = false →
      c' = ((c.session turn.others).perform request turn.fault).1 → holds c → holds c' := by
    rintro c _ request creates rfl
    exact lasts _ _ ((session_onward none_ c).trans (perform_onward _ request creates _))
  constructor
  · exact fun request c => performed c _ (.registerWorker request) rfl rfl
  · exact fun request c => performed c _ (.claimTrials request) rfl rfl
  · exact fun request c => performed c _ (.publishObservation request) rfl rfl
  · exact fun request c => performed c _ (.commitTrial request) rfl rfl
  · exact fun request c => performed c _ (.failTrial request) rfl rfl

variable {turns : Nat → Turn R} (none_ : ∀ n, (turns n).CreatesNone)

include none_

/-- What a registration comes to: an accepted one gives a seat, and expelled workers get none. -/
theorem registerWorker_ensures (worker : Worker) (c : Coordinator R) :
    Ensures (fun state => state.1 = c)
      ((inPlace turns).registerWorker worker.registration) fun result state =>
        Onward c state.1 ∧ ∃ reply, result = .ok reply ∧ (reply.status.code = .ok →
          reply.epoch = state.1.epoch ∧ reply.boot = worker.boot ∧
          (state.1.findLiveWorker worker.config.worker worker.boot).isSome = true ∧
          ¬ c.Expels worker) := by
  have registered : ∀ (now : Coordinator R) (fault : Option SaveFault), Onward c now →
      Onward c (now.registerWorker worker.registration fault).1 ∧
      ∃ reply, (Except.ok (.ofLocal (now.registerWorker worker.registration fault).2) :
        Result Protocol.RegisterWorkerReply) = .ok reply ∧ (reply.status.code = .ok →
          reply.epoch = (now.registerWorker worker.registration fault).1.epoch ∧
          reply.boot = worker.boot ∧
          ((now.registerWorker worker.registration fault).1.findLiveWorker worker.config.worker
            worker.boot).isSome = true ∧ ¬ c.Expels worker) := by
    intro now fault others
    refine ⟨others.trans (now.perform_onward (.registerWorker worker.registration) rfl fault),
      _, rfl, fun accepted => ?_⟩
    have succeeded := ok_of_code (now.registerWorker_fails worker.registration fault) accepted
    obtain ⟨epoch, boot⟩ := registerWorker_credentials succeeded
    obtain ⟨known, kept⟩ := registerWorker_ok succeeded
    exact ⟨epoch, boot, known, fun expelled => kept (others.expels expelled)⟩
  rintro ⟨_, n⟩ rfl
  exact registered _ _ (session_onward (none_ n) _)

omit none_ in
/-- What a claim comes to. -/
inductive Grants (c c' : Coordinator R) (worker : Worker) (reply : Protocol.ClaimTrialReply) :
    Prop where
  | refused (failed : reply.status.code ≠ .ok) (unfinished : reply.status.code ≠ .notFound)
      (fenced : reply.status.Fenced → ¬ c.Seats worker ∨ c'.Expels worker)
  | idle (accepted : reply.status.code = .ok) (nothing : reply.assignments = [])
      (left : ∀ path, (World.running c).Reachable path → c'.HasNothingFor worker)
  | granted (accepted : reply.status.code = .ok) (assigned : reply.assignments ≠ [])
      (used : c'.state.spare < c.state.spare)

omit none_ in
theorem claimTrials_grants {worker : Worker} {c now : Coordinator R} (others : Onward c now)
    (fault : Option SaveFault) :
    Grants c (now.claimTrials worker.claim fault).1 worker
      (.ofLocal (now.claimTrials worker.claim fault).2) := by
  rcases now.claimTrials_cases worker.claim fault with ⟨failure, guarded, ended⟩ |
    ⟨live, guarded, ⟨nothing, ended⟩ | ⟨assigned, state, assignments, fails⟩⟩
  · rw [ended]
    obtain ⟨failed, unfinished⟩ := now.claimTrialsGuard_fails worker.claim failure guarded
    refine .refused failed unfinished fun fenced => ?_
    by_contra stays
    obtain ⟨seated, kept⟩ := not_or.mp stays
    exact claimTrialsGuard_seated (others.seats (not_not.mp seated)) kept failure guarded fenced
  · rw [ended, claimLoop_idle nothing]
    refine .idle rfl rfl fun path reachable => ?_
    obtain ⟨-, consistent, arranged, -⟩ := (others.reachable path reachable).sound
    exact (hasNothingFor_of_idle arranged consistent guarded nothing).counted _ _
  · cases status : (now.claimTrials worker.claim fault).2.status with
    | ok done =>
        have used := now.claimLoop_spare worker.claim live
        have issued := List.length_pos_iff.mpr assigned
        have spare := others.spare
        refine .granted (by rw [ClaimTrialReply.ofLocal, status]; rfl) ?_ ?_
        · rw [ClaimTrialReply.ofLocal, assignments]
          exact assigned
        · rw [state]
          omega
    | error failure =>
        obtain ⟨failed, unfinished, unfenced⟩ := unsaved_code (fails failure status)
        have told : (ClaimTrialReply.ofLocal (now.claimTrials worker.claim fault).2).status =
            failure := by
          rw [ClaimTrialReply.ofLocal, status]
          rfl
        rw [← told] at failed unfinished unfenced
        exact .refused failed unfinished fun fenced => (unfenced fenced).elim

theorem claimTrials_ensures (worker : Worker) (c : Coordinator R) :
    Ensures (fun state => state.1 = c) ((inPlace turns).claimTrials worker.claim)
      fun result state => Onward c state.1 ∧
        ∃ reply, result = .ok reply ∧ Grants c state.1 worker reply := by
  have claimed : ∀ (now : Coordinator R) (fault : Option SaveFault), Onward c now →
      Onward c (now.claimTrials worker.claim fault).1 ∧
      ∃ reply, (Except.ok (.ofLocal (now.claimTrials worker.claim fault).2) :
        Result Protocol.ClaimTrialReply) = .ok reply ∧
          Grants c (now.claimTrials worker.claim fault).1 worker reply := by
    intro now fault others
    exact ⟨others.trans (now.perform_onward (.claimTrials worker.claim) rfl fault), _, rfl,
      claimTrials_grants others fault⟩
  rintro ⟨_, n⟩ rfl
  exact claimed _ _ (session_onward (none_ n) _)

end Coordinator

namespace Worker

variable {turns : Nat → Turn R} (none_ : ∀ n, (turns n).CreatesNone)

include none_

theorem connectAndRegister_ensures (worker : Worker) (c : Coordinator R) :
    Ensures (fun state => state.1 = c)
      (worker.connectAndRegister (Coordinator.inPlace turns)) fun reached state =>
        c.Onward state.1 ∧
          (reached.2.code = .ok → state.1.Seats reached.1 ∧ ¬ c.Expels worker) := by
  refine (Coordinator.registerWorker_ensures none_ worker c).bind ?_
  intro result
  cases result with
  | error failure =>
    intro state held
    obtain ⟨-, _, impossible, -⟩ := held
    cases impossible
  | ok reply =>
  · refine .ite (fun refused => .pure ?_) fun accepted => .pure ?_
    · rintro state ⟨onward, -⟩
      exact ⟨onward, fun accepted => (refused accepted).elim⟩
    · rintro state ⟨onward, _, ⟨rfl⟩, seated⟩
      obtain ⟨epoch, boot, known, kept⟩ := seated (not_not.mp accepted)
      refine ⟨onward, fun _ => ⟨⟨epoch, ?_⟩, kept⟩⟩
      dsimp only
      rw [boot]
      exact known

/-- What a cycle of a registered worker comes to. -/
theorem runOnce_ensures (task : TaskFunction R) (worker : Worker) (c : Coordinator R) :
    Ensures (fun state => state.1 = c) (runOnce (Coordinator.inPlace turns) task worker)
      fun reached state => c.Onward state.1 ∧
        (reached.2.code = .ok → state.1.state.spare < c.state.spare) ∧
        (reached.2.code = .notFound → ∀ path, (World.running c).Reachable path →
          state.1.HasNothingFor reached.1) ∧
        (reached.2.Fenced → ¬ c.Seats worker ∨ state.1.Expels reached.1) := by
  refine (Coordinator.claimTrials_ensures none_ worker c).bind ?_
  intro result
  cases result with
  | error failure =>
      intro state held
      obtain ⟨-, _, impossible, -⟩ := held
      cases impossible
  | ok reply =>
      refine .ite (fun refused => .pure ?_) fun accepted => .ite (fun nothing => .pure ?_)
        fun assigned => ?_
      · rintro state ⟨onward, _, ⟨rfl⟩, grants⟩
        cases grants with
        | refused failed unfinished fenced =>
            exact ⟨onward, fun ok => (refused ok).elim, fun none_ => (unfinished none_).elim,
              fenced⟩
        | idle accepted => exact (refused accepted).elim
        | granted accepted => exact (refused accepted).elim
      · rintro state ⟨onward, _, ⟨rfl⟩, grants⟩
        cases grants with
        | refused failed => exact (accepted failed).elim
        | idle accepted nothing left =>
            refine ⟨onward, ?_, fun _ => left, ?_⟩
            · intro ok
              cases ok
            · rintro (fenced | fenced) <;> cases fenced
        | granted accepted issued => exact (issued (List.isEmpty_iff.mp nothing)).elim
      · have lasts : ∀ now later : Coordinator R, now.Onward later →
            c.Onward now ∧ now.state.spare < c.state.spare →
              c.Onward later ∧ later.state.spare < c.state.spare :=
          fun _ _ later earlier => ⟨earlier.1.trans later, later.spare.trans_lt earlier.2⟩
        have keeps := ControlPlane.Keeps.scheduled fun n =>
          Coordinator.controlPlane_keeps (none_ n) lasts
        refine ((runAssignments_keeps keeps task reply.assignments worker).bind fun next =>
          .pure ?_).strengthen ?_
        · rintro state ⟨onward, used⟩
          refine ⟨onward, fun _ => used, fun none_ => ?_, fun fenced => ?_⟩
          · cases none_
          · rcases fenced with stale | stale <;> cases stale
        · rintro state ⟨onward, _, ⟨rfl⟩, grants⟩
          cases grants with
          | refused failed => exact (accepted failed).elim
          | idle accepted nothing => exact (assigned (List.isEmpty_iff.mpr nothing)).elim
          | granted accepted issued used => exact ⟨onward, used⟩

/-- A cycle of a registered worker ends the run, or brings it nearer to its end. -/
theorem registeredCycle_ensures (task : TaskFunction R) (worker : Worker) (c : Coordinator R) :
    Ensures (fun state => state.1 = c) (registeredCycle (Coordinator.inPlace turns) task worker)
      fun reached state => c.Onward state.1 ∧
        (reached.2 = none → state.1.owed reached.1 < c.owed worker) ∧
        ∀ status, reached.2 = some status → status.code = .ok →
          ∀ path, (World.running c).Reachable path → state.1.HasNothingFor reached.1 := by
  refine (runOnce_ensures none_ task worker c).bind ?_
  rintro ⟨next, status⟩
  refine .ite (fun succeeded => .pure ?_) fun failed => .ite (fun nothing => .pure ?_)
    fun unfinished => .ite (fun fenced => ?_) fun unfenced => .pure ?_
  · rintro state ⟨onward, used, -⟩
    refine ⟨onward, fun _ => ?_, fun _ ended => ?_⟩
    · have spare := used succeeded
      have bound := state.1.owed_le next
      dsimp only
      unfold Coordinator.owed at bound ⊢
      omega
    · cases ended
  · rintro state ⟨onward, -, left, -⟩
    refine ⟨onward, fun ended => ?_, fun _ _ _ => left nothing⟩
    cases ended
  · refine .pointwise ?_
    rintro ⟨now, n⟩ ⟨onward, -, -, reason⟩
    refine ((connectAndRegister_ensures none_ next now).strengthen ?_).bind ?_
    · rintro _ rfl
      rfl
    rintro ⟨joined, verdict⟩
    refine .ite (fun refused => .pure ?_) fun accepted => .pure ?_
    · rintro state ⟨later, -⟩
      refine ⟨onward.trans later, fun ended => ?_, ?_⟩
      · cases ended
      · rintro _ ⟨rfl⟩ succeeded
        exact (refused succeeded).elim
    · rintro state ⟨later, seats⟩
      obtain ⟨seated, kept⟩ := seats (not_not.mp accepted)
      refine ⟨onward.trans later, fun _ => ?_, fun _ ended => ?_⟩
      · have spare := (onward.trans later).spare
        rcases reason fenced with unseated | expelled
        · rw [Coordinator.owed_of_seats seated, Coordinator.owed_of_not_seats unseated]
          omega
        · exact (kept expelled).elim
      · cases ended
  · rintro state ⟨onward, -⟩
    refine ⟨onward, fun ended => ?_, ?_⟩
    · cases ended
    · rintro _ ⟨rfl⟩ succeeded
      exact (failed succeeded).elim

/-- A cycle ends the run, or brings it nearer to its end. -/
theorem runCycle_ensures (task : TaskFunction R) (worker : Worker) (c : Coordinator R) :
    Ensures (fun state => state.1 = c) (runCycle (Coordinator.inPlace turns) task worker)
      fun reached state => c.Onward state.1 ∧
        (reached.2 = none → state.1.owed reached.1 < c.owed worker) ∧
        ∀ status, reached.2 = some status → status.code = .ok →
          ∀ path, (World.running c).Reachable path → state.1.HasNothingFor reached.1 := by
  have registers : Ensures (fun state => state.1 = c)
      (worker.ensureRegistered (Coordinator.inPlace turns)) fun reached state =>
        c.Onward state.1 ∧ (reached.2.code = .ok → state.1.owed reached.1 ≤ c.owed worker) := by
    refine .ite (fun _ => ?_) fun _ => .pure ?_
    · refine (connectAndRegister_ensures none_ worker c).mono fun reached state joined => ?_
      refine ⟨joined.1, fun accepted => ?_⟩
      have spare := joined.1.spare
      rw [Coordinator.owed_of_seats (joined.2 accepted).1, Coordinator.owed]
      omega
    · rintro state rfl
      exact ⟨.refl _, fun _ => le_rfl⟩
  refine registers.bind ?_
  rintro ⟨joined, verdict⟩
  refine .ite (fun refused => .pure ?_) fun accepted => .pointwise ?_
  · rintro state ⟨onward, -⟩
    refine ⟨onward, fun ended => ?_, ?_⟩
    · cases ended
    · rintro _ ⟨rfl⟩ succeeded
      exact (refused succeeded).elim
  · rintro ⟨now, n⟩ ⟨onward, owed⟩
    have here : ∀ start : Coordinator R × Nat, start = (now, n) → start.1 = now := by
      rintro _ rfl
      rfl
    have cycle := (registeredCycle_ensures none_ task joined now).strengthen here
    refine cycle.mono ?_
    rintro reached state ⟨later, nearer, left⟩
    refine ⟨onward.trans later, fun ended => ?_, fun status ended succeeded path reachable => ?_⟩
    · exact (nearer ended).trans_le (owed (not_not.mp accepted))
    · exact left status ended succeeded path (onward.reachable path reachable)

/-- The loop of a worker ends by itself, at most one cycle after there is nothing owed any more. -/
theorem runUntilIdle_settles (task : TaskFunction R) (worker : Worker) (c : Coordinator R)
    (n : Nat) : ∃ result, (∀ cycles, c.owed worker < cycles →
        (runUntilIdle (Coordinator.inPlace turns) task cycles worker).run (c, n) = result) ∧
      (result.1.2.code = .ok → ∀ path, (World.running c).Reachable path →
        result.2.1.HasNothingFor result.1.1) := by
  induction owed : c.owed worker using Nat.strong_induction_on generalizing worker c n with
  | _ bound ih =>
      obtain ⟨onward, nearer, left⟩ := runCycle_ensures none_ task worker c (c, n) rfl
      obtain ⟨⟨⟨next, ended⟩, after, m⟩, cycled⟩ : ∃ reached,
          reached = (runCycle (Coordinator.inPlace turns) task worker).run (c, n) := ⟨_, rfl⟩
      rw [← cycled] at onward nearer left
      cases ended with
      | some status =>
          refine ⟨((next, status), after, m), fun cycles more => ?_, left status rfl⟩
          obtain ⟨rest, rfl⟩ := Nat.exists_eq_succ_of_ne_zero (Nat.ne_zero_of_lt more)
          rw [runUntilIdle, StateT.run_bind, ← cycled]
          rfl
      | none =>
          obtain ⟨result, runs, ends⟩ := ih _ (owed ▸ nearer rfl) next after m rfl
          refine ⟨result, fun cycles more => ?_, fun succeeded path reachable =>
            ends succeeded path (onward.reachable path reachable)⟩
          obtain ⟨rest, rfl⟩ := Nat.exists_eq_succ_of_ne_zero (Nat.ne_zero_of_lt more)
          rw [runUntilIdle, StateT.run_bind, ← cycled]
          have shorter : after.owed next < bound := owed ▸ nearer rfl
          exact runs rest (by omega)

/-- Whatever other callers do, as long as they make no trials, the loop of a worker ends by itself
within two cycles for each attempt that is left and two more; and if it reports success, there is
nothing left that the coordinator could grant the worker. -/
theorem run_ends {path : Text} {c : Coordinator R} (reachable : (World.running c).Reachable path)
    (task : TaskFunction R) (worker : Worker) :
    ∃ result, (∀ cycles, 2 * c.state.spare + 2 ≤ cycles →
        (runUntilIdle (Coordinator.inPlace turns) task cycles worker).run (c, 0) = result) ∧
      (result.1.2.code = .ok → result.2.1.HasNothingFor result.1.1) := by
  obtain ⟨result, runs, left⟩ := runUntilIdle_settles none_ task worker c 0
  have bound := c.owed_le worker
  exact ⟨result, fun cycles enough => runs cycles (by omega), fun succeeded =>
    left succeeded path reachable⟩

end Worker

/-! ## Expelled workers -/

namespace Coordinator

variable {c : Coordinator R} {worker : Worker}

/-- The coordinator after the other callers of the first turns. -/
def afterOthers (turns : Nat → Turn R) (c : Coordinator R) : Nat → Coordinator R
  | 0 => c
  | n + 1 => (afterOthers turns c n).session (turns n).others

/-- A worker stays expelled, whatever is asked for. -/
theorem Expels.session (expelled : c.Expels worker)
    (requests : List (Request R × Option SaveFault)) : (c.session requests).Expels worker := by
  induction requests generalizing c with
  | nil => exact expelled
  | cons request rest ih =>
      obtain ⟨live, found, revoked⟩ := expelled
      obtain ⟨live', held, kept⟩ := c.perform_live request.1 request.2 found
      exact ih ⟨live', held, kept.revoked revoked⟩

omit [MetricReal R] [CanonicalDigests R] in
/-- An expelled worker is not registered, and the attempt changes nothing. -/
theorem Expels.registerWorker (expelled : c.Expels worker) (fault : Option SaveFault) :
    ∃ failure, failure.code ≠ .ok ∧
      c.registerWorker worker.registration fault = (c, { status := .error failure }) := by
  have fails := c.registerWorker_fails worker.registration fault
  obtain ⟨live, found, revoked⟩ := expelled
  obtain ⟨failure, refused⟩ : ∃ failure,
      c.registerWorker worker.registration fault = (c, { status := .error failure }) := by
    unfold Coordinator.registerWorker
    cases c.registerWorkerGuard worker.registration with
    | error failure => exact ⟨failure, rfl⟩
    | ok done =>
        have known : c.findLiveWorker worker.registration.worker worker.registration.boot =
          some live := found
        rw [known]
        dsimp only
        rw [if_pos revoked]
        exact ⟨_, rfl⟩
  rw [refused] at fails
  exact ⟨failure, fails failure rfl, refused⟩

omit [MetricReal R] [CanonicalDigests R] in
/-- An expelled worker is granted nothing, and the attempt changes nothing. -/
theorem Expels.claimTrials (expelled : c.Expels worker) (fault : Option SaveFault) :
    ∃ failure, failure.code ≠ .ok ∧ failure.code ≠ .notFound ∧
      c.claimTrials worker.claim fault = (c, { status := .error failure }) := by
  rcases c.claimTrials_cases worker.claim fault with ⟨failure, guarded, ended⟩ | ⟨live, guarded, -⟩
  · obtain ⟨failed, unfinished⟩ := c.claimTrialsGuard_fails worker.claim failure guarded
    exact ⟨failure, failed, unfinished, ended⟩
  · obtain ⟨held, found, revoked⟩ := expelled
    have allowed := claimTrialsGuard_ok guarded
    obtain rfl := Option.some.inj (allowed.found.symm.trans found)
    rw [allowed.unrevoked] at revoked
    cases revoked

end Coordinator

namespace Worker

variable {c : Coordinator R} {worker : Worker}

theorem connectAndRegister_expelled (expelled : c.Expels worker) (turns : Nat → Turn R) (n : Nat) :
    ∃ failure, failure.code ≠ .ok ∧
      (worker.connectAndRegister (Coordinator.inPlace turns)).run (c, n) =
        (({ worker with lastError := failure.toText }, failure),
          c.session (turns n).others, n + 1) := by
  obtain ⟨failure, refused, ended⟩ :=
    (expelled.session (turns n).others).registerWorker (turns n).fault
  refine ⟨failure, refused, ?_⟩
  have asked : ((Coordinator.inPlace turns).registerWorker worker.registration).run (c, n) =
      (.ok (.ofLocal { status := .error failure }), c.session (turns n).others, n + 1) := by
    change (Except.ok (RegisterWorkerReply.ofLocal ((c.session (turns n).others).registerWorker
      worker.registration (turns n).fault).2), ((c.session (turns n).others).registerWorker
        worker.registration (turns n).fault).1, n + 1) = _
    rw [ended]
  rw [connectAndRegister, StateT.run_bind, asked]
  change (if failure.code ≠ .ok then _ else _ : StateM (Coordinator R × Nat) _).run _ = _
  rw [if_pos refused]
  rfl

theorem runOnce_expelled (expelled : c.Expels worker) (turns : Nat → Turn R)
    (task : TaskFunction R) (n : Nat) :
    ∃ failure, failure.code ≠ .ok ∧ failure.code ≠ .notFound ∧
      (runOnce (Coordinator.inPlace turns) task worker).run (c, n) =
        (({ worker with lastError := failure.toText }, failure),
          c.session (turns n).others, n + 1) := by
  obtain ⟨failure, refused, unfinished, ended⟩ :=
    (expelled.session (turns n).others).claimTrials (turns n).fault
  refine ⟨failure, refused, unfinished, ?_⟩
  have asked : ((Coordinator.inPlace turns).claimTrials worker.claim).run (c, n) =
      (.ok (.ofLocal { status := .error failure }), c.session (turns n).others, n + 1) := by
    change (Except.ok (ClaimTrialReply.ofLocal ((c.session (turns n).others).claimTrials
      worker.claim (turns n).fault).2), ((c.session (turns n).others).claimTrials
        worker.claim (turns n).fault).1, n + 1) = _
    rw [ended]
  rw [runOnce, StateT.run_bind, asked]
  change (if failure.code ≠ .ok then _ else _ : StateM (Coordinator R × Nat) _).run _ = _
  rw [if_pos refused]
  rfl

theorem registeredCycle_expelled (expelled : c.Expels worker) (turns : Nat → Turn R)
    (task : TaskFunction R) :
    ∃ taken status, taken ≤ 2 ∧ status.code ≠ .ok ∧
      (registeredCycle (Coordinator.inPlace turns) task worker).run (c, 0) =
        (({ worker with lastError := status.toText }, some status),
          c.afterOthers turns taken, taken) := by
  obtain ⟨failure, refused, unfinished, ran⟩ := runOnce_expelled expelled turns task 0
  unfold registeredCycle
  rw [StateT.run_bind, ran]
  by_cases fenced : failure.code = .staleEpoch ∨ failure.code = .staleWorker
  · let left : Worker := { worker with lastError := failure.toText }
    have still : (c.session (turns 0).others).Expels left := expelled.session _
    obtain ⟨verdict, denied, joined⟩ := connectAndRegister_expelled still turns 1
    refine ⟨2, verdict, le_rfl, denied, ?_⟩
    change (if failure.code = .ok then _ else if failure.code = .notFound then _ else
      if failure.code = .staleEpoch ∨ failure.code = .staleWorker then
        (connectAndRegister left (Coordinator.inPlace turns) >>= _) else _ :
        StateM (Coordinator R × Nat) _).run _ = _
    rw [if_neg refused, if_neg unfinished, if_pos fenced, StateT.run_bind, joined]
    change (if verdict.code ≠ .ok then _ else _ : StateM (Coordinator R × Nat) _).run _ = _
    rw [if_pos denied]
    rfl
  · refine ⟨1, failure, by decide, refused, ?_⟩
    change (if failure.code = .ok then _ else if failure.code = .notFound then _ else
      if failure.code = .staleEpoch ∨ failure.code = .staleWorker then _ else _ :
        StateM (Coordinator R × Nat) _).run _ = _
    rw [if_neg refused, if_neg unfinished, if_neg fenced]
    rfl

/-- The one cycle of an expelled worker. -/
theorem runCycle_expelled (expelled : c.Expels worker) (turns : Nat → Turn R)
    (task : TaskFunction R) :
    ∃ taken status, taken ≤ 2 ∧ status.code ≠ .ok ∧
      (runCycle (Coordinator.inPlace turns) task worker).run (c, 0) =
        (({ worker with lastError := status.toText }, some status),
          c.afterOthers turns taken, taken) := by
  unfold runCycle ensureRegistered
  cases registered : worker.epoch.valid with
  | false =>
      obtain ⟨failure, refused, ran⟩ := connectAndRegister_expelled expelled turns 0
      refine ⟨1, failure, by decide, refused, ?_⟩
      rw [Bool.not_false, if_pos rfl, StateT.run_bind, ran]
      change (if failure.code ≠ .ok then _ else _ : StateM (Coordinator R × Nat) _).run _ = _
      rw [if_pos refused]
      rfl
  | true =>
      rw [Bool.not_true, if_neg Bool.false_ne_true]
      exact registeredCycle_expelled expelled turns task

/-- A worker whose incarnation was revoked stops in its first cycle with an error, whatever other
callers do: it has run no task, and nothing that it asked for changed the coordinator. -/
theorem expelled_run (expelled : c.Expels worker) (turns : Nat → Turn R) (task : TaskFunction R) :
    ∃ taken status, taken ≤ 2 ∧ status.code ≠ .ok ∧
      ∀ cycles, (runUntilIdle (Coordinator.inPlace turns) task (cycles + 1) worker).run (c, 0) =
        (({ worker with lastError := status.toText }, status),
          c.afterOthers turns taken, taken) := by
  obtain ⟨taken, status, few, failed, ran⟩ := runCycle_expelled expelled turns task
  refine ⟨taken, status, few, failed, fun cycles => ?_⟩
  rw [runUntilIdle, StateT.run_bind, ran]
  rfl

end Worker

end Cycles

section Sample

local instance drainingSort : StdSort := stableSort

namespace Sample

theorem alone_createsNone (n : Nat) : ((fun _ => alone) n : Turn UInt64).CreatesNone :=
  fun _ member => (List.not_mem_nil member).elim

theorem tasked_reachable : (World.running (tasked {} [])).Reachable config.statePath := by
  have started : Coordinator.create config none (fun _ => none) =
      ((none : Option (CoordinatorState UInt64)), .ok (Coordinator.boot config none {})) := rfl
  exact ((World.Reachable.empty _).start rfl started).session _

/-- The coordinator after it revoked the worker. -/
def purged : Coordinator UInt64 :=
  ((tasked {} []).perform (.revokeWorker worker boot .producerLoss []) none).1

theorem purged_expels : purged.Expels newcomer := by
  have live : ∃ live ∈ purged.findLiveWorker worker boot, live.revoked = true := by decide +kernel
  obtain ⟨live, found, revoked⟩ := live
  exact ⟨live, found, revoked⟩

end Sample

/-- The worker of the sample commits its trial and stops long before its last cycle. -/
theorem run_ends_sample :
    ((Worker.runUntilIdle (Coordinator.inPlace fun _ => Sample.alone) Sample.measuring 1000
      Sample.newcomer).run (Sample.tasked {} [], 0)).1.1.published = 1 := by
  obtain ⟨result, runs, -⟩ := Worker.run_ends Sample.alone_createsNone Sample.tasked_reachable
    Sample.measuring Sample.newcomer
  have spare : (Sample.tasked {} []).state.spare = 2 := by decide +kernel
  rw [spare] at runs
  rw [runs 1000 (by decide), ← runs 6 le_rfl]
  decide +kernel

/-- The revoked worker of the sample has published nothing. -/
theorem expelled_run_sample :
    ((Worker.runUntilIdle (Coordinator.inPlace fun _ => Sample.alone) Sample.measuring 6
      Sample.newcomer).run (Sample.purged, 0)).1.1.published = 0 := by
  obtain ⟨taken, status, -, -, ran⟩ :=
    Worker.expelled_run Sample.purged_expels (fun _ => Sample.alone) Sample.measuring
  rw [ran 5]
  rfl

end Sample

end ExperimentFabric
