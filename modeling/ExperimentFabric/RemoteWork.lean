import ExperimentFabric.Imitation

/-!
# Workers over a connection

A worker cannot tell a connection from the coordinator itself.  Over a connection it does exactly
what it does with its calls performed in place, and the coordinator ends in the same state, as long
as every request and every reply of the run fits into a frame.
-/

namespace ExperimentFabric

open Lib Protocol

variable {R : Type} {σ : Type}

/-! ## The coordinator in place, and behind a connection -/

/-- A control plane that differs from call to call. -/
def ControlPlane.scheduled (planes : Nat → ControlPlane (StateM σ) R) :
    ControlPlane (StateM (σ × Nat)) R where
  registerWorker request := Lib.scheduled fun turn => (planes turn).registerWorker request
  claimTrials request := Lib.scheduled fun turn => (planes turn).claimTrials request
  publishObservation request := Lib.scheduled fun turn => (planes turn).publishObservation request
  commitTrial request := Lib.scheduled fun turn => (planes turn).commitTrial request
  failTrial request := Lib.scheduled fun turn => (planes turn).failTrial request

/-- A claim reply that is larger than a frame may be carries assignments. -/
theorem assignments_ne_nil {limits : Limits} (carries : limits.CarriesStatuses)
    {reply : ExperimentFabric.ClaimTrialReply}
    (large : limits.maxFramePayloadBytes < (encodeClaimReply (.ofLocal reply)).length) :
    reply.assignments ≠ [] := by
  intro nothing
  have status := encodeStatus_length (.ofResult reply.status)
  have error := carries.error
  simp [encodeClaimReply, ClaimTrialReply.ofLocal, nothing, writeStatusBlock, writeVector,
    writeU32] at large
  omega

/-- A worker takes a claim that fails with NOT_FOUND for the end of its work. -/
theorem Worker.runUntilIdle_notFound {plane : ControlPlane (StateM σ) R} (task : TaskFunction R)
    (cycles : Nat) {worker : Worker} {world after : σ} {failure : Status}
    (registered : worker.epoch.valid = true)
    (claimed : (plane.claimTrials worker.claim).run world = (.error failure, after))
    (nothing : failure.code = .notFound) :
    (runUntilIdle plane task (cycles + 1) worker).run world =
      (({ worker with lastError := failure.toText }, .ofResult (.ok ())), after) := by
  have once : (runOnce plane task worker).run world =
      (({ worker with lastError := failure.toText }, failure), after) := by
    rw [runOnce, StateT.run_bind, claimed]
    rfl
  have cycle : (runCycle plane task worker).run world =
      (({ worker with lastError := failure.toText }, some (.ofResult (.ok ()))), after) := by
    rw [runCycle, ensureRegistered, registered]
    change (registeredCycle plane task worker).run world = _
    rw [registeredCycle, StateT.run_bind, once]
    change (if failure.code = .ok then _ else _ : StateM σ (Worker × Option Status)).run after = _
    rw [nothing]
    rfl
  rw [runUntilIdle, StateT.run_bind, cycle]
  rfl

section Places

variable [MetricReal R] [CanonicalDigests R] [BitPattern R] [ToChars R] [StdSort]

/-- The coordinator as a control plane, each operation after the other callers of its turn.  A
status is cut as a frame cuts it. -/
def Coordinator.controlPlane (turn : Turn R) : ControlPlane (StateM (Coordinator R)) R where
  registerWorker request := fun c =>
    let (c, reply) := (c.session turn.others).registerWorker request turn.fault
    (.ok (.ofLocal reply), c)
  claimTrials request := fun c =>
    let (c, reply) := (c.session turn.others).claimTrials request turn.fault
    (.ok (.ofLocal reply), c)
  publishObservation request := fun c =>
    let (c, result) := (c.session turn.others).publishObservation request turn.fault
    ((Status.ofResult result).carried, c)
  commitTrial request := fun c =>
    let (c, result) := (c.session turn.others).commitTrial request turn.fault
    ((Status.ofResult result).carried, c)
  failTrial request := fun c =>
    let (c, result) := (c.session turn.others).failTrial request turn.fault
    ((Status.ofResult result).carried, c)

/-- A remote answer within the bounds of its codec and of a frame. -/
def Answer.Travels (limits : Limits) : Answer R → Prop
  | .registration (.ok reply) => RegisterWorkerReply.Fits limits reply
  | .claim (.ok reply) => ClaimTrialReply.Fits limits reply ∧
      (encodeClaimReply reply).length ≤ limits.maxFramePayloadBytes
  | _ => True

/-- A call whose two frames are within their bounds. -/
def Deliverable (limits : Limits) (entry : Call R × Answer R) : Prop :=
  entry.1.Fits limits ∧ entry.2.Travels limits

/-- The coordinator in place, and the same coordinator behind an idle connection. -/
def Beside (limits : Limits) (here : Coordinator R × Nat) (there : (Link R × Client) × Nat) :
    Prop :=
  there.2 = here.2 ∧ there.1.1.coordinator = here.1 ∧ Linked there.1.2 there.1.1 ∧
    there.1.2.limits = limits

section Reads

variable {answered : Status}

omit [MetricReal R] [CanonicalDigests R] [ToChars R] [StdSort] [BitPattern R]

theorem Reads.of_registration {reply : ExperimentFabric.RegisterWorkerReply}
    {result : Result Protocol.RegisterWorkerReply}
    (read : Reads (.registration reply : Reply R) (.registration result)) :
    result = .ok (.ofLocal reply) := by
  cases read
  rfl

theorem Reads.of_claim {reply : ExperimentFabric.ClaimTrialReply}
    {result : Result Protocol.ClaimTrialReply}
    (read : Reads (.claim reply : Reply R) (.claim result)) : result = .ok (.ofLocal reply) := by
  cases read
  rfl

theorem Reads.of_status {result : Result Unit}
    (read : Reads (.status result : Reply R) (.status answered)) :
    answered = (Status.ofResult result).carried := by
  cases read
  rfl

end Reads

variable {limits : Limits}

/-- A call over the connection follows the operation it asks for. -/
theorem call_follows {α : Type} (carries : limits.CarriesStatuses) (turns : Nat → Turn R)
    (call : Call R) (answer : α → Answer R) (performed : Turn R → StateM (Coordinator R) α)
    (remote : Turn R → Client → Link R → Link R × Client × α)
    (here : ∀ turn c, ((performed turn).run c).2 =
      ((c.session turn.others).perform call.asked turn.fault).1)
    (reads : ∀ turn c value, Reads ((c.session turn.others).perform call.asked turn.fault).2
      (answer value) → value = ((performed turn).run c).1)
    (there : ∀ turn client link, client.call (Link.exchange turn) link call =
      ((remote turn client link).1, (remote turn client link).2.1,
        answer (remote turn client link).2.2))
    (travels : ∀ turn c, (answer ((performed turn).run c).1).Travels limits →
      ((c.session turn.others).perform call.asked turn.fault).2.Travels limits) :
    Follows (Deliverable limits) (Beside limits)
      (record (fun value => (call, answer value)) (Lib.scheduled fun n => performed (turns n)))
      (Lib.scheduled fun n => Client.through (remote (turns n))) := by
  refine .record ?_
  rintro ⟨c, n⟩ ⟨⟨link, client⟩, m⟩ ⟨rfl, rfl, linked, rfl⟩ ⟨fit, returns⟩
  obtain ⟨after, next, answered, called, performs, read, stays, bounds⟩ :=
    linked.agrees carries fit (travels (turns m) link.coordinator returns)
  rw [there (turns m) client link] at called
  obtain ⟨rfl, rfl, rfl⟩ := called
  refine ⟨reads _ _ _ read, rfl, ?_, stays, bounds⟩
  exact performs.trans (here _ _).symm

/-- Behind a connection a coordinator is the control plane that it is in place. -/
theorem connection_imitates (carries : limits.CarriesStatuses) (turns : Nat → Turn R) :
    (ControlPlane.scheduled fun n => Coordinator.controlPlane (turns n)).Imitates
      (Deliverable limits) (Beside limits)
      (ControlPlane.scheduled fun n => Client.controlPlane (Link.exchange (turns n))) where
  registerWorker request := call_follows carries turns (.registerWorker request) .registration
    (fun turn => (Coordinator.controlPlane turn).registerWorker request)
    (fun turn client link => client.registerWorker (Link.exchange turn) link request)
    (fun _ _ => rfl) (fun _ _ _ => Reads.of_registration) (fun _ _ _ => rfl) (fun _ _ => id)
  claimTrials request := call_follows carries turns (.claimTrials request) .claim
    (fun turn => (Coordinator.controlPlane turn).claimTrials request)
    (fun turn client link => client.claimTrials (Link.exchange turn) link request)
    (fun _ _ => rfl) (fun _ _ _ => Reads.of_claim) (fun _ _ _ => rfl) (fun _ _ => id)
  publishObservation request := call_follows carries turns (.publishObservation request) .status
    (fun turn => (Coordinator.controlPlane turn).publishObservation request)
    (fun turn client link => client.publishObservation (Link.exchange turn) link request)
    (fun _ _ => rfl) (fun _ _ _ => Reads.of_status) (fun _ _ _ => rfl) (fun _ _ => id)
  commitTrial request := call_follows carries turns (.commitTrial request) .status
    (fun turn => (Coordinator.controlPlane turn).commitTrial request)
    (fun turn client link => client.commitTrial (Link.exchange turn) link request)
    (fun _ _ => rfl) (fun _ _ _ => Reads.of_status) (fun _ _ _ => rfl) (fun _ _ => id)
  failTrial request := call_follows carries turns (.failTrial request) .status
    (fun turn => (Coordinator.controlPlane turn).failTrial request)
    (fun turn client link => client.failTrial (Link.exchange turn) link request)
    (fun _ _ => rfl) (fun _ _ _ => Reads.of_status) (fun _ _ _ => rfl) (fun _ _ => id)

/-- A run of a worker with the coordinator in place: what the run returns, the coordinator after it
and the calls of the run. -/
def Worker.runInPlace (turns : Nat → Turn R) (task : TaskFunction R) (cycles : Nat)
    (worker : Worker) (c : Coordinator R) :
    (Worker × Status) × Coordinator R × List (Call R × Answer R) :=
  let plane := ControlPlane.scheduled fun n => Coordinator.controlPlane (turns n)
  let (reached, (c, _), log) := (runUntilIdle plane.logged task cycles worker).run ((c, 0), [])
  (reached, c, log)

/-- A run of a worker over a connection: what the run returns and the two ends after it. -/
def Worker.runConnected (turns : Nat → Turn R) (task : TaskFunction R) (cycles : Nat)
    (worker : Worker) (link : Link R) (client : Client) : (Worker × Status) × Link R × Client :=
  let plane := ControlPlane.scheduled fun n => Client.controlPlane (Link.exchange (turns n))
  let (reached, state, _) := (runUntilIdle plane task cycles worker).run ((link, client), 0)
  (reached, state)

/-- A worker over a connection is a worker in place: it returns the same, and leaves the coordinator
in the same state and the connection idle, when every frame of the run is within its bounds. -/
theorem remote_work_agrees {client : Client} {link : Link R} (linked : Linked client link)
    (carries : client.limits.CarriesStatuses) (turns : Nat → Turn R) (task : TaskFunction R)
    (cycles : Nat) (worker : Worker)
    (deliverable : ∀ entry ∈ (worker.runInPlace turns task cycles link.coordinator).2.2,
      Deliverable client.limits entry) :
    (worker.runConnected turns task cycles link client).1 =
        (worker.runInPlace turns task cycles link.coordinator).1 ∧
      (worker.runConnected turns task cycles link client).2.1.coordinator =
        (worker.runInPlace turns task cycles link.coordinator).2.1 ∧
      Linked (worker.runConnected turns task cycles link client).2.2
        (worker.runConnected turns task cycles link client).2.1 := by
  have start : Beside client.limits (link.coordinator, 0) ((link, client), 0) :=
    ⟨rfl, rfl, linked, rfl⟩
  obtain ⟨returned, -, performed, stays, -⟩ := (Worker.runUntilIdle_follows
    (connection_imitates carries turns) task cycles worker).run start deliverable
  exact ⟨returned, performed, stays⟩

/-- A worker whose claim is granted more than a frame can carry reports success and has done nothing:
the coordinator has issued the assignments, the connection is closed, and no task has run. -/
theorem granted_and_idle {client : Client} {link : Link R} (linked : Linked client link)
    (carries : client.limits.CarriesStatuses) (turns : Nat → Turn R) (task : TaskFunction R)
    (cycles : Nat) {worker : Worker} (registered : worker.epoch.valid = true)
    (fit : (Call.claimTrials worker.claim : Call R).Fits client.limits)
    (large : client.limits.maxFramePayloadBytes < (encodeClaimReply (.ofLocal
      ((link.coordinator.session (turns 0).others).claimTrials worker.claim
        (turns 0).fault).2)).length) :
    ((link.coordinator.session (turns 0).others).claimTrials worker.claim
        (turns 0).fault).2.assignments ≠ [] ∧
      ∃ after next, worker.runConnected turns task (cycles + 1) link client =
          (({ worker with
              lastError :=
                (transportError .notFound (text "peer closed the connection")).toText },
            .ofResult (.ok ())), after, next) ∧
        after.coordinator = ((link.coordinator.session (turns 0).others).claimTrials worker.claim
          (turns 0).fault).1 ∧
        after.connection.connection.isOpen = false := by
  refine ⟨assignments_ne_nil carries large, ?_⟩
  obtain ⟨after, next, claimed, performed, closed⟩ :=
    oversized_claim linked (turns 0) carries.frame fit large
  refine ⟨after, next, ?_, performed, closed⟩
  let plane : ControlPlane (StateM ((Link R × Client) × Nat)) R :=
    ControlPlane.scheduled fun n => Client.controlPlane (Link.exchange (turns n))
  have asked : (plane.claimTrials worker.claim).run ((link, client), 0) =
      (.error (transportError .notFound (text "peer closed the connection")),
        ((after, next), 1)) := by
    change ((client.claimTrials (Link.exchange (turns 0)) link worker.claim).2.2,
      ((client.claimTrials (Link.exchange (turns 0)) link worker.claim).1,
        (client.claimTrials (Link.exchange (turns 0)) link worker.claim).2.1), 0 + 1) = _
    rw [claimed]
  have idle := Worker.runUntilIdle_notFound task cycles registered asked rfl
  unfold Worker.runConnected
  dsimp only
  rw [idle]

end Places

/-! ## Runs within the bounds -/

section Decidable

variable [BitPattern R] (limits : Limits)

instance : DecidablePred (ParameterAssignment.Fits limits) :=
  fun _ => inferInstanceAs (Decidable (_ ∧ _))

instance : DecidablePred AuthorityEnvelope.Fits := fun _ => inferInstanceAs (Decidable (_ ∧ _))

instance : DecidablePred (MetricValue.Fits (R := R) limits) :=
  fun _ => inferInstanceAs (Decidable (_ ∧ _))

instance : DecidablePred (Observation.Fits (R := R) limits) :=
  fun _ => inferInstanceAs (Decidable (_ ∧ _))

instance : DecidablePred (ArtifactRecord.Fits limits) :=
  fun _ => inferInstanceAs (Decidable (_ ∧ _))

instance : DecidablePred (Status.Fits limits) := fun _ => inferInstanceAs (Decidable (_ ∧ _))

instance : DecidablePred (AssignedMetric.Fits limits) :=
  fun _ => inferInstanceAs (Decidable (_ ∧ _))

instance : DecidablePred (TrialAssignment.Fits limits) :=
  fun _ => inferInstanceAs (Decidable (_ ∧ _ ∧ FitsVector 4096 _ _ ∧ _))

instance : DecidablePred (RegisterWorkerReply.Fits limits) :=
  fun _ => inferInstanceAs (Decidable (_ ∧ _))

instance : DecidablePred (ClaimTrialReply.Fits limits) :=
  fun _ => inferInstanceAs (Decidable (_ ∧ _))

instance : DecidablePred (Call.RequestFits (R := R) limits)
  | .registerWorker _ => inferInstanceAs (Decidable (_ ∧ _))
  | .claimTrials _ => inferInstanceAs (Decidable (_ ∧ _))
  | .publishObservation _ => inferInstanceAs (Decidable (_ ∧ _))
  | .publishArtifact _ => inferInstanceAs (Decidable (_ ∧ _))
  | .commitTrial _ => inferInstanceAs (Decidable (_ ∧ _))
  | .failTrial _ => inferInstanceAs (Decidable (_ ∧ _))
  | .heartbeat _ => inferInstanceAs (Decidable (_ ∧ _))
  | .cancelTrial _ => inferInstanceAs (Decidable (_ ∧ _))
  | .cancelExperiment _ => inferInstanceAs (Decidable (_ ∧ _))
  | .finalizeExperiment _ => inferInstanceAs (Decidable (_ ∧ _))
  | .rollback _ => inferInstanceAs (Decidable (_ ∧ _))

instance : DecidablePred (Call.Fits (R := R) limits) := fun call =>
  decidable_of_iff (call.RequestFits limits ∧ call.payload.length ≤ limits.maxFramePayloadBytes)
    ⟨fun fit => ⟨fit.1, fit.2⟩, fun fit => ⟨fit.request, fit.bounded⟩⟩

instance : DecidablePred (Answer.Travels (R := R) limits)
  | .registration (.ok reply) => inferInstanceAs (Decidable (RegisterWorkerReply.Fits limits reply))
  | .claim (.ok _) => inferInstanceAs (Decidable (_ ∧ _))
  | .registration (.error _) => .isTrue trivial
  | .claim (.error _) => .isTrue trivial
  | .decision _ => .isTrue trivial
  | .status _ => .isTrue trivial

instance : DecidablePred (Deliverable (R := R) limits) :=
  fun _ => inferInstanceAs (Decidable (_ ∧ _))

end Decidable

section Sample

local instance workSort : StdSort := stableSort

namespace Sample

/-- The experiment of the sample over the metric values of the runtime. -/
def wordSpec : ExperimentSpec UInt64 where
  name := text "sample"
  hypothesisStatement := text "the candidate is faster"
  branches := [{ name := text "baseline", role := .baseline }, { name := text "candidate" }]
  metrics := [{ name := text "latency" }]
  acceptScoreThreshold := 0

/-- A coordinator with one trial, whose control plane is open. -/
def tasked (limits : Limits) (payload : Text) : Coordinator UInt64 :=
  (Coordinator.boot { config with limits } none {}).session
    [(.startServer (.ok ()), none), (.createExperiment wordSpec, none),
      (.createTrial experiment candidate payload, none), (.registerWorker { worker, boot }, none)]

theorem tasked_limits (limits : Limits) (payload : Text) : (tasked limits payload).limits = limits :=
  congrArg Config.limits (session_config _ _)

/-- A coordinator behind a fresh connection. -/
def reached (c : Coordinator UInt64) : Link UInt64 where
  coordinator := c
  connection := { connection := ⟨true, []⟩, limits := c.limits }

/-- A client with a fresh connection. -/
def caller (limits : Limits) : Client := { connection := some ⟨true, []⟩, limits }

theorem linked_tasked (limits : Limits) (payload : Text) :
    Linked (caller limits) (reached (tasked limits payload)) where
  limits := (tasked_limits limits payload).symm
  accepted := rfl
  client := ⟨_, rfl, ⟨rfl, by simp [Reliable]⟩, rfl⟩
  server := ⟨rfl, by simp [Reliable, reached]⟩
  quiet := rfl

/-- A worker that has not registered. -/
def newcomer : Worker := { config := { worker }, boot }

/-- A task that reports one latency. -/
def measuring : TaskFunction UInt64 := fun _ _ =>
  { succeeded := true, observations := [{ metric := text "latency", value := { real := 1 } }] }

/-- Limits whose frames hold a status and little more. -/
def cramped : Limits := { maxFramePayloadBytes := 2062 }

theorem cramped_carriesStatuses : cramped.CarriesStatuses where
  toHasRoom := ⟨by decide, by decide, by decide⟩
  error := by decide
  strings := by decide

/-- The worker of the sample after its registration. -/
def seated : Worker := { newcomer with epoch := ⟨1⟩, producer := ⟨1⟩ }

end Sample

/-- The worker completes its trial over the connection. -/
theorem remote_work_agrees_sample :
    (Sample.newcomer.runConnected (fun _ => Sample.alone) Sample.measuring 3
      (Sample.reached (Sample.tasked {} [])) (Sample.caller {})).1.1.published = 1 := by
  have agrees := remote_work_agrees (Sample.linked_tasked {} []) Limits.defaults_carriesStatuses
    (fun _ => Sample.alone) Sample.measuring 3 Sample.newcomer (by decide +kernel)
  rw [agrees.1]
  decide +kernel

/-- Its payload keeps the assignment of a trial from the worker, which finds nothing to do. -/
theorem granted_and_idle_sample :
    (Sample.seated.runConnected (fun _ => Sample.alone) Sample.measuring 1
      (Sample.reached (Sample.tasked Sample.cramped (List.replicate 2048 0)))
      (Sample.caller Sample.cramped)).1.2 = .ofResult (.ok ()) := by
  obtain ⟨-, after, next, run, -⟩ := granted_and_idle
    (Sample.linked_tasked Sample.cramped (List.replicate 2048 0)) Sample.cramped_carriesStatuses
    (fun _ => Sample.alone) Sample.measuring 0 (show Sample.seated.epoch.valid = true from rfl)
    ⟨⟨by decide, by decide, by decide, by decide⟩, by decide⟩ (by decide +kernel)
  rw [run]

end Sample

end ExperimentFabric
