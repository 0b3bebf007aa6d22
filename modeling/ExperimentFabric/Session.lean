import Mathlib.Algebra.Order.Ring.Rat
import ExperimentFabric.System

/-!
# Sessions

A session is a list of requests performed one after another by one coordinator.  Sessions of a
reachable coordinator are reachable.  The sample sessions run over exact rational metrics, which
agree with the arithmetic of the platform on the small values they use.
-/

namespace ExperimentFabric

open Lib

section Session

variable {R : Type} [MetricReal R] [CanonicalDigests R]

/-- Perform requests in order, each with the outcome of its storage write. -/
def Coordinator.session (c : Coordinator R) (requests : List (Request R × Option SaveFault)) :
    Coordinator R :=
  requests.foldl (fun reached request => (reached.perform request.1 request.2).1) c

/-- A session is a run. -/
theorem Coordinator.session_run (path : Text) (c : Coordinator R)
    (requests : List (Request R × Option SaveFault)) :
    Run (World.Step path) (.running c)
      (requests.map fun request => .request request.1 request.2) (.running (c.session requests)) := by
  induction requests generalizing c with
  | nil => exact .nil _
  | cons request rest ih =>
      exact (Run.single (.request c request.1 request.2)).append
        (ih (c.perform request.1 request.2).1)

/-- A session is a run whose steps meet every condition that its requests meet anywhere. -/
theorem Coordinator.session_run_of {condition : World R → Event R → Prop} (path : Text)
    (c : Coordinator R) (requests : List (Request R × Option SaveFault))
    (meets : ∀ request ∈ requests, ∀ reached : Coordinator R,
      condition (.running reached) (.request request.1 request.2)) :
    Run (fun source event target => condition source event ∧
      World.Step path source event target) (.running c)
      (requests.map fun request => .request request.1 request.2) (.running (c.session requests)) := by
  induction requests generalizing c with
  | nil => exact .nil _
  | cons request rest ih =>
      have first := meets request List.mem_cons_self c
      exact (Run.single ⟨first, .request c request.1 request.2⟩).append
        (ih (c.perform request.1 request.2).1
          fun later member => meets later (List.mem_cons_of_mem request member))

theorem World.Reachable.step {path : Text} {world next : World R} {event : Event R}
    (reachable : world.Reachable path) (step : World.Step path world event next) :
    next.Reachable path := by
  obtain ⟨events, run⟩ := reachable
  exact ⟨_, run.snoc step⟩

theorem World.Reachable.session {path : Text} {c : Coordinator R}
    (reachable : (World.running c).Reachable path)
    (requests : List (Request R × Option SaveFault)) :
    (World.running (c.session requests)).Reachable path := by
  obtain ⟨events, run⟩ := reachable
  exact ⟨_, run.append (c.session_run path requests)⟩

theorem World.Reachable.start {path : Text} {image left : Option (CoordinatorState R)}
    {config : Config} {outcomes : WriteOutcomes} {c : Coordinator R}
    (reachable : (World.down image).Reachable path) (samePath : config.statePath = path)
    (started : Coordinator.create config image outcomes = (left, .ok c)) :
    (World.running c).Reachable path :=
  reachable.step (.start samePath started)

theorem World.Reachable.empty (path : Text) : (World.down none : World R).Reachable path :=
  ⟨[], .nil _⟩

end Session

/-! ## The sample deployment -/

/-- Exact rational metric values. -/
instance rationalMetrics : MetricReal ℚ where
  ofInt value := value
  add := (· + ·)
  sub := (· - ·)
  mul := (· * ·)
  div := (· / ·)
  neg := (- ·)
  fabs value := if value < 0 then -value else value
  lt left right := decide (left < right)
  le left right := decide (left ≤ right)
  eq left right := decide (left = right)
  isFinite _ := true
  tiny := 1 / 10 ^ 12
  toText value := decimal value.num.natAbs

/-- Placeholder digests, as long as those of the runtime. -/
instance rationalDigests : CanonicalDigests ℚ where
  definitionDigest _ := List.replicate 32 0
  evidenceDigest _ _ := List.replicate 32 0

namespace Sample

/-- One real metric, a baseline and one candidate branch. -/
def spec : ExperimentSpec ℚ where
  name := text "sample"
  hypothesisStatement := text "the candidate is faster"
  branches := [{ name := text "baseline", role := .baseline }, { name := text "candidate" }]
  metrics := [{ name := text "latency" }]
  acceptScoreThreshold := 0

/-- A coordinator that saves its state. -/
def config : Config := { statePath := text "state" }

/-- The first coordinator of the deployment. -/
def coordinator : Coordinator ℚ := Coordinator.boot config none {}

/-- The experiment of the sample. -/
def experiment : ExperimentId := ⟨1⟩

/-- The baseline branch. -/
def baseline : BranchId := ⟨1⟩

/-- The candidate branch. -/
def candidate : BranchId := ⟨2⟩

/-- The first trial. -/
def trial : TrialId := ⟨1⟩

/-- The worker of the sample and its first boot. -/
def worker : WorkerId := ⟨7⟩

/-- The first boot of the worker. -/
def boot : WorkerBootId := ⟨1⟩

/-- Create the experiment and one trial, register the worker and claim the trial. -/
def claiming : List (Request ℚ × Option SaveFault) :=
  [(.createExperiment spec, none), (.createTrial experiment candidate [], none),
    (.registerWorker { worker, boot }, none),
    (.claimTrials { epoch := coordinator.epoch, worker, boot }, none)]

/-- The coordinator after the claim. -/
def claimed : Coordinator ℚ := coordinator.session claiming

/-- The envelope the claim returned. -/
def envelope : AuthorityEnvelope where
  epoch := coordinator.epoch
  experiment := experiment
  generation := ⟨1⟩
  hypothesis := ⟨1⟩
  hypothesisRevision := ⟨1⟩
  policy := ⟨1⟩
  policyGeneration := ⟨1⟩
  branch := candidate
  branchGeneration := ⟨1⟩
  trial := trial
  attempt := ⟨1⟩
  worker := worker
  boot := boot
  producer := ⟨1⟩

/-- An observation of the claimed trial. -/
def observation : Observation ℚ where
  id := ⟨1⟩
  experiment := experiment
  generation := ⟨1⟩
  branch := candidate
  branchGeneration := ⟨1⟩
  trial := trial
  attempt := ⟨1⟩
  metric := ⟨1⟩
  producer := ⟨1⟩
  worker := worker
  boot := boot
  epoch := coordinator.epoch
  value := { real := 1 }

/-- Publish the observation and commit the trial. -/
def committing : List (Request ℚ × Option SaveFault) :=
  [(.publishObservation { epoch := coordinator.epoch, worker, boot, observation }, none),
    (.commitTrial { epoch := coordinator.epoch, worker, boot, envelope }, none)]

/-- The coordinator after the commit. -/
def committed : Coordinator ℚ := claimed.session committing

theorem coordinator_started : Coordinator.create config none (fun _ => none) =
    ((none : Option (CoordinatorState ℚ)), .ok coordinator) := by
  rfl

theorem coordinator_reachable : (World.running coordinator).Reachable config.statePath :=
  (World.Reachable.empty _).start rfl coordinator_started

theorem claimed_reachable : (World.running claimed).Reachable config.statePath :=
  coordinator_reachable.session claiming

theorem committed_reachable : (World.running committed).Reachable config.statePath :=
  claimed_reachable.session committing

end Sample

end ExperimentFabric
