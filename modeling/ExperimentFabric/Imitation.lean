import ExperimentFabric.Worker

/-!
# Workers over two control planes

A worker reaches its control plane through five calls only, so it cannot tell two control planes
apart that answer alike.  Whatever holds between the two before a run holds between them afterwards.
-/

namespace ExperimentFabric

open Lib Protocol

variable {R : Type} {σ τ : Type}

/-- From related states the other control plane answers as the first does, as long as the calls are
admitted. -/
structure ControlPlane.Imitates (admits : Call R × Answer R → Prop) (rel : σ → τ → Prop)
    (plane : ControlPlane (StateM σ) R) (other : ControlPlane (StateM τ) R) : Prop where
  registerWorker : ∀ request,
    Follows admits rel (plane.logged.registerWorker request) (other.registerWorker request)
  claimTrials : ∀ request,
    Follows admits rel (plane.logged.claimTrials request) (other.claimTrials request)
  publishObservation : ∀ request,
    Follows admits rel (plane.logged.publishObservation request) (other.publishObservation request)
  commitTrial : ∀ request,
    Follows admits rel (plane.logged.commitTrial request) (other.commitTrial request)
  failTrial : ∀ request,
    Follows admits rel (plane.logged.failTrial request) (other.failTrial request)

namespace Worker

variable {admits : Call R × Answer R → Prop} {rel : σ → τ → Prop}
  {plane : ControlPlane (StateM σ) R} {other : ControlPlane (StateM τ) R}
  (imitates : plane.Imitates admits rel other) (task : TaskFunction R)

include imitates

theorem publishAll_follows (assignment : TrialAssignment)
    (observations : List (NamedObservation R)) (worker : Worker) :
    Follows admits rel (publishAll plane.logged assignment worker observations)
      (publishAll other assignment worker observations) := by
  induction observations generalizing worker with
  | nil => exact .pure _
  | cons named rest ih =>
      rw [publishAll, publishAll]
      cases reservation assignment named.metric with
      | none => exact .pure _
      | some reserved =>
          refine (imitates.publishObservation _).bind fun status => ?_
          exact .ite (.pure _) (ih _)

theorem runAssignment_follows (worker : Worker) (assignment : TrialAssignment) :
    Follows admits rel (runAssignment plane.logged task worker assignment)
      (runAssignment other task worker assignment) := by
  refine .ite ?_ ?_
  · refine (imitates.failTrial _).bind fun status => ?_
    exact .ite (.pure _) (.pure _)
  · refine (publishAll_follows imitates assignment _ worker).bind fun reached => ?_
    refine .ite ?_ ?_
    · exact (imitates.failTrial _).bind fun _ => .pure _
    · refine (imitates.commitTrial _).bind fun status => ?_
      exact .ite (.pure _) (.pure _)

theorem runAssignments_follows (assignments : List TrialAssignment) (worker : Worker) :
    Follows admits rel (runAssignments plane.logged task worker assignments)
      (runAssignments other task worker assignments) := by
  induction assignments generalizing worker with
  | nil => exact .pure _
  | cons assignment rest ih => exact (runAssignment_follows imitates task worker assignment).bind ih

theorem runOnce_follows (worker : Worker) :
    Follows admits rel (runOnce plane.logged task worker) (runOnce other task worker) := by
  refine (imitates.claimTrials _).bind fun result => ?_
  cases result with
  | error failure => exact .pure _
  | ok reply =>
      refine .ite (.pure _) (.ite (.pure _) ?_)
      exact (runAssignments_follows imitates task reply.assignments worker).bind fun _ => .pure _

theorem connectAndRegister_follows (worker : Worker) :
    Follows admits rel (worker.connectAndRegister plane.logged)
      (worker.connectAndRegister other) := by
  refine (imitates.registerWorker _).bind fun result => ?_
  cases result with
  | error failure => exact .pure _
  | ok reply => exact .ite (.pure _) (.pure _)

theorem runCycle_follows (worker : Worker) :
    Follows admits rel (runCycle plane.logged task worker) (runCycle other task worker) := by
  refine Follows.bind ?_ fun registered => ?_
  · exact .ite (connectAndRegister_follows imitates worker) (.pure _)
  refine .ite (.pure _) ?_
  refine (runOnce_follows imitates task _).bind fun reached => ?_
  refine .ite (.pure _) (.ite (.pure _) (.ite ?_ (.pure _)))
  refine (connectAndRegister_follows imitates _).bind fun registered => ?_
  exact .ite (.pure _) (.pure _)

/-- A worker cannot tell the two control planes apart. -/
theorem runUntilIdle_follows (cycles : Nat) (worker : Worker) :
    Follows admits rel (runUntilIdle plane.logged task cycles worker)
      (runUntilIdle other task cycles worker) := by
  induction cycles generalizing worker with
  | zero => exact .pure _
  | succ cycles ih =>
      refine (runCycle_follows imitates task worker).bind fun reached => ?_
      obtain ⟨next, ended⟩ := reached
      cases ended with
      | some status => exact .pure _
      | none => exact ih next

end Worker

end ExperimentFabric
