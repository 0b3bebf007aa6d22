import ExperimentFabric.Accounts
import ExperimentFabric.Planning

/-!
# Freshness of identities

Identities come from counters that are saved before a request answers.  The identities that
successful requests issue on one state path are non-null and never issued again, over any number of
coordinator lifetimes.
-/

namespace ExperimentFabric

open Lib

variable {R : Type}

/-! ## Counters and identities -/

/-- The kinds of identities a coordinator issues. -/
inductive IdKind where
  | experiment | hypothesis | branch | metric | policy | trial | attempt | observation | artifact
  | decision | rollbackPoint | producer
  deriving DecidableEq, Repr

/-- One identity. -/
structure Identity where
  kind : IdKind
  value : Nat
  deriving DecidableEq, Repr

/-- Identities of one kind are different. -/
def Identity.Apart (left right : Identity) : Prop := left.kind = right.kind → left.value ≠ right.value

/-- The counter identities of a kind are taken from. -/
def CoordinatorState.mark (state : CoordinatorState R) : IdKind → Nat
  | .experiment => state.watermarks.experiment
  | .hypothesis => state.watermarks.hypothesis
  | .branch => state.watermarks.branch
  | .metric => state.watermarks.metric
  | .policy => state.watermarks.policy
  | .trial => state.watermarks.trial
  | .attempt => state.watermarks.attempt
  | .observation => state.watermarks.observation
  | .artifact => state.watermarks.artifact
  | .decision => state.watermarks.decision
  | .rollbackPoint => state.watermarks.rollback
  | .producer => state.nextWorkerRegistrationSequence

/-- The identities a new experiment defines. -/
def ExperimentRecord.identities (record : ExperimentRecord R) : List Identity :=
  [⟨.hypothesis, record.definition.hypothesis.value⟩,
    ⟨.policy, record.definition.policy.id.value⟩] ++
    (record.definition.branches.map (fun branch => ⟨.branch, branch.id.value⟩) ++
      record.definition.metrics.map fun metric => ⟨.metric, metric.id.value⟩)

/-- The identities of an assignment: its attempt and what is reserved for it. -/
def TrialAssignment.identities (assignment : TrialAssignment) : List Identity :=
  ⟨.attempt, assignment.envelope.attempt.value⟩ ::
    (assignment.metrics.map (fun metric => ⟨.observation, metric.observationId.value⟩) ++
      assignment.artifactIds.map fun artifact => ⟨.artifact, artifact.value⟩)

namespace Coordinator

/-- The rollback points an operation has added to an experiment. -/
def addedPoints (c after : Coordinator R) (experiment : ExperimentId) : List Identity :=
  match c.findExperiment experiment, after.findExperiment experiment with
  | some old, some new =>
      (new.rollbackPoints.drop old.rollbackPoints.length).map fun point =>
        ⟨.rollbackPoint, point.id.value⟩
  | _, _ => []

/-- The identities in a successful reply, with those of what the operation has created. -/
def identitiesOf (c : Coordinator R) (request : Request R) (result : Coordinator R × Reply R) :
    List Identity :=
  match request, result with
  | .createExperiment _, (after, .experiment (.ok id)) =>
      ⟨.experiment, id.value⟩ ::
        ((after.findExperiment id).map ExperimentRecord.identities).getD []
  | .forkBranch _ _ _, (_, .branch (.ok id)) => [⟨.branch, id.value⟩]
  | .retireBranch _ _ _, (_, .branch (.ok id)) => [⟨.branch, id.value⟩]
  | .createTrial _ _ _, (_, .trial (.ok id)) => [⟨.trial, id.value⟩]
  | .registerWorker _, (_, .registration reply) =>
      if reply.status.isOk then [⟨.producer, reply.producer.value⟩] else []
  | .claimTrials _, (_, .claim reply) =>
      if reply.status.isOk then reply.assignments.flatMap TrialAssignment.identities else []
  | .finalizeExperiment experiment _ _, (after, .decision (.ok decision)) =>
      ⟨.decision, decision.id.value⟩ :: c.addedPoints after experiment
  | .rollback experiment _ _, (after, .status (.ok ())) => c.addedPoints after experiment
  | _, _ => []

/-- The request is answered with an identity that exists already: that of the branch it names, or the
producer of the live incarnation it registers again. -/
def repeats (c : Coordinator R) : Request R → Bool
  | .retireBranch _ _ _ => true
  | .registerWorker request => (c.findLiveWorker request.worker request.boot).isSome
  | _ => false

variable [MetricReal R] [CanonicalDigests R]

/-- The identities a request hands out. -/
def handsOut (c : Coordinator R) (request : Request R) (fault : Option SaveFault) :
    List Identity :=
  c.identitiesOf request (c.perform request fault)

/-- The identities a request issues. -/
def issues (c : Coordinator R) (request : Request R) (fault : Option SaveFault) : List Identity :=
  if c.repeats request then [] else c.handsOut request fault

end Coordinator

/-! ## Identities above a counter -/

/-- The identities lie between two readings of their counters, and no two of them agree. -/
structure Fresh (old new : IdKind → Nat) (ids : List Identity) : Prop where
  above : ∀ id ∈ ids, old id.kind < id.value ∧ id.value ≤ new id.kind
  apart : ids.Pairwise Identity.Apart

section Fresh

variable {old middle new : IdKind → Nat} {first second : List Identity}

theorem Fresh.nil : Fresh old new [] :=
  ⟨fun _ member => (List.not_mem_nil member).elim, .nil⟩

/-- Identities of different kinds never agree. -/
theorem Fresh.beside (earlier : Fresh old new first) (later : Fresh old new second)
    (kinds : ∀ kind ∈ first.map Identity.kind, kind ∉ second.map Identity.kind) :
    Fresh old new (first ++ second) where
  above := fun id member => (List.mem_append.mp member).elim (earlier.above id) (later.above id)
  apart := List.pairwise_append.mpr ⟨earlier.apart, later.apart, by
    intro left member right other same
    refine (kinds left.kind (List.mem_map_of_mem member) ?_).elim
    rw [same]
    exact List.mem_map_of_mem other⟩

/-- Identities issued one after another never agree. -/
theorem Fresh.append (earlier : Fresh old middle first) (later : Fresh middle new second)
    (before : ∀ kind, old kind ≤ middle kind) (after : ∀ kind, middle kind ≤ new kind) :
    Fresh old new (first ++ second) where
  above := fun id member => by
    rcases List.mem_append.mp member with here | there
    · exact ⟨(earlier.above id here).1, (earlier.above id here).2.trans (after id.kind)⟩
    · exact ⟨(before id.kind).trans_lt (later.above id there).1, (later.above id there).2⟩
  apart := List.pairwise_append.mpr ⟨earlier.apart, later.apart, by
    intro left member right other same
    have low := (earlier.above left member).2
    have high := (later.above right other).1
    rw [same] at low
    exact (low.trans_lt high).ne⟩

theorem Fresh.single {kind : IdKind} (raised : old kind + 1 ≤ new kind) :
    Fresh old new [⟨kind, old kind + 1⟩] where
  above := fun id member => by
    rw [List.mem_singleton.mp member]
    exact ⟨Nat.lt_succ_self _, raised⟩
  apart := List.pairwise_singleton _ _

/-- Consecutive identities of one kind. -/
theorem Fresh.block {kind : IdKind} {count : Nat} (raised : old kind + count ≤ new kind) :
    Fresh old new ((List.range count).map fun index => ⟨kind, old kind + 1 + index⟩) where
  above := fun id member => by
    obtain ⟨index, bounded, rfl⟩ := List.mem_map.mp member
    rw [List.mem_range] at bounded
    dsimp only
    omega
  apart := by
    rw [List.pairwise_map]
    refine List.pairwise_lt_range.imp ?_
    intro left right smaller same
    dsimp only
    omega

end Fresh

/-! ## Counters never go down -/

namespace Coordinator

/-- The producer counter is not lower, and the epoch of the state is the same. -/
structure Counted (old new : CoordinatorState R) : Prop where
  producers : old.nextWorkerRegistrationSequence ≤ new.nextWorkerRegistrationSequence
  epoch : new.lastEpoch = old.lastEpoch

/-- The counters of a state that no watermark holds. -/
def counters (state : CoordinatorState R) : Nat × Nat :=
  (state.nextWorkerRegistrationSequence, state.lastEpoch)

theorem Counted.ofEq {old new : CoordinatorState R} (same : counters new = counters old) :
    Counted old new :=
  ⟨(congrArg Prod.fst same).ge, congrArg Prod.snd same⟩

theorem replacing_counters (c : Coordinator R) (request : RegisterWorkerRequest) :
    counters (c.replacing request).state = counters c.state := by
  have replaced : ∀ (sequence : Nat) (workers : List LiveWorker) (c : Coordinator R),
      counters (workers.foldl (replaceIncarnation sequence) c).state = counters c.state := by
    intro sequence workers
    induction workers with
    | nil => exact fun _ => rfl
    | cons live rest ih => exact fun c => ih _
  exact replaced _ _ _

theorem claiming_counters (c : Coordinator R) (request : ClaimTrialRequest) (live : LiveWorker) :
    counters (c.claiming request live).state = counters c.state := by
  let property (progress : ClaimProgress R) : Prop :=
    counters progress.coordinator.state = counters c.state
  have looped : property (c.claimLoop request live) := by
    refine claimLoop_keeps c live ?_ fun _ => rfl
    intro progress experiment key same
    unfold claimTrial
    repeat' split
    all_goals exact same
  exact looped

theorem registerArtifacts_counters (envelope : AuthorityEnvelope)
    (artifacts : List ArtifactRecord) (c : Coordinator R) :
    counters (registerArtifacts envelope c artifacts).1.state = counters c.state := by
  let property (reached : Coordinator R) : Prop := counters reached.state = counters c.state
  have kept : property (registerArtifacts envelope c artifacts).1 :=
    registerArtifacts_keeps envelope (fun _ same => same) (fun _ _ _ _ same _ _ _ _ => same)
      artifacts rfl
  exact kept

variable [MetricReal R] [CanonicalDigests R]

theorem saving_counted {c prepared : Coordinator R} {request : Request R}
    {undo : Coordinator R → Coordinator R} {answer : Check Status → Reply R}
    (saves : Saving c request prepared undo answer) :
    Counted c.state prepared.state ∧
      Counted c.state (undo { prepared with persistenceDegraded := true }).state := by
  cases saves with
  | @register registration guarded unknown fresh =>
      have same := Counted.ofEq (replacing_counters c registration)
      have added : Counted c.state ((c.replacing registration).addWorker registration).state :=
        ⟨same.producers.trans (Nat.le_succ _), same.epoch⟩
      exact ⟨added, added⟩
  | @claim claim live guarded issued =>
      have same := Counted.ofEq (claiming_counters c claim live)
      exact ⟨same, same⟩
  | refuseObservation found refused =>
      unfold rejectObservation
      dsimp only
      split <;> exact ⟨.ofEq rfl, .ofEq rfl⟩
  | @commit request check registered record guarded evidence accepted allowed found =>
      have same := registerArtifacts_counters request.envelope request.artifacts c.nextSequence
      rw [accepted] at same
      exact ⟨.ofEq same, .ofEq same⟩
  | finalize guarded decided =>
      unfold deciding
      split <;> exact ⟨.ofEq rfl, .ofEq rfl⟩
  | _ => exact ⟨.ofEq rfl, .ofEq rfl⟩

theorem ending_counted {c : Coordinator R} {fault : Option SaveFault} {request : Request R}
    {result : Coordinator R × Reply R} (ending : Ending c fault request result) :
    Counted c.state result.1.state := by
  cases ending with
  | @saving _ prepared undo answer saves =>
      obtain ⟨stored, undone⟩ := saving_counted saves
      rcases prepared.endWith_cases fault undo answer with ⟨-, same⟩ | ⟨-, failure, same⟩
      · rw [same, persistLocked_state]
        exact stored
      · rw [same]
        exact undone
  | @replaced request failure guarded unknown refused => exact .ofEq (replacing_counters c request)
  | idle guarded none => exact .ofEq (claiming_counters c _ _)
  | @artifactsKept request check registered failure guarded refused =>
      have same := registerArtifacts_counters request.envelope request.artifacts c.nextSequence
      rw [refused] at same
      exact .ofEq same
  | @artifactsWithdrawn request check registered failure guarded accepted =>
      have same := registerArtifacts_counters request.envelope request.artifacts c.nextSequence
      rw [accepted] at same
      obtain ⟨experiments, positions, withdrawn⟩ := withdrawArtifacts_frame request.envelope
        (request.artifacts.map ArtifactRecord.id) registered
      rw [withdrawn]
      exact .ofEq same
  | _ => exact .ofEq rfl

theorem perform_counted (c : Coordinator R) (request : Request R) (fault : Option SaveFault) :
    Counted c.state (c.perform request fault).1.state :=
  ending_counted (c.perform_ending fault request)

theorem perform_mark_le (c : Coordinator R) (request : Request R) (fault : Option SaveFault)
    (kind : IdKind) : c.state.mark kind ≤ (c.perform request fault).1.state.mark kind := by
  have marks := (StateSteps.advances (c.perform_steps request fault)).marks
  cases kind with
  | experiment => exact marks.experiment
  | hypothesis => exact marks.hypothesis
  | branch => exact marks.branch
  | metric => exact marks.metric
  | policy => exact marks.policy
  | trial => exact marks.trial
  | attempt => exact marks.attempt
  | observation => exact marks.observation
  | artifact => exact marks.artifact
  | decision => exact marks.decision
  | rollbackPoint => exact marks.rollback
  | producer => exact (c.perform_counted request fault).producers

end Coordinator

/-! ## What requests issue -/

/-- The metrics of a specification take consecutive identities. -/
theorem defineMetrics_identities (watermark : Nat) (specs : List (MetricSpec R)) :
    (defineMetrics watermark specs).map (fun metric => (⟨.metric, metric.id.value⟩ : Identity)) =
      (List.range specs.length).map fun index => ⟨.metric, watermark + 1 + index⟩ := by
  induction specs generalizing watermark with
  | nil => rfl
  | cons spec rest ih =>
      rw [defineMetrics, List.map_cons, ih, List.length_cons, List.range_succ_eq_map,
        List.map_cons, List.map_map]
      congr 1
      refine List.map_congr_left fun index _ => ?_
      simp only [Function.comp_apply]
      congr 1
      omega

theorem startBranches_eq_ok {branch : BranchDefinition} {later : Nat × Result (List BranchDefinition)}
    {reached : Nat} {branches : List BranchDefinition}
    (started : startBranches branch later = (reached, .ok branches)) :
    ∃ rest, later = (reached, .ok rest) ∧ branches = branch :: rest := by
  obtain ⟨mark, failure | rest⟩ := later
  · cases congrArg Prod.snd started
  · cases started
    exact ⟨rest, rfl, rfl⟩

/-- The branches of a specification take consecutive identities. -/
theorem defineBranches_identities {sequence watermark reached : Nat}
    {declared : List (BranchId × BranchSpec)} {specs : List BranchSpec}
    {branches : List BranchDefinition}
    (defined : defineBranches sequence watermark declared specs = (reached, .ok branches)) :
    branches.map (fun branch => (⟨.branch, branch.id.value⟩ : Identity)) =
        (List.range specs.length).map (fun index => ⟨.branch, watermark + 1 + index⟩) ∧
      reached = watermark + specs.length := by
  induction specs generalizing watermark declared branches with
  | nil =>
      cases defined
      exact ⟨rfl, rfl⟩
  | cons spec rest ih =>
      have first : ∀ branch : BranchDefinition, branch.id = ⟨watermark + 1⟩ →
          startBranches branch (defineBranches sequence (watermark + 1)
            (declared ++ [(⟨watermark + 1⟩, spec)]) rest) = (reached, .ok branches) →
          branches.map (fun branch => (⟨.branch, branch.id.value⟩ : Identity)) =
              (List.range (rest.length + 1)).map
                (fun index => ⟨.branch, watermark + 1 + index⟩) ∧
            reached = watermark + (rest.length + 1) := by
        intro branch identity started
        obtain ⟨later, made, rfl⟩ := startBranches_eq_ok started
        obtain ⟨ids, mark⟩ := ih made
        refine ⟨?_, by omega⟩
        rw [List.map_cons, ids, List.range_succ_eq_map, List.map_cons, List.map_map, identity]
        congr 1
        refine List.map_congr_left fun index _ => ?_
        simp only [Function.comp_apply]
        congr 1
        omega
      rw [defineBranches_cons] at defined
      split at defined
      · exact first _ rfl defined
      · split at defined
        · cases congrArg Prod.snd defined
        · exact first _ rfl defined

namespace Coordinator

theorem reserveMetrics_identities (record : ExperimentRecord R) (watermark : Nat) :
    (record.reserveMetrics watermark).map
        (fun metric => (⟨.observation, metric.observationId.value⟩ : Identity)) =
      (List.range record.definition.metrics.length).map fun index =>
        ⟨.observation, watermark + 1 + index⟩ := by
  rw [ExperimentRecord.reserveMetrics, List.map_map, List.range_eq_range',
    ← List.zipIdx_map_snd 0 record.definition.metrics, List.map_map]
  rfl

/-- An assignment takes the next attempt and blocks of observations and artifacts. -/
theorem assignment_fresh {old new : IdKind → Nat} {assignment : TrialAssignment}
    (observations artifacts : Nat)
    (attempt : assignment.envelope.attempt.value = old .attempt + 1)
    (metrics : assignment.metrics.map
      (fun metric => (⟨.observation, metric.observationId.value⟩ : Identity)) =
        (List.range observations).map fun index => ⟨.observation, old .observation + 1 + index⟩)
    (artifactIds : assignment.artifactIds.map
      (fun artifact => (⟨.artifact, artifact.value⟩ : Identity)) =
        (List.range artifacts).map fun index => ⟨.artifact, old .artifact + 1 + index⟩)
    (attempts : old .attempt + 1 ≤ new .attempt)
    (reserved : old .observation + observations ≤ new .observation)
    (budget : old .artifact + artifacts ≤ new .artifact) : Fresh old new assignment.identities := by
  rw [TrialAssignment.identities, attempt, metrics, artifactIds]
  exact .beside (.single attempts) (.beside (.block reserved) (.block budget) (by simp)) (by simp)

/-- Every trial of a claim takes its identities above all earlier ones. -/
theorem claimTrial_fresh {start : IdKind → Nat} (request : ClaimTrialRequest)
    (producer : ProducerId) (progress : ClaimProgress R) (experiment : ExperimentId)
    (key : TrialId)
    (fresh : (∀ kind, start kind ≤ progress.coordinator.state.mark kind) ∧
      Fresh start progress.coordinator.state.mark
        (progress.assignments.flatMap TrialAssignment.identities)) :
    (∀ kind, start kind ≤
      (claimTrial request producer experiment progress key).coordinator.state.mark kind) ∧
      Fresh start (claimTrial request producer experiment progress key).coordinator.state.mark
        ((claimTrial request producer experiment progress key).assignments.flatMap
          TrialAssignment.identities) := by
  unfold claimTrial
  split
  · exact fresh
  · split
    · exact fresh
    · rename_i record found
      split
      · exact fresh
      · rename_i trial held
        split
        · exact fresh
        · rename_i branch claimable
          dsimp only
          rw [List.flatMap_append, List.flatMap_singleton]
          refine ⟨fun kind => (fresh.1 kind).trans ?_, fresh.2.append
            (assignment_fresh record.definition.metrics.length
              (record.artifactBudget progress.coordinator.limits) rfl
              (reserveMetrics_identities _ _) ?_ ?_ ?_ ?_) fresh.1 ?_⟩
          · cases kind <;> simp [CoordinatorState.mark]
          · rw [List.map_map]
            rfl
          · exact le_refl _
          · exact le_refl _
          · simp [CoordinatorState.mark]
          · intro kind
            cases kind <;> simp [CoordinatorState.mark]

theorem claiming_fresh (c : Coordinator R) (request : ClaimTrialRequest) (live : LiveWorker) :
    Fresh c.state.mark (c.claiming request live).state.mark
      ((c.claimLoop request live).assignments.flatMap TrialAssignment.identities) := by
  let property (progress : ClaimProgress R) : Prop :=
    (∀ kind, c.state.mark kind ≤ progress.coordinator.state.mark kind) ∧
      Fresh c.state.mark progress.coordinator.state.mark
        (progress.assignments.flatMap TrialAssignment.identities)
  have looped : property (c.claimLoop request live) := by
    refine claimLoop_keeps c live ?_ fun _ => ⟨fun _ => le_refl _, .nil⟩
    exact fun progress experiment key => claimTrial_fresh request live.producer progress experiment key
  exact looped.2

variable [MetricReal R] [CanonicalDigests R]

omit [CanonicalDigests R] [MetricReal R] in
/-- A refused request hands nothing out. -/
theorem identitiesOf_refused (c : Coordinator R) (request : Request R) {after : Coordinator R}
    {reply : Reply R} (refused : reply.succeeded = false) :
    c.identitiesOf request (after, reply) = [] := by
  unfold identitiesOf
  split <;> simp_all [Reply.succeeded, Except.isOk, Except.toBool]

omit [CanonicalDigests R] [MetricReal R] in
/-- The points that were appended to a record. -/
theorem addedPoints_append {c after : Coordinator R} {experiment : ExperimentId}
    {old new : ExperimentRecord R} {added : List RollbackPoint}
    (found : c.findExperiment experiment = some old)
    (stored : after.findExperiment experiment = some new)
    (points : new.rollbackPoints = old.rollbackPoints ++ added) :
    c.addedPoints after experiment =
      added.map fun point => ⟨.rollbackPoint, point.id.value⟩ := by
  rw [addedPoints, found, stored]
  dsimp only
  rw [points, List.drop_left]

theorem finalDecision_id (record : ExperimentRecord R) (candidate : BranchId) (reason : Text)
    (id : DecisionId) (sequence : Nat) :
    (finalDecision record candidate reason id sequence).id = id := by
  have built : (buildDecision record candidate id sequence).id = id := by
    have concluded : ∀ (decision : Decision R) ruling comparison,
        (conclude decision ruling comparison).id = decision.id := by
      intro decision ruling comparison
      unfold conclude
      dsimp only
      repeat' split
      all_goals rfl
    unfold buildDecision
    dsimp only
    split
    · rfl
    · split
      · split <;> rfl
      · rw [concluded]
        split <;> rfl
  unfold finalDecision
  dsimp only
  split <;> exact built

/-- What a saved request issues lies above its counters. -/
theorem saving_fresh {c prepared : Coordinator R} {request : Request R}
    {undo : Coordinator R → Coordinator R} {answer : Check Status → Reply R}
    (saves : Saving c request prepared undo answer) (fault : Option SaveFault)
    (issued : c.repeats request = false) :
    Fresh c.state.mark prepared.state.mark
      (c.identitiesOf request ((prepared.persistLocked fault).1, answer (.ok ()))) := by
  cases saves with
  | @create spec expected branch branches record accepted admitting room absent metrics known
      defined built valid =>
      obtain ⟨branchIds, reached⟩ := defineBranches_identities defined
      have stored : (((c.defining spec branch).withRecord ⟨c.state.watermarks.experiment + 1⟩
          record).persistLocked fault).1.findExperiment ⟨c.state.watermarks.experiment + 1⟩ =
            some record := by
        rw [findExperiment, persistLocked_state]
        simp
      have ids : record.identities = [⟨.hypothesis, c.state.mark .hypothesis + 1⟩,
          ⟨.policy, c.state.mark .policy + 1⟩] ++
            ((List.range spec.branches.length).map
                (fun index => ⟨.branch, c.state.mark .branch + 1 + index⟩) ++
              (List.range spec.metrics.length).map
                fun index => ⟨.metric, c.state.mark .metric + 1 + index⟩) := by
        rw [ExperimentRecord.identities, built]
        exact congrArg₂ (fun branches metrics => _ ++ (branches ++ metrics)) branchIds
          (defineMetrics_identities _ _)
      change Fresh _ _ (⟨.experiment, c.state.mark .experiment + 1⟩ ::
        ((Coordinator.findExperiment _ _).map ExperimentRecord.identities).getD [])
      rw [stored, Option.map_some, Option.getD_some, ids]
      let marks : IdKind → Nat := ((c.defining spec branch).withRecord
        ⟨c.state.watermarks.experiment + 1⟩ record).state.mark
      have pair : Fresh c.state.mark marks
          ([⟨.hypothesis, c.state.mark .hypothesis + 1⟩] ++ [⟨.policy, c.state.mark .policy + 1⟩]) :=
        .beside (.single (le_refl _)) (.single (le_refl _)) (by simp)
      have blocks : Fresh c.state.mark marks ((List.range spec.branches.length).map
          (fun index => ⟨.branch, c.state.mark .branch + 1 + index⟩) ++
            (List.range spec.metrics.length).map
              fun index => ⟨.metric, c.state.mark .metric + 1 + index⟩) :=
        .beside (.block reached.ge) (.block (le_refl _)) (by simp)
      exact .beside (.single (le_refl _)) (.beside pair blocks (by simp)) (by simp)
  | fork guarded built valid => exact .single (le_refl _)
  | retire guarded => cases issued
  | addTrial guarded built valid => exact .single (le_refl _)
  | @register registration guarded unknown fresh =>
      have same : (c.replacing registration).state.nextWorkerRegistrationSequence =
          c.state.nextWorkerRegistrationSequence :=
        congrArg Prod.fst (replacing_counters c registration)
      change Fresh _ _ [⟨.producer,
        (c.replacing registration).state.nextWorkerRegistrationSequence + 1⟩]
      rw [same]
      refine Fresh.single ?_
      exact Nat.succ_le_succ same.ge
  | @claim claim live guarded assigned => exact claiming_fresh c claim live
  | @finalize experiment candidate reason record decision guarded decided =>
      have found := (finalizeGuard_ok guarded).found
      have stored : ∀ point, ((((c.deciding decision.outcome).withRecord experiment
          (record.finalize experiment decision point (c.currentSequence + 1))).persistLocked
            fault).1.findExperiment experiment) =
              some (record.finalize experiment decision point (c.currentSequence + 1)) := by
        intro point
        rw [findExperiment, persistLocked_state]
        simp
      have identity : decision.id = ⟨c.state.watermarks.decision + 1⟩ := by
        rw [decided, finalDecision_id]
      change Fresh _ _ (⟨.decision, decision.id.value⟩ :: c.addedPoints _ experiment)
      rw [addedPoints_append found (stored _) rfl, identity]
      unfold deciding
      by_cases concluding : ExperimentRecord.concludes decision.outcome = true
      · simp only [concluding, if_true]
        exact .beside (.single (le_refl _)) (.single (le_refl _)) (by simp)
      · simp only [concluding, if_false, Bool.false_eq_true]
        exact .single (le_refl _)
  | @rollback experiment target reason record restored chosen guarded built valid =>
      have found := (rollbackGuard_ok guarded).found
      have stored : ((c.nextSequence.allocRollbackId.withRecord experiment restored).persistLocked
          fault).1.findExperiment experiment = some restored := by
        rw [findExperiment, persistLocked_state]
        simp
      change Fresh _ _ (c.addedPoints _ experiment)
      rw [addedPoints_append found stored (by rw [built]; rfl)]
      exact .single (le_refl _)
  | _ => exact .nil

/-- What a request issues lies between its counters before and after, and is saved. -/
theorem issues_fresh (c : Coordinator R) (request : Request R) (fault : Option SaveFault) :
    Fresh c.state.mark (c.perform request fault).1.state.mark (c.issues request fault) ∧
      (c.issues request fault ≠ [] → (c.perform request fault).1.InStep) := by
  have none : c.issues request fault = [] →
      Fresh c.state.mark (c.perform request fault).1.state.mark (c.issues request fault) ∧
        (c.issues request fault ≠ [] → (c.perform request fault).1.InStep) := by
    intro empty
    rw [empty]
    exact ⟨.nil, fun absurd => (absurd rfl).elim⟩
  by_cases repeated : c.repeats request = true
  · exact none (if_pos repeated)
  · have handed : c.issues request fault = c.identitiesOf request (c.perform request fault) :=
      if_neg repeated
    have ending := c.perform_ending fault request
    generalize result : c.perform request fault = ended at *
    cases ending with
    | @saving _ prepared undo answer saves =>
        rcases prepared.endWith_cases fault undo answer with ⟨savable, same⟩ | ⟨-, failure, same⟩
        · rw [same] at handed ⊢
          rw [handed, persistLocked_state]
          exact ⟨saving_fresh saves fault (by simpa using repeated),
            fun _ => prepared.persistLocked_inStep savable⟩
        · rw [same] at handed
          exact none (handed.trans (identitiesOf_refused c request (saves.refuses failure)))
    | refused failed => exact none (handed.trans (identitiesOf_refused c request failed))
    | counted failed => exact none (handed.trans (identitiesOf_refused c request failed))
    | registered guarded known unrevoked =>
        simp [repeats, known] at repeated
    | _ => exact none handed

end Coordinator

/-! ## Runs -/

section Runs

variable [MetricReal R] [CanonicalDigests R]

/-- A counter that has reached an identity stays there. -/
theorem mark_lasting {condition : World R → Event R → Prop} (id : Identity) :
    Lasting condition fun state : CoordinatorState R => id.value ≤ state.mark id.kind where
  performed := fun {c request fault} _ reached =>
    reached.trans (c.perform_mark_le request fault id.kind)
  resumed := by
    intro config outcomes old new _ resumes reached
    refine reached.trans (le_of_eq ?_)
    cases id.kind with
    | producer => exact resumes.producers.symm
    | _ => simp only [CoordinatorState.mark, resumes.watermarks]

/-- Identities that successful requests issue are non-null and differ from all identities of their
kind issued before, in any lifetime on the same state path; without a state path, in the same
lifetime. -/
theorem issued_fresh {path : Text} {ids : List Identity} {world : World R}
    (account : Account path anyStep Coordinator.issues ids world) :
    (∀ id ∈ ids, id.value ≠ 0) ∧ ids.Pairwise Identity.Apart := by
  constructor
  · let valid (_ : List Identity) (id : Identity) : Prop := id.value ≠ 0
    have all : ∀ id ∈ ids, valid ids id := by
      refine Account.grounded (fun held => held) ?_ account
      intro entries c request fault id earlier _ issued
      have above := ((c.issues_fresh request fault).1.above id issued).1
      exact (Nat.zero_lt_of_lt above).ne'
    exact all
  · refine Account.pairwise ?_ account
    intro entries c request fault earlier _
    have fresh := (c.issues_fresh request fault).1
    refine ⟨fresh.apart, fun old member new issued same => ?_⟩
    have retained : ∀ id ∈ entries, (World.running c).Retains path
        fun state => id.value ≤ state.mark id.kind := by
      refine Account.retains mark_lasting ?_ earlier
      intro _ c request fault id _ _ issued
      obtain ⟨fresh, saved⟩ := c.issues_fresh request fault
      exact ⟨(fresh.above id issued).2, saved (List.ne_nil_of_mem issued)⟩
    have low := (retained old member).1
    have high := (fresh.above new issued).1
    rw [same] at low
    exact (low.trans_lt high).ne

end Runs

namespace Sample

/-- Register the worker. -/
def registering : Request ℚ × Option SaveFault := (.registerWorker { worker, boot }, none)

/-- A coordinator that saves nothing. -/
def forgetful : Coordinator ℚ := Coordinator.boot {} none {}

theorem forgetful_started : Coordinator.create {} none (fun _ => none) =
    ((none : Option (CoordinatorState ℚ)), .ok forgetful) := by
  rfl

theorem forgetful_stopped :
    (forgetful.session [(.createExperiment spec, none)]).image = none := by
  decide +kernel

end Sample

/-- The identities of the sample session. -/
theorem claimed_issued_fresh : ∃ ids,
    Account Sample.config.statePath anyStep Coordinator.issues ids (.running Sample.claimed) ∧
      ids ≠ [] ∧ ids.Pairwise Identity.Apart := by
  have started : Account Sample.config.statePath anyStep Coordinator.issues []
      (.running Sample.coordinator) :=
    start_ledger .empty rfl trivial rfl Sample.coordinator_started
  have claimed := session_ledger (fun _ _ => rfl) started Sample.claiming
    fun _ _ _ _ => trivial
  exact ⟨_, claimed, by decide +kernel, (issued_fresh claimed).2⟩

/-- Storage writes succeed. -/
def writesSucceed : List Identity → World R → Event R → Prop
  | _, _, .request _ fault => fault = none
  | _, _, .start _ outcomes => outcomes = fun _ => none
  | _, _, .stop => True

/-- All identities of a run whose storage writes succeed, in whatever lifetime. -/
abbrev LifelongAccount [MetricReal R] [CanonicalDigests R] (path : Text)
    (records : Coordinator R → Request R → Option SaveFault → List Identity) :
    List Identity → World R → Prop :=
  Ledger (fun entries source event target => writesSucceed entries source event ∧
    World.Step path source event target) (recordsOf records) (fun _ => true) (.down none)

/-- Identities are handed out again although all writes succeed: a second registration of one
incarnation is answered with the same producer, and a coordinator without a state path starts over
after a restart. -/
theorem identity_handed_out_again :
    (∃ ids world, LifelongAccount (R := ℚ) Sample.config.statePath Coordinator.handsOut ids world ∧
      ¬ ids.Pairwise Identity.Apart) ∧
    ∃ ids world, LifelongAccount (R := ℚ) [] Coordinator.issues ids world ∧
      ¬ ids.Pairwise Identity.Apart := by
  constructor
  · have started : LifelongAccount Sample.config.statePath Coordinator.handsOut []
        (.running Sample.coordinator) :=
      start_ledger .empty rfl rfl rfl Sample.coordinator_started
    have twice := session_ledger (fun _ _ => rfl) started
      [Sample.registering, Sample.registering] (by simp [Sample.registering, writesSucceed])
    refine ⟨_, _, twice, ?_⟩
    rw [show [] ++ Sample.coordinator.entriesOf Coordinator.handsOut
      [Sample.registering, Sample.registering] = [⟨.producer, 1⟩, ⟨.producer, 1⟩] by
        decide +kernel]
    simp [Identity.Apart]
  · have started : LifelongAccount [] Coordinator.issues [] (.running Sample.forgetful) :=
      start_ledger .empty rfl rfl rfl Sample.forgetful_started
    have created := session_ledger (fun _ _ => rfl) started [(.createExperiment Sample.spec, none)]
      (by simp [writesSucceed])
    have ended : World.Step [] (.running (Sample.forgetful.session
        [(.createExperiment Sample.spec, none)])) .stop (.down none) :=
      Sample.forgetful_stopped ▸ .stop _
    have allowed : writesSucceed ([] ++ Sample.forgetful.entriesOf Coordinator.issues
        [(.createExperiment Sample.spec, none)]) (.running (Sample.forgetful.session
          [(.createExperiment Sample.spec, none)])) .stop := trivial
    have stopped := Ledger.snoc created ⟨allowed, ended⟩
    have restarted := start_ledger stopped rfl rfl rfl Sample.forgetful_started
    have again := session_ledger (fun _ _ => rfl) restarted
      [(.createExperiment Sample.spec, none)] (by simp [writesSucceed])
    refine ⟨_, _, again, fun apart => ?_⟩
    have issued : ⟨.experiment, 1⟩ ∈ Sample.forgetful.entriesOf Coordinator.issues
        [(.createExperiment Sample.spec, none)] := by decide +kernel
    refine (List.pairwise_append.mp apart).2.2 ⟨.experiment, 1⟩ ?_ ⟨.experiment, 1⟩ issued rfl rfl
    rw [if_pos rfl]
    exact List.mem_append_left _ (List.mem_append_right _ issued)

end ExperimentFabric
