import ExperimentFabric.Endings
import ExperimentFabric.Incarnations

/-!
# The live worker table

A request either keeps every incarnation in the table, perhaps revoking some, or is a registration
that revokes the other incarnations of its worker and adds one.  No entry is ever removed.
-/

namespace ExperimentFabric

open Lib

variable {R : Type}

/-- An incarnation keeps its identity, and a revoked one stays revoked. -/
structure LiveKept (live live' : LiveWorker) : Prop where
  worker : live'.worker = live.worker
  boot : live'.boot = live.boot
  producer : live'.producer = live.producer
  revoked : live.revoked = true → live'.revoked = true

theorem LiveKept.refl (live : LiveWorker) : LiveKept live live := ⟨rfl, rfl, rfl, id⟩

theorem LiveKept.trans (first second third : LiveWorker) (earlier : LiveKept first second)
    (later : LiveKept second third) : LiveKept first third :=
  ⟨later.worker.trans earlier.worker, later.boot.trans earlier.boot,
    later.producer.trans earlier.producer, fun revoked => later.revoked (earlier.revoked revoked)⟩

theorem LiveKept.unrevoked {live live' : LiveWorker} (kept : LiveKept live live')
    (unrevoked : live'.revoked = false) : live.revoked = false := by
  cases revoked : live.revoked with
  | false => rfl
  | true => exact nomatch unrevoked.symm.trans (kept.revoked revoked)

/-- The part of an entry that its registration writes and nothing rewrites. -/
def LiveWorker.registration (live : LiveWorker) : LiveWorker :=
  { live with
    activeAssignments := 0
    totalAssignments := 0
    revoked := false
    revocationKind := .none }

/-- A relation of entries that revoking and counting the load keep. -/
structure TableRelation (related : LiveWorker → LiveWorker → Prop) : Prop where
  reflexive : ∀ live, related live live
  transitive : ∀ first second third, related first second → related second third →
    related first third
  revoked : ∀ live kind, related live { live with revoked := true, revocationKind := kind }
  loaded : ∀ live active total,
    related live { live with activeAssignments := active, totalAssignments := total }

theorem liveKept_relation : TableRelation LiveKept where
  reflexive := .refl
  transitive := .trans
  revoked := fun _ _ => ⟨rfl, rfl, rfl, fun _ => rfl⟩
  loaded := fun _ _ _ => ⟨rfl, rfl, rfl, id⟩

theorem registration_relation :
    TableRelation fun live live' => live'.registration = live.registration where
  reflexive := fun _ => rfl
  transitive := fun _ _ _ earlier later => later.trans earlier
  revoked := fun _ _ => rfl
  loaded := fun _ _ _ => rfl

section Relation

variable {related : LiveWorker → LiveWorker → Prop} (relation : TableRelation related)

include relation

theorem TableRelation.modify {table : OrderedMap WorkerKey LiveWorker} (key : WorkerKey)
    {change : LiveWorker → LiveWorker} (each : ∀ live, related live (change live)) :
    OrderedMap.Evolves related table (table.modify key change) := by
  apply OrderedMap.Evolves.modify
  · exact relation.reflexive
  · exact fun live _ => each live

namespace Coordinator

/-! ## Replacing incarnations -/

theorem replaceIncarnation_related (sequence : Nat) (c : Coordinator R) (live : LiveWorker) :
    OrderedMap.Evolves related c.liveWorkers (replaceIncarnation sequence c live).liveWorkers := by
  unfold replaceIncarnation
  dsimp only
  apply relation.modify
  exact fun entry => relation.revoked entry .producerLoss

theorem replaceIncarnations_related (sequence : Nat) (replaced : List LiveWorker)
    (c : Coordinator R) :
    OrderedMap.Evolves related c.liveWorkers
      (replaced.foldl (replaceIncarnation sequence) c).liveWorkers := by
  induction replaced generalizing c with
  | nil => exact .refl relation.reflexive
  | cons live rest ih =>
      exact (replaceIncarnation_related relation sequence c live).trans relation.transitive (ih _)

theorem replacing_related (c : Coordinator R) (request : RegisterWorkerRequest) :
    OrderedMap.Evolves related c.liveWorkers (c.replacing request).liveWorkers :=
  replaceIncarnations_related relation _ _ c.nextSequence

end Coordinator

end Relation

namespace Coordinator

/-- Replacing revokes the entries it names. -/
theorem replaceIncarnations_revoke (sequence : Nat) (replaced : List LiveWorker)
    (c : Coordinator R) : ∀ live ∈ replaced, ∀ live',
      (replaced.foldl (replaceIncarnation sequence) c).findLiveWorker live.worker live.boot =
        some live' → live'.revoked = true := by
  induction replaced generalizing c with
  | nil => exact fun _ member => (List.not_mem_nil member).elim
  | cons head rest ih =>
      intro live member live' found
      rcases List.mem_cons.mp member with rfl | member
      · have later := replaceIncarnations_related liveKept_relation sequence rest
          (replaceIncarnation sequence c live)
        obtain ⟨middle, held, kept⟩ := later.source found
        refine kept.revoked ?_
        rw [replaceIncarnation, OrderedMap.find?_modify, if_pos rfl] at held
        obtain ⟨old, -, rfl⟩ := Option.map_eq_some_iff.mp held
        rfl
      · exact ih _ live member live' found

theorem replacing_kept (c : Coordinator R) (request : RegisterWorkerRequest) :
    OrderedMap.Evolves LiveKept c.liveWorkers (c.replacing request).liveWorkers :=
  replacing_related liveKept_relation c request

/-- The table is keyed by the incarnations in it. -/
def LiveKeyed (c : Coordinator R) : Prop :=
  ∀ key live, c.liveWorkers.find? key = some live → key = workerKey live.worker live.boot

/-- After the replacement only the registering boot of the worker may be unrevoked. -/
theorem replacing_single {c : Coordinator R} (keyed : c.LiveKeyed)
    {request : RegisterWorkerRequest} {boot : WorkerBootId} {live' : LiveWorker}
    (found : (c.replacing request).findLiveWorker request.worker boot = some live')
    (unrevoked : live'.revoked = false) : boot = request.boot := by
  by_contra different
  obtain ⟨live, before, kept⟩ := (replacing_kept c request).source found
  obtain ⟨worker, same⟩ := workerKey_inj (keyed _ live before)
  have wasUnrevoked : live.revoked = false := kept.unrevoked unrevoked
  have replaced : live ∈ c.nextSequence.replacedBy request.worker request.boot := by
    refine List.mem_filter.mpr ⟨(OrderedMap.mem_values_iff _ live).mpr ⟨_, before⟩, ?_⟩
    simp [← worker, ← same, different, wasUnrevoked]
  have found' : (c.replacing request).findLiveWorker live.worker live.boot = some live' := by
    rw [← worker, ← same]
    exact found
  exact nomatch unrevoked.symm.trans
    (replaceIncarnations_revoke _ _ c.nextSequence live replaced live' found')

/-! ## What a request does to the table -/

theorem claimLoop_liveWorkers (c : Coordinator R) (request : ClaimTrialRequest)
    (live : LiveWorker) : (c.claimLoop request live).coordinator.liveWorkers = c.liveWorkers := by
  let property (reached : ClaimProgress R) : Prop := reached.coordinator.liveWorkers = c.liveWorkers
  have looped : property (c.claimLoop request live) := by
    refine claimLoop_keeps c live ?_ fun _ => rfl
    intro progress experiment key same
    unfold claimTrial
    repeat' split
    all_goals exact same
  exact looped

variable [MetricReal R] [CanonicalDigests R]

/-- A request relates the entries of the table to later ones, or is a registration that adds one. -/
inductive TableChange (related : LiveWorker → LiveWorker → Prop) (c c' : Coordinator R) :
    Request R → Prop where
  | kept {request : Request R}
      (workers : OrderedMap.Evolves related c.liveWorkers c'.liveWorkers) :
      TableChange related c c' request
  | registered {registration : RegisterWorkerRequest}
      (guarded : c.registerWorkerGuard registration = .ok ())
      (unknown : c.findLiveWorker registration.worker registration.boot = none)
      (fresh : (c.replacing registration).registerFreshGuard registration = .ok ())
      (workers : c'.liveWorkers = ((c.replacing registration).addWorker registration).liveWorkers)
      (state : c'.state = ((c.replacing registration).addWorker registration).state)
      (saved : c'.persistenceDegraded = false → c'.config.statePath ≠ [] → c'.image = some c'.state) :
      TableChange related c c' (.registerWorker registration)

/-- A request keeps the incarnations of the table, or is a registration that adds one. -/
inductive LiveChange (c c' : Coordinator R) : Request R → Prop where
  | kept {request : Request R} (workers : OrderedMap.Evolves LiveKept c.liveWorkers c'.liveWorkers) :
      LiveChange c c' request
  | registered {registration : RegisterWorkerRequest}
      (guarded : c.registerWorkerGuard registration = .ok ())
      (unknown : c.findLiveWorker registration.worker registration.boot = none)
      (fresh : (c.replacing registration).registerFreshGuard registration = .ok ())
      (workers : c'.liveWorkers = ((c.replacing registration).addWorker registration).liveWorkers)
      (state : c'.state = ((c.replacing registration).addWorker registration).state)
      (saved : c'.persistenceDegraded = false → c'.config.statePath ≠ [] → c'.image = some c'.state) :
      LiveChange c c' (.registerWorker registration)

omit [MetricReal R] [CanonicalDigests R] in
/-- A save that leaves no degradation has written the state. -/
theorem persistLocked_undegraded (prepared : Coordinator R) (fault : Option SaveFault)
    (undegraded : (prepared.persistLocked fault).1.persistenceDegraded = false)
    (hasPath : (prepared.persistLocked fault).1.config.statePath ≠ []) :
    (prepared.persistLocked fault).1.image = some (prepared.persistLocked fault).1.state := by
  rw [persistLocked_config] at hasPath
  rcases prepared.persistLocked_cases fault true with ⟨-, noPath | impossible⟩ | ⟨failure, same⟩ |
    ⟨same, -⟩
  · exact (hasPath noPath).elim
  · cases impossible
  · rw [same] at undegraded
    cases undegraded
  · rw [same]

omit [MetricReal R] [CanonicalDigests R] in
theorem endWith_id (prepared : Coordinator R) (fault : Option SaveFault)
    (answer : Check Status → Reply R) :
    (prepared.endWith fault id answer).1 = (prepared.persistLocked fault).1 := by
  unfold endWith
  split <;> simp_all

theorem perform_tableChange {related : LiveWorker → LiveWorker → Prop}
    (relation : TableRelation related) (c : Coordinator R) (request : Request R)
    (fault : Option SaveFault) : TableChange related c (c.perform request fault).1 request := by
  cases writes : writesWorkers request with
  | false =>
      refine .kept ?_
      rw [c.perform_liveWorkers request fault writes]
      exact .refl relation.reflexive
  | true =>
      have same : OrderedMap.Evolves related c.liveWorkers c.liveWorkers :=
        .refl relation.reflexive
      have claims : ∀ claim live, OrderedMap.Evolves related c.liveWorkers
          (c.claiming claim live).liveWorkers := by
        intro claim live
        rw [claiming, countAssignments, claimLoop_liveWorkers]
        dsimp only
        apply relation.modify
        exact fun entry => relation.loaded entry _ _
      have ending := c.perform_ending fault request
      generalize c.perform request fault = result at ending ⊢
      cases ending with
      | @saving _ prepared undo answer saves =>
          cases saves with
          | register guarded unknown fresh =>
              refine .registered guarded unknown fresh ?_ ?_ ?_
              · rw [endWith_id, persistLocked_liveWorkers]
              · rw [endWith_id, persistLocked_state]
              · rw [endWith_id]
                exact persistLocked_undegraded _ fault
          | revoke known =>
              refine .kept ?_
              rw [endWith_id, persistLocked_liveWorkers, revoking]
              dsimp only [nextSequence]
              apply relation.modify
              exact fun entry => relation.revoked entry _
          | claim guarded issued =>
              refine .kept ?_
              rw [endWith_id, persistLocked_liveWorkers]
              exact claims _ _
          | _ => cases writes
      | replaced guarded unknown refused => exact .kept (replacing_related relation c _)
      | heartbeat =>
          refine .kept ?_
          unfold reporting
          dsimp only
          apply relation.modify
          exact fun entry => relation.loaded entry _ entry.totalAssignments
      | idle guarded none => exact .kept (claims _ _)
      | refused failed => exact .kept same
      | counted failed => exact .kept same
      | registered guarded known unrevoked => exact .kept same
      | _ => cases writes

theorem perform_liveChange (c : Coordinator R) (request : Request R) (fault : Option SaveFault) :
    LiveChange c (c.perform request fault).1 request := by
  cases c.perform_tableChange liveKept_relation request fault with
  | kept workers => exact .kept workers
  | registered guarded unknown fresh workers state saved =>
      exact .registered guarded unknown fresh workers state saved

end Coordinator

end ExperimentFabric
