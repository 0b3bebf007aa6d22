import ExperimentFabric.Governance
import ExperimentFabric.RefusedEvidence
import ExperimentFabric.Registrations

/-!
# Refused registrations

A registration revokes the other incarnations of its worker before the checks that can still refuse
it.  The replacement does not change what those checks read, so a refused registration is harmless
exactly when they refuse it and there was nothing to replace.
-/

namespace ExperimentFabric

open Lib

variable {R : Type}

/-! ## Checks after the replacement -/

namespace Coordinator

variable {c : Coordinator R} {request : RegisterWorkerRequest}

/-- Replacing another boot of the worker changes nothing that the checks of a new boot read. -/
theorem replaceIncarnation_freshGuard (sequence : Nat) (c : Coordinator R) {live : LiveWorker}
    (other : live.boot ≠ request.boot) :
    (replaceIncarnation sequence c live).registerFreshGuard request =
      c.registerFreshGuard request := by
  unfold registerFreshGuard replaceIncarnation
  dsimp only
  rw [forEach_map, List.length_map]
  congr 2
  funext incarnation
  unfold revokeIncarnation
  split
  · rename_i revoked
    simp only [Bool.and_eq_true, decide_eq_true_eq] at revoked
    have apart : incarnation.boot ≠ request.boot := revoked.1.2 ▸ other
    simp [apart]
  · rfl

theorem replaceIncarnations_freshGuard (sequence : Nat) (replaced : List LiveWorker)
    (c : Coordinator R) (others : ∀ live ∈ replaced, live.boot ≠ request.boot) :
    (replaced.foldl (replaceIncarnation sequence) c).registerFreshGuard request =
      c.registerFreshGuard request := by
  induction replaced generalizing c with
  | nil => rfl
  | cons live rest ih =>
      rw [List.foldl_cons, ih _ fun other member => others other (List.mem_cons_of_mem live member)]
      exact replaceIncarnation_freshGuard sequence c (others live List.mem_cons_self)

/-- The checks judge a registration after the replacement as they do before it. -/
theorem replacing_freshGuard (c : Coordinator R) (request : RegisterWorkerRequest) :
    (c.replacing request).registerFreshGuard request = c.registerFreshGuard request := by
  have others : ∀ live ∈ c.nextSequence.replacedBy request.worker request.boot,
      live.boot ≠ request.boot := by
    intro live member
    have chosen := (List.mem_filter.mp member).2
    simp only [Bool.and_eq_true, decide_eq_true_eq] at chosen
    exact chosen.1.2
  exact replaceIncarnations_freshGuard _ _ c.nextSequence others

/-- At most one incarnation is replaced. -/
theorem replacedBy_single (single : c.SingleLive) (worker : WorkerId) (boot : WorkerBootId) :
    (c.replacedBy worker boot).length ≤ 1 := by
  have keys : c.liveWorkers.values.map (fun live => workerKey live.worker live.boot) =
      c.liveWorkers.keys := by
    unfold OrderedMap.values OrderedMap.keys
    rw [List.map_map]
    refine List.map_congr_left fun entry member => ?_
    exact (single.keyed entry.1 entry.2 ((OrderedMap.mem_entries_iff ..).mp member)).symm
  have keysDistinct : (c.liveWorkers.values.map fun live =>
      workerKey live.worker live.boot).Nodup := keys ▸ c.liveWorkers.keys_nodup
  have distinct : (c.replacedBy worker boot).Nodup := keysDistinct.of_map.filter _
  have found : ∀ live ∈ c.replacedBy worker boot, c.findLiveWorker worker live.boot = some live ∧
      live.revoked = false := by
    intro live member
    obtain ⟨listed, chosen⟩ := List.mem_filter.mp member
    simp only [Bool.and_eq_true, decide_eq_true_eq, Bool.not_eq_true'] at chosen
    obtain ⟨key, held⟩ := (OrderedMap.mem_values_iff ..).mp listed
    rw [single.keyed key live held, chosen.1.1] at held
    exact ⟨held, chosen.2⟩
  cases replaced : c.replacedBy worker boot with
  | nil => exact Nat.zero_le 1
  | cons first rest =>
      cases rest with
      | nil => exact le_rfl
      | cons second later =>
          rw [replaced] at distinct found
          obtain ⟨foundFirst, unrevoked⟩ := found first List.mem_cons_self
          obtain ⟨foundSecond, unrevoked'⟩ :=
            found second (List.mem_cons_of_mem _ List.mem_cons_self)
          have boots := single.single worker first.boot second.boot first second foundFirst
            foundSecond unrevoked unrevoked'
          rw [boots] at foundFirst
          have same : first = second := Option.some.inj (foundFirst.symm.trans foundSecond)
          have apart := (List.nodup_cons.mp distinct).1
          exact absurd (same ▸ List.mem_cons_self) apart

end Coordinator

/-! ## Records of a registration -/

theorem loseWorker_recordCount (record : ExperimentRecord R) (worker : WorkerId)
    (boot : WorkerBootId) (kind : FailureKind) (attemptDetail trialDetail : Text) (sequence : Nat)
    (line : Text) :
    (record.loseWorker worker boot kind attemptDetail trialDetail sequence line).recordCount =
      record.recordCount +
        if (record.liveAttemptsOf worker boot).isEmpty then 0 else record.logGrowth := by
  have lost : ∀ (entries : List (TrialAttemptId × AttemptRecord)) (other : ExperimentRecord R),
      (entries.foldl (ExperimentRecord.loseAttempt kind attemptDetail trialDetail sequence)
        other).recordCount = other.recordCount ∧
      (entries.foldl (ExperimentRecord.loseAttempt kind attemptDetail trialDetail sequence)
        other).logGrowth = other.logGrowth := by
    intro entries
    induction entries with
    | nil => exact fun other => ⟨rfl, rfl⟩
    | cons entry rest ih =>
        intro other
        obtain ⟨count, growth⟩ :=
          ih (ExperimentRecord.loseAttempt kind attemptDetail trialDetail sequence other entry)
        refine ⟨count.trans ?_, growth⟩
        unfold ExperimentRecord.recordCount ExperimentRecord.loseAttempt
        simp only [OrderedMap.size_modify]
  obtain ⟨count, growth⟩ := lost (record.liveAttemptsOf worker boot) record
  unfold ExperimentRecord.loseWorker
  dsimp only
  split
  · exact count
  · rw [log_recordCount, count, growth]

namespace Coordinator

variable {c : Coordinator R} {request : RegisterWorkerRequest}

/-- Lifecycle lines that the replacement of an incarnation adds. -/
def lostLines (c : Coordinator R) (live : LiveWorker) : Nat :=
  (c.state.experiments.values.map fun record =>
    if (record.liveAttemptsOf live.worker live.boot).isEmpty then 0 else record.logGrowth).sum

/-- Lifecycle lines that the replacement of the other incarnations of a worker adds. -/
def replacedLines (c : Coordinator R) (request : RegisterWorkerRequest) : Nat :=
  ((c.replacedBy request.worker request.boot).map c.lostLines).sum

theorem replaceIncarnation_count (sequence : Nat) (c : Coordinator R) (live : LiveWorker) :
    (replaceIncarnation sequence c live).state.totalRecordCount =
      c.state.totalRecordCount + c.lostLines live := by
  unfold CoordinatorState.totalRecordCount lostLines replaceIncarnation
  dsimp only
  rw [List.length_map, OrderedMap.values_mapValues, List.map_map, Nat.add_assoc,
    ← List.sum_map_add]
  congr 2
  refine List.map_congr_left fun record _ => ?_
  exact loseWorker_recordCount ..

theorem replacing_count (single : c.SingleLive) (request : RegisterWorkerRequest) :
    (c.replacing request).state.totalRecordCount =
      c.state.totalRecordCount + c.replacedLines request := by
  have few := replacedBy_single single request.worker request.boot
  have same : c.nextSequence.replacedBy request.worker request.boot =
      c.replacedBy request.worker request.boot := rfl
  unfold replacing replacedLines
  rw [same]
  match replaced : c.replacedBy request.worker request.boot with
  | [] => rfl
  | [live] =>
      rw [List.foldl_cons, List.foldl_nil, replaceIncarnation_count, List.map_singleton,
        List.sum_singleton]
      rfl
  | _ :: _ :: _ =>
      rw [replaced] at few
      simp at few

theorem replaceIncarnations_format (sequence : Nat) (replaced : List LiveWorker)
    (c : Coordinator R) :
    (replaced.foldl (replaceIncarnation sequence) c).state.formatVersion =
      c.state.formatVersion := by
  induction replaced generalizing c with
  | nil => rfl
  | cons live rest ih => exact ih (replaceIncarnation sequence c live)

/-- A registration can be saved when the state has room for the incarnation and for the lines of
those it replaces. -/
theorem addWorker_savable (single : c.SingleLive) (request : RegisterWorkerRequest) :
    ((c.replacing request).addWorker request).Savable none ↔
      c.Fits (1 + c.replacedLines request) := by
  have count := replacing_count single request
  have process := replaceIncarnations_sameProcess c.nextSequence.currentSequence
    (c.nextSequence.replacedBy request.worker request.boot) c.nextSequence
  have added : ((c.replacing request).addWorker request).state.totalRecordCount =
      (c.replacing request).state.totalRecordCount + 1 := by
    unfold CoordinatorState.totalRecordCount addWorker
    simp only [List.length_append, List.length_singleton]
    exact Nat.add_right_comm ..
  have total : ((c.replacing request).addWorker request).state.totalRecordCount =
      c.state.totalRecordCount + (1 + c.replacedLines request) := by omega
  have config : ((c.replacing request).addWorker request).config = c.config := process.config
  have format : ((c.replacing request).addWorker request).state.formatVersion =
      c.state.formatVersion := replaceIncarnations_format _ _ c.nextSequence
  unfold Savable Fits limits
  rw [config, format, total]
  simp

end Coordinator

/-! ## Refusals -/

/-- The live table, the worker records, and the trials and attempts of every experiment are as
before. -/
structure Coordinator.SameRegistry (c c' : Coordinator R) : Prop where
  live : c'.liveWorkers = c.liveWorkers
  workers : c'.state.workers = c.state.workers
  trials : ∀ experiment, (c'.findExperiment experiment).map ExperimentRecord.trials =
    (c.findExperiment experiment).map ExperimentRecord.trials
  attempts : ∀ experiment, (c'.findExperiment experiment).map ExperimentRecord.attempts =
    (c.findExperiment experiment).map ExperimentRecord.attempts

/-- A new boot replaces nothing that it would be refused after, and is not refused for the size of
the state. -/
def Coordinator.HarmlessBoot (c : Coordinator R) (request : RegisterWorkerRequest) : Prop :=
  c.registerFreshGuard request ≠ .ok () ∧ c.replacedBy request.worker request.boot = [] ∨
    c.registerFreshGuard request = .ok () ∧ c.Fits (1 + c.replacedLines request)

section Registration

variable {c : Coordinator R} {request : RegisterWorkerRequest}

/-- Without another incarnation the replacement changes nothing. -/
theorem replacing_nothing (none : c.replacedBy request.worker request.boot = []) :
    c.SameRegistry (c.replacing request) := by
  have same : c.nextSequence.replacedBy request.worker request.boot = [] := none
  unfold Coordinator.replacing
  rw [same]
  exact ⟨rfl, rfl, fun _ => rfl, fun _ => rfl⟩

/-- Another incarnation is revoked in the live table. -/
theorem replacing_changes (keyed : c.LiveKeyed)
    (some : c.replacedBy request.worker request.boot ≠ []) :
    ¬ c.SameRegistry (c.replacing request) := by
  intro same
  obtain ⟨live, member⟩ := List.exists_mem_of_ne_nil _ some
  obtain ⟨listed, chosen⟩ := List.mem_filter.mp member
  simp only [Bool.and_eq_true, decide_eq_true_eq, Bool.not_eq_true'] at chosen
  obtain ⟨key, held⟩ := (OrderedMap.mem_values_iff ..).mp listed
  rw [keyed key live held] at held
  have found : (c.replacing request).findLiveWorker live.worker live.boot = .some live := by
    rw [Coordinator.findLiveWorker, same.live]
    exact held
  have revoked := Coordinator.replaceIncarnations_revoke c.nextSequence.currentSequence
    (c.nextSequence.replacedBy request.worker request.boot) c.nextSequence live member live found
  cases chosen.2.symm.trans revoked

/-- A new incarnation is in the live table, whether or not it could be saved. -/
theorem addWorker_changes (unknown : c.findLiveWorker request.worker request.boot = none)
    (fault : Option SaveFault) :
    ¬ c.SameRegistry (((c.replacing request).addWorker request).persistLocked fault).1 := by
  intro same
  have live : ((c.replacing request).addWorker request).liveWorkers = c.liveWorkers := by
    rw [← same.live, Coordinator.persistLocked_liveWorkers]
  have absent : ((c.replacing request).addWorker request).liveWorkers.find?
      (workerKey request.worker request.boot) = none := by
    rw [live]
    exact unknown
  rw [Coordinator.addWorker, OrderedMap.find?_emplace, if_pos rfl] at absent
  cases absent

/-- A registration that the checks of a new boot refuse leaves the replacement. -/
theorem registerWorker_refused (guarded : c.registerWorkerGuard request = .ok ())
    (unknown : c.findLiveWorker request.worker request.boot = none)
    (refused : c.registerFreshGuard request ≠ .ok ()) (fault : Option SaveFault) :
    (c.registerWorker request fault).2.accepted = false ∧
      (c.registerWorker request fault).1 = c.replacing request := by
  unfold Coordinator.registerWorker
  rw [guarded, unknown]
  dsimp only
  split
  · exact ⟨rfl, rfl⟩
  · rename_i accepted
    rw [← Coordinator.replacing_freshGuard] at refused
    exact absurd accepted refused

/-- A registration that nothing refuses is accepted when it can be saved. -/
theorem registerWorker_accepted (guarded : c.registerWorkerGuard request = .ok ())
    (unknown : c.findLiveWorker request.worker request.boot = none)
    (fresh : c.registerFreshGuard request = .ok ()) (fault : Option SaveFault) :
    ((c.registerWorker request fault).2.accepted = true ↔
      ((c.replacing request).addWorker request).Savable fault) ∧
      (c.registerWorker request fault).1 =
        (((c.replacing request).addWorker request).persistLocked fault).1 := by
  have answers := Coordinator.settle_ok_iff ((c.replacing request).addWorker request) fault id ()
  have left := Coordinator.settle_id_fst ((c.replacing request).addWorker request) fault ()
  rw [← answers, ← left]
  unfold Coordinator.registerWorker
  rw [guarded, unknown]
  dsimp only
  split
  · rename_i failure refused
    rw [← Coordinator.replacing_freshGuard] at fresh
    exact nomatch fresh.symm.trans refused
  · change (_ ↔ (((c.replacing request).addWorker request).settle fault id ()).2 = .ok ()) ∧ _
    split
    · rename_i later failure settled
      have settled : ((c.replacing request).addWorker request).settle fault id () =
        (later, .error failure) := settled
      rw [settled]
      simp
    · rename_i later settled
      have settled : ((c.replacing request).addWorker request).settle fault id () =
        (later, .ok ()) := settled
      rw [settled]
      simp

end Registration

/-- In every reachable state, a registration that is refused although no storage write fails changes
nothing exactly when its first checks refuse it, its boot is in the live table, or it is a harmless
boot. -/
theorem refused_registration_iff [MetricReal R] [CanonicalDigests R] {c : Coordinator R}
    {path : Text} (reachable : (World.running c).Reachable path)
    (request : RegisterWorkerRequest) :
    ((c.registerWorker request none).2.accepted = false →
      c.SameRegistry (c.registerWorker request none).1) ↔
      (c.registerWorkerGuard request = .ok () →
        c.findLiveWorker request.worker request.boot = none → c.HarmlessBoot request) := by
  have single := reachable.singleLive
  have savable := Coordinator.addWorker_savable single request
  constructor
  · intro unchanged guarded unknown
    by_cases fresh : c.registerFreshGuard request = .ok ()
    · obtain ⟨accepted, left⟩ := registerWorker_accepted guarded unknown fresh none
      refine .inr ⟨fresh, ?_⟩
      rw [← savable, ← accepted]
      cases answer : (c.registerWorker request none).2.accepted with
      | true => rfl
      | false => exact absurd (left ▸ unchanged answer) (addWorker_changes unknown none)
    · obtain ⟨refused, left⟩ := registerWorker_refused guarded unknown fresh none
      refine .inl ⟨fresh, ?_⟩
      by_contra some
      exact replacing_changes single.keyed some (left ▸ unchanged refused)
  · intro harmless refused
    have untouched : c.SameRegistry c := ⟨rfl, rfl, fun _ => rfl, fun _ => rfl⟩
    cases guarded : c.registerWorkerGuard request with
    | error failure =>
        rw [Coordinator.registerWorker, guarded]
        exact untouched
    | ok done =>
        cases known : c.findLiveWorker request.worker request.boot with
        | some live =>
            rw [Coordinator.registerWorker, guarded, known]
            dsimp only
            split
            · exact untouched
            · exact untouched
        | none =>
            rcases harmless guarded known with ⟨stale, nothing⟩ | ⟨fresh, fits⟩
            · rw [(registerWorker_refused guarded known stale none).2]
              exact replacing_nothing nothing
            · have accepted := (registerWorker_accepted guarded known fresh none).1
              exact nomatch (accepted.mpr (savable.mpr fits)).symm.trans refused

namespace Sample

/-- A worker runs a trial where one incarnation may be registered. -/
def lone : Coordinator ℚ := (limited { maxRegisteredWorkers := 1 }).session claiming

/-- The worker registers again under a fresh boot. -/
def freshBoot : RegisterWorkerRequest := { worker, boot := ⟨2⟩ }

theorem lone_reachable : (World.running lone).Reachable (text "state") :=
  limited_reachable (by decide) _

end Sample

/-- The fresh boot of the sample worker has no room for its record. -/
theorem refused_registration_sample :
    ((Sample.lone.registerWorker Sample.freshBoot none).2.accepted = false →
      Sample.lone.SameRegistry (Sample.lone.registerWorker Sample.freshBoot none).1) ↔
      (Sample.lone.registerWorkerGuard Sample.freshBoot = .ok () →
        Sample.lone.findLiveWorker Sample.freshBoot.worker Sample.freshBoot.boot = none →
          Sample.lone.HarmlessBoot Sample.freshBoot) :=
  refused_registration_iff Sample.lone_reachable Sample.freshBoot

/-- A refused registration revokes the running incarnation of its worker. -/
theorem refused_registration_changes :
    (World.running Sample.lone).Reachable (text "state") ∧
    (Sample.lone.registerWorker Sample.freshBoot none).2.accepted = false ∧
    ¬ Sample.lone.SameRegistry (Sample.lone.registerWorker Sample.freshBoot none).1 := by
  have before : (Sample.lone.findLiveWorker Sample.worker Sample.boot).map LiveWorker.revoked =
      some false := by
    decide +kernel
  have after : ((Sample.lone.registerWorker Sample.freshBoot none).1.findLiveWorker Sample.worker
      Sample.boot).map LiveWorker.revoked = some true := by
    decide +kernel
  refine ⟨Sample.lone_reachable, by decide +kernel, fun same => ?_⟩
  rw [Coordinator.findLiveWorker, same.live] at after
  cases before.symm.trans after

end ExperimentFabric
