import ExperimentFabric.Session
import ExperimentFabric.Soundness

/-!
# Coordinator epochs

Every start mints an epoch above the high-water mark of the file and keeps it in memory; the file
learns of it only with the next save.  Epochs increase from one lifetime to the next as long as every
lifetime saves before it ends and the high-water mark stays below the last 64-bit value.
-/

namespace ExperimentFabric

open Lib

variable {R : Type}

namespace Coordinator

/-! ## The epoch of a start -/

/-- Reconciliation keeps the epoch of the process. -/
theorem stageAll_epoch (outcomes : WriteOutcomes) (remaining : List ExperimentId) (writes : Nat)
    (c : Coordinator R) : (stageAll outcomes writes c remaining).1.epoch = c.epoch := by
  induction remaining generalizing writes c with
  | nil => rfl
  | cons id rest ih =>
      unfold stageAll
      split
      · exact ih writes c
      · rename_i record found
        split
        · have saved : ((c.stageExperiment id record).persistLocked (outcomes writes)).1.epoch =
              c.epoch := persistLocked_epoch ..
          split
          · rename_i later failure persisted
            rwa [persisted] at saved
          · rename_i later persisted
            rw [persisted] at saved
            exact (ih (writes + 1) later).trans saved
        · exact ih writes _

theorem reconcileRecoveredState_epoch (outcomes : WriteOutcomes) (c : Coordinator R) :
    (c.reconcileRecoveredState outcomes).1.epoch = c.epoch := by
  have staged := stageAll_epoch outcomes c.state.experiments.keys 0 c
  unfold reconcileRecoveredState
  split
  · rename_i later failure ended
    rwa [ended] at staged
  · rename_i later writes ended
    rw [ended] at staged
    split
    · exact (persistLocked_epoch ..).trans staged
    · exact staged

/-- A start mints the epoch above the mark of the state it starts from; the file it leaves is the one
it found, or holds the minted epoch. -/
theorem create_minted [MetricReal R] (config : Config) (image : Option (CoordinatorState R))
    (outcomes : WriteOutcomes) :
    ((create config image outcomes).1 = image ∨ ∃ state,
      (create config image outcomes).1 = some state ∧
        state.lastEpoch = mintEpoch (origin config image).lastEpoch config.epochSeed) ∧
    ∀ c, (create config image outcomes).2 = .ok c →
      c.epoch.value = mintEpoch (origin config image).lastEpoch config.epochSeed := by
  have blind : Blind fun state : CoordinatorState R =>
      state.lastEpoch = mintEpoch (origin config image).lastEpoch config.epochSeed :=
    fun _ _ _ mark => mark
  refine ⟨(create_upheld blind config outcomes rfl).1, ?_⟩
  intro c
  unfold create
  split
  · exact fun impossible => nomatch impossible
  · split
    · exact fun impossible => nomatch impossible
    · rename_i loaded succeeded
      obtain rfl := loadState_eq_ok succeeded
      have same := reconcileRecoveredState_epoch outcomes
        (boot config image (origin config image))
      split
      · exact fun impossible => nomatch impossible
      · rename_i ended reconciled
        rintro ⟨⟩
        rw [reconciled] at same
        exact congrArg StrongId.value same

/-- Below the last 64-bit value, minting goes strictly up. -/
theorem lt_mintEpoch {mark : Nat} (below : mark + 1 < 2 ^ 64) (seed : Nat) :
    mark < mintEpoch mark seed := by
  unfold mintEpoch
  dsimp only
  rw [Nat.mod_eq_of_lt below]
  split
  · rename_i seeded
    rw [if_neg (by omega)]
    omega
  · rw [if_neg (by omega)]
    omega

end Coordinator

/-! ## Lifetimes on one state path -/

/-- A lifetime ends only after its epoch was saved, and a start finds a high-water mark that can
still be raised. -/
def KeepsEpoch : World R → Event R → Prop
  | .running c, .stop => ∃ state, c.image = some state ∧ state.lastEpoch = c.epoch.value
  | .down image, .start _ _ => ∀ state, image = some state → state.lastEpoch + 1 < 2 ^ 64
  | _, _ => True

/-- Every epoch up to the given one is behind the world. -/
def World.Past (epoch : Nat) : World R → Prop
  | .running c => epoch ≤ c.epoch.value
  | .down image => ∃ state, image = some state ∧ epoch ≤ state.lastEpoch

section World

variable [MetricReal R] [CanonicalDigests R] {path : Text}

omit [CanonicalDigests R] in
/-- A start from a file that holds an epoch mints a later one. -/
theorem World.Past.start {epoch : Nat} {image left : Option (CoordinatorState R)} {config : Config}
    {outcomes : WriteOutcomes} {c : Coordinator R} (past : (World.down image).Past epoch)
    (hasPath : config.statePath ≠ []) (kept : KeepsEpoch (World.down image) (.start config outcomes))
    (started : Coordinator.create config image outcomes = (left, .ok c)) :
    epoch < c.epoch.value := by
  obtain ⟨state, rfl, behind⟩ := past
  have minted := (Coordinator.create_minted config (some state) outcomes).2 c (by rw [started])
  have origin : Coordinator.origin config (some state) = state := by
    rw [Coordinator.origin, if_neg hasPath]
    rfl
  rw [minted, origin]
  exact behind.trans_lt (Coordinator.lt_mintEpoch (kept state rfl) config.epochSeed)

theorem World.Step.past {epoch : Nat} {source target : World R} {event : Event R}
    (hasPath : path ≠ []) (kept : KeepsEpoch source event)
    (step : World.Step path source event target) (past : source.Past epoch) :
    target.Past epoch := by
  cases step with
  | request c request fault =>
      have same := (c.perform_operated request fault).epoch
      exact le_of_le_of_eq past (congrArg StrongId.value same.symm)
  | stop c =>
      obtain ⟨state, held, saved⟩ := kept
      exact ⟨state, held, saved ▸ past⟩
  | start samePath started => exact (past.start (samePath ▸ hasPath) kept started).le
  | @failedStart config image left outcomes failure samePath refused =>
      obtain ⟨state, rfl, behind⟩ := past
      have origin : Coordinator.origin config (some state) = state := by
        rw [Coordinator.origin, if_neg (samePath ▸ hasPath)]
        rfl
      have file := (Coordinator.create_minted config (some state) outcomes).1
      rw [refused, origin] at file
      rcases file with same | ⟨written, held, mark⟩
      · exact ⟨state, same, behind⟩
      · refine ⟨written, held, ?_⟩
        rw [mark]
        exact (behind.trans_lt (Coordinator.lt_mintEpoch (kept state rfl) config.epochSeed)).le

/-- The epochs of the lifetimes of a run that starts from an empty state path, in order; every step
of the run meets the condition. -/
inductive Lifetimes (condition : World R → Event R → Prop) (path : Text) :
    World R → List Nat → Prop where
  | empty : Lifetimes condition path (.down none) []
  | start {image : Option (CoordinatorState R)} {config : Config} {outcomes : WriteOutcomes}
      {c : Coordinator R} {epochs : List Nat} (earlier : Lifetimes condition path (.down image) epochs)
      (meets : condition (.down image) (.start config outcomes))
      (step : World.Step path (.down image) (.start config outcomes) (.running c)) :
      Lifetimes condition path (.running c) (epochs ++ [c.epoch.value])
  | request {c : Coordinator R} {request : Request R} {fault : Option SaveFault}
      {epochs : List Nat} (earlier : Lifetimes condition path (.running c) epochs)
      (meets : condition (.running c) (.request request fault)) :
      Lifetimes condition path (.running (c.perform request fault).1) epochs
  | stop {c : Coordinator R} {epochs : List Nat}
      (earlier : Lifetimes condition path (.running c) epochs)
      (meets : condition (.running c) .stop) : Lifetimes condition path (.down c.image) epochs
  | failedStart {image left : Option (CoordinatorState R)} {config : Config}
      {outcomes : WriteOutcomes} {epochs : List Nat}
      (earlier : Lifetimes condition path (.down image) epochs)
      (meets : condition (.down image) (.start config outcomes))
      (step : World.Step path (.down image) (.start config outcomes) (.down left)) :
      Lifetimes condition path (.down left) epochs

/-- The epochs of the lifetimes on one state path increase strictly, when every lifetime saves before
it ends and no start finds the mark at its last value. -/
theorem epochs_increase {path : Text} (hasPath : path ≠ []) {world : World R} {epochs : List Nat}
    (lifetimes : Lifetimes KeepsEpoch path world epochs) : epochs.Pairwise (· < ·) := by
  have both : epochs.Pairwise (· < ·) ∧ ∀ epoch ∈ epochs, world.Past epoch := by
    induction lifetimes with
    | empty => exact ⟨.nil, fun _ member => by cases member⟩
    | start earlier meets step ih =>
        obtain ⟨increasing, past⟩ := ih
        cases step with
        | start samePath started =>
            have later : ∀ epoch ∈ _, epoch < _ := fun epoch member =>
              (past epoch member).start (samePath ▸ hasPath) meets started
            refine ⟨List.pairwise_append.mpr ⟨increasing, List.pairwise_singleton _ _, ?_⟩, ?_⟩
            · intro epoch member other here
              rw [List.mem_singleton.mp here]
              exact later epoch member
            · intro epoch member
              rcases List.mem_append.mp member with earlier | here
              · exact (later epoch earlier).le
              · rw [List.mem_singleton.mp here]
                exact le_refl _
    | @request c request fault epochs earlier meets ih =>
        exact ⟨ih.1, fun epoch member =>
          World.Step.past hasPath meets (.request c request fault) (ih.2 epoch member)⟩
    | @stop c epochs earlier meets ih =>
        exact ⟨ih.1, fun epoch member =>
          World.Step.past hasPath meets (.stop c) (ih.2 epoch member)⟩
    | failedStart earlier meets step ih =>
        exact ⟨ih.1, fun epoch member => step.past hasPath meets (ih.2 epoch member)⟩
  exact both.1

end World

/-- The sample coordinator after its first save. -/
def Sample.saved : Coordinator ℚ := (Sample.coordinator.perform .save none).1

/-- Two lifetimes of the sample, the first of which saves. -/
theorem epochs_increase_sample : ∃ left c,
    Coordinator.create Sample.config Sample.saved.image (fun _ => none) = (left, .ok c) ∧
      ([] ++ [Sample.coordinator.epoch.value] ++ [c.epoch.value]).Pairwise (· < ·) := by
  have succeeds : (Coordinator.create Sample.config Sample.saved.image
      (fun _ => none)).2.isOk = true := by decide +kernel
  cases result : Coordinator.create Sample.config Sample.saved.image (fun _ => none) with
  | mk left outcome =>
      cases outcome with
      | error failure => simp [result, Except.isOk, Except.toBool] at succeeds
      | ok c =>
          have first : Lifetimes KeepsEpoch Sample.config.statePath
              (World.running Sample.coordinator) ([] ++ [Sample.coordinator.epoch.value]) :=
            .start .empty (fun _ held => by cases held) (.start rfl Sample.coordinator_started)
          have saved : Lifetimes KeepsEpoch Sample.config.statePath (World.running Sample.saved)
              ([] ++ [Sample.coordinator.epoch.value]) := .request first trivial
          have ended : Lifetimes KeepsEpoch Sample.config.statePath
              (World.down Sample.saved.image) ([] ++ [Sample.coordinator.epoch.value]) :=
            .stop saved ⟨Sample.saved.state, rfl, rfl⟩
          have mark : KeepsEpoch (World.down Sample.saved.image)
              (.start Sample.config fun _ => none) := by
            rintro _ ⟨⟩
            decide
          exact ⟨left, c, rfl, epochs_increase (by decide)
            (.start ended mark (.start rfl result))⟩

/-- A lifetime that ends before anything is saved hands its epoch to the next one. -/
theorem epoch_reissued : ∃ epochs, Lifetimes (fun _ _ => True) Sample.config.statePath
    (World.running Sample.coordinator) epochs ∧ ¬ epochs.Pairwise (· < ·) := by
  have first : Lifetimes (fun _ _ => True) Sample.config.statePath
      (World.running Sample.coordinator) ([] ++ [1]) :=
    .start .empty trivial (.start rfl Sample.coordinator_started)
  have ended : Lifetimes (fun _ _ => True) Sample.config.statePath
      (World.down (none : Option (CoordinatorState ℚ))) ([] ++ [1]) := .stop first trivial
  refine ⟨[] ++ [1] ++ [1], .start ended trivial (.start rfl Sample.coordinator_started), ?_⟩
  decide

end ExperimentFabric
