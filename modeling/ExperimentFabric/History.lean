import ExperimentFabric.Lifecycle

/-!
# What the runtime never rewrites

Every move of a record keeps its trials and attempts, their identities, and everything about the
terminal ones; the lists of evidence and decisions only grow.
-/

namespace ExperimentFabric

open Lib Relation

variable {R : Type}

/-! ## Trials and attempts -/

/-- The part of a trial that is written when it is created. -/
def TrialRecord.fixed (trial : TrialRecord) : TrialRecord :=
  { trial with
    state := .created
    authoritativeAttempt := .null
    nextAttemptNumber := .null
    attemptCount := 0
    committedAttempts := 0
    failureKind := .none
    failureDetail := []
    artifacts := []
    updatedSequence := 0 }

/-- The part of an attempt that is written when it is issued. -/
def AttemptRecord.fixed (attempt : AttemptRecord) : AttemptRecord :=
  { attempt with
    state := .issued
    failureKind := .none
    failureDetail := []
    committed := false
    updatedSequence := 0 }

/-- A trial before and after: a terminal trial keeps its outcome. -/
structure TrialKept (trial trial' : TrialRecord) : Prop where
  fixed : trial'.fixed = trial.fixed
  state : isTerminal trial.state = true → trial'.state = trial.state
  authoritative : isTerminal trial.state = true →
    trial'.authoritativeAttempt = trial.authoritativeAttempt
  attemptCount : isTerminal trial.state = true → trial'.attemptCount = trial.attemptCount
  committedAttempts : isTerminal trial.state = true →
    trial'.committedAttempts = trial.committedAttempts

/-- An attempt before and after: a terminal attempt is left alone. -/
structure AttemptKept (attempt attempt' : AttemptRecord) : Prop where
  fixed : attempt'.fixed = attempt.fixed
  frozen : isAttemptTerminal attempt.state = true → attempt' = attempt

theorem TrialKept.refl (trial : TrialRecord) : TrialKept trial trial :=
  ⟨rfl, fun _ => rfl, fun _ => rfl, fun _ => rfl, fun _ => rfl⟩

theorem TrialKept.trans (first second third : TrialRecord) (earlier : TrialKept first second)
    (later : TrialKept second third) : TrialKept first third := by
  have closed : isTerminal first.state = true → isTerminal second.state = true :=
    fun terminal => by rw [earlier.state terminal, terminal]
  exact ⟨later.fixed.trans earlier.fixed,
    fun terminal => (later.state (closed terminal)).trans (earlier.state terminal),
    fun terminal => (later.authoritative (closed terminal)).trans (earlier.authoritative terminal),
    fun terminal => (later.attemptCount (closed terminal)).trans (earlier.attemptCount terminal),
    fun terminal => (later.committedAttempts (closed terminal)).trans
      (earlier.committedAttempts terminal)⟩

theorem AttemptKept.refl (attempt : AttemptRecord) : AttemptKept attempt attempt :=
  ⟨rfl, fun _ => rfl⟩

theorem AttemptKept.trans (first second third : AttemptRecord) (earlier : AttemptKept first second)
    (later : AttemptKept second third) : AttemptKept first third :=
  ⟨later.fixed.trans earlier.fixed, fun terminal => by
    have same := earlier.frozen terminal
    exact (later.frozen (same ▸ terminal)).trans same⟩

/-- A change of an open trial keeps its outcome vacuously. -/
theorem TrialKept.ofOpen {trial trial' : TrialRecord} (fixed : trial'.fixed = trial.fixed)
    (isOpen : isTerminal trial.state = false) : TrialKept trial trial' := by
  have never : ¬ isTerminal trial.state = true := by simp [isOpen]
  exact ⟨fixed, fun closed => (never closed).elim, fun closed => (never closed).elim,
    fun closed => (never closed).elim, fun closed => (never closed).elim⟩

/-- A change of an open attempt is no rewrite. -/
theorem AttemptKept.ofOpen {attempt attempt' : AttemptRecord}
    (fixed : attempt'.fixed = attempt.fixed) (isOpen : isAttemptTerminal attempt.state = false) :
    AttemptKept attempt attempt' :=
  ⟨fixed, fun closed => by simp [isOpen] at closed⟩

/-! ## Records -/

/-- The lists of a record only grow. -/
structure EvidenceKept (old new : ExperimentRecord R) : Prop where
  observations : old.observations <+: new.observations
  artifacts : old.artifacts <+: new.artifacts
  decisions : old.decisions <+: new.decisions
  rollbackPoints : old.rollbackPoints <+: new.rollbackPoints
  hypothesisHistory : old.hypothesisHistory <+: new.hypothesisHistory
  rejectedEvidence : old.rejectedEvidence <+: new.rejectedEvidence

theorem EvidenceKept.refl (record : ExperimentRecord R) : EvidenceKept record record := by
  constructor <;> exact List.prefix_rfl

theorem EvidenceKept.ofEq {old new : ExperimentRecord R}
    (observations : new.observations = old.observations)
    (artifacts : new.artifacts = old.artifacts) (decisions : new.decisions = old.decisions)
    (rollbackPoints : new.rollbackPoints = old.rollbackPoints)
    (hypothesisHistory : new.hypothesisHistory = old.hypothesisHistory)
    (rejectedEvidence : new.rejectedEvidence = old.rejectedEvidence) : EvidenceKept old new :=
  ⟨observations ▸ List.prefix_rfl, artifacts ▸ List.prefix_rfl, decisions ▸ List.prefix_rfl,
    rollbackPoints ▸ List.prefix_rfl, hypothesisHistory ▸ List.prefix_rfl,
    rejectedEvidence ▸ List.prefix_rfl⟩

theorem EvidenceKept.trans {first second third : ExperimentRecord R}
    (earlier : EvidenceKept first second) (later : EvidenceKept second third) :
    EvidenceKept first third :=
  ⟨earlier.observations.trans later.observations, earlier.artifacts.trans later.artifacts,
    earlier.decisions.trans later.decisions, earlier.rollbackPoints.trans later.rollbackPoints,
    earlier.hypothesisHistory.trans later.hypothesisHistory,
    earlier.rejectedEvidence.trans later.rejectedEvidence⟩

/-- History is kept: nothing recorded is removed, and terminal work is frozen. -/
structure HistoryKept (old new : ExperimentRecord R) : Prop where
  trials : OrderedMap.Extends TrialKept old.trials new.trials
  attempts : OrderedMap.Extends AttemptKept old.attempts new.attempts
  evidence : EvidenceKept old new

theorem HistoryKept.refl (record : ExperimentRecord R) : HistoryKept record record :=
  ⟨.refl .refl, .refl .refl, .refl record⟩

theorem HistoryKept.trans {first second third : ExperimentRecord R}
    (earlier : HistoryKept first second) (later : HistoryKept second third) :
    HistoryKept first third :=
  ⟨earlier.trials.trans .trans later.trials, earlier.attempts.trans .trans later.attempts,
    earlier.evidence.trans later.evidence⟩

/-- A record is rewritten in place: history is kept, no trial or attempt appears, and the identity
of the experiment and of its branches stays. -/
structure Rewritten (old new : ExperimentRecord R) : Prop where
  identity : new.definition.id = old.definition.id
  branches : old.definition.branches.map BranchDefinition.id <+:
    new.definition.branches.map BranchDefinition.id
  trials : OrderedMap.Evolves TrialKept old.trials new.trials
  attempts : OrderedMap.Evolves AttemptKept old.attempts new.attempts
  evidence : EvidenceKept old new

theorem Rewritten.history {old new : ExperimentRecord R} (rewritten : Rewritten old new) :
    HistoryKept old new :=
  ⟨rewritten.trials.extends_, rewritten.attempts.extends_, rewritten.evidence⟩

theorem Rewritten.refl (record : ExperimentRecord R) : Rewritten record record :=
  ⟨rfl, List.prefix_rfl, .refl .refl, .refl .refl, .refl record⟩

theorem Rewritten.trans {first second third : ExperimentRecord R}
    (earlier : Rewritten first second) (later : Rewritten second third) : Rewritten first third :=
  ⟨later.identity.trans earlier.identity, earlier.branches.trans later.branches,
    earlier.trials.trans .trans later.trials, earlier.attempts.trans .trans later.attempts,
    earlier.evidence.trans later.evidence⟩

/-- Writing a lifecycle line rewrites nothing else. -/
theorem rewritten_log (record : ExperimentRecord R) (line : Text) :
    Rewritten record (record.log line) :=
  ⟨rfl, List.prefix_rfl, .refl .refl, .refl .refl, .ofEq rfl rfl rfl rfl rfl rfl⟩

/-! ## Closing work -/

theorem closeTrials_evolves (select : TrialRecord → Bool) (state : TrialState) (kind : FailureKind)
    (detail : Text) (sequence : Nat) (trials : OrderedMap TrialId TrialRecord) :
    OrderedMap.Evolves TrialKept trials (closeTrials select state kind detail sequence trials) := by
  refine .mapValues fun trial => ?_
  rcases closeTrial_cases select state kind detail sequence trial with ⟨-, isOpen, same⟩ | ⟨-, same⟩
  · rw [same]
    exact .ofOpen rfl isOpen
  · rw [same]
    exact .refl trial

theorem closeAttempts_evolves (select : AttemptRecord → Bool) (state : AttemptState)
    (kind : FailureKind) (detail : Text) (sequence : Nat)
    (attempts : OrderedMap TrialAttemptId AttemptRecord) :
    OrderedMap.Evolves AttemptKept attempts
      (closeAttempts select state kind detail sequence attempts) := by
  refine .mapValues fun attempt => ?_
  rcases closeAttempt_cases select state kind detail sequence attempt with
    ⟨-, isOpen, same⟩ | ⟨-, same⟩
  · rw [same]
    exact .ofOpen rfl isOpen
  · rw [same]
    exact .refl attempt

/-- Changing an open trial. -/
theorem modifyTrial_evolves {trials : OrderedMap TrialId TrialRecord} {key : TrialId}
    {trial : TrialRecord} (found : trials.find? key = some trial)
    (isOpen : isTerminal trial.state = false) (change : TrialRecord → TrialRecord)
    (fixed : (change trial).fixed = trial.fixed) :
    OrderedMap.Evolves TrialKept trials (trials.modify key change) :=
  .modify .refl fun other lookup => by
    obtain rfl := Option.some.inj (found.symm.trans lookup)
    exact .ofOpen fixed isOpen

/-- Changing an open attempt. -/
theorem modifyAttempt_evolves {attempts : OrderedMap TrialAttemptId AttemptRecord}
    {key : TrialAttemptId} {attempt : AttemptRecord} (found : attempts.find? key = some attempt)
    (isOpen : isAttemptTerminal attempt.state = false) (change : AttemptRecord → AttemptRecord)
    (fixed : (change attempt).fixed = attempt.fixed) :
    OrderedMap.Evolves AttemptKept attempts (attempts.modify key change) :=
  .modify .refl fun other lookup => by
    obtain rfl := Option.some.inj (found.symm.trans lookup)
    exact .ofOpen fixed isOpen

/-- Changing what is not part of the outcome of a trial. -/
theorem touchTrial_evolves (trials : OrderedMap TrialId TrialRecord) (key : TrialId)
    (change : TrialRecord → TrialRecord) (kept : ∀ trial, TrialKept trial (change trial)) :
    OrderedMap.Evolves TrialKept trials (trials.modify key change) :=
  .modify .refl fun trial _ => kept trial

theorem releaseFrom_kept (record : ExperimentRecord R) (attempt : TrialAttemptId)
    (kind : FailureKind) (detail : Text) (sequence : Nat) (trial : TrialRecord) :
    TrialKept trial (record.releaseFrom attempt kind detail sequence trial) := by
  unfold ExperimentRecord.releaseFrom
  split
  · exact .refl trial
  · rename_i released
    simp only [Bool.or_eq_true, not_or, Bool.not_eq_true] at released
    refine .ofOpen ?_ released.1
    unfold TrialRecord.release
    dsimp only
    split <;> rfl

theorem loseAttempts_rewritten (kind : FailureKind) (attemptDetail trialDetail : Text)
    (sequence : Nat) {lost : List (TrialAttemptId × AttemptRecord)} (record : ExperimentRecord R)
    (distinct : (lost.map Prod.fst).Nodup)
    (isLive : ∀ entry ∈ lost, record.attempts.find? entry.1 = some entry.2 ∧
      isAttemptTerminal entry.2.state = false) :
    Rewritten record (lost.foldl
      (ExperimentRecord.loseAttempt kind attemptDetail trialDetail sequence) record) := by
  induction lost generalizing record with
  | nil => exact .refl record
  | cons entry rest ih =>
      have ⟨fresh, distinctRest⟩ := List.nodup_cons.mp distinct
      obtain ⟨found, isOpen⟩ := isLive entry List.mem_cons_self
      have first : Rewritten record
          (ExperimentRecord.loseAttempt kind attemptDetail trialDetail sequence record entry) :=
        ⟨rfl, List.prefix_rfl, touchTrial_evolves _ _ _ (releaseFrom_kept record _ _ _ _),
          modifyAttempt_evolves found isOpen (·.finish .abandoned kind attemptDetail sequence) rfl,
          .ofEq rfl rfl rfl rfl rfl rfl⟩
      refine first.trans (ih _ distinctRest fun other member => ?_)
      have different : other.1 ≠ entry.1 := fun same =>
        fresh (same ▸ List.mem_map_of_mem member)
      have before := isLive other (List.mem_cons_of_mem entry member)
      exact ⟨by simpa [ExperimentRecord.loseAttempt, different] using before.1, before.2⟩

theorem loseWorker_rewritten (worker : WorkerId) (boot : WorkerBootId) (kind : FailureKind)
    (attemptDetail trialDetail : Text) (sequence : Nat) (line : Text)
    (record : ExperimentRecord R) :
    Rewritten record
      (record.loseWorker worker boot kind attemptDetail trialDetail sequence line) := by
  obtain ⟨distinct, live⟩ := liveAttemptsOf_spec record worker boot
  have lost := loseAttempts_rewritten kind attemptDetail trialDetail sequence record distinct live
  unfold ExperimentRecord.loseWorker
  dsimp only
  split
  · exact lost
  · exact lost.trans (rewritten_log _ line)

/-! ## Moves -/

theorem updateBranch_prefix (id : BranchId) (change : BranchDefinition → BranchDefinition)
    (branches : List BranchDefinition) (keepsId : ∀ branch, (change branch).id = branch.id) :
    branches.map BranchDefinition.id <+:
      (ExperimentRecord.updateBranch id change branches).map BranchDefinition.id :=
  ExperimentRecord.map_id_updateBranch id keepsId branches ▸ List.prefix_rfl

/-- A view of the branches that reads neither states nor generations. -/
theorem map_restoreBranches {β : Type} (view : BranchDefinition → β)
    (kept : ∀ (branch : BranchDefinition) state generation,
      view { branch with state := state, generation := generation } = view branch)
    (authority : List BranchAuthoritySnapshot) (branches : List BranchDefinition) :
    (ExperimentRecord.restoreBranches authority branches).map view = branches.map view := by
  have restored : ∀ (authority : List BranchAuthoritySnapshot) (branches : List BranchDefinition),
      (authority.foldl (fun branches snapshot => ExperimentRecord.updateBranch snapshot.branch
        (fun branch => { branch with state := snapshot.state, generation := snapshot.generation })
        branches) branches).map view = branches.map view := by
    intro authority
    induction authority with
    | nil => exact fun _ => rfl
    | cons snapshot rest ih =>
        intro branches
        rw [List.foldl_cons, ih, ExperimentRecord.map_updateBranch view]
        exact fun branch => kept branch snapshot.state snapshot.generation
  unfold ExperimentRecord.restoreBranches
  dsimp only
  rw [List.map_map, ← restored authority branches]
  refine List.map_congr_left fun branch _ => ?_
  rw [Function.comp_apply]
  split
  · rfl
  · split
    · exact kept branch .retired branch.generation
    · exact kept branch .superseded branch.generation
    · exact kept branch .superseded branch.generation
    · exact kept branch .superseded branch.generation

theorem restoreBranches_ids (authority : List BranchAuthoritySnapshot)
    (branches : List BranchDefinition) :
    (ExperimentRecord.restoreBranches authority branches).map BranchDefinition.id =
      branches.map BranchDefinition.id :=
  map_restoreBranches BranchDefinition.id (fun _ _ _ => rfl) authority branches

theorem invalidateBranch_rewritten (record : ExperimentRecord R) (branch : BranchId)
    (detail : Text) : Rewritten record (record.invalidateBranch branch detail) := by
  unfold ExperimentRecord.invalidateBranch
  split
  · split
    · exact .refl record
    · split
      · refine ⟨rfl, updateBranch_prefix _ _ _ ?_, .refl .refl, .refl .refl,
          .ofEq rfl rfl rfl rfl rfl rfl⟩
        exact fun _ => rfl
      · exact .refl record
  · exact .refl record

theorem observe_rewritten {record : ExperimentRecord R} {trialKey : TrialId}
    {attemptKey : TrialAttemptId} {trial : TrialRecord} {attempt : AttemptRecord}
    (live : LivePair record trialKey attemptKey trial attempt) (sequence : Nat) :
    Rewritten record (record.observe trial attempt trialKey attemptKey sequence).1 := by
  have observing : ∀ reached, OrderedMap.Evolves TrialKept record.trials
      (record.trials.modify trialKey (·.observing reached)) := fun reached =>
    modifyTrial_evolves live.trialFound live.trialOpen (·.observing reached) rfl
  have started : ∀ reached, OrderedMap.Evolves AttemptKept record.attempts
      (record.attempts.modify attemptKey (·.started reached)) := fun reached =>
    modifyAttempt_evolves live.attemptFound live.attemptOpen (·.started reached) rfl
  unfold ExperimentRecord.observe
  dsimp only
  split
  · split
    · exact ⟨rfl, List.prefix_rfl, observing _, started _, .ofEq rfl rfl rfl rfl rfl rfl⟩
    · exact ⟨rfl, List.prefix_rfl, .refl .refl, started _, .ofEq rfl rfl rfl rfl rfl rfl⟩
  · split
    · exact ⟨rfl, List.prefix_rfl, observing _, .refl .refl, .ofEq rfl rfl rfl rfl rfl rfl⟩
    · exact .refl record

/-- Every move rewrites the record in place. -/
theorem Move.rewritten [MetricReal R] [CanonicalDigests R] {experiment : ExperimentId}
    {record after : ExperimentRecord R} (move : Move experiment record after) :
    Rewritten record after := by
  cases move with
  | revise spec sequence opened =>
      refine ⟨rfl, List.prefix_rfl, closeTrials_evolves .., closeAttempts_evolves .., ?_⟩
      exact ⟨List.prefix_rfl, List.prefix_rfl, List.prefix_rfl, List.prefix_rfl,
        List.prefix_append .., List.prefix_rfl⟩
  | fork branch sequence opened =>
      refine ⟨rfl, ?_, .refl .refl, .refl .refl, .ofEq rfl rfl rfl rfl rfl rfl⟩
      exact ⟨[branch.id], by simp [ExperimentRecord.fork, ExperimentRecord.log]⟩
  | forkUndone branch sequence opened =>
      refine ⟨rfl, ?_, .refl .refl, .refl .refl, .ofEq rfl rfl rfl rfl rfl rfl⟩
      simp [ExperimentRecord.fork, ExperimentRecord.log, ExperimentRecord.unfork]
  | retire branch reason sequence =>
      refine ⟨rfl, updateBranch_prefix _ _ _ ?_, closeTrials_evolves .., closeAttempts_evolves ..,
        .ofEq rfl rfl rfl rfl rfl rfl⟩
      exact fun _ => rfl
  | reject kind identifier verdict =>
      unfold ExperimentRecord.reject
      split
      · exact ⟨rfl, List.prefix_rfl, .refl .refl, .refl .refl, List.prefix_rfl, List.prefix_rfl,
          List.prefix_rfl, List.prefix_rfl, List.prefix_rfl, List.prefix_append ..⟩
      · exact .refl record
  | pushObservation observation =>
      exact ⟨rfl, List.prefix_rfl, .refl .refl, .refl .refl, List.prefix_append .., List.prefix_rfl,
        List.prefix_rfl, List.prefix_rfl, List.prefix_rfl, List.prefix_rfl⟩
  | observe opened live sequence => exact observe_rewritten live sequence
  | pushArtifact trialKey artifact =>
      exact ⟨rfl, List.prefix_rfl, touchTrial_evolves _ trialKey (·.hold artifact.id)
        (fun _ => ⟨rfl, fun _ => rfl, fun _ => rfl, fun _ => rfl, fun _ => rfl⟩), .refl .refl,
        List.prefix_rfl, List.prefix_append .., List.prefix_rfl, List.prefix_rfl, List.prefix_rfl,
        List.prefix_rfl⟩
  | touch trialKey sequence =>
      exact ⟨rfl, List.prefix_rfl, touchTrial_evolves _ trialKey (·.touch sequence)
        (fun _ => ⟨rfl, fun _ => rfl, fun _ => rfl, fun _ => rfl, fun _ => rfl⟩), .refl .refl,
        .ofEq rfl rfl rfl rfl rfl rfl⟩
  | @complete trialKey attemptKey trial attempt opened live sequence =>
      exact ⟨rfl, List.prefix_rfl,
        modifyTrial_evolves live.trialFound live.trialOpen (·.commit sequence) rfl,
        modifyAttempt_evolves live.attemptFound live.attemptOpen (·.commit sequence) rfl,
        .ofEq rfl rfl rfl rfl rfl rfl⟩
  | @fail trialKey attemptKey trial attempt opened live kind detail retry sequence =>
      have released : ((fun current : TrialRecord => current.release
          (retry && record.retryable current) kind detail sequence) trial).fixed = trial.fixed := by
        unfold TrialRecord.release
        dsimp only
        split <;> rfl
      refine Rewritten.trans ?_ ((invalidateBranch_rewritten _ trial.branch detail).trans
        (rewritten_log _ _))
      exact ⟨rfl, List.prefix_rfl,
        modifyTrial_evolves live.trialFound live.trialOpen (fun current : TrialRecord =>
          current.release (retry && record.retryable current) kind detail sequence) released,
        modifyAttempt_evolves live.attemptFound live.attemptOpen
          (·.finish .failed kind detail sequence) rfl, .ofEq rfl rfl rfl rfl rfl rfl⟩
  | @cancelTrial trialKey trial found trialOpen reason sequence =>
      exact ⟨rfl, List.prefix_rfl, modifyTrial_evolves found trialOpen
        (·.finish .cancelled .cancellation reason sequence) rfl, closeAttempts_evolves ..,
        .ofEq rfl rfl rfl rfl rfl rfl⟩
  | cancel reason sequence allowed =>
      exact ⟨rfl, List.prefix_rfl, closeTrials_evolves .., closeAttempts_evolves ..,
        .ofEq rfl rfl rfl rfl rfl rfl⟩
  | finalize candidate reason id point sequence notFinalized =>
      exact ⟨rfl, List.prefix_rfl, .refl .refl, .refl .refl, List.prefix_rfl, List.prefix_rfl,
        List.prefix_append .., List.prefix_append .., List.prefix_rfl, List.prefix_rfl⟩
  | rollback chosen point reason sequence notCancelled member =>
      refine ⟨rfl, ?_, closeTrials_evolves .., closeAttempts_evolves .., List.prefix_rfl,
        List.prefix_rfl, List.prefix_rfl, List.prefix_append .., List.prefix_rfl, List.prefix_rfl⟩
      exact (restoreBranches_ids chosen.authority record.definition.branches) ▸ List.prefix_rfl

end ExperimentFabric
