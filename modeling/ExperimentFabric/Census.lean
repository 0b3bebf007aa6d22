import Mathlib.Data.List.Chain
import ExperimentFabric.Descent

/-!
# What the governance bounds count

The census of an experiment lists what its bounds count.  Most changes of a record leave the census
alone; the others add a branch, an observation, an artifact, a decision or a rollback point.  Some
bounds are checked whenever a state is loaded, the others by no check of a whole record.
-/

namespace ExperimentFabric

open Lib Relation

variable {R : Type}

/-! ## The census -/

/-- What the bounds count of a branch. -/
structure BranchShape where
  id : BranchId
  parent : BranchId
  parameters : Nat
  deriving DecidableEq

/-- What the bounds count of an experiment. -/
structure Census where
  branches : List BranchShape
  metrics : Nat
  rules : Nat
  /-- The trial of each observation. -/
  observations : List TrialId
  /-- The trial and the attempt of each artifact. -/
  artifacts : List (TrialId × TrialAttemptId)
  /-- How many artifacts a trial lists. -/
  held : TrialId → Nat
  decisions : Nat
  rollbackPoints : Nat

/-- The part of a branch that is counted. -/
def BranchDefinition.shape (branch : BranchDefinition) : BranchShape :=
  ⟨branch.id, branch.parent, branch.parameters.length⟩

/-- How many artifacts the trial lists; none if there is no such trial. -/
def heldBy (trials : OrderedMap TrialId TrialRecord) (key : TrialId) : Nat :=
  ((trials.find? key).map fun trial => trial.artifacts.length).getD 0

/-- The census of a record. -/
def ExperimentRecord.census (record : ExperimentRecord R) : Census where
  branches := record.definition.branches.map BranchDefinition.shape
  metrics := record.definition.metrics.length
  rules := record.definition.policy.rules.length
  observations := record.observations.map Observation.trial
  artifacts := record.artifacts.map fun artifact => (artifact.trial, artifact.attempt)
  held := heldBy record.trials
  decisions := record.decisions.length
  rollbackPoints := record.rollbackPoints.length

/-- A branch forks from another one. -/
def ForksFrom (branches : List BranchShape) (child parent : BranchId) : Prop :=
  (∃ branch ∈ branches, branch.id = child ∧ branch.parent = parent) ∧
    parent ∈ branches.map BranchShape.id

/-- The bounds of an experiment. -/
structure Census.Within (limits : Limits) (census : Census) : Prop where
  parameters : ∀ branch ∈ census.branches, branch.parameters ≤ limits.maxParametersPerBranch
  trialObservations : ∀ trial, census.observations.count trial ≤ limits.maxObservationsPerTrial
  attemptArtifacts : ∀ trial attempt,
    census.artifacts.count (trial, attempt) ≤ limits.maxArtifactsPerAttempt
  branches : census.branches.length ≤ limits.maxBranchesPerExperiment
  metrics : census.metrics ≤ limits.maxMetricsPerExperiment
  rules : census.rules ≤ limits.maxComparisonRules
  observations : census.observations.length ≤ limits.maxObservationsPerExperiment
  artifacts : census.artifacts.length ≤ limits.maxArtifactsPerExperiment
  decisions : census.decisions ≤ limits.maxDecisionsPerExperiment
  rollbackPoints : census.rollbackPoints ≤ limits.maxDecisionsPerExperiment
  depth : ∀ branch ∈ census.branches, ∀ ancestors,
    List.IsChain (ForksFrom census.branches) (branch.id :: ancestors) →
      ancestors.length ≤ limits.maxLineageDepth

/-- The bounds that the validator checks. -/
structure Census.Checked (limits : Limits) (census : Census) : Prop where
  branches : census.branches.length ≤ limits.maxBranchesPerExperiment
  metrics : census.metrics ≤ limits.maxMetricsPerExperiment
  rules : census.rules ≤ limits.maxComparisonRules
  observations : census.observations.length ≤ limits.maxObservationsPerExperiment
  artifacts : census.artifacts.length ≤ limits.maxArtifactsPerExperiment
  decisions : census.decisions ≤ limits.maxDecisionsPerExperiment
  rollbackPoints : census.rollbackPoints ≤ limits.maxDecisionsPerExperiment

/-- The bounds that no validator checks, with what keeps them: a parent is a branch, and every
artifact is listed by its trial. -/
structure Census.Unchecked (limits : Limits) (census : Census) : Prop where
  parameters : ∀ branch ∈ census.branches, branch.parameters ≤ limits.maxParametersPerBranch
  depth : ∀ branch ∈ census.branches, ∀ ancestors,
    List.IsChain (ForksFrom census.branches) (branch.id :: ancestors) →
      ancestors.length ≤ limits.maxLineageDepth
  parents : ∀ branch ∈ census.branches, branch.parent.valid = true →
    branch.parent ∈ census.branches.map BranchShape.id
  trialObservations : ∀ trial, census.observations.count trial ≤ limits.maxObservationsPerTrial
  listed : ∀ trial, (census.artifacts.map Prod.fst).count trial ≤ census.held trial
  held : ∀ trial, census.held trial ≤ limits.maxArtifactsPerAttempt

/-- An attempt holds no more artifacts than its trial lists. -/
theorem Census.within {limits : Limits} {census : Census} (unchecked : census.Unchecked limits)
    (checked : census.Checked limits) : census.Within limits where
  parameters := unchecked.parameters
  trialObservations := unchecked.trialObservations
  attemptArtifacts := fun trial attempt => calc
    census.artifacts.count (trial, attempt) ≤ (census.artifacts.map Prod.fst).count trial :=
      List.count_le_count_map (f := Prod.fst) (x := (trial, attempt))
    _ ≤ census.held trial := unchecked.listed trial
    _ ≤ limits.maxArtifactsPerAttempt := unchecked.held trial
  branches := checked.branches
  metrics := checked.metrics
  rules := checked.rules
  observations := checked.observations
  artifacts := checked.artifacts
  decisions := checked.decisions
  rollbackPoints := checked.rollbackPoints
  depth := unchecked.depth

/-! ## Changes that count nothing -/

/-- The trial lists the same artifacts. -/
def SameArtifacts (trial trial' : TrialRecord) : Prop := trial'.artifacts = trial.artifacts

theorem heldBy_evolves {old new : OrderedMap TrialId TrialRecord}
    (kept : OrderedMap.Evolves SameArtifacts old new) : heldBy new = heldBy old := by
  funext key
  unfold heldBy
  cases found : old.find? key with
  | none => rw [kept.absent key found]
  | some trial =>
      obtain ⟨trial', found', same⟩ := kept.extends_ key trial found
      rw [found', Option.map_some, Option.map_some, same]

theorem closeTrials_held (select : TrialRecord → Bool) (state : TrialState) (kind : FailureKind)
    (detail : Text) (sequence : Nat) (trials : OrderedMap TrialId TrialRecord) :
    OrderedMap.Evolves SameArtifacts trials
      (closeTrials select state kind detail sequence trials) := by
  refine .mapValues fun trial => ?_
  unfold closeTrial
  split <;> rfl

theorem modifyTrial_held (trials : OrderedMap TrialId TrialRecord) (key : TrialId)
    {change : TrialRecord → TrialRecord} (kept : ∀ trial, SameArtifacts trial (change trial)) :
    OrderedMap.Evolves SameArtifacts trials (trials.modify key change) := by
  apply OrderedMap.Evolves.modify
  · exact fun _ => rfl
  · exact fun trial _ => kept trial

theorem release_held (trial : TrialRecord) (retry : Bool) (kind : FailureKind) (detail : Text)
    (sequence : Nat) : SameArtifacts trial (trial.release retry kind detail sequence) := by
  unfold TrialRecord.release
  dsimp only
  split <;> rfl

theorem restoreBranches_shapes (authority : List BranchAuthoritySnapshot)
    (branches : List BranchDefinition) :
    (ExperimentRecord.restoreBranches authority branches).map BranchDefinition.shape =
      branches.map BranchDefinition.shape :=
  map_restoreBranches BranchDefinition.shape (fun _ _ _ => rfl) authority branches

section Unchanged

variable {old new : ExperimentRecord R}

/-- A change of trials that keeps their artifacts, and of branches that keeps their shapes. -/
theorem census_eq
    (branches : new.definition.branches.map BranchDefinition.shape =
      old.definition.branches.map BranchDefinition.shape)
    (metrics : new.definition.metrics = old.definition.metrics)
    (policy : new.definition.policy = old.definition.policy)
    (observations : new.observations = old.observations) (artifacts : new.artifacts = old.artifacts)
    (trials : OrderedMap.Evolves SameArtifacts old.trials new.trials)
    (decisions : new.decisions = old.decisions)
    (rollbackPoints : new.rollbackPoints = old.rollbackPoints) : new.census = old.census := by
  unfold ExperimentRecord.census
  rw [branches, metrics, policy, observations, artifacts, heldBy_evolves trials, decisions,
    rollbackPoints]

/-- A change of trials that keeps their artifacts. -/
theorem census_ofTrials (definition : new.definition = old.definition)
    (observations : new.observations = old.observations) (artifacts : new.artifacts = old.artifacts)
    (trials : OrderedMap.Evolves SameArtifacts old.trials new.trials)
    (decisions : new.decisions = old.decisions)
    (rollbackPoints : new.rollbackPoints = old.rollbackPoints) : new.census = old.census :=
  census_eq (by rw [definition]) (by rw [definition]) (by rw [definition]) observations artifacts
    trials decisions rollbackPoints

end Unchanged

section Records

variable (record : ExperimentRecord R)

theorem log_census (line : Text) : (record.log line).census = record.census := rfl

theorem revise_census (spec : HypothesisRevisionSpec) (sequence : Nat) :
    (record.revise spec sequence).census = record.census :=
  census_eq rfl rfl rfl rfl rfl (closeTrials_held ..) rfl rfl

theorem unfork_census (branch : BranchDefinition) (sequence : Nat) :
    (record.fork branch sequence).unfork.census = record.census := by
  refine census_eq ?_ rfl rfl rfl rfl (.refl fun _ => rfl) rfl rfl
  simp [ExperimentRecord.fork, ExperimentRecord.unfork, ExperimentRecord.log]

theorem retire_census (branch : BranchId) (reason : Text) (sequence : Nat) :
    (record.retire branch reason sequence).census = record.census := by
  refine census_eq ?_ rfl rfl rfl rfl (closeTrials_held ..) rfl rfl
  refine ExperimentRecord.map_updateBranch BranchDefinition.shape _ ?_ _
  exact fun _ => rfl

theorem reject_census (kind : Text) (identifier : Nat) (verdict : Status) :
    (record.reject kind identifier verdict).census = record.census := by
  unfold ExperimentRecord.reject
  split <;> rfl

theorem observe_census (trial : TrialRecord) (attempt : AttemptRecord) (trialKey : TrialId)
    (attemptKey : TrialAttemptId) (sequence : Nat) :
    (record.observe trial attempt trialKey attemptKey sequence).1.census = record.census := by
  have observing : ∀ reached, OrderedMap.Evolves SameArtifacts record.trials
      (record.trials.modify trialKey (·.observing reached)) :=
    fun reached => modifyTrial_held _ _ fun _ => rfl
  have kept : OrderedMap.Evolves SameArtifacts record.trials record.trials := .refl fun _ => rfl
  unfold ExperimentRecord.observe
  dsimp only
  split
  · split
    · exact census_ofTrials rfl rfl rfl (observing _) rfl rfl
    · exact census_ofTrials rfl rfl rfl kept rfl rfl
  · split
    · exact census_ofTrials rfl rfl rfl (observing _) rfl rfl
    · rfl

theorem touch_census (trial : TrialId) (sequence : Nat) :
    (record.touch trial sequence).census = record.census := by
  refine census_ofTrials rfl rfl rfl ?_ rfl rfl
  dsimp only [ExperimentRecord.touch]
  apply modifyTrial_held
  exact fun _ => rfl

theorem complete_census (trialKey : TrialId) (attemptKey : TrialAttemptId) (sequence : Nat) :
    (record.complete trialKey attemptKey sequence).census = record.census := by
  refine census_ofTrials rfl rfl rfl ?_ rfl rfl
  dsimp only [ExperimentRecord.complete, ExperimentRecord.log]
  apply modifyTrial_held
  exact fun _ => rfl

theorem invalidateBranch_census (branch : BranchId) (detail : Text) :
    (record.invalidateBranch branch detail).census = record.census := by
  unfold ExperimentRecord.invalidateBranch
  split
  · split
    · rfl
    · split
      · refine census_eq ?_ rfl rfl rfl rfl (.refl fun _ => rfl) rfl rfl
        refine ExperimentRecord.map_updateBranch BranchDefinition.shape _ ?_ _
        exact fun _ => rfl
      · rfl
  · rfl

theorem fail_census (trial : TrialRecord) (trialKey : TrialId) (attemptKey : TrialAttemptId)
    (kind : FailureKind) (detail : Text) (retry : Bool) (sequence : Nat) :
    (record.fail trial trialKey attemptKey kind detail retry sequence).census =
      record.census := by
  unfold ExperimentRecord.fail
  dsimp only
  rw [log_census, invalidateBranch_census]
  refine census_ofTrials rfl rfl rfl ?_ rfl rfl
  dsimp only
  apply modifyTrial_held
  exact fun _ => release_held ..

theorem cancelTrial_census (trial : TrialId) (reason : Text) (sequence : Nat) :
    (record.cancelTrial trial reason sequence).census = record.census := by
  refine census_ofTrials rfl rfl rfl ?_ rfl rfl
  dsimp only [ExperimentRecord.cancelTrial, ExperimentRecord.log]
  apply modifyTrial_held
  exact fun _ => rfl

theorem cancel_census (reason : Text) (sequence : Nat) :
    (record.cancel reason sequence).census = record.census :=
  census_ofTrials rfl rfl rfl (closeTrials_held ..) rfl rfl

theorem issue_census (key : TrialId) (attempt : AttemptRecord) (sequence : Nat) :
    (record.issue key attempt sequence).census = record.census := by
  refine census_ofTrials rfl rfl rfl ?_ rfl rfl
  dsimp only [ExperimentRecord.issue]
  apply modifyTrial_held
  exact fun _ => rfl

/-- A new trial lists no artifact. -/
theorem addTrial_census (experiment : ExperimentId) (branch : BranchDefinition) (id : TrialId)
    (payload : Text) (sequence : Nat) :
    (record.addTrial (record.newTrial experiment branch id payload sequence)).census =
      record.census := by
  have held : heldBy (record.trials.emplace id
      (record.newTrial experiment branch id payload sequence)) = heldBy record.trials := by
    funext key
    unfold heldBy
    rw [OrderedMap.find?_emplace]
    split
    · rename_i here
      subst here
      cases record.trials.find? key <;> rfl
    · rfl
  unfold ExperimentRecord.census
  dsimp only [ExperimentRecord.addTrial, ExperimentRecord.log]
  exact congrArg (fun held : TrialId → Nat => Census.mk _ _ _ _ _ held _ _) held

theorem loseAttempt_census (kind : FailureKind) (attemptDetail trialDetail : Text) (sequence : Nat)
    (entry : TrialAttemptId × AttemptRecord) :
    (ExperimentRecord.loseAttempt kind attemptDetail trialDetail sequence record entry).census =
      record.census := by
  refine census_ofTrials rfl rfl rfl ?_ rfl rfl
  dsimp only [ExperimentRecord.loseAttempt]
  apply modifyTrial_held
  intro trial
  unfold ExperimentRecord.releaseFrom
  split
  · rfl
  · exact release_held ..

theorem loseWorker_census (worker : WorkerId) (boot : WorkerBootId) (kind : FailureKind)
    (attemptDetail trialDetail : Text) (sequence : Nat) (line : Text) :
    (record.loseWorker worker boot kind attemptDetail trialDetail sequence line).census =
      record.census := by
  have lost : ∀ (entries : List (TrialAttemptId × AttemptRecord)) (record : ExperimentRecord R),
      (entries.foldl (ExperimentRecord.loseAttempt kind attemptDetail trialDetail sequence)
        record).census = record.census := by
    intro entries
    induction entries with
    | nil => exact fun _ => rfl
    | cons entry rest ih =>
        intro record
        rw [List.foldl_cons, ih, loseAttempt_census]
  unfold ExperimentRecord.loseWorker
  dsimp only
  split
  · exact lost _ record
  · rw [log_census, lost]

theorem stage_census (sequence : Nat) : (record.stage sequence).2.census = record.census := by
  have trials : OrderedMap.Evolves SameArtifacts record.trials (record.stage sequence).2.trials :=
    stage_trials_evolve record sequence fun reached trial => by
      unfold stageTrial
      split <;> rfl
  unfold ExperimentRecord.stage at trials ⊢
  dsimp only at trials ⊢
  rw [ExperimentRecord.logAll_eq] at trials ⊢
  exact census_ofTrials rfl rfl rfl trials rfl rfl

theorem forget_census : record.forget.census = record.census :=
  census_ofTrials rfl rfl rfl (.mapValues fun _ => rfl) rfl rfl

theorem recovered_census : record.recovered.census = record.census := by
  refine census_ofTrials rfl rfl rfl (.mapValues fun trial => ?_) rfl rfl
  unfold ExperimentRecord.recoveredTrial ExperimentRecord.resolvedTrial
  split
  · rfl
  · split <;> rfl

end Records

/-! ## What is added -/

namespace Census

/-- One more branch. -/
def addBranch (census : Census) (branch : BranchShape) : Census :=
  { census with branches := census.branches ++ [branch] }

/-- One more observation of a trial. -/
def addObservation (census : Census) (trial : TrialId) : Census :=
  { census with observations := census.observations ++ [trial] }

/-- One more artifact of an attempt, listed by its trial. -/
def addArtifact (census : Census) (trial : TrialId) (attempt : TrialAttemptId) : Census :=
  { census with
    artifacts := census.artifacts ++ [(trial, attempt)]
    held := Function.update census.held trial (census.held trial + 1) }

/-- More decisions and rollback points. -/
def conclude (census : Census) (decisions rollbackPoints : Nat) : Census :=
  { census with
    decisions := census.decisions + decisions
    rollbackPoints := census.rollbackPoints + rollbackPoints }

end Census

section Records

variable (record : ExperimentRecord R)

theorem fork_census (branch : BranchDefinition) (sequence : Nat) :
    (record.fork branch sequence).census = record.census.addBranch branch.shape := by
  simp [ExperimentRecord.census, ExperimentRecord.fork, ExperimentRecord.log, Census.addBranch]

theorem pushObservation_census (observation : Observation R) :
    (record.pushObservation observation).census =
      record.census.addObservation observation.trial := by
  simp [ExperimentRecord.census, ExperimentRecord.pushObservation, Census.addObservation]

theorem pushArtifact_census {key : TrialId} {trial : TrialRecord}
    (found : record.trials.find? key = some trial) {artifact : ArtifactRecord}
    (named : artifact.trial = key) :
    (record.pushArtifact key artifact).census =
      record.census.addArtifact key artifact.attempt := by
  have held : heldBy (record.trials.modify key (·.hold artifact.id)) =
      Function.update (heldBy record.trials) key (heldBy record.trials key + 1) := by
    funext other
    by_cases here : other = key
    · subst here
      simp [heldBy, found, TrialRecord.hold]
    · rw [Function.update_of_ne here]
      simp [heldBy, here]
  simp only [ExperimentRecord.census, ExperimentRecord.pushArtifact, Census.addArtifact, held,
    List.map_append, List.map_cons, List.map_nil, named]

theorem finalize_census [MetricReal R] [CanonicalDigests R] (experiment : ExperimentId)
    (decision : Decision R) (point : RollbackPointId) (sequence : Nat) :
    (record.finalize experiment decision point sequence).census = record.census.conclude 1
      (if ExperimentRecord.concludes decision.outcome then 1 else 0) := by
  unfold ExperimentRecord.finalize
  split <;> simp [ExperimentRecord.census, ExperimentRecord.log, Census.conclude]

theorem rollback_census [MetricReal R] [CanonicalDigests R] (experiment : ExperimentId)
    (chosen : RollbackPoint) (point : RollbackPointId) (reason : Text) (sequence : Nat) :
    (record.rollback experiment chosen point reason sequence).census =
      record.census.conclude 0 1 := by
  have held := heldBy_evolves (closeTrials_held (fun _ => true) .superseded
    .experimentInvalidation (text "superseded by an experiment generation change") sequence
    record.trials)
  simp [ExperimentRecord.census, ExperimentRecord.rollback, ExperimentRecord.log,
    ExperimentRecord.abandonStaleLiveWork, Census.conclude, restoreBranches_shapes, held]

end Records

namespace Census

variable {limits : Limits} {census : Census}

/-- A chain of ancestors that starts at an old branch does not reach the new one. -/
theorem chain_addBranch {branch : BranchShape} (valid : branch.id.valid = true)
    (fresh : branch.id ∉ census.branches.map BranchShape.id)
    (parents : ∀ other ∈ census.branches, other.parent.valid = true →
      other.parent ∈ census.branches.map BranchShape.id)
    {start : BranchId} {ancestors : List BranchId}
    (known : start ∈ census.branches.map BranchShape.id)
    (chain : List.IsChain (ForksFrom (census.addBranch branch).branches) (start :: ancestors)) :
    List.IsChain (ForksFrom census.branches) (start :: ancestors) := by
  induction ancestors generalizing start with
  | nil => exact .singleton start
  | cons parent rest ih =>
      obtain ⟨⟨⟨other, member, rfl, rfl⟩, named⟩, later⟩ := List.isChain_cons_cons.mp chain
      have old : other ∈ census.branches := by
        rcases List.mem_append.mp member with old | new
        · exact old
        · obtain rfl := List.mem_singleton.mp new
          exact (fresh known).elim
      have here : other.parent ∈ census.branches.map BranchShape.id := by
        rw [Census.addBranch, List.map_append, List.mem_append] at named
        rcases named with old | new
        · exact old
        · have same : other.parent = branch.id := by simpa using new
          exact parents other old (same ▸ valid)
      exact List.isChain_cons_cons.mpr ⟨⟨⟨other, old, rfl, rfl⟩, here⟩, ih here later⟩

theorem Unchecked.addBranch (unchecked : census.Unchecked limits) {branch : BranchShape}
    (valid : branch.id.valid = true) (fresh : branch.id ∉ census.branches.map BranchShape.id)
    (known : branch.parent ∈ census.branches.map BranchShape.id)
    (parameters : branch.parameters ≤ limits.maxParametersPerBranch)
    (shallow : ∀ ancestors, List.IsChain (ForksFrom census.branches) (branch.parent :: ancestors) →
      ancestors.length < limits.maxLineageDepth) : (census.addBranch branch).Unchecked limits where
  parameters := fun other member => by
    rcases List.mem_append.mp member with old | new
    · exact unchecked.parameters other old
    · rw [List.mem_singleton.mp new]
      exact parameters
  depth := fun other member ancestors chain => by
    rcases List.mem_append.mp member with old | new
    · exact unchecked.depth other old ancestors (chain_addBranch valid fresh unchecked.parents
        (List.mem_map_of_mem old) chain)
    · obtain rfl := List.mem_singleton.mp new
      cases ancestors with
      | nil => exact Nat.zero_le _
      | cons parent rest =>
          obtain ⟨⟨⟨child, among, same, rfl⟩, -⟩, later⟩ := List.isChain_cons_cons.mp chain
          rcases List.mem_append.mp among with old | new
          · exact (fresh (same ▸ List.mem_map_of_mem old)).elim
          · obtain rfl := List.mem_singleton.mp new
            exact shallow rest (chain_addBranch valid fresh unchecked.parents known later)
  parents := fun other member nonnull => by
    rw [Census.addBranch, List.map_append]
    rcases List.mem_append.mp member with old | new
    · exact List.mem_append_left _ (unchecked.parents other old nonnull)
    · rw [List.mem_singleton.mp new]
      exact List.mem_append_left _ known
  trialObservations := unchecked.trialObservations
  listed := unchecked.listed
  held := unchecked.held

theorem Unchecked.addObservation (unchecked : census.Unchecked limits) {trial : TrialId}
    (room : census.observations.count trial < limits.maxObservationsPerTrial) :
    (census.addObservation trial).Unchecked limits where
  parameters := unchecked.parameters
  depth := unchecked.depth
  parents := unchecked.parents
  trialObservations := fun other => by
    rw [Census.addObservation, List.count_append]
    by_cases here : other = trial
    · subst here
      rw [List.count_singleton_self]
      exact room
    · rw [List.count_singleton, if_neg (by simpa using Ne.symm here)]
      exact unchecked.trialObservations other
  listed := unchecked.listed
  held := unchecked.held

theorem Unchecked.addArtifact (unchecked : census.Unchecked limits) {trial : TrialId}
    (attempt : TrialAttemptId) (room : census.held trial < limits.maxArtifactsPerAttempt) :
    (census.addArtifact trial attempt).Unchecked limits where
  parameters := unchecked.parameters
  depth := unchecked.depth
  parents := unchecked.parents
  trialObservations := unchecked.trialObservations
  listed := fun other => by
    have listed := unchecked.listed other
    rw [Census.addArtifact, List.map_append, List.count_append]
    dsimp only
    by_cases here : other = trial
    · subst here
      simpa using listed
    · rw [Function.update_of_ne here]
      simpa [List.count_singleton, Ne.symm here] using listed
  held := fun other => by
    dsimp only [Census.addArtifact]
    by_cases here : other = trial
    · subst here
      rw [Function.update_self]
      exact room
    · rw [Function.update_of_ne here]
      exact unchecked.held other

theorem Unchecked.conclude (unchecked : census.Unchecked limits) (decisions points : Nat) :
    (census.conclude decisions points).Unchecked limits :=
  ⟨unchecked.parameters, unchecked.depth, unchecked.parents, unchecked.trialObservations,
    unchecked.listed, unchecked.held⟩

end Census

end ExperimentFabric
