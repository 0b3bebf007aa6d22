import ExperimentFabric.Census
import ExperimentFabric.LiveTable
import ExperimentFabric.Session

/-!
# Governance bounds

A run keeps the bounds of its limits when no request reaches one of the unchecked paths: branches
with more parameters or ancestors than the bounds allow, an observation of a trial that is already
full, a rollback point beyond the bound on decisions, and a restart that lowers a bound the validator
does not check.
-/

namespace ExperimentFabric

open Lib Relation

variable {R : Type}

/-! ## What the validator checks -/

section Validator

variable [MetricReal R] {record : ExperimentRecord R} {limits : Limits} {id : ExperimentId}

theorem validateExperimentRecord_checked
    (valid : validateExperimentRecord record limits id = .ok ()) :
    record.census.Checked limits := by
  simp only [validateExperimentRecord, Validation.validateDefinition, Validation.validateMetrics,
    Validation.validateSizes, sequence_cons_eq_ok, require_eq_ok, decide_eq_true_eq] at valid
  obtain ⟨⟨-, -, -, -, -, branches, -, -, ⟨metrics, -, rules, -⟩, -⟩, -,
    ⟨observations, artifacts, decisions, points, -⟩, -⟩ := valid
  exact ⟨by simpa [ExperimentRecord.census] using branches, metrics, rules,
    by simpa [ExperimentRecord.census] using observations,
    by simpa [ExperimentRecord.census] using artifacts, decisions, points⟩

/-- Branch identities are valid and distinct, and a parent is a branch. -/
theorem validateExperimentRecord_branches
    (valid : validateExperimentRecord record limits id = .ok ()) :
    (∀ branch ∈ record.census.branches, branch.id.valid = true) ∧
      (record.census.branches.map BranchShape.id).Nodup ∧
      ∀ branch ∈ record.census.branches, branch.parent.valid = true →
        branch.parent ∈ record.census.branches.map BranchShape.id := by
  simp only [validateExperimentRecord, Validation.validateDefinition,
    Validation.validateBranchLineage, sequence_cons_eq_ok, require_eq_ok, scan_eq_ok,
    decide_eq_true_eq, forEach_eq_ok] at valid
  obtain ⟨⟨-, -, -, -, -, -, -, ⟨identities, parents, -⟩, -⟩, -⟩ := valid
  have named : record.census.branches.map BranchShape.id =
      record.definition.branches.map BranchDefinition.id := by
    rw [ExperimentRecord.census, List.map_map]
    rfl
  rw [named]
  refine ⟨?_, (forall_split_iff_nodup _ _).mp fun front branch back split =>
    (identities front branch back split).2.1, ?_⟩
  · intro shape member
    obtain ⟨branch, among, rfl⟩ := List.mem_map.mp member
    exact (forall_split_iff_forall_mem _ _).mp
      (fun front branch back split => (identities front branch back split).1) branch among
  · intro shape member nonnull
    obtain ⟨branch, among, rfl⟩ := List.mem_map.mp member
    have known := (parents branch among).1
    rw [show branch.parent.valid = true from nonnull] at known
    simpa [BranchDefinition.shape] using known

end Validator

/-! ## Branches of a specification -/

/-- Parameters over inherited ones. -/
def mergedParameters (own inherited : List ParameterAssignment) : List ParameterAssignment :=
  normalizeParameters
    ((normalizeParameters own).foldl overrideParameter (normalizeParameters inherited))

/-- The parameters of a declared branch, over those its fork parent declares. -/
def BranchSpec.merged (branch : BranchSpec) : Option BranchSpec → List ParameterAssignment
  | none => normalizeParameters branch.parameters
  | some parent => mergedParameters branch.parameters parent.parameters

/-- A declared branch names the branch it forks from. -/
def DeclaredFork (branches : List BranchSpec) (child parent : BranchSpec) : Prop :=
  child.forkFrom = some parent.name ∧ parent ∈ branches

/-- The declared branches stay within the bounds on parameters and ancestors. -/
structure ExperimentSpec.Fits (limits : Limits) (spec : ExperimentSpec R) : Prop where
  roots : ∀ branch ∈ spec.branches, branch.forkFrom = none →
    (branch.merged none).length ≤ limits.maxParametersPerBranch
  forks : ∀ child ∈ spec.branches, ∀ parent, DeclaredFork spec.branches child parent →
    (child.merged (some parent)).length ≤ limits.maxParametersPerBranch
  depth : ∀ branch ∈ spec.branches, ∀ ancestors,
    List.IsChain (DeclaredFork spec.branches) (branch :: ancestors) →
      ancestors.length ≤ limits.maxLineageDepth

/-- The declared branches under the identities they receive. -/
def numberBranches : Nat → List BranchSpec → List (BranchId × BranchSpec)
  | _, [] => []
  | watermark, spec :: rest => (⟨watermark + 1⟩, spec) :: numberBranches (watermark + 1) rest

theorem numberBranches_spec {watermark : Nat} {specs : List BranchSpec}
    {entry : BranchId × BranchSpec} (member : entry ∈ numberBranches watermark specs) :
    entry.2 ∈ specs ∧ watermark < entry.1.value := by
  induction specs generalizing watermark with
  | nil => exact (List.not_mem_nil member).elim
  | cons spec rest ih =>
      rcases List.mem_cons.mp member with rfl | later
      · exact ⟨List.mem_cons_self, Nat.lt_succ_self watermark⟩
      · obtain ⟨among, above⟩ := ih later
        exact ⟨List.mem_cons_of_mem spec among, (Nat.lt_succ_self watermark).trans above⟩

theorem numberBranches_unique {watermark : Nat} {specs : List BranchSpec} {id : BranchId}
    {spec spec' : BranchSpec} (member : (id, spec) ∈ numberBranches watermark specs)
    (member' : (id, spec') ∈ numberBranches watermark specs) : spec = spec' := by
  induction specs generalizing watermark with
  | nil => exact (List.not_mem_nil member).elim
  | cons first rest ih =>
      rcases List.mem_cons.mp member with here | later
      · rcases List.mem_cons.mp member' with here' | later'
        · exact (congrArg Prod.snd here).trans (congrArg Prod.snd here').symm
        · have above := (numberBranches_spec later').2
          rw [congrArg Prod.fst here] at above
          exact (lt_irrefl _ above).elim
      · rcases List.mem_cons.mp member' with here' | later'
        · have above := (numberBranches_spec later).2
          rw [congrArg Prod.fst here'] at above
          exact (lt_irrefl _ above).elim
        · exact ih later later'

/-- A branch of the definition comes from a declared one, a fork with the identity of its parent. -/
theorem defineBranches_declared {sequence watermark : Nat} {declared : List (BranchId × BranchSpec)}
    {specs : List BranchSpec} {branches : List BranchDefinition}
    (defined : (defineBranches sequence watermark declared specs).2 = .ok branches) :
    ∀ branch ∈ branches, ∃ spec, (branch.id, spec) ∈ numberBranches watermark specs ∧
      ((spec.forkFrom = none ∧ branch.parent = .null ∧ branch.parameters = spec.merged none) ∨
        ∃ parent ∈ declared ++ numberBranches watermark specs,
          spec.forkFrom = some parent.2.name ∧ branch.parent = parent.1 ∧
            branch.parameters = spec.merged (some parent.2)) := by
  induction specs generalizing watermark declared branches with
  | nil =>
      obtain rfl := Except.ok.inj defined
      exact fun _ member => nomatch member
  | cons spec rest ih =>
      obtain ⟨first, others, rfl, result, shape⟩ := defineBranches_ok_cons defined
      intro branch member
      rcases List.mem_cons.mp member with rfl | later
      · refine ⟨spec, ?_⟩
        rcases shape with ⟨root, rfl⟩ | ⟨parent, found, forked, rfl⟩
        · exact ⟨List.mem_cons_self, .inl ⟨root, rfl, rfl⟩⟩
        · exact ⟨List.mem_cons_self,
            .inr ⟨parent, List.mem_append_left _ found, forked, rfl, rfl⟩⟩
      · obtain ⟨spec', among, source⟩ := ih result branch later
        refine ⟨spec', List.mem_cons_of_mem _ among, ?_⟩
        rwa [List.append_assoc] at source

/-- A chain of ancestors in the definition is one in the specification. -/
theorem chain_declared {sequence watermark : Nat} {specs : List BranchSpec}
    {branches : List BranchDefinition}
    (defined : (defineBranches sequence watermark [] specs).2 = .ok branches) {start : BranchId}
    {spec : BranchSpec} (numbered : (start, spec) ∈ numberBranches watermark specs)
    {ancestors : List BranchId}
    (chain : List.IsChain (ForksFrom (branches.map BranchDefinition.shape)) (start :: ancestors)) :
    ∃ declared, List.IsChain (DeclaredFork specs) (spec :: declared) ∧
      declared.length = ancestors.length := by
  induction ancestors generalizing start spec with
  | nil => exact ⟨[], .singleton spec, rfl⟩
  | cons parent rest ih =>
      obtain ⟨⟨⟨shape, member, rfl, rfl⟩, known⟩, later⟩ := List.isChain_cons_cons.mp chain
      obtain ⟨branch, among, rfl⟩ := List.mem_map.mp member
      obtain ⟨source, from', cases⟩ := defineBranches_declared defined branch among
      obtain rfl := numberBranches_unique numbered from'
      rcases cases with ⟨-, null, -⟩ | ⟨above, listed, forked, same, -⟩
      · obtain ⟨_, other, named⟩ := List.mem_map.mp known
        obtain ⟨branch', among', rfl⟩ := List.mem_map.mp other
        obtain ⟨_, numbered', -⟩ := defineBranches_declared defined branch' among'
        have positive := (numberBranches_spec numbered').2
        rw [show branch'.id = .null from named.trans null] at positive
        exact (Nat.not_lt_zero _ positive).elim
      · rw [show branch.shape.parent = above.1 from same] at later
        obtain ⟨declared, chained, length⟩ := ih listed later
        refine ⟨above.2 :: declared, ?_, by rw [List.length_cons, length, List.length_cons]⟩
        exact List.isChain_cons_cons.mpr ⟨⟨forked, (numberBranches_spec listed).1⟩, chained⟩

/-- The record of a specification that fits is within the unchecked bounds. -/
theorem ExperimentSpec.Fits.unchecked [MetricReal R] {spec : ExperimentSpec R} {limits : Limits}
    (fits : spec.Fits limits) {sequence watermark : Nat} {branches : List BranchDefinition}
    (defined : (defineBranches sequence watermark [] spec.branches).2 = .ok branches)
    {id id' : ExperimentId} {hypothesis : HypothesisId} {policy : PolicyId}
    {metrics : List (MetricDefinition R)} {expected : MetricId}
    (valid : validateExperimentRecord
      (spec.record id hypothesis policy metrics expected branches sequence) limits id' = .ok ()) :
    (spec.record id hypothesis policy metrics expected branches sequence).census.Unchecked
      limits where
  parameters := fun shape member => by
    obtain ⟨branch, among, rfl⟩ := List.mem_map.mp member
    obtain ⟨source, numbered, cases⟩ := defineBranches_declared defined branch among
    have declared := (numberBranches_spec numbered).1
    rcases cases with ⟨root, -, same⟩ | ⟨parent, listed, forked, -, same⟩
    · rw [BranchDefinition.shape, same]
      exact fits.roots source declared root
    · rw [BranchDefinition.shape, same]
      exact fits.forks source declared parent.2 ⟨forked, (numberBranches_spec listed).1⟩
  depth := fun shape member ancestors chain => by
    obtain ⟨branch, among, rfl⟩ := List.mem_map.mp member
    obtain ⟨source, numbered, -⟩ := defineBranches_declared defined branch among
    obtain ⟨declared, chained, length⟩ := chain_declared defined numbered chain
    rw [← length]
    exact fits.depth source (numberBranches_spec numbered).1 declared chained
  parents := (validateExperimentRecord_branches valid).2.2
  trialObservations := fun _ => Nat.zero_le _
  listed := fun _ => Nat.zero_le _
  held := fun _ => Nat.zero_le _

/-! ## Requests that stay within the bounds -/

section Requests

variable [MetricReal R] [CanonicalDigests R]

/-- The observation of a request is stored, as evidence or as history. -/
def Coordinator.keepsObservation (c : Coordinator R) (record : ExperimentRecord R)
    (request : PublishObservationRequest R) : Bool :=
  match c.checkEnvelope (observationEnvelope request record) with
  | .error _ => record.retains c.limits
  | .ok _ => match c.admitObservation record request.observation with
      | .ok (some _) => true
      | _ => false

/-- The request takes no path on which a bound goes unchecked. -/
def Coordinator.FitsBounds (c : Coordinator R) : Request R → Prop
  | .createExperiment spec => validateSpec spec c.limits = .ok () → spec.Fits c.limits
  | .forkBranch experiment parent spec => ∀ record parentBranch,
      c.forkBranchGuard experiment parent spec = .ok (record, parentBranch) →
        (mergedParameters spec.parameters parentBranch.parameters).length ≤
            c.limits.maxParametersPerBranch ∧
          ∀ ancestors, List.IsChain (ForksFrom record.census.branches) (parent :: ancestors) →
            ancestors.length < c.limits.maxLineageDepth
  | .publishObservation request => ∀ record,
      c.findExperiment request.observation.experiment = some record →
        c.keepsObservation record request = true →
          record.census.observations.count request.observation.trial <
            c.limits.maxObservationsPerTrial
  | .finalizeExperiment experiment candidate reason => ∀ record,
      c.finalizeGuard experiment = .ok record →
        ExperimentRecord.concludes (Coordinator.finalDecision record candidate reason
          ⟨c.state.watermarks.decision + 1⟩ (c.currentSequence + 1)).outcome = true →
            record.rollbackPoints.length < c.limits.maxDecisionsPerExperiment
  | .rollback experiment target _ => ∀ record chosen,
      c.rollbackGuard experiment target = .ok (record, chosen) →
        record.rollbackPoints.length < c.limits.maxDecisionsPerExperiment
  | _ => True

end Requests

/-- All bounds of an experiment, with what keeps them. -/
structure Census.Bounded (limits : Limits) (census : Census) : Prop
    extends Census.Unchecked limits census, Census.Checked limits census

namespace Census

variable {limits : Limits} {census : Census}

theorem Bounded.addBranch (bounded : census.Bounded limits) {branch : BranchShape}
    (unchecked : (census.addBranch branch).Unchecked limits)
    (room : census.branches.length < limits.maxBranchesPerExperiment) :
    (census.addBranch branch).Bounded limits := by
  refine ⟨unchecked, { bounded.toChecked with branches := ?_ }⟩
  rw [Census.addBranch, List.length_append]
  exact room

theorem Bounded.addObservation (bounded : census.Bounded limits) {trial : TrialId}
    (budget : census.observations.count trial < limits.maxObservationsPerTrial)
    (room : census.observations.length < limits.maxObservationsPerExperiment) :
    (census.addObservation trial).Bounded limits := by
  refine ⟨bounded.toUnchecked.addObservation budget,
    { bounded.toChecked with observations := ?_ }⟩
  rw [Census.addObservation, List.length_append]
  exact room

theorem Bounded.addArtifact (bounded : census.Bounded limits) {trial : TrialId}
    (attempt : TrialAttemptId) (budget : census.held trial < limits.maxArtifactsPerAttempt)
    (room : census.artifacts.length < limits.maxArtifactsPerExperiment) :
    (census.addArtifact trial attempt).Bounded limits := by
  refine ⟨bounded.toUnchecked.addArtifact attempt budget, { bounded.toChecked with artifacts := ?_ }⟩
  rw [Census.addArtifact, List.length_append]
  exact room

theorem Bounded.conclude (bounded : census.Bounded limits) {decisions points : Nat}
    (decided : census.decisions + decisions ≤ limits.maxDecisionsPerExperiment)
    (pointed : census.rollbackPoints + points ≤ limits.maxDecisionsPerExperiment) :
    (census.conclude decisions points).Bounded limits :=
  ⟨bounded.toUnchecked.conclude decisions points,
    { bounded.toChecked with decisions := decided, rollbackPoints := pointed }⟩

end Census

/-! ## What a request adds -/

section Effects

variable [MetricReal R] [CanonicalDigests R] {c : Coordinator R} {experiment : ExperimentId}
  {record after : ExperimentRecord R} {marks : Watermarks}

omit [MetricReal R] [CanonicalDigests R] in
theorem pushArtifact_bounded {limits : Limits} (bounded : record.census.Bounded limits)
    {key : TrialId} {trial : TrialRecord} (found : record.trials.find? key = some trial)
    {artifact : ArtifactRecord} (named : artifact.trial = key)
    (budget : trial.artifacts.length < limits.maxArtifactsPerAttempt)
    (room : record.artifacts.length < limits.maxArtifactsPerExperiment) :
    (record.pushArtifact key artifact).census.Bounded limits := by
  rw [pushArtifact_census record found named]
  refine bounded.addArtifact artifact.attempt ?_ ?_
  · rw [show record.census.held key = trial.artifacts.length by
      simp [ExperimentRecord.census, heldBy, found]]
    exact budget
  · rw [show record.census.artifacts.length = record.artifacts.length by
      simp [ExperimentRecord.census]]
    exact room

/-- The record holds what the bounds allow, and its trials are stored under their identities. -/
def BoundedAt (c : Coordinator R) (experiment : ExperimentId) (limits : Limits) : Prop :=
  c.limits = limits ∧ ∃ record, c.findExperiment experiment = some record ∧
    record.census.Bounded limits ∧
      ∀ key trial, record.trials.find? key = some trial → trial.id = key

omit [MetricReal R] [CanonicalDigests R] in
/-- Registering artifacts stays within the bounds, wherever it stops. -/
theorem registerArtifacts_bounded (envelope : AuthorityEnvelope) (artifacts : List ArtifactRecord)
    {limits : Limits} (bounded : BoundedAt c envelope.experiment limits) :
    BoundedAt (Coordinator.registerArtifacts envelope c artifacts).1 envelope.experiment limits := by
  let property (reached : Coordinator R) : Prop := BoundedAt reached envelope.experiment limits
  have kept : property (Coordinator.registerArtifacts envelope c artifacts).1 := by
    refine Coordinator.registerArtifacts_keeps envelope (fun _ same => same) ?_ artifacts bounded
    rintro c record trial submitted ⟨rfl, _, same, bounded, named⟩ found held room budget
    obtain rfl := Option.some.inj (same.symm.trans found)
    refine ⟨rfl, _, OrderedMap.find?_assign_self ..,
      pushArtifact_bounded bounded held (named _ trial held) budget room, ?_⟩
    intro key other lookup
    rcases OrderedMap.find?_modify_cases lookup with ⟨rfl, before, there, rfl⟩ | ⟨-, there⟩
    · exact named _ before there
    · exact named key other there
  exact kept

omit [MetricReal R] [CanonicalDigests R] in
/-- The record after a commit has registered its artifacts. -/
theorem registered_bounded {request : CommitTrialRequest} {branch : BranchDefinition}
    {trial : TrialRecord} {attempt : AttemptRecord} {registered : ExperimentRecord R}
    (guarded : c.commitTrialGuard request = .ok ⟨record, branch, trial, attempt⟩)
    (stored : (Coordinator.registerArtifacts request.envelope c.nextSequence
      request.artifacts).1.findExperiment request.envelope.experiment = some registered)
    {earlier : Watermarks} (life : Lifecycle earlier record)
    (bounded : record.census.Bounded c.limits) : registered.census.Bounded c.limits := by
  obtain ⟨-, -, -, found, -⟩ :=
    (c.checkEnvelope_eq_ok _ _).mp (Coordinator.commitTrialGuard_ok guarded)
  have start : BoundedAt c.nextSequence request.envelope.experiment c.limits :=
    ⟨rfl, record, found, bounded, fun key trial lookup => (life.trial key trial lookup).id⟩
  obtain ⟨-, after, ended, within, -⟩ :=
    registerArtifacts_bounded request.envelope request.artifacts start
  rwa [Option.some.inj (stored.symm.trans ended)]

/-- A request that fits the bounds keeps the record within them. -/
theorem Effect.bounded {request : Request R} (fits : c.FitsBounds request)
    (effect : Effect c experiment record marks request after) {earlier : Watermarks}
    (life : Lifecycle earlier record) (bounded : record.census.Bounded c.limits) :
    after.census.Bounded c.limits := by
  cases effect with
  | revise guarded => exact (revise_census ..).symm ▸ bounded
  | @fork parent spec parentBranch branch guarded forked valid allocated =>
      have allowed := Coordinator.forkBranchGuard_ok guarded
      have named : parentBranch.id = parent := by simpa using List.find?_some allowed.parentFound
      obtain ⟨parameters, shallow⟩ := fits record parentBranch guarded
      obtain ⟨valids, distinct, -⟩ := validateExperimentRecord_branches valid
      rw [fork_census] at valids distinct ⊢
      rw [Census.addBranch, List.map_append, List.map_singleton] at distinct
      have shape : branch.shape = ⟨branch.id, parentBranch.id,
          (mergedParameters spec.parameters parentBranch.parameters).length⟩ := by
        rw [forked]
        rfl
      refine bounded.addBranch (bounded.toUnchecked.addBranch ?_ ?_ ?_ ?_ ?_) ?_
      · exact valids branch.shape (List.mem_append_right _ List.mem_cons_self)
      · intro member
        exact (List.nodup_append.mp distinct).2.2 _ member _ List.mem_cons_self rfl
      · rw [shape, ExperimentRecord.census, List.map_map]
        exact List.mem_map_of_mem (List.mem_of_find?_eq_some allowed.parentFound)
      · rw [shape]
        exact parameters
      · rw [shape, named]
        exact shallow
      · rw [show record.census.branches.length = record.definition.branches.length by
          simp [ExperimentRecord.census]]
        exact allowed.room
  | forkUndone guarded => exact (unfork_census ..).symm ▸ bounded
  | retire guarded => exact (retire_census ..).symm ▸ bounded
  | @refuseObservation request verdict named found refused =>
      unfold Coordinator.refusedObservation
      dsimp only
      split
      · rename_i retains
        have budget := fits record (named ▸ found)
          (by rw [Coordinator.keepsObservation, refused]; exact retains)
        rw [pushObservation_census, reject_census]
        refine bounded.addObservation budget ?_
        rw [show record.census.observations.length = record.observations.length by
          simp [ExperimentRecord.census]]
        simp only [ExperimentRecord.retains, Bool.and_eq_true, decide_eq_true_eq] at retains
        exact retains.2
      · rw [reject_census]
        exact bounded
  | @publishObservation request branch trial attempt admitted named accepted admission =>
      obtain ⟨-, -, -, found, -⟩ := (c.checkEnvelope_eq_ok _ _).mp accepted
      obtain ⟨rfl, allowed⟩ := Coordinator.admitObservation_ok admission
      have budget := fits record found (by
        rw [Coordinator.keepsObservation, accepted]
        simp only [admission])
      rw [observe_census, pushObservation_census]
      refine bounded.addObservation budget ?_
      rw [show record.census.observations.length = record.observations.length by
        simp [ExperimentRecord.census]]
      exact allowed.room
  | publishObservationUndone named accepted => exact (observe_census ..).symm ▸ bounded
  | refuseArtifact named found built refused => exact (reject_census ..).symm ▸ bounded
  | @publishArtifact request envelope branch trial attempt named built accepted admission =>
      obtain ⟨-, -, -, -, admitted⟩ := (c.checkEnvelope_eq_ok _ _).mp accepted
      have allowed := Coordinator.admitArtifact_ok admission
      have same := Coordinator.artifactEnvelope_trial built
      rw [touch_census]
      exact pushArtifact_bounded bounded (same ▸ admitted.trialFound) rfl allowed.budget allowed.room
  | publishArtifactUndone named built accepted => exact (touch_census ..).symm ▸ bounded
  | registerArtifacts named guarded refused stored =>
      subst named
      exact registered_bounded guarded stored life bounded
  | commit named guarded accepted stored =>
      subst named
      rw [complete_census]
      exact registered_bounded guarded stored life bounded
  | fail named guarded => exact (fail_census ..).symm ▸ bounded
  | cancelTrial owner isOpen => exact (cancelTrial_census ..).symm ▸ bounded
  | cancel found allowed => exact (cancel_census ..).symm ▸ bounded
  | @finalize candidate reason decision guarded decided allocated pointed =>
      have allowed := Coordinator.finalizeGuard_ok guarded
      rw [finalize_census]
      refine bounded.conclude allowed.room ?_
      split
      · rename_i concludes
        exact fits record guarded (decided ▸ concludes)
      · exact bounded.rollbackPoints
  | @rollback target reason chosen guarded allocated =>
      rw [rollback_census]
      exact bounded.conclude bounded.decisions (fits record chosen guarded)

end Effects

/-! ## The durable state -/

/-- The bounds on the experiments of a state. -/
structure CoordinatorState.Bounded (limits : Limits) (state : CoordinatorState R) : Prop where
  experiments : state.experiments.size ≤ limits.maxExperiments
  records : ∀ id record, state.experiments.find? id = some record → record.census.Bounded limits

theorem CoordinatorState.Bounded.assign {limits : Limits} {old new : CoordinatorState R}
    (bounded : old.Bounded limits) {experiment : ExperimentId} {before after : ExperimentRecord R}
    (found : old.experiments.find? experiment = some before)
    (stored : new.experiments = old.experiments.assign experiment after)
    (within : after.census.Bounded limits) : new.Bounded limits where
  experiments := by
    have size := old.experiments.size_assign experiment after
    rw [found, Option.toList_some, List.length_singleton, Nat.add_right_cancel_iff] at size
    rw [stored, size]
    exact bounded.experiments
  records := CoordinatorState.Every.assign bounded.records stored within

section Steps

variable [MetricReal R] [CanonicalDigests R] {c : Coordinator R} {request : Request R}
  {old new : CoordinatorState R}

theorem StateStep.bounded (fits : c.FitsBounds request) (step : StateStep c request old new)
    (consistent : old.Consistent) (bounded : old.Bounded c.limits) : new.Bounded c.limits := by
  cases step with
  | quiet same workers => exact ⟨same ▸ bounded.experiments, same ▸ bounded.records⟩
  | change found effect stored workers =>
      exact bounded.assign found stored
        (effect.bounded fits (consistent _ _ found) (bounded.records _ _ found))
  | @create spec record expected branches named accepted room defined valid allocated before absent
      stored workers branched =>
      subst named
      refine ⟨?_, CoordinatorState.Every.assign bounded.records stored ?_⟩
      · have size := old.experiments.size_assign ⟨c.state.watermarks.experiment + 1⟩ record
        rw [absent, before] at size
        rw [stored, before]
        exact size.le.trans room
      · refine ⟨?_, validateExperimentRecord_checked valid⟩
        rw [defined] at valid ⊢
        exact (fits accepted).unchecked branched valid
  | addTrial named guarded valid found fresh allocated stored workers =>
      refine bounded.assign found stored ?_
      rw [addTrial_census]
      exact bounded.records _ _ found
  | addTrialUndone named guarded found fresh stored workers =>
      refine bounded.assign found stored ?_
      have above : old.watermarks.trial < c.state.watermarks.trial + 1 := by
        rw [fresh]
        exact Nat.lt_succ_self _
      obtain ⟨line, same⟩ := (consistent _ _ found).removeTrial_addTrial above
      rw [same, log_census]
      exact bounded.records _ _ found
  | issue named guarded found opened trialFound claimable fresh allocated stored workers =>
      refine bounded.assign found stored ?_
      rw [issue_census]
      exact bounded.records _ _ found
  | lose named stored workers =>
      refine ⟨?_, fun id record found => ?_⟩
      · rw [stored, OrderedMap.size_mapValues]
        exact bounded.experiments
      · rw [stored, OrderedMap.find?_mapValues] at found
        obtain ⟨before, lookup, rfl⟩ := Option.map_eq_some_iff.mp found
        rw [loseWorker_census]
        exact bounded.records id before lookup
  | register named guarded fresh identity same workers =>
      exact ⟨same ▸ bounded.experiments, same ▸ bounded.records⟩

theorem StateSteps.bounded (fits : c.FitsBounds request) (steps : StateSteps c request old new)
    (consistent : old.Consistent) (arranged : old.Arranged) (bounded : old.Bounded c.limits) :
    new.Bounded c.limits := by
  induction steps with
  | refl => exact bounded
  | tail earlier last ih =>
      exact last.1.bounded fits (StateSteps.sound earlier consistent arranged).1 ih

/-- Only a registration adds a worker record. -/
theorem StateSteps.workers_length (steps : StateSteps c request old new)
    (other : ∀ registration, request ≠ .registerWorker registration) :
    new.workers.length = old.workers.length := by
  induction steps with
  | refl => rfl
  | tail _ last ih =>
      refine Eq.trans ?_ ih
      cases last.1 with
      | lose named stored workers => rw [workers, List.length_map]
      | register named guarded fresh identity same workers => exact (other _ named).elim
      | quiet same workers => rw [workers]
      | change found effect stored workers => rw [workers]
      | create _ _ _ _ _ _ _ _ _ workers _ => rw [workers]
      | addTrial _ _ _ _ _ _ _ workers => rw [workers]
      | addTrialUndone _ _ _ _ _ workers => rw [workers]
      | issue _ _ _ _ _ _ _ _ _ workers => rw [workers]

omit [MetricReal R] [CanonicalDigests R] in
theorem replacing_workers_length (c : Coordinator R) (registration : RegisterWorkerRequest) :
    (c.replacing registration).state.workers.length = c.state.workers.length := by
  have replaced : ∀ (sequence : Nat) (workers : List LiveWorker) (c : Coordinator R),
      (workers.foldl (Coordinator.replaceIncarnation sequence) c).state.workers.length =
        c.state.workers.length := by
    intro sequence workers
    induction workers with
    | nil => exact fun _ => rfl
    | cons live rest ih =>
        intro c
        rw [List.foldl_cons, ih]
        exact List.length_map _
  exact replaced _ _ c.nextSequence

/-- A request keeps the bound on worker records. -/
theorem Coordinator.perform_workers_bounded (c : Coordinator R) (request : Request R)
    (fault : Option SaveFault)
    (bounded : c.state.workers.length ≤ c.limits.maxRegisteredWorkers) :
    (c.perform request fault).1.state.workers.length ≤ c.limits.maxRegisteredWorkers := by
  by_cases registers : ∃ registration, request = .registerWorker registration
  · obtain ⟨registration, rfl⟩ := registers
    have kept := (replacing_workers_length c registration).le.trans bounded
    have ending := c.perform_ending fault (.registerWorker registration)
    generalize c.perform (.registerWorker registration) fault = result at ending ⊢
    cases ending with
    | @saving _ prepared undo answer saves =>
        cases saves with
        | register guarded unknown fresh =>
            have limits : (c.replacing registration).limits = c.limits :=
              congrArg Config.limits
                (replaceIncarnations_sameProcess _ _ c.nextSequence).config
            simp only [registerFreshGuard, Check.and_eq_ok, require_eq_ok,
              decide_eq_true_eq] at fresh
            have room := fresh.2
            rw [limits] at room
            rw [endWith_id, persistLocked_state, addWorker]
            dsimp only [nextSequence]
            rw [List.length_append]
            exact room
    | replaced guarded unknown refused => exact kept
    | refused failed => exact bounded
    | counted failed => exact bounded
    | registered guarded known unrevoked => exact bounded
  · rw [(c.perform_steps request fault).workers_length fun registration same =>
      registers ⟨registration, same⟩]
    exact bounded

end Steps

/-! ## Starts -/

/-- None of the bounds that the validator leaves out is lowered. -/
structure Limits.Covers (limits earlier : Limits) : Prop where
  parameters : earlier.maxParametersPerBranch ≤ limits.maxParametersPerBranch
  depth : earlier.maxLineageDepth ≤ limits.maxLineageDepth
  observations : earlier.maxObservationsPerTrial ≤ limits.maxObservationsPerTrial
  artifacts : earlier.maxArtifactsPerAttempt ≤ limits.maxArtifactsPerAttempt

theorem Census.Unchecked.mono {limits earlier : Limits} {census : Census}
    (unchecked : census.Unchecked earlier) (covers : limits.Covers earlier) :
    census.Unchecked limits where
  parameters := fun branch member =>
    (unchecked.parameters branch member).trans covers.parameters
  depth := fun branch member ancestors chain =>
    (unchecked.depth branch member ancestors chain).trans covers.depth
  parents := unchecked.parents
  trialObservations := fun trial => (unchecked.trialObservations trial).trans covers.observations
  listed := unchecked.listed
  held := fun trial => (unchecked.held trial).trans covers.artifacts

/-- Every experiment of the state is within the bounds that no validator checks. -/
abbrev CoordinatorState.Unchecked (limits : Limits) (state : CoordinatorState R) : Prop :=
  state.Every fun record => record.census.Unchecked limits

/-- Recovery changes no census. -/
theorem Recovers.census {old new : CoordinatorState R} (recovers : Recovers old new)
    {id : ExperimentId} {record : ExperimentRecord R}
    (found : new.experiments.find? id = some record) :
    ∃ original, old.experiments.find? id = some original ∧ record.census = original.census := by
  obtain ⟨original, before, same, -⟩ := recovers.source found
  refine ⟨original, before, ?_⟩
  rw [← forget_census, same, forget_census, recovered_census]

theorem Recovers.size {old new : CoordinatorState R} (recovers : Recovers old new) :
    new.experiments.size = old.experiments.size := by
  have same : new.experiments.mapValues ExperimentRecord.forget =
      old.experiments.mapValues fun record => record.recovered.forget := by
    refine OrderedMap.ext fun id => ?_
    rw [OrderedMap.find?_mapValues, OrderedMap.find?_mapValues]
    exact recovers.records id
  have sizes := congrArg OrderedMap.size same
  rwa [OrderedMap.size_mapValues, OrderedMap.size_mapValues] at sizes

theorem PartlyStaged.unchecked {limits : Limits} {old new : CoordinatorState R}
    (staged : PartlyStaged old new) (unchecked : old.Unchecked limits) : new.Unchecked limits := by
  let property (record : ExperimentRecord R) : Prop := record.census.Unchecked limits
  have every : old.Every property := unchecked
  refine every.stage staged fun sequence bounded => ?_
  change (ExperimentRecord.census _).Unchecked limits
  rw [stage_census]
  exact bounded

section Start

variable [MetricReal R] {config : Config} {image : Option (CoordinatorState R)}

/-- What a load has checked. -/
theorem loadState_bounded {loaded : CoordinatorState R}
    (succeeded : Coordinator.loadState config image = .ok loaded)
    (unchecked : loaded.Unchecked config.limits) :
    loaded.Bounded config.limits ∧ loaded.workers.length ≤ config.limits.maxRegisteredWorkers := by
  unfold Coordinator.loadState at succeeded
  split at succeeded
  · obtain rfl := Except.ok.inj succeeded
    exact ⟨⟨Nat.zero_le _, fun _ _ found => nomatch found⟩, Nat.zero_le _⟩
  · split at succeeded
    · obtain rfl := Except.ok.inj succeeded
      exact ⟨⟨Nat.zero_le _, fun _ _ found => nomatch found⟩, Nat.zero_le _⟩
    · simp only [Coordinator.load, check_bind_eq_ok, require_eq_ok, decide_eq_true_eq, pure,
        Except.pure, Except.ok.injEq] at succeeded
      obtain ⟨-, workers, experiments, valid, rfl⟩ := succeeded
      simp only [CoordinatorState.validate, sequence_cons_eq_ok, forEach_eq_ok] at valid
      obtain ⟨-, -, -, -, each, -⟩ := valid
      refine ⟨⟨experiments, fun id record found => ?_⟩, workers⟩
      have member := (OrderedMap.mem_entries_iff _ id record).mpr found
      exact ⟨unchecked id record found, validateExperimentRecord_checked (each _ member).2.1⟩

theorem create_loaded {outcomes : WriteOutcomes} {c : Coordinator R}
    (started : (Coordinator.create config image outcomes).2 = .ok c) :
    Coordinator.loadState config image = .ok (Coordinator.origin config image) := by
  unfold Coordinator.create at started
  split at started
  · cases started
  · split at started
    · cases started
    · rename_i loaded succeeded
      rw [succeeded, Coordinator.loadState_eq_ok succeeded]

/-- A coordinator that has started is within the bounds if its file meets the unchecked ones. -/
theorem create_bounded {outcomes : WriteOutcomes} {c : Coordinator R}
    (saved : (Coordinator.origin config image).Saved)
    (started : (Coordinator.create config image outcomes).2 = .ok c)
    (unchecked : (Coordinator.origin config image).Unchecked config.limits) :
    c.state.Bounded config.limits ∧
      c.state.workers.length ≤ config.limits.maxRegisteredWorkers := by
  have recovers := (Coordinator.create_spec config image outcomes saved).recovers c started
  obtain ⟨bounded, workers⟩ := loadState_bounded (create_loaded started) unchecked
  refine ⟨⟨recovers.size.le.trans bounded.experiments, fun id record found => ?_⟩, ?_⟩
  · obtain ⟨original, before, same⟩ := recovers.census found
    rw [same]
    exact bounded.records id original before
  · let kept (later : CoordinatorState R) : Prop :=
      later.workers = (Coordinator.origin config image).workers
    have blind : Coordinator.Blind kept := fun _ _ _ same => same
    have upheld : kept c.state := (Coordinator.create_upheld blind config outcomes rfl).2 c started
    exact (congrArg List.length upheld).le.trans workers

end Start

/-! ## Runs -/

section Runs

variable [MetricReal R] [CanonicalDigests R] {path : Text}

/-- The event takes no path on which a bound goes unchecked; a start lowers none of the bounds that
the validator leaves out below those of the start before it, if there is a file to load. -/
def Event.FitsBounds (earlier : Limits) : World R → Event R → Prop
  | .running c, .request sent _ => c.FitsBounds sent
  | .down image, .start config _ => image = none ∨ config.limits.Covers earlier
  | _, _ => True

/-- The limits of the last start. -/
def Event.limitsAfter (earlier : Limits) : Event R → Limits
  | .start config _ => config.limits
  | _ => earlier

/-- The runs from an empty state path whose steps fit the bounds, with the limits of the last
start. -/
abbrev BoundedRun (path : Text) (first : Limits) : List (Event R) → World R × Limits → Prop :=
  Run (fun source event target => event.FitsBounds source.2 source.1 ∧
    World.Step path source.1 event target.1 ∧ target.2 = event.limitsAfter source.2)
    (.down none, first)

/-- The world is within the bounds of the last start. -/
def World.Bounded (limits : Limits) : World R → Prop
  | .running c => (c.limits = limits ∧ c.state.Bounded limits ∧
      c.state.workers.length ≤ limits.maxRegisteredWorkers) ∧
        ∀ image, c.image = some image → image.Unchecked limits
  | .down image => ∀ state, image = some state → state.Unchecked limits

theorem World.Bounded.request {limits : Limits} {c : Coordinator R} {request : Request R}
    (fits : c.FitsBounds request) (fault : Option SaveFault)
    (sound : (World.running c).Sound path) (bounded : (World.running c).Bounded limits) :
    (World.running (c.perform request fault).1).Bounded limits := by
  obtain ⟨⟨rfl, within, workers⟩, saved⟩ := bounded
  obtain ⟨-, consistent, arranged, -⟩ := sound
  have operated := c.perform_operated request fault
  have after := (c.perform_steps request fault).bounded fits consistent arranged within
  refine ⟨⟨congrArg Config.limits operated.config, after,
    c.perform_workers_bounded request fault workers⟩, ?_⟩
  cases operated.outcome with
  | untouched image degraded =>
      rw [image]
      exact saved
  | failed image degraded =>
      rw [image]
      exact saved
  | written image degraded hasPath =>
      rw [image]
      rintro state ⟨⟩
      exact fun id record found => (after.records id record found).toUnchecked

omit [CanonicalDigests R] in
theorem World.Bounded.start {limits : Limits} {image : Option (CoordinatorState R)}
    {config : Config} (fits : image = none ∨ config.limits.Covers limits)
    (sound : (World.down image).Sound path) (bounded : (World.down image).Bounded limits)
    (outcomes : WriteOutcomes) :
    (World.down (Coordinator.create config image outcomes).1).Bounded config.limits ∧
      ∀ c, (Coordinator.create config image outcomes).2 = .ok c →
        (World.running c).Bounded config.limits := by
  have saved := (sound.origin config).1
  have outcome := Coordinator.create_spec config image outcomes saved
  have held : (World.down image).Bounded config.limits := by
    intro state here id record found
    rcases fits with none | covers
    · exact nomatch none.symm.trans here
    · exact (bounded state here id record found).mono covers
  have origin : (Coordinator.origin config image).Unchecked config.limits := by
    unfold Coordinator.origin
    split
    · exact fun _ _ found => nomatch found
    · cases image with
      | none => exact fun _ _ found => nomatch found
      | some state => exact held state rfl
  have running : ∀ c, (Coordinator.create config image outcomes).2 = .ok c →
      c.state.Bounded config.limits ∧
        c.state.workers.length ≤ config.limits.maxRegisteredWorkers :=
    fun c started => create_bounded saved started origin
  have left : (World.down (Coordinator.create config image outcomes).1).Bounded config.limits := by
    by_cases noPath : config.statePath = []
    · rw [outcome.noPath noPath]
      exact held
    · intro state written
      rcases outcome.written noPath state written with staged | ⟨c, started, rfl⟩
      · exact staged.unchecked origin
      · exact fun id record found => ((running c started).1.records id record found).toUnchecked
  refine ⟨left, fun c started => ⟨⟨?_, running c started⟩, ?_⟩⟩
  · exact congrArg Config.limits (outcome.configured c started)
  · rw [outcome.stored c started]
    exact left

/-- In every run whose steps fit the bounds, every state in memory is within the limits of its
coordinator. -/
theorem governance_bounds {first limits : Limits} {events : List (Event R)} {world : World R}
    (run : BoundedRun path first events (world, limits)) :
    ∀ c, world = .running c →
      c.state.experiments.size ≤ c.limits.maxExperiments ∧
        c.state.workers.length ≤ c.limits.maxRegisteredWorkers ∧
        ∀ id record, c.findExperiment id = some record → record.census.Within c.limits := by
  let invariant (state : World R × Limits) : Prop :=
    state.1.Sound path ∧ state.1.Bounded state.2
  have holds : invariant (world, limits) := by
    refine run.preserves ?_ ⟨(World.Reachable.empty path).sound, fun _ held => nomatch held⟩
    rintro ⟨source, earlier⟩ event ⟨target, later⟩ ⟨sound, bounded⟩ ⟨fits, step, rfl⟩
    refine ⟨step.sound sound, ?_⟩
    dsimp only at fits step sound bounded ⊢
    cases step with
    | request c request fault => exact World.Bounded.request fits fault sound bounded
    | stop c => exact bounded.2
    | start samePath started =>
        exact (World.Bounded.start fits sound bounded _).2 _ (by rw [started])
    | @failedStart config image left outcomes failure samePath refused =>
        have left := (World.Bounded.start fits sound bounded outcomes).1
        rwa [refused] at left
  rintro c rfl
  obtain ⟨-, ⟨rfl, within, workers⟩, -⟩ := holds
  refine ⟨within.experiments, workers, fun id record found => ?_⟩
  have bounded := within.records id record found
  exact Census.within bounded.toUnchecked bounded.toChecked

theorem BoundedRun.request {first limits : Limits} {events : List (Event R)} {c : Coordinator R}
    (run : BoundedRun path first events (.running c, limits)) {request : Request R}
    (fits : c.FitsBounds request) :
    BoundedRun path first (events ++ [.request request none])
      (.running (c.perform request none).1, limits) :=
  run.snoc ⟨fits, .request c request none, rfl⟩

end Runs

/-- Branches without forks fit when their own parameters do. -/
theorem ExperimentSpec.Fits.ofRoots {limits : Limits} {spec : ExperimentSpec R}
    (roots : ∀ branch ∈ spec.branches, branch.forkFrom = none)
    (parameters : ∀ branch ∈ spec.branches,
      (branch.merged none).length ≤ limits.maxParametersPerBranch) : spec.Fits limits where
  roots := fun branch member _ => parameters branch member
  forks := fun child member parent forked => nomatch (roots child member).symm.trans forked.1
  depth := fun branch member ancestors chain => by
    cases ancestors with
    | nil => exact Nat.zero_le _
    | cons parent rest =>
        have forked := (List.isChain_cons_cons.mp chain).1
        exact nomatch (roots branch member).symm.trans forked.1

namespace Sample

/-- Publish the sample observation. -/
def publication : PublishObservationRequest ℚ :=
  { epoch := coordinator.epoch, worker, boot, observation }

/-- The coordinator after an observation was published. -/
def published : Coordinator ℚ := (claimed.perform (.publishObservation publication) none).1

/-- The requests up to the claim, and the observation of the claimed trial, fit the bounds. -/
theorem published_bounded : ∃ events : List (Event ℚ),
    BoundedRun config.statePath {} events (.running published, config.limits) := by
  have started : BoundedRun config.statePath {} [.start config fun _ => none]
      (.running coordinator, config.limits) :=
    (Run.nil _).snoc ⟨.inl rfl, .start rfl coordinator_started, rfl⟩
  have create : coordinator.FitsBounds (.createExperiment spec) := fun _ =>
    .ofRoots (by decide +kernel) (by decide +kernel)
  have created := started.request create
  have planned := created.request
    (show Coordinator.FitsBounds _ (.createTrial experiment candidate []) from trivial)
  have registered := planned.request
    (show Coordinator.FitsBounds _ (.registerWorker { worker, boot }) from trivial)
  have claimed_bounded : BoundedRun config.statePath {} _ (.running claimed, config.limits) :=
    registered.request (show Coordinator.FitsBounds _
      (.claimTrials { epoch := coordinator.epoch, worker, boot }) from trivial)
  have publish : claimed.FitsBounds (.publishObservation publication) := by
    intro record found _
    have empty : (claimed.findExperiment experiment).map
        (fun record => record.census.observations) = some [] := by decide +kernel
    rw [show claimed.findExperiment experiment = some record from found] at empty
    rw [show record.census.observations = [] from Option.some.inj empty]
    decide +kernel
  exact ⟨_, claimed_bounded.request publish⟩

end Sample

/-- The bounds of a run that stores an observation. -/
theorem governance_bounds_sample : ∃ record,
    Sample.published.findExperiment Sample.experiment = some record ∧
      record.census.observations = [Sample.trial] ∧
      record.census.Within Sample.published.limits := by
  have stored : (Sample.published.findExperiment Sample.experiment).map
      (fun record => record.census.observations) = some [Sample.trial] := by decide +kernel
  obtain ⟨record, found, observations⟩ := Option.map_eq_some_iff.mp stored
  obtain ⟨events, run⟩ := Sample.published_bounded
  exact ⟨record, found, observations, (governance_bounds run _ rfl).2.2 _ record found⟩

/-! ## Requests that exceed the bounds -/

namespace Sample

/-- The first coordinator of a deployment with its own limits. -/
def limited (limits : Limits) : Coordinator ℚ :=
  Coordinator.boot { statePath := text "state", limits } none {}

theorem limited_reachable {limits : Limits} (coherent : limits.isCoherent = true)
    (requests : List (Request ℚ × Option SaveFault)) :
    (World.running ((limited limits).session requests)).Reachable (text "state") := by
  have started : Coordinator.create { statePath := text "state", limits } none (fun _ => none) =
      ((none : Option (CoordinatorState ℚ)), .ok (limited limits)) := by
    simp only [Coordinator.create, coherent]
    rfl
  exact ((World.Reachable.empty _).start rfl started).session requests

/-- A candidate with a parameter where none is allowed. -/
def crowded : Coordinator ℚ :=
  (limited { maxParametersPerBranch := 0 }).session
    [(.createExperiment { spec with branches :=
        [{ name := text "baseline", role := .baseline },
          { name := text "candidate", parameters := [⟨text "depth", .integer, text "1"⟩] }] }, none)]

/-- Two trials allow two observations, and one attempt publishes both. -/
def reported : Coordinator ℚ :=
  (limited { maxObservationsPerTrial := 1 }).session
    [(.createExperiment spec, none), (.createTrial experiment candidate [], none),
      (.createTrial experiment baseline [], none), (.registerWorker { worker, boot }, none),
      (.claimTrials { epoch := coordinator.epoch, worker, boot }, none),
      (.publishObservation ⟨coordinator.epoch, worker, boot, observation⟩, none),
      (.publishObservation ⟨coordinator.epoch, worker, boot,
        { observation with id := ⟨2⟩, validity := .missing }⟩, none)]

/-- A conclusion and a return to its rollback point, where one point is allowed. -/
def returned : Coordinator ℚ :=
  (limited { maxDecisionsPerExperiment := 1 }).session
    [(.createExperiment spec, none), (.finalizeExperiment experiment ⟨99⟩ [], none),
      (.rollback experiment ⟨1⟩ [], none)]

/-- A branch with two ancestors where one is allowed. -/
def deep : Coordinator ℚ :=
  (limited { maxLineageDepth := 1 }).session
    [(.createExperiment { spec with branches :=
        [{ name := text "baseline", role := .baseline },
          { name := text "candidate", forkFrom := some (text "baseline") },
          { name := text "fork", forkFrom := some (text "candidate") }] }, none)]

end Sample

/-- Some run under coherent limits reaches an experiment that exceeds them. -/
def Exceeds (exceeded : Limits → Census → Prop) : Prop :=
  ∃ (c : Coordinator ℚ) (record : ExperimentRecord ℚ),
    (World.running c).Reachable (text "state") ∧ c.limits.isCoherent = true ∧
      c.findExperiment Sample.experiment = some record ∧ exceeded c.limits record.census

theorem Exceeds.of_session {limits : Limits} (coherent : limits.isCoherent = true)
    {requests : List (Request ℚ × Option SaveFault)} {c : Coordinator ℚ}
    (reached : c = (Sample.limited limits).session requests)
    {exceeded : Limits → Census → Prop} [∀ limits census, Decidable (exceeded limits census)]
    (exceeds : (c.findExperiment Sample.experiment).any (fun record =>
      c.limits.isCoherent && decide (exceeded c.limits record.census)) = true) :
    Exceeds exceeded := by
  obtain ⟨record, found, exceeds⟩ := (Option.any_eq_true _ _).mp exceeds
  obtain ⟨still, beyond⟩ := Bool.and_eq_true_iff.mp exceeds
  exact ⟨c, record, reached ▸ Sample.limited_reachable coherent requests, still, found,
    of_decide_eq_true beyond⟩

/-- Coherent limits are exceeded in parameters, in observations of a trial, in rollback points and
in depth. -/
theorem bounds_exceeded :
    (Exceeds fun limits census => ∃ branch ∈ census.branches,
      limits.maxParametersPerBranch < branch.parameters) ∧
    (Exceeds fun limits census =>
      limits.maxObservationsPerTrial < census.observations.count Sample.trial) ∧
    (Exceeds fun limits census => limits.maxDecisionsPerExperiment < census.rollbackPoints) ∧
    Exceeds fun limits census => ∃ ancestors : List BranchId,
      List.IsChain (ForksFrom census.branches) (⟨3⟩ :: ancestors) ∧
        limits.maxLineageDepth < ancestors.length := by
  refine ⟨.of_session rfl (c := Sample.crowded) rfl (by decide +kernel),
    .of_session rfl (c := Sample.reported) rfl (by decide +kernel),
    .of_session rfl (c := Sample.returned) rfl (by decide +kernel), ?_⟩
  have forked : Exceeds fun limits census =>
      census.branches.map (fun branch => (branch.id, branch.parent)) =
        [(⟨1⟩, .null), (⟨2⟩, ⟨1⟩), (⟨3⟩, ⟨2⟩)] ∧ limits.maxLineageDepth < 2 :=
    .of_session rfl (c := Sample.deep) rfl (by decide +kernel)
  obtain ⟨c, record, reachable, coherent, found, links, bound⟩ := forked
  refine ⟨c, record, reachable, coherent, found, [⟨2⟩, ⟨1⟩], ?_, bound⟩
  have forks : ∀ child parent above, (child, parent) ∈ record.census.branches.map
      (fun branch => (branch.id, branch.parent)) → (parent, above) ∈ record.census.branches.map
      (fun branch => (branch.id, branch.parent)) →
      ForksFrom record.census.branches child parent := by
    intro child parent above here there
    obtain ⟨branch, among, same⟩ := List.mem_map.mp here
    obtain ⟨origin, among', same'⟩ := List.mem_map.mp there
    obtain ⟨rfl, rfl⟩ := Prod.mk.inj same
    exact ⟨⟨branch, among, rfl, rfl⟩, (Prod.mk.inj same').1 ▸ List.mem_map_of_mem among'⟩
  rw [links] at forks
  exact .cons_cons (forks ⟨3⟩ ⟨2⟩ ⟨1⟩ (by simp) (by simp))
    (.cons_cons (forks ⟨2⟩ ⟨1⟩ .null (by simp) (by simp)) (.singleton _))

end ExperimentFabric
