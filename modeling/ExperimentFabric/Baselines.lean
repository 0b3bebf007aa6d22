import ExperimentFabric.Freshness
import ExperimentFabric.Inheritance

/-!
# The baseline of an experiment

A fork never adds a second baseline, but a specification may declare several.  In a run whose admitted
specifications declare at most one, every experiment has at most one baseline, so a decision compares
against the same branch in whatever order the branches are listed.
-/

namespace ExperimentFabric

open Lib

variable {R : Type}

/-- At most one branch is a baseline. -/
def ExperimentRecord.SingleBaseline (record : ExperimentRecord R) : Prop :=
  record.definition.branches.countP (·.role = .baseline) ≤ 1

/-- The record with its branches listed differently. -/
def ExperimentRecord.relisted (record : ExperimentRecord R) (branches : List BranchDefinition) :
    ExperimentRecord R :=
  { record with definition := { record.definition with branches := branches } }

/-! ## What a decision compares against -/

section Decisions

variable [MetricReal R] [CanonicalDigests R]

omit [MetricReal R] [CanonicalDigests R] in
theorem conclude_baseline (decision : Decision R) (ruling : Ruling) (comparison : Comparison R) :
    (conclude decision ruling comparison).baseline = decision.baseline ∧
      (conclude decision ruling comparison).baselinePresent = decision.baselinePresent := by
  unfold conclude
  dsimp only
  repeat' split
  all_goals exact ⟨rfl, rfl⟩

/-- The baseline that a decision about an existing candidate records. -/
theorem buildDecision_baseline (record : ExperimentRecord R) (candidate : BranchId) (id : DecisionId)
    (sequence : Nat) :
    let decision := buildDecision record candidate id sequence
    let baseline := (candidateBranch record candidate).bind fun _ => baselineBranch record
    decision.baseline = (baseline.map BranchDefinition.id).getD .null ∧
      decision.baselinePresent = baseline.isSome := by
  dsimp only
  unfold buildDecision
  cases candidateBranch record candidate with
  | none => exact ⟨rfl, rfl⟩
  | some branch =>
      dsimp only
      rw [Option.bind_some]
      cases baselineBranch record with
      | none =>
          rw [if_neg (by simp)]
          exact conclude_baseline _ _ _
      | some baseline =>
          split
          · exact ⟨rfl, rfl⟩
          · exact conclude_baseline _ _ _

/-- With one baseline at most, listing the branches in another order does not change which one a
decision compares against. -/
theorem ExperimentRecord.SingleBaseline.relisted {record : ExperimentRecord R}
    (single : record.SingleBaseline) {branches : List BranchDefinition}
    (perm : branches.Perm record.definition.branches) :
    baselineBranch (record.relisted branches) = baselineBranch record ∧
      ∀ candidate id sequence,
        (buildDecision (record.relisted branches) candidate id sequence).baseline =
            (buildDecision record candidate id sequence).baseline ∧
          (buildDecision (record.relisted branches) candidate id sequence).baselinePresent =
            (buildDecision record candidate id sequence).baselinePresent := by
  have same : baselineBranch (record.relisted branches) = baselineBranch record :=
    find?_perm_of_countP_le_one single perm
  refine ⟨same, fun candidate id sequence => ?_⟩
  have known : (candidateBranch (record.relisted branches) candidate).isSome =
      (candidateBranch record candidate).isSome := by
    unfold candidateBranch
    rw [Bool.eq_iff_iff, List.find?_isSome, List.find?_isSome]
    simp only [List.mem_reverse]
    exact exists_congr fun branch => and_congr_left fun _ => perm.mem_iff
  have chosen : ((candidateBranch (record.relisted branches) candidate).bind fun _ =>
      baselineBranch (record.relisted branches)) =
        (candidateBranch record candidate).bind fun _ => baselineBranch record := by
    rw [same]
    cases left : candidateBranch (record.relisted branches) candidate <;>
      cases right : candidateBranch record candidate <;> simp_all
  obtain ⟨baseline, present⟩ := buildDecision_baseline (record.relisted branches) candidate id sequence
  obtain ⟨baseline', present'⟩ := buildDecision_baseline record candidate id sequence
  rw [baseline, present, baseline', present', chosen]
  exact ⟨rfl, rfl⟩

end Decisions

/-! ## Throughout every run -/

/-- The branches of a definition have what a view shows of the declared ones. -/
theorem defineBranches_map {β : Type} {view : BranchDefinition → β} {declares : BranchSpec → β}
    (root : ∀ spec id sequence, view (BranchSpec.define spec id sequence) = declares spec)
    (inherits : ∀ branch parent spec, view (BranchDefinition.inherit branch parent spec) = view branch)
    {sequence watermark : Nat} {declared : List (BranchId × BranchSpec)} {specs : List BranchSpec}
    {branches : List BranchDefinition}
    (defined : (defineBranches sequence watermark declared specs).2 = .ok branches) :
    branches.map view = specs.map declares := by
  have length : branches.length = specs.length := by
    have identities := (defineBranches_identities (Prod.ext rfl defined)).1
    simpa using congrArg List.length identities
  refine List.ext_getElem? fun position => ?_
  rw [List.getElem?_map, List.getElem?_map]
  cases listed : specs[position]? with
  | none =>
      rw [List.getElem?_eq_none_iff, ← length, ← List.getElem?_eq_none_iff] at listed
      rw [listed]
      rfl
  | some spec =>
      obtain ⟨branch, held, defines⟩ := defineBranches_getElem? defined listed
      rw [held, Option.map_some, Option.map_some]
      cases defines with
      | root => rw [root]
      | fork => rw [inherits, root]

variable [MetricReal R] [CanonicalDigests R]

/-- The specification of an admitted experiment declares at most one baseline. -/
def World.DeclaresOneBaseline : World R → Event R → Prop
  | .running c, .request (.createExperiment spec) _ =>
      validateSpec spec c.limits = .ok () → spec.branches.countP (·.role = .baseline) ≤ 1
  | _, _ => True

omit [MetricReal R] [CanonicalDigests R] in
theorem forkBranchGuard_baseline {c : Coordinator R} {experiment : ExperimentId} {parent : BranchId}
    {spec : BranchSpec} {record : ExperimentRecord R} {parentBranch : BranchDefinition}
    (guarded : c.forkBranchGuard experiment parent spec = .ok (record, parentBranch))
    (baseline : spec.role = .baseline) :
    record.definition.branches.countP (·.role = .baseline) = 0 := by
  simp only [Coordinator.forkBranchGuard, demand_bind_eq_ok, require_bind_eq_ok] at guarded
  obtain ⟨_, -, -, _, -, -, -, -, -, -, -, free, equal⟩ := guarded
  cases equal
  rw [List.countP_eq_zero]
  intro branch member designated
  have refused := List.all_eq_true.mp free branch member
  simp [of_decide_eq_true designated, baseline] at refused

theorem Effect.singleBaseline {c : Coordinator R} {experiment : ExperimentId}
    {record after : ExperimentRecord R} {marks : Watermarks} {request : Request R}
    (effect : Effect c experiment record marks request after) (single : record.SingleBaseline) :
    after.SingleBaseline := by
  unfold ExperimentRecord.SingleBaseline at single ⊢
  rcases effect.map_branches BranchDefinition.role fun _ _ _ => rfl with
    same | ⟨parent, spec, parentBranch, branch, guarded, rfl, added, -⟩
  · have counts : ∀ branches : List BranchDefinition, branches.countP (·.role = .baseline) =
        (branches.map BranchDefinition.role).countP (· = .baseline) := by
      intro branches
      rw [List.countP_map]
      rfl
    rwa [counts, same, ← counts]
  · rw [added, List.countP_append]
    by_cases baseline : spec.role = .baseline
    · rw [forkBranchGuard_baseline guarded baseline, Nat.zero_add]
      exact List.countP_le_length
    · have plain : [ExperimentRecord.forkedBranch parentBranch spec
          ⟨c.state.watermarks.branch + 1⟩ (c.currentSequence + 1)].countP
            (·.role = .baseline) = 0 := by
        simp [ExperimentRecord.forkedBranch, baseline]
      rwa [plain, Nat.add_zero]

theorem singleBaseline_invariant :
    RecordRunInvariant World.DeclaresOneBaseline
      (ExperimentRecord.SingleBaseline : ExperimentRecord R → Prop) where
  kept := fun {c request fault old} meets _ =>
    { logged := id
      created := by
        rintro spec expected branches record rfl accepted defined rfl _
        have roles : branches.map BranchDefinition.role = spec.branches.map BranchSpec.role :=
          defineBranches_map (fun _ _ _ => rfl) (fun _ _ _ => rfl) defined
        have counted := congrArg (List.countP (· = BranchRole.baseline)) roles
        rw [List.countP_map, List.countP_map] at counted
        exact counted.le.trans (meets accepted)
      changed := fun effect _ single => effect.singleBaseline single
      added := fun _ _ _ single => single
      issued := fun _ _ _ _ _ _ _ _ single => single
      lost := by
        intro worker boot kind attemptDetail trialDetail line sequence id record _ _ _ single
        unfold ExperimentRecord.SingleBaseline
        rw [(loseWorker_fields ..).2]
        exact single }
  staged := by
    intro record sequence single
    unfold ExperimentRecord.SingleBaseline
    rw [stage_forget_fields record sequence]
    exact single
  recovered := by
    intro image config outcomes id record after _ _ same _ single
    have branches := congrArg (fun forgotten => forgotten.definition.branches) same
    unfold ExperimentRecord.SingleBaseline
    rw [show after.definition.branches = record.definition.branches from branches]
    exact single

/-- Throughout every run whose admitted specifications declare at most one baseline, an experiment
has at most one, and a decision compares against it in whatever order the branches are listed. -/
theorem single_baseline {path : Text} {events : List (Event R)} {c : Coordinator R}
    (run : Run (fun source event target => World.DeclaresOneBaseline source event ∧
      World.Step path source event target) (.down none) events (.running c))
    {experiment : ExperimentId} {record : ExperimentRecord R}
    (found : c.findExperiment experiment = some record) :
    record.definition.branches.countP (·.role = .baseline) ≤ 1 ∧
      ∀ branches : List BranchDefinition, branches.Perm record.definition.branches →
        baselineBranch (record.relisted branches) = baselineBranch record ∧
          ∀ candidate id sequence,
            (buildDecision (record.relisted branches) candidate id sequence).baseline =
                (buildDecision record candidate id sequence).baseline ∧
              (buildDecision (record.relisted branches) candidate id sequence).baselinePresent =
                (buildDecision record candidate id sequence).baselinePresent := by
  have single : record.SingleBaseline :=
    (singleBaseline_invariant.durable.run run).2.1 experiment record found
  exact ⟨single, fun branches perm => single.relisted perm⟩

namespace Sample

/-- Both branches are baselines. -/
def twoBaselines : ExperimentSpec ℚ :=
  { spec with
    branches := [{ name := text "baseline", role := .baseline },
      { name := text "candidate", role := .baseline }] }

/-- The coordinator after it admitted two baselines. -/
def ambiguous : Coordinator ℚ := coordinator.session [(.createExperiment twoBaselines, none)]

end Sample

/-- The sample experiment has one baseline. -/
theorem single_baseline_sample : ∃ record,
    Sample.created.findExperiment Sample.experiment = some record ∧
      record.definition.branches.countP (·.role = .baseline) ≤ 1 := by
  have started : Run (fun source event target => World.DeclaresOneBaseline source event ∧
      World.Step Sample.config.statePath source event target) (.down none)
      [.start Sample.config fun _ => none] (.running Sample.coordinator) :=
    .single ⟨trivial, .start rfl Sample.coordinator_started⟩
  have run := started.append (Sample.coordinator.session_run_of Sample.config.statePath
    (Sample.claiming.take 2) (by
      intro request member reached
      simp only [Sample.claiming, List.take_succ_cons, List.take_zero, List.mem_cons,
        List.not_mem_nil, or_false] at member
      rcases member with rfl | rfl
      · exact fun _ => by decide
      · trivial))
  have present : (Sample.created.findExperiment Sample.experiment).isSome = true := by
    decide +kernel
  obtain ⟨record, found⟩ := Option.isSome_iff_exists.mp present
  exact ⟨record, found, (single_baseline run found).1⟩

/-- An admitted experiment has two baselines, and the order of its branches decides which one is
compared against. -/
theorem two_baselines_admitted : ∃ record,
    (World.running Sample.ambiguous).Reachable Sample.config.statePath ∧
      Sample.ambiguous.findExperiment Sample.experiment = some record ∧
      record.definition.branches.countP (·.role = .baseline) = 2 ∧
      baselineBranch (record.relisted record.definition.branches.reverse) ≠
        baselineBranch record := by
  have facts : (Sample.ambiguous.findExperiment Sample.experiment).any (fun record =>
      decide (record.definition.branches.countP (·.role = .baseline) = 2 ∧
        (baselineBranch (record.relisted record.definition.branches.reverse)).map
          BranchDefinition.id ≠ (baselineBranch record).map BranchDefinition.id)) = true := by
    decide +kernel
  obtain ⟨record, found, facts⟩ := (Option.any_eq_true _ _).mp facts
  obtain ⟨two, differ⟩ := of_decide_eq_true facts
  exact ⟨record, Sample.coordinator_reachable.session _, found, two, fun same =>
    differ (congrArg (Option.map BranchDefinition.id) same)⟩

end ExperimentFabric
