import ExperimentFabric.Eligibility
import ExperimentFabric.Endings
import ExperimentFabric.Governance
import ExperimentFabric.Lib.Overlays

/-!
# Restoring a rollback point

A rollback closes all open work and gives every branch of the chosen point the state and generation
that were recorded for it.  It keeps the evidence of the experiment and every other experiment.
-/

namespace ExperimentFabric

open Lib

variable {R : Type}

/-! ## Restored branches -/

/-- The branch with the authority that a list of snapshots records for it. -/
def restateBranch (authority : List BranchAuthoritySnapshot) (branch : BranchDefinition) :
    BranchDefinition :=
  match authority.find? (·.branch = branch.id) with
  | some snapshot => { branch with state := snapshot.state, generation := snapshot.generation }
  | none => branch

/-- A branch that did not exist at a rollback point. -/
def retireUnknown (branch : BranchDefinition) : BranchDefinition :=
  match branch.state with
  | .active => { branch with state := .retired }
  | .retired | .invalid | .superseded => { branch with state := .superseded }

/-- The branch that a rollback leaves. -/
def restoredBranch (authority : List BranchAuthoritySnapshot) (branch : BranchDefinition) :
    BranchDefinition :=
  if branch.id ∈ authority.map BranchAuthoritySnapshot.branch then restateBranch authority branch
  else retireUnknown branch

theorem restateBranch_id (authority : List BranchAuthoritySnapshot) (branch : BranchDefinition) :
    (restateBranch authority branch).id = branch.id := by
  unfold restateBranch
  split <;> rfl

theorem retireUnknown_id (branch : BranchDefinition) : (retireUnknown branch).id = branch.id := by
  unfold retireUnknown
  split <;> rfl

theorem restoredBranch_id (authority : List BranchAuthoritySnapshot) (branch : BranchDefinition) :
    (restoredBranch authority branch).id = branch.id := by
  unfold restoredBranch
  split
  · exact restateBranch_id authority branch
  · exact retireUnknown_id branch

/-- A branch outside the snapshots is not restated. -/
theorem restateBranch_unlisted {authority : List BranchAuthoritySnapshot}
    {branch : BranchDefinition}
    (unlisted : branch.id ∉ authority.map BranchAuthoritySnapshot.branch) :
    restateBranch authority branch = branch := by
  have none : authority.find? (·.branch = branch.id) = none := by
    rw [List.find?_eq_none]
    intro snapshot member named
    exact unlisted (List.mem_map.mpr ⟨snapshot, member, of_decide_eq_true named⟩)
  rw [restateBranch, none]

/-- The branches after all snapshots were applied. -/
theorem find?_restated {authority : List BranchAuthoritySnapshot}
    (distinct : (authority.map BranchAuthoritySnapshot.branch).Nodup)
    (branches : List BranchDefinition) (id : BranchId) :
    (authority.foldl (fun branches snapshot => ExperimentRecord.updateBranch snapshot.branch
      (fun branch => { branch with state := snapshot.state, generation := snapshot.generation })
      branches) branches).find? (·.id = id) =
        (branches.find? (·.id = id)).map (restateBranch authority) := by
  induction authority generalizing branches with
  | nil =>
      rw [List.foldl_nil]
      cases branches.find? (·.id = id) with
      | none => rfl
      | some branch => rfl
  | cons snapshot rest ih =>
      obtain ⟨fresh, distinctRest⟩ := List.nodup_cons.mp distinct
      rw [List.foldl_cons, ih distinctRest, ExperimentRecord.find?_updateBranch]
      · by_cases here : id = snapshot.branch
        · subst here
          rw [if_pos rfl, Option.map_map]
          refine Option.map_congr fun branch found => ?_
          have named : branch.id = snapshot.branch := by
            have chosen := List.find?_some found
            exact of_decide_eq_true chosen
          have unlisted : branch.id ∉ rest.map BranchAuthoritySnapshot.branch := named ▸ fresh
          have kept : restateBranch rest
              { branch with state := snapshot.state, generation := snapshot.generation } =
                { branch with state := snapshot.state, generation := snapshot.generation } :=
            restateBranch_unlisted unlisted
          rw [Function.comp_apply, kept, restateBranch, List.find?_cons_of_pos (by simp [named])]
        · rw [if_neg here]
          refine Option.map_congr fun branch found => ?_
          have named : branch.id = id := by
            have chosen := List.find?_some found
            exact of_decide_eq_true chosen
          have apart : ¬ snapshot.branch = branch.id := fun same => here (named ▸ same.symm)
          rw [restateBranch, restateBranch, List.find?_cons_of_neg (by simpa using apart)]
      · exact fun _ => rfl

/-- A lookup among the restored branches. -/
theorem find?_restoreBranches {authority : List BranchAuthoritySnapshot}
    (distinct : (authority.map BranchAuthoritySnapshot.branch).Nodup)
    (branches : List BranchDefinition) (id : BranchId) :
    (ExperimentRecord.restoreBranches authority branches).find? (·.id = id) =
      (branches.find? (·.id = id)).map (restoredBranch authority) := by
  let settle (branch : BranchDefinition) : BranchDefinition :=
    if branch.id ∈ authority.map BranchAuthoritySnapshot.branch then branch
    else retireUnknown branch
  have keepsId : ∀ branch, (settle branch).id = branch.id := by
    intro branch
    dsimp only [settle]
    split
    · rfl
    · exact retireUnknown_id branch
  have settled : settle ∘ restateBranch authority = restoredBranch authority := by
    funext branch
    dsimp only [settle, Function.comp_apply, restoredBranch]
    rw [restateBranch_id]
    split
    · rfl
    · rename_i unlisted
      rw [restateBranch_unlisted unlisted]
  have mapped : ExperimentRecord.restoreBranches authority branches =
      (authority.foldl (fun branches snapshot => ExperimentRecord.updateBranch snapshot.branch
        (fun branch => { branch with state := snapshot.state, generation := snapshot.generation })
        branches) branches).map settle := by
    unfold ExperimentRecord.restoreBranches
    dsimp only
    refine List.map_congr_left fun branch _ => ?_
    refine if_congr Iff.rfl rfl ?_
    unfold retireUnknown
    cases branch.state <;> rfl
  rw [mapped, List.find?_map]
  simp only [Function.comp_def, keepsId]
  rw [find?_restated distinct, Option.map_map, settled]

/-- A branch outside the snapshots is not left active. -/
theorem retireUnknown_inactive (branch : BranchDefinition) :
    (retireUnknown branch).state ≠ .active := by
  unfold retireUnknown
  split <;> simp

/-- A listed branch is left with the state and generation of its snapshot. -/
theorem restoredBranch_listed {authority : List BranchAuthoritySnapshot}
    (distinct : (authority.map BranchAuthoritySnapshot.branch).Nodup)
    {snapshot : BranchAuthoritySnapshot} (listed : snapshot ∈ authority)
    {branch : BranchDefinition} (named : branch.id = snapshot.branch) :
    restoredBranch authority branch =
      { branch with state := snapshot.state, generation := snapshot.generation } := by
  have member : branch.id ∈ authority.map BranchAuthoritySnapshot.branch :=
    named ▸ List.mem_map_of_mem listed
  have found : authority.find? (·.branch = branch.id) = some snapshot :=
    (find?_key_eq_some_iff distinct).mpr ⟨listed, named.symm⟩
  rw [restoredBranch, if_pos member, restateBranch, found]

/-! ## Charts -/

/-- The experiment has left recovery, its branches are distinct, and every rollback point lists a
branch once. -/
structure ExperimentRecord.Charted (record : ExperimentRecord R) : Prop where
  settled : record.state ≠ .recovering
  branches : (record.definition.branches.map BranchDefinition.id).Nodup
  points : ∀ point ∈ record.rollbackPoints,
    (point.authority.map BranchAuthoritySnapshot.branch).Nodup

/-- The snapshots of a new rollback point: those of the branches, or of an earlier point. -/
def ExperimentRecord.Snapshots (record : ExperimentRecord R)
    (authority : List BranchAuthoritySnapshot) : Prop :=
  authority = record.branchAuthority ∨ ∃ earlier ∈ record.rollbackPoints,
    authority = earlier.authority

theorem branchAuthority_branches (record : ExperimentRecord R) :
    record.branchAuthority.map BranchAuthoritySnapshot.branch =
      record.definition.branches.map BranchDefinition.id := by
  rw [ExperimentRecord.branchAuthority, List.map_map]
  rfl

/-- The request may record a rollback point. -/
def Request.recordsPoint : Request R → Bool
  | .finalizeExperiment _ _ _ | .rollback _ _ _ => true
  | _ => false

/-- A change keeps the branches or was validated, and a point that it records takes its snapshots from
the record. -/
structure Charts (recordsPoint : Bool) (record after : ExperimentRecord R) : Prop where
  settled : record.state ≠ .recovering → after.state ≠ .recovering
  branches : after.definition.branches.map BranchDefinition.id =
    record.definition.branches.map BranchDefinition.id ∨
      (after.definition.branches.map BranchDefinition.id).Nodup
  points : after.rollbackPoints = record.rollbackPoints ∨ recordsPoint = true ∧ ∃ point,
    after.rollbackPoints = record.rollbackPoints ++ [point] ∧ record.Snapshots point.authority

theorem Charts.ofSame {record after : ExperimentRecord R} (state : after.state = record.state)
    (definition : after.definition = record.definition)
    (points : after.rollbackPoints = record.rollbackPoints) : Charts false record after :=
  ⟨fun settled => state ▸ settled, .inl (by rw [definition]), .inl points⟩

theorem ExperimentRecord.Charted.snapshots {record : ExperimentRecord R} (charted : record.Charted)
    {authority : List BranchAuthoritySnapshot} (taken : record.Snapshots authority) :
    (authority.map BranchAuthoritySnapshot.branch).Nodup := by
  rcases taken with rfl | ⟨earlier, member, rfl⟩
  · rw [branchAuthority_branches]
    exact charted.branches
  · exact charted.points earlier member

theorem Charts.charted {recordsPoint : Bool} {record after : ExperimentRecord R}
    (charts : Charts recordsPoint record after)
    (charted : record.Charted) : after.Charted where
  settled := charts.settled charted.settled
  branches := by
    rcases charts.branches with same | distinct
    · rw [same]
      exact charted.branches
    · exact distinct
  points := by
    intro point member
    rcases charts.points with same | ⟨-, added, same, taken⟩
    · rw [same] at member
      exact charted.points point member
    · rw [same, List.mem_append, List.mem_singleton] at member
      rcases member with before | rfl
      · exact charted.points point before
      · exact charted.snapshots taken

theorem observe_rollbackPoints (record : ExperimentRecord R) (trial : TrialRecord)
    (attempt : AttemptRecord) (trialKey : TrialId) (attemptKey : TrialAttemptId) (sequence : Nat) :
    (record.observe trial attempt trialKey attemptKey sequence).1.rollbackPoints =
      record.rollbackPoints := by
  obtain ⟨trials, attempts, same⟩ :=
    observe_frame record trial attempt trialKey attemptKey sequence
  rw [same]

section Steps

variable [MetricReal R] [CanonicalDigests R]

/-- A change keeps what a view shows of the branches apart from their states and generations, or
forks a branch. -/
theorem Effect.map_branches {β : Type} (view : BranchDefinition → β)
    (kept : ∀ (branch : BranchDefinition) state generation,
      view { branch with state := state, generation := generation } = view branch)
    {c : Coordinator R} {experiment : ExperimentId} {record after : ExperimentRecord R}
    {marks : Watermarks} {request : Request R}
    (effect : Effect c experiment record marks request after) :
    after.definition.branches.map view = record.definition.branches.map view ∨
      ∃ parent spec parentBranch branch,
        c.forkBranchGuard experiment parent spec = .ok (record, parentBranch) ∧
          branch = ExperimentRecord.forkedBranch parentBranch spec ⟨c.state.watermarks.branch + 1⟩
            (c.currentSequence + 1) ∧
          after.definition.branches = record.definition.branches ++ [branch] ∧
          validateExperimentRecord after c.limits experiment = .ok () := by
  have same : ∀ {definition : ExperimentDefinition R}, after.definition = definition →
      definition = record.definition →
        after.definition.branches.map view = record.definition.branches.map view := by
    rintro definition rfl equal
    rw [equal]
  cases effect with
  | @fork parent spec parentBranch branch guarded forked valid allocated =>
      exact .inr ⟨parent, spec, parentBranch, branch, guarded, forked, rfl, valid⟩
  | forkUndone guarded =>
      refine .inl ?_
      simp [ExperimentRecord.fork, ExperimentRecord.log, ExperimentRecord.unfork]
  | retire guarded =>
      refine .inl (ExperimentRecord.map_updateBranch view _ ?_ _)
      exact fun branch => kept branch _ _
  | @refuseObservation publication verdict named found refused =>
      obtain ⟨observations, rejected, equal⟩ :=
        refusedObservation_frame c record publication.observation verdict
      exact .inl (by rw [equal])
  | publishObservation named accepted => exact .inl (same rfl (observe_fields _ _ _ _ _ _).2)
  | publishObservationUndone named accepted =>
      exact .inl (same rfl (observe_fields _ _ _ _ _ _).2)
  | refuseArtifact named found built refused => exact .inl (same rfl (reject_fields _ _ _ _).2)
  | registerArtifacts named guarded refused stored =>
      subst named
      exact .inl (same rfl (registered_pair guarded stored).definition)
  | commit named guarded accepted stored =>
      subst named
      exact .inl (same rfl (registered_pair guarded stored).definition)
  | fail named guarded =>
      obtain ⟨branches, lines, equal, rfl | rfl⟩ := fail_frame record _ _ _ _ _ _ _
      · exact .inl (by rw [equal])
      · rw [equal]
        refine .inl (ExperimentRecord.map_updateBranch view _ ?_ _)
        exact fun branch => kept branch _ branch.generation
  | @rollback target reason chosen guarded allocated =>
      exact .inl (map_restoreBranches view kept chosen.authority record.definition.branches)
  | _ => exact .inl rfl

theorem Effect.charts {c : Coordinator R} {experiment : ExperimentId}
    {record after : ExperimentRecord R} {marks : Watermarks} {request : Request R}
    (effect : Effect c experiment record marks request after) :
    Charts request.recordsPoint record after := by
  refine ⟨effect.keepsRetryRule.2.2, ?_, ?_⟩
  · rcases effect.map_branches BranchDefinition.id fun _ _ _ => rfl with
      same | ⟨parent, spec, parentBranch, branch, -, -, -, valid⟩
    · exact .inl same
    · have distinct := (validateExperimentRecord_branches valid).2.1
      rw [ExperimentRecord.census, List.map_map] at distinct
      exact .inr distinct
  · cases effect with
    | @refuseObservation publication verdict named found refused =>
        obtain ⟨observations, rejected, same⟩ :=
          refusedObservation_frame c record publication.observation verdict
        exact .inl (by rw [same])
    | publishObservation named accepted => exact .inl (observe_rollbackPoints _ _ _ _ _ _)
    | publishObservationUndone named accepted => exact .inl (observe_rollbackPoints _ _ _ _ _ _)
    | refuseArtifact named found built refused =>
        obtain ⟨rejected, same⟩ := reject_frame record _ _ _
        exact .inl (by rw [same])
    | registerArtifacts named guarded refused stored =>
        subst named
        exact .inl (registered_pair guarded stored).rollbackPoints
    | commit named guarded accepted stored =>
        subst named
        exact .inl (registered_pair guarded stored).rollbackPoints
    | fail named guarded =>
        obtain ⟨branches, lines, same, -⟩ := fail_frame record _ _ _ _ _ _ _
        exact .inl (by rw [same])
    | @finalize candidate reason decision guarded decided allocated pointed =>
        by_cases concluded : ExperimentRecord.concludes decision.outcome = true
        · unfold ExperimentRecord.finalize
          rw [if_pos concluded]
          exact .inr ⟨rfl, _, rfl, .inl rfl⟩
        · refine .inl ?_
          simp [ExperimentRecord.finalize, ExperimentRecord.log, concluded]
    | @rollback target reason chosen guarded allocated =>
        exact .inr ⟨rfl, _, rfl, .inr ⟨chosen, (Coordinator.rollbackGuard_ok guarded).member, rfl⟩⟩
    | _ => exact .inl rfl

theorem charted_invariant :
    RecordInvariant (fun _ _ => True) (ExperimentRecord.Charted : ExperimentRecord R → Prop) where
  logged := by
    intro record line charted
    have same : Charts false record (record.log line) := .ofSame rfl rfl rfl
    exact same.charted charted
  created := by
    intro spec limits marks expected branches record sequence _ _ defined valid
    have distinct := (validateExperimentRecord_branches valid).2.1
    rw [ExperimentRecord.census, List.map_map] at distinct
    refine ⟨by simp [defined, ExperimentSpec.record], distinct, fun point member => ?_⟩
    rw [defined] at member
    cases member
  changed := fun _ effect _ charted => effect.charts.charted charted
  added := by
    intro c experiment branchId payload record branch _ charted
    have same : Charts false record (record.addTrial (record.newTrial experiment branch
      ⟨c.state.watermarks.trial + 1⟩ payload (c.currentSequence + 1))) := .ofSame rfl rfl rfl
    exact same.charted charted
  issued := by
    intro record limits key trial branch marks id worker boot epoch producer sequence _ _ _ _ _
      charted
    have same : Charts false record (record.issue key
      (record.newAttempt trial id worker boot epoch producer sequence) sequence) :=
        .ofSame rfl rfl rfl
    exact same.charted charted
  lost := by
    intro record marks worker boot kind attemptDetail trialDetail line sequence _ charted
    obtain ⟨state, definition⟩ := loseWorker_fields worker boot kind attemptDetail trialDetail
      sequence line record
    obtain ⟨trials, attempts, lines, same⟩ :=
      loseWorker_frame worker boot kind attemptDetail trialDetail sequence line record
    exact Charts.charted (.ofSame state definition (by rw [same])) charted
  staged := by
    intro record sequence charted
    have same : Charts false record (record.stage sequence).2 := by
      refine ⟨fun _ => ?_, .inl ?_, .inl ?_⟩ <;> rw [stage_forget_fields record sequence]
      · exact record.reopened_state_ne
      · rfl
      · rfl
    exact same.charted charted
  recovered := by
    intro image config outcomes id record after _ _ same _ charted
    have state : after.state = record.recovered.state :=
      congrArg (fun forgotten => forgotten.state) same
    have definition : after.definition = record.definition :=
      congrArg (fun forgotten => forgotten.definition) same
    have points : after.rollbackPoints = record.rollbackPoints :=
      congrArg (fun forgotten => forgotten.rollbackPoints) same
    have kept : Charts false record after :=
      ⟨fun _ => state ▸ record.reopened_state_ne, .inl (by rw [definition]), .inl points⟩
    exact kept.charted charted

end Steps

/-! ## Rollbacks -/

/-- What a rollback from `record` to `chosen` leaves in `after`. -/
structure Restored (target : ExperimentGeneration) (chosen : RollbackPoint)
    (record after : ExperimentRecord R) : Prop where
  last : ∃ earlier later, record.rollbackPoints = earlier ++ chosen :: later ∧
    chosen.generation = target ∧ ∀ point ∈ later, point.generation ≠ target
  opened : after.state = .opened
  definition : after.definition = { record.definition with
    generation := target
    branches := after.definition.branches }
  branches : after.definition.branches.map BranchDefinition.id =
    record.definition.branches.map BranchDefinition.id
  listed : ∀ snapshot ∈ chosen.authority,
    snapshot.branch ∈ after.definition.branches.map BranchDefinition.id ∧
      ∀ branch ∈ after.definition.branches, branch.id = snapshot.branch →
        branch.state = snapshot.state ∧ branch.generation = snapshot.generation
  unlisted : ∀ branch ∈ after.definition.branches,
    branch.id ∉ chosen.authority.map BranchAuthoritySnapshot.branch → branch.state ≠ .active
  trialsClosed : ∀ key trial, after.trials.find? key = some trial → isTerminal trial.state = true
  attemptsClosed : ∀ key attempt, after.attempts.find? key = some attempt →
    isAttemptTerminal attempt.state = true
  trialsKept : ∀ key trial, record.trials.find? key = some trial →
    isTerminal trial.state = true → after.trials.find? key = some trial
  attemptsKept : ∀ key attempt, record.attempts.find? key = some attempt →
    isAttemptTerminal attempt.state = true → after.attempts.find? key = some attempt
  hypothesis : after.hypothesis = record.hypothesis ∧
    after.hypothesisHistory = record.hypothesisHistory
  observations : after.observations = record.observations
  artifacts : after.artifacts = record.artifacts
  decisions : after.decisions = record.decisions
  point : ∃ point, after.rollbackPoints = record.rollbackPoints ++ [point] ∧
    point.restoredFrom = record.definition.generation

/-- The target of a rollback is the last point of its generation. -/
theorem rollbackTarget_last {record : ExperimentRecord R} {target : ExperimentGeneration}
    {chosen : RollbackPoint}
    (found : Coordinator.rollbackTarget record target = some chosen) :
    ∃ earlier later, record.rollbackPoints = earlier ++ chosen :: later ∧
      chosen.generation = target ∧ ∀ point ∈ later, point.generation ≠ target := by
  obtain ⟨named, front, back, split, others⟩ := List.find?_eq_some_iff_append.mp found
  refine ⟨back.reverse, front.reverse, ?_, of_decide_eq_true named, fun point member => ?_⟩
  · have whole := congrArg List.reverse split
    simpa using whole
  · simpa using others point (List.mem_reverse.mp member)

theorem Coordinator.rollbackGuard_target {c : Coordinator R} {experiment : ExperimentId}
    {target : ExperimentGeneration} {record : ExperimentRecord R} {chosen : RollbackPoint}
    (guarded : c.rollbackGuard experiment target = .ok (record, chosen)) :
    rollbackTarget record target = some chosen := by
  simp only [rollbackGuard, demand_bind_eq_ok, require_bind_eq_ok] at guarded
  obtain ⟨_, -, -, -, _, chosenFound, -, equal⟩ := guarded
  cases equal
  exact chosenFound

/-- What the validator checks of a rollback point. -/
structure PointChecked (record : ExperimentRecord R) (point : RollbackPoint) : Prop where
  generation : Validation.generationInRange point.generation = true
  decision : point.decisionPresent = true → point.decision ∈ record.decisions.map Decision.id
  authority : ∀ snapshot ∈ point.authority, snapshot.branch.valid = true ∧
    snapshot.generation.valid = true ∧
      snapshot.branch ∈ record.definition.branches.map BranchDefinition.id

theorem validateExperimentRecord_points [MetricReal R] {record : ExperimentRecord R}
    {limits : Limits} {id : ExperimentId}
    (valid : validateExperimentRecord record limits id = .ok ()) :
    ∀ point ∈ record.rollbackPoints, PointChecked record point := by
  simp only [validateExperimentRecord, Validation.validateRollbackPoints, sequence_cons_eq_ok,
    require_eq_ok, scan_eq_ok, forEach_eq_ok, Bool.and_eq_true, decide_eq_true_eq] at valid
  obtain ⟨-, -, -, -, -, -, points, -⟩ := valid
  intro point member
  obtain ⟨front, back, split⟩ := List.append_of_mem member
  obtain ⟨-, -, generation, -, decision, authority, -⟩ := points front point back split
  refine ⟨generation, fun present => ?_, fun snapshot listed => ?_⟩
  · simpa [present] using decision
  · obtain ⟨⟨branch, snapshotGeneration⟩, known, -⟩ := authority snapshot listed
    exact ⟨branch, snapshotGeneration, known⟩

/-- With distinct identities, a branch is found under its own. -/
theorem find?_of_nodup_ids {branches : List BranchDefinition}
    (distinct : (branches.map BranchDefinition.id).Nodup) {branch : BranchDefinition}
    (member : branch ∈ branches) : branches.find? (·.id = branch.id) = some branch :=
  (find?_key_eq_some_iff distinct).mpr ⟨member, rfl⟩

/-- Restoring a rollback point of a charted record. -/
theorem ExperimentRecord.Charted.rolledBack [CanonicalDigests R] {record : ExperimentRecord R}
    (charted : record.Charted) {experiment : ExperimentId} {target : ExperimentGeneration}
    {chosen : RollbackPoint} {point : RollbackPointId} {reason : Text} {sequence : Nat}
    (last : ∃ earlier later, record.rollbackPoints = earlier ++ chosen :: later ∧
      chosen.generation = target ∧ ∀ point ∈ later, point.generation ≠ target)
    (notCancelled : record.state ≠ .cancelled)
    (checked : ∀ added ∈ (record.rollback experiment chosen point reason sequence).rollbackPoints,
      PointChecked (record.rollback experiment chosen point reason sequence) added) :
    Restored target chosen record (record.rollback experiment chosen point reason sequence) := by
  obtain ⟨earlier, later, split, rfl, others⟩ := last
  have member : chosen ∈ record.rollbackPoints := by
    rw [split]
    exact List.mem_append_right earlier List.mem_cons_self
  have distinct := charted.points chosen member
  have identities := restoreBranches_ids chosen.authority record.definition.branches
  have branches : ((ExperimentRecord.restoreBranches chosen.authority
      record.definition.branches).map BranchDefinition.id).Nodup := identities ▸ charted.branches
  have restored : ∀ branch ∈ ExperimentRecord.restoreBranches chosen.authority
      record.definition.branches, ∃ before, before.id = branch.id ∧
        branch = restoredBranch chosen.authority before := by
    intro branch among
    have found := find?_restoreBranches distinct record.definition.branches branch.id
    rw [find?_of_nodup_ids branches among] at found
    obtain ⟨before, lookup, same⟩ := Option.map_eq_some_iff.mp found.symm
    have named := List.find?_some lookup
    exact ⟨before, of_decide_eq_true named, same.symm⟩
  have ended : (record.rollback experiment chosen point reason sequence).Ended :=
    ended_of_close rfl rfl rfl rfl
  refine ⟨⟨earlier, later, split, rfl, others⟩, ?_, rfl, identities, fun snapshot among => ⟨?_, ?_⟩, ?_, ended.trials,
    ended.attempts, ?_, ?_, ⟨rfl, rfl⟩, rfl, rfl, rfl, ⟨_, rfl, rfl⟩⟩
  · have settled := charted.settled
    change (if record.state = .finalized || record.state = .superseded then .opened
      else record.state) = ExperimentState.opened
    cases state : record.state <;> simp_all
  · exact ((checked _ (List.mem_append_right _ (List.mem_singleton_self _))).authority snapshot
      among).2.2
  · intro branch member named
    obtain ⟨before, same, rfl⟩ := restored branch member
    rw [restoredBranch_listed distinct among (same.trans named)]
    exact ⟨rfl, rfl⟩
  · intro branch member unlisted
    obtain ⟨before, same, rfl⟩ := restored branch member
    rw [← same] at unlisted
    rw [restoredBranch, if_neg unlisted]
    exact retireUnknown_inactive before
  · intro key trial found terminal
    have closed := OrderedMap.find?_mapValues record.trials (closeTrial (fun _ => true) .superseded
      .experimentInvalidation (text "superseded by an experiment generation change") sequence) key
    rw [found, Option.map_some] at closed
    refine closed.trans (congrArg some ?_)
    rw [closeTrial, terminal]
    rfl
  · intro key attempt found terminal
    have closed := OrderedMap.find?_mapValues record.attempts (closeAttempt (fun _ => true)
      .abandoned .experimentInvalidation
      (text "superseded by an experiment generation change") sequence) key
    rw [found, Option.map_some] at closed
    refine closed.trans (congrArg some ?_)
    rw [closeAttempt, terminal]
    rfl

section Rollback

variable [MetricReal R] [CanonicalDigests R] {c : Coordinator R} {experiment : ExperimentId}
  {target : ExperimentGeneration} {reason : Text} {fault : Option SaveFault}

/-- A rollback that succeeds has validated the record it stores. -/
theorem Coordinator.rollback_succeeded
    (succeeded : (c.rollback experiment target reason fault).2 = .ok ()) :
    ∃ record chosen, c.rollbackGuard experiment target = .ok (record, chosen) ∧
      validateExperimentRecord (record.rollback experiment chosen
        ⟨c.state.watermarks.rollback + 1⟩ reason (c.currentSequence + 1)) c.limits experiment =
          .ok () ∧
      (c.rollback experiment target reason fault).1.state =
        (c.nextSequence.allocRollbackId.withRecord experiment (record.rollback experiment chosen
          ⟨c.state.watermarks.rollback + 1⟩ reason (c.currentSequence + 1))).state := by
  unfold Coordinator.rollback at succeeded ⊢
  split at succeeded
  · cases succeeded
  · rename_i record chosen guarded
    dsimp only at succeeded
    split at succeeded
    · cases succeeded
    · rename_i valid
      refine ⟨record, chosen, guarded, valid, ?_⟩
      dsimp only
      split
      · rename_i refused
        exact nomatch refused.symm.trans valid
      · rw [settle_id_fst, persistLocked_state]
        rfl

/-- From every reachable state, a rollback that succeeds leaves the experiment open with the branches
of the last rollback point of the target generation and no open work, records one more point, and
changes nothing else. -/
theorem rollback_restores {path : Text} (reachable : (World.running c).Reachable path)
    (succeeded : (c.rollback experiment target reason fault).2 = .ok ()) :
    ∃ record chosen after, c.findExperiment experiment = some record ∧
      (c.rollback experiment target reason fault).1.findExperiment experiment = some after ∧
      Restored target chosen record after ∧
      ∀ other, other ≠ experiment →
        (c.rollback experiment target reason fault).1.findExperiment other =
          c.findExperiment other := by
  obtain ⟨record, chosen, guarded, valid, state⟩ := Coordinator.rollback_succeeded succeeded
  have allowed := Coordinator.rollbackGuard_ok guarded
  have charted := (reachable.holds charted_invariant.durable).1 experiment record allowed.found
  have last := rollbackTarget_last (Coordinator.rollbackGuard_target guarded)
  refine ⟨record, chosen, _, allowed.found, ?_,
    charted.rolledBack last allowed.notCancelled (validateExperimentRecord_points valid),
    fun other elsewhere => ?_⟩
  · exact (congrArg (fun state => state.experiments.find? experiment) state).trans
      (OrderedMap.find?_assign_self ..)
  · exact (congrArg (fun state => state.experiments.find? other) state).trans
      ((OrderedMap.find?_assign ..).trans (if_neg elsewhere))

end Rollback

namespace Sample

/-- A conclusion after which the candidate was retired. -/
def concluded : Coordinator ℚ :=
  coordinator.session [(.createExperiment spec, none), (.createTrial experiment candidate [], none),
    (.finalizeExperiment experiment baseline [], none),
    (.retireBranch experiment candidate [], none)]

theorem concluded_reachable : (World.running concluded).Reachable config.statePath :=
  coordinator_reachable.session _

end Sample

/-- The candidate that was retired after the conclusion of the sample is restored. -/
theorem rollback_restores_sample : ∃ record chosen after,
    Sample.concluded.findExperiment Sample.experiment = some record ∧
    (Sample.concluded.rollback Sample.experiment ⟨1⟩ [] none).1.findExperiment Sample.experiment =
      some after ∧
    Restored ⟨1⟩ chosen record after ∧
    ∀ other, other ≠ Sample.experiment →
      (Sample.concluded.rollback Sample.experiment ⟨1⟩ [] none).1.findExperiment other =
        Sample.concluded.findExperiment other := by
  have succeeded : (Sample.concluded.rollback Sample.experiment ⟨1⟩ [] none).2 = .ok () :=
    eq_ok_of_isOk (by decide +kernel)
  exact rollback_restores Sample.concluded_reachable succeeded

example : ((Sample.concluded.rollback Sample.experiment ⟨1⟩ [] none).1.findExperiment
    Sample.experiment).any (fun record =>
      (record.findBranch Sample.candidate).any (·.state = .active)) := by
  decide +kernel

end ExperimentFabric
