import ExperimentFabric.Authorization
import ExperimentFabric.Invariants

/-!
# What trials and attempts copy

A trial copies the policy of its experiment and the environment of its branch, an attempt the branch
of its trial, and no identity that an envelope carries is null.  All of this holds in every reachable
state.
-/

namespace ExperimentFabric

open Lib Relation

variable {R : Type}

/-- Trials and attempts were kept, up to what changes during their life. -/
structure Carries (old new : ExperimentRecord R) : Prop where
  trials : OrderedMap.Evolves (fun trial trial' => trial'.fixed = trial.fixed) old.trials new.trials
  attempts : OrderedMap.Evolves (fun attempt attempt' => attempt'.fixed = attempt.fixed)
    old.attempts new.attempts

theorem Carries.refl (record : ExperimentRecord R) : Carries record record :=
  ⟨.refl fun _ => rfl, .refl fun _ => rfl⟩

theorem Rewritten.carries {old new : ExperimentRecord R} (rewritten : Rewritten old new) :
    Carries old new :=
  ⟨rewritten.trials.mono fun _ _ kept => kept.fixed,
    rewritten.attempts.mono fun _ _ kept => kept.fixed⟩

theorem stage_carries (record : ExperimentRecord R) (sequence : Nat) :
    Carries record (record.stage sequence).2 where
  trials := stage_trials_evolve record sequence fun reached trial => by
    unfold stageTrial
    split <;> rfl
  attempts := stage_attempts_evolve record sequence fun reached attempt => by
    unfold stageAttempt
    split <;> rfl

theorem recovered_carries {record after : ExperimentRecord R}
    (same : after.forget = record.recovered.forget) : Carries record after where
  trials := by
    refine ⟨fun key trial found => ?_, fun key absent => ?_⟩
    · have resolved : record.recovered.trials.find? key =
          some (record.reopened.recoveredTrial trial) := by
        simp [ExperimentRecord.recovered, found]
      obtain ⟨trial', held, equal⟩ := forget_trial same.symm resolved
      refine ⟨trial', held, ?_⟩
      have fixed := congrArg TrialRecord.fixed equal
      refine fixed.trans ?_
      unfold ExperimentRecord.recoveredTrial ExperimentRecord.resolvedTrial
      split
      · rfl
      · split <;> rfl
    · have lookup := congrArg (fun forgotten => forgotten.trials.find? key) same
      simpa [ExperimentRecord.forget, ExperimentRecord.recovered, absent] using lookup
  attempts := by
    refine ⟨fun key attempt found => ?_, fun key absent => ?_⟩
    · have resolved : record.recovered.attempts.find? key = some (recoveredAttempt attempt) := by
        simp [ExperimentRecord.recovered, found]
      obtain ⟨attempt', held, equal⟩ := forget_attempt same.symm resolved
      refine ⟨attempt', held, ?_⟩
      have fixed := congrArg AttemptRecord.fixed equal
      refine fixed.trans ?_
      unfold recoveredAttempt
      split <;> rfl
    · have lookup := congrArg (fun forgotten => forgotten.attempts.find? key) same
      simpa [ExperimentRecord.forget, ExperimentRecord.recovered, absent] using lookup

/-! ## The branches of a definition -/

/-- A branch keeps its identity and its environment, and its generation never becomes null. -/
structure BranchKept (branch branch' : BranchDefinition) : Prop where
  identity : branch'.id = branch.id
  environment : branch'.environmentFingerprint = branch.environmentFingerprint
  generation : branch.generation.valid = true → branch'.generation.valid = true

theorem BranchKept.refl (branch : BranchDefinition) : BranchKept branch branch :=
  ⟨rfl, rfl, id⟩

theorem BranchKept.trans {first second third : BranchDefinition}
    (earlier : BranchKept first second) (later : BranchKept second third) :
    BranchKept first third :=
  ⟨later.identity.trans earlier.identity, later.environment.trans earlier.environment,
    fun valid => later.generation (earlier.generation valid)⟩

theorem updateBranch_kept (id : BranchId) {change : BranchDefinition → BranchDefinition}
    (each : ∀ branch, BranchKept branch (change branch)) (branches : List BranchDefinition) :
    List.Forall₂ BranchKept branches (ExperimentRecord.updateBranch id change branches) := by
  induction branches with
  | nil => exact .nil
  | cons branch rest ih =>
      unfold ExperimentRecord.updateBranch
      split
      · exact .cons (each branch) (List.forall₂_same.mpr fun other _ => .refl other)
      · exact .cons (.refl branch) ih

theorem restoreBranches_kept {authority : List BranchAuthoritySnapshot}
    (valid : ∀ snapshot ∈ authority, snapshot.generation.valid = true)
    (branches : List BranchDefinition) :
    List.Forall₂ BranchKept branches (ExperimentRecord.restoreBranches authority branches) := by
  have transitive : ∀ {first second third : List BranchDefinition},
      List.Forall₂ BranchKept first second → List.Forall₂ BranchKept second third →
        List.Forall₂ BranchKept first third := by
    intro first second third earlier later
    induction earlier generalizing third with
    | nil => exact later
    | cons head tail ih =>
        cases later with
        | cons head' tail' => exact .cons (head.trans head') (ih tail')
  have restored : ∀ (snapshots : List BranchAuthoritySnapshot) (branches : List BranchDefinition),
      (∀ snapshot ∈ snapshots, snapshot.generation.valid = true) →
        List.Forall₂ BranchKept branches
          (snapshots.foldl (fun branches snapshot => ExperimentRecord.updateBranch snapshot.branch
            (fun branch => { branch with
              state := snapshot.state, generation := snapshot.generation }) branches) branches) := by
    intro snapshots
    induction snapshots with
    | nil => exact fun branches _ => List.forall₂_same.mpr fun branch _ => .refl branch
    | cons snapshot rest ih =>
        intro branches valid
        have first := valid snapshot List.mem_cons_self
        refine transitive (updateBranch_kept snapshot.branch ?_ branches)
          (ih _ fun other member => valid other (List.mem_cons_of_mem snapshot member))
        exact fun branch => ⟨rfl, rfl, fun _ => first⟩
  unfold ExperimentRecord.restoreBranches
  dsimp only
  refine transitive (restored authority branches valid) ?_
  rw [List.forall₂_map_right_iff]
  refine List.forall₂_same.mpr fun branch _ => ?_
  split
  · exact .refl branch
  · split <;> exact ⟨rfl, rfl, id⟩

/-- A lookup finds the kept branch. -/
theorem find?_kept {branches branches' : List BranchDefinition} (id : BranchId)
    (kept : List.Forall₂ BranchKept branches branches') {branch : BranchDefinition}
    (found : branches.find? (·.id = id) = some branch) :
    ∃ branch', branches'.find? (·.id = id) = some branch' ∧ BranchKept branch branch' := by
  induction kept with
  | nil => cases found
  | @cons first first' rest rest' head tail ih =>
      rw [List.find?_cons] at found ⊢
      rw [head.identity]
      split at found
      · obtain rfl := Option.some.inj found
        exact ⟨first', rfl, head⟩
      · exact ih found

theorem mem_kept {branches branches' : List BranchDefinition}
    (kept : List.Forall₂ BranchKept branches branches') {branch' : BranchDefinition}
    (member : branch' ∈ branches') : ∃ branch ∈ branches, BranchKept branch branch' := by
  induction kept with
  | nil => cases member
  | @cons first first' rest rest' head tail ih =>
      rcases List.mem_cons.mp member with rfl | later
      · exact ⟨first, List.mem_cons_self, head⟩
      · obtain ⟨branch, before, step⟩ := ih later
        exact ⟨branch, List.mem_cons_of_mem first before, step⟩

/-! ## The invariant -/

/-- No identity of the record that an envelope carries is null, and trials and attempts carry what
they were created with. -/
structure Identified (record : ExperimentRecord R) : Prop where
  identity : record.definition.id.valid = true
  generation : record.definition.generation.valid = true
  hypothesis : record.definition.hypothesis.valid = true
  hypothesisRevision : record.definition.hypothesisRevision.valid = true
  policy : record.definition.policy.id.valid = true
  policyGeneration : record.definition.policy.generation.valid = true
  branches : ∀ branch ∈ record.definition.branches,
    branch.id.valid = true ∧ branch.generation.valid = true
  points : ∀ point ∈ record.rollbackPoints, point.generation.valid = true ∧
    ∀ snapshot ∈ point.authority, snapshot.generation.valid = true
  trialKey : ∀ key trial, record.trials.find? key = some trial → key.valid = true
  trialPolicy : ∀ key trial, record.trials.find? key = some trial →
    trial.policy = record.definition.policy.id ∧
      trial.policyGeneration = record.definition.policy.generation
  environment : ∀ key trial, record.trials.find? key = some trial →
    ∃ branch, record.findBranch trial.branch = some branch ∧
      trial.environmentFingerprint = branch.environmentFingerprint
  attemptBranch : ∀ id attempt, record.attempts.find? id = some attempt →
    ∃ trial, record.trials.find? attempt.trial = some trial ∧ attempt.branch = trial.branch ∧
      attempt.branchGeneration = trial.branchGeneration

/-- What a change of a record must respect to keep its identities. -/
structure KeepsIdentities (old new : ExperimentRecord R) : Prop where
  identity : new.definition.id = old.definition.id
  generation : new.definition.generation.valid = true
  hypothesis : new.definition.hypothesis = old.definition.hypothesis
  hypothesisRevision : new.definition.hypothesisRevision.valid = true
  policy : new.definition.policy = old.definition.policy
  branches : ∀ branch ∈ new.definition.branches,
    branch.id.valid = true ∧ branch.generation.valid = true
  environment : ∀ id branch, old.findBranch id = some branch →
    ∃ branch', new.findBranch id = some branch' ∧ BranchKept branch branch'
  points : ∀ point ∈ new.rollbackPoints, point.generation.valid = true ∧
    ∀ snapshot ∈ point.authority, snapshot.generation.valid = true

section Identified

variable {record after : ExperimentRecord R}

theorem Identified.keeps (identified : Identified record) : KeepsIdentities record record where
  identity := rfl
  generation := identified.generation
  hypothesis := rfl
  hypothesisRevision := identified.hypothesisRevision
  policy := rfl
  branches := identified.branches
  environment := fun _ branch found => ⟨branch, found, .refl branch⟩
  points := identified.points

theorem KeepsIdentities.congr {other : ExperimentRecord R} (keeps : KeepsIdentities record after)
    (definition : other.definition = after.definition)
    (points : other.rollbackPoints = after.rollbackPoints) : KeepsIdentities record other := by
  obtain ⟨identity, generation, hypothesis, revision, policy, branches, environment, kept⟩ := keeps
  refine ⟨?_, ?_, ?_, ?_, ?_, ?_, ?_, ?_⟩
  · rwa [definition]
  · rwa [definition]
  · rwa [definition]
  · rwa [definition]
  · rwa [definition]
  · rwa [definition]
  · intro id branch found
    rw [ExperimentRecord.findBranch, definition]
    exact environment id branch found
  · rwa [points]

/-- Branches that are changed in place keep the identities. -/
theorem Identified.ofBranches (identified : Identified record)
    {branches : List BranchDefinition}
    (kept : List.Forall₂ BranchKept record.definition.branches branches)
    (definition : after.definition = { record.definition with branches := branches })
    (points : after.rollbackPoints = record.rollbackPoints) : KeepsIdentities record after := by
  refine ⟨?_, ?_, ?_, ?_, ?_, ?_, ?_, ?_⟩
  · rw [definition]
  · rw [definition]
    exact identified.generation
  · rw [definition]
  · rw [definition]
    exact identified.hypothesisRevision
  · rw [definition]
  · rw [definition]
    intro branch' member
    obtain ⟨branch, before, step⟩ := mem_kept kept member
    obtain ⟨valid, generation⟩ := identified.branches branch before
    exact ⟨step.identity ▸ valid, step.generation generation⟩
  · intro id branch found
    rw [ExperimentRecord.findBranch, definition]
    exact find?_kept id kept found
  · rw [points]
    exact identified.points

theorem Identified.step (identified : Identified record) (carries : Carries record after)
    (keeps : KeepsIdentities record after) : Identified after where
  identity := keeps.identity ▸ identified.identity
  generation := keeps.generation
  hypothesis := keeps.hypothesis ▸ identified.hypothesis
  hypothesisRevision := keeps.hypothesisRevision
  policy := keeps.policy ▸ identified.policy
  policyGeneration := keeps.policy ▸ identified.policyGeneration
  branches := keeps.branches
  points := keeps.points
  trialKey := fun key trial' found => by
    obtain ⟨trial, before, -⟩ := carries.trials.source found
    exact identified.trialKey key trial before
  trialPolicy := fun key trial' found => by
    obtain ⟨trial, before, fixed⟩ := carries.trials.source found
    obtain ⟨policy, generation⟩ := identified.trialPolicy key trial before
    have samePolicy := congrArg TrialRecord.policy fixed
    have sameGeneration := congrArg TrialRecord.policyGeneration fixed
    rw [keeps.policy]
    exact ⟨samePolicy.trans policy, sameGeneration.trans generation⟩
  environment := fun key trial' found => by
    obtain ⟨trial, before, fixed⟩ := carries.trials.source found
    obtain ⟨branch, lookup, same⟩ := identified.environment key trial before
    obtain ⟨branch', lookup', kept⟩ := keeps.environment trial.branch branch lookup
    have sameBranch := congrArg TrialRecord.branch fixed
    have sameEnvironment := congrArg TrialRecord.environmentFingerprint fixed
    refine ⟨branch', ?_, (sameEnvironment.trans same).trans kept.environment.symm⟩
    rw [show trial'.branch = trial.branch from sameBranch]
    exact lookup'
  attemptBranch := fun id attempt' found => by
    obtain ⟨attempt, before, fixed⟩ := carries.attempts.source found
    obtain ⟨trial, lookup, branch, generation⟩ := identified.attemptBranch id attempt before
    obtain ⟨trial', lookup', trialFixed⟩ := carries.trials.extends_ _ trial lookup
    have sameTrial := congrArg AttemptRecord.trial fixed
    have sameBranch := congrArg AttemptRecord.branch fixed
    have sameGeneration := congrArg AttemptRecord.branchGeneration fixed
    have trialBranch := congrArg TrialRecord.branch trialFixed
    have trialGeneration := congrArg TrialRecord.branchGeneration trialFixed
    refine ⟨trial', ?_, (sameBranch.trans branch).trans trialBranch.symm,
      (sameGeneration.trans generation).trans trialGeneration.symm⟩
    rw [show attempt'.trial = attempt.trial from sameTrial]
    exact lookup'

/-- A change that leaves the definition and the rollback points alone. -/
theorem Identified.same (identified : Identified record) (carries : Carries record after)
    (definition : after.definition = record.definition)
    (points : after.rollbackPoints = record.rollbackPoints) : Identified after :=
  identified.step carries (identified.keeps.congr definition points)

end Identified

/-! ## Changes -/

/-- Declared branches have an allocated identity and the first generation. -/
theorem defineBranches_valid {sequence watermark : Nat} {declared : List (BranchId × BranchSpec)}
    {specs : List BranchSpec} {branches : List BranchDefinition}
    (defined : (defineBranches sequence watermark declared specs).2 = .ok branches) :
    ∀ branch ∈ branches, branch.id.valid = true ∧ branch.generation.valid = true := by
  induction specs generalizing watermark declared branches with
  | nil =>
      obtain rfl := Except.ok.inj defined
      exact fun _ member => nomatch member
  | cons spec rest ih =>
      obtain ⟨branch, others, rfl, result, shape⟩ := defineBranches_ok_cons defined
      intro other member
      rcases List.mem_cons.mp member with rfl | later
      · rcases shape with ⟨-, rfl⟩ | ⟨parent, -, -, rfl⟩
        · exact ⟨rfl, rfl⟩
        · exact ⟨rfl, rfl⟩
      · exact ih result other later

theorem Identified.addTrial {record : ExperimentRecord R} (identified : Identified record)
    {experiment : ExperimentId} {branchId : BranchId} {branch : BranchDefinition}
    (found : record.findBranch branchId = some branch) {id : TrialId} (valid : id.valid = true)
    (payload : Text) (sequence : Nat) :
    Identified (record.addTrial (record.newTrial experiment branch id payload sequence)) := by
  have here : record.findBranch branch.id = some branch := by
    rw [ExperimentRecord.findBranch_id found, found]
  have lookup : ∀ key trial, (record.addTrial
      (record.newTrial experiment branch id payload sequence)).trials.find? key = some trial →
        record.trials.find? key = some trial ∨
          key = id ∧ trial = record.newTrial experiment branch id payload sequence :=
    fun _ _ => ExperimentRecord.find?_addTrial
  have kept : ∀ key trial, record.trials.find? key = some trial → (record.addTrial
      (record.newTrial experiment branch id payload sequence)).trials.find? key = some trial := by
    intro key trial held
    simp only [ExperimentRecord.addTrial, ExperimentRecord.log, OrderedMap.find?_emplace]
    split
    · rename_i same
      rw [← same, held]
      rfl
    · exact held
  refine { identified with
    trialKey := fun key trial held => ?_
    trialPolicy := fun key trial held => ?_
    environment := fun key trial held => ?_
    attemptBranch := fun key attempt held => ?_ }
  · rcases lookup key trial held with before | ⟨rfl, -⟩
    · exact identified.trialKey key trial before
    · exact valid
  · rcases lookup key trial held with before | ⟨-, rfl⟩
    · exact identified.trialPolicy key trial before
    · exact ⟨rfl, rfl⟩
  · rcases lookup key trial held with before | ⟨-, rfl⟩
    · exact identified.environment key trial before
    · exact ⟨branch, here, rfl⟩
  · obtain ⟨trial, before, same⟩ := identified.attemptBranch key attempt held
    exact ⟨trial, kept _ trial before, same⟩

/-- Issuing an attempt keeps what is written of a trial when it is created. -/
theorem issue_trials (record : ExperimentRecord R) (key : TrialId) (attempt : AttemptRecord)
    (sequence : Nat) :
    OrderedMap.Evolves (fun trial trial' => trial'.fixed = trial.fixed) record.trials
      (record.issue key attempt sequence).trials := by
  unfold ExperimentRecord.issue
  dsimp only
  apply OrderedMap.Evolves.modify
  · exact fun _ => rfl
  · exact fun _ _ => rfl

theorem Identified.issue {record : ExperimentRecord R} {marks : Watermarks}
    (identified : Identified record) (life : Lifecycle marks record) {key : TrialId}
    {trial : TrialRecord} (found : record.trials.find? key = some trial) (id : TrialAttemptId)
    (worker : WorkerId) (boot : WorkerBootId) (epoch : CoordinatorEpoch) (producer : ProducerId)
    (sequence : Nat) :
    Identified (record.issue key
      (record.newAttempt trial id worker boot epoch producer sequence) sequence) := by
  have evolves := issue_trials record key
    (record.newAttempt trial id worker boot epoch producer sequence) sequence
  have carried : ∀ (attempt : AttemptRecord) before, record.trials.find? attempt.trial = some before →
      attempt.branch = before.branch → attempt.branchGeneration = before.branchGeneration →
        ∃ trial', (record.issue key (record.newAttempt trial id worker boot epoch producer sequence)
          sequence).trials.find? attempt.trial = some trial' ∧ attempt.branch = trial'.branch ∧
            attempt.branchGeneration = trial'.branchGeneration := by
    intro attempt before held branch generation
    obtain ⟨trial', held', fixed⟩ := evolves.extends_ _ before held
    have sameBranch := congrArg TrialRecord.branch fixed
    have sameGeneration := congrArg TrialRecord.branchGeneration fixed
    exact ⟨trial', held', branch.trans sameBranch.symm, generation.trans sameGeneration.symm⟩
  have unissued : Identified { record with trials := (record.issue key (record.newAttempt trial id
      worker boot epoch producer sequence) sequence).trials } :=
    identified.same ⟨evolves, .refl fun _ => rfl⟩ rfl rfl
  refine { unissued with attemptBranch := fun other attempt held => ?_ }
  rcases ExperimentRecord.find?_issue held with present | ⟨-, rfl⟩
  · obtain ⟨before, lookup, branch, generation⟩ := identified.attemptBranch _ _ present
    exact carried _ before lookup branch generation
  · refine carried _ trial ?_ rfl rfl
    rw [show (record.newAttempt trial id worker boot epoch producer sequence).trial = key from
      (life.trial key trial found).id]
    exact found

theorem invalidateBranch_identities {record failed : ExperimentRecord R}
    (identified : Identified record) (definition : failed.definition = record.definition)
    (points : failed.rollbackPoints = record.rollbackPoints) (branch : BranchId)
    (detail line : Text) :
    KeepsIdentities record ((failed.invalidateBranch branch detail).log line) := by
  have unchanged : KeepsIdentities record (failed.log line) :=
    identified.keeps.congr definition points
  unfold ExperimentRecord.invalidateBranch
  split
  · split
    · exact unchanged
    · split
      · have invalidated : ∀ found : BranchDefinition,
            BranchKept found { found with state := .invalid } := fun _ => ⟨rfl, rfl, id⟩
        refine identified.ofBranches
          (updateBranch_kept branch invalidated record.definition.branches) ?_ points
        simp only [ExperimentRecord.log, definition]
      · exact unchanged
  · exact unchanged

section Effects

variable [MetricReal R] [CanonicalDigests R]

/-- Every request keeps the identities of a record. -/
theorem Effect.keepsIdentities {c : Coordinator R} {experiment : ExperimentId}
    {record after : ExperimentRecord R} {marks : Watermarks} {request : Request R}
    (effect : Effect c experiment record marks request after) (identified : Identified record) :
    KeepsIdentities record after := by
  have unchanged : ∀ {other : ExperimentRecord R}, other.definition = record.definition →
      other.rollbackPoints = record.rollbackPoints → KeepsIdentities record other :=
    fun definition points => identified.keeps.congr definition points
  cases effect with
  | revise guarded =>
      exact ⟨rfl, rfl, rfl, rfl, rfl, identified.branches,
        fun _ branch found => ⟨branch, found, .refl branch⟩, identified.points⟩
  | @fork parent spec parentBranch branch guarded forked valid allocated =>
      refine ⟨rfl, identified.generation, rfl, identified.hypothesisRevision, rfl, ?_, ?_,
        identified.points⟩
      · intro other member
        rcases List.mem_append.mp member with before | added
        · exact identified.branches other before
        · rw [List.mem_singleton.mp added, forked]
          exact ⟨rfl, rfl⟩
      · intro id found lookup
        refine ⟨found, ?_, .refl found⟩
        have extended : (record.definition.branches ++ [branch]).find? (·.id = id) = some found := by
          rw [List.find?_append, show record.definition.branches.find? (·.id = id) = some found
            from lookup, Option.some_or]
        exact extended
  | forkUndone guarded =>
      refine unchanged ?_ rfl
      simp [ExperimentRecord.fork, ExperimentRecord.log, ExperimentRecord.unfork]
  | @retire branch reason guarded =>
      refine identified.ofBranches (updateBranch_kept branch ?_ record.definition.branches) rfl rfl
      exact fun _ => ⟨rfl, rfl, fun _ => rfl⟩
  | @refuseObservation publication verdict named found refused =>
      obtain ⟨observations, rejected, same⟩ :=
        refusedObservation_frame c record publication.observation verdict
      exact unchanged (by rw [same]) (by rw [same])
  | publishObservation named accepted =>
      refine unchanged (observe_fields (record.pushObservation _) _ _ _ _ _).2 ?_
      unfold ExperimentRecord.observe
      dsimp only
      split <;> split <;> rfl
  | publishObservationUndone named accepted =>
      refine unchanged (observe_fields record _ _ _ _ _).2 ?_
      unfold ExperimentRecord.observe
      dsimp only
      split <;> split <;> rfl
  | refuseArtifact named found built refused =>
      obtain ⟨rejected, same⟩ := reject_frame record _ _ _
      exact unchanged (by rw [same]) (by rw [same])
  | publishArtifact named built accepted => exact unchanged rfl rfl
  | publishArtifactUndone named built accepted => exact unchanged rfl rfl
  | registerArtifacts named guarded refused stored =>
      subst named
      have added := registered_pair guarded stored
      exact unchanged added.definition added.rollbackPoints
  | commit named guarded accepted stored =>
      subst named
      have added := registered_pair guarded stored
      exact unchanged added.definition added.rollbackPoints
  | fail named guarded =>
      unfold ExperimentRecord.fail
      apply invalidateBranch_identities identified <;> rfl
  | cancelTrial owner isOpen => exact unchanged rfl rfl
  | cancel found allowed => exact unchanged rfl rfl
  | @finalize candidate reason decision guarded decided allocated pointed =>
      refine ⟨rfl, identified.generation, rfl, identified.hypothesisRevision, rfl,
        identified.branches, fun _ branch found => ⟨branch, found, .refl branch⟩, ?_⟩
      intro point member
      rcases List.mem_append.mp member with before | added
      · exact identified.points point before
      · split at added
        · obtain rfl := List.mem_singleton.mp added
          refine ⟨identified.generation, fun snapshot listed => ?_⟩
          obtain ⟨branch, there, rfl⟩ := List.mem_map.mp listed
          exact (identified.branches branch there).2
        · cases added
  | @rollback target reason chosen guarded allocated =>
      have allowed := Coordinator.rollbackGuard_ok guarded
      obtain ⟨generation, snapshots⟩ := identified.points chosen allowed.member
      have kept := restoreBranches_kept snapshots record.definition.branches
      have restored : KeepsIdentities record { record with
          definition := { record.definition with
            branches := ExperimentRecord.restoreBranches chosen.authority
              record.definition.branches } } := identified.ofBranches kept rfl rfl
      refine ⟨rfl, generation, rfl, identified.hypothesisRevision, rfl, restored.branches,
        restored.environment, ?_⟩
      intro point member
      rcases List.mem_append.mp member with before | added
      · exact identified.points point before
      · obtain rfl := List.mem_singleton.mp added
        exact ⟨generation, snapshots⟩

theorem Effect.identified {c : Coordinator R} {experiment : ExperimentId}
    {record after : ExperimentRecord R} {marks : Watermarks} {request : Request R}
    (effect : Effect c experiment record marks request after) (identified : Identified record) :
    Identified after :=
  identified.step (moves_rewritten effect.moves).carries (effect.keepsIdentities identified)

omit [MetricReal R] [CanonicalDigests R] in
theorem Identified.recovered {record after : ExperimentRecord R} (identified : Identified record)
    (same : after.forget = record.recovered.forget) : Identified after := by
  have definition := congrArg (fun forgotten => forgotten.definition) same
  have points := congrArg (fun forgotten => forgotten.rollbackPoints) same
  exact identified.same (recovered_carries same) definition points

/-- Records are identified in every reachable state. -/
theorem identified_invariant :
    RecordInvariant (fun (_ : World R) _ => True) (@Identified R) where
  logged := fun {record} {line} identified =>
    identified.same (Rewritten.carries (rewritten_log record line)) rfl rfl
  created := by
    rintro spec limits marks expected branches _ sequence accepted branched rfl valid
    refine ⟨rfl, rfl, rfl, rfl, rfl, rfl, defineBranches_valid branched, ?_, ?_, ?_, ?_, ?_⟩
    · intro point member
      cases member
    all_goals
      intro key value found
      simp [ExperimentSpec.record] at found
  changed := fun _ effect _ identified => effect.identified identified
  added := fun guarded identified =>
    identified.addTrial (Coordinator.createTrialGuard_ok guarded).branchFound rfl _ _
  issued := fun _ found _ life _ identified => identified.issue life found _ _ _ _ _ _
  lost := by
    intro record marks worker boot kind attemptDetail trialDetail line sequence _ identified
    have rewritten := loseWorker_rewritten worker boot kind attemptDetail trialDetail sequence line
      record
    refine identified.same rewritten.carries (loseWorker_fields ..).2 ?_
    have points : ∀ (lost : List (TrialAttemptId × AttemptRecord)) (other : ExperimentRecord R),
        (lost.foldl (ExperimentRecord.loseAttempt kind attemptDetail trialDetail sequence)
          other).rollbackPoints = other.rollbackPoints := by
      intro lost
      induction lost with
      | nil => exact fun _ => rfl
      | cons entry rest ih => exact fun other => ih _
    unfold ExperimentRecord.loseWorker
    dsimp only
    split <;> exact points _ record
  staged := by
    intro record sequence identified
    have fields := stage_forget_fields record sequence
    refine identified.same (stage_carries record sequence) ?_ ?_
    · rw [fields]
      rfl
    · rw [fields]
      rfl
  recovered := fun _ _ same _ identified => identified.recovered same

theorem World.Reachable.identified {path : Text} {c : Coordinator R}
    (reachable : (World.running c).Reachable path) {experiment : ExperimentId}
    {record : ExperimentRecord R} (found : c.findExperiment experiment = some record) :
    Identified record :=
  (reachable.holds identified_invariant.durable).1 experiment record found

end Effects

end ExperimentFabric
