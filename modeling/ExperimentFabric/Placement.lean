import ExperimentFabric.History

/-!
# Where records live

An experiment is stored under its own identity, every trial names a branch of its experiment, and
no trial identity occurs in two experiments.
-/

namespace ExperimentFabric

open Lib Relation

variable {R : Type}

/-- The record is stored under its identity and declares the branches its trials name. -/
structure Placed (experiment : ExperimentId) (record : ExperimentRecord R) : Prop where
  identity : record.definition.id = experiment
  branch : ∀ key trial, record.trials.find? key = some trial →
    (record.findBranch trial.branch).isSome = true

/-- Every experiment is placed, and no trial identity is shared by two experiments. -/
structure CoordinatorState.Arranged (state : CoordinatorState R) : Prop where
  placed : ∀ id record, state.experiments.find? id = some record → Placed id record
  apart : ∀ first second record other key trial trial',
    state.experiments.find? first = some record → state.experiments.find? second = some other →
      record.trials.find? key = some trial → other.trials.find? key = some trial' → first = second

/-- A record keeps its identity, its branches, and its trials on their branches. -/
structure KeepsPlace (old new : ExperimentRecord R) : Prop where
  identity : new.definition.id = old.definition.id
  branches : old.definition.branches.map BranchDefinition.id <+:
    new.definition.branches.map BranchDefinition.id
  trials : OrderedMap.Evolves (fun trial trial' => trial'.branch = trial.branch) old.trials
    new.trials

theorem KeepsPlace.refl (record : ExperimentRecord R) : KeepsPlace record record :=
  ⟨rfl, List.prefix_rfl, .refl fun _ => rfl⟩

theorem TrialKept.branch {trial trial' : TrialRecord} (kept : TrialKept trial trial') :
    trial'.branch = trial.branch := by
  have same := congrArg TrialRecord.branch kept.fixed
  exact same

theorem Rewritten.keepsPlace {old new : ExperimentRecord R} (rewritten : Rewritten old new) :
    KeepsPlace old new :=
  ⟨rewritten.identity, rewritten.branches, rewritten.trials.mono fun _ _ kept => kept.branch⟩

theorem findBranch_isSome_iff (record : ExperimentRecord R) (id : BranchId) :
    (record.findBranch id).isSome = true ↔
      id ∈ record.definition.branches.map BranchDefinition.id := by
  simp [ExperimentRecord.findBranch]

theorem KeepsPlace.placed {experiment : ExperimentId} {old new : ExperimentRecord R}
    (keeps : KeepsPlace old new) (placed : Placed experiment old) : Placed experiment new where
  identity := keeps.identity.trans placed.identity
  branch := fun key trial' found => by
    obtain ⟨trial, before, same⟩ := keeps.trials.source found
    rw [same, findBranch_isSome_iff]
    exact keeps.branches.subset
      ((findBranch_isSome_iff old trial.branch).mp (placed.branch key trial before))

/-- Records that keep their place keep the arrangement. -/
theorem CoordinatorState.Arranged.evolve {old new : CoordinatorState R} (arranged : old.Arranged)
    (keeps : OrderedMap.Evolves KeepsPlace old.experiments new.experiments) : new.Arranged where
  placed := fun id record found => by
    obtain ⟨before, lookup, step⟩ := keeps.source found
    exact step.placed (arranged.placed id before lookup)
  apart := fun first second record other key trial trial' firstFound secondFound held held' => by
    obtain ⟨before, lookup, step⟩ := keeps.source firstFound
    obtain ⟨before', lookup', step'⟩ := keeps.source secondFound
    obtain ⟨original, there, -⟩ := step.trials.source held
    obtain ⟨original', there', -⟩ := step'.trials.source held'
    exact arranged.apart first second before before' key original original' lookup lookup' there
      there'

/-- A new experiment without trials keeps the arrangement. -/
theorem CoordinatorState.Arranged.create {old new : CoordinatorState R} (arranged : old.Arranged)
    {experiment : ExperimentId} {record : ExperimentRecord R}
    (identity : record.definition.id = experiment) (noTrials : record.trials = .empty)
    (stored : new.experiments = old.experiments.assign experiment record) : new.Arranged := by
  have empty : ∀ key trial, record.trials.find? key = some trial → False := by
    intro key trial found
    simp [noTrials] at found
  have lookup : ∀ id other, new.experiments.find? id = some other →
      (id = experiment ∧ other = record) ∨ old.experiments.find? id = some other := by
    intro id other found
    rw [stored, OrderedMap.find?_assign] at found
    split at found
    · rename_i same
      exact .inl ⟨same, (Option.some.inj found).symm⟩
    · exact .inr found
  refine ⟨fun id other found => ?_, ?_⟩
  · rcases lookup id other found with ⟨rfl, rfl⟩ | before
    · exact ⟨identity, fun key trial held => (empty key trial held).elim⟩
    · exact arranged.placed id other before
  · intro first second left right key trial trial' firstFound secondFound held held'
    rcases lookup first left firstFound with ⟨-, rfl⟩ | before
    · exact (empty key trial held).elim
    · rcases lookup second right secondFound with ⟨-, rfl⟩ | before'
      · exact (empty key trial' held').elim
      · exact arranged.apart first second left right key trial trial' before before' held held'

/-- A new trial on a known branch, under an identity no experiment holds, keeps the arrangement. -/
theorem CoordinatorState.Arranged.addTrial {old new : CoordinatorState R} (arranged : old.Arranged)
    {experiment : ExperimentId} {record : ExperimentRecord R} {added : TrialRecord}
    (found : old.experiments.find? experiment = some record)
    (known : (record.findBranch added.branch).isSome = true)
    (fresh : ∀ id other, old.experiments.find? id = some other →
      other.trials.find? added.id = none)
    (stored : new.experiments = old.experiments.assign experiment (record.addTrial added)) :
    new.Arranged := by
  have trials : ∀ key, (record.addTrial added).trials.find? key =
      if key = added.id then some added else record.trials.find? key := by
    intro key
    simp [ExperimentRecord.addTrial, ExperimentRecord.log, OrderedMap.find?_emplace,
      fresh experiment record found]
  have placed := arranged.placed experiment record found
  -- Every trial of the new state is the added one or an old one of the same experiment.
  have lookup : ∀ id other key trial, new.experiments.find? id = some other →
      other.trials.find? key = some trial →
        (id = experiment ∧ key = added.id) ∨ ∃ before, old.experiments.find? id = some before ∧
          before.trials.find? key = some trial := by
    intro id other key trial stage held
    rw [stored, OrderedMap.find?_assign] at stage
    split at stage
    · rename_i same
      obtain rfl := Option.some.inj stage
      rw [trials] at held
      split at held
      · rename_i here
        exact .inl ⟨same, here⟩
      · exact .inr ⟨record, same ▸ found, held⟩
    · exact .inr ⟨other, stage, held⟩
  refine ⟨fun id other stage => ?_, ?_⟩
  · rw [stored, OrderedMap.find?_assign] at stage
    split at stage
    · rename_i same
      obtain rfl := Option.some.inj stage
      refine ⟨same ▸ placed.identity, fun key trial held => ?_⟩
      rw [trials] at held
      split at held
      · obtain rfl := Option.some.inj held
        exact known
      · exact placed.branch key trial held
    · exact arranged.placed id other stage
  · intro first second left right key trial trial' firstFound secondFound held held'
    rcases lookup first left key trial firstFound held with ⟨rfl, rfl⟩ | ⟨before, there, at_⟩
    · rcases lookup second right _ trial' secondFound held' with ⟨rfl, -⟩ | ⟨before', there', at'⟩
      · rfl
      · cases (fresh second before' there').symm.trans at'
    · rcases lookup second right key trial' secondFound held' with ⟨rfl, rfl⟩ |
        ⟨before', there', at'⟩
      · cases (fresh first before there).symm.trans at_
      · exact arranged.apart first second before before' key trial trial' there there' at_ at'

end ExperimentFabric
