import ExperimentFabric.Lib.Forests
import ExperimentFabric.Lib.Overlays
import ExperimentFabric.Validation

/-!
# Branch lineage

What the lineage validator accepts: the parents of the branches form a forest of bounded depth.  The
walk keeps the set of visited branches; it succeeds exactly when the parents of its start form a
lineage that fits in the remaining steps and avoids that set.
-/

namespace ExperimentFabric

open Lib

variable {R : Type}

/-- An identity as a reference; the null identity refers to nothing. -/
def StrongId.reference {tag : Tag} (id : StrongId tag) : Option (StrongId tag) :=
  if id.valid then some id else none

/-- The parent named by the branch of an identity. -/
def parentIn (branches : List BranchDefinition) (id : BranchId) : Option BranchId :=
  (branches.find? (·.id = id)).bind (·.parent.reference)

/-- The parent of a branch. -/
abbrev ExperimentDefinition.parentOf (definition : ExperimentDefinition R) :
    BranchId → Option BranchId :=
  parentIn definition.branches

/-- The identities of the branches. -/
abbrev ExperimentDefinition.branchIds (definition : ExperimentDefinition R) : List BranchId :=
  definition.branches.map BranchDefinition.id

/-- The branches form a forest of bounded depth, with a baseline where one is required. -/
structure ExperimentDefinition.LineageValid (definition : ExperimentDefinition R) : Prop where
  identified : ∀ branch ∈ definition.branches, branch.id ≠ .null
  distinct : definition.branchIds.Nodup
  parents : ∀ branch ∈ definition.branches, branch.parent ≠ .null →
    branch.parent ∈ definition.branchIds
  rooted : ∀ branch ∈ definition.branches, ∃ path,
    Lineage definition.parentOf (some branch.id) path ∧ path.Nodup ∧
      path ⊆ definition.branchIds ∧ path.length ≤ 4096
  baseline : definition.policy.requireBaseline = true →
    ∃ branch ∈ definition.branches, branch.role = .baseline

theorem StrongId.valid_iff_ne_null {tag : Tag} (id : StrongId tag) :
    id.valid = true ↔ id ≠ .null := by
  cases id
  simp [StrongId.valid, StrongId.null]

theorem StrongId.reference_of_valid {tag : Tag} {id : StrongId tag} (valid : id.valid = true) :
    id.reference = some id := if_pos valid

theorem StrongId.reference_eq_none {tag : Tag} {id : StrongId tag} :
    id.reference = none ↔ id.valid = false := by
  rw [StrongId.reference]
  cases id.valid <;> simp

theorem StrongId.reference_eq_some {tag : Tag} {id other : StrongId tag} :
    id.reference = some other ↔ id = other ∧ id ≠ .null := by
  rw [← id.valid_iff_ne_null, StrongId.reference]
  cases id.valid <;> simp

section Parents

variable {branches : List BranchDefinition}

theorem parentIn_eq_some {id parent : BranchId} :
    parentIn branches id = some parent ↔
      ∃ branch, branches.find? (·.id = id) = some branch ∧ branch.parent = parent ∧
        parent ≠ .null := by
  simp only [parentIn, Option.bind_eq_some_iff, StrongId.reference_eq_some]
  constructor
  · rintro ⟨branch, found, rfl, nonnull⟩
    exact ⟨branch, found, rfl, nonnull⟩
  · rintro ⟨branch, found, rfl, nonnull⟩
    exact ⟨branch, found, rfl, nonnull⟩

/-- The branches whose parent is a given one. -/
theorem childOf_iff (distinct : (branches.map BranchDefinition.id).Nodup) {child up : BranchId}
    (nonnull : up ≠ .null) :
    ChildOf (parentIn branches) child up ↔
      ∃ branch ∈ branches, branch.parent = up ∧ branch.id = child := by
  rw [ChildOf, parentIn_eq_some]
  constructor
  · rintro ⟨branch, found, under, -⟩
    exact ⟨branch, List.mem_of_find?_eq_some found, under,
      by simpa using List.find?_some found⟩
  · rintro ⟨branch, member, under, rfl⟩
    exact ⟨branch, (find?_key_eq_some_iff distinct).mpr ⟨member, rfl⟩, under, nonnull⟩

end Parents

namespace Validation

variable {branches : List BranchDefinition}

/-- A walk that may visit one more branch ends at an identity of no branch. -/
theorem walkLineage_unknown (context : Text) {remaining : Nat} {seen : List BranchId}
    {cursor : BranchId} (valid : cursor.valid = true) (fresh : cursor ∉ seen)
    (unknown : branches.find? (·.id = cursor) = none) :
    walkLineage branches context (remaining + 1) seen cursor = .ok () := by
  simp only [walkLineage, valid, Bool.not_true, Bool.false_eq_true, if_false, fresh, unknown]

/-- A walk that may visit one more branch goes on with the parent of a new one. -/
theorem walkLineage_known (context : Text) {remaining : Nat} {seen : List BranchId}
    {cursor : BranchId} (valid : cursor.valid = true) (fresh : cursor ∉ seen)
    {branch : BranchDefinition} (known : branches.find? (·.id = cursor) = some branch) :
    walkLineage branches context (remaining + 1) seen cursor =
      walkLineage branches context remaining (cursor :: seen) branch.parent := by
  simp only [walkLineage, valid, Bool.not_true, Bool.false_eq_true, if_false, fresh, known]

/-- The walk succeeds when the rest of the lineage fits and is new. -/
theorem walkLineage_eq_ok (context : Text) (remaining : Nat) (seen : List BranchId)
    (cursor : BranchId) :
    walkLineage branches context remaining seen cursor = .ok () ↔
      ∃ path, Lineage (parentIn branches) cursor.reference path ∧
        (∀ id ∈ path, id ∉ seen) ∧ path.length ≤ remaining := by
  induction remaining generalizing seen cursor with
  | zero =>
      rw [walkLineage]
      cases valid : cursor.valid with
      | false =>
          rw [StrongId.reference_eq_none.mpr valid]
          exact iff_of_true rfl ⟨[], .root, by simp, le_rfl⟩
      | true =>
          rw [StrongId.reference_of_valid valid]
          apply iff_of_false
          · by_cases again : cursor ∈ seen <;> simp [again]
          · rintro ⟨path, lineage, -, short⟩
            obtain ⟨above, rfl, -⟩ := lineage.of_some
            simp at short
  | succ remaining ih =>
      cases valid : cursor.valid with
      | false =>
          rw [StrongId.reference_eq_none.mpr valid, walkLineage, valid]
          exact iff_of_true rfl ⟨[], .root, by simp, Nat.zero_le _⟩
      | true =>
          rw [StrongId.reference_of_valid valid]
          by_cases again : cursor ∈ seen
          · rw [walkLineage, if_neg (by simp [valid]), if_pos again]
            refine iff_of_false (by simp) ?_
            rintro ⟨path, lineage, fresh, -⟩
            obtain ⟨above, rfl, -⟩ := lineage.of_some
            exact fresh cursor List.mem_cons_self again
          · have next : walkLineage branches context (remaining + 1) seen cursor = .ok () ↔
                ∃ above, Lineage (parentIn branches) (parentIn branches cursor) above ∧
                  (∀ id ∈ above, id ∉ cursor :: seen) ∧ above.length ≤ remaining := by
              rw [parentIn]
              cases found : branches.find? (·.id = cursor) with
              | none =>
                  rw [walkLineage_unknown context valid again found]
                  exact iff_of_true rfl ⟨[], .root, by simp, Nat.zero_le _⟩
              | some branch =>
                  rw [walkLineage_known context valid again found]
                  exact ih (cursor :: seen) branch.parent
            rw [next]
            constructor
            · rintro ⟨above, rest, fresh, short⟩
              refine ⟨cursor :: above, .step rest, fun id member => ?_, by simpa using short⟩
              rcases List.mem_cons.mp member with rfl | later
              · exact again
              · exact fun old => fresh id later (List.mem_cons_of_mem _ old)
            · rintro ⟨path, lineage, fresh, short⟩
              obtain ⟨above, rfl, rest⟩ := lineage.of_some
              refine ⟨above, rest, fun id member old => ?_, by simpa using short⟩
              rcases List.mem_cons.mp old with rfl | old
              · exact lineage.not_mem member
              · exact fresh id (List.mem_cons_of_mem _ member) old

/-- Every member of a lineage that starts at a branch is a branch. -/
theorem lineage_subset
    (parents : ∀ branch ∈ branches, branch.parent ≠ .null →
      branch.parent ∈ branches.map BranchDefinition.id)
    {start : Option BranchId} {path : List BranchId}
    (lineage : Lineage (parentIn branches) start path)
    (known : ∀ id ∈ start, id ∈ branches.map BranchDefinition.id) :
    path ⊆ branches.map BranchDefinition.id := by
  induction lineage with
  | root => exact List.nil_subset _
  | @step node above rest ih =>
      refine List.cons_subset.mpr ⟨known node rfl, ih fun id up => ?_⟩
      obtain ⟨branch, found, rfl, nonnull⟩ := parentIn_eq_some.mp up
      exact parents branch (List.mem_of_find?_eq_some found) nonnull

/-- The checks of the lineage validator, one by one. -/
theorem validateBranchLineage_eq_ok (definition : ExperimentDefinition R) (context : Text) :
    validateBranchLineage definition context = .ok () ↔
      (∀ branch ∈ definition.branches, branch.id ≠ .null) ∧ definition.branchIds.Nodup ∧
      (∀ branch ∈ definition.branches,
        (branch.parent ≠ .null → branch.parent ∈ definition.branchIds) ∧
          branch.parent ≠ branch.id) ∧
      (definition.policy.requireBaseline = true →
        ∃ branch ∈ definition.branches, branch.role = .baseline) ∧
      ∀ branch ∈ definition.branches,
        walkLineage definition.branches context maxLineageWalk [] branch.id = .ok () := by
  simp only [validateBranchLineage, sequence_cons_eq_ok, sequence_nil, require_eq_ok, scan_eq_ok,
    forEach_eq_ok, decide_eq_true_eq, and_true, Bool.or_eq_true, Bool.not_eq_true', ne_eq,
    List.any_eq_true, StrongId.valid_iff_ne_null]
  have identities : (∀ front branch back, definition.branches = front ++ branch :: back →
      ¬branch.id = .null ∧ branch.id ∉ front.map BranchDefinition.id) ↔
      (∀ branch ∈ definition.branches, ¬branch.id = .null) ∧ definition.branchIds.Nodup := by
    rw [← forall_split_iff_nodup, ← forall_split_iff_forall_mem]
    constructor
    · intro each
      exact ⟨fun front branch back split => (each front branch back split).1,
        fun front branch back split => (each front branch back split).2⟩
    · rintro ⟨nonnull, fresh⟩ front branch back split
      exact ⟨nonnull front branch back split, fresh front branch back split⟩
  have parent (branch : BranchDefinition) :
      branch.parent.valid = false ↔ branch.parent = .null := by
    rw [← Bool.not_eq_true, StrongId.valid_iff_ne_null, not_not]
  have required : definition.policy.requireBaseline = false ↔
      ¬ definition.policy.requireBaseline = true := (Bool.not_eq_true _).symm.to_iff
  rw [identities, required, ← imp_iff_not_or]
  simp only [parent, or_iff_not_imp_left, and_assoc]

/-- Acceptance is validity of the lineage. -/
theorem lineageValid_iff (definition : ExperimentDefinition R) (context : Text) :
    validateBranchLineage definition context = .ok () ↔ definition.LineageValid := by
  rw [validateBranchLineage_eq_ok]
  constructor
  · rintro ⟨identified, distinct, parents, baseline, walked⟩
    refine ⟨identified, distinct, fun branch member => (parents branch member).1, ?_, baseline⟩
    intro branch member
    obtain ⟨path, lineage, -, short⟩ := (walkLineage_eq_ok ..).mp (walked branch member)
    rw [StrongId.reference_of_valid ((StrongId.valid_iff_ne_null _).mpr
      (identified branch member))] at lineage
    refine ⟨path, lineage, lineage.nodup, ?_, short⟩
    apply lineage_subset (fun branch member => (parents branch member).1) lineage
    intro id first
    rw [← Option.some.inj first]
    exact List.mem_map_of_mem member
  · intro valid
    refine ⟨valid.identified, valid.distinct, fun branch member =>
      ⟨valid.parents branch member, fun itself => ?_⟩, valid.baseline, fun branch member => ?_⟩
    · -- A branch that is its own parent has no lineage.
      obtain ⟨path, lineage, -⟩ := valid.rooted branch member
      have linked : ChildOf definition.parentOf branch.id branch.id :=
        (childOf_iff valid.distinct (valid.identified branch member)).mpr
          ⟨branch, member, itself, rfl⟩
      exact lineage.not_below (.single linked)
    · obtain ⟨path, lineage, -, -, short⟩ := valid.rooted branch member
      refine (walkLineage_eq_ok ..).mpr ⟨path, ?_, by simp, short⟩
      rwa [StrongId.reference_of_valid ((StrongId.valid_iff_ne_null _).mpr
        (valid.identified branch member))]

end Validation

/-- In a valid lineage no identity is its own ancestor. -/
theorem ExperimentDefinition.LineageValid.acyclic {definition : ExperimentDefinition R}
    (valid : definition.LineageValid) (id : BranchId) : ¬ Below definition.parentOf id id := by
  intro below
  obtain ⟨up, linked, -⟩ := Relation.TransGen.head'_iff.mp below
  obtain ⟨branch, found, -⟩ := parentIn_eq_some.mp linked
  obtain rfl : branch.id = id := by simpa using List.find?_some found
  obtain ⟨path, lineage, -⟩ := valid.rooted branch (List.mem_of_find?_eq_some found)
  exact lineage.not_below below

/-- The lineage validator accepts exactly the definitions whose branches form a bounded forest, and
those have no cycle. -/
theorem validateBranchLineage_exact (definition : ExperimentDefinition R) (context : Text) :
    (Validation.validateBranchLineage definition context = .ok () ↔ definition.LineageValid) ∧
      (Validation.validateBranchLineage definition context = .ok () →
        ∀ id, ¬ Below definition.parentOf id id) :=
  ⟨Validation.lineageValid_iff definition context, fun accepted =>
    ((Validation.lineageValid_iff definition context).mp accepted).acyclic⟩

end ExperimentFabric
