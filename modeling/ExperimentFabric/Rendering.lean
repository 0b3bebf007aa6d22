import ExperimentFabric.Lineages

/-!
# Lineage rendering

The lineage report of an experiment: a header and the branches as an indented forest.  The report is
cut off at a number of lines and at a depth; a branch whose parent is absent is reported after the
forest.
-/

namespace ExperimentFabric

open Lib

variable {R : Type}

/-- Stable name of a branch role. -/
def BranchRole.toText : BranchRole → Text
  | .baseline => "BASELINE"
  | .candidate => "CANDIDATE"

/-- What the lineage report reads of a snapshot. -/
structure ExperimentSnapshot (R : Type) where
  /-- The definition of the experiment. -/
  definition : ExperimentDefinition R

namespace Inspect

/-- Add a line unless the report is full. -/
def pushLimited (lines : List Text) (limits : Limits) (line : Text) : List Text :=
  if lines.length ≥ limits.maxExplanationLines then lines else lines ++ [line]

/-- The first branch with an identity. -/
def branchOf (definition : ExperimentDefinition R) (id : BranchId) : Option BranchDefinition :=
  definition.branches.find? (·.id = id)

/-- The line of a branch at a depth. -/
def branchLine (depth : Nat) (branch : BranchDefinition) : Text :=
  List.replicate (depth * 2) 32 ++ text "branch " ++ branch.id.toText ++ text " name=" ++
    branch.name ++ text " role=" ++ branch.role.toText ++ text " state=" ++ branch.state.toText ++
    text " branch-generation=" ++ branch.generation.toText ++
    if branch.parent.valid then text " parent=" ++ branch.parent.toText else []

/-- The children of a branch in increasing order. -/
def childrenOf (definition : ExperimentDefinition R) (node : BranchId) : List BranchId :=
  ((definition.branches.filter (·.parent = node)).map BranchDefinition.id).mergeSort

/-- Report a branch and, one level deeper, its children.  The depth bound ends the recursion. -/
def renderBranchTree (definition : ExperimentDefinition R) (node : BranchId) (depth : Nat)
    (lines : List Text) (limits : Limits) : List Text :=
  if _deep : depth > limits.maxLineageDepth then lines
  else
    match branchOf definition node with
    | none => lines
    | some branch =>
        (childrenOf definition node).foldl
          (fun lines child => renderBranchTree definition child (depth + 1) lines limits)
          (pushLimited lines limits (branchLine depth branch))
termination_by limits.maxLineageDepth + 1 - depth

/-- The first line of the report. -/
def lineageHeader (definition : ExperimentDefinition R) : Text :=
  text "lineage experiment " ++ definition.id.toText ++ text " hypothesis " ++
    definition.hypothesis.toText ++ text " revision " ++ definition.hypothesisRevision.toText

/-- The roots in increasing order. -/
def rootsOf (definition : ExperimentDefinition R) : List BranchId :=
  ((definition.branches.filter (!·.parent.valid)).map BranchDefinition.id).mergeSort

/-- The lineage report. -/
def renderLineage (snapshot : ExperimentSnapshot R) (limits : Limits) : List Text :=
  let definition := snapshot.definition
  let lines := pushLimited [] limits (lineageHeader definition)
  let lines := (rootsOf definition).foldl
    (fun lines root => renderBranchTree definition root 0 lines limits) lines
  -- A branch whose parent is absent is still reported.
  definition.branches.foldl
    (fun lines branch =>
      if branch.parent.valid && (branchOf definition branch.parent).isNone then
        renderBranchTree definition branch.id 0 lines limits
      else lines) lines

/-! ## The traversal -/

/-- What a visit of a branch reports. -/
def entryOf (definition : ExperimentDefinition R) (visit : Nat × BranchId) :
    Nat × BranchDefinition :=
  (visit.1, (branchOf definition visit.2).getD {})

/-- Add the line of an entry. -/
def pushEntry (limits : Limits) (lines : List Text) (entry : Nat × BranchDefinition) : List Text :=
  pushLimited lines limits (branchLine entry.1 entry.2)

theorem foldl_pushEntry {limits : Limits} (entries : List (Nat × BranchDefinition))
    (lines : List Text) (room : lines.length + entries.length ≤ limits.maxExplanationLines) :
    entries.foldl (pushEntry limits) lines =
      lines ++ entries.map fun entry => branchLine entry.1 entry.2 := by
  induction entries generalizing lines with
  | nil => simp
  | cons entry entries ih =>
      rw [List.length_cons] at room
      have pushed : pushEntry limits lines entry = lines ++ [branchLine entry.1 entry.2] :=
        if_neg (by omega)
      rw [List.foldl_cons, pushed, ih _ (by simp; omega)]
      simp

theorem mem_childrenOf {definition : ExperimentDefinition R} {node child : BranchId} :
    child ∈ childrenOf definition node ↔
      ∃ branch ∈ definition.branches, branch.parent = node ∧ branch.id = child := by
  simp [childrenOf, and_assoc]

theorem mem_rootsOf {definition : ExperimentDefinition R} {root : BranchId} :
    root ∈ rootsOf definition ↔
      ∃ branch ∈ definition.branches, branch.parent = .null ∧ branch.id = root := by
  simp only [rootsOf, List.mem_mergeSort, List.mem_map, List.mem_filter, Bool.not_eq_true',
    ← Bool.not_eq_true, StrongId.valid_iff_ne_null, ne_eq, not_not, and_assoc]

/-- Distinct identities are sorted into increasing order. -/
theorem pairwise_mergeSort_lt {ids : List BranchId} (distinct : ids.Nodup) :
    ids.mergeSort.Pairwise (· < ·) := by
  have sorted : ids.mergeSort.Pairwise fun left right => decide (left ≤ right) = true := by
    apply List.pairwise_mergeSort
    · intro left middle right first second
      rw [decide_eq_true_eq] at *
      exact first.trans second
    · intro left right
      simpa using le_total left right
  have ordered : ids.mergeSort.Pairwise (· ≤ ·) := sorted.imp of_decide_eq_true
  have apart : ids.mergeSort.Pairwise (· ≠ ·) := (List.mergeSort_perm ids _).nodup_iff.mpr distinct
  exact (ordered.and apart).imp fun ⟨before, different⟩ => lt_of_le_of_ne before different

section Valid

variable {definition : ExperimentDefinition R} (valid : definition.LineageValid)

include valid

theorem childrenOf_sorted (node : BranchId) : (childrenOf definition node).Pairwise (· < ·) :=
  pairwise_mergeSort_lt (valid.distinct.sublist (List.filter_sublist.map _))

theorem rootsOf_sorted : (rootsOf definition).Pairwise (· < ·) :=
  pairwise_mergeSort_lt (valid.distinct.sublist (List.filter_sublist.map _))

theorem null_not_mem : .null ∉ definition.branchIds := by
  intro member
  obtain ⟨branch, among, null⟩ := List.mem_map.mp member
  exact valid.identified branch among null

theorem branchOf_eq_some {branch : BranchDefinition} (member : branch ∈ definition.branches) :
    branchOf definition branch.id = some branch :=
  (find?_key_eq_some_iff valid.distinct).mpr ⟨member, rfl⟩

theorem listsChildren :
    ListsChildren definition.parentOf (· ∈ definition.branchIds) (childrenOf definition) where
  mem_iff node here child := by
    have nonnull : node ≠ .null := fun null => null_not_mem valid (null ▸ here)
    rw [mem_childrenOf, childOf_iff valid.distinct nonnull]
  known node here child among := by
    obtain ⟨branch, member, -, rfl⟩ := mem_childrenOf.mp among
    exact List.mem_map_of_mem member

/-- Reporting the tree of a branch adds the lines of its subtree in order. -/
theorem renderBranchTree_eq (limits : Limits) (node : BranchId) (depth : Nat) (lines : List Text)
    (known : node ∈ definition.branchIds) :
    renderBranchTree definition node depth lines limits =
      ((descend (childrenOf definition) (limits.maxLineageDepth + 1 - depth) depth node).map
        (entryOf definition)).foldl (pushEntry limits) lines := by
  obtain ⟨levels, levels_eq⟩ : ∃ levels, limits.maxLineageDepth + 1 - depth = levels := ⟨_, rfl⟩
  induction levels generalizing depth node lines with
  | zero =>
      rw [renderBranchTree, dif_pos (by omega), levels_eq]
      rfl
  | succ levels ih =>
      obtain ⟨branch, member, rfl⟩ := List.mem_map.mp known
      have found := branchOf_eq_some valid member
      have entry : entryOf definition (depth, branch.id) = (depth, branch) := by
        rw [entryOf, found]
        rfl
      have deeper : limits.maxLineageDepth + 1 - (depth + 1) = levels := by omega
      rw [renderBranchTree, dif_neg (by omega), found, levels_eq, descend, List.map_cons, entry,
        List.foldl_cons, List.map_flatMap, List.foldl_flatMap]
      apply List.foldl_ext
      intro lines child among
      rw [ih child (depth + 1) lines ((listsChildren valid).known _ known child among) deeper,
        deeper]

/-- Every identity reached is the identity of a branch. -/
theorem mem_of_childOf {child up : BranchId} (linked : ChildOf definition.parentOf child up) :
    child ∈ definition.branchIds ∧ up ∈ definition.branchIds := by
  obtain ⟨branch, found, rfl, nonnull⟩ := parentIn_eq_some.mp linked
  have member := List.mem_of_find?_eq_some found
  obtain rfl : branch.id = child := by simpa using List.find?_some found
  exact ⟨List.mem_map_of_mem member, valid.parents branch member nonnull⟩

theorem rootsOf_top : ∀ root ∈ rootsOf definition,
    root ∈ definition.branchIds ∧ definition.parentOf root = none := by
  intro root top
  obtain ⟨branch, member, null, rfl⟩ := mem_rootsOf.mp top
  refine ⟨List.mem_map_of_mem member, ?_⟩
  rw [ExperimentDefinition.parentOf, parentIn,
    show definition.branches.find? (·.id = branch.id) = some branch from
      branchOf_eq_some valid member]
  exact StrongId.reference_eq_none.mpr (null ▸ rfl)

/-- The branches are what is at or under a root. -/
theorem mem_branchIds_iff (id : BranchId) :
    id ∈ definition.branchIds ↔
      ∃ root ∈ rootsOf definition, Relation.ReflTransGen (ChildOf definition.parentOf) id root := by
  constructor
  · intro known
    obtain ⟨branch, member, rfl⟩ := List.mem_map.mp known
    obtain ⟨path, lineage, -⟩ := valid.rooted branch member
    obtain ⟨root, top, reaches⟩ := lineage.exists_root
    refine ⟨root, mem_rootsOf.mpr ?_, reaches⟩
    have known : root ∈ definition.branchIds := by
      rcases Relation.reflTransGen_iff_eq_or_transGen.mp reaches with rfl | below
      · exact known
      · obtain ⟨child, -, linked⟩ := Relation.TransGen.tail'_iff.mp below
        exact (mem_of_childOf valid linked).2
    obtain ⟨rootBranch, among, rfl⟩ := List.mem_map.mp known
    refine ⟨rootBranch, among, ?_, rfl⟩
    by_contra nonnull
    have linked := parentIn_eq_some.mpr ⟨rootBranch, branchOf_eq_some valid among, rfl, nonnull⟩
    rw [ExperimentDefinition.parentOf, linked] at top
    cases top
  · rintro ⟨root, top, reaches⟩
    rcases Relation.reflTransGen_iff_eq_or_transGen.mp reaches with rfl | below
    · exact (rootsOf_top valid root top).1
    · obtain ⟨up, linked, -⟩ := Relation.TransGen.head'_iff.mp below
      exact (mem_of_childOf valid linked).1

end Valid

/-! ## The report -/

/-- The visits of the roots and of everything under them. -/
def visits (definition : ExperimentDefinition R) (limits : Limits) : List (Nat × BranchId) :=
  (rootsOf definition).flatMap (descend (childrenOf definition) (limits.maxLineageDepth + 1) 0)

/-- Entries that report every branch once, in pre-order and at its depth. -/
structure Complete (definition : ExperimentDefinition R) (entries : List (Nat × BranchDefinition)) :
    Prop where
  perm : (entries.map Prod.snd).Perm definition.branches
  preOrder : PreOrder definition.parentOf (entries.map fun entry => entry.2.id)
  depth : ∀ entry ∈ entries, ∃ ancestors,
    Lineage definition.parentOf (some entry.2.id) (entry.2.id :: ancestors) ∧
      ancestors.length = entry.1

/-- No branch is deeper than the bound of the report. -/
def Shallow (definition : ExperimentDefinition R) (limits : Limits) : Prop :=
  ∀ branch ∈ definition.branches, ∀ ancestors,
    Lineage definition.parentOf (some branch.id) (branch.id :: ancestors) →
      ancestors.length ≤ limits.maxLineageDepth

section Report

variable {definition : ExperimentDefinition R} (valid : definition.LineageValid) {limits : Limits}

include valid

/-- Only the forest of the roots is reported: no parent is absent. -/
theorem renderLineage_eq :
    renderLineage ⟨definition⟩ limits =
      ((visits definition limits).map (entryOf definition)).foldl (pushEntry limits)
        (pushLimited [] limits (lineageHeader definition)) := by
  have present : ∀ branch ∈ definition.branches,
      (branch.parent.valid && (branchOf definition branch.parent).isNone) = false := by
    intro branch member
    cases nonnull : branch.parent.valid with
    | false => rfl
    | true =>
        have known := valid.parents branch member ((StrongId.valid_iff_ne_null _).mp nonnull)
        obtain ⟨up, among, same⟩ := List.mem_map.mp known
        rw [← same, branchOf_eq_some valid among]
        rfl
  have orphans (lines : List Text) :
      definition.branches.foldl
        (fun lines branch =>
          if branch.parent.valid && (branchOf definition branch.parent).isNone then
            renderBranchTree definition branch.id 0 lines limits
          else lines) lines = lines := by
    rw [List.foldl_ext _ (fun lines _ => lines) lines fun lines branch member =>
      if_neg (by simp [present branch member])]
    exact List.foldl_fixed _
  rw [renderLineage, orphans, visits, List.map_flatMap, List.foldl_flatMap]
  apply List.foldl_ext
  intro lines root top
  exact renderBranchTree_eq valid limits root 0 lines (rootsOf_top valid root top).1

variable (shallow : Shallow definition limits)

include shallow

theorem shallow_lineage (node : BranchId) (above : List BranchId)
    (lineage : Lineage definition.parentOf (some node) (node :: above)) :
    above.length < limits.maxLineageDepth + 1 := by
  by_cases known : node ∈ definition.branchIds
  · obtain ⟨branch, member, rfl⟩ := List.mem_map.mp known
    exact Nat.lt_succ_of_le (shallow branch member above lineage)
  · obtain ⟨_, same, rest⟩ := lineage.of_some
    obtain rfl := (List.cons.inj same).2
    cases up : definition.parentOf node with
    | none =>
        rw [up] at rest
        cases rest
        exact Nat.succ_pos _
    | some up' => exact absurd (mem_of_childOf valid up).1 known

theorem visits_preOrder : PreOrder definition.parentOf ((visits definition limits).map Prod.snd) := by
  rw [visits, List.map_flatMap]
  exact preOrder_forest (listsChildren valid) (childrenOf_sorted valid)
    (shallow_lineage valid shallow) (rootsOf_top valid) (rootsOf_sorted valid)

theorem visits_perm : ((visits definition limits).map Prod.snd).Perm definition.branchIds := by
  apply (List.perm_ext_iff_of_nodup (visits_preOrder valid shallow).nodup valid.distinct).mpr
  intro id
  rw [mem_branchIds_iff valid, visits, List.map_flatMap]
  exact mem_forest (listsChildren valid) (shallow_lineage valid shallow) (rootsOf_top valid) id

/-- Each visit is the visit of a branch, at its depth. -/
theorem visit_branch {visit : Nat × BranchId} (visited : visit ∈ visits definition limits) :
    ∃ branch ∈ definition.branches, entryOf definition visit = (visit.1, branch) ∧
      branch.id = visit.2 ∧ ∃ ancestors,
        Lineage definition.parentOf (some branch.id) (branch.id :: ancestors) ∧
          ancestors.length = visit.1 := by
  have known : visit.2 ∈ definition.branchIds :=
    (visits_perm valid shallow).mem_iff.mp (List.mem_map_of_mem visited)
  obtain ⟨branch, member, same⟩ := List.mem_map.mp known
  obtain ⟨root, top, under⟩ := List.mem_flatMap.mp visited
  obtain ⟨here, isRoot⟩ := rootsOf_top valid root top
  have depth := descend_depth (listsChildren valid) here (lineage_of_root isRoot) rfl under
  refine ⟨branch, member, ?_, same, same ▸ depth⟩
  rw [entryOf, ← same, branchOf_eq_some valid member]
  rfl

theorem visits_complete :
    Complete definition ((visits definition limits).map (entryOf definition)) where
  perm := by
    let lookup (id : BranchId) : BranchDefinition := (branchOf definition id).getD {}
    have looked : definition.branchIds.map lookup = definition.branches := by
      rw [List.map_map]
      refine (List.map_congr_left fun branch member => ?_).trans (List.map_id _)
      exact congrArg (Option.getD · {}) (branchOf_eq_some valid member)
    have entries : ((visits definition limits).map (entryOf definition)).map Prod.snd =
        ((visits definition limits).map Prod.snd).map lookup := by
      rw [List.map_map, List.map_map]
      rfl
    rw [entries, ← looked]
    exact (visits_perm valid shallow).map lookup
  preOrder := by
    have ids : ((visits definition limits).map (entryOf definition)).map
        (fun entry => entry.2.id) = (visits definition limits).map Prod.snd := by
      rw [List.map_map]
      apply List.map_congr_left
      intro visit visited
      obtain ⟨branch, -, entry, same, -⟩ := visit_branch valid shallow visited
      rw [Function.comp_apply, entry, same]
    rw [ids]
    exact visits_preOrder valid shallow
  depth entry listed := by
    obtain ⟨visit, visited, rfl⟩ := List.mem_map.mp listed
    obtain ⟨branch, -, entry, -, depth⟩ := visit_branch valid shallow visited
    rw [entry]
    exact depth

end Report

/-- A bound of as many levels as there are branches is deep enough. -/
theorem shallow_of_length_le {definition : ExperimentDefinition R} {limits : Limits}
    (valid : definition.LineageValid)
    (enough : definition.branches.length ≤ limits.maxLineageDepth + 1) :
    Shallow definition limits := by
  intro branch member ancestors lineage
  obtain ⟨path, lineage', distinct, known, -⟩ := valid.rooted branch member
  have short := (List.subperm_of_subset distinct known).length_le
  rw [← lineage.unique lineage', List.length_cons, List.length_map] at short
  omega

/-- The report of a valid lineage that fits its bounds is the header and every branch once: a parent
before its descendants, each subtree together, roots and siblings in increasing order, and each line
indented by twice the depth. -/
theorem renderLineage_complete (snapshot : ExperimentSnapshot R) (limits : Limits) (context : Text)
    (accepted : Validation.validateBranchLineage snapshot.definition context = .ok ())
    (room : snapshot.definition.branches.length + 1 ≤ limits.maxExplanationLines)
    (shallow : Shallow snapshot.definition limits) :
    ∃ entries, Complete snapshot.definition entries ∧
      renderLineage snapshot limits =
        lineageHeader snapshot.definition ::
          entries.map fun entry => branchLine entry.1 entry.2 := by
  have valid := (Validation.lineageValid_iff snapshot.definition context).mp accepted
  have complete := visits_complete valid shallow
  refine ⟨_, complete, ?_⟩
  have header : pushLimited [] limits (lineageHeader snapshot.definition) =
      [lineageHeader snapshot.definition] := if_neg (by simp; omega)
  have count := complete.perm.length_eq
  rw [List.length_map] at count
  rw [show snapshot = ⟨snapshot.definition⟩ from rfl, renderLineage_eq valid, header]
  exact foldl_pushEntry _ _ (by rw [count, List.length_singleton]; omega)

/-- A baseline with two forks, one of them forked again; listed with forks first. -/
def forkedDefinition : ExperimentDefinition UInt64 where
  id := ⟨1⟩
  policy := { acceptScoreThreshold := 0 }
  branches := [
    { id := ⟨4⟩, name := text "fourth", parent := ⟨2⟩ },
    { id := ⟨3⟩, name := text "third", parent := ⟨1⟩ },
    { id := ⟨2⟩, name := text "second", parent := ⟨1⟩ },
    { id := ⟨1⟩, name := text "first", role := .baseline }]

theorem renderLineage_forked :
    ∃ entries, Complete forkedDefinition entries ∧
      renderLineage ⟨forkedDefinition⟩ {} =
        lineageHeader forkedDefinition :: entries.map fun entry => branchLine entry.1 entry.2 := by
  have accepted : Validation.validateBranchLineage forkedDefinition [] = .ok () := by decide +kernel
  have valid := (Validation.lineageValid_iff forkedDefinition []).mp accepted
  exact renderLineage_complete ⟨forkedDefinition⟩ {} [] accepted (by decide)
    (shallow_of_length_le valid (by decide))

end Inspect

end ExperimentFabric
