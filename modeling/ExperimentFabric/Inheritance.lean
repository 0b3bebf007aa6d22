import ExperimentFabric.Lib.Overlays
import ExperimentFabric.Restoration

/-!
# Inheritance of forked branches

A branch that a specification declares as a fork takes what it does not declare itself from the
specification of its parent alone.  That is what the nearest of its ancestors declares, and what
forking the created parent gives, exactly when the branch or its parent declares everything that an
ancestor beyond them declares.
-/

namespace ExperimentFabric

open Lib

variable {R : Type}

/-! ## Parameters in canonical order -/

theorem parameterLess_iff (left right : ParameterAssignment) : parameterLess left right = true ↔
    left.key < right.key ∨ left.key = right.key ∧ (left.kind.number < right.kind.number ∨
      left.kind.number = right.kind.number ∧ left.value < right.value) := by
  have number : left.kind.number = right.kind.number ↔ left.kind = right.kind := by
    cases left.kind <;> cases right.kind <;> decide
  unfold parameterLess
  by_cases key : left.key = right.key
  · by_cases kind : left.kind = right.kind
    · simp [key, kind, List.lt_irrefl]
    · simp [key, kind, number, List.lt_irrefl]
  · simp [key]

theorem normalizeParameters_perm (parameters : List ParameterAssignment) :
    (normalizeParameters parameters).Perm parameters :=
  List.mergeSort_perm _ _

/-- Distinct keys are put in increasing order. -/
theorem normalizeParameters_sorted {parameters : List ParameterAssignment}
    (distinct : (parameters.map ParameterAssignment.key).Nodup) :
    ((normalizeParameters parameters).map ParameterAssignment.key).Pairwise (· < ·) := by
  have ordered : (normalizeParameters parameters).Pairwise fun left right =>
      (!parameterLess right left) = true := by
    apply List.pairwise_mergeSort
    · intro first second third
      simp only [Bool.not_eq_true', Bool.eq_false_iff, ne_eq, parameterLess_iff]
      grind
    · intro left right
      simp only [Bool.or_eq_true, Bool.not_eq_true', Bool.eq_false_iff, ne_eq, parameterLess_iff]
      grind
  have apart : (normalizeParameters parameters).Pairwise fun left right => left.key ≠ right.key :=
    List.pairwise_map.mp (((normalizeParameters_perm parameters).map _).nodup_iff.mpr distinct)
  refine List.pairwise_map.mpr ((ordered.and apart).imp ?_)
  rintro left right ⟨above, different⟩
  simp only [Bool.not_eq_true', Bool.eq_false_iff, ne_eq, parameterLess_iff] at above
  grind

section Merged

variable {own inherited : List ParameterAssignment}
  (distinct : (own.map ParameterAssignment.key).Nodup)
  (distinct' : (inherited.map ParameterAssignment.key).Nodup)

include distinct distinct'

theorem merged_distinct : (((normalizeParameters own).foldl overrideParameter
    (normalizeParameters inherited)).map ParameterAssignment.key).Nodup :=
  nodup_foldl_overlay (((normalizeParameters_perm own).map _).nodup_iff.mpr distinct)
    (((normalizeParameters_perm inherited).map _).nodup_iff.mpr distinct')

theorem mergedParameters_sorted :
    ((mergedParameters own inherited).map ParameterAssignment.key).Pairwise (· < ·) :=
  normalizeParameters_sorted (merged_distinct distinct distinct')

/-- An own assignment hides the inherited one of the same key. -/
theorem mergedParameters_find? (key : Text) :
    (mergedParameters own inherited).find? (·.key = key) =
      (own.find? (·.key = key)).or (inherited.find? (·.key = key)) := by
  have sorted : (mergedParameters own inherited).find? (·.key = key) =
      ((normalizeParameters own).foldl overrideParameter
        (normalizeParameters inherited)).find? (·.key = key) :=
    find?_key_perm (merged_distinct distinct distinct') (normalizeParameters_perm _) key
  have layered : ((normalizeParameters own).foldl overrideParameter
      (normalizeParameters inherited)).find? (·.key = key) =
        ((normalizeParameters own).find? (·.key = key)).or
          ((normalizeParameters inherited).find? (·.key = key)) :=
    find?_foldl_overlay (((normalizeParameters_perm own).map _).nodup_iff.mpr distinct) key
  rw [sorted, layered, find?_key_perm distinct (normalizeParameters_perm own),
    find?_key_perm distinct' (normalizeParameters_perm inherited)]

end Merged

/-! ## Ancestors of a declared branch -/

namespace BranchSpec

/-- A declared branch and its ancestors, nearest first; `before` lists the branches declared before
it, the latest first. -/
def lineage : BranchSpec → List BranchSpec → List BranchSpec
  | spec, [] => [spec]
  | spec, earlier :: before =>
      if spec.forkFrom = some earlier.name then spec :: earlier.lineage before
      else spec.lineage before

theorem lineage_root {spec : BranchSpec} (root : spec.forkFrom = none) (before : List BranchSpec) :
    spec.lineage before = [spec] := by
  induction before with
  | nil => rfl
  | cons earlier before ih => rw [lineage, root, if_neg (by simp), ih]

theorem lineage_cons (spec : BranchSpec) (before : List BranchSpec) :
    ∃ beyond, spec.lineage before = spec :: beyond := by
  induction before with
  | nil => exact ⟨[], rfl⟩
  | cons earlier before ih =>
      rw [lineage]
      split
      · exact ⟨_, rfl⟩
      · exact ih

/-- The lineage of a fork continues with that of its parent. -/
theorem lineage_fork {specs : List BranchSpec} (distinct : (specs.map BranchSpec.name).Nodup)
    {spec parent : BranchSpec} {place : Nat} (found : specs[place]? = some parent)
    (forked : spec.forkFrom = some parent.name) {position : Nat} (earlier : place < position) :
    spec.lineage (specs.take position).reverse =
      spec :: parent.lineage (specs.take place).reverse := by
  induction position with
  | zero => omega
  | succ position ih =>
      rcases Nat.lt_or_ge position specs.length with inside | outside
      · rw [List.take_succ_eq_append_getElem inside, List.reverse_append, List.reverse_singleton,
          List.singleton_append, lineage]
        obtain ⟨bound, held⟩ := List.getElem?_eq_some_iff.mp found
        rcases Nat.lt_succ_iff_lt_or_eq.mp earlier with before | rfl
        · have other : specs[position].name ≠ parent.name := by
            intro same
            have equal := List.pairwise_iff_getElem.mp distinct place position
              (by simpa using bound) (by simpa using inside) before
            simp [held, same] at equal
          rw [forked, if_neg (by simpa using other.symm), ih before]
        · rw [held, forked, if_pos rfl]
      · have full : specs.take (position + 1) = specs.take position := by
          rw [List.take_of_length_le outside, List.take_of_length_le (by omega)]
        obtain ⟨bound, -⟩ := List.getElem?_eq_some_iff.mp found
        rw [full]
        exact ih (by omega)

/-- The assignment that a branch declares for a key. -/
def parameter (spec : BranchSpec) (key : Text) : Option ParameterAssignment :=
  spec.parameters.find? (·.key = key)

/-- The environment fingerprint that a branch declares; an empty one declares nothing. -/
def fingerprint (spec : BranchSpec) : Option Text :=
  if spec.environmentFingerprint = [] then none else some spec.environmentFingerprint

end BranchSpec

/-- The near branches declare everything that those beyond declare. -/
structure Redeclares (near beyond : List BranchSpec) : Prop where
  parameters : ∀ key, Covered (·.parameter key) near beyond
  inputSet : Covered BranchSpec.inputSet near beyond
  environment : Covered BranchSpec.environment near beyond
  fingerprint : Covered BranchSpec.fingerprint near beyond

/-- A branch takes everything that it or an ancestor declares from the nearest that declares it, and
has its parameters in increasing order of their keys. -/
structure BranchDefinition.Inherits (branch : BranchDefinition) (lineage : List BranchSpec) :
    Prop where
  parameters : ∀ key assignment, lineage.findSome? (·.parameter key) = some assignment →
    branch.parameters.find? (·.key = key) = some assignment
  sorted : (branch.parameters.map ParameterAssignment.key).Pairwise (· < ·)
  inputSet : ∀ set, lineage.findSome? BranchSpec.inputSet = some set →
    branch.inputSetPresent = true ∧ branch.inputSet = ⟨(fnv1a64 set).toNat⟩
  environment : ∀ environment, lineage.findSome? BranchSpec.environment = some environment →
    branch.environmentPresent = true ∧ branch.environment = ⟨(fnv1a64 environment).toNat⟩
  fingerprint : ∀ fingerprint, lineage.findSome? BranchSpec.fingerprint = some fingerprint →
    branch.environmentFingerprint = fingerprint

/-- The parameters of a branch are those that forking its parent gives. -/
def ExperimentRecord.ForksAlike (record : ExperimentRecord R) (branch : BranchDefinition)
    (declared : BranchSpec) : Prop :=
  ∃ parent, record.findBranch branch.parent = some parent ∧ declared.forkFrom = some parent.name ∧
    branch.parameters = (ExperimentRecord.forkedBranch parent declared branch.id
      branch.createdSequence).parameters

/-! ## What creation gives a fork -/

section Fork

variable {spec parent : BranchSpec}

theorem findSome?_pair {β : Type} (declares : BranchSpec → Option β) :
    [spec, parent].findSome? declares = (declares spec).or (declares parent) := by
  cases here : declares spec <;> cases above : declares parent <;>
    simp [here, above]

/-- An identity that is the hash of the nearest text, if the branch or its parent declares one. -/
theorem hashed_iff_covered {tag : Tag} {declares : BranchSpec → Option Text}
    {beyond : List BranchSpec} {present : Bool} {identity : StrongId tag}
    (presence : present = ((declares spec).or (declares parent)).isSome)
    (hashed : ∀ name, (declares spec).or (declares parent) = some name →
      identity = ⟨(fnv1a64 name).toNat⟩) :
    (∀ name, ([spec, parent] ++ beyond).findSome? declares = some name →
        present = true ∧ identity = ⟨(fnv1a64 name).toNat⟩) ↔
      Covered declares [spec, parent] beyond := by
  apply nearest_iff_covered
  · intro name nearest
    rw [findSome?_pair] at nearest
    exact ⟨by rw [presence, nearest]; rfl, hashed name nearest⟩
  · rintro none layer _ name _ ⟨held, -⟩
    rw [findSome?_pair] at none
    rw [presence, none] at held
    exact nomatch held

theorem inherit_fingerprint (id owner : BranchId) (sequence : Nat) :
    ((spec.define id sequence).inherit owner parent).environmentFingerprint =
      (spec.fingerprint.or parent.fingerprint).getD [] := by
  by_cases own : spec.environmentFingerprint = [] <;>
    by_cases above : parent.environmentFingerprint = [] <;>
      simp [BranchSpec.define, BranchDefinition.inherit, BranchSpec.fingerprint, own, above]

/-- A fork inherits along its lineage exactly when it or its parent declares everything that the
ancestors beyond them declare. -/
theorem inherit_inherits_iff (distinct : (spec.parameters.map ParameterAssignment.key).Nodup)
    (distinct' : (parent.parameters.map ParameterAssignment.key).Nodup) (id owner : BranchId)
    (sequence : Nat) (beyond : List BranchSpec) :
    ((spec.define id sequence).inherit owner parent).Inherits ([spec, parent] ++ beyond) ↔
      Redeclares [spec, parent] beyond := by
  have parameters : ((spec.define id sequence).inherit owner parent).parameters =
    mergedParameters spec.parameters parent.parameters := rfl
  have found := mergedParameters_find? distinct distinct'
  have each : ∀ key, (∀ assignment, ([spec, parent] ++ beyond).findSome? (·.parameter key) =
      some assignment → ((spec.define id sequence).inherit owner parent).parameters.find?
        (·.key = key) = some assignment) ↔ Covered (·.parameter key) [spec, parent] beyond := by
    intro key
    rw [parameters, found]
    apply nearest_iff_covered
    · intro assignment nearest
      rwa [findSome?_pair] at nearest
    · intro none layer _ assignment _
      rw [findSome?_pair] at none
      rw [show (spec.parameters.find? (·.key = key)).or (parent.parameters.find? (·.key = key)) =
        Option.none from none]
      exact fun impossible => nomatch impossible
  have inputSet : (∀ set, ([spec, parent] ++ beyond).findSome? BranchSpec.inputSet = some set →
      ((spec.define id sequence).inherit owner parent).inputSetPresent = true ∧
        ((spec.define id sequence).inherit owner parent).inputSet = ⟨(fnv1a64 set).toNat⟩) ↔
          Covered BranchSpec.inputSet [spec, parent] beyond := by
    apply hashed_iff_covered
    · exact Option.isSome_or.symm
    · intro set nearest
      cases own : spec.inputSet <;>
        simp_all [BranchSpec.define, BranchDefinition.inherit]
  have environment : (∀ environment, ([spec, parent] ++ beyond).findSome? BranchSpec.environment =
      some environment → ((spec.define id sequence).inherit owner parent).environmentPresent = true ∧
        ((spec.define id sequence).inherit owner parent).environment =
          ⟨(fnv1a64 environment).toNat⟩) ↔ Covered BranchSpec.environment [spec, parent] beyond := by
    apply hashed_iff_covered
    · exact Option.isSome_or.symm
    · intro environment nearest
      cases own : spec.environment <;>
        simp_all [BranchSpec.define, BranchDefinition.inherit]
  have fingerprint : (∀ fingerprint, ([spec, parent] ++ beyond).findSome? BranchSpec.fingerprint =
      some fingerprint → ((spec.define id sequence).inherit owner parent).environmentFingerprint =
        fingerprint) ↔ Covered BranchSpec.fingerprint [spec, parent] beyond := by
    rw [inherit_fingerprint]
    apply nearest_iff_covered
    · intro fingerprint nearest
      rw [findSome?_pair] at nearest
      rw [nearest]
      rfl
    · intro none layer _ fingerprint declared empty
      rw [findSome?_pair] at none
      rw [none, Option.getD_none] at empty
      rw [BranchSpec.fingerprint, ← empty] at declared
      split at declared
      · exact nomatch declared
      · rename_i present
        exact present (Option.some.inj declared)
  constructor
  · intro inherits
    exact ⟨fun key => (each key).mp (inherits.parameters key), inputSet.mp inherits.inputSet,
      environment.mp inherits.environment, fingerprint.mp inherits.fingerprint⟩
  · intro redeclares
    exact ⟨fun key => (each key).mpr (redeclares.parameters key),
      mergedParameters_sorted distinct distinct', inputSet.mpr redeclares.inputSet,
      environment.mpr redeclares.environment, fingerprint.mpr redeclares.fingerprint⟩

end Fork

/-! ## The branches of a created experiment -/

/-- What a parent holds beyond its own declaration is hidden by a fork when the fork or the parent
declares it. -/
theorem mergedParameters_eq_of_layered {spec parent : BranchSpec} {beyond : List BranchSpec}
    {inherited : List ParameterAssignment}
    (distinct : (spec.parameters.map ParameterAssignment.key).Nodup)
    (distinct' : (parent.parameters.map ParameterAssignment.key).Nodup)
    (kept : (inherited.map ParameterAssignment.key).Nodup)
    (covered : ∀ key, Covered (·.parameter key) [spec, parent] beyond)
    (layered : ∀ key, inherited.find? (·.key = key) = parent.parameter key ∨
      ∃ above ∈ beyond, inherited.find? (·.key = key) =
        (parent.parameter key).or (above.parameter key)) :
    mergedParameters spec.parameters parent.parameters =
      mergedParameters spec.parameters inherited := by
  refine eq_of_find?_key_eq (mergedParameters_sorted distinct distinct')
    (mergedParameters_sorted distinct kept) fun key => ?_
  rw [mergedParameters_find? distinct distinct', mergedParameters_find? distinct kept]
  change (spec.parameter key).or (parent.parameter key) = (spec.parameter key).or _
  rcases layered key with same | ⟨above, among, same⟩
  · rw [same]
  · rw [same]
    cases own : spec.parameter key with
    | some assignment => rfl
    | none =>
        cases declares : parent.parameter key with
        | some assignment => rfl
        | none =>
            cases beneath : above.parameter key with
            | none => rfl
            | some assignment =>
                have present : (above.parameter key).isSome = true := by rw [beneath]; rfl
                obtain ⟨near, listed, covers⟩ := covered key above among present
                simp only [List.mem_cons, List.not_mem_nil, or_false] at listed
                rcases listed with rfl | rfl
                · simp [own] at covers
                · simp [declares] at covers

/-- How a declared branch is defined, given the branches numbered before it. -/
inductive BranchSpec.Defines (sequence : Nat) (before : List (BranchId × BranchSpec)) (id : BranchId)
    (spec : BranchSpec) : BranchDefinition → Prop where
  | root (root : spec.forkFrom = none) : Defines sequence before id spec (spec.define id sequence)
  | fork {parent : BranchId × BranchSpec} (forked : spec.forkFrom = some parent.2.name)
      (found : parent ∈ before) :
      Defines sequence before id spec ((spec.define id sequence).inherit parent.1 parent.2)

theorem defineBranches_getElem? {sequence watermark : Nat} {declared : List (BranchId × BranchSpec)}
    {specs : List BranchSpec} {branches : List BranchDefinition}
    (defined : (defineBranches sequence watermark declared specs).2 = .ok branches) {position : Nat}
    {spec : BranchSpec} (listed : specs[position]? = some spec) :
    ∃ branch, branches[position]? = some branch ∧
      spec.Defines sequence (declared ++ numberBranches watermark (specs.take position))
        ⟨watermark + 1 + position⟩ branch := by
  induction specs generalizing watermark declared branches position with
  | nil => exact nomatch listed
  | cons first rest ih =>
      obtain ⟨branch, others, rfl, result, shape⟩ := defineBranches_ok_cons defined
      cases position with
      | zero =>
          obtain rfl := Option.some.inj listed
          refine ⟨branch, rfl, ?_⟩
          rw [List.take_zero, numberBranches, List.append_nil]
          rcases shape with ⟨root, rfl⟩ | ⟨parent, found, forked, rfl⟩
          · exact .root root
          · exact .fork forked found
      | succ position =>
          obtain ⟨later, held, defines⟩ := ih result listed
          refine ⟨later, held, ?_⟩
          rw [List.take_succ_cons, numberBranches,
            show watermark + 1 + (position + 1) = watermark + 1 + 1 + position by omega]
          rwa [List.append_assoc] at defines

theorem mem_numberBranches {watermark : Nat} {specs : List BranchSpec}
    {entry : BranchId × BranchSpec} (member : entry ∈ numberBranches watermark specs) :
    ∃ place : Nat, specs[place]? = some entry.2 ∧ entry.1 = ⟨watermark + 1 + place⟩ := by
  induction specs generalizing watermark with
  | nil => exact nomatch member
  | cons first rest ih =>
      rcases List.mem_cons.mp member with rfl | later
      · exact ⟨0, rfl, rfl⟩
      · obtain ⟨place, found, numbered⟩ := ih later
        refine ⟨place + 1, found, ?_⟩
        rw [numbered]
        congr 1
        omega

/-- An admitted specification has distinct branch names and distinct keys in each branch. -/
theorem validateSpec_branches [MetricReal R] {spec : ExperimentSpec R} {limits : Limits}
    (accepted : validateSpec spec limits = .ok ()) :
    (spec.branches.map BranchSpec.name).Nodup ∧ ∀ branch ∈ spec.branches,
      (branch.parameters.map ParameterAssignment.key).Nodup := by
  simp only [validateSpec, sequence_cons_eq_ok, require_eq_ok, scan_eq_ok, decide_eq_true_eq,
    Bool.not_eq_true', hasDuplicateParameterKey, decide_eq_false_iff_not, not_not] at accepted
  obtain ⟨-, -, -, -, -, -, -, -, branches, -⟩ := accepted
  constructor
  · exact (forall_split_iff_nodup _ _).mp fun front branch back split =>
      (branches front branch back split).2.1
  · exact (forall_split_iff_forall_mem _ _).mp fun front branch back split =>
      (branches front branch back split).2.2.2.2.1

/-- The definition of a declared branch has distinct keys, under which it finds what the branch
declares, or else what its parent declares. -/
theorem BranchSpec.Defines.layered {sequence watermark position : Nat} {specs : List BranchSpec}
    (names : (specs.map BranchSpec.name).Nodup)
    (keys : ∀ spec ∈ specs, (spec.parameters.map ParameterAssignment.key).Nodup) {id : BranchId}
    {spec : BranchSpec} {branch : BranchDefinition} (listed : specs[position]? = some spec)
    (defines : spec.Defines sequence (numberBranches watermark (specs.take position)) id branch) :
    (branch.parameters.map ParameterAssignment.key).Nodup ∧
      ∃ beyond, spec.lineage (specs.take position).reverse = spec :: beyond ∧
        ∀ key, branch.parameters.find? (·.key = key) = spec.parameter key ∨
          ∃ parent ∈ beyond, branch.parameters.find? (·.key = key) =
            (spec.parameter key).or (parent.parameter key) := by
  have distinct := keys spec (List.mem_of_getElem? listed)
  cases defines with
  | root root =>
      refine ⟨((normalizeParameters_perm _).map _).nodup_iff.mpr distinct, [],
        lineage_root root _, fun key => .inl ?_⟩
      exact find?_key_perm distinct (normalizeParameters_perm _) key
  | @fork parent forked member =>
      obtain ⟨place, within, -⟩ := mem_numberBranches member
      rw [List.getElem?_take] at within
      split at within
      · rename_i earlier
        have distinct' := keys parent.2 (List.mem_of_getElem? within)
        have parameters : ((spec.define id sequence).inherit parent.1 parent.2).parameters =
          mergedParameters spec.parameters parent.2.parameters := rfl
        rw [parameters]
        refine ⟨((normalizeParameters_perm _).map _).nodup_iff.mpr
          (merged_distinct distinct distinct'), _,
          lineage_fork names within forked earlier, fun key => .inr ⟨parent.2, ?_, ?_⟩⟩
        · obtain ⟨rest, first⟩ := lineage_cons parent.2 (specs.take place).reverse
          rw [first]
          exact List.mem_cons_self
        · exact mergedParameters_find? distinct distinct' key
      · exact nomatch within

section Created

variable [MetricReal R] [CanonicalDigests R]

/-- What an admitted specification has become. -/
theorem createExperiment_succeeded {c : Coordinator R} {spec : ExperimentSpec R}
    {fault : Option SaveFault} {id : ExperimentId}
    (created : (c.perform (.createExperiment spec) fault).2 = .experiment (.ok id)) :
    ∃ record, (c.perform (.createExperiment spec) fault).1.findExperiment id = some record ∧
      validateSpec spec c.limits = .ok () ∧
      validateExperimentRecord record c.limits ⟨c.state.watermarks.experiment + 1⟩ = .ok () ∧
      (defineBranches (c.currentSequence + 1) c.state.watermarks.branch [] spec.branches).2 =
        .ok record.definition.branches := by
  have succeeded : (c.perform (.createExperiment spec) fault).2.succeeded = true := by
    rw [created]
    rfl
  rcases Coordinator.perform_succeeded succeeded with ⟨prepared, undo, answer, saves, -, ended⟩ |
    ⟨-, answered⟩ | ⟨impossible, -⟩
  · rw [ended] at created ⊢
    cases saves with
    | @create _ expected branch branches record accepted admitting room absent metrics known defined
        built valid =>
        obtain rfl : ⟨c.state.watermarks.experiment + 1⟩ = id :=
          Except.ok.inj (Reply.experiment.inj created)
        refine ⟨record, ?_, accepted, valid, ?_⟩
        · rw [Coordinator.findExperiment, Coordinator.persistLocked_state]
          simp
        · rw [defined, built]
          rfl
  · cases answered
  · cases impossible

/-- A branch that an admitted specification forks inherits along its lineage, as a fork of the created
parent does, exactly when it or its parent declares everything that the ancestors beyond declare. -/
theorem create_inherits_iff {c : Coordinator R} {spec : ExperimentSpec R} {fault : Option SaveFault}
    {id : ExperimentId}
    (created : (c.perform (.createExperiment spec) fault).2 = .experiment (.ok id)) {position : Nat}
    {declared : BranchSpec} (listed : spec.branches[position]? = some declared)
    (forked : declared.forkFrom ≠ none) :
    ∃ record branch, (c.perform (.createExperiment spec) fault).1.findExperiment id = some record ∧
      record.definition.branches[position]? = some branch ∧ branch.name = declared.name ∧
      (branch.Inherits (declared.lineage (spec.branches.take position).reverse) ∧
          record.ForksAlike branch declared ↔
        Redeclares ((declared.lineage (spec.branches.take position).reverse).take 2)
          ((declared.lineage (spec.branches.take position).reverse).drop 2)) := by
  obtain ⟨record, found, accepted, valid, defined⟩ := createExperiment_succeeded created
  obtain ⟨names, keys⟩ := validateSpec_branches accepted
  obtain ⟨branch, held, defines⟩ := defineBranches_getElem? defined listed
  rw [List.nil_append] at defines
  cases defines with
  | root root => exact (forked root).elim
  | @fork parent named member =>
      obtain ⟨place, within, numbered⟩ := mem_numberBranches member
      rw [List.getElem?_take] at within
      split at within
      · rename_i earlier
        have distinct := keys declared (List.mem_of_getElem? listed)
        have distinct' := keys parent.2 (List.mem_of_getElem? within)
        obtain ⟨parentBranch, parentHeld, parentDefines⟩ := defineBranches_getElem? defined within
        rw [List.nil_append] at parentDefines
        obtain ⟨keysKept, beyond, above, layered⟩ := parentDefines.layered names keys within
        have lineage : declared.lineage (spec.branches.take position).reverse =
            [declared, parent.2] ++ beyond := by
          rw [BranchSpec.lineage_fork names within named earlier, above]
          rfl
        have inherits := inherit_inherits_iff distinct distinct'
          ⟨c.state.watermarks.branch + 1 + position⟩ parent.1 (c.currentSequence + 1) beyond
        rw [lineage, List.take_left' (by rfl), List.drop_left' (by rfl)]
        refine ⟨record, _, found, held, rfl, fun holds => inherits.mp holds.1, fun redeclares =>
          ⟨inherits.mpr redeclares, parentBranch, ?_, ?_, ?_⟩⟩
        · have identity : parentBranch.id = parent.1 := by
            cases parentDefines <;> exact numbered.symm
          have distinctIds := (validateExperimentRecord_branches valid).2.1
          rw [ExperimentRecord.census, List.map_map] at distinctIds
          have lookup := find?_of_nodup_ids distinctIds (List.mem_of_getElem? parentHeld)
          rw [identity] at lookup
          exact lookup
        · cases parentDefines <;> exact named
        · exact mergedParameters_eq_of_layered distinct distinct' keysKept redeclares.parameters
            layered
      · cases within

end Created

namespace Sample

/-- A parameter of the baseline. -/
def threads : ParameterAssignment := { key := text "threads", value := text "4" }

/-- A fork of the fork of the baseline, with parameters of its own. -/
def forkOfFork (own : List ParameterAssignment) : BranchSpec :=
  { name := text "tuned", forkFrom := some (text "candidate"), parameters := own }

/-- The baseline has a parameter, its fork has none. -/
def chainSpec (own : List ParameterAssignment) : ExperimentSpec ℚ :=
  { spec with
    branches := [{ name := text "baseline", role := .baseline, parameters := [threads] },
      { name := text "candidate", forkFrom := some (text "baseline") }, forkOfFork own] }

end Sample

/-- A fork of a fork that declares the parameter of the baseline inherits along its lineage. -/
theorem create_inherits_iff_sample : ∃ record branch,
    (Sample.coordinator.perform (.createExperiment (Sample.chainSpec [Sample.threads]))
        none).1.findExperiment Sample.experiment = some record ∧
      record.definition.branches[2]? = some branch ∧
      branch.Inherits ((Sample.forkOfFork [Sample.threads]).lineage
        ((Sample.chainSpec [Sample.threads]).branches.take 2).reverse) := by
  have created : (Sample.coordinator.perform (.createExperiment
      (Sample.chainSpec [Sample.threads])) none).2 = .experiment (.ok Sample.experiment) := by
    have answered : (Sample.coordinator.createExperiment (Sample.chainSpec [Sample.threads])
        none).2 = .ok Sample.experiment := by decide +kernel
    exact congrArg Reply.experiment answered
  obtain ⟨record, branch, found, held, -, iff⟩ := create_inherits_iff created
    (show (Sample.chainSpec [Sample.threads]).branches[2]? =
      some (Sample.forkOfFork [Sample.threads]) from rfl) (by decide)
  have lineage : (Sample.forkOfFork [Sample.threads]).lineage
      ((Sample.chainSpec [Sample.threads]).branches.take 2).reverse =
        [Sample.forkOfFork [Sample.threads],
          { name := text "candidate", forkFrom := some (text "baseline") },
          { name := text "baseline", role := .baseline, parameters := [Sample.threads] }] := by
    simp [BranchSpec.lineage, Sample.chainSpec, Sample.forkOfFork]
  refine ⟨record, branch, found, held, (iff.mpr ?_).1⟩
  rw [lineage]
  constructor
  · intro key layer beyond declared
    obtain rfl := List.mem_singleton.mp beyond
    exact ⟨Sample.forkOfFork [Sample.threads], List.mem_cons_self, declared⟩
  all_goals
    intro layer beyond declared
    obtain rfl := List.mem_singleton.mp beyond
    cases declared

/-- A fork of a fork has no value for the parameter of the baseline, which a fork of the created
parent has. -/
theorem fork_of_fork_loses_parameter : ∃ record branch parent,
    (Sample.coordinator.perform (.createExperiment (Sample.chainSpec [])) none).1.findExperiment
        Sample.experiment = some record ∧
      record.definition.branches[2]? = some branch ∧
      ((Sample.forkOfFork []).lineage ((Sample.chainSpec []).branches.take 2).reverse).findSome?
        (·.parameter (text "threads")) = some Sample.threads ∧
      branch.parameters.find? (·.key = text "threads") = none ∧
      record.findBranch branch.parent = some parent ∧
      (ExperimentRecord.forkedBranch parent (Sample.forkOfFork []) branch.id
        branch.createdSequence).parameters.find? (·.key = text "threads") =
          some Sample.threads := by
  have facts : ((Sample.coordinator.perform (.createExperiment (Sample.chainSpec []))
      none).1.findExperiment Sample.experiment).any (fun record =>
        (record.definition.branches[2]?).any fun branch =>
          (record.findBranch branch.parent).any fun parent =>
            decide (((Sample.forkOfFork []).lineage
                ((Sample.chainSpec []).branches.take 2).reverse).findSome?
                  (·.parameter (text "threads")) = some Sample.threads ∧
              branch.parameters.find? (·.key = text "threads") = none ∧
              (ExperimentRecord.forkedBranch parent (Sample.forkOfFork []) branch.id
                branch.createdSequence).parameters.find? (·.key = text "threads") =
                  some Sample.threads)) = true := by decide +kernel
  obtain ⟨record, found, facts⟩ := (Option.any_eq_true _ _).mp facts
  obtain ⟨branch, held, facts⟩ := (Option.any_eq_true _ _).mp facts
  obtain ⟨parent, lookup, facts⟩ := (Option.any_eq_true _ _).mp facts
  obtain ⟨declared, lost, forked⟩ := of_decide_eq_true facts
  exact ⟨record, branch, parent, found, held, declared, lost, lookup, forked⟩

end ExperimentFabric
