import ExperimentFabric.Readability

/-!
# Declaration order

The canonical encoder sorts each collection before it is written.  Identities tell branches and metrics
apart, parameters and categories are sorted by all they hold, but the rules of a policy are sorted by
priority and metric only: rules that agree in both stay in the order in which the sort leaves them.
-/

namespace ExperimentFabric

open Lib

variable {R : Type}

/-! ## Reordered declarations -/

/-- Lists that correspond up to the order of their elements. -/
def Rearranged {α : Type} (alike : α → α → Prop) (left right : List α) : Prop :=
  ∃ middle, left.Perm middle ∧ List.Forall₂ alike middle right

/-- A branch whose parameters are declared in another order. -/
structure BranchDefinition.Reordered (left right : BranchDefinition) : Prop where
  parameters : left.parameters.Perm right.parameters
  others : right = { left with parameters := right.parameters }

/-- A metric whose categories are declared in another order. -/
structure MetricDefinition.Reordered (left right : MetricDefinition R) : Prop where
  categories : left.categories.Perm right.categories
  others : right = { left with categories := right.categories }

/-- A policy whose rules are declared in another order. -/
structure ComparisonPolicy.Reordered (left right : ComparisonPolicy R) : Prop where
  rules : left.rules.Perm right.rules
  others : right = { left with rules := right.rules }

/-- A definition whose collections are declared in other orders. -/
structure ExperimentDefinition.Reordered (left right : ExperimentDefinition R) : Prop where
  branches : Rearranged BranchDefinition.Reordered left.branches right.branches
  metrics : Rearranged MetricDefinition.Reordered left.metrics right.metrics
  policy : left.policy.Reordered right.policy
  parameters : left.parameters.Perm right.parameters
  others : right = { left with
    branches := right.branches
    metrics := right.metrics
    policy := right.policy
    parameters := right.parameters }

namespace Canonical

/-! ## Orders of the sorted collections -/

theorem strictTotal_text : StrictTotal fun left right : Text => decide (left < right) where
  asymm left right below := by
    rw [decide_eq_true_eq] at below
    exact decide_eq_false (List.lt_asymm below)
  split left middle right below := by
    rw [decide_eq_true_eq] at below
    by_cases before : left < middle
    · exact .inl (decide_eq_true before)
    · exact .inr (decide_eq_true (List.lt_of_le_of_lt (List.not_lt.mp before) below))
  apart left right first second :=
    List.le_antisymm (List.not_lt.mp (of_decide_eq_false second))
      (List.not_lt.mp (of_decide_eq_false first))

theorem strictTotal_kind :
    StrictTotal fun left right : ParameterKind => decide (left.number < right.number) where
  toStrictWeak := strictTotal_lt.toStrictWeak.comap ParameterKind.number
  apart left right first second := by
    cases left <;> cases right <;> first | rfl | simp [ParameterKind.number] at first second

theorem parameterLess_eq :
    parameterLess = byKey ParameterAssignment.key (fun left right => decide (left < right))
      (byKey ParameterAssignment.kind (fun left right => decide (left.number < right.number))
        fun left right => decide (left.value < right.value)) := by
  funext left right
  unfold parameterLess byKey
  split_ifs <;> rfl

/-- Parameters are compared by all they hold. -/
theorem strictTotal_parameterLess : StrictTotal parameterLess where
  toStrictWeak := by
    rw [parameterLess_eq]
    exact strictTotal_text.byKey _
      (strictTotal_kind.byKey _ (strictTotal_text.toStrictWeak.comap ParameterAssignment.value))
  apart left right first second := by
    rw [parameterLess_eq] at first second
    obtain ⟨key, first, second⟩ := strictTotal_text.tied_byKey first second
    obtain ⟨kind, first, second⟩ := strictTotal_kind.tied_byKey first second
    have value := strictTotal_text.apart _ _ first second
    cases left
    cases right
    simp_all

/-- What the comparison of rules reads: the priority and the metric. -/
def placePrecedes : Nat × MetricId → Nat × MetricId → Bool :=
  byKey Prod.fst (fun left right => decide (left < right))
    fun left right => decide (left.2 < right.2)

theorem strictTotal_place : StrictTotal placePrecedes where
  toStrictWeak := strictTotal_lt.byKey _ (strictTotal_lt.toStrictWeak.comap Prod.snd)
  apart left right first second := by
    obtain ⟨priority, first, second⟩ := strictTotal_lt.tied_byKey first second
    exact Prod.ext priority (strictTotal_lt.apart _ _ first second)

theorem rulePrecedes_eq (left right : ComparisonRule R) :
    rulePrecedes left right =
      placePrecedes (left.priority, left.metric) (right.priority, right.metric) := by
  unfold rulePrecedes placePrecedes byKey
  split_ifs <;> rfl

/-! ## Sorted vectors -/

theorem writeVector_congr {α : Type} {write : α → Text} {left right : List α}
    (same : left.map write = right.map write) : writeVector write left = writeVector write right := by
  have length : left.length = right.length := by simpa using congrArg List.length same
  unfold writeVector
  rw [length, same]

theorem writeParameters_eq {left right : List ParameterAssignment} (perm : left.Perm right) :
    writeParameters left = writeParameters right := by
  have sorted : normalizeParameters left = normalizeParameters right :=
    mergeSort_eq_of_perm strictTotal_parameterLess perm
  unfold writeParameters
  rw [sorted]

/-- Where elements of one key are written alike, a sort by the key does not show the order before. -/
theorem writeSorted_eq [StdSort] {α κ : Type} {less : α → α → Bool} (lessKey : κ → κ → Bool)
    (key : α → κ) {write : α → Text}
    (reads : ∀ left right, less left right = lessKey (key left) (key right))
    (total : StrictTotal lessKey) {left right : List α}
    (perm : (left.map fun item => (key item, write item)).Perm
      (right.map fun item => (key item, write item)))
    (agree : ∀ one ∈ left, ∀ other ∈ left, key one = key other → write one = write other) :
    writeVector write (StdSort.sort less left) = writeVector write (StdSort.sort less right) := by
  have sorted := StdSort.map_sort_eq (fun one other : κ × Text => lessKey one.1 other.1)
    (fun item => (key item, write item)) reads
    (total.toStrictWeak.comap Prod.fst) perm (by
      intro _ here _ there first second
      obtain ⟨one, member, rfl⟩ := List.mem_map.mp here
      obtain ⟨other, member', rfl⟩ := List.mem_map.mp there
      have keys : key one = key other := total.apart _ _ first second
      rw [Prod.mk.injEq]
      exact ⟨keys, agree one member other member' keys⟩)
  have written := congrArg (List.map Prod.snd) sorted
  rw [List.map_map, List.map_map] at written
  exact writeVector_congr written

/-- The same for identities that occur once. -/
theorem writeById_eq [StdSort] {α κ : Type} [LinearOrder κ] (id : α → κ) (write : α → Text)
    {alike : α → α → Prop} (kept : ∀ left right, alike left right → id left = id right)
    (written : ∀ left right, alike left right → write left = write right) {left right : List α}
    (distinct : (left.map id).Nodup) (rearranged : Rearranged alike left right) :
    writeVector write (StdSort.sort (fun left right => decide (id left < id right)) left) =
      writeVector write (StdSort.sort (fun left right => decide (id left < id right)) right) := by
  obtain ⟨middle, perm, alike⟩ := rearranged
  have mapped : (middle.map fun item => (id item, write item)) =
      right.map fun item => (id item, write item) := by
    rw [← List.forall₂_eq_eq_eq, List.forall₂_map_left_iff, List.forall₂_map_right_iff]
    exact alike.imp fun one other here => Prod.ext (kept one other here) (written one other here)
  refine writeSorted_eq (fun left right : κ => decide (left < right)) id (fun _ _ => rfl)
    strictTotal_lt (mapped ▸ perm.map _) fun one member other member' same => ?_
  rw [List.inj_on_of_nodup_map distinct member member' same]

/-! ## Branches and metrics -/

theorem branchId_eq {left right : BranchDefinition} (reordered : left.Reordered right) :
    left.id = right.id := by
  rw [reordered.others]

theorem writeBranch_eq {left right : BranchDefinition} (reordered : left.Reordered right)
    (tag : Text) : writeBranch tag left = writeBranch tag right := by
  have parameters := writeParameters_eq reordered.parameters
  rw [reordered.others]
  simp only [writeBranch, parameters]
  rfl

section Reals

variable [MetricReal R] [ToChars R]

omit [MetricReal R] [ToChars R] in
theorem metricId_eq {left right : MetricDefinition R} (reordered : left.Reordered right) :
    left.id = right.id := by
  rw [reordered.others]

theorem writeMetric_eq [StdSort] {left right : MetricDefinition R}
    (reordered : left.Reordered right) (tag : Text) :
    writeMetric tag left = writeMetric tag right := by
  have categories : writeVector writeText (sortedCategories left.categories) =
      writeVector writeText (sortedCategories right.categories) :=
    writeSorted_eq (fun left right : Text => decide (left < right)) id (fun _ _ => rfl)
      strictTotal_text (reordered.categories.map _) fun _ _ _ _ same => congrArg writeText same
  rw [reordered.others]
  simp only [writeMetric, categories]

end Reals

end Canonical

/-- Rules of one priority for one metric ask for the same. -/
def ComparisonPolicy.TiedRulesAgree [MetricReal R] [ToChars R] (policy : ComparisonPolicy R) :
    Prop :=
  ∀ one ∈ policy.rules, ∀ other ∈ policy.rules, one.priority = other.priority →
    one.metric = other.metric → one.op = other.op ∧
      Canonical.encodeReal one.threshold = Canonical.encodeReal other.threshold ∧
      Canonical.encodeReal one.targetLow = Canonical.encodeReal other.targetLow ∧
      Canonical.encodeReal one.targetHigh = Canonical.encodeReal other.targetHigh

namespace Canonical

variable [MetricReal R] [ToChars R]

theorem writePolicy_eq [StdSort] {left right : ComparisonPolicy R} (agree : left.TiedRulesAgree)
    (reordered : left.Reordered right) (tag : Text) :
    writePolicy tag left = writePolicy tag right := by
  have rules : writeVector (writeRule (text "rule")) (sortedRules left.rules) =
      writeVector (writeRule (text "rule")) (sortedRules right.rules) := by
    refine writeSorted_eq placePrecedes (fun rule => (rule.priority, rule.metric))
      rulePrecedes_eq strictTotal_place (reordered.rules.map _)
      fun one member other member' same => ?_
    obtain ⟨priority, metric⟩ := Prod.mk.inj same
    obtain ⟨op, threshold, targetLow, targetHigh⟩ :=
      agree one member other member' priority metric
    simp only [writeRule, writeReal, priority, metric, op, threshold, targetLow, targetHigh]
  rw [reordered.others]
  simp only [writePolicy, rules]

theorem definitionStream_eq [StdSort] {left right : ExperimentDefinition R}
    (branches : (left.branches.map BranchDefinition.id).Nodup)
    (metrics : (left.metrics.map MetricDefinition.id).Nodup) (agree : left.policy.TiedRulesAgree)
    (reordered : left.Reordered right) : definitionStream left = definitionStream right := by
  have branchList : writeVector (writeBranch (text "branch")) (sortedBranches left.branches) =
      writeVector (writeBranch (text "branch")) (sortedBranches right.branches) :=
    writeById_eq BranchDefinition.id (writeBranch (text "branch")) (fun _ _ => branchId_eq)
      (fun _ _ here => writeBranch_eq here _) branches reordered.branches
  have metricList : writeVector (writeMetric (text "metric")) (sortedMetrics left.metrics) =
      writeVector (writeMetric (text "metric")) (sortedMetrics right.metrics) :=
    writeById_eq MetricDefinition.id (writeMetric (text "metric")) (fun _ _ => metricId_eq)
      (fun _ _ here => writeMetric_eq here _) metrics reordered.metrics
  have policy := writePolicy_eq agree reordered.policy (text "policy")
  have parameters := writeParameters_eq reordered.parameters
  rw [reordered.others]
  simp only [definitionStream, branchList, metricList, policy, parameters]

/-! ## Rules that tie -/

/-- What is read back of a rule. -/
def ruleView (rule : ComparisonRule R) : ComparisonOp × Text × Text × Text :=
  (rule.op, encodeReal rule.threshold, encodeReal rule.targetLow, encodeReal rule.targetHigh)

/-- The bytes of a rule show its operator and its reals, even where the identity is no word. -/
theorem determines_ruleView (tag : Text) :
    Determines (fun _ : ComparisonRule R => True) (writeRule tag) ruleView := by
  have id : Determines (fun _ : MetricId => True) writeId fun _ => () :=
    .fixed (fun _ _ => leBytes_length 8 _) fun _ _ _ _ _ => rfl
  have priority : Determines (fun _ : Nat => True) writeU32 fun _ => () :=
    .fixed (fun _ _ => leBytes_length 4 _) fun _ _ _ _ _ => rfl
  refine Determines.record (.mark <| .field id (fun _ _ => trivial) <|
    .field determines_enum (fun _ _ => trivial) <|
    .field determines_realText (fun _ _ => trivial) <|
    .field determines_realText (fun _ _ => trivial) <|
    .field determines_realText (fun _ _ => trivial) <|
    .field priority (fun _ _ => trivial) .done) fun left right same => ?_
  simp only [Prod.mk.injEq, id_eq] at same
  simp only [ruleView, Prod.mk.injEq]
  exact ⟨same.2.1, same.2.2.1, same.2.2.2.1, same.2.2.2.2.1⟩

/-- Under a stable sort tied rules that differ are written in the order of declaration. -/
theorem ruleView_eq_of_swapped {one other : ComparisonRule R} {rest : List (ComparisonRule R)}
    (priority : one.priority = other.priority) (metric : one.metric = other.metric)
    {policy : ComparisonPolicy R} (tag : Text)
    (same : letI := stableSort
      writePolicy tag { policy with rules := one :: other :: rest } =
        writePolicy tag { policy with rules := other :: one :: rest }) :
    ruleView one = ruleView other := by
  have places (item : ComparisonRule R) : rulePrecedes item one = rulePrecedes item other := by
    rw [rulePrecedes_eq, rulePrecedes_eq, priority, metric]
  have free (item : ComparisonRule R) : rulePrecedes item item = false := by
    rw [rulePrecedes_eq]
    exact strictTotal_place.irrefl _
  obtain ⟨front, back, first, second⟩ := orderedInsert_tied rulePrecedes places
    ((places one).symm.trans (free one)) ((places other).trans (free other))
    (rest.insertionSort fun left right => rulePrecedes right left = false)
  have sorted : @sortedRules _ stableSort (one :: other :: rest) = front ++ one :: other :: back :=
    first
  have sorted' : @sortedRules _ stableSort (other :: one :: rest) = front ++ other :: one :: back :=
    second
  simp only [writePolicy, List.flatten_cons, List.flatten_nil, List.append_cancel_left_eq,
    List.append_nil, sorted, sorted', writeVector, List.length_append, List.length_cons,
    List.map_append, List.map_cons, List.flatten_append] at same
  exact (determines_ruleView _ _ _ _ _ trivial trivial same).1

end Canonical

/-! ## When digests ignore the order -/

section Digests

variable [MetricReal R] [ToChars R]

/-- No order of declaration changes a digest of the definition or of its policy. -/
def ExperimentDefinition.DigestsIgnoreOrder (definition : ExperimentDefinition R) : Prop :=
  ∀ (_ : StdSort) (reordered : ExperimentDefinition R), definition.Reordered reordered →
    Canonical.definitionDigest reordered = Canonical.definitionDigest definition ∧
      Canonical.policyDigest reordered.policy = Canonical.policyDigest definition.policy

/-- Two orders of the rules are encoded differently and have one digest. -/
def ComparisonPolicy.OrdersCollide (policy : ComparisonPolicy R) : Prop :=
  ∃ (_ : StdSort) (reordered : ComparisonPolicy R), policy.Reordered reordered ∧
    Canonical.policyStream reordered ≠ Canonical.policyStream policy ∧
      Canonical.policyDigest reordered = Canonical.policyDigest policy

namespace ExperimentDefinition

omit [MetricReal R] [ToChars R] in
/-- The same definition with its rules in another order. -/
theorem reordered_rules (definition : ExperimentDefinition R) {rules : List (ComparisonRule R)}
    (perm : definition.policy.rules.Perm rules) :
    definition.Reordered { definition with policy := { definition.policy with rules := rules } } where
  branches := ⟨definition.branches, .refl _, List.forall₂_same.mpr fun _ _ => ⟨.refl _, rfl⟩⟩
  metrics := ⟨definition.metrics, .refl _, List.forall₂_same.mpr fun _ _ => ⟨.refl _, rfl⟩⟩
  policy := ⟨perm, rfl⟩
  parameters := .refl _
  others := rfl

theorem tied_of_digestsIgnoreOrder {definition : ExperimentDefinition R}
    (ignore : definition.DigestsIgnoreOrder) (free : ¬ definition.policy.OrdersCollide) :
    definition.policy.TiedRulesAgree := by
  intro one here other there priority metric
  have streams {rules : List (ComparisonRule R)} (perm : definition.policy.rules.Perm rules) :
      letI := stableSort
      Canonical.policyStream { definition.policy with rules := rules } =
        Canonical.policyStream definition.policy := by
    by_contra different
    exact free ⟨stableSort, _, ⟨perm, rfl⟩, different,
      (ignore stableSort _ (definition.reordered_rules perm)).2⟩
  have views : Canonical.ruleView one = Canonical.ruleView other := by
    classical
    by_cases same : one = other
    · rw [same]
    have first : definition.policy.rules.Perm
        (one :: other :: (definition.policy.rules.erase one).erase other) :=
      (List.perm_cons_erase here).trans
        ((List.perm_cons_erase ((List.mem_erase_of_ne (Ne.symm same)).mpr there)).cons one)
    exact Canonical.ruleView_eq_of_swapped priority metric _
      ((streams first).trans (streams (first.trans (.swap _ _ _))).symm)
  simpa only [Canonical.ruleView, Prod.mk.injEq] using views

/-- Digests ignore the order of declaration when tied rules agree, and otherwise only through a
collision of the hash. -/
theorem digests_ignore_order_iff {definition : ExperimentDefinition R}
    (branches : (definition.branches.map BranchDefinition.id).Nodup)
    (metrics : (definition.metrics.map MetricDefinition.id).Nodup) :
    (definition.policy.TiedRulesAgree → definition.DigestsIgnoreOrder) ∧
      (definition.DigestsIgnoreOrder →
        definition.policy.TiedRulesAgree ∨ definition.policy.OrdersCollide) := by
  constructor
  · intro agree _ reordered order
    exact ⟨congrArg Sha256.digestOf
        (Canonical.definitionStream_eq branches metrics agree order).symm,
      congrArg Sha256.digestOf (Canonical.writePolicy_eq agree order.policy _).symm⟩
  · intro ignore
    by_cases collide : definition.policy.OrdersCollide
    · exact .inr collide
    · exact .inl (tied_of_digestsIgnoreOrder ignore collide)

end ExperimentDefinition

end Digests

/-! ## Samples -/

namespace Sample

/-- Two rules of one priority for one metric. -/
def improve : ComparisonRule UInt64 where
  metric := ⟨1⟩
  threshold := 5
  targetLow := 0
  targetHigh := 0

/-- The second of the two. -/
def stayBelow : ComparisonRule UInt64 :=
  { improve with op := .maxRegressionTolerance }

/-- A definition that asks for one before the other. -/
def rankedRules : ExperimentDefinition UInt64 :=
  { ordered with
    policy := { ordered.policy with rules := [improve, { stayBelow with priority := 1 }] } }

/-- A definition that asks for both. -/
def tiedRules : ExperimentDefinition UInt64 :=
  { ordered with policy := { ordered.policy with rules := [improve, stayBelow] } }

end Sample

/-- With the rules ranked no order of declaration shows. -/
theorem rankedRules_ignore_order : Sample.rankedRules.DigestsIgnoreOrder :=
  (ExperimentDefinition.digests_ignore_order_iff (by decide) (by decide)).1
    (by unfold ComparisonPolicy.TiedRulesAgree; decide)

/-- A digest by way of the running hash after two blocks. -/
theorem digestOf_of_blocks {data : Text} {first second : Sha256.Hasher}
    (opened : (data.take 64).foldl Sha256.updateByte Sha256.reset = first)
    (continued : ((data.drop 64).take 64).foldl Sha256.updateByte first = second) :
    Sha256.digestOf data = Sha256.finalize ((data.drop 128).foldl Sha256.updateByte second) := by
  have rest : (data.drop 64).drop 64 = data.drop 128 := by rw [List.drop_drop]
  have split : data = data.take 64 ++ ((data.drop 64).take 64 ++ data.drop 128) := by
    rw [← rest, List.take_append_drop, List.take_append_drop]
  calc
    Sha256.digestOf data = Sha256.digestOf (data.take 64 ++
        ((data.drop 64).take 64 ++ data.drop 128)) := congrArg _ split
    _ = _ := by
        unfold Sha256.digestOf
        rw [List.foldl_append, List.foldl_append, opened, continued]

deriving instance DecidableEq for Sha256.Hasher

namespace Sample

/-- The definition with the two rules the other way around. -/
def swappedRules : ExperimentDefinition UInt64 :=
  { tiedRules with policy := { tiedRules.policy with rules := [stayBelow, improve] } }

/-- The stream of a policy under a stable sort. -/
def policyStream (policy : ComparisonPolicy UInt64) : Text :=
  letI := stableSort
  Canonical.policyStream policy

/-- The running hash after the first block, which is the same in either order. -/
def opened : Sha256.Hasher where
  state := ⟨3768698448, 415940793, 3366216136, 2656607061, 694860534, 2162447459, 4273122083,
    1383347081⟩
  buffer := []
  totalBytes := 64

/-- After the second block, in the order of declaration. -/
def declared : Sha256.Hasher where
  state := ⟨1440821972, 3717497637, 1459328026, 2099393862, 3646182432, 113741775, 3288167476,
    2971738041⟩
  buffer := []
  totalBytes := 128

/-- After the second block, in the other order. -/
def swapped : Sha256.Hasher where
  state := ⟨2984503780, 2813789448, 784023669, 4292419976, 2194131685, 769432242, 1031670774,
    1354185596⟩
  buffer := []
  totalBytes := 128

theorem policyDigest_ne :
    Sha256.digestOf (policyStream swappedRules.policy) ≠
      Sha256.digestOf (policyStream tiedRules.policy) := by
  have first : ((policyStream tiedRules.policy).take 64).foldl Sha256.updateByte Sha256.reset =
      opened := by decide +kernel
  have second : (((policyStream tiedRules.policy).drop 64).take 64).foldl Sha256.updateByte opened =
      declared := by decide +kernel
  have first' : ((policyStream swappedRules.policy).take 64).foldl Sha256.updateByte Sha256.reset =
      opened := by decide +kernel
  have second' : (((policyStream swappedRules.policy).drop 64).take 64).foldl Sha256.updateByte
      opened = swapped := by decide +kernel
  rw [digestOf_of_blocks first second, digestOf_of_blocks first' second']
  decide +kernel

theorem swappedRules_reordered : tiedRules.Reordered swappedRules :=
  tiedRules.reordered_rules (.swap _ _ _)

end Sample

/-- Rules of one priority for one metric are hashed in the order of declaration. -/
theorem tied_rules_change_digest :
    ¬ ∀ (_ : StdSort) (definition reordered : ExperimentDefinition UInt64),
      (definition.branches.map BranchDefinition.id).Nodup →
      (definition.metrics.map MetricDefinition.id).Nodup →
      (definition.parameters.map ParameterAssignment.key).Nodup →
      (∀ branch ∈ definition.branches, (branch.parameters.map ParameterAssignment.key).Nodup) →
      definition.Reordered reordered →
        Canonical.definitionDigest reordered = Canonical.definitionDigest definition ∧
          Canonical.policyDigest reordered.policy = Canonical.policyDigest definition.policy := by
  intro ignore
  have same := ignore stableSort Sample.tiedRules Sample.swappedRules (by decide) (by decide)
    (by decide) (by decide) Sample.swappedRules_reordered
  exact Sample.policyDigest_ne same.2

end ExperimentFabric
