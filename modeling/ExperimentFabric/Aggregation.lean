import ExperimentFabric.Pairing

/-!
# Aggregates in exact arithmetic

Over an exact ordered field, the aggregate of a metric is a function of the multiset of its valid
values, whatever the order of the trials.
-/

namespace ExperimentFabric

open Lib

instance : IsStrictOrder Text (· < ·) where
  irrefl := List.lt_irrefl
  trans _ _ _ := List.lt_trans

variable {R : Type}

/-- The kinds of values that a metric may aggregate by its rule. -/
structure MetricDefinition.Admitted (metric : MetricDefinition R) : Prop where
  categorical : metric.kind = .categorical →
    metric.aggregation = .majority ∨ metric.aggregation = .none
  numeric : metric.kind = .real ∨ metric.kind = .integer → metric.aggregation ≠ .majority

/-! ## The order of the values -/

section Sorting

variable {α : Type} {r s : α → α → Prop} [DecidableRel r] [DecidableRel s]

theorem insertionSort_congr (same : ∀ left right, r left right ↔ s left right) (list : List α) :
    list.insertionSort r = list.insertionSort s := by
  obtain rfl : r = s := funext fun left => funext fun right => propext (same left right)
  congr

end Sorting

/-- The most frequent category is a mode of the categories. -/
theorem majorityCategory_mode {categories : List Text} (nonempty : categories ≠ []) :
    0 < (majorityCategory categories).2 ∧ IsMode ↑categories (majorityCategory categories).1 := by
  have counts : ∀ category, categories.count category =
      (↑categories : Multiset Text).count category := by
    intro category
    rw [Multiset.coe_count]
    exact List.countP_congr fun entry _ => by simp
  have listed : ∀ category, category ∈ (categories.insertionSort fun left right =>
      ¬ right < left).dedup ↔ category ∈ (↑categories : Multiset Text) := by
    intro category
    rw [List.mem_dedup, List.mem_insertionSort, Multiset.mem_coe]
  exact isMode_foldl counts (mt (Multiset.coe_eq_zero _).mp nonempty) listed []

section Exact

variable [Field R] [LinearOrder R]

/-- What a rule makes of a multiset of values. -/
def AggregationRule.Reference (rule : AggregationRule) (values : Multiset R) (aggregate : R) :
    Prop :=
  match rule with
  | .mean => aggregate = values.sum / values.card
  | .median => aggregate = Lib.median values
  | .min => IsLeast {value | value ∈ values} aggregate
  | .max => IsGreatest {value | value ∈ values} aggregate
  | .sum => aggregate = values.sum
  | .none | .majority => True

/-- The rule makes a number of the values. -/
def AggregationRule.isNumeric : AggregationRule → Bool
  | .mean | .median | .min | .max | .sum => true
  | .none | .majority => false

theorem AggregationRule.Reference.unique {rule : AggregationRule} (numeric : rule.isNumeric = true)
    {values : Multiset R} {first second : R} (left : rule.Reference values first)
    (right : rule.Reference values second) : first = second := by
  cases rule with
  | mean | median | sum => exact left.trans right.symm
  | min => exact IsLeast.unique left right
  | max => exact IsGreatest.unique left right
  | none | majority => cases numeric

variable [MetricReal R] [ExactMetrics R]

theorem total_eq (values : List R) : total values = values.sum := by
  have added : (MetricReal.add : R → R → R) = (· + ·) :=
    funext fun left => funext fun right => ExactMetrics.add_eq left right
  rw [total, added, ExactMetrics.ofInt_eq, Int.cast_zero, List.sum_eq_foldl]

theorem median_eq (first : R) (rest : List R) :
    ExperimentFabric.median first rest = Lib.median (↑(first :: rest) : Multiset R) := by
  have sorted : (first :: rest).insertionSort (fun left right => !MetricReal.lt right left) =
      (↑(first :: rest) : Multiset R).sort (· ≤ ·) := by
    rw [Multiset.coe_sort, List.mergeSort_eq_insertionSort]
    exact insertionSort_congr (fun left right => by simp [ExactMetrics.lt_eq]) _
  have nonempty : (↑(first :: rest) : Multiset R).sort (· ≤ ·) ≠ [] := by
    rw [← List.length_pos_iff, Multiset.length_sort]
    exact Nat.succ_pos _
  unfold ExperimentFabric.median Lib.median
  dsimp only
  rw [sorted, ← middle_default nonempty first 0, middle, ExactMetrics.div_eq, ExactMetrics.add_eq,
    ExactMetrics.ofInt_eq]
  norm_num

theorem foldl_least (first : R) (rest : List R) :
    IsLeast {value | value ∈ first :: rest}
      (rest.foldl (fun best value => if MetricReal.lt value best then value else best) first) := by
  simp only [ExactMetrics.lt_eq, decide_eq_true_eq]
  refine @foldl_pick R (· ≤ ·) _ _ _ ?_ ?_ ?_ first rest
  · exact fun left right => (ite_eq_or_eq _ right left).symm
  · intro left right
    split
    · rename_i below
      exact below.le
    · exact le_rfl
  · intro left right
    split
    · exact le_rfl
    · rename_i above
      exact not_lt.mp above

theorem foldl_greatest (first : R) (rest : List R) :
    IsGreatest {value | value ∈ first :: rest}
      (rest.foldl (fun best value => if MetricReal.lt best value then value else best) first) := by
  simp only [ExactMetrics.lt_eq, decide_eq_true_eq]
  refine @foldl_pick R (· ≥ ·) _ _ _ ?_ ?_ ?_ first rest
  · exact fun left right => (ite_eq_or_eq _ right left).symm
  · intro left right
    split
    · rename_i above
      exact above.le
    · exact le_rfl
  · intro left right
    split
    · exact le_rfl
    · rename_i below
      exact not_lt.mp below

/-- The aggregate of a nonempty list is what its rule makes of the values. -/
theorem aggregateValue_reference (rule : AggregationRule) (first : R) (rest : List R) :
    rule.Reference ↑(first :: rest) (aggregateValue rule first rest) := by
  cases rule with
  | mean =>
      simp only [AggregationRule.Reference, aggregateValue, total_eq, ExactMetrics.div_eq,
        ExactMetrics.ofInt_eq, Multiset.sum_coe, Multiset.coe_card, List.length_cons]
      push_cast
      rfl
  | median => exact median_eq first rest
  | min => exact foldl_least first rest
  | max => exact foldl_greatest first rest
  | sum => exact total_eq (first :: rest)
  | none | majority => trivial

/-- The median and the mean lie between the extremes. -/
theorem aggregateValue_ordered (first : R) (rest : List R) :
    aggregateValue .min first rest ≤ aggregateValue .median first rest ∧
      aggregateValue .median first rest ≤ aggregateValue .max first rest ∧
      aggregateValue .min first rest ≤ aggregateValue .mean first rest ∧
      aggregateValue .mean first rest ≤ aggregateValue .max first rest := by
  have least := aggregateValue_reference .min first rest
  have greatest := aggregateValue_reference .max first rest
  have bounded : ∀ value ∈ (↑(first :: rest) : Multiset R),
      aggregateValue .min first rest ≤ value ∧ value ≤ aggregateValue .max first rest :=
    fun value member => ⟨least.2 member, greatest.2 member⟩
  have middle : aggregateValue .median first rest = Lib.median ↑(first :: rest) :=
    aggregateValue_reference .median first rest
  have mean : aggregateValue .mean first rest = _ := aggregateValue_reference .mean first rest
  have nonempty : (↑(first :: rest) : Multiset R).sort (· ≤ ·) ≠ [] := by
    rw [← List.length_pos_iff, Multiset.length_sort]
    exact Nat.succ_pos _
  have inside : ∀ value ∈ (↑(first :: rest) : Multiset R).sort (· ≤ ·),
      aggregateValue .min first rest ≤ value ∧ value ≤ aggregateValue .max first rest :=
    fun value member => bounded value ((Multiset.mem_sort _).mp member)
  have median_bounds := middle_bounds nonempty inside 0
  have mean_bounds := mean_bounds (Multiset.cons_ne_zero (a := first) (m := ↑rest)) bounded
  rw [middle, mean]
  exact ⟨median_bounds.1, median_bounds.2, mean_bounds⟩

/-! ## Permuted values -/

/-- Aggregates that report the same. -/
structure MetricAggregate.Agrees (left right : MetricAggregate R) : Prop where
  present : left.present = right.present
  value : left.value = right.value
  category : left.category = right.category

omit [Field R] [LinearOrder R] [MetricReal R] [ExactMetrics R] in
theorem majorityCategory_perm {categories categories' : List Text}
    (perm : categories'.Perm categories) :
    (0 < (majorityCategory categories').2 ↔ 0 < (majorityCategory categories).2) ∧
      (majorityCategory categories').1 = (majorityCategory categories).1 := by
  by_cases empty : categories = []
  · subst empty
    rw [List.perm_nil.mp perm]
    exact ⟨Iff.rfl, rfl⟩
  · have found := majorityCategory_mode empty
    have found' := majorityCategory_mode fun none => empty (List.nil_perm.mp (none ▸ perm))
    have same : (↑categories' : Multiset Text) = ↑categories := Multiset.coe_eq_coe.mpr perm
    rw [same] at found'
    exact ⟨⟨fun _ => found.1, fun _ => found'.1⟩, found'.2.unique found.2⟩

/-- An aggregate is the same when the trials exchange what they observed. -/
theorem aggregate_perm (metric : MetricDefinition R)
    (ordered : metric.kind = .categorical ∨ metric.aggregation ≠ .none)
    (trials trials' : List TrialRecord) {summaries summaries' : List (Option (ObservationSummary R))}
    (perm : summaries'.Perm summaries) :
    (aggregate metric trials' summaries').Agrees (aggregate metric trials summaries) := by
  have observed := (perm.filterMap id).filterMap ObservationSummary.valid
  have values := observed.filterMap fun observation => numericValue observation.value
  have categories := observed.filterMap fun observation => categoryValue observation.value
  obtain ⟨counted, mode⟩ := majorityCategory_perm categories
  unfold aggregate
  dsimp only
  by_cases categorical : (metric.kind = .categorical || metric.aggregation = .majority) = true
  · constructor
    · simp only [categorical, if_true, gt_iff_lt, counted]
    · simp only [categorical, if_true]
    · simp only [categorical, Bool.true_and, gt_iff_lt, counted, mode]
  · have numeric : metric.aggregation.isNumeric = true := by
      rw [Bool.or_eq_true, decide_eq_true_eq, decide_eq_true_eq, not_or] at categorical
      have defined := ordered.resolve_left categorical.1
      cases rule : metric.aggregation with
      | mean | median | min | max | sum => rfl
      | none => exact absurd rule defined
      | majority => exact absurd rule categorical.2
    generalize List.filterMap (fun observation => numericValue observation.value)
      (List.filterMap ObservationSummary.valid (List.filterMap id summaries)) = held at values ⊢
    generalize List.filterMap (fun observation => numericValue observation.value)
      (List.filterMap ObservationSummary.valid (List.filterMap id summaries')) = held' at values ⊢
    have empty : held'.isEmpty = held.isEmpty := by
      rw [Bool.eq_iff_iff, List.isEmpty_iff_length_eq_zero, List.isEmpty_iff_length_eq_zero,
        values.length_eq]
    constructor
    · simp only [if_neg categorical, empty]
    · simp only [if_neg categorical]
      cases held with
      | nil => rw [List.perm_nil.mp values]
      | cons first rest =>
          cases held' with
          | nil => cases List.nil_perm.mp values
          | cons first' rest' =>
              have reference := aggregateValue_reference metric.aggregation first rest
              have reference' := aggregateValue_reference metric.aggregation first' rest'
              have same : (↑(first' :: rest') : Multiset R) = ↑(first :: rest) :=
                Multiset.coe_eq_coe.mpr values
              rw [same] at reference'
              exact reference'.unique numeric reference
    · rw [if_neg fun both => categorical (Bool.and_eq_true_iff.mp both).1,
        if_neg fun both => categorical (Bool.and_eq_true_iff.mp both).1]

end Exact

/-! ## Aggregates of admitted metrics -/

theorem defineMetrics_admitted [MetricReal R] {spec : ExperimentSpec R} {limits : Limits}
    (accepted : validateSpec spec limits = .ok ()) {watermark : Nat} {metric : MetricDefinition R}
    (defined : metric ∈ defineMetrics watermark spec.metrics) : metric.Admitted := by
  have declared : ∃ origin ∈ spec.metrics, metric.kind = origin.kind ∧
      metric.aggregation = origin.aggregation := by
    clear accepted
    generalize spec.metrics = specs at defined ⊢
    induction specs generalizing watermark with
    | nil => exact (List.not_mem_nil defined).elim
    | cons first rest ih =>
        rcases List.mem_cons.mp defined with rfl | later
        · exact ⟨first, List.mem_cons_self, rfl, rfl⟩
        · obtain ⟨origin, member, same⟩ := ih later
          exact ⟨origin, List.mem_cons_of_mem first member, same⟩
  simp only [validateSpec, sequence_cons_eq_ok] at accepted
  obtain ⟨-, -, -, -, -, -, -, metrics, -⟩ := accepted
  obtain ⟨origin, member, kind, aggregation⟩ := declared
  obtain ⟨front, back, split⟩ := List.append_of_mem member
  have checked := (scan_eq_ok _ _).mp metrics front origin back split
  simp only [sequence_cons_eq_ok, require_eq_ok, Bool.not_eq_true', Bool.and_eq_false_iff,
    Bool.or_eq_false_iff, decide_eq_false_iff_not, not_not] at checked
  obtain ⟨-, -, -, categories, numbers, -⟩ := checked
  constructor
  · rw [kind, aggregation]
    intro categorical
    rcases categories with (apart | majority) | none
    · exact absurd categorical apart
    · exact .inl majority
    · exact .inr none
  · rw [kind, aggregation]
    rintro (real | integer)
    · exact numbers.resolve_left fun apart => apart.1 real
    · exact numbers.resolve_left fun apart => apart.2 integer

namespace ExperimentRecord

variable [MetricReal R]

/-- The category a trial contributes to a metric. -/
def trialCategory (record : ExperimentRecord R) (metric : MetricId) (trial : TrialRecord) :
    Option Text :=
  (record.validObservation metric trial).bind (categoryValue ·.value)

/-- The numbers that the authoritative trials of a branch contribute to a metric. -/
def trialValues (record : ExperimentRecord R) (branch : BranchId) (metric : MetricId) : List R :=
  (record.authoritativeTrials branch).filterMap (record.trialValue metric)

/-- The categories that the authoritative trials of a branch contribute to a metric. -/
def trialCategories (record : ExperimentRecord R) (branch : BranchId) (metric : MetricId) :
    List Text :=
  (record.authoritativeTrials branch).filterMap (record.trialCategory metric)

/-- What the authoritative trials of a branch observed of a metric. -/
def trialSummaries (record : ExperimentRecord R) (branch : BranchId) (metric : MetricId) :
    List (Option (ObservationSummary R)) :=
  (record.authoritativeTrials branch).map fun trial =>
    record.evidenceIndex.find? (cellKey trial.id metric)

end ExperimentRecord

/-- The metric under another rule. -/
def MetricDefinition.ruled (metric : MetricDefinition R) (rule : AggregationRule) :
    MetricDefinition R :=
  { metric with aggregation := rule }

/-- The aggregate of a nonempty list of numbers is the value of its rule. -/
theorem aggregateOn_value [MetricReal R] {record : ExperimentRecord R} {branch : BranchDefinition}
    {metric : MetricDefinition R} (kind : metric.kind ≠ .categorical)
    (rule : metric.aggregation ≠ .majority) :
    (record.aggregateOn branch metric).value =
      match record.trialValues branch.id metric.id with
      | [] => MetricReal.ofInt 0
      | first :: rest => aggregateValue metric.aggregation first rest := by
  unfold ExperimentRecord.aggregateOn aggregate
  dsimp only
  rw [aggregate_observed, List.filterMap_filterMap, if_neg (by simp [kind, rule])]
  rfl

theorem aggregateOn_category [MetricReal R] {record : ExperimentRecord R}
    {branch : BranchDefinition} {metric : MetricDefinition R} (kind : metric.kind = .categorical)
    (nonempty : record.trialCategories branch.id metric.id ≠ []) :
    (record.aggregateOn branch metric).category =
      (majorityCategory (record.trialCategories branch.id metric.id)).1 := by
  have counted := (majorityCategory_mode nonempty).1
  unfold ExperimentRecord.aggregateOn aggregate
  dsimp only
  rw [aggregate_observed, List.filterMap_filterMap]
  refine if_pos ?_
  rw [Bool.and_eq_true, Bool.or_eq_true]
  exact ⟨.inl (decide_eq_true kind), decide_eq_true counted⟩

/-- The aggregate of an admitted metric is the value of its rule on the multiset of valid values, the
same under every exchange of observations among the trials, with the median and the mean between the
extremes. -/
theorem aggregates_correct [Field R] [LinearOrder R] [MetricReal R] [ExactMetrics R]
    (record : ExperimentRecord R) (branch : BranchDefinition) {spec : ExperimentSpec R}
    {limits : Limits} {watermark : Nat} {metric : MetricDefinition R}
    (accepted : validateSpec spec limits = .ok ())
    (defined : metric ∈ defineMetrics watermark spec.metrics) :
    (metric.aggregation.isNumeric = true → record.trialValues branch.id metric.id ≠ [] →
      metric.aggregation.Reference ↑(record.trialValues branch.id metric.id)
        (record.aggregateOn branch metric).value) ∧
    (metric.kind = .categorical → record.trialCategories branch.id metric.id ≠ [] →
      IsMode ↑(record.trialCategories branch.id metric.id)
        (record.aggregateOn branch metric).category) ∧
    (metric.kind = .categorical ∨ metric.aggregation ≠ .none →
      ∀ trials summaries, summaries.Perm (record.trialSummaries branch.id metric.id) →
        (aggregate metric trials summaries).Agrees (record.aggregateOn branch metric)) ∧
    (metric.kind ≠ .categorical →
      let value := fun rule => (record.aggregateOn branch (metric.ruled rule)).value
      value .min ≤ value .median ∧ value .median ≤ value .max ∧ value .min ≤ value .mean ∧
        value .mean ≤ value .max) := by
  have admitted := defineMetrics_admitted accepted defined
  refine ⟨fun numeric nonempty => ?_, fun categorical nonempty => ?_,
    fun ordered trials summaries perm => ?_, fun kind => ?_⟩
  · have kind : metric.kind ≠ .categorical := by
      intro categorical
      rcases admitted.categorical categorical with rule | rule <;>
        rw [rule] at numeric <;> cases numeric
    have rule : metric.aggregation ≠ .majority := by
      intro majority
      rw [majority] at numeric
      cases numeric
    rw [aggregateOn_value kind rule]
    obtain ⟨first, rest, values⟩ := List.exists_cons_of_ne_nil nonempty
    rw [values]
    exact aggregateValue_reference metric.aggregation first rest
  · rw [aggregateOn_category categorical nonempty]
    exact (majorityCategory_mode nonempty).2
  · exact aggregate_perm metric ordered _ trials perm
  · intro value
    have ruled : ∀ rule, rule ≠ .majority → value rule =
        match record.trialValues branch.id metric.id with
        | [] => MetricReal.ofInt 0
        | first :: rest => aggregateValue rule first rest := by
      intro rule apart
      have sameKind : (metric.ruled rule).kind ≠ .categorical := kind
      exact aggregateOn_value sameKind apart
    rw [ruled .min (by decide), ruled .median (by decide), ruled .max (by decide),
      ruled .mean (by decide)]
    cases record.trialValues branch.id metric.id with
    | nil => exact ⟨le_rfl, le_rfl, le_rfl, le_rfl⟩
    | cons first rest => exact aggregateValue_ordered first rest

/-- The mean of the sample candidate is that of its two trials. -/
theorem aggregates_correct_sample : ∃ record branch metric,
    (Sample.misaligned .valid).findExperiment Sample.experiment = some record ∧
      record.findBranch Sample.candidate = some branch ∧
      metric ∈ defineMetrics 0 Sample.pairedSpec.metrics ∧
      AggregationRule.mean.Reference ↑[(2 : ℚ), 2] (record.aggregateOn branch metric).value := by
  have facts : ((Sample.misaligned .valid).findExperiment Sample.experiment).any (fun record =>
      (record.findBranch Sample.candidate).any fun branch =>
        record.trialValues branch.id ⟨1⟩ = [2, 2]) = true := by decide +kernel
  obtain ⟨record, found, facts⟩ := (Option.any_eq_true _ _).mp facts
  obtain ⟨branch, declared, values⟩ := (Option.any_eq_true _ _).mp facts
  have values := of_decide_eq_true values
  have accepted : validateSpec Sample.pairedSpec {} = .ok () := by decide +kernel
  have correct := aggregates_correct record branch accepted
    (List.mem_cons_self (l := defineMetrics 1 []))
  refine ⟨record, branch, _, found, declared, List.mem_cons_self, ?_⟩
  rw [← values]
  exact correct.1 rfl (List.ne_nil_of_mem (values ▸ List.mem_cons_self))

end ExperimentFabric
