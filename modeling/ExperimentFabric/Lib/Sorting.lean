import Mathlib.Data.List.Sort

/-!
# Sorting without stability

What is documented of a standard sort: the result is a permutation of its input, and under a strict
weak order no element precedes one that is less.  Where the order leaves elements apart the result is
determined by the elements alone; where it ties them, only a stable sort is determined by its input.
-/

namespace Lib

variable {α β : Type}

/-- The requirement on the comparison of a standard sort. -/
structure StrictWeak (less : α → α → Bool) : Prop where
  asymm : ∀ left right, less left right = true → less right left = false
  split : ∀ left middle right, less left right = true →
    less left middle = true ∨ less middle right = true

namespace StrictWeak

variable {less : α → α → Bool}

theorem irrefl (weak : StrictWeak less) (item : α) : less item item = false := by
  cases itself : less item item with
  | false => rfl
  | true => rw [weak.asymm item item itself] at itself; cases itself

/-- Of two elements one does not come after the other. -/
theorem total (weak : StrictWeak less) (left right : α) :
    less right left = false ∨ less left right = false := by
  cases below : less left right with
  | false => exact .inr rfl
  | true => exact .inl (weak.asymm left right below)

/-- Elements that do not come after each other are chained. -/
theorem trans (weak : StrictWeak less) {left middle right : α} (first : less middle left = false)
    (second : less right middle = false) : less right left = false := by
  cases below : less right left with
  | false => rfl
  | true => rcases weak.split right middle left below with before | before <;> simp_all

/-- Comparison by a key. -/
theorem comap {less : β → β → Bool} (weak : StrictWeak less) (key : α → β) :
    StrictWeak fun left right => less (key left) (key right) where
  asymm left right := weak.asymm (key left) (key right)
  split left middle right := weak.split (key left) (key middle) (key right)

end StrictWeak

/-- A comparison that leaves no two elements tied. -/
structure StrictTotal (less : α → α → Bool) : Prop extends StrictWeak less where
  apart : ∀ left right, less left right = false → less right left = false → left = right

/-- The strict part of a linear order. -/
theorem strictTotal_lt [LinearOrder α] : StrictTotal fun left right : α => decide (left < right) where
  asymm left right := by simpa using le_of_lt
  split left middle right below := by
    rw [decide_eq_true_eq] at below
    rcases lt_or_ge left middle with before | after
    · exact .inl (decide_eq_true before)
    · exact .inr (decide_eq_true (after.trans_lt below))
  apart left right first second :=
    le_antisymm (not_lt.mp (of_decide_eq_false second)) (not_lt.mp (of_decide_eq_false first))

/-! ## Comparison by a key -/

/-- Comparison by a key, and by something else under equal keys. -/
def byKey [DecidableEq β] (key : α → β) (first : β → β → Bool) (less : α → α → Bool)
    (left right : α) : Bool :=
  if key left ≠ key right then first (key left) (key right) else less left right

section ByKey

variable [DecidableEq β] {key : α → β} {first : β → β → Bool} {less : α → α → Bool}
  {left right : α}

theorem byKey_of_ne (different : key left ≠ key right) :
    byKey key first less left right = first (key left) (key right) := if_pos different

theorem byKey_of_eq (same : key left = key right) :
    byKey key first less left right = less left right := if_neg (not_not.mpr same)

/-- Elements that tie have one key, and tie beyond it. -/
theorem StrictTotal.tied_byKey (total : StrictTotal first)
    (below : byKey key first less left right = false)
    (above : byKey key first less right left = false) :
    key left = key right ∧ less left right = false ∧ less right left = false := by
  have same : key left = key right := by
    by_contra different
    rw [byKey_of_ne different] at below
    rw [byKey_of_ne (Ne.symm different)] at above
    exact different (total.apart _ _ below above)
  rw [byKey_of_eq same] at below
  rw [byKey_of_eq same.symm] at above
  exact ⟨same, below, above⟩

theorem StrictTotal.byKey (total : StrictTotal first) (key : α → β) (next : StrictWeak less) :
    StrictWeak (byKey key first less) where
  asymm left right below := by
    by_cases same : key left = key right
    · rw [byKey_of_eq same] at below
      rw [byKey_of_eq same.symm]
      exact next.asymm left right below
    · rw [byKey_of_ne same] at below
      rw [byKey_of_ne (Ne.symm same)]
      exact total.asymm _ _ below
  split left middle right below := by
    by_cases same : key left = key right
    · rw [byKey_of_eq same] at below
      by_cases between : key left = key middle
      · rw [byKey_of_eq between, byKey_of_eq (between.symm.trans same)]
        exact next.split left middle right below
      · rw [byKey_of_ne between, byKey_of_ne (same ▸ Ne.symm between)]
        by_contra neither
        simp only [not_or, Bool.not_eq_true, ← same] at neither
        exact between (total.apart _ _ neither.1 neither.2)
    · rw [byKey_of_ne same] at below
      -- A key that comes strictly between two others is neither of the two.
      rcases total.split _ (key middle) _ below with before | before
      · have between : key left ≠ key middle := by
          intro equal
          rw [equal, total.irrefl] at before
          cases before
        exact .inl ((byKey_of_ne between).trans before)
      · have between : key middle ≠ key right := by
          intro equal
          rw [equal, total.irrefl] at before
          cases before
        exact .inr ((byKey_of_ne between).trans before)

end ByKey

/-! ## Sorting -/

/-- A sort as the standard library documents it. -/
class StdSort where
  /-- The elements in order. -/
  sort : {α : Type} → (α → α → Bool) → List α → List α
  perm : ∀ {α : Type} (less : α → α → Bool) (items : List α), (sort less items).Perm items
  ordered : ∀ {α : Type} (less : α → α → Bool) (items : List α), StrictWeak less →
    (sort less items).Pairwise fun left right => less right left = false

/-- When the comparison reads shared data only and leaves different data apart, lists that share
their data up to order are sorted to the same data. -/
theorem StdSort.map_sort_eq [StdSort] {less : α → α → Bool} (lessShared : β → β → Bool)
    (shared : α → β) (reads : ∀ left right, less left right = lessShared (shared left) (shared right))
    (weak : StrictWeak lessShared) {left right : List α}
    (perm : (left.map shared).Perm (right.map shared))
    (apart : ∀ one ∈ left.map shared, ∀ other ∈ left.map shared, lessShared one other = false →
      lessShared other one = false → one = other) :
    (StdSort.sort less left).map shared = (StdSort.sort less right).map shared := by
  have weakHere : StrictWeak less := by
    rw [show less = fun left right => lessShared (shared left) (shared right) from
      funext fun _ => funext fun _ => reads _ _]
    exact weak.comap shared
  have sorted (items : List α) : ((StdSort.sort less items).map shared).Pairwise
      fun one other => lessShared other one = false :=
    List.pairwise_map.mpr ((StdSort.ordered less items weakHere).imp fun {one other} free => by
      rw [← reads]
      exact free)
  have both : ((StdSort.sort less left).map shared).Perm ((StdSort.sort less right).map shared) :=
    ((StdSort.perm less left).map shared).trans
      (perm.trans ((StdSort.perm less right).map shared).symm)
  refine @List.Perm.eq_of_pairwise _ (fun one other => lessShared other one = false) _ _
    (fun one other here there first second => ?_) (sorted left) (sorted right) both
  have member := ((StdSort.perm less left).map shared).mem_iff.mp here
  have member' := perm.mem_iff.mpr (((StdSort.perm less right).map shared).mem_iff.mp there)
  exact apart one member other member' second first

/-- A merge sort by a comparison that leaves no two elements tied does not depend on their order. -/
theorem mergeSort_eq_of_perm {less : α → α → Bool} (total : StrictTotal less) {left right : List α} (perm : left.Perm right) :
    left.mergeSort (fun one other => !less other one) =
      right.mergeSort (fun one other => !less other one) := by
  have sorted (items : List α) :
      (items.mergeSort fun one other => !less other one).Pairwise
        fun one other => less other one = false := by
    refine (List.pairwise_mergeSort ?_ ?_ items).imp fun free => by simpa using free
    · intro one middle other first second
      simp only [Bool.not_eq_true'] at first second ⊢
      exact total.trans first second
    · intro one other
      simpa using total.total one other
  refine @List.Perm.eq_of_pairwise _ (fun one other => less other one = false) _ _
    (fun one other _ _ first second => total.apart one other second first) (sorted left) (sorted right) ?_
  exact (List.mergeSort_perm left _).trans (perm.trans (List.mergeSort_perm right _).symm)

/-! ## A stable sort -/

theorem insertionSort_ordered {less : α → α → Bool} (weak : StrictWeak less) (items : List α) :
    (items.insertionSort fun left right => less right left = false).Pairwise
      fun left right => less right left = false := by
  have total : Std.Total fun left right => less right left = false := ⟨weak.total⟩
  have transitive : IsTrans α fun left right => less right left = false :=
    ⟨fun _ _ _ => weak.trans⟩
  exact List.pairwise_insertionSort _ items

/-- Insertion sort, which keeps equivalent elements in their order. -/
@[reducible]
def stableSort : StdSort where
  sort less items := items.insertionSort fun left right => less right left = false
  perm _ items := List.perm_insertionSort _ items
  ordered _ items weak := insertionSort_ordered weak items

/-- Two elements that tie are inserted next to each other, the later one in front. -/
theorem orderedInsert_tied (less : α → α → Bool) {one other : α}
    (alike : ∀ item, less item one = less item other) (tied : less one other = false)
    (tied' : less other one = false) (items : List α) :
    ∃ front back,
      (items.orderedInsert (fun left right => less right left = false) other).orderedInsert
          (fun left right => less right left = false) one = front ++ one :: other :: back ∧
      (items.orderedInsert (fun left right => less right left = false) one).orderedInsert
          (fun left right => less right left = false) other = front ++ other :: one :: back := by
  induction items with
  | nil => exact ⟨[], [], by simp [tied'], by simp [tied]⟩
  | cons item rest ih =>
      cases below : less item one with
      | false =>
          have below' : less item other = false := alike item ▸ below
          exact ⟨[], item :: rest, by simp [below', tied'], by simp [below, tied]⟩
      | true =>
          have below' : less item other = true := alike item ▸ below
          obtain ⟨front, back, first, second⟩ := ih
          exact ⟨item :: front, back, by simp [below, below', first],
            by simp [below, below', second]⟩

end Lib
