import Mathlib.Algebra.BigOperators.Group.Multiset.Basic
import Mathlib.Algebra.Order.BigOperators.Group.Multiset
import Mathlib.Algebra.Order.Field.Basic
import Mathlib.Data.List.GetD
import Mathlib.Data.List.Nodup
import Mathlib.Data.Multiset.Sort

/-!
# Lists of samples

Samples paired by place, the middle of sorted samples, and the most frequent sample.
-/

namespace Lib

/-! ## Lists paired by place -/

section Pairs

variable {α : Type}

/-- Two lists are paired with equal entries only when one continues the other. -/
theorem prefix_of_zip_diagonal {left right common : List α}
    (paired : left.zip right = common.map fun entry => (entry, entry)) :
    left <+: right ∨ right <+: left := by
  induction left generalizing right common with
  | nil => exact .inl List.nil_prefix
  | cons first rest ih =>
      cases right with
      | nil => exact .inr List.nil_prefix
      | cons first' rest' =>
          cases common with
          | nil => cases paired
          | cons entry others =>
              obtain ⟨here, later⟩ := List.cons.inj paired
              obtain ⟨rfl, rfl⟩ := Prod.mk.inj here
              rcases ih later with continued | continued
              · exact .inl (List.cons_prefix_cons.mpr ⟨rfl, continued⟩)
              · exact .inr (List.cons_prefix_cons.mpr ⟨rfl, continued⟩)

theorem zip_append_left (front rest : List α) :
    front.zip (front ++ rest) = front.map fun entry => (entry, entry) := by
  induction front with
  | nil => rfl
  | cons first front ih => rw [List.cons_append, List.zip_cons_cons, ih, List.map_cons]

theorem zip_append_right (front rest : List α) :
    (front ++ rest).zip front = front.map fun entry => (entry, entry) := by
  induction front with
  | nil => rw [List.zip_nil_right, List.map_nil]
  | cons first front ih => rw [List.cons_append, List.zip_cons_cons, ih, List.map_cons]

/-- Lists without repetitions are paired entry by common entry exactly when one continues the
other. -/
theorem zip_eq_common_iff [DecidableEq α] {left right : List α} (distinct : left.Nodup) :
    left.zip right = (left.filter (· ∈ right)).map (fun entry => (entry, entry)) ↔
      left <+: right ∨ right <+: left := by
  constructor
  · exact prefix_of_zip_diagonal
  · rintro (⟨rest, rfl⟩ | ⟨rest, rfl⟩)
    · rw [zip_append_left, List.filter_eq_self.mpr]
      exact fun entry member => decide_eq_true (List.mem_append_left rest member)
    · have apart := (List.nodup_append'.mp distinct).2.2
      rw [zip_append_right, List.filter_append, List.filter_eq_self.mpr, List.filter_eq_nil_iff.mpr,
        List.append_nil]
      · intro entry member
        rw [decide_eq_true_eq]
        exact fun shared => apart shared member
      · exact fun entry member => decide_eq_true member

/-- The entries that are kept, by their places. -/
theorem filterMap_eq_places {β : Type} (list : List α) (f : α → Option β) :
    (list.filterMap f).map some =
      ((List.range list.length).filter fun place => (list[place]?.bind f).isSome).map
        fun place => list[place]?.bind f := by
  induction list with
  | nil => rfl
  | cons first rest ih =>
      rw [List.length_cons, List.range_succ_eq_map, List.filter_cons, List.filter_map,
        List.filterMap_cons]
      have shifted : (fun place => ((first :: rest)[place]?.bind f).isSome) ∘ Nat.succ =
          fun place => (rest[place]?.bind f).isSome := rfl
      rw [shifted]
      cases kept : f first with
      | none =>
          rw [if_neg (by simp [kept]), List.map_map]
          exact ih
      | some value =>
          rw [if_pos (by simp [kept]), List.map_cons, List.map_cons, List.map_map, ih]
          simp [kept]

end Pairs

/-! ## Extreme samples -/

/-- Picking the better of two samples from the first on finds the best. -/
theorem foldl_pick {α : Type} {better : α → α → Prop} [Std.Refl better] [IsTrans α better]
    {pick : α → α → α} (choice : ∀ left right, pick left right = left ∨ pick left right = right)
    (first_le : ∀ left right, better (pick left right) left)
    (second_le : ∀ left right, better (pick left right) right) (first : α) (rest : List α) :
    rest.foldl pick first ∈ first :: rest ∧
      ∀ sample ∈ first :: rest, better (rest.foldl pick first) sample := by
  induction rest generalizing first with
  | nil =>
      refine ⟨List.mem_cons_self, fun sample member => ?_⟩
      rw [List.mem_singleton.mp member]
      exact Std.Refl.refl first
  | cons second rest ih =>
      obtain ⟨member, best⟩ := ih (pick first second)
      rw [List.foldl_cons]
      have reached := best _ List.mem_cons_self
      refine ⟨?_, fun sample listed => ?_⟩
      · rcases List.mem_cons.mp member with kept | later
        · rw [kept]
          rcases choice first second with same | same
          · rw [same]
            exact List.mem_cons_self
          · rw [same]
            exact List.mem_cons_of_mem _ List.mem_cons_self
        · exact List.mem_cons_of_mem _ (List.mem_cons_of_mem _ later)
      · rcases List.mem_cons.mp listed with rfl | listed
        · exact IsTrans.trans _ _ _ reached (first_le sample second)
        · rcases List.mem_cons.mp listed with rfl | listed
          · exact IsTrans.trans _ _ _ reached (second_le first sample)
          · exact best sample (List.mem_cons_of_mem _ listed)

/-! ## The middle of sorted samples -/

section Middle

variable {R : Type} [Field R] [LinearOrder R]

/-- The middle entry, or the mean of the two middle entries. -/
def middle (default : R) (sorted : List R) : R :=
  if sorted.length % 2 = 0 then
    (sorted.getD (sorted.length / 2 - 1) default + sorted.getD (sorted.length / 2) default) / 2
  else sorted.getD (sorted.length / 2) default

/-- The median of a collection of samples. -/
def median (samples : Multiset R) : R := middle 0 (samples.sort (· ≤ ·))

omit [LinearOrder R] in
theorem middle_default {sorted : List R} (nonempty : sorted ≠ []) (default default' : R) :
    middle default sorted = middle default' sorted := by
  have inside : sorted.length / 2 < sorted.length :=
    Nat.div_lt_self (List.length_pos_iff.mpr nonempty) Nat.one_lt_two
  have before : sorted.length / 2 - 1 < sorted.length := (Nat.sub_le _ _).trans_lt inside
  unfold middle
  rw [List.getD_eq_getElem _ default inside, List.getD_eq_getElem _ default' inside,
    List.getD_eq_getElem _ default before, List.getD_eq_getElem _ default' before]

/-- The middle stays within the bounds of the samples. -/
theorem middle_bounds [IsStrictOrderedRing R] {sorted : List R} (nonempty : sorted ≠ [])
    {low high : R} (bounded : ∀ sample ∈ sorted, low ≤ sample ∧ sample ≤ high) (default : R) :
    low ≤ middle default sorted ∧ middle default sorted ≤ high := by
  have inside : sorted.length / 2 < sorted.length :=
    Nat.div_lt_self (List.length_pos_iff.mpr nonempty) Nat.one_lt_two
  have before : sorted.length / 2 - 1 < sorted.length := (Nat.sub_le _ _).trans_lt inside
  obtain ⟨lower, upper⟩ := bounded _ (List.getElem_mem inside)
  obtain ⟨lower', upper'⟩ := bounded _ (List.getElem_mem before)
  unfold middle
  rw [List.getD_eq_getElem _ default inside, List.getD_eq_getElem _ default before]
  split
  · constructor
    · rw [le_div_iff₀ two_pos, mul_two]
      exact add_le_add lower' lower
    · rw [div_le_iff₀ two_pos, mul_two]
      exact add_le_add upper' upper
  · exact ⟨lower, upper⟩

/-- The mean stays within the bounds of the samples. -/
theorem mean_bounds [IsStrictOrderedRing R] {samples : Multiset R} (nonempty : samples ≠ 0)
    {low high : R} (bounded : ∀ sample ∈ samples, low ≤ sample ∧ sample ≤ high) :
    low ≤ samples.sum / samples.card ∧ samples.sum / samples.card ≤ high := by
  have positive : (0 : R) < samples.card := Nat.cast_pos.mpr (Multiset.card_pos.mpr nonempty)
  constructor
  · rw [le_div_iff₀ positive, mul_comm, ← nsmul_eq_mul]
    exact Multiset.card_nsmul_le_sum fun sample member => (bounded sample member).1
  · rw [div_le_iff₀ positive, mul_comm, ← nsmul_eq_mul]
    exact Multiset.sum_le_card_nsmul _ _ fun sample member => (bounded sample member).2

end Middle

/-! ## The most frequent sample -/

section Mode

variable {α : Type} [LT α] [DecidableLT α] [IsStrictOrder α (· < ·)]

/-- Keep the entry with the larger count, and the smaller entry of two with one count. -/
def moreFrequent (count : α → Nat) (best : α × Nat) (entry : α) : α × Nat :=
  if count entry > best.2 || (count entry = best.2 && entry < best.1) then (entry, count entry)
  else best

/-- The result of a search among some entries, from a start that no count falls below. -/
structure MostFrequent (count : α → Nat) (start : α × Nat) (entries : List α) (best : α × Nat) :
    Prop where
  found : best = start ∨ best.1 ∈ entries ∧ best.2 = count best.1
  above : start.2 ≤ best.2
  most : ∀ entry ∈ entries, count entry ≤ best.2
  least : ∀ entry ∈ entries, count entry = best.2 → ¬ entry < best.1

theorem mostFrequent_foldl (count : α → Nat) (start : α × Nat) (entries : List α) :
    MostFrequent count start entries (entries.foldl (moreFrequent count) start) := by
  induction entries using List.reverseRecOn with
  | nil =>
      constructor
      · exact .inl rfl
      · exact le_rfl
      · exact fun _ member => (List.not_mem_nil member).elim
      · exact fun _ member => (List.not_mem_nil member).elim
  | append_singleton earlier last ih =>
      rw [List.foldl_append, List.foldl_cons, List.foldl_nil]
      generalize earlier.foldl (moreFrequent count) start = best at ih ⊢
      have cases : ∀ {entry}, entry ∈ earlier ++ [last] → entry ∈ earlier ∨ entry = last :=
        fun member => (List.mem_append.mp member).imp_right List.mem_singleton.mp
      unfold moreFrequent
      split
      · rename_i better
        have better : best.2 < count last ∨ count last = best.2 ∧ last < best.1 := by
          simpa using better
        have reached : best.2 ≤ count last := better.elim Nat.le_of_lt fun same => same.1.ge
        constructor
        · exact .inr ⟨List.mem_append_right _ (List.mem_singleton.mpr rfl), rfl⟩
        · exact ih.above.trans reached
        · intro entry member
          rcases cases member with early | rfl
          · exact (ih.most entry early).trans reached
          · exact le_rfl
        · intro entry member same below
          rcases cases member with early | rfl
          · rcases better with more | ⟨equal, smaller⟩
            · exact Nat.not_le_of_lt more (same.symm.trans_le (ih.most entry early))
            · exact ih.least entry early (same.trans equal) (IsTrans.trans _ _ _ below smaller)
          · exact irrefl _ below
      · rename_i kept
        have kept : count last ≤ best.2 ∧ (count last = best.2 → ¬ last < best.1) := by
          simpa using kept
        constructor
        · exact ih.found.imp_right (And.imp_left (List.mem_append_left _))
        · exact ih.above
        · intro entry member
          rcases cases member with early | rfl
          · exact ih.most entry early
          · exact kept.1
        · intro entry member same
          rcases cases member with early | rfl
          · exact ih.least entry early same
          · exact kept.2 same

/-- A most frequent sample, and the least of these. -/
structure IsMode [DecidableEq α] (samples : Multiset α) (mode : α) : Prop where
  member : mode ∈ samples
  most : ∀ sample, samples.count sample ≤ samples.count mode
  least : ∀ sample, samples.count sample = samples.count mode → ¬ sample < mode

omit [DecidableLT α] [IsStrictOrder α (· < ·)] in
theorem IsMode.unique [DecidableEq α] [Std.Trichotomous fun first second : α => first < second] {samples : Multiset α}
    {first second : α} (left : IsMode samples first) (right : IsMode samples second) :
    first = second := by
  have same := (right.most first).antisymm (left.most second)
  exact Std.Trichotomous.trichotomous first second (right.least first same)
    (left.least second same.symm)

/-- Searching the distinct samples by their counts finds a mode. -/
theorem isMode_foldl [DecidableEq α] {samples : Multiset α} {entries : List α} {count : α → Nat}
    (counts : ∀ sample, count sample = samples.count sample) (nonempty : samples ≠ 0)
    (same : ∀ sample, sample ∈ entries ↔ sample ∈ samples) (default : α) :
    0 < (entries.foldl (moreFrequent count) (default, 0)).2 ∧
      IsMode samples (entries.foldl (moreFrequent count) (default, 0)).1 := by
  have search := mostFrequent_foldl count (default, 0) entries
  generalize entries.foldl (moreFrequent count) (default, 0) = best at search ⊢
  obtain ⟨first, listed⟩ := Multiset.exists_mem_of_ne_zero nonempty
  have positive : 0 < count first := by
    rw [counts]
    exact Multiset.count_pos.mpr listed
  have counted : 0 < best.2 := positive.trans_le (search.most first ((same first).mpr listed))
  have found : best.1 ∈ entries ∧ best.2 = count best.1 := by
    rcases search.found with start | found
    · rw [start] at counted
      exact (lt_irrefl _ counted).elim
    · exact found
  refine ⟨counted, (same _).mp found.1, fun sample => ?_, fun sample equal => ?_⟩
  · rw [← counts, ← counts, ← found.2]
    by_cases listed : sample ∈ entries
    · exact search.most sample listed
    · rw [counts, Multiset.count_eq_zero.mpr fun member => listed ((same sample).mpr member)]
      exact Nat.zero_le _
  · rw [← counts, ← counts, ← found.2] at equal
    refine search.least sample ((same sample).mpr ?_) equal
    rw [← Multiset.count_pos, ← counts, equal]
    exact counted

end Mode

end Lib
