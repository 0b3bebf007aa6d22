import Mathlib.Data.List.Nodup
import Mathlib.Data.List.Perm.Basic

/-!
# Overlays

Entries with distinct keys laid over others, and the nearest of several layers that declares
something.
-/

namespace Lib

/-! ## Entries with distinct keys -/

section Keyed

variable {α κ : Type*} [DecidableEq κ] {key : α → κ}

theorem find?_key_eq_some_iff {entries : List α} (distinct : (entries.map key).Nodup) {wanted : κ}
    {entry : α} :
    entries.find? (key · = wanted) = some entry ↔ entry ∈ entries ∧ key entry = wanted := by
  constructor
  · intro found
    have named := List.find?_some found
    exact ⟨List.mem_of_find?_eq_some found, of_decide_eq_true named⟩
  · rintro ⟨member, rfl⟩
    cases found : entries.find? (key · = key entry) with
    | none =>
        have absent := List.find?_eq_none.mp found entry member
        simp at absent
    | some other =>
        have same := List.find?_some found
        rw [List.inj_on_of_nodup_map distinct (List.mem_of_find?_eq_some found) member
          (of_decide_eq_true same)]

theorem find?_key_perm {entries others : List α} (distinct : (entries.map key).Nodup)
    (perm : others.Perm entries) (wanted : κ) :
    others.find? (key · = wanted) = entries.find? (key · = wanted) := by
  have distinct' : (others.map key).Nodup := (perm.map key).nodup_iff.mpr distinct
  ext entry
  rw [find?_key_eq_some_iff distinct, find?_key_eq_some_iff distinct', perm.mem_iff]

/-- Entries in increasing order of their keys are determined by what is found under each key. -/
theorem eq_of_find?_key_eq [LT κ] [Std.Asymm fun left right : κ => left < right]
    {entries others : List α}
    (sorted : (entries.map key).Pairwise (· < ·)) (sorted' : (others.map key).Pairwise (· < ·))
    (same : ∀ wanted, entries.find? (key · = wanted) = others.find? (key · = wanted)) :
    entries = others := by
  have apart : ∀ {left right : κ}, left < right → left ≠ right :=
    fun {left right} less equal => Std.Asymm.asymm left right less (equal ▸ less)
  have distinct : (entries.map key).Nodup := sorted.imp apart
  have distinct' : (others.map key).Nodup := sorted'.imp apart
  have perm : entries.Perm others := by
    refine (List.perm_ext_iff_of_nodup distinct.of_map distinct'.of_map).mpr fun entry => ?_
    have found := same (key entry)
    constructor
    · intro member
      rw [(find?_key_eq_some_iff distinct).mpr ⟨member, rfl⟩] at found
      exact ((find?_key_eq_some_iff distinct').mp found.symm).1
    · intro member
      rw [(find?_key_eq_some_iff distinct').mpr ⟨member, rfl⟩] at found
      exact ((find?_key_eq_some_iff distinct).mp found).1
  refine perm.eq_of_pairwise ?_ (List.pairwise_map.mp sorted) (List.pairwise_map.mp sorted')
  exact fun left right _ _ less more => (Std.Asymm.asymm (key left) (key right) less more).elim

/-- Lay an entry over others: drop those with its key, and append it. -/
def overlay (key : α → κ) (entries : List α) (entry : α) : List α :=
  entries.filter (key · ≠ key entry) ++ [entry]

theorem foldl_overlay {layer : List α} (distinct : (layer.map key).Nodup) (entries : List α) :
    layer.foldl (overlay key) entries =
      entries.filter (fun entry => key entry ∉ layer.map key) ++ layer := by
  induction layer generalizing entries with
  | nil => simp
  | cons first rest ih =>
      obtain ⟨fresh, distinct⟩ := List.nodup_cons.mp distinct
      rw [List.foldl_cons, ih distinct, overlay, List.filter_append, List.filter_filter,
        List.append_assoc]
      congr 1
      · refine List.filter_congr fun entry _ => ?_
        rw [List.map_cons, Bool.eq_iff_iff]
        simp [and_comm]
      · rw [List.filter_singleton, decide_eq_true fresh]
        rfl

theorem nodup_foldl_overlay {layer entries : List α} (distinct : (layer.map key).Nodup)
    (distinct' : (entries.map key).Nodup) :
    ((layer.foldl (overlay key) entries).map key).Nodup := by
  rw [foldl_overlay distinct, List.map_append, List.nodup_append]
  refine ⟨distinct'.sublist (List.filter_sublist.map key), distinct, ?_⟩
  rintro _ member _ above rfl
  obtain ⟨entry, kept, rfl⟩ := List.mem_map.mp member
  have absent := (List.mem_filter.mp kept).2
  exact of_decide_eq_true absent above

/-- The layer hides what lies under its keys, and nothing else. -/
theorem find?_foldl_overlay {layer entries : List α} (distinct : (layer.map key).Nodup)
    (wanted : κ) :
    (layer.foldl (overlay key) entries).find? (key · = wanted) =
      (layer.find? (key · = wanted)).or (entries.find? (key · = wanted)) := by
  rw [foldl_overlay distinct, List.find?_append]
  cases above : layer.find? (key · = wanted) with
  | none =>
      rw [Option.or_none, Option.none_or, List.find?_filter]
      congr 1
      funext entry
      have absent := List.find?_eq_none.mp above
      by_cases same : key entry = wanted
      · have free : key entry ∉ layer.map key := by
          intro member
          obtain ⟨other, listed, equal⟩ := List.mem_map.mp member
          exact absent other listed (decide_eq_true (equal.trans same))
        rw [decide_eq_true free]
        simp
      · simp [same]
  | some entry =>
      have listed := List.mem_of_find?_eq_some above
      have named := List.find?_some above
      have hidden : (entries.filter fun entry => key entry ∉ layer.map key).find?
          (key · = wanted) = none := by
        refine List.find?_eq_none.mpr fun other kept same => ?_
        have absent := of_decide_eq_true (List.mem_filter.mp kept).2
        have equal := (of_decide_eq_true named).trans (of_decide_eq_true same).symm
        exact absent (List.mem_map.mpr ⟨entry, listed, equal⟩)
      rw [hidden]
      rfl

end Keyed

/-! ## Lists with one entry of a kind -/

section Single

variable {α : Type*}

/-- A permutation of a list of at most one entry is that list. -/
theorem perm_eq_of_length_le_one {entries others : List α} (single : entries.length ≤ 1)
    (perm : others.Perm entries) : others = entries := by
  cases entries with
  | nil => exact perm.eq_nil
  | cons entry rest =>
      rw [List.length_cons] at single
      obtain rfl : rest = [] := List.length_eq_zero_iff.mp (by omega)
      exact List.perm_singleton.mp perm

/-- When one entry at most is wanted, the order does not decide which one is found. -/
theorem find?_perm_of_countP_le_one {wanted : α → Bool} {entries others : List α}
    (single : entries.countP wanted ≤ 1) (perm : others.Perm entries) :
    others.find? wanted = entries.find? wanted := by
  rw [← List.head?_filter, ← List.head?_filter]
  rw [List.countP_eq_length_filter] at single
  rw [perm_eq_of_length_le_one single (perm.filter wanted)]

end Single

/-! ## The nearest layer -/

section Nearest

variable {Layer β : Type*} {declares : Layer → Option β} {near beyond : List Layer}

/-- What a layer beyond declares, a near one declares too. -/
def Covered (declares : Layer → Option β) (near beyond : List Layer) : Prop :=
  ∀ layer ∈ beyond, (declares layer).isSome = true → ∃ other ∈ near, (declares other).isSome = true

/-- What holds of the nearest declaration among the near layers, and of none when these declare
nothing, holds of the nearest of all layers exactly when the near ones cover those beyond. -/
theorem nearest_iff_covered {property : β → Prop}
    (held : ∀ value, near.findSome? declares = some value → property value)
    (lacks : near.findSome? declares = none → ∀ layer ∈ beyond, ∀ value,
      declares layer = some value → ¬ property value) :
    (∀ value, (near ++ beyond).findSome? declares = some value → property value) ↔
      Covered declares near beyond := by
  rw [List.findSome?_append]
  cases nearest : near.findSome? declares with
  | some value =>
      have covered : Covered declares near beyond := by
        intro layer _ _
        obtain ⟨other, listed, declared⟩ := List.exists_of_findSome?_eq_some nearest
        exact ⟨other, listed, by rw [declared]; rfl⟩
      refine iff_of_true ?_ covered
      rintro _ ⟨⟩
      exact held value nearest
  | none =>
      have absent := List.findSome?_eq_none_iff.mp nearest
      rw [Option.none_or]
      constructor
      · intro holds layer listed declared
        obtain ⟨value, first⟩ : ∃ value, beyond.findSome? declares = some value := by
          rw [← Option.isSome_iff_exists, List.isSome_findSome?, List.any_eq_true]
          exact ⟨layer, listed, declared⟩
        obtain ⟨source, among, same⟩ := List.exists_of_findSome?_eq_some first
        exact (lacks nearest source among value same (holds value first)).elim
      · intro covered value first
        obtain ⟨source, among, same⟩ := List.exists_of_findSome?_eq_some first
        obtain ⟨other, listed, declared⟩ := covered source among (by rw [same]; rfl)
        rw [absent other listed] at declared
        exact nomatch declared

end Nearest

end Lib
