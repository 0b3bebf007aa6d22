import Mathlib.Algebra.GroupWithZero.Nat
import Mathlib.Order.Basic
import Mathlib.Order.Lattice
import Mathlib.Data.List.Basic
import Mathlib.Data.List.Pairwise
import Mathlib.Data.List.Nodup

/-!
# Ordered finite maps

An ordered map is a list of bindings with strictly increasing keys.  The order is a field of the
structure, so every map has one binding per key, iterates in key order, and is determined by its
lookup function.  The operations are those of an ordered associative container: `emplace` keeps an
existing binding, `assign` overwrites it.
-/

namespace Lib

/-- A finite map presented by its bindings in strictly increasing key order. -/
structure OrderedMap (κ ν : Type*) [LinearOrder κ] where
  /-- Bindings, in iteration order. -/
  entries : List (κ × ν)
  /-- Keys strictly increase along the bindings. -/
  sorted : entries.Pairwise fun left right => left.1 < right.1
  deriving DecidableEq

namespace OrderedMap

variable {κ ν μ : Type*} [LinearOrder κ]

/-- The map without bindings. -/
def empty : OrderedMap κ ν := ⟨[], List.Pairwise.nil⟩

/-- Keys in iteration order. -/
def keys (map : OrderedMap κ ν) : List κ := map.entries.map Prod.fst

/-- Values in iteration order. -/
def values (map : OrderedMap κ ν) : List ν := map.entries.map Prod.snd

/-- Number of bindings. -/
def size (map : OrderedMap κ ν) : Nat := map.entries.length

/-- First binding of a key in a binding list. -/
def lookup (key : κ) : List (κ × ν) → Option ν
  | [] => none
  | (head, value) :: rest => if key = head then some value else lookup key rest

/-- The value bound to a key. -/
def find? (map : OrderedMap κ ν) (key : κ) : Option ν := lookup key map.entries

/-- Insert or overwrite a binding, keeping the keys in order. -/
def assignEntry (key : κ) (value : ν) : List (κ × ν) → List (κ × ν)
  | [] => [(key, value)]
  | (head, old) :: rest =>
      if key < head then (key, value) :: (head, old) :: rest
      else if key = head then (key, value) :: rest
      else (head, old) :: assignEntry key value rest

theorem mem_assignEntry {key : κ} {value : ν} {binding : κ × ν} {entries : List (κ × ν)}
    (member : binding ∈ assignEntry key value entries) :
    binding = (key, value) ∨ binding ∈ entries := by
  induction entries with
  | nil => simpa [assignEntry] using member
  | cons head rest ih =>
      obtain ⟨headKey, old⟩ := head
      simp only [assignEntry] at member
      split at member
      · simpa using member
      · split at member
        · rcases List.mem_cons.mp member with here | there
          · exact .inl here
          · exact .inr (List.mem_cons_of_mem _ there)
        · rcases List.mem_cons.mp member with here | there
          · exact .inr (here ▸ List.mem_cons_self)
          · exact (ih there).imp id (List.mem_cons_of_mem _)

theorem assignEntry_sorted {key : κ} {value : ν} {entries : List (κ × ν)}
    (ordered : entries.Pairwise fun left right => left.1 < right.1) :
    (assignEntry key value entries).Pairwise fun left right => left.1 < right.1 := by
  induction entries with
  | nil => simp [assignEntry]
  | cons head rest ih =>
      obtain ⟨headKey, old⟩ := head
      have ⟨below, tailOrdered⟩ := List.pairwise_cons.mp ordered
      simp only [assignEntry]
      split
      · rename_i before
        refine List.pairwise_cons.mpr ⟨?_, ordered⟩
        intro other member
        rcases List.mem_cons.mp member with rfl | later
        · exact before
        · exact before.trans (below other later)
      · split
        · rename_i same
          subst same
          exact List.pairwise_cons.mpr ⟨below, tailOrdered⟩
        · rename_i notBefore notSame
          refine List.pairwise_cons.mpr ⟨?_, ih tailOrdered⟩
          intro other member
          rcases mem_assignEntry member with rfl | later
          · exact lt_of_le_of_ne (not_lt.mp notBefore) (Ne.symm notSame)
          · exact below other later

/-- Bind a key to a value, replacing an existing binding. -/
def assign (map : OrderedMap κ ν) (key : κ) (value : ν) : OrderedMap κ ν :=
  ⟨assignEntry key value map.entries, assignEntry_sorted map.sorted⟩

/-- Bind a key to a value unless it is already bound. -/
def emplace (map : OrderedMap κ ν) (key : κ) (value : ν) : OrderedMap κ ν :=
  if (map.find? key).isSome then map else map.assign key value

/-- Remove the binding of a key. -/
def erase (map : OrderedMap κ ν) (key : κ) : OrderedMap κ ν :=
  ⟨map.entries.filter (·.1 ≠ key), map.sorted.filter _⟩

/-- Apply a function to every value. -/
def mapValues (map : OrderedMap κ ν) (f : ν → μ) : OrderedMap κ μ :=
  ⟨map.entries.map fun binding => (binding.1, f binding.2), by
    simpa [List.pairwise_map] using map.sorted⟩

/-- Apply a function to the value of one key, when it is bound. -/
def modify (map : OrderedMap κ ν) (key : κ) (f : ν → ν) : OrderedMap κ ν :=
  ⟨map.entries.map fun binding => (binding.1, if binding.1 = key then f binding.2 else binding.2), by
    simpa [List.pairwise_map] using map.sorted⟩

/-- Visit the values in iteration order, replacing each one and threading an accumulator. -/
def traverseEntries {σ : Type*} (visit : σ → ν → σ × μ) : σ → List (κ × ν) → σ × List (κ × μ)
  | state, [] => (state, [])
  | state, (key, value) :: rest =>
      let visited := visit state value
      let others := traverseEntries visit visited.1 rest
      (others.1, (key, visited.2) :: others.2)

omit [LinearOrder κ] in
theorem traverseEntries_keys {σ : Type*} (visit : σ → ν → σ × μ) (state : σ)
    (entries : List (κ × ν)) :
    (traverseEntries visit state entries).2.map Prod.fst = entries.map Prod.fst := by
  induction entries generalizing state with
  | nil => rfl
  | cons head rest ih => simp [traverseEntries, ih]

/-- Replace every value in iteration order, threading an accumulator. -/
def traverse {σ : Type*} (map : OrderedMap κ ν) (visit : σ → ν → σ × μ) (state : σ) :
    σ × OrderedMap κ μ :=
  ((traverseEntries visit state map.entries).1,
    ⟨(traverseEntries visit state map.entries).2, by
      have ordered := List.pairwise_map.mpr map.sorted
      rw [← traverseEntries_keys visit state map.entries] at ordered
      exact List.pairwise_map.mp ordered⟩)

/-! ## Lookup -/

@[simp]
theorem find?_empty (key : κ) : (empty : OrderedMap κ ν).find? key = none := rfl

theorem lookup_assignEntry (key other : κ) (value : ν) (entries : List (κ × ν)) :
    lookup other (assignEntry key value entries) =
      if other = key then some value else lookup other entries := by
  induction entries with
  | nil => rfl
  | cons head rest ih =>
      obtain ⟨headKey, old⟩ := head
      simp only [assignEntry]
      split
      · rfl
      · split
        · rename_i same
          subst same
          by_cases found : other = key <;> simp [lookup, found]
        · rename_i notSame
          simp only [lookup, ih]
          by_cases atHead : other = headKey
          · have : other ≠ key := fun equal => notSame (equal.symm.trans atHead)
            simp [atHead, atHead ▸ this]
          · simp [atHead]

@[simp]
theorem find?_assign (map : OrderedMap κ ν) (key other : κ) (value : ν) :
    (map.assign key value).find? other = if other = key then some value else map.find? other :=
  lookup_assignEntry key other value map.entries

@[simp]
theorem find?_assign_self (map : OrderedMap κ ν) (key : κ) (value : ν) :
    (map.assign key value).find? key = some value := by
  rw [find?_assign, if_pos rfl]

theorem find?_emplace (map : OrderedMap κ ν) (key other : κ) (value : ν) :
    (map.emplace key value).find? other =
      if other = key then some ((map.find? key).getD value) else map.find? other := by
  unfold emplace
  split
  · rename_i bound
    obtain ⟨old, found⟩ := Option.isSome_iff_exists.mp bound
    by_cases same : other = key <;> simp [same, found]
  · rename_i unbound
    simp [Option.not_isSome_iff_eq_none.mp unbound]

/-- A binding after an insertion was there before it or is the new one. -/
theorem find?_emplace_cases {map : OrderedMap κ ν} {key other : κ} {value found : ν}
    (bound : (map.emplace key value).find? other = some found) :
    map.find? other = some found ∨ other = key ∧ found = value := by
  rw [find?_emplace] at bound
  split at bound
  · rename_i here
    cases present : map.find? key with
    | some old =>
        rw [present, Option.getD_some] at bound
        exact .inl (here ▸ present.trans bound)
    | none =>
        rw [present, Option.getD_none] at bound
        exact .inr ⟨here, (Option.some.inj bound).symm⟩
  · exact .inl bound

theorem lookup_filter_ne (key other : κ) (entries : List (κ × ν)) :
    lookup other (entries.filter (·.1 ≠ key)) =
      if other = key then none else lookup other entries := by
  induction entries with
  | nil => simp [lookup]
  | cons head rest ih =>
      obtain ⟨headKey, value⟩ := head
      by_cases dropped : headKey = key
      · subst dropped
        rw [List.filter_cons_of_neg (by simp), ih]
        by_cases same : other = headKey <;> simp [lookup, same]
      · rw [List.filter_cons_of_pos (by simpa using dropped)]
        simp only [lookup, ih]
        by_cases same : other = headKey
        · simp [same, dropped]
        · simp [same]

@[simp]
theorem find?_erase (map : OrderedMap κ ν) (key other : κ) :
    (map.erase key).find? other = if other = key then none else map.find? other :=
  lookup_filter_ne key other map.entries

theorem lookup_map (key : κ) (f : κ → ν → μ) (entries : List (κ × ν)) :
    lookup key (entries.map fun binding => (binding.1, f binding.1 binding.2)) =
      (lookup key entries).map (f key) := by
  induction entries with
  | nil => rfl
  | cons head rest ih =>
      simp only [List.map_cons, lookup, ih]
      split
      · rename_i same
        simp [same]
      · rfl

@[simp]
theorem find?_mapValues (map : OrderedMap κ ν) (f : ν → μ) (key : κ) :
    (map.mapValues f).find? key = (map.find? key).map f :=
  lookup_map key (fun _ => f) map.entries

@[simp]
theorem find?_modify (map : OrderedMap κ ν) (key other : κ) (f : ν → ν) :
    (map.modify key f).find? other =
      if other = key then (map.find? key).map f else map.find? other := by
  have found := lookup_map other (fun bound value => if bound = key then f value else value)
    map.entries
  rw [show (map.modify key f).find? other = _ from found]
  by_cases same : other = key
  · simp [same, find?]
  · simp [same, find?]

/-- A binding after a modification is the modified one or was there before. -/
theorem find?_modify_cases {map : OrderedMap κ ν} {key other : κ} {f : ν → ν} {found : ν}
    (bound : (map.modify key f).find? other = some found) :
    (other = key ∧ ∃ old, map.find? key = some old ∧ found = f old) ∨
      other ≠ key ∧ map.find? other = some found := by
  rw [find?_modify] at bound
  split at bound
  · rename_i here
    obtain ⟨old, present, rfl⟩ := Option.map_eq_some_iff.mp bound
    exact .inl ⟨here, old, present, rfl⟩
  · rename_i elsewhere
    exact .inr ⟨elsewhere, bound⟩

theorem lookup_traverseEntries {σ : Type*} (visit : σ → ν → σ × μ) (state : σ) (key : κ)
    (entries : List (κ × ν)) :
    ∃ reached, lookup key (traverseEntries visit state entries).2 =
      (lookup key entries).map fun value => (visit reached value).2 := by
  induction entries generalizing state with
  | nil => exact ⟨state, rfl⟩
  | cons head rest ih =>
      obtain ⟨headKey, value⟩ := head
      simp only [traverseEntries, lookup]
      split
      · exact ⟨state, rfl⟩
      · exact ih (visit state value).1

/-- A traversal changes each value by one visit, under some accumulator. -/
theorem find?_traverse {σ : Type*} (map : OrderedMap κ ν) (visit : σ → ν → σ × μ) (state : σ)
    (key : κ) :
    ∃ reached, (map.traverse visit state).2.find? key =
      (map.find? key).map fun value => (visit reached value).2 :=
  lookup_traverseEntries visit state key map.entries

omit [LinearOrder κ] in
theorem traverseEntries_fst {σ : Type*} (visit : σ → ν → σ × μ) (state : σ)
    (entries : List (κ × ν)) :
    (traverseEntries visit state entries).1 =
      (entries.map Prod.snd).foldl (fun reached value => (visit reached value).1) state := by
  induction entries generalizing state with
  | nil => rfl
  | cons head rest ih => exact ih (visit state head.2).1

/-- The accumulator a traversal ends with. -/
theorem traverse_fst {σ : Type*} (map : OrderedMap κ ν) (visit : σ → ν → σ × μ) (state : σ) :
    (map.traverse visit state).1 =
      map.values.foldl (fun reached value => (visit reached value).1) state :=
  traverseEntries_fst visit state map.entries

/-- What every visit keeps, a traversal keeps. -/
theorem traverse_keeps {σ : Type*} (map : OrderedMap κ ν) (visit : σ → ν → σ × μ)
    {property : σ → Prop}
    (each : ∀ reached value, property reached → property (visit reached value).1) {state : σ}
    (holds : property state) : property (map.traverse visit state).1 := by
  rw [traverse_fst]
  induction map.values generalizing state with
  | nil => exact holds
  | cons value rest ih => exact ih (each state value holds)

theorem mem_entries_of_lookup {key : κ} {value : ν} {entries : List (κ × ν)}
    (found : lookup key entries = some value) : (key, value) ∈ entries := by
  induction entries with
  | nil => simp [lookup] at found
  | cons head rest ih =>
      obtain ⟨headKey, old⟩ := head
      simp only [lookup] at found
      split at found
      · rename_i same
        simp_all
      · exact List.mem_cons_of_mem _ (ih found)

theorem lookup_of_mem_entries {key : κ} {value : ν} {entries : List (κ × ν)}
    (ordered : entries.Pairwise fun left right => left.1 < right.1)
    (member : (key, value) ∈ entries) : lookup key entries = some value := by
  induction entries with
  | nil => simp at member
  | cons head rest ih =>
      obtain ⟨headKey, old⟩ := head
      have ⟨below, tailOrdered⟩ := List.pairwise_cons.mp ordered
      rcases List.mem_cons.mp member with here | there
      · obtain ⟨rfl, rfl⟩ := Prod.mk.inj here
        simp [lookup]
      · have later : headKey < key := below _ there
        simp [lookup, later.ne', ih tailOrdered there]

/-- A binding belongs to the iteration exactly when lookup returns it. -/
theorem mem_entries_iff (map : OrderedMap κ ν) (key : κ) (value : ν) :
    (key, value) ∈ map.entries ↔ map.find? key = some value :=
  ⟨lookup_of_mem_entries map.sorted, mem_entries_of_lookup⟩

theorem mem_values_iff (map : OrderedMap κ ν) (value : ν) :
    value ∈ map.values ↔ ∃ key, map.find? key = some value := by
  simp [values, ← mem_entries_iff]

theorem mem_keys_iff (map : OrderedMap κ ν) (key : κ) :
    key ∈ map.keys ↔ ∃ value, map.find? key = some value := by
  simp [keys, ← mem_entries_iff]

theorem assignEntry_of_forall_lt {key : κ} {value : ν} {entries : List (κ × ν)}
    (below : ∀ binding ∈ entries, binding.1 < key) :
    assignEntry key value entries = entries ++ [(key, value)] := by
  induction entries with
  | nil => rfl
  | cons head rest ih =>
      have first : head.1 < key := below head List.mem_cons_self
      have later := ih fun binding member => below binding (List.mem_cons_of_mem _ member)
      simp [assignEntry, first.not_gt, first.ne', later]

/-- Binding a key beyond all others appends it. -/
theorem entries_assign_of_forall_lt {map : OrderedMap κ ν} {key : κ}
    (below : ∀ binding ∈ map.entries, binding.1 < key) (value : ν) :
    (map.assign key value).entries = map.entries ++ [(key, value)] :=
  assignEntry_of_forall_lt below

/-- A key beyond all others is not bound. -/
theorem find?_of_forall_lt {map : OrderedMap κ ν} {key : κ}
    (below : ∀ binding ∈ map.entries, binding.1 < key) : map.find? key = none := by
  by_contra bound
  obtain ⟨value, found⟩ := Option.ne_none_iff_exists'.mp bound
  exact lt_irrefl key (below _ ((mem_entries_iff map key value).mpr found))

theorem values_emplace_of_forall_lt {map : OrderedMap κ ν} {key : κ}
    (below : ∀ other value, map.find? other = some value → other < key) (value : ν) :
    (map.emplace key value).values = map.values ++ [value] := by
  have before : ∀ binding ∈ map.entries, binding.1 < key := fun binding member =>
    below binding.1 binding.2 ((mem_entries_iff map _ _).mp member)
  rw [emplace, find?_of_forall_lt before]
  simp [values, entries_assign_of_forall_lt before]

/-- Maps with the same lookups are equal. -/
@[ext]
theorem ext {left right : OrderedMap κ ν} (same : ∀ key, left.find? key = right.find? key) :
    left = right := by
  have members : ∀ binding, binding ∈ left.entries ↔ binding ∈ right.entries := by
    rintro ⟨key, value⟩
    rw [mem_entries_iff, mem_entries_iff, same]
  have leftNodup : left.entries.Nodup := left.sorted.imp fun below equal => by
    simp [equal] at below
  have rightNodup : right.entries.Nodup := right.sorted.imp fun below equal => by
    simp [equal] at below
  have entries : left.entries = right.entries :=
    ((List.perm_ext_iff_of_nodup leftNodup rightNodup).mpr members).eq_of_pairwise
      (fun _ _ _ _ forward backward => (lt_asymm forward backward).elim) left.sorted right.sorted
  cases left
  cases right
  simpa using entries

@[simp]
theorem assign_assign (map : OrderedMap κ ν) (key : κ) (first second : ν) :
    (map.assign key first).assign key second = map.assign key second := by
  ext other
  by_cases same : other = key <;> simp [same]

theorem assign_self {map : OrderedMap κ ν} {key : κ} {value : ν}
    (found : map.find? key = some value) : map.assign key value = map := by
  ext1 other
  by_cases same : other = key <;> simp [same, found]

@[simp]
theorem erase_assign (map : OrderedMap κ ν) (key : κ) (value : ν) (absent : map.find? key = none) :
    (map.assign key value).erase key = map := by
  ext other
  by_cases same : other = key <;> simp [same, absent]

@[simp]
theorem modify_modify (map : OrderedMap κ ν) (key : κ) (first second : ν → ν) :
    (map.modify key first).modify key second = map.modify key fun value => second (first value) := by
  ext other
  by_cases same : other = key
  · simp [same, Function.comp_def]
  · simp [same]

/-- Changing a value that is there assigns the changed value. -/
theorem modify_eq_assign {map : OrderedMap κ ν} {key : κ} {value : ν}
    (found : map.find? key = some value) (f : ν → ν) :
    map.modify key f = map.assign key (f value) := by
  refine ext fun other => ?_
  rw [find?_modify, find?_assign]
  split
  · rw [found]
    rfl
  · rfl

/-- Changing a value into itself changes nothing. -/
theorem modify_self {map : OrderedMap κ ν} {key : κ} {f : ν → ν}
    (same : ∀ value, map.find? key = some value → f value = value) : map.modify key f = map := by
  ext1 other
  by_cases here : other = key
  · subst here
    cases found : map.find? other with
    | none => simp [found]
    | some value => simp [found, same value found]
  · simp [here]

@[simp]
theorem mapValues_mapValues {ξ : Type*} (map : OrderedMap κ ν) (f : ν → μ) (g : μ → ξ) :
    (map.mapValues f).mapValues g = map.mapValues fun value => g (f value) := by
  ext1 key
  simp [Function.comp_def]

theorem mapValues_assign (map : OrderedMap κ ν) (f : ν → μ) (key : κ) (value : ν) :
    (map.assign key value).mapValues f = (map.mapValues f).assign key (f value) := by
  refine ext fun other => ?_
  rw [find?_mapValues, find?_assign, find?_assign, find?_mapValues]
  split <;> rfl

theorem entries_mapValues (map : OrderedMap κ ν) (f : ν → μ) :
    (map.mapValues f).entries = map.entries.map fun binding => (binding.1, f binding.2) := rfl

theorem values_mapValues (map : OrderedMap κ ν) (f : ν → μ) :
    (map.mapValues f).values = map.values.map f := by
  simp [values, mapValues, Function.comp_def]

theorem keys_nodup (map : OrderedMap κ ν) : map.keys.Nodup := by
  have strict : (map.entries.map Prod.fst).Pairwise (· < ·) :=
    List.pairwise_map.mpr map.sorted
  exact strict.imp fun below => below.ne

@[simp]
theorem size_mapValues (map : OrderedMap κ ν) (f : ν → μ) : (map.mapValues f).size = map.size := by
  simp [size, mapValues]

@[simp]
theorem size_modify (map : OrderedMap κ ν) (key : κ) (f : ν → ν) :
    (map.modify key f).size = map.size := by
  simp [size, modify]

/-! ## Counting values -/

/-- No value satisfies the property. -/
theorem countP_values_eq_zero {map : OrderedMap κ ν} {property : ν → Bool}
    (none_ : ∀ key value, map.find? key = some value → property value = false) :
    map.values.countP property = 0 := by
  rw [List.countP_eq_zero]
  intro value member
  obtain ⟨key, found⟩ := (mem_values_iff map value).mp member
  simp [none_ key value found]

/-- Exactly the value of one key satisfies the property. -/
theorem countP_values_eq_one {map : OrderedMap κ ν} {property : ν → Bool} {key : κ} {value : ν}
    (found : map.find? key = some value) (holds : property value = true)
    (only : ∀ other value', map.find? other = some value' → property value' = true →
      other = key) : map.values.countP property = 1 := by
  have nodup : map.entries.Nodup := map.sorted.imp fun below equal => by
    simp [equal] at below
  have members : ∀ binding, binding ∈ map.entries.filter (fun binding => property binding.2) ↔
      binding ∈ [(key, value)] := by
    rintro ⟨other, value'⟩
    simp only [List.mem_filter, mem_entries_iff, List.mem_singleton, Prod.mk.injEq]
    constructor
    · rintro ⟨lookup, satisfied⟩
      obtain rfl := only other value' lookup satisfied
      exact ⟨rfl, Option.some.inj (lookup.symm.trans found)⟩
    · rintro ⟨rfl, rfl⟩
      exact ⟨found, holds⟩
  have same := ((List.perm_ext_iff_of_nodup (nodup.filter _) (List.nodup_singleton _)).mpr
    members).length_eq
  rw [values, List.countP_map, List.countP_eq_length_filter]
  simpa [Function.comp_def] using same

/-- Values are counted by their keys. -/
theorem countP_values (map : OrderedMap κ ν) (property : ν → Bool) :
    map.values.countP property = map.keys.countP fun key => (map.find? key).any property := by
  rw [values, keys, List.countP_map, List.countP_map]
  refine List.countP_congr fun binding member => ?_
  have found := (mem_entries_iff map binding.1 binding.2).mp member
  simp [found]

theorem assignEntry_split {key : κ} (value : ν) {entries : List (κ × ν)}
    (ordered : entries.Pairwise fun left right => left.1 < right.1) :
    ∃ front back, entries.map Prod.snd = front ++ (lookup key entries).toList ++ back ∧
      (assignEntry key value entries).map Prod.snd = front ++ value :: back := by
  induction entries with
  | nil => exact ⟨[], [], rfl, rfl⟩
  | cons head rest ih =>
      obtain ⟨headKey, old⟩ := head
      obtain ⟨below, orderedRest⟩ := List.pairwise_cons.mp ordered
      by_cases before : key < headKey
      · have absent : lookup key ((headKey, old) :: rest) = none := by
          by_contra bound
          obtain ⟨found, lookupFound⟩ := Option.ne_none_iff_exists'.mp bound
          rcases List.mem_cons.mp (mem_entries_of_lookup lookupFound) with here | later
          · cases here
            exact lt_irrefl _ before
          · exact lt_asymm before (below _ later)
        refine ⟨[], old :: rest.map Prod.snd, ?_, ?_⟩
        · simp [absent]
        · simp [assignEntry, before]
      · by_cases same : key = headKey
        · subst same
          exact ⟨[], rest.map Prod.snd, by simp [lookup], by simp [assignEntry]⟩
        · obtain ⟨front, back, held, assigned⟩ := ih orderedRest
          refine ⟨old :: front, back, ?_, ?_⟩
          · simp [lookup, same, held]
          · simp [assignEntry, before, same, assigned]

/-- Assigning a key puts its value where the old one was. -/
theorem values_assign (map : OrderedMap κ ν) (key : κ) (value : ν) :
    ∃ front back, map.values = front ++ (map.find? key).toList ++ back ∧
      (map.assign key value).values = front ++ value :: back :=
  assignEntry_split value map.sorted

/-- Assigning a key adds one value unless the key is bound. -/
theorem size_assign (map : OrderedMap κ ν) (key : κ) (value : ν) :
    (map.assign key value).size + (map.find? key).toList.length = map.size + 1 := by
  obtain ⟨front, back, held, assigned⟩ := map.values_assign key value
  have before := congrArg List.length held
  have after := congrArg List.length assigned
  simp only [values, List.length_map, List.length_append, List.length_cons] at before after
  rw [size, size, before, after]
  omega

theorem emplace_absent {map : OrderedMap κ ν} {key : κ} (absent : map.find? key = none)
    (value : ν) : map.emplace key value = map.assign key value := by
  rw [emplace, absent]
  rfl

/-- Binding an absent key adds its value to the values. -/
theorem values_emplace {map : OrderedMap κ ν} {key : κ} (absent : map.find? key = none)
    (value : ν) : ∃ front back, map.values = front ++ back ∧
      (map.emplace key value).values = front ++ value :: back := by
  obtain ⟨front, back, held, assigned⟩ := map.values_assign key value
  rw [absent, Option.toList_none, List.append_nil] at held
  rw [emplace_absent absent]
  exact ⟨front, back, held, assigned⟩

/-- Replacing a value changes a sum over the values by the difference of the two. -/
theorem sum_values_assign {map : OrderedMap κ ν} {key : κ} {old : ν}
    (found : map.find? key = some old) (value : ν) (weight : ν → Nat) :
    ((map.assign key value).values.map weight).sum + weight old =
      (map.values.map weight).sum + weight value := by
  obtain ⟨front, back, held, assigned⟩ := map.values_assign key value
  rw [held, assigned, found]
  simp only [Option.toList, List.map_append, List.map_cons, List.map_nil, List.sum_append,
    List.sum_cons, List.sum_nil]
  omega

/-! ## Relating two maps -/

/-- Every binding of the first map has one in the second, related to it. -/
def Extends (related : ν → ν → Prop) (old new : OrderedMap κ ν) : Prop :=
  ∀ key value, old.find? key = some value → ∃ value', new.find? key = some value' ∧
    related value value'

/-- The maps bind the same keys to related values. -/
structure Evolves (related : ν → ν → Prop) (old new : OrderedMap κ ν) : Prop where
  extends_ : Extends related old new
  absent : ∀ key, old.find? key = none → new.find? key = none

section Evolves

variable {related : ν → ν → Prop} {map old middle new : OrderedMap κ ν}

theorem Extends.refl (reflexive : ∀ value, related value value) : Extends related map map :=
  fun _ value found => ⟨value, found, reflexive value⟩

theorem Extends.trans (transitive : ∀ first second third, related first second →
    related second third → related first third) (earlier : Extends related old middle)
    (later : Extends related middle new) : Extends related old new := by
  intro key value found
  obtain ⟨second, reached, step⟩ := earlier key value found
  obtain ⟨third, ended, last⟩ := later key second reached
  exact ⟨third, ended, transitive value second third step last⟩

theorem Evolves.refl (reflexive : ∀ value, related value value) : Evolves related map map :=
  ⟨.refl reflexive, fun _ absent => absent⟩

theorem Evolves.trans (transitive : ∀ first second third, related first second →
    related second third → related first third) (earlier : Evolves related old middle)
    (later : Evolves related middle new) : Evolves related old new :=
  ⟨earlier.extends_.trans transitive later.extends_,
    fun key absent => later.absent key (earlier.absent key absent)⟩

/-- A binding of the second map comes from one of the first. -/
theorem Evolves.source (evolves : Evolves related old new) {key : κ} {value' : ν}
    (found : new.find? key = some value') :
    ∃ value, old.find? key = some value ∧ related value value' := by
  cases before : old.find? key with
  | none => exact nomatch (evolves.absent key before).symm.trans found
  | some value =>
      obtain ⟨reached, lookup, step⟩ := evolves.extends_ key value before
      obtain rfl := Option.some.inj (lookup.symm.trans found)
      exact ⟨value, rfl, step⟩

/-- A view that no value changes is the same before and after. -/
theorem Evolves.view {view : ν → μ} (evolves : Evolves related old new)
    (kept : ∀ value value', related value value' → view value' = view value) :
    new.values.map view = old.values.map view := by
  have same : new.mapValues view = old.mapValues view := by
    refine ext fun key => ?_
    rw [find?_mapValues, find?_mapValues]
    cases before : old.find? key with
    | none => rw [evolves.absent key before]
    | some value =>
        obtain ⟨value', found, step⟩ := evolves.extends_ key value before
        rw [found, Option.map_some, Option.map_some, kept value value' step]
  rw [← values_mapValues, ← values_mapValues, same]

theorem Evolves.keys (evolves : Evolves related old new) : new.keys = old.keys := by
  have same : new.mapValues (fun _ => ()) = old.mapValues fun _ => () := by
    refine ext fun key => ?_
    rw [find?_mapValues, find?_mapValues]
    cases before : old.find? key with
    | none => rw [evolves.absent key before]
    | some value =>
        obtain ⟨value', found, -⟩ := evolves.extends_ key value before
        rw [found, Option.map_some, Option.map_some]
  have bound := congrArg (fun map => map.entries.map Prod.fst) same
  simpa [OrderedMap.keys, mapValues, Function.comp_def] using bound

/-- A property that no value gains holds of at most as many values as before. -/
theorem Evolves.countP_le {property : ν → Bool} (evolves : Evolves related old new)
    (each : ∀ value value', related value value' → property value' = true →
      property value = true) : new.values.countP property ≤ old.values.countP property := by
  rw [countP_values, countP_values, evolves.keys]
  refine List.countP_mono_left fun key member holds => ?_
  obtain ⟨value', found, satisfied⟩ := (Option.any_eq_true _ _).mp holds
  obtain ⟨value, before, step⟩ := evolves.source found
  rw [before]
  exact each value value' step satisfied

theorem Evolves.mapValues {f : ν → ν} (each : ∀ value, related value (f value)) :
    Evolves related map (map.mapValues f) where
  extends_ := fun key value found => ⟨f value, by simp [found], each value⟩
  absent := fun key absent => by simp [absent]

theorem Evolves.traverse {σ : Type*} {visit : σ → ν → σ × ν} {state : σ}
    (each : ∀ reached value, related value (visit reached value).2) :
    Evolves related map (map.traverse visit state).2 where
  extends_ := fun key value found => by
    obtain ⟨reached, visited⟩ := map.find?_traverse visit state key
    exact ⟨(visit reached value).2, by rw [visited, found]; rfl, each reached value⟩
  absent := fun key absent => by
    obtain ⟨reached, visited⟩ := map.find?_traverse visit state key
    rw [visited, absent]
    rfl

theorem Evolves.modify (reflexive : ∀ value, related value value) {key : κ} {f : ν → ν}
    (there : ∀ value, map.find? key = some value → related value (f value)) :
    Evolves related map (map.modify key f) where
  extends_ := fun other value found => by
    by_cases here : other = key
    · subst here
      exact ⟨f value, by simp [found], there value found⟩
    · exact ⟨value, by simp [here, found], reflexive value⟩
  absent := fun other absent => by
    by_cases here : other = key
    · subst here
      simp [absent]
    · simp [here, absent]

/-- Replacing the value of one bound key by a related one. -/
theorem Evolves.assign (reflexive : ∀ value, related value value) {key : κ} {before after : ν}
    (found : map.find? key = some before) (step : related before after) :
    Evolves related map (map.assign key after) where
  extends_ := fun other value lookup => by
    by_cases here : other = key
    · subst here
      obtain rfl := Option.some.inj (found.symm.trans lookup)
      exact ⟨after, by simp, step⟩
    · exact ⟨value, by simp [here, lookup], reflexive value⟩
  absent := fun other absent => by
    have different : other ≠ key := fun same => by simp [same, found] at absent
    simp [different, absent]

theorem Evolves.mono {weaker : ν → ν → Prop} (evolves : Evolves related old new)
    (imply : ∀ value value', related value value' → weaker value value') :
    Evolves weaker old new where
  extends_ := fun key value found => by
    obtain ⟨value', reached, step⟩ := evolves.extends_ key value found
    exact ⟨value', reached, imply value value' step⟩
  absent := evolves.absent

/-- A map with one more binding extends the map. -/
theorem Extends.emplace (reflexive : ∀ value, related value value) {key : κ} {added : ν} :
    Extends related map (map.emplace key added) := by
  intro other value found
  refine ⟨value, ?_, reflexive value⟩
  rw [find?_emplace]
  by_cases here : other = key
  · subst here
    simp [found]
  · simp [here, found]

end Evolves

end OrderedMap

end Lib
