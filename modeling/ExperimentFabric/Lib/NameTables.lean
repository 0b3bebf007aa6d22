import Mathlib.Data.List.Nodup

/-!
# Name tables

A table lists values with their names and is searched from the front in both directions.  Where it
lists every value once and gives no name twice, the two searches are inverse to each other.
-/

namespace Lib

/-- Values with their names. -/
structure NameTable (α Name : Type) where
  /-- The entries, in the order of the search. -/
  entries : List (α × Name)

namespace NameTable

variable {α Name : Type} [DecidableEq α] [DecidableEq Name]

/-- The name of a value, or the name of unlisted values. -/
def lookup (table : NameTable α Name) (unknown : Name) (value : α) : Name :=
  ((table.entries.find? (·.1 = value)).map Prod.snd).getD unknown

/-- The value of a name. -/
def reverse (table : NameTable α Name) (name : Name) : Option α :=
  (table.entries.find? (·.2 = name)).map Prod.fst

/-- The listed values. -/
def values (table : NameTable α Name) : List α := table.entries.map Prod.fst

/-- The names in use. -/
def names (table : NameTable α Name) : List Name := table.entries.map Prod.snd

/-- No value is listed twice and no name is used twice. -/
structure Sound (table : NameTable α Name) : Prop where
  values : table.values.Nodup
  names : table.names.Nodup

instance (table : NameTable α Name) : Decidable table.Sound :=
  decidable_of_iff (table.values.Nodup ∧ table.names.Nodup)
    ⟨fun both => ⟨both.1, both.2⟩, fun sound => ⟨sound.values, sound.names⟩⟩

variable {table : NameTable α Name}

omit [DecidableEq α] [DecidableEq Name] in
/-- A search by a key that no two entries share finds the entry. -/
theorem find?_of_mem {Key : Type} [DecidableEq Key] {key : α × Name → Key}
    {entries : List (α × Name)} (distinct : (entries.map key).Nodup) {entry : α × Name}
    (listed : entry ∈ entries) : entries.find? (fun other => key other = key entry) = some entry := by
  induction entries with
  | nil => cases listed
  | cons first rest ih =>
      rw [List.map_cons, List.nodup_cons] at distinct
      rcases List.mem_cons.mp listed with rfl | later
      · simp
      · have apart : key first ≠ key entry := fun same =>
          distinct.1 (same ▸ List.mem_map_of_mem later)
        simp only [List.find?_cons, apart, decide_false]
        exact ih distinct.2 later

omit [DecidableEq Name] in
theorem lookup_of_mem (sound : table.Sound) {unknown : Name} {entry : α × Name}
    (listed : entry ∈ table.entries) : table.lookup unknown entry.1 = entry.2 := by
  rw [lookup, find?_of_mem (show (table.entries.map Prod.fst).Nodup from sound.values) listed]
  rfl

omit [DecidableEq α] in
theorem reverse_of_mem (sound : table.Sound) {entry : α × Name} (listed : entry ∈ table.entries) :
    table.reverse entry.2 = some entry.1 := by
  rw [reverse, find?_of_mem (show (table.entries.map Prod.snd).Nodup from sound.names) listed]
  rfl

/-- A name is read as the value it was written for. -/
theorem reverse_lookup (sound : table.Sound) (unknown : Name) {value : α}
    (listed : value ∈ table.values) : table.reverse (table.lookup unknown value) = some value := by
  obtain ⟨entry, member, rfl⟩ := List.mem_map.mp listed
  rw [lookup_of_mem sound member, reverse_of_mem sound member]

/-- A name that is read is the name of the value it is read as. -/
theorem lookup_of_reverse (sound : table.Sound) (unknown : Name) {name : Name} {value : α}
    (read : table.reverse name = some value) :
    value ∈ table.values ∧ table.lookup unknown value = name := by
  obtain ⟨entry, found, rfl⟩ := Option.map_eq_some_iff.mp read
  have member := List.mem_of_find?_eq_some found
  have same : entry.2 = name := by simpa using List.find?_some found
  exact ⟨List.mem_map_of_mem member, by rw [lookup_of_mem sound member, same]⟩

/-- A name is read as a value exactly when the value is listed under it. -/
theorem reverse_eq_some_iff (sound : table.Sound) (unknown : Name) {name : Name} {value : α} :
    table.reverse name = some value ↔
      value ∈ table.values ∧ table.lookup unknown value = name := by
  constructor
  · exact lookup_of_reverse sound unknown
  · rintro ⟨listed, rfl⟩
    exact reverse_lookup sound unknown listed

end NameTable

end Lib
