import Mathlib.Data.List.Basic
import ExperimentFabric.Lib.Runs

/-!
# Ledgers

A ledger follows a run and records what its steps do; some steps drop everything recorded so far.
A fact that every recorded entry starts with and every step keeps holds of all entries of the ledger,
and entries that are told apart from everything the state vouches for are told apart for good.
-/

namespace Lib

variable {State Label Entry : Type*}

/-- The ledger of a run.  A step may depend on the entries before it; it records entries, or drops
the ledger. -/
inductive Ledger (step : List Entry → State → Label → State → Prop)
    (records : State → Label → List Entry) (keeps : Label → Bool) (start : State) :
    List Entry → State → Prop where
  | empty : Ledger step records keeps start [] start
  | snoc {entries : List Entry} {source target : State} {label : Label}
      (earlier : Ledger step records keeps start entries source)
      (last : step entries source label target) :
      Ledger step records keeps start
        (if keeps label then entries ++ records source label else []) target

namespace Ledger

variable {step : List Entry → State → Label → State → Prop}
  {records : State → Label → List Entry} {keeps : Label → Bool} {start state : State}
  {entries : List Entry}

/-- A ledger belongs to a run. -/
theorem run (ledger : Ledger step records keeps start entries state)
    {plain : State → Label → State → Prop}
    (weaker : ∀ entries source label target, step entries source label target →
      plain source label target) : ∃ labels, Run plain start labels state := by
  induction ledger with
  | empty => exact ⟨[], .nil start⟩
  | snoc _ last ih =>
      obtain ⟨labels, run⟩ := ih
      exact ⟨_, run.snoc (weaker _ _ _ _ last)⟩

/-- What holds of an entry when it is recorded, and is kept by every step, holds of all entries. -/
theorem holds {property : State → Entry → Prop}
    (recorded : ∀ {entries source label target entry},
      Ledger step records keeps start entries source → step entries source label target →
        keeps label = true → entry ∈ records source label → property target entry)
    (kept : ∀ {entries source label target entry},
      Ledger step records keeps start entries source → step entries source label target →
        keeps label = true → property source entry → property target entry)
    (ledger : Ledger step records keeps start entries state) :
    ∀ entry ∈ entries, property state entry := by
  induction ledger with
  | empty => exact fun _ member => (List.not_mem_nil member).elim
  | @snoc _ source target label earlier last ih =>
      intro entry member
      split at member
      · rename_i stays
        rcases List.mem_append.mp member with old | new
        · exact kept earlier last stays (ih entry old)
        · exact recorded earlier last stays new
      · exact (List.not_mem_nil member).elim

/-- What the ledger vouches for when an entry is recorded, and keeps vouching for, holds of all
entries. -/
theorem grounded {property : List Entry → Entry → Prop}
    (grows : ∀ {entries more entry}, property entries entry → property (entries ++ more) entry)
    (recorded : ∀ {entries source label target entry},
      Ledger step records keeps start entries source → step entries source label target →
        entry ∈ records source label → property entries entry)
    (ledger : Ledger step records keeps start entries state) :
    ∀ entry ∈ entries, property entries entry := by
  induction ledger with
  | empty => exact fun _ member => (List.not_mem_nil member).elim
  | snoc earlier last ih =>
      split
      · intro entry member
        rcases List.mem_append.mp member with old | new
        · exact grows (ih entry old)
        · exact grows (recorded earlier last new)
      · exact fun _ member => (List.not_mem_nil member).elim

/-- Entries told apart from all earlier ones when they are recorded stay apart. -/
theorem pairwise {apart : Entry → Entry → Prop}
    (recorded : ∀ {entries source label target},
      Ledger step records keeps start entries source → step entries source label target →
        (records source label).Pairwise apart ∧
          ∀ old ∈ entries, ∀ new ∈ records source label, apart old new)
    (ledger : Ledger step records keeps start entries state) : entries.Pairwise apart := by
  induction ledger with
  | empty => exact .nil
  | snoc earlier last ih =>
      split
      · obtain ⟨new, across⟩ := recorded earlier last
        exact List.pairwise_append.mpr ⟨ih, new, across⟩
      · exact .nil

end Ledger

end Lib
