import Mathlib.Logic.Relation

/-!
# Runs of a labelled system

A run is a finite sequence of labelled steps.  An invariant of every step is an invariant of every
run, and a property that holds at the end of a run but not at its start was established by some step
and has held ever since.
-/

namespace Lib

variable {State Label : Type*} {step : State → Label → State → Prop}

/-- `Run step source labels target`: the labelled steps lead from `source` to `target`. -/
inductive Run (step : State → Label → State → Prop) : State → List Label → State → Prop where
  | nil (state : State) : Run step state [] state
  | snoc {source middle target : State} {labels : List Label} {label : Label} :
      Run step source labels middle → step middle label target →
        Run step source (labels ++ [label]) target

namespace Run

theorem append {source middle target : State} {front back : List Label}
    (first : Run step source front middle) (second : Run step middle back target) :
    Run step source (front ++ back) target := by
  induction second with
  | nil => simpa using first
  | snoc _ last ih => simpa [← List.append_assoc] using ih.snoc last

theorem single {source target : State} {label : Label} (only : step source label target) :
    Run step source [label] target :=
  (Run.nil source).snoc only

/-- What every step preserves, every run preserves. -/
theorem preserves {invariant : State → Prop}
    (kept : ∀ source label target, invariant source → step source label target → invariant target)
    {source target : State} {labels : List Label}
    (run : Run step source labels target) (start : invariant source) : invariant target := by
  induction run with
  | nil => exact start
  | snoc _ last ih => exact kept _ _ _ ih last

/-- What every step satisfying a condition preserves, every run of such steps preserves. -/
theorem preserves_of {invariant : State → Prop} {condition : State → Label → Prop}
    (kept : ∀ source label target, invariant source → condition source label →
      step source label target → invariant target)
    {source target : State} {labels : List Label}
    (run : Run (fun before label after => condition before label ∧ step before label after)
      source labels target)
    (start : invariant source) : invariant target :=
  run.preserves (fun source label target holds taken =>
    kept source label target holds taken.1 taken.2) start

/-- The same run under a weaker step relation. -/
theorem mono {other : State → Label → State → Prop}
    (weaker : ∀ source label target, step source label target → other source label target)
    {source target : State} {labels : List Label}
    (run : Run step source labels target) : Run other source labels target := by
  induction run with
  | nil => exact .nil _
  | snoc _ last ih => exact ih.snoc (weaker _ _ _ last)

/-- Steps that agree wherever an invariant of one of them holds make the same runs. -/
theorem iff_of_invariant {invariant : State → Prop} {other : State → Label → State → Prop}
    (agree : ∀ source label target, invariant source →
      (step source label target ↔ other source label target))
    (kept : ∀ source label target, invariant source → step source label target → invariant target)
    {source target : State} {labels : List Label} (start : invariant source) :
    Run step source labels target ↔ Run other source labels target := by
  constructor
  · intro run
    induction run with
    | nil => exact .nil _
    | snoc earlier last ih =>
        exact ih.snoc ((agree _ _ _ (earlier.preserves kept start)).mp last)
  · intro run
    have both : Run step source labels target ∧ invariant target := by
      induction run with
      | nil => exact ⟨.nil _, start⟩
      | snoc earlier last ih =>
          have taken := (agree _ _ _ ih.2).mpr last
          exact ⟨ih.1.snoc taken, kept _ _ _ ih.2 taken⟩
    exact both.1

/-- A property that holds at the end of a run but not at its start was established by one step,
and every later step started from a state where it held. -/
theorem established {property : State → Prop} {source target : State} {labels : List Label}
    (run : Run step source labels target) (absent : ¬ property source)
    (present : property target) :
    ∃ front label back before after, labels = front ++ label :: back ∧
      Run step source front before ∧ step before label after ∧ ¬ property before ∧
      property after ∧
      Run (fun first label second =>
        property first ∧ property second ∧ step first label second) after back target := by
  induction run with
  | nil => exact (absent present).elim
  | @snoc middle target labels label run last ih =>
      by_cases earlier : property middle
      · obtain ⟨front, cause, back, before, after, rfl, lead, made, missing, found, since⟩ :=
          ih earlier
        refine ⟨front, cause, back ++ [label], before, after, by simp, lead, made, missing, found,
          since.snoc ⟨earlier, present, last⟩⟩
      · exact ⟨labels, label, [], middle, target, rfl, run, last, earlier, present, .nil _⟩

end Run

end Lib
