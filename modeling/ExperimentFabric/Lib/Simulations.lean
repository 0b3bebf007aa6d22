import Mathlib.Control.Monad.Basic

/-!
# Computations that record events

A computation over a state may record each of its operations.  `Emits` is the logic of what it
records and returns.  `Follows` compares it with a computation over another state, which from
related states returns the same value and keeps the states related as long as every recorded event
is admitted.  Both are kept by sequencing, so that they pass from the operations of a program to the
program.
-/

namespace Lib

variable {σ τ ε α β : Type}

/-- Run a computation and record an event about its value. -/
def record (event : α → ε) (computation : StateM σ α) : StateM (σ × List ε) α := fun state =>
  let (value, after) := computation.run state.1
  (value, after, state.2 ++ [event value])

/-- A computation that differs from one use to the next, with the number of uses in its state. -/
def scheduled (computations : Nat → StateM σ α) : StateM (σ × Nat) α := fun state =>
  let (value, after) := (computations state.2).run state.1
  (value, after, state.2 + 1)

/-- The computation appends to its record, and what it appends and returns satisfies a condition. -/
def Emits (computation : StateM (σ × List ε) α) (post : List ε → α → Prop) : Prop :=
  ∀ state events, ∃ value after segment,
    computation.run (state, events) = (value, after, events ++ segment) ∧ post segment value

namespace Emits

variable {post : List ε → α → Prop}

theorem pure {value : α} (holds : post [] value) :
    Emits (Pure.pure value : StateM (σ × List ε) α) post :=
  fun state events => ⟨value, state, [], by rw [List.append_nil]; rfl, holds⟩

theorem record (event : α → ε) (computation : StateM σ α) :
    Emits (Lib.record event computation) fun segment value => segment = [event value] :=
  fun state _ => ⟨(computation.run state).1, (computation.run state).2, _, rfl, rfl⟩

/-- The rest of a computation extends what was recorded before it. -/
theorem bind {computation : StateM (σ × List ε) α} {continued : α → StateM (σ × List ε) β}
    {last : List ε → β → Prop} (first : Emits computation post)
    (rest : ∀ segment value, post segment value →
      Emits (continued value) fun later result => last (segment ++ later) result) :
    Emits (computation >>= continued) last := by
  intro state events
  obtain ⟨value, middle, early, ran, holds⟩ := first state events
  obtain ⟨result, after, late, finished, ends⟩ := rest early value holds middle (events ++ early)
  refine ⟨result, after, early ++ late, ?_, ends⟩
  rw [StateT.run_bind, ran, ← List.append_assoc, ← finished]
  rfl

theorem mono {weaker : List ε → α → Prop} {computation : StateM (σ × List ε) α}
    (emits : Emits computation post)
    (weakens : ∀ segment value, post segment value → weaker segment value) :
    Emits computation weaker := by
  intro state events
  obtain ⟨value, after, segment, ran, holds⟩ := emits state events
  exact ⟨value, after, segment, ran, weakens segment value holds⟩

/-- What a computation has recorded when it starts with an empty record. -/
theorem run {computation : StateM (σ × List ε) α} (emits : Emits computation post) (state : σ) :
    post (computation.run (state, [])).2.2 (computation.run (state, [])).1 := by
  obtain ⟨value, after, segment, ran, holds⟩ := emits state []
  rw [ran]
  exact holds

end Emits

/-- From related states the second computation does what the first does, as long as the events that
the first records are admitted. -/
def Follows (admits : ε → Prop) (rel : σ → τ → Prop) (recorded : StateM (σ × List ε) α)
    (other : StateM τ α) : Prop :=
  ∀ state events, ∃ value after segment,
    recorded.run (state, events) = (value, after, events ++ segment) ∧
    ∀ place, rel state place → (∀ event ∈ segment, admits event) →
      ∃ later, other.run place = (value, later) ∧ rel after later

namespace Follows

variable {admits : ε → Prop} {rel : σ → τ → Prop}

theorem pure (value : α) :
    Follows admits rel (Pure.pure value : StateM (σ × List ε) α) (Pure.pure value) :=
  fun state _ => ⟨value, state, [], by rw [List.append_nil]; rfl, fun place related _ =>
    ⟨place, rfl, related⟩⟩

/-- Two operations of which only the first is recorded. -/
theorem record {event : α → ε} {computation : StateM σ α} {other : StateM τ α}
    (same : ∀ state place, rel state place → admits (event (computation.run state).1) →
      (other.run place).1 = (computation.run state).1 ∧
        rel (computation.run state).2 (other.run place).2) :
    Follows admits rel (Lib.record event computation) other := by
  intro state events
  refine ⟨(computation.run state).1, (computation.run state).2, [event (computation.run state).1],
    rfl, fun place related admitted => ?_⟩
  obtain ⟨value, stays⟩ := same state place related (admitted _ (List.mem_singleton_self _))
  exact ⟨(other.run place).2, Prod.ext value rfl, stays⟩

theorem bind {recorded : StateM (σ × List ε) α} {other : StateM τ α}
    {continued : α → StateM (σ × List ε) β} {resumed : α → StateM τ β}
    (first : Follows admits rel recorded other)
    (rest : ∀ value, Follows admits rel (continued value) (resumed value)) :
    Follows admits rel (recorded >>= continued) (other >>= resumed) := by
  intro state events
  obtain ⟨value, middle, early, ran, followed⟩ := first state events
  obtain ⟨result, after, late, finished, settles⟩ := rest value middle (events ++ early)
  refine ⟨result, after, early ++ late, ?_, fun place related admitted => ?_⟩
  · rw [StateT.run_bind, ran, ← List.append_assoc, ← finished]
    rfl
  · obtain ⟨met, reached, meets⟩ := followed place related fun event recorded =>
      admitted event (List.mem_append_left late recorded)
    rw [StateT.run_bind, reached]
    exact settles met meets fun event recorded =>
      admitted event (List.mem_append_right early recorded)

theorem ite {condition : Prop} [Decidable condition]
    {recorded unrecorded : StateM (σ × List ε) α} {other another : StateM τ α}
    (yes : Follows admits rel recorded other) (no : Follows admits rel unrecorded another) :
    Follows admits rel (if condition then recorded else unrecorded)
      (if condition then other else another) := by
  split
  · exact yes
  · exact no

/-- The two computations side by side, the first one with an empty record. -/
theorem run {recorded : StateM (σ × List ε) α} {other : StateM τ α}
    (follows : Follows admits rel recorded other) {state : σ} {place : τ}
    (related : rel state place)
    (admitted : ∀ event ∈ (recorded.run (state, [])).2.2, admits event) :
    (other.run place).1 = (recorded.run (state, [])).1 ∧
      rel (recorded.run (state, [])).2.1 (other.run place).2 := by
  obtain ⟨value, after, segment, ran, followed⟩ := follows state []
  rw [ran] at admitted ⊢
  obtain ⟨later, reached, stays⟩ := followed place related admitted
  rw [reached]
  exact ⟨rfl, stays⟩

end Follows

/-- From a state with the precondition the computation returns what the postcondition says. -/
def Ensures (pre : σ → Prop) (computation : StateM σ α) (post : α → σ → Prop) : Prop :=
  ∀ state, pre state → post (computation.run state).1 (computation.run state).2

namespace Ensures

variable {pre : σ → Prop} {post : α → σ → Prop}

theorem pure {value : α} (holds : ∀ state, pre state → post value state) :
    Ensures pre (Pure.pure value : StateM σ α) post := holds

theorem bind {computation : StateM σ α} {continued : α → StateM σ β} {last : β → σ → Prop}
    (first : Ensures pre computation post)
    (rest : ∀ value, Ensures (post value) (continued value) last) :
    Ensures pre (computation >>= continued) last :=
  fun state holds => rest _ _ (first state holds)

theorem ite {condition : Prop} [Decidable condition] {computation other : StateM σ α}
    (yes : condition → Ensures pre computation post) (no : ¬ condition → Ensures pre other post) :
    Ensures pre (if condition then computation else other) post := by
  split
  · exact yes ‹_›
  · exact no ‹_›

theorem mono {weaker : α → σ → Prop} {computation : StateM σ α}
    (ensures : Ensures pre computation post)
    (weakens : ∀ value state, post value state → weaker value state) :
    Ensures pre computation weaker :=
  fun state holds => weakens _ _ (ensures state holds)

theorem strengthen {stronger : σ → Prop} {computation : StateM σ α}
    (ensures : Ensures pre computation post) (implies : ∀ state, stronger state → pre state) :
    Ensures stronger computation post :=
  fun state holds => ensures state (implies state holds)

theorem and {other : σ → Prop} {also : α → σ → Prop} {computation : StateM σ α}
    (left : Ensures pre computation post) (right : Ensures other computation also) :
    Ensures (fun state => pre state ∧ other state) computation
      fun value state => post value state ∧ also value state :=
  fun state holds => ⟨left state holds.1, right state holds.2⟩

/-- A computation may be followed from one state at a time. -/
theorem pointwise {computation : StateM σ α}
    (each : ∀ state, pre state → Ensures (fun start => start = state) computation post) :
    Ensures pre computation post :=
  fun state holds => each state holds state rfl

/-- What holds of every use holds of a computation that differs from use to use. -/
theorem scheduled {computations : Nat → StateM σ α}
    (each : ∀ turn, Ensures pre (computations turn) post) :
    Ensures (fun state => pre state.1) (Lib.scheduled computations)
      fun value state => post value state.1 :=
  fun state holds => each state.2 state.1 holds

end Ensures

end Lib
