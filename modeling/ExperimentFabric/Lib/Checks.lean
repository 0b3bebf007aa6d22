import Mathlib.Data.List.Basic
import Mathlib.Data.List.Nodup
import Mathlib.Data.List.Induction

/-!
# Sequential checks

A validator runs checks in order and reports the first failure.  `Check ε` is such a validator,
`require` is one check, `forEach` repeats a check along a list and `scan` also shows it the
elements already passed.  Each combinator has one lemma saying when it succeeds, so the success of a
validator unfolds to the conjunction of its conditions.
-/

namespace Lib

variable {ε α β κ : Type}

/-- A sequence of checks reporting its first failure. -/
abbrev Check (ε : Type) := Except ε Unit

/-- Succeed exactly when the condition holds. -/
def require (condition : Bool) (failure : ε) : Except ε Unit :=
  if condition then .ok () else .error failure

/-- Run the second check when the first succeeds. -/
def Check.and (first second : Check ε) : Check ε :=
  match first with
  | .ok () => second
  | .error failure => .error failure

/-- Run a check on every element of a list, in order. -/
def forEach (check : α → Check ε) : List α → Check ε
  | [] => .ok ()
  | head :: rest => (check head).and (forEach check rest)

/-- The value of an option, or a failure when there is none. -/
def demand (value : Option α) (failure : ε) : Except ε α :=
  match value with
  | some found => .ok found
  | none => .error failure

/-- Run checks one after another. -/
def sequence : List (Check ε) → Check ε
  | [] => .ok ()
  | check :: rest => check.and (sequence rest)

/-- Run a check on every element of a list, giving it the elements before that one. -/
def scan (check : List α → α → Check ε) : List α → List α → Check ε
  | _, [] => .ok ()
  | before, item :: rest => (check before item).and (scan check (before ++ [item]) rest)

@[simp]
theorem require_eq_ok (condition : Bool) (failure : ε) :
    require condition failure = .ok () ↔ condition = true := by
  cases condition <;> simp [require]

@[simp]
theorem demand_eq_ok (value : Option α) (failure : ε) (found : α) :
    demand value failure = .ok found ↔ value = some found := by
  cases value <;> simp [demand]

/-- A bind succeeds when both of its halves do. -/
theorem bind_eq_ok (first : Except ε α) (next : α → Except ε β) (result : β) :
    (first >>= next) = .ok result ↔ ∃ value, first = .ok value ∧ next value = .ok result := by
  cases first <;> simp [bind, Except.bind]

/-- A check followed by a computation succeeds when both do. -/
theorem check_bind_eq_ok (check : Except ε Unit) (next : Unit → Except ε α) (result : α) :
    (check >>= next) = .ok result ↔ check = .ok () ∧ next () = .ok result := by
  cases check <;> simp [bind, Except.bind]

@[simp]
theorem require_bind_eq_ok (condition : Bool) (failure : ε) (next : Unit → Except ε α)
    (result : α) :
    (require condition failure >>= next) = .ok result ↔
      condition = true ∧ next () = .ok result := by
  cases condition <;> simp [require, bind, Except.bind]

@[simp]
theorem demand_bind_eq_ok (value : Option α) (failure : ε) (next : α → Except ε β)
    (result : β) :
    (demand value failure >>= next) = .ok result ↔
      ∃ found, value = some found ∧ next found = .ok result := by
  cases value <;> simp [demand, bind, Except.bind]

@[simp]
theorem Check.and_eq_ok (first second : Check ε) :
    first.and second = .ok () ↔ first = .ok () ∧ second = .ok () := by
  cases first <;> simp [Check.and]

@[simp]
theorem forEach_eq_ok (check : α → Check ε) (items : List α) :
    forEach check items = .ok () ↔ ∀ item ∈ items, check item = .ok () := by
  induction items with
  | nil => simp [forEach]
  | cons head rest ih => simp [forEach, ih]

/-- A check of the images of a list is a check of the list. -/
theorem forEach_map (f : α → β) (check : β → Check ε) (items : List α) :
    forEach check (items.map f) = forEach (fun item => check (f item)) items := by
  induction items with
  | nil => rfl
  | cons head rest ih => rw [List.map_cons, forEach, forEach, ih]

/-- A scan of the images of a list is a scan of the list. -/
theorem scan_map (f : α → β) (check : List β → β → Check ε) (before items : List α) :
    scan check (before.map f) (items.map f) =
      scan (fun before item => check (before.map f) (f item)) before items := by
  induction items generalizing before with
  | nil => rfl
  | cons head rest ih =>
      have extended : before.map f ++ [f head] = (before ++ [head]).map f := by simp
      rw [List.map_cons, scan, scan, extended, ih]

theorem scan_append (check : List α → α → Check ε) (before front back : List α) :
    scan check before (front ++ back) =
      (scan check before front).and (scan check (before ++ front) back) := by
  induction front generalizing before with
  | nil => simp [scan, Check.and]
  | cons head rest ih =>
      rw [List.cons_append, scan, scan, ih]
      cases check before head with
      | ok done => simp [Check.and]
      | error failure => rfl

/-- A check that succeeds gives its only value. -/
theorem eq_ok_of_isOk {result : Check ε} (succeeded : result.isOk = true) : result = .ok () := by
  cases result with
  | ok done => rfl
  | error failure => cases succeeded

@[simp]
theorem sequence_nil : sequence ([] : List (Check ε)) = .ok () := rfl

@[simp]
theorem sequence_cons_eq_ok (check : Check ε) (rest : List (Check ε)) :
    sequence (check :: rest) = .ok () ↔ check = .ok () ∧ sequence rest = .ok () :=
  Check.and_eq_ok check (sequence rest)

theorem scan_eq_ok_aux (check : List α → α → Check ε) (before items : List α) :
    scan check before items = .ok () ↔
      ∀ front item back, items = front ++ item :: back → check (before ++ front) item = .ok () := by
  induction items generalizing before with
  | nil => simp [scan]
  | cons head rest ih =>
      simp only [scan, Check.and_eq_ok, ih]
      constructor
      · rintro ⟨first, later⟩ front item back split
        cases front with
        | nil =>
            obtain ⟨rfl, rfl⟩ : head = item ∧ rest = back := by simpa using split
            simpa using first
        | cons other front =>
            obtain ⟨rfl, rfl⟩ : head = other ∧ rest = front ++ item :: back := by
              simpa using split
            simpa using later front item back rfl
      · intro each
        refine ⟨by simpa using each [] head rest rfl, fun front item back split => ?_⟩
        simpa using each (head :: front) item back (by simp [split])

/-- A scan succeeds when every element passes after the elements before it. -/
theorem scan_eq_ok (check : List α → α → Check ε) (items : List α) :
    scan check [] items = .ok () ↔
      ∀ front item back, items = front ++ item :: back → check front item = .ok () := by
  simpa using scan_eq_ok_aux check [] items

/-- Relating every element to those before it is a pairwise relation. -/
theorem forall_split_iff_pairwise (relation : α → α → Prop) (items : List α) :
    (∀ front item back, items = front ++ item :: back →
      ∀ earlier ∈ front, relation earlier item) ↔ items.Pairwise relation := by
  constructor
  · intro each
    induction items using List.reverseRecOn with
    | nil => exact .nil
    | append_singleton front item ih =>
        refine List.pairwise_append.mpr ⟨ih fun left middle back split => ?_, by simp, ?_⟩
        · exact each left middle (back ++ [item]) (by simp [split])
        · intro earlier member last lastMember
          rw [List.mem_singleton.mp lastMember]
          exact each front item [] rfl earlier member
  · rintro ordered front item back rfl earlier member
    exact (List.pairwise_append.mp ordered).2.2 earlier member item List.mem_cons_self

/-- A property of every element, whatever the elements before it. -/
theorem forall_split_iff_forall_mem (property : α → Prop) (items : List α) :
    (∀ front item back, items = front ++ item :: back → property item) ↔
      ∀ item ∈ items, property item := by
  constructor
  · intro each item member
    obtain ⟨front, back, split⟩ := List.append_of_mem member
    exact each front item back split
  · rintro each front item back rfl
    exact each item (by simp)

/-- No element has the key of an element before it. -/
theorem forall_split_iff_nodup (key : α → κ) (items : List α) :
    (∀ front item back, items = front ++ item :: back → key item ∉ front.map key) ↔
      (items.map key).Nodup := by
  rw [List.Nodup, List.pairwise_map, ← forall_split_iff_pairwise]
  simp only [List.mem_map, not_exists, not_and, ne_eq]

/-! ## Failures -/

/-- Every failure of the computation has the property. -/
def Fails (result : Except ε α) (property : ε → Prop) : Prop :=
  ∀ failure, result = .error failure → property failure

namespace Fails

variable {property : ε → Prop}

theorem ok {value : α} : Fails (.ok value) property := fun _ failed => nomatch failed

theorem pure {value : α} : Fails (Pure.pure value : Except ε α) property := ok

theorem require {condition : Bool} {failure : ε} (known : property failure) :
    Fails (Lib.require condition failure) property := by
  cases condition with
  | true => exact ok
  | false => exact fun _ failed => Except.error.inj failed ▸ known

theorem demand {value : Option α} {failure : ε} (known : property failure) :
    Fails (Lib.demand value failure) property := by
  cases value with
  | some found => exact ok
  | none => exact fun _ failed => Except.error.inj failed ▸ known

theorem bind {first : Except ε α} {next : α → Except ε β} (here : Fails first property)
    (later : ∀ value, Fails (next value) property) : Fails (first >>= next) property := by
  cases first with
  | ok value => exact later value
  | error failure => exact fun _ failed => here _ (Except.error.inj failed ▸ rfl)

theorem sequence {checks : List (Check ε)} (each : ∀ check ∈ checks, Fails check property) :
    Fails (Lib.sequence checks) property := by
  induction checks with
  | nil => exact ok
  | cons check rest ih =>
      have later := ih fun other member => each other (List.mem_cons_of_mem _ member)
      intro failure failed
      cases here : check with
      | ok done =>
          rw [Lib.sequence, here] at failed
          exact later failure failed
      | error first =>
          rw [Lib.sequence, here] at failed
          exact each check List.mem_cons_self failure (here.trans failed)

theorem and {first second : Check ε} (here : Fails first property)
    (later : Fails second property) : Fails (first.and second) property := by
  cases first with
  | ok done => exact later
  | error failure => exact here

theorem forEach {check : α → Check ε} (each : ∀ item, Fails (check item) property)
    (items : List α) : Fails (Lib.forEach check items) property := by
  induction items with
  | nil => exact ok
  | cons item rest ih => exact (each item).and ih

end Fails

end Lib
