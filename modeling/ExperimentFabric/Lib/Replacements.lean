import Mathlib.Logic.Function.Basic
import Mathlib.Data.List.Basic

/-!
# Replacing a file through a temporary one

A program changes the files of a directory by single operations, and may be stopped between any two
of them.  New contents that are written to a temporary file, piece by piece, and then take the name
of the target in one operation, are never seen in part under that name.  Attempts made one after
another leave the contents of the last one that went through.
-/

namespace Lib

variable {ν α β γ : Type*}

/-- The files of a directory: the contents under each name. -/
abbrev Files (ν α : Type*) := ν → Option (List α)

/-- An operation on the files of a directory. -/
inductive FileOperation (ν α : Type*) where
  | truncate (name : ν)
  | append (name : ν) (contents : List α)
  | remove (name : ν)
  | rename (source target : ν)

/-- What is held after several outcomes, of which each may replace what was held before. -/
def lastHeld (held : Option β) (outcomes : List (Option β)) : Option β :=
  outcomes.foldl (fun held outcome => outcome.or held) held

@[simp]
theorem lastHeld_nil (held : Option β) : lastHeld held [] = held := rfl

@[simp]
theorem lastHeld_cons (held outcome : Option β) (later : List (Option β)) :
    lastHeld held (outcome :: later) = lastHeld (outcome.or held) later := rfl

theorem lastHeld_append (held : Option β) (first second : List (Option β)) :
    lastHeld held (first ++ second) = lastHeld (lastHeld held first) second :=
  List.foldl_append

theorem map_lastHeld (change : β → γ) (held : Option β) (outcomes : List (Option β)) :
    (lastHeld held outcomes).map change =
      lastHeld (held.map change) (outcomes.map (Option.map change)) := by
  induction outcomes generalizing held with
  | nil => rfl
  | cons outcome later ih =>
      rw [lastHeld_cons, ih, List.map_cons, lastHeld_cons]
      cases outcome <;> rfl

namespace FileOperation

section Perform

variable [DecidableEq ν]

/-- Carry out an operation. -/
def perform : FileOperation ν α → Files ν α → Files ν α
  | truncate name, files => Function.update files name (some [])
  | append name contents, files =>
      Function.update files name ((files name).map (· ++ contents))
  | remove name, files => Function.update files name none
  | rename source target, files =>
      match files source with
      | none => files
      | some contents => Function.update (Function.update files source none) target (some contents)

/-- Carry out operations one after another. -/
def performAll (operations : List (FileOperation ν α)) (files : Files ν α) : Files ν α :=
  operations.foldl (fun reached operation => operation.perform reached) files

@[simp]
theorem performAll_nil (files : Files ν α) : performAll [] files = files := rfl

@[simp]
theorem performAll_cons (operation : FileOperation ν α) (operations : List (FileOperation ν α))
    (files : Files ν α) :
    performAll (operation :: operations) files = performAll operations (operation.perform files) :=
  rfl

theorem performAll_append (first second : List (FileOperation ν α)) (files : Files ν α) :
    performAll (first ++ second) files = performAll second (performAll first files) :=
  List.foldl_append

end Perform

/-- The operation may change the file of that name. -/
def Touches (other : ν) : FileOperation ν α → Prop
  | truncate name => name = other
  | append name _ => name = other
  | remove name => name = other
  | rename source target => source = other ∨ target = other

section Untouched

variable [DecidableEq ν] {operations : List (FileOperation ν α)} {other : ν}

theorem perform_untouched {operation : FileOperation ν α} (apart : ¬ operation.Touches other)
    (files : Files ν α) : operation.perform files other = files other := by
  cases operation with
  | truncate name => exact Function.update_of_ne (fun same => apart same.symm) _ _
  | append name contents => exact Function.update_of_ne (fun same => apart same.symm) _ _
  | remove name => exact Function.update_of_ne (fun same => apart same.symm) _ _
  | rename source target =>
      obtain ⟨first, second⟩ := not_or.mp apart
      rw [perform]
      cases files source with
      | none => rfl
      | some contents =>
          exact (Function.update_of_ne (fun same => second same.symm) _ _).trans
            (Function.update_of_ne (fun same => first same.symm) _ _)

/-- Operations on other files leave a file alone. -/
theorem performAll_untouched (apart : ∀ operation ∈ operations, ¬ operation.Touches other)
    (files : Files ν α) : performAll operations files other = files other := by
  induction operations generalizing files with
  | nil => rfl
  | cons operation rest ih =>
      rw [performAll_cons, ih fun later member => apart later (List.mem_cons_of_mem _ member)]
      exact perform_untouched (apart operation List.mem_cons_self) files

/-- Removing files removes them and no others. -/
theorem performAll_remove (names : List ν) (files : Files ν α) (other : ν) :
    performAll (names.map remove) files other = if other ∈ names then none else files other := by
  induction names generalizing files with
  | nil => simp
  | cons name rest ih =>
      rw [List.map_cons, performAll_cons, ih, perform]
      by_cases same : other = name <;> simp [same]

end Untouched

/-! ## Replacing a file -/

/-- Write a file from the start, piece by piece. -/
def writing (name : ν) (pieces : List (List α)) : List (FileOperation ν α) :=
  truncate name :: pieces.map (append name)

/-- Write a temporary file and give it the name of the target. -/
def replacing (target temporary : ν) (pieces : List (List α)) : List (FileOperation ν α) :=
  writing temporary pieces ++ [rename temporary target]

theorem writing_apart {name other : ν} (different : name ≠ other) (pieces : List (List α)) :
    ∀ operation ∈ writing name pieces, ¬ operation.Touches other := by
  intro operation member
  rcases List.mem_cons.mp member with rfl | member
  · exact different
  · obtain ⟨piece, -, rfl⟩ := List.mem_map.mp member
    exact different

section Replaces

variable [DecidableEq ν] {target : ν}

theorem performAll_appends {name : ν} {files : Files ν α} {contents : List α}
    (present : files name = some contents) (pieces : List (List α)) :
    performAll (pieces.map (append name)) files name = some (contents ++ pieces.flatten) := by
  induction pieces generalizing files contents with
  | nil => simpa using present
  | cons piece rest ih =>
      have longer : (append name piece).perform files name = some (contents ++ piece) := by
        rw [perform, Function.update_self, present, Option.map_some]
      rw [List.map_cons, performAll_cons, ih longer, List.flatten_cons, List.append_assoc]

/-- A file that was written holds its pieces. -/
theorem performAll_writing (name : ν) (pieces : List (List α)) (files : Files ν α) :
    performAll (writing name pieces) files name = some pieces.flatten :=
  performAll_appends (Function.update_self ..) pieces

/-- The operations leave the target alone until the last of them, which gives it the contents of the
outcome, if there are any. -/
structure Replaces (target : ν) (operations : List (FileOperation ν α))
    (outcome : Option (List α)) : Prop where
  before : ∀ files done, done < operations.length →
    performAll (operations.take done) files target = files target
  after : ∀ files, performAll operations files target = outcome.or (files target)

theorem replaces_of_untouched {operations : List (FileOperation ν α)}
    (apart : ∀ operation ∈ operations, ¬ operation.Touches target) :
    Replaces target operations none where
  before files _ _ := performAll_untouched
    (fun operation member => apart operation (List.mem_of_mem_take member)) files
  after files := performAll_untouched apart files

/-- Writing a temporary file and renaming it replaces the target by the whole contents. -/
theorem replacing_replaces {temporary : ν} (different : temporary ≠ target)
    (pieces : List (List α)) :
    Replaces target (replacing target temporary pieces) (some pieces.flatten) where
  before files done early := by
    have short : done ≤ (writing temporary pieces).length := by
      rw [replacing, List.length_append, List.length_singleton] at early
      omega
    rw [replacing, List.take_append_of_le_length short]
    exact performAll_untouched (fun operation member =>
      writing_apart different pieces operation (List.mem_of_mem_take member)) files
  after files := by
    rw [replacing, performAll_append, performAll_cons, performAll_nil, perform,
      performAll_writing temporary pieces files]
    exact Function.update_self ..

/-- However many operations of several attempts were carried out, the target holds what some number
of whole attempts leave: all of them, if nothing was left to carry out. -/
theorem performAll_take_attempts {attempts : List β} {operations : β → List (FileOperation ν α)}
    {outcome : β → Option (List α)}
    (each : ∀ attempt ∈ attempts, Replaces target (operations attempt) (outcome attempt))
    (files : Files ν α) (done : Nat) :
    ∃ whole ≤ attempts.length,
      performAll ((attempts.flatMap operations).take done) files target =
        lastHeld (files target) ((attempts.take whole).map outcome) ∧
      ((attempts.flatMap operations).length ≤ done → whole = attempts.length) := by
  induction attempts generalizing files done with
  | nil => exact ⟨0, Nat.le_refl 0, by simp, fun _ => rfl⟩
  | cons attempt later ih =>
      have first := each attempt List.mem_cons_self
      by_cases early : done < (operations attempt).length
      · refine ⟨0, Nat.zero_le _, ?_, fun finished => ?_⟩
        · rw [List.flatMap_cons, List.take_append_of_le_length (Nat.le_of_lt early)]
          exact first.before files done early
        · rw [List.flatMap_cons, List.length_append] at finished
          omega
      · obtain ⟨whole, bounded, reached, finished⟩ :=
          ih (fun other member => each other (List.mem_cons_of_mem _ member))
            (performAll (operations attempt) files) (done - (operations attempt).length)
        refine ⟨whole + 1, Nat.succ_le_succ bounded, ?_, fun enough => ?_⟩
        · rw [List.flatMap_cons, List.take_append, List.take_of_length_le (Nat.not_lt.mp early),
            performAll_append, reached, first.after, List.take_succ_cons, List.map_cons,
            lastHeld_cons]
        · rw [List.flatMap_cons, List.length_append] at enough
          rw [finished (by omega), List.length_cons]

end Replaces

end FileOperation

end Lib
