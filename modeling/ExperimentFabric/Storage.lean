import ExperimentFabric.Coordinator
import ExperimentFabric.Persistence
import ExperimentFabric.Lib.Replacements

/-!
# The state image on disk

A state is saved by writing its image to a temporary file of the same directory and renaming that
file to the state path.  The storage chooses which step of a save fails, in which pieces the image
arrives, and whether a temporary file can be removed.  A process may stop between any two file
operations; the operations it has made are seen in their order.
-/

namespace ExperimentFabric

open Lib

namespace Persistence

/-- The files of the state directory. -/
abbrev Directory := Files Text UInt8

/-- An operation on the state directory. -/
abbrev DirectoryOperation := FileOperation Text UInt8

/-- The last component of a path. -/
def filename (path : Text) : Text := (path.reverse.takeWhile (· ≠ 0x2F)).reverse

/-- What the names of the temporary images of a path begin with. -/
def temporaryPrefix (path : Text) : Text := filename path ++ text ".tmp."

/-- The temporary file of a save; saves are numbered within a process. -/
def temporaryName (path : Text) (sequence : Nat) : Text :=
  temporaryPrefix path ++ decimal sequence

/-- How the storage lets one save go. -/
structure SaveCourse where
  /-- The step that fails. -/
  fault : Option SaveFault := none
  /-- The number of the save within its process. -/
  sequence : Nat
  /-- The pieces in which an image is written. -/
  pieces : Text → List Text
  /-- The pieces make up the image. -/
  whole : ∀ image, (pieces image).flatten = image
  /-- How many pieces arrive before a write that fails. -/
  arrived : Nat := 0
  /-- A failed save can remove its temporary file. -/
  removed : Bool := true

variable {R : Type}

/-- The file operations of a save. -/
def SaveCourse.operations (course : SaveCourse) (path image : Text) : List DirectoryOperation :=
  let temporary := temporaryName path course.sequence
  let cleanup := if course.removed then [FileOperation.remove temporary] else []
  match course.fault with
  | none => FileOperation.replacing (filename path) temporary (course.pieces image)
  | some .directory | some .openTemporary => []
  | some .writeTemporary | some .closeTemporary =>
      FileOperation.writing temporary ((course.pieces image).take course.arrived) ++ cleanup
  | some .replace => FileOperation.writing temporary (course.pieces image) ++ cleanup

section Save

variable [BitPattern R]

/-- Save a state: the file operations it makes, and its status. -/
def save (path : Text) (state : CoordinatorState R) (limits : Limits) (course : SaveCourse) :
    List DirectoryOperation × Result Unit :=
  match serialize state limits with
  | .error failure => ([], .error failure)
  | .ok image =>
      (course.operations path image, match course.fault with
        | none => .ok ()
        | some fault => .error fault.status)

/-- The ways reading a state image can fail before it is decoded. -/
inductive ReadFault where
  | size | openImage | short
  deriving DecidableEq

/-- Failure reported for a fault. -/
def ReadFault.status : ReadFault → Status
  | size => ioFailure "cannot determine the size of the state image"
  | openImage => ioFailure "cannot open the state image for reading"
  | short => corrupt "state image could not be read in full"

/-- Load the state at a path. -/
def load [MetricReal R] (path : Text) (directory : Directory) (limits : Limits)
    (fault : Option ReadFault) : Result (CoordinatorState R) :=
  match directory (filename path) with
  | none => .error ⟨.notFound, .persistence, text "no persisted state image exists"⟩
  | some bytes => do
      require (fault ≠ some .size) ReadFault.size.status
      require (bytes.length ≤ limits.maxStateFileBytes)
        (limitsError "state image exceeds the configured bound")
      require (fault ≠ some .openImage) ReadFault.openImage.status
      require (fault ≠ some .short) ReadFault.short.status
      deserialize bytes limits

end Save

/-- What is loaded was decoded from the file at the path. -/
theorem load_eq_ok [BitPattern R] [MetricReal R] {path : Text} {directory : Directory}
    {limits : Limits} {fault : Option ReadFault} {loaded : CoordinatorState R}
    (read : load path directory limits fault = .ok loaded) :
    ∃ bytes, directory (filename path) = some bytes ∧ deserialize bytes limits = .ok loaded := by
  unfold load at read
  split at read
  · cases read
  · rename_i bytes present
    simp only [require_bind_eq_ok] at read
    exact ⟨bytes, present, read.2.2.2.2⟩

/-- Remove the temporary images that earlier saves left: the file operations made, and how many
files they remove.  `listed` are the names in the directory, as they are enumerated. -/
def discardTemporaryImages (path : Text) (listed : List Text) (removable : Text → Bool) :
    List DirectoryOperation × Nat :=
  let removed := listed.filter fun name => (temporaryPrefix path).isPrefixOf name && removable name
  (removed.map FileOperation.remove, removed.length)

/-! ## A save replaces the image or leaves it alone -/

theorem filename_ne_of_prefix {path name : Text}
    (begins : (temporaryPrefix path).isPrefixOf name = true) : name ≠ filename path := by
  rintro rfl
  have shorter := (List.isPrefixOf_iff_prefix.mp begins).length_le
  have longer : (temporaryPrefix path).length = (filename path).length + 5 := List.length_append
  omega

theorem temporaryName_ne (path : Text) (sequence : Nat) :
    temporaryName path sequence ≠ filename path :=
  filename_ne_of_prefix (List.isPrefixOf_iff_prefix.mpr (List.prefix_append _ _))

/-- A save touches its temporary file, and renames it to the state path only if nothing fails. -/
theorem SaveCourse.operations_touch (course : SaveCourse) (path image : Text) {name : Text}
    (other : name ≠ temporaryName path course.sequence)
    (kept : name ≠ filename path ∨ course.fault ≠ none) :
    ∀ operation ∈ course.operations path image, ¬ operation.Touches name := by
  have written := FileOperation.writing_apart (α := UInt8) other.symm
  have cleaned : ∀ operation ∈ (if course.removed then
      [FileOperation.remove (temporaryName path course.sequence)] else [] :
        List DirectoryOperation), ¬ operation.Touches name := by
    intro operation member
    split at member
    · rw [List.mem_singleton.mp member]
      exact other.symm
    · cases member
  intro operation member
  unfold operations at member
  cases failed : course.fault with
  | none =>
      rw [failed] at member
      rcases List.mem_append.mp member with member | member
      · exact written _ operation member
      · rw [List.mem_singleton.mp member]
        have differs := kept.resolve_right fun fails => fails failed
        exact not_or.mpr ⟨other.symm, differs.symm⟩
  | some fault =>
      rw [failed] at member
      cases fault with
      | directory => cases member
      | openTemporary => cases member
      | writeTemporary =>
          exact (List.mem_append.mp member).elim (written _ operation) (cleaned operation)
      | closeTemporary =>
          exact (List.mem_append.mp member).elim (written _ operation) (cleaned operation)
      | replace =>
          exact (List.mem_append.mp member).elim (written _ operation) (cleaned operation)

/-- The operations of a save replace the image by the new one if nothing fails, and leave it alone
otherwise. -/
theorem SaveCourse.operations_replace (course : SaveCourse) (path image : Text) :
    FileOperation.Replaces (filename path) (course.operations path image)
      (if course.fault = none then some image else none) := by
  by_cases succeeds : course.fault = none
  · have replaced := FileOperation.replacing_replaces (temporaryName_ne path course.sequence)
      (course.pieces image)
    rw [course.whole] at replaced
    rw [if_pos succeeds]
    unfold operations
    rwa [succeeds]
  · rw [if_neg succeeds]
    exact FileOperation.replaces_of_untouched
      (course.operations_touch path image (temporaryName_ne path course.sequence).symm
        (.inr succeeds))

section Attempts

variable [BitPattern R] {limits : Limits} {state : CoordinatorState R} {path : Text}

theorem serialize_eq_ok {written : Text} (serialized : serialize state limits = .ok written) :
    written = image state := by
  simp only [serialize, require_bind_eq_ok] at serialized
  exact (Except.ok.inj serialized.2.2).symm

/-- A save replaces the image of the path by the image of its state exactly if it succeeds. -/
theorem save_replaces (path : Text) (state : CoordinatorState R) (limits : Limits)
    (course : SaveCourse) :
    FileOperation.Replaces (filename path) (save path state limits course).1
      (if (save path state limits course).2 = .ok () then some (image state) else none) := by
  unfold save
  split
  · exact FileOperation.replaces_of_untouched nofun
  · rename_i written serialized
    have replaced := course.operations_replace path written
    cases failed : course.fault with
    | none =>
        rw [failed, if_pos rfl] at replaced
        rwa [if_pos rfl, ← serialize_eq_ok serialized]
    | some fault =>
        rw [failed, if_neg nofun] at replaced
        rwa [if_neg nofun]

theorem save_touches (path : Text) (state : CoordinatorState R) (limits : Limits)
    (course : SaveCourse) {name : Text} (target : name ≠ filename path)
    (temporary : (temporaryPrefix path).isPrefixOf name = false) :
    ∀ operation ∈ (save path state limits course).1, ¬ operation.Touches name := by
  unfold save
  split
  · nofun
  · refine course.operations_touch path _ ?_ (.inl target)
    rintro rfl
    exact Bool.false_ne_true (temporary.symm.trans
      (List.isPrefixOf_iff_prefix.mpr (List.prefix_append _ _)))

/-- A save that is stopped after `made` of its file operations. -/
structure StoppedSave (R : Type) where
  state : CoordinatorState R
  course : SaveCourse
  made : Nat

/-- The file operations of a stopped save. -/
def StoppedSave.operations (stopped : StoppedSave R) (path : Text) (limits : Limits) :
    List DirectoryOperation :=
  (save path stopped.state limits stopped.course).1.take stopped.made

/-- Discarding removes the listed temporary images and no other file. -/
theorem discarded_apply (path : Text) (listed : List Text) (directory : Directory) (name : Text) :
    FileOperation.performAll (discardTemporaryImages path listed fun _ => true).1 directory name =
      if name ∈ listed ∧ (temporaryPrefix path).isPrefixOf name = true then none
      else directory name := by
  refine (FileOperation.performAll_remove _ directory name).trans ?_
  simp [List.mem_filter]

/-- Wherever saves are stopped, the file at the path is the one there was or the whole image of a
state whose save succeeded. -/
theorem stoppedSaves_image (stopped : List (StoppedSave R)) (directory : Directory) :
    let left := FileOperation.performAll
      (stopped.flatMap fun save => save.operations path limits) directory
    left (filename path) = directory (filename path) ∨
      ∃ attempt ∈ stopped, (save path attempt.state limits attempt.course).2 = .ok () ∧
        left (filename path) = some (image attempt.state) := by
  induction stopped generalizing directory with
  | nil => exact .inl rfl
  | cons first later ih =>
      intro left
      have split : left = FileOperation.performAll
          (later.flatMap fun save => save.operations path limits)
          (FileOperation.performAll (first.operations path limits) directory) := by
        rw [← FileOperation.performAll_append]
        rfl
      rw [split]
      rcases ih (FileOperation.performAll (first.operations path limits) directory) with
        unchanged | ⟨attempt, member, succeeded, replaced⟩
      · rw [unchanged]
        have replaces := save_replaces path first.state limits first.course
        by_cases early : first.made < (save path first.state limits first.course).1.length
        · exact .inl (replaces.before directory first.made early)
        · rw [StoppedSave.operations, List.take_of_length_le (Nat.not_lt.mp early),
            replaces.after]
          split
          · rename_i succeeded
            exact .inr ⟨first, List.mem_cons_self, succeeded, rfl⟩
          · exact .inl rfl
      · exact .inr ⟨attempt, List.mem_cons_of_mem _ member, succeeded, replaced⟩

/-- Stopped saves touch the file at the path and temporary images only. -/
theorem stoppedSaves_others (stopped : List (StoppedSave R)) (directory : Directory) {name : Text}
    (different : name ≠ filename path)
    (temporary : (temporaryPrefix path).isPrefixOf name = false) :
    FileOperation.performAll (stopped.flatMap fun save => save.operations path limits) directory
      name = directory name := by
  refine FileOperation.performAll_untouched (fun operation member => ?_) directory
  obtain ⟨attempt, -, made⟩ := List.mem_flatMap.mp member
  exact save_touches path attempt.state limits attempt.course different temporary operation
    (List.mem_of_mem_take made)

/-- After any saves, each stopped anywhere, and once the temporary images are discarded, the file at
the path is the one there was or the whole image of a state whose save succeeded, no temporary image
is left, and every other file is as it was. -/
theorem stopped_saves_discarded (path : Text) (limits : Limits) (stopped : List (StoppedSave R))
    (directory : Directory) {listed : List Text} {left : Directory}
    (saved : left = FileOperation.performAll
      (stopped.flatMap fun save => save.operations path limits) directory)
    (complete : ∀ name, left name ≠ none → name ∈ listed) :
    let clean := FileOperation.performAll
      (discardTemporaryImages path listed fun _ => true).1 left
    (clean (filename path) = directory (filename path) ∨
      ∃ attempt ∈ stopped, (save path attempt.state limits attempt.course).2 = .ok () ∧
        clean (filename path) = some (image attempt.state)) ∧
    ∀ name, name ≠ filename path →
      clean name = if (temporaryPrefix path).isPrefixOf name then none else directory name := by
  intro clean
  have discarded := discarded_apply path listed left
  have kept : ∀ name, (temporaryPrefix path).isPrefixOf name = false → clean name = left name := by
    intro name other
    exact (discarded name).trans
      (if_neg fun listed => Bool.false_ne_true (other.symm.trans listed.2))
  have target : (temporaryPrefix path).isPrefixOf (filename path) = false :=
    Bool.eq_false_iff.mpr fun begins => filename_ne_of_prefix begins rfl
  refine ⟨?_, fun name different => ?_⟩
  · rw [kept _ target, saved]
    exact stoppedSaves_image stopped directory
  · split
    · rename_i begins
      refine (discarded name).trans ?_
      split
      · rfl
      · rename_i unlisted
        exact not_not.mp fun present => unlisted ⟨complete name present, begins⟩
    · rename_i other
      rw [Bool.not_eq_true] at other
      rw [kept name other, saved]
      exact stoppedSaves_others stopped directory different other

end Attempts

/-- A save is stopped when it has created its temporary image, which is then discarded. -/
theorem stopped_saves_discarded_sample :
    let course : SaveCourse :=
      { sequence := 1, pieces := fun image => [image], whole := List.append_nil }
    let left : Directory := FileOperation.performAll
      [FileOperation.truncate (temporaryName (text "s") 1)] fun _ => none
    let clean := FileOperation.performAll
      (discardTemporaryImages (text "s") [temporaryName (text "s") 1] fun _ => true).1 left
    (clean (filename (text "s")) = none ∨
      ∃ attempt ∈ [(⟨Sample.enrolled, course, 1⟩ : StoppedSave UInt64)],
        (save (text "s") attempt.state .defaults attempt.course).2 = .ok () ∧
        clean (filename (text "s")) = some (image attempt.state)) ∧
    ∀ name, name ≠ filename (text "s") →
      clean name = if (temporaryPrefix (text "s")).isPrefixOf name then none else none := by
  intro course left clean
  refine stopped_saves_discarded (text "s") .defaults [⟨Sample.enrolled, course, 1⟩]
    (fun _ => none) (show left = _ from rfl) fun name present => ?_
  by_contra unlisted
  rw [List.mem_singleton] at unlisted
  refine present (FileOperation.performAll_untouched (fun operation member => ?_) _)
  rw [List.mem_singleton.mp member]
  exact Ne.symm unlisted

end Persistence

end ExperimentFabric
