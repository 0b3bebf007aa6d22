import Mathlib.Order.Basic
import Mathlib.Data.Nat.Digits.Defs
import Mathlib.Data.Nat.Basic

/-!
# Text and strongly typed identities

Text is a byte string, as in the runtime.  Identities are values tagged by the kind of object they
name, so a branch identity is never a trial identity; the zero value is the null identity.

Identity and sequence counters are natural numbers.  They agree with the 64-bit counters of the
runtime as long as no counter has been advanced `2 ^ 64` times.
-/

namespace ExperimentFabric

/-- A byte string. -/
abbrev Text := List UInt8

instance : LawfulBEq Text := inferInstance

/-- The bytes of a string literal. -/
def text (literal : String) : Text := literal.toUTF8.data.toList

instance : Coe String Text := ⟨text⟩

/-- Canonical decimal form of a number. -/
def decimal (value : Nat) : Text :=
  if value = 0 then [48] else (Nat.digits 10 value).reverse.map fun digit => UInt8.ofNat (48 + digit)

/-- What an identity or a generation counter names. -/
inductive Tag where
  | experiment | hypothesis | branch | trial | trialAttempt | metric | observation | artifact
  | inputSet | environment | worker | workerBoot | coordinatorEpoch | producer | policy | decision
  | rollbackPoint
  | experimentGeneration | hypothesisRevision | branchGeneration | policyGeneration
  | trialAttemptNumber

/-- A strongly typed identity or generation counter. -/
structure StrongId (tag : Tag) where
  /-- Numeric value; zero is the null identity. -/
  value : Nat
  deriving DecidableEq

namespace StrongId

variable {tag : Tag}

instance : LinearOrder (StrongId tag) :=
  LinearOrder.lift' StrongId.value fun left right equal => by
    cases left
    cases right
    simpa using equal

instance : LawfulBEq (StrongId tag) := inferInstance

instance : Inhabited (StrongId tag) := ⟨⟨0⟩⟩

/-- The null identity. -/
def null : StrongId tag := ⟨0⟩

/-- An identity which may be used as authority. -/
def valid (id : StrongId tag) : Bool := id.value ≠ 0

/-- Canonical decimal text of an identity. -/
def toText (id : StrongId tag) : Text := decimal id.value

@[simp]
theorem valid_iff (id : StrongId tag) : id.valid = true ↔ id.value ≠ 0 := by
  simp [valid]

@[simp]
theorem null_value : (null : StrongId tag).value = 0 := rfl

end StrongId

/-- Identity of an experiment. -/
abbrev ExperimentId := StrongId .experiment
/-- Identity of a hypothesis. -/
abbrev HypothesisId := StrongId .hypothesis
/-- Identity of a branch. -/
abbrev BranchId := StrongId .branch
/-- Identity of a logical trial. -/
abbrev TrialId := StrongId .trial
/-- Identity of one execution attempt of a trial. -/
abbrev TrialAttemptId := StrongId .trialAttempt
/-- Identity of a metric. -/
abbrev MetricId := StrongId .metric
/-- Identity of an observation. -/
abbrev ObservationId := StrongId .observation
/-- Identity of an artifact. -/
abbrev ArtifactId := StrongId .artifact
/-- Identity of an input set. -/
abbrev InputSetId := StrongId .inputSet
/-- Identity of an environment. -/
abbrev EnvironmentId := StrongId .environment
/-- Identity of a logical worker. -/
abbrev WorkerId := StrongId .worker
/-- Identity of one worker process incarnation. -/
abbrev WorkerBootId := StrongId .workerBoot
/-- Epoch of one coordinator lifetime. -/
abbrev CoordinatorEpoch := StrongId .coordinatorEpoch
/-- Identity of an evidence producer. -/
abbrev ProducerId := StrongId .producer
/-- Identity of a comparison policy. -/
abbrev PolicyId := StrongId .policy
/-- Identity of a decision. -/
abbrev DecisionId := StrongId .decision
/-- Identity of a rollback point. -/
abbrev RollbackPointId := StrongId .rollbackPoint
/-- Generation counter of an experiment. -/
abbrev ExperimentGeneration := StrongId .experimentGeneration
/-- Revision counter of a hypothesis. -/
abbrev HypothesisRevision := StrongId .hypothesisRevision
/-- Generation counter of a branch. -/
abbrev BranchGeneration := StrongId .branchGeneration
/-- Generation counter of a comparison policy. -/
abbrev PolicyGeneration := StrongId .policyGeneration
/-- Ordinal of an attempt under its trial. -/
abbrev TrialAttemptNumber := StrongId .trialAttemptNumber

end ExperimentFabric
