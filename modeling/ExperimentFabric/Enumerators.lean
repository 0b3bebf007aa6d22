import ExperimentFabric.Messages
import ExperimentFabric.Persistence

/-!
# Enumerators of decoded objects

An enumeration is read as one byte under a bound that each call passes by hand, and a byte beyond it
is refused.  The reason of a rejected piece of evidence is read without a bound: it is the one field
of a decoded object that may hold an enumerator that is not declared.

The bytes of these reasons can be read off an input without building the object: the scanners below
pass over the other fields.
-/

namespace ExperimentFabric

open Lib

variable {R : Type}

/-! ## Bounds passed by hand -/

/-- The next byte, refused beyond the largest enumerator. -/
def readEnumByte (maximum : Nat) (what : Text) : PayloadReader Nat := do
  let raw ← readU8
  ensure (raw ≤ maximum) (Payload.protocolError (text "impossible " ++ what ++ text " value"))
  pure raw

/-- The number of the last enumerator. -/
theorem idxOf_last {E : Type} [DecidableEq E] [Enumeration E] {last : E}
    (ends : (Enumeration.values : List E).getLast? = some last) :
    (Enumeration.values : List E).idxOf last + 1 = (Enumeration.values : List E).length := by
  obtain ⟨front, split⟩ := List.getLast?_eq_some_iff.mp ends
  have distinct : (front ++ [last]).Nodup := split ▸ Enumeration.distinct
  have fresh : last ∉ front := fun member =>
    (List.nodup_append.mp distinct).2.2 last member last (List.mem_singleton_self last) rfl
  rw [split, List.idxOf_append_of_notMem fresh]
  simp

/-- An enumerator is read as a byte up to the number of the last one. -/
theorem readEnum_eq {E : Type} [DecidableEq E] [Enumeration E] {last : E}
    (ends : (Enumeration.values : List E).getLast? = some last) (what : Text) :
    (readEnum what : PayloadReader E) = (do
      let raw ← readEnumByte ((Enumeration.values : List E).idxOf last) what
      pure ((Enumeration.values : List E).getD raw last)) := by
  have bound := idxOf_last ends
  unfold readEnum readEnumByte
  rw [bind_assoc]
  congr 1
  funext raw bytes
  by_cases known : raw ≤ (Enumeration.values : List E).idxOf last
  · have inside : raw < (Enumeration.values : List E).length := by omega
    simp only [List.getD_eq_getElem?_getD, List.getElem?_eq_getElem inside, ensure, known, bind,
      StateT.bind, Except.bind]
    change Except.ok _ = Except.ok ((Enumeration.values[raw]?).getD last, bytes)
    rw [List.getElem?_eq_getElem inside, Option.getD_some]
  · have outside : (Enumeration.values : List E).length ≤ raw := by omega
    simp only [List.getElem?_eq_none outside]
    simp [ensure, known, bind, StateT.bind, Except.bind, throw, throwThe, MonadExceptOf.throw,
      StateT.lift]

/-- Every bound that is passed by hand is the number of the last enumerator. -/
theorem enum_bounds :
    (Enumeration.values : List TrialState).getLast? = some .revalidationRequired ∧
    (Enumeration.values : List ExperimentState).getLast? = some .recovering ∧
    (Enumeration.values : List BranchState).getLast? = some .superseded ∧
    (Enumeration.values : List AttemptState).getLast? = some .revalidationRequired ∧
    (Enumeration.values : List BranchRole).getLast? = some .candidate ∧
    (Enumeration.values : List MetricKind).getLast? = some .categorical ∧
    (Enumeration.values : List MetricDirection).getLast? = some .informational ∧
    (Enumeration.values : List AggregationRule).getLast? = some .majority ∧
    (Enumeration.values : List ObservationValidity).getLast? = some .unsupported ∧
    (Enumeration.values : List ComparisonOp).getLast? = some .reportOnly ∧
    (Enumeration.values : List DecisionOutcome).getLast? = some .superseded ∧
    (Enumeration.values : List FailureKind).getLast? = some .limitExceeded ∧
    (Enumeration.values : List SeedPolicy).getLast? = some .none ∧
    (Enumeration.values : List RetryPolicy).getLast? = some .noRetry ∧
    (Enumeration.values : List PartialFailurePolicy).getLast? = some .retryAllowed ∧
    (Enumeration.values : List LateEvidencePolicy).getLast? = some .retainHistorical ∧
    (Enumeration.values : List ParameterKind).getLast? = some .boolean ∧
    (Enumeration.values : List ErrorStage).getLast? = some .limits := by
  decide

/-! ## Declared enumerators -/

/-- Objects with enumerators, at any depth. -/
class HasEnumerators (α : Type) where
  /-- Every enumerator of the object is declared. -/
  Declared : α → Prop

open HasEnumerators

instance {E : Type} [DecidableEq E] [Enumeration E] : HasEnumerators E where
  Declared value := value ∈ (Enumeration.values : List E)

instance : HasEnumerators ErrorCode where
  Declared code := code ∈ ErrorCode.named

instance : HasEnumerators Protocol.QueryKind where
  Declared kind := kind ∈ .invalid :: Protocol.QueryKind.known

instance {α : Type} [HasEnumerators α] : HasEnumerators (List α) where
  Declared values := ∀ value ∈ values, Declared value

instance {α : Type} [HasEnumerators α] : HasEnumerators (Option α) where
  Declared value := ∀ held ∈ value, Declared held

instance : HasEnumerators ParameterAssignment where
  Declared parameter := Declared parameter.kind

instance : HasEnumerators (MetricValue R) where
  Declared value := Declared value.kind

instance : HasEnumerators (Observation R) where
  Declared observation := Declared observation.validity ∧ Declared observation.value

instance : HasEnumerators (MetricDefinition R) where
  Declared metric := Declared metric.kind ∧ Declared metric.direction ∧ Declared metric.aggregation

instance : HasEnumerators (ComparisonRule R) where
  Declared rule := Declared rule.op

instance : HasEnumerators (ComparisonPolicy R) where
  Declared policy := Declared policy.rules

instance : HasEnumerators BranchDefinition where
  Declared branch := Declared branch.role ∧ Declared branch.state ∧ Declared branch.parameters

instance : HasEnumerators (ExperimentDefinition R) where
  Declared definition := Declared definition.branches ∧ Declared definition.metrics ∧
    Declared definition.policy ∧ Declared definition.seedPolicy ∧
    Declared definition.retryPolicy ∧ Declared definition.partialFailurePolicy ∧
    Declared definition.lateEvidencePolicy ∧ Declared definition.parameters

instance : HasEnumerators Hypothesis where
  Declared hypothesis := Declared hypothesis.expectedDirection

instance : HasEnumerators TrialRecord where
  Declared trial := Declared trial.state ∧ Declared trial.failureKind

instance : HasEnumerators AttemptRecord where
  Declared attempt := Declared attempt.state ∧ Declared attempt.failureKind

instance : HasEnumerators RejectedEvidence where
  Declared evidence := Declared evidence.reason

instance : HasEnumerators (ComparisonFactor R) where
  Declared factor := Declared factor.op

instance : HasEnumerators (MetricAggregate R) where
  Declared aggregate := Declared aggregate.rule

instance : HasEnumerators (BranchEvidence R) where
  Declared evidence :=
    Declared evidence.role ∧ Declared evidence.state ∧ Declared evidence.aggregates

instance : HasEnumerators (Decision R) where
  Declared decision := Declared decision.outcome ∧ Declared decision.reasonKind ∧
    Declared decision.factors ∧ Declared decision.evidence ∧ Declared decision.rejectedEvidence

instance : HasEnumerators BranchAuthoritySnapshot where
  Declared snapshot := Declared snapshot.state

instance : HasEnumerators RollbackPoint where
  Declared point := Declared point.authority

instance : HasEnumerators WorkerIncarnation where
  Declared incarnation := Declared incarnation.revocationKind

instance : HasEnumerators (ExperimentRecord R) where
  Declared record := Declared record.definition ∧ Declared record.hypothesis ∧
    Declared record.hypothesisHistory ∧ Declared record.state ∧ Declared record.trials.values ∧
    Declared record.attempts.values ∧ Declared record.observations ∧ Declared record.decisions ∧
    Declared record.rollbackPoints ∧ Declared record.rejectedEvidence

instance : HasEnumerators (CoordinatorState R) where
  Declared state := Declared state.workers ∧ Declared state.experiments.values

instance : HasEnumerators Status where
  Declared status := Declared status.code ∧ Declared status.stage

/-! ### Enumerations that are closed -/

section Scanning

variable (R) [BitPattern R]

/-- The byte of the reason of the next rejected piece of evidence. -/
def scanRejection (limits : Limits) : PayloadReader Nat := do
  let _ ← readText limits 64
  let _ ← readU64
  let reason ← readU8
  let _ ← readText limits 512
  pure reason

/-- The bytes of the reasons in the next decision. -/
def scanDecision (limits : Limits) : PayloadReader (List Nat) := do
  let _ : DecisionId ← readId
  let _ : ExperimentId ← readId
  let _ : ExperimentGeneration ← readId
  let _ : HypothesisId ← readId
  let _ : HypothesisRevision ← readId
  let _ : PolicyId ← readId
  let _ : PolicyGeneration ← readId
  let _ : List BranchId ← readVector 256 readId
  let _ : BranchId ← readId
  let _ ← readBoolean
  let _ : BranchId ← readId
  let _ : DecisionOutcome ← readEnum "decision outcome"
  let _ : FailureKind ← readEnum "failure kind"
  let _ ← readText limits 4096
  let _ ← readVector 512 (readConstraint limits)
  let _ : List (ComparisonFactor R) ← readVector 512 (readFactor limits)
  let _ : List (BranchEvidence R) ← readVector 256 (readBranchEvidence limits)
  let reasons ← readVector 4096 (scanRejection limits)
  let _ ← readText limits 256
  let _ ← readBoolean
  let _ ← readDigest
  let _ ← readU64
  pure reasons

/-- What a scanner finds at the front of an input; nothing when it is refused. -/
def scanned (scan : PayloadReader (List Nat)) (bytes : Text) : List Nat :=
  match scan bytes with
  | .ok (reasons, _) => reasons
  | .error _ => []

end Scanning

/-- The reasons of a decision, as bytes. -/
def Decision.reasons (decision : Decision R) : List Nat :=
  decision.rejectedEvidence.map (·.reason.number)

/-- The reasons of a record, as bytes. -/
def ExperimentRecord.reasons (record : ExperimentRecord R) : List Nat :=
  (record.decisions.map Decision.reasons).flatten ++
    record.rejectedEvidence.map (·.reason.number)

variable [BitPattern R]

instance : HasEnumerators AssignedMetric where
  Declared metric := Declared metric.kind ∧ Declared metric.direction

instance : HasEnumerators TrialAssignment where
  Declared assignment := Declared assignment.parameters ∧ Declared assignment.metrics

namespace Protocol

namespace MessageKind

/-- Every enumerator of a message is declared. -/
def Declared : (kind : MessageKind) → kind.Value R → Prop
  | registerReply => fun reply : RegisterWorkerReply =>
      HasEnumerators.Declared reply.status
  | claimReply => fun reply : ClaimTrialReply =>
      HasEnumerators.Declared reply.status ∧ HasEnumerators.Declared reply.assignments
  | publishObservation => fun request : PublishObservationRequest R =>
      HasEnumerators.Declared request.observation
  | failTrial => fun request : FailTrialRequest => HasEnumerators.Declared request.kind
  | status => fun status : Status => HasEnumerators.Declared status
  | ack => fun reply : AckReply => HasEnumerators.Declared reply.status
  | errorReply => fun reply : ErrorReply => HasEnumerators.Declared reply.status
  | queryRequest => fun request : QueryRequest => HasEnumerators.Declared request.kind
  | queryResult => fun reply : QueryResult => HasEnumerators.Declared reply.status
  | valueReply => fun reply : ValueReply => HasEnumerators.Declared reply.status
  | decisionReply => fun reply : DecisionReply R =>
      HasEnumerators.Declared reply.status ∧ HasEnumerators.Declared reply.decision
  | forkBranch => fun request : ForkBranchRequest =>
      HasEnumerators.Declared request.role ∧ HasEnumerators.Declared request.parameters
  | reviseHypothesis => fun request : ReviseHypothesisRequest =>
      HasEnumerators.Declared request.direction
  -- The other requests carry identities, counters, digests and texts only.
  | registerWorker | claimTrial | publishArtifact | commitTrial | cancelTrial | cancelExperiment
  | finalizeExperiment | rollback | heartbeat | createTrial => fun _ => True

/-- The bytes of the reasons inside a message: only a decision reply has some. -/
def scan (R : Type) [BitPattern R] (limits : Limits) : MessageKind → Text → List Nat
  | decisionReply => scanned do
      let _ ← readStatusBlock limits
      scanDecision R limits
  | _ => fun _ => []

end MessageKind

end Protocol

/-! ## Images -/

namespace Persistence

end Persistence

/-! ## An undeclared reason -/

namespace Sample

local instance beyond : NeZero 233 := ⟨by decide⟩

end Sample

/-! ## Decoders -/

end ExperimentFabric
