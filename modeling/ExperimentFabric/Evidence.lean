import Mathlib.Data.List.Sort
import Mathlib.Data.List.Dedup
import ExperimentFabric.Publication

/-!
# Branch evidence

Evidence is bound to the authoritative attempt of each trial.  Observations left behind by other
attempts stay in the record but contribute to no aggregate.
-/

namespace ExperimentFabric

open Lib

variable {R : Type}

/-- What the authoritative attempt of one trial reported for one metric. -/
structure ObservationSummary (R : Type) where
  /-- The first valid observation. -/
  valid : Option (Observation R) := none
  invalid : Nat := 0
  missing : Nat := 0
  unsupported : Nat := 0

/-- Count one more observation. -/
def ObservationSummary.add (summary : ObservationSummary R) (observation : Observation R) :
    ObservationSummary R :=
  match observation.validity with
  | .valid => { summary with valid := some (summary.valid.getD observation) }
  | .invalid => { summary with invalid := summary.invalid + 1 }
  | .missing => { summary with missing := summary.missing + 1 }
  | .unsupported => { summary with unsupported := summary.unsupported + 1 }

/-- Summaries by trial and metric. -/
abbrev EvidenceIndex (R : Type) := OrderedMap (ℕ ×ₗ ℕ) (ObservationSummary R)

/-- Key of the summary of one metric on one trial. -/
def cellKey (trial : TrialId) (metric : MetricId) : ℕ ×ₗ ℕ := toLex (trial.value, metric.value)

namespace ExperimentRecord

/-- Add one observation to the index, when its attempt is the authoritative one of its trial. -/
def summarize (record : ExperimentRecord R) (index : EvidenceIndex R)
    (observation : Observation R) : EvidenceIndex R :=
  match record.trials.find? observation.trial with
  | none => index
  | some trial =>
      if observation.attempt ≠ trial.authoritativeAttempt then index
      else
        let key := cellKey observation.trial observation.metric
        index.assign key (((index.find? key).getD {}).add observation)

/-- The evidence index of a record. -/
def evidenceIndex (record : ExperimentRecord R) : EvidenceIndex R :=
  record.observations.foldl record.summarize .empty

/-- The trial counts as current evidence of a branch. -/
def isAuthoritative (record : ExperimentRecord R) (branch : BranchDefinition)
    (trial : TrialRecord) : Bool :=
  trial.branch = branch.id && trial.state = .completed && trial.committedAttempts = 1 &&
    trial.generation = record.definition.generation &&
    trial.branchGeneration = branch.generation &&
    trial.hypothesisRevision = record.definition.hypothesisRevision &&
    trial.policy = record.definition.policy.id &&
    trial.policyGeneration = record.definition.policy.generation

/-- Committed, current authoritative trials of a branch, by identity. -/
def authoritativeTrials (record : ExperimentRecord R) (branch : BranchId) : List TrialRecord :=
  match record.findBranch branch with
  | none => []
  | some definition =>
      (record.trials.values.filter (record.isAuthoritative definition)).insertionSort
        fun left right => left.id ≤ right.id

end ExperimentRecord

/-! ## Aggregation -/

section Aggregation

variable [MetricReal R]

/-- The number an observed value contributes; categories contribute none. -/
def numericValue (value : MetricValue R) : Option R :=
  match value.kind with
  | .real => some value.real
  | .integer => some (MetricReal.ofInt value.integer)
  | .boolean => some (MetricReal.ofInt (if value.boolean then 1 else 0))
  | .categorical => none

/-- The category an observed value contributes. -/
def categoryValue (value : MetricValue R) : Option Text :=
  if value.kind = .categorical then some value.category else none

/-- Sum from left to right. -/
def total (values : List R) : R := values.foldl MetricReal.add (MetricReal.ofInt 0)

/-- The middle value, or the mean of the two middle values. -/
def median (first : R) (rest : List R) : R :=
  let sorted := (first :: rest).insertionSort fun left right => !MetricReal.lt right left
  let middle := sorted.length / 2
  if sorted.length % 2 = 0 then
    MetricReal.div (MetricReal.add (sorted.getD (middle - 1) first) (sorted.getD middle first))
      (MetricReal.ofInt 2)
  else sorted.getD middle first

/-- The aggregate of a nonempty list of values. -/
def aggregateValue (rule : AggregationRule) (first : R) (rest : List R) : R :=
  match rule with
  | .mean => MetricReal.div (total (first :: rest)) (MetricReal.ofInt (rest.length + 1))
  | .median => median first rest
  | .min => rest.foldl (fun best value => if MetricReal.lt value best then value else best) first
  | .max => rest.foldl (fun best value => if MetricReal.lt best value then value else best) first
  | .sum => total (first :: rest)
  | .none | .majority => first

/-- The most frequent category with its count; the smallest one wins a tie. -/
def majorityCategory (categories : List Text) : Text × Nat :=
  (categories.insertionSort fun left right => ¬ right < left).dedup.foldl
    (fun best category =>
      let count := categories.count category
      if count > best.2 || (count = best.2 && category < best.1) then (category, count) else best)
    ([], 0)

/-- Observations that a summary lacks: those reported missing, and the valid one. -/
def missingOf (summary : Option (ObservationSummary R)) : Nat :=
  match summary with
  | none => 1
  | some summary => summary.missing + if summary.valid.isNone then 1 else 0

/-- Aggregate one metric over the summaries of the authoritative trials. -/
def aggregate (metric : MetricDefinition R) (trials : List TrialRecord)
    (summaries : List (Option (ObservationSummary R))) : MetricAggregate R :=
  let found := summaries.filterMap id
  let observed := found.filterMap ObservationSummary.valid
  let values := observed.filterMap (numericValue ·.value)
  let best := majorityCategory (observed.filterMap (categoryValue ·.value))
  let categorical : Bool := metric.kind = .categorical || metric.aggregation = .majority
  { metric := metric.id
    rule := metric.aggregation
    present := if categorical then best.2 > 0 else !values.isEmpty
    value :=
      if categorical then MetricReal.ofInt 0
      else match values with
        | [] => MetricReal.ofInt 0
        | first :: rest => aggregateValue metric.aggregation first rest
    category := if categorical && best.2 > 0 then best.1 else []
    validCount := observed.length
    invalidCount := (found.map ObservationSummary.invalid).sum
    missingCount := (summaries.map missingOf).sum
    unsupportedCount := (found.map ObservationSummary.unsupported).sum
    rawValues := values
    trialOrder := trials.map (·.id.toText) }

namespace ExperimentRecord

/-- Trials of a branch in states selected by a predicate. -/
def countTrials (record : ExperimentRecord R) (branch : BranchId) (select : TrialState → Bool) :
    Nat :=
  record.trials.values.countP fun trial => trial.branch = branch && select trial.state

/-- Evidence of one branch. -/
def branchEvidence (record : ExperimentRecord R) (branch : BranchDefinition) : BranchEvidence R :=
  let trials := record.authoritativeTrials branch.id
  let metrics := record.definition.metrics.insertionSort fun left right => left.id ≤ right.id
  { branch := branch.id
    generation := branch.generation
    role := branch.role
    state := branch.state
    plannedTrials := branch.plannedTrials
    completedTrials := trials.length
    failedTrials := record.countTrials branch.id (· = .failed)
    cancelledTrials := record.countTrials branch.id (· = .cancelled)
    invalidTrials := record.countTrials branch.id (· = .invalid)
    supersededTrials := record.countTrials branch.id (· = .superseded)
    openTrials := record.countTrials branch.id (!isTerminal ·)
    aggregates := metrics.map fun metric =>
      aggregate metric trials
        (trials.map fun trial => record.evidenceIndex.find? (cellKey trial.id metric.id)) }

/-- Evidence of every branch, by branch identity. -/
def computeEvidence (record : ExperimentRecord R) : List (BranchEvidence R) :=
  (record.definition.branches.insertionSort fun left right => left.id ≤ right.id).map
    record.branchEvidence

end ExperimentRecord

end Aggregation

end ExperimentFabric
