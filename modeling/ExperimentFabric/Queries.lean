import ExperimentFabric.Inspection
import ExperimentFabric.IdentityText
import ExperimentFabric.Messages

/-!
# Queries

The read-only queries of the control plane.  A query about one experiment names it by its canonical
text, or an experiment and a branch separated by a colon.
-/

namespace ExperimentFabric

open Lib Protocol

variable {R : Type}

/-- A refused query argument. -/
def badArgument (reason : Text) : Status := ⟨.invalidArgument, .validation, reason⟩

/-- The experiment and the branch that an argument names. -/
structure QueryTarget where
  experiment : ExperimentId
  branch : BranchId
  deriving DecidableEq

/-- The colon that separates an experiment from a branch. -/
def targetSeparator : UInt8 := 58

/-- Read the target of a query.  An argument without a branch names the null branch. -/
def parseTarget (argument : Text) : Result QueryTarget := do
  let experimentText := argument.takeWhile (· ≠ targetSeparator)
  let branchText := (argument.dropWhile (· ≠ targetSeparator)).drop 1
  require (!experimentText.isEmpty)
    (badArgument (text "a query of this kind requires an experiment identity argument"))
  let experiment ← demand (StrongId.parse experimentText)
    (badArgument (text "experiment identity argument is not canonical decimal text"))
  if branchText.isEmpty then return ⟨experiment, .null⟩
  let branch ← demand (StrongId.parse branchText)
    (badArgument (text "branch identity argument is not canonical decimal text"))
  return ⟨experiment, branch⟩

namespace Coordinator

/-- The experiments of the coordinator. -/
def listExperiments (c : Coordinator R) : List ExperimentId := c.state.experiments.keys

/-- The line of a live worker. -/
def workerLine (worker : LiveWorker) : Text :=
  text "worker " ++ worker.worker.toText ++ text " boot " ++ worker.boot.toText ++
    text " producer " ++ worker.producer.toText ++
    (if worker.revoked then text " REVOKED" else text " LIVE") ++ text " active " ++
    decimal worker.activeAssignments ++ text " total " ++ decimal worker.totalAssignments ++
    if worker.endpoint = [] then [] else text " endpoint " ++ worker.endpoint

/-- Workers are listed by identity, then by boot identity. -/
def workerBefore (left right : LiveWorker) : Bool :=
  if left.worker ≠ right.worker then left.worker < right.worker else left.boot < right.boot

/-- Lines of the live workers. -/
def workerLines [StdSort] (c : Coordinator R) : List Text :=
  (text "epoch " ++ c.epoch.toText) ::
    (StdSort.sort workerBefore c.liveWorkers.values).map workerLine

/-- Lines of the coordinator itself. -/
def statusLines (c : Coordinator R) : List Text :=
  [text "experiment-fabric " ++ versionString,
    text "coordinator-epoch " ++ c.epoch.toText,
    text "sequence " ++ decimal c.currentSequence,
    text "admitting-work " ++ Inspect.boolText c.admittingWork,
    text "persistence-degraded " ++ Inspect.boolText c.persistenceDegraded,
    text "experiments " ++ decimal c.state.experiments.size,
    text "worker-incarnations " ++ decimal c.state.workers.length,
    text "live-workers " ++ decimal c.liveWorkers.size]

/-- The line of an experiment in the list of all. -/
def experimentLine (entry : ExperimentId × ExperimentRecord R) : Text :=
  text "experiment " ++ entry.1.toText ++ text " generation " ++
    entry.2.definition.generation.toText ++ text " state " ++ nameOf entry.2.state ++
    text " branches " ++ decimal entry.2.definition.branches.length ++ text " trials " ++
    decimal entry.2.trials.size ++ text " name " ++ entry.2.definition.name

section Digests

variable [MetricReal R] [ToChars R] [StdSort]

/-- What the digest of the whole state is computed over. -/
def stateStream (c : Coordinator R) : Text :=
  Canonical.writeText (text "coordinator-state-v1") ++ writeU64 c.currentSequence ++
    c.state.experiments.keys.flatMap c.state.experimentDigest

/-- Digest of the whole state. -/
def stateDigestHex (c : Coordinator R) : Text := digestHex (Sha256.digestOf c.stateStream)

/-- Validate the durable state under the limits of this coordinator. -/
def validateState (c : Coordinator R) : Check Status := c.state.validate c.limits

/-- Lines of the validation. -/
def validateLines (c : Coordinator R) : List Text :=
  (match c.validateState with
    | .ok () => [text "validate-state OK"]
    | .error failure => [text "validate-state FAILED", failure.toText]) ++
  [text "state-digest " ++ c.stateDigestHex]

/-- The report of a query about one experiment. -/
def report (snapshot : CompleteSnapshot R) (limits : Limits) : QueryKind → Option (List Text)
  | .experimentSnapshot => some (Inspect.renderSnapshot snapshot limits)
  | .hypothesis => some (Inspect.renderHypothesis snapshot limits)
  | .branchLineage => some (Inspect.renderLineage snapshot.toExperimentSnapshot limits)
  | .trials => some (Inspect.renderTrials snapshot limits)
  | .observations => some (Inspect.renderObservations snapshot limits)
  | .rejectedEvidence => some (Inspect.renderRejectedEvidence snapshot limits)
  | .artifacts => some (Inspect.renderArtifacts snapshot limits)
  | _ => none

variable [CanonicalDigests R]

/-- A query about one experiment. -/
def experimentLines (c : Coordinator R) (kind : QueryKind) (target : QueryTarget) :
    Result (List Text) := do
  if kind = .explainDecision then
    require target.branch.valid
      (badArgument (text "explain-decision requires the canonical experiment:branch form"))
    let decision ← c.evaluate target.experiment target.branch
    return Inspect.renderDecision decision c.limits
  let snapshot ← c.snapshot target.experiment
  if kind = .reproducibility then
    require target.branch.valid
      (badArgument (text "reproducibility requires the canonical experiment:branch form"))
    let record ← c.reproducibility target.experiment target.branch
    return Inspect.renderReproducibility record c.limits
  match report snapshot c.limits kind with
  | some lines => return lines
  | none => throw ⟨.unsupported, .validation, text "query kind is not supported"⟩

/-- Answer a query. -/
def queryLines (c : Coordinator R) (kind : QueryKind) (argument : Text) : Result (List Text) :=
  match kind with
  | .status => .ok c.statusLines
  | .listExperiments => .ok (c.state.experiments.entries.map experimentLine)
  | .workers => .ok c.workerLines
  | .validateState => .ok c.validateLines
  | _ => do c.experimentLines kind (← parseTarget argument)

/-- The explanation of a decision as one text. -/
def explain (c : Coordinator R) (experiment : ExperimentId) (candidate : BranchId) :
    Result Text := do
  let decision ← c.evaluate experiment candidate
  return (Inspect.renderDecision decision c.limits).flatMap fun line => line ++ text "\n"

end Digests

end Coordinator

end ExperimentFabric
