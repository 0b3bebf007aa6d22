import ExperimentFabric.Decision

/-!
# Startup and recovery

A coordinator starts from the last saved image.  No live authority is inherited: every open trial
and attempt is first moved to a staged state, experiment by experiment with one write each, and only
then resolved, with one write for all of them.
-/

namespace ExperimentFabric

open Lib

variable {R : Type}

/-! ## Staging -/

/-- Stage one attempt; the accumulator is the sequence counter. -/
def stageAttempt (sequence : Nat) (attempt : AttemptRecord) : Nat × AttemptRecord :=
  if isAttemptTerminal attempt.state then (sequence, attempt)
  else
    (sequence + 1,
      { attempt with
        state := .revalidationRequired
        failureKind := .producerLoss
        failureDetail := text "coordinator restart: live process authority was not inherited"
        updatedSequence := sequence + 1 })

/-- Stage one trial; the accumulator is the sequence counter and the lifecycle lines written. -/
def stageTrial (progress : Nat × List Text) (trial : TrialRecord) :
    (Nat × List Text) × TrialRecord :=
  if isTerminal trial.state then (progress, trial)
  else
    ((progress.1 + 1,
      progress.2 ++ [text "recovery:trial " ++ trial.id.toText ++ text " moved from " ++
        trial.state.toText ++ text " to REVALIDATION_REQUIRED"]),
      { trial with state := .revalidationRequired, updatedSequence := progress.1 + 1 })

/-- Resolve the live attempts of a trial; the accumulator is the sequence counter. -/
def resolveAttempt (trial : TrialId) (sequence : Nat) (attempt : AttemptRecord) :
    Nat × AttemptRecord :=
  if attempt.trial ≠ trial || isAttemptTerminal attempt.state then (sequence, attempt)
  else
    (sequence + 1,
      { attempt with
        state := .abandoned
        failureKind := .producerLoss
        failureDetail := text "recovered: the previous process incarnation holds no authority"
        updatedSequence := sequence + 1 })

/-- Progress of the resolution of one experiment. -/
structure ResolveProgress where
  sequence : Nat
  attempts : OrderedMap TrialAttemptId AttemptRecord
  lines : List Text := []

namespace ExperimentRecord

/-- Some trial or attempt is not terminal. -/
def hasOpenWork (record : ExperimentRecord R) : Bool :=
  record.attempts.values.any (!isAttemptTerminal ·.state) ||
    record.trials.values.any (!isTerminal ·.state)

/-- Recovery changes the record. -/
def needsRecovery (record : ExperimentRecord R) : Bool :=
  record.state = .recovering || record.hasOpenWork

/-- Append several lifecycle events. -/
def logAll (record : ExperimentRecord R) (lines : List Text) : ExperimentRecord R :=
  lines.foldl log record

/-- Stage every open attempt and trial of a record. -/
def stage (record : ExperimentRecord R) (sequence : Nat) : Nat × ExperimentRecord R :=
  let attempts := record.attempts.traverse stageAttempt sequence
  let trials := record.trials.traverse stageTrial (attempts.1, [])
  (trials.1.1,
    ({ record with
        state := if record.state = .recovering then .opened else record.state
        attempts := attempts.2
        trials := trials.2 } : ExperimentRecord R).logAll trials.1.2)

/-- A staged trial may be attempted again. -/
def resumable (record : ExperimentRecord R) (trial : TrialRecord) : Bool :=
  trial.attemptCount < record.definition.maxAttemptsPerTrial &&
    (record.findBranch trial.branch).any (fun branch =>
      isBranchEligible branch.state && branch.generation = trial.branchGeneration) &&
    isExperimentMutable record.state && trial.generation = record.definition.generation

/-- The state a staged trial is resolved to. -/
def resolvedTrial (record : ExperimentRecord R) (trial : TrialRecord) : TrialRecord :=
  if record.resumable trial then
    { trial with
      state := .ready
      authoritativeAttempt := .null
      nextAttemptNumber := ⟨trial.attemptCount + 1⟩
      failureKind := .producerLoss
      failureDetail := text "recovered: fresh attempt required before the trial can complete" }
  else
    { trial with
      state := .failed
      failureKind := .producerLoss
      failureDetail :=
        text "recovered: no authoritative completion and no retry budget remains" }

/-- Resolve one staged trial and its attempts. -/
def resolveTrial (record : ExperimentRecord R) (progress : ResolveProgress)
    (trial : TrialRecord) : ResolveProgress × TrialRecord :=
  if trial.state ≠ .revalidationRequired then (progress, trial)
  else
    let resolved := record.resolvedTrial trial
    let attempts := progress.attempts.traverse (resolveAttempt trial.id) progress.sequence
    ({ sequence := attempts.1 + 1
       attempts := attempts.2
       lines := progress.lines ++ [text "recovery:trial " ++ trial.id.toText ++
         text " resolved to " ++ resolved.state.toText] },
      { resolved with updatedSequence := attempts.1 + 1 })

/-- Resolve every staged trial of a record. -/
def resolve (sequence : Nat) (record : ExperimentRecord R) : Nat × ExperimentRecord R :=
  let resolved := record.trials.traverse record.resolveTrial
    { sequence := sequence, attempts := record.attempts }
  (resolved.1.sequence,
    ({ record with trials := resolved.2, attempts := resolved.1.attempts } :
      ExperimentRecord R).logAll resolved.1.lines)

end ExperimentRecord

/-! ## Reconciliation -/

/-- Outcomes of the successive writes of a startup; `none` is a write that succeeds. -/
abbrev WriteOutcomes := Nat → Option SaveFault

namespace Coordinator

/-- Stage the record of one experiment. -/
def stageExperiment (c : Coordinator R) (id : ExperimentId) (record : ExperimentRecord R) :
    Coordinator R :=
  let staged := record.stage c.currentSequence
  (c.atSequence staged.1).withRecord id staged.2

/-- Stage experiments in order, writing the state after each one that had open work.  `writes`
counts the writes so far. -/
def stageAll (outcomes : WriteOutcomes) :
    Nat → Coordinator R → List ExperimentId → Coordinator R × Result Nat
  | writes, c, [] => (c, .ok writes)
  | writes, c, id :: rest =>
      match c.findExperiment id with
      | none => stageAll outcomes writes c rest
      | some record =>
          if record.hasOpenWork then
            match (c.stageExperiment id record).persistLocked (outcomes writes) with
            | (c, .error failure) => (c, .error failure)
            | (c, .ok ()) => stageAll outcomes (writes + 1) c rest
          else stageAll outcomes writes (c.stageExperiment id record) rest

/-- Resolve the staged work of every experiment. -/
def resolveAll (c : Coordinator R) : Coordinator R :=
  let resolved := c.state.experiments.traverse ExperimentRecord.resolve c.currentSequence
  (c.atSequence resolved.1).withExperiments resolved.2

/-- Bring a loaded state to one that holds no inherited authority. -/
def reconcileRecoveredState (c : Coordinator R) (outcomes : WriteOutcomes) :
    Coordinator R × Result Unit :=
  match stageAll outcomes 0 c c.state.experiments.keys with
  | (c, .error failure) => (c, .error failure)
  | (staged, .ok writes) =>
      if c.state.experiments.values.any ExperimentRecord.needsRecovery then
        staged.resolveAll.persistLocked (outcomes writes)
      else (staged, .ok ())

variable [MetricReal R]

/-- Load an image: bounds checked while decoding, then full validation. -/
def load (image : CoordinatorState R) (limits : Limits) : Result (CoordinatorState R) := do
  require (1 + image.workers.length + image.experiments.size ≤ limits.maxPersistedRecords)
    (limitsError (text "state holds too many records"))
  require (image.workers.length ≤ limits.maxRegisteredWorkers)
    (limitsError (text "state holds more worker incarnations than the configured bound"))
  require (image.experiments.size ≤ limits.maxExperiments)
    (limitsError (text "state holds more experiments than the configured bound"))
  image.validate limits
  return image

/-- The epoch a coordinator mints, in 64-bit arithmetic. -/
def mintEpoch (lastEpoch seed : Nat) : Nat :=
  let next := (lastEpoch + 1) % 2 ^ 64
  let next := if seed ≠ 0 ∧ next < seed then seed else next
  if next = 0 then 1 else next

/-- The coordinator before reconciliation: the loaded state under a fresh epoch. -/
def boot (config : Config) (image : Option (CoordinatorState R)) (loaded : CoordinatorState R) :
    Coordinator R :=
  let epoch := mintEpoch loaded.lastEpoch config.epochSeed
  rebuildIndexes
    { config := config
      state := { loaded with lastEpoch := epoch }
      epoch := ⟨epoch⟩
      image := image }

/-- The state a coordinator starts from. -/
def loadState (config : Config) (image : Option (CoordinatorState R)) :
    Result (CoordinatorState R) :=
  if config.statePath = [] then .ok {}
  else match image with
    | none => .ok {}
    | some image => load image config.limits

/-- Start a coordinator from the file at its state path.  The first component is the file left
behind, whether or not the start succeeds. -/
def create (config : Config) (image : Option (CoordinatorState R)) (outcomes : WriteOutcomes) :
    Option (CoordinatorState R) × Result (Coordinator R) :=
  if !config.limits.isCoherent then
    (image, .error ⟨.invalidArgument, .validation, text "limits configuration is not coherent"⟩)
  else match loadState config image with
    | .error failure => (image, .error failure)
    | .ok loaded =>
        match (boot config image loaded).reconcileRecoveredState outcomes with
        | (c, .error failure) => (c.image, .error failure)
        | (c, .ok ()) => (c.image, .ok c)

end Coordinator

end ExperimentFabric
