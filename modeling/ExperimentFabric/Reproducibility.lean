import ExperimentFabric.Canonical
import ExperimentFabric.Evidence
import ExperimentFabric.Session

/-!
# Reproducibility records

The query that assembles what is needed to run a branch again.  It collects artifacts, producer and
seed from the completed trials of the branch in one pass and derives the list of missing materials
from the definition, the branch and the collected material.
-/

namespace ExperimentFabric

open Lib

variable {R : Type}

/-- Explicit reproducibility classification. -/
inductive ReproducibilityStatus where
  | reproducible | partiallyReproducible | notReproducible | unknown
  deriving DecidableEq

/-- What is needed to run a branch again. -/
structure ReproducibilityRecord where
  experiment : ExperimentId
  generation : ExperimentGeneration
  hypothesis : HypothesisId
  hypothesisRevision : HypothesisRevision
  branch : BranchId
  branchGeneration : BranchGeneration
  policy : PolicyId
  policyGeneration : PolicyGeneration
  definitionDigest : Digest
  branchDefinitionDigest : Digest
  policyDigest : Digest
  inputSet : InputSetId
  inputSetPresent : Bool
  inputSetDigest : Digest := List.replicate 32 0
  inputSetDigestPresent : Bool := false
  environment : EnvironmentId
  environmentPresent : Bool
  environmentFingerprint : Text
  executableIdentity : Text := []
  producerIdentity : Text := []
  seed : Option UInt64
  parameters : List ParameterAssignment
  artifacts : List ArtifactId := []
  observationCount : Nat := 0
  /-- Materials the runtime knows are needed but does not have. -/
  missingMaterials : List Text := []
  status : ReproducibilityStatus := .unknown

/-- The text that names the producer of an attempt. -/
def AttemptRecord.identityText (attempt : AttemptRecord) : Text :=
  text "producer:" ++ attempt.producer.toText ++ text " worker:" ++ attempt.worker.toText ++
    text " boot:" ++ attempt.boot.toText

namespace ExperimentRecord

/-- The query collects from a trial: it is completed by one commit in the current generation. -/
def collects (record : ExperimentRecord R) (branch : BranchId) (trial : TrialRecord) : Bool :=
  trial.branch = branch && trial.state = .completed &&
    trial.generation = record.definition.generation && trial.committedAttempts = 1

/-- The record of the authoritative attempt of a trial. -/
def authoritativeAttempt (record : ExperimentRecord R) (trial : TrialRecord) :
    Option AttemptRecord :=
  record.attempts.find? trial.authoritativeAttempt

/-- Add what one trial holds. -/
def collect (record : ExperimentRecord R) (result : ReproducibilityRecord) (trial : TrialRecord) :
    ReproducibilityRecord :=
  { result with
    artifacts := result.artifacts ++ trial.artifacts
    producerIdentity := match record.authoritativeAttempt trial with
      | some attempt => attempt.identityText
      | none => result.producerIdentity
    -- A trial without a seed clears the seed of the branch.
    seed := if trial.seed.isNone && result.seed.isSome then trial.seed else result.seed }

/-- The record before anything is collected. -/
def describe [MetricReal R] [ToChars R] [StdSort] (record : ExperimentRecord R)
    (branch : BranchDefinition) : ReproducibilityRecord where
  experiment := record.definition.id
  generation := record.definition.generation
  hypothesis := record.definition.hypothesis
  hypothesisRevision := record.definition.hypothesisRevision
  branch := branch.id
  branchGeneration := branch.generation
  policy := record.definition.policy.id
  policyGeneration := record.definition.policy.generation
  definitionDigest := Canonical.definitionDigest record.definition
  branchDefinitionDigest := Canonical.branchDigest branch
  policyDigest := Canonical.policyDigest record.definition.policy
  inputSet := branch.inputSet
  inputSetPresent := branch.inputSetPresent
  environment := branch.environment
  environmentPresent := branch.environmentPresent
  environmentFingerprint := branch.environmentFingerprint
  seed := branch.seed
  parameters := branch.parameters

/-- The tests for missing materials, in their order. -/
def materialTests (record : ExperimentRecord R) (branch : BranchDefinition)
    (result : ReproducibilityRecord) : List (Bool × Text) :=
  [(branch.environmentFingerprint.isEmpty, text "environment-fingerprint"),
    (!branch.inputSetPresent, text "input-set-identity"),
    (branch.seed.isNone && record.definition.experimentSeed.isNone, text "seed"),
    (result.producerIdentity.isEmpty, text "producer-identity"),
    (result.artifacts.isEmpty, text "artifact-references"),
    -- The executable is tested by the fingerprint of the environment.
    (result.environmentFingerprint.isEmpty, text "executable-identity")]

/-- The names of the missing materials. -/
def testMaterials (record : ExperimentRecord R) (branch : BranchDefinition)
    (result : ReproducibilityRecord) : List Text :=
  (record.materialTests branch result).filterMap fun test => if test.1 then some test.2 else none

end ExperimentRecord

/-- The classification by what is missing. -/
def ReproducibilityRecord.classify (result : ReproducibilityRecord) : ReproducibilityStatus :=
  if result.missingMaterials = [] then .reproducible
  else if result.missingMaterials.length ≤ 2 && result.seed.isSome then .partiallyReproducible
  else if result.seed.isNone && result.missingMaterials.length ≥ 3 then .notReproducible
  else .partiallyReproducible

namespace ExperimentRecord

variable [MetricReal R] [ToChars R] [StdSort]

/-- The reproducibility record of a branch. -/
def reproducibility (record : ExperimentRecord R) (branch : BranchDefinition) :
    ReproducibilityRecord :=
  let collected := (record.trials.values.filter (record.collects branch.id)).foldl record.collect
    (record.describe branch)
  let counted : ReproducibilityRecord :=
    { collected with
      artifacts := collected.artifacts.insertionSort (· ≤ ·)
      observationCount := record.observations.countP fun observation =>
        observation.branch = branch.id && observation.validity = .valid
      executableIdentity := record.definition.provenance
      environmentFingerprint := branch.environmentFingerprint }
  let tested : ReproducibilityRecord :=
    { counted with
      missingMaterials := ((record.testMaterials branch counted).insertionSort
        fun left right => ¬ right < left).dedup }
  { tested with status := tested.classify }

end ExperimentRecord

/-- Query the reproducibility record of a branch. -/
def Coordinator.reproducibility [MetricReal R] [ToChars R] [StdSort] (c : Coordinator R)
    (experiment : ExperimentId) (branch : BranchId) : Result ReproducibilityRecord := do
  let record ← demand (c.findExperiment experiment)
    ⟨.notFound, .validation, text "experiment does not exist"⟩
  let branch ← demand (record.findBranch branch)
    ⟨.notFound, .validation, text "branch does not exist"⟩
  return record.reproducibility branch

/-! ## What is collected -/

section Collecting

variable (record : ExperimentRecord R) (trials : List TrialRecord) (result : ReproducibilityRecord)

theorem collect_artifacts : (trials.foldl record.collect result).artifacts =
    result.artifacts ++ trials.flatMap TrialRecord.artifacts := by
  induction trials generalizing result with
  | nil => simp
  | cons trial rest ih => simp [ih, ExperimentRecord.collect]

/-- The producer is the one of the last trial whose attempt is held. -/
theorem collect_producer : (trials.foldl record.collect result).producerIdentity =
    ((trials.filterMap record.authoritativeAttempt).getLast?.map
      AttemptRecord.identityText).getD result.producerIdentity := by
  induction trials generalizing result with
  | nil => rfl
  | cons trial rest ih =>
      rw [List.foldl_cons, ih, List.filterMap_cons]
      cases held : record.authoritativeAttempt trial with
      | none => simp [ExperimentRecord.collect, held]
      | some attempt =>
          rw [List.getLast?_cons]
          cases (rest.filterMap record.authoritativeAttempt).getLast? with
          | none => simp [ExperimentRecord.collect, held]
          | some last => rfl

/-- The seed survives when every trial has one. -/
theorem collect_seed : (trials.foldl record.collect result).seed =
    if trials.any (·.seed.isNone) then none else result.seed := by
  induction trials generalizing result with
  | nil => rfl
  | cons trial rest ih =>
      rw [List.foldl_cons, ih]
      cases seed : trial.seed with
      | none => cases held : result.seed <;> simp [ExperimentRecord.collect, seed, held]
      | some value => simp [ExperimentRecord.collect, seed]

/-- What does not depend on the trials. -/
theorem collect_inputSetPresent :
    (trials.foldl record.collect result).inputSetPresent = result.inputSetPresent := by
  induction trials generalizing result with
  | nil => rfl
  | cons trial rest ih => rw [List.foldl_cons, ih, ExperimentRecord.collect]

end Collecting

/-! ## Materials -/

/-- The six materials with their names, each present or not in a record. -/
def ReproducibilityRecord.materials (result : ReproducibilityRecord) : List (Text × Bool) :=
  [(text "seed", result.seed.isSome), (text "input-set-identity", result.inputSetPresent),
    (text "environment-fingerprint", !result.environmentFingerprint.isEmpty),
    (text "executable-identity", !result.executableIdentity.isEmpty),
    (text "producer-identity", !result.producerIdentity.isEmpty),
    (text "artifact-references", !result.artifacts.isEmpty)]

/-- The classification is justified by the record itself: every material is present when it is called
reproducible, and every absent material is named. -/
structure ReproducibilityRecord.Justified (result : ReproducibilityRecord) : Prop where
  complete : result.status = .reproducible → ∀ material ∈ result.materials, material.2 = true
  named : ∀ material ∈ result.materials, material.2 = false →
    material.1 ∈ result.missingMaterials

section Justification

variable [MetricReal R] [ToChars R] [StdSort] {record : ExperimentRecord R}
  {branch : BranchDefinition}

omit [MetricReal R] [ToChars R] [StdSort] in
theorem classify_reproducible_iff (result : ReproducibilityRecord) :
    result.classify = .reproducible ↔ result.missingMaterials = [] := by
  unfold ReproducibilityRecord.classify
  split
  · rename_i empty
    exact iff_of_true rfl empty
  · rename_i some
    refine iff_of_false ?_ some
    split_ifs <;> simp

/-- A record is justified as soon as its absent materials are named. -/
theorem justified_iff_named :
    (record.reproducibility branch).Justified ↔
      ∀ material ∈ (record.reproducibility branch).materials, material.2 = false →
        material.1 ∈ (record.reproducibility branch).missingMaterials := by
  refine ⟨fun justified => justified.named, fun named => ⟨fun status material member => ?_, named⟩⟩
  have empty : (record.reproducibility branch).missingMaterials = [] :=
    (classify_reproducible_iff _).mp status
  by_contra absent
  have listed := named material member (by simpa using absent)
  rw [empty] at listed
  exact List.not_mem_nil listed

/-- A material is named exactly when its test fails. -/
theorem mem_missingMaterials_iff {test : Bool × Text}
    (tested : test ∈ record.materialTests branch (record.reproducibility branch)) :
    test.2 ∈ (record.reproducibility branch).missingMaterials ↔ test.1 = true := by
  have distinct : ((record.materialTests branch (record.reproducibility branch)).map
      Prod.snd).Nodup :=
    show [text "environment-fingerprint", text "input-set-identity", text "seed",
      text "producer-identity", text "artifact-references", text "executable-identity"].Nodup by
        decide
  have listed : test.2 ∈ (record.reproducibility branch).missingMaterials ↔
      test.2 ∈ record.testMaterials branch (record.reproducibility branch) := by
    simp only [ExperimentRecord.reproducibility, List.mem_dedup, List.mem_insertionSort]
    rfl
  rw [listed, ExperimentRecord.testMaterials, List.mem_filterMap]
  constructor
  · rintro ⟨other, member, named⟩
    split at named
    · rename_i failed
      have same := List.inj_on_of_nodup_map distinct member tested (Option.some.inj named)
      rwa [← same]
    · cases named
  · intro failed
    exact ⟨test, tested, by rw [if_pos failed]⟩

/-- The trials the query collects from. -/
def ExperimentRecord.collectedTrials (record : ExperimentRecord R) (branch : BranchId) :
    List TrialRecord :=
  record.trials.values.filter (record.collects branch)

theorem reproducibility_seed : (record.reproducibility branch).seed =
    if (record.collectedTrials branch.id).any (·.seed.isNone) then none else branch.seed := by
  simp only [ExperimentRecord.reproducibility, collect_seed]
  rfl

theorem reproducibility_inputSetPresent :
    (record.reproducibility branch).inputSetPresent = branch.inputSetPresent := by
  simp only [ExperimentRecord.reproducibility, collect_inputSetPresent]
  rfl

/-- What the tests of the query rely on: a seed is not only that of the experiment, the trials have
kept the seed of the branch, and the provenance is missing only with the environment. -/
structure ExperimentRecord.Traceable (record : ExperimentRecord R) (branch : BranchDefinition) :
    Prop where
  branchSeed : branch.seed = none → record.definition.experimentSeed = none
  trialSeeds : branch.seed.isSome = true →
    ∀ trial ∈ record.collectedTrials branch.id, trial.seed.isSome = true
  executable : record.definition.provenance = [] → branch.environmentFingerprint = []

/-- The record of a branch is justified exactly when the tests look at the material they name. -/
theorem justified_iff :
    (record.reproducibility branch).Justified ↔ record.Traceable branch := by
  have tests : ∀ flag name, (flag, name) ∈
      record.materialTests branch (record.reproducibility branch) →
        (name ∈ (record.reproducibility branch).missingMaterials ↔ flag = true) :=
    fun flag name tested => mem_missingMaterials_iff tested
  simp only [ExperimentRecord.materialTests] at tests
  have fingerprint := tests _ _ (.head _)
  have inputSet := tests _ _ (.tail _ (.head _))
  have seed := tests _ _ (.tail _ (.tail _ (.head _)))
  have producer := tests _ _ (.tail _ (.tail _ (.tail _ (.head _))))
  have artifacts := tests _ _ (.tail _ (.tail _ (.tail _ (.tail _ (.head _)))))
  have executable := tests _ _ (.tail _ (.tail _ (.tail _ (.tail _ (.tail _ (.head _))))))
  have sameFingerprint :
      (record.reproducibility branch).environmentFingerprint = branch.environmentFingerprint := rfl
  have provenance :
      (record.reproducibility branch).executableIdentity = record.definition.provenance := rfl
  rw [justified_iff_named]
  simp only [ReproducibilityRecord.materials, List.forall_mem_cons, fingerprint, inputSet,
    seed, producer, artifacts, executable, reproducibility_seed, sameFingerprint,
    reproducibility_inputSetPresent, provenance]
  constructor
  · rintro ⟨seeds, -, -, executed, -⟩
    refine ⟨fun unseeded => ?_, fun seeded trial member => ?_, fun empty => ?_⟩
    · have absent := seeds (by rw [unseeded, ite_self, Option.isSome_none])
      simpa [unseeded] using absent
    · by_contra lost
      have cleared : (record.collectedTrials branch.id).any (·.seed.isNone) = true :=
        List.any_eq_true.mpr ⟨trial, member, by simpa using lost⟩
      have absent := seeds (by rw [if_pos cleared, Option.isSome_none])
      rw [Bool.and_eq_true, Option.isNone_iff_eq_none] at absent
      rw [absent.1] at seeded
      cases seeded
    · simpa using executed (by rw [empty]; rfl)
  · rintro ⟨branchSeed, trialSeeds, traced⟩
    refine ⟨fun absent => ?_, by simp, by simp, fun empty => ?_, by simp, by simp, by simp⟩
    · cases held : branch.seed with
      | none => simp [branchSeed held]
      | some value =>
          have kept : (record.collectedTrials branch.id).any (·.seed.isNone) = false := by
            rw [List.any_eq_false]
            intro trial member
            have seeded := trialSeeds (by rw [held]; rfl) trial member
            rw [Option.isNone_iff_eq_none, ← ne_eq, ← Option.isSome_iff_ne_none]
            exact seeded
          rw [kept, held] at absent
          cases absent
    · simpa using traced (by simpa using empty)

/-- A query answers with the record of a branch that exists. -/
theorem reproducibility_eq_ok_iff {c : Coordinator R} {experiment : ExperimentId} {id : BranchId}
    {result : ReproducibilityRecord} :
    c.reproducibility experiment id = .ok result ↔
      ∃ record branch, c.findExperiment experiment = some record ∧
        record.findBranch id = some branch ∧ result = record.reproducibility branch := by
  simp only [Coordinator.reproducibility, demand_bind_eq_ok]
  constructor
  · rintro ⟨record, found, branch, known, ended⟩
    exact ⟨record, branch, found, known, (Except.ok.inj ended).symm⟩
  · rintro ⟨record, branch, found, known, rfl⟩
    exact ⟨record, found, branch, known, rfl⟩

/-- The answer of a query is justified exactly when what the record has of the branch is traceable. -/
theorem reproducibility_justified_iff {c : Coordinator R} {experiment : ExperimentId} {id : BranchId}
    {result : ReproducibilityRecord} (answered : c.reproducibility experiment id = .ok result) :
    ∃ record branch, c.findExperiment experiment = some record ∧
      record.findBranch id = some branch ∧ (result.Justified ↔ record.Traceable branch) := by
  obtain ⟨record, branch, found, known, rfl⟩ := reproducibility_eq_ok_iff.mp answered
  exact ⟨record, branch, found, known, justified_iff⟩

end Justification

/-! ## Samples -/

/-- The text of the whole numbers of the samples. -/
instance rationalChars : ToChars ℚ where
  toChars value := ((if value < 0 then text "-" else []) ++ decimal value.num.natAbs).take 64
  toChars_length _ := List.length_take_le _ _

namespace Sample

/-- The answer of the query with a stable sort. -/
def candidateReport (c : Coordinator ℚ) : Result ReproducibilityRecord :=
  letI := stableSort
  c.reproducibility experiment candidate

/-- The query is answered, and the record and the answer pass a test. -/
def reportPasses (c : Coordinator ℚ)
    (test : ExperimentRecord ℚ → ReproducibilityRecord → Bool) : Bool :=
  match c.findExperiment experiment, candidateReport c with
  | some record, .ok result => test record result
  | _, _ => false

theorem of_reportPasses {c : Coordinator ℚ}
    {test : ExperimentRecord ℚ → ReproducibilityRecord → Bool}
    (passes : reportPasses c test = true) :
    ∃ record result, c.findExperiment experiment = some record ∧ candidateReport c = .ok result ∧
      test record result = true := by
  unfold reportPasses at passes
  split at passes
  · rename_i record result found answered
    exact ⟨record, result, found, answered, passes⟩
  · cases passes

/-- The sample experiment with an input set, an environment and a seed for its candidate. -/
def tracedSpec : ExperimentSpec ℚ :=
  { spec with
    branches := [{ name := text "baseline", role := .baseline },
      { name := text "candidate", inputSet := some (text "inputs"),
        environmentFingerprint := text "container", seed := some 1 }] }

/-- The candidate has a committed trial with one artifact. -/
def traced : Coordinator ℚ :=
  coordinator.session [(.createExperiment tracedSpec, none),
    (.createTrial experiment candidate [], none), (.registerWorker { worker, boot }, none),
    (.claimTrials { epoch := coordinator.epoch, worker, boot }, none),
    (.publishObservation { epoch := coordinator.epoch, worker, boot, observation }, none),
    (.commitTrial { epoch := coordinator.epoch, worker, boot, envelope,
                    artifacts := [{ id := ⟨1⟩, locator := text "report" }] }, none)]

theorem traced_reachable : (World.running traced).Reachable config.statePath :=
  coordinator_reachable.session _

end Sample

/-- A trial that is only claimed is reported without its materials, and they are named. -/
theorem reproducibility_justified_sample :
    ∃ result, Sample.candidateReport Sample.claimed = .ok result ∧ result.Justified := by
  obtain ⟨record, result, found, answered, traceable⟩ := Sample.of_reportPasses
    (show Sample.reportPasses Sample.claimed (fun record _ =>
      (record.findBranch Sample.candidate).all fun branch =>
        branch.seed.isNone && record.definition.experimentSeed.isNone &&
          branch.environmentFingerprint.isEmpty) = true by decide +kernel)
  obtain ⟨record', branch, found', known, justified⟩ :=
    @reproducibility_justified_iff ℚ _ _ stableSort _ _ _ _ answered
  obtain rfl := Option.some.inj (found.symm.trans found')
  refine ⟨result, answered, justified.mpr ?_⟩
  rw [known, Option.all_some] at traceable
  simp only [Bool.and_eq_true, Option.isNone_iff_eq_none, List.isEmpty_iff] at traceable
  obtain ⟨⟨branchSeed, experimentSeed⟩, environment⟩ := traceable
  refine ⟨fun _ => experimentSeed, fun seeded => ?_, fun _ => environment⟩
  rw [branchSeed] at seeded
  cases seeded

/-- A branch without an executable identity is called reproducible. -/
theorem reproducible_without_executable :
    (World.running Sample.traced).Reachable Sample.config.statePath ∧
    ∃ result, Sample.candidateReport Sample.traced = .ok result ∧ result.status = .reproducible ∧
      result.executableIdentity = [] ∧ ¬ result.Justified := by
  obtain ⟨record, result, -, answered, passed⟩ := Sample.of_reportPasses
    (show Sample.reportPasses Sample.traced (fun _ result =>
      result.status = .reproducible && result.executableIdentity = []) = true by decide +kernel)
  simp only [Bool.and_eq_true, decide_eq_true_eq] at passed
  obtain ⟨status, executable⟩ := passed
  refine ⟨Sample.traced_reachable, result, answered, status, executable, fun justified => ?_⟩
  have present := justified.complete status
    (text "executable-identity", !result.executableIdentity.isEmpty)
    (by simp [ReproducibilityRecord.materials])
  rw [executable] at present
  cases present

end ExperimentFabric
