import ExperimentFabric.Conformance
import ExperimentFabric.Reproducibility
import Mathlib.Data.List.Flatten

/-!
# Reported authority

The reproducibility query has a filter of its own, weaker than the one for authoritative trials: it
does not look at the generation of the branch, the hypothesis revision or the policy, it takes the
artifacts of every attempt, and it counts observations without any filter.
-/

namespace ExperimentFabric

open Lib

variable {R : Type}

/-! ## Longer lists -/

/-- Pieces of a concatenation make up the whole only when each piece is whole. -/
theorem flatMap_perm_iff {α β : Type} {items : List α} {part whole : α → List β}
    (within : ∀ item ∈ items, (part item).Sublist (whole item)) :
    (items.flatMap part).Perm (items.flatMap whole) ↔ ∀ item ∈ items, part item = whole item := by
  refine ⟨fun perm => ?_, fun same => by rw [List.flatMap_congr same]⟩
  have length := perm.length_eq
  clear perm
  induction items with
  | nil => exact fun item member => absurd member List.not_mem_nil
  | cons first rest ih =>
      have here := within first List.mem_cons_self
      have later : ∀ item ∈ rest, (part item).Sublist (whole item) :=
        fun item member => within item (List.mem_cons_of_mem _ member)
      have shorter := here.length_le
      have shorterRest := (List.Sublist.flatMap_right rest later).length_le
      simp only [List.flatMap_cons, List.length_append] at length
      intro item member
      rcases List.mem_cons.mp member with rfl | member
      · exact here.eq_of_length (by omega)
      · exact ih later (by omega) item member

/-- Two tests count alike exactly when the wider one accepts nothing more. -/
theorem countP_eq_iff {α : Type} {items : List α} {wide narrow : α → Bool} :
    items.countP wide = items.countP (fun item => wide item && narrow item) ↔
      ∀ item ∈ items, wide item = true → narrow item = true := by
  have counted : items.countP (fun item => wide item && narrow item) =
      (items.filter wide).countP narrow := by
    rw [List.countP_filter]
    exact List.countP_congr fun item _ => by simp [and_comm]
  rw [counted, List.countP_eq_length_filter, eq_comm, List.countP_eq_length]
  simp [List.mem_filter]

/-- Sorted lists are equal exactly when the lists are permutations of each other. -/
theorem insertionSort_eq_iff {α : Type} [LinearOrder α] {left right : List α} :
    left.insertionSort (· ≤ ·) = right.insertionSort (· ≤ ·) ↔ left.Perm right := by
  constructor
  · intro same
    exact (List.perm_insertionSort _ left).symm.trans (same ▸ List.perm_insertionSort _ right)
  · intro perm
    refine List.Perm.eq_of_pairwise' (List.pairwise_insertionSort (· ≤ ·) left)
      (List.pairwise_insertionSort (· ≤ ·) right) ?_
    exact (List.perm_insertionSort _ left).trans
      (perm.trans (List.perm_insertionSort _ right).symm)

/-! ## Authority of what is reported -/

namespace ExperimentRecord

/-- The artifact was produced by the authoritative attempt of the trial. -/
def produced (record : ExperimentRecord R) (trial : TrialRecord) (id : ArtifactId) : Bool :=
  record.artifacts.any fun artifact =>
    artifact.id = id && artifact.attempt = trial.authoritativeAttempt

/-- The artifacts that authoritative trials have from their authoritative attempts. -/
def authoritativeArtifacts (record : ExperimentRecord R) (branch : BranchId) : List ArtifactId :=
  ((record.authoritativeTrials branch).flatMap fun trial =>
    trial.artifacts.filter (record.produced trial)).insertionSort (· ≤ ·)

/-- The observation was made by the authoritative attempt of an authoritative trial. -/
def attested (record : ExperimentRecord R) (branch : BranchId) (observation : Observation R) : Bool :=
  (record.authoritativeTrials branch).any fun trial =>
    observation.attempt = trial.authoritativeAttempt

/-- What is reported of a branch is what its authoritative attempts have produced. -/
structure Reports (record : ExperimentRecord R) (branch : BranchId)
    (result : ReproducibilityRecord) : Prop where
  artifacts : result.artifacts = record.authoritativeArtifacts branch
  producer :
    (∃ trial ∈ record.authoritativeTrials branch, ∃ attempt,
      record.authoritativeAttempt trial = some attempt ∧
        result.producerIdentity = attempt.identityText) ∨
    (∀ trial ∈ record.authoritativeTrials branch, record.authoritativeAttempt trial = none) ∧
      result.producerIdentity = []
  observationCount : result.observationCount = record.observations.countP fun observation =>
    observation.branch = branch && observation.validity = .valid &&
      record.attested branch observation

/-- The attempt whose producer the query reports: that of the last collected trial that has one. -/
def reportedAttempt (record : ExperimentRecord R) (branch : BranchId) : Option AttemptRecord :=
  ((record.collectedTrials branch).filterMap record.authoritativeAttempt).getLast?

/-- Everything the query picks up is current. -/
structure Unmixed (record : ExperimentRecord R) (branch : BranchDefinition) : Prop where
  artifacts : ∀ trial ∈ record.collectedTrials branch.id, ∀ id ∈ trial.artifacts,
    record.isAuthoritative branch trial = true ∧ record.produced trial id = true
  producer : ∀ reported, record.reportedAttempt branch.id = some reported →
    ∃ trial ∈ record.authoritativeTrials branch.id, ∃ attempt,
      record.authoritativeAttempt trial = some attempt ∧
        attempt.identityText = reported.identityText
  observations : ∀ observation ∈ record.observations, observation.branch = branch.id →
    observation.validity = .valid → record.attested branch.id observation = true

end ExperimentRecord

section Reporting

variable [MetricReal R] [ToChars R] [StdSort] {record : ExperimentRecord R}
  {branch : BranchDefinition}

theorem reproducibility_artifacts : (record.reproducibility branch).artifacts =
    ((record.collectedTrials branch.id).flatMap TrialRecord.artifacts).insertionSort (· ≤ ·) := by
  simp only [ExperimentRecord.reproducibility, collect_artifacts]
  rfl

theorem reproducibility_producer : (record.reproducibility branch).producerIdentity =
    ((record.reportedAttempt branch.id).map AttemptRecord.identityText).getD [] := by
  simp only [ExperimentRecord.reproducibility, collect_producer]
  rfl

omit [MetricReal R] [ToChars R] [StdSort] in
theorem identityText_ne_nil (attempt : AttemptRecord) : attempt.identityText ≠ [] := by
  intro empty
  have long : (attempt.identityText).length ≠ 0 := by
    have front : (text "producer:").length = 9 := by decide
    simp [AttemptRecord.identityText, front]
  exact long (by rw [empty]; rfl)

omit [MetricReal R] [ToChars R] [StdSort] in
/-- The authoritative trials are the current ones of those the query collects from. -/
theorem authoritative_perm_collected (known : record.findBranch branch.id = some branch) :
    (record.authoritativeTrials branch.id).Perm
      ((record.collectedTrials branch.id).filter (record.isAuthoritative branch)) := by
  have narrower : record.trials.values.filter (record.isAuthoritative branch) =
      (record.collectedTrials branch.id).filter (record.isAuthoritative branch) := by
    rw [ExperimentRecord.collectedTrials, List.filter_filter]
    refine List.filter_congr fun trial _ => ?_
    simp only [ExperimentRecord.isAuthoritative, ExperimentRecord.collects]
    grind
  simp only [ExperimentRecord.authoritativeTrials, known]
  rw [← narrower]
  exact List.perm_insertionSort _ _

omit [MetricReal R] [ToChars R] [StdSort] in
theorem authoritative_iff_collected (known : record.findBranch branch.id = some branch)
    {trial : TrialRecord} : trial ∈ record.authoritativeTrials branch.id ↔
      trial ∈ record.collectedTrials branch.id ∧ record.isAuthoritative branch trial = true := by
  rw [(authoritative_perm_collected known).mem_iff, List.mem_filter]

theorem artifacts_eq_iff (known : record.findBranch branch.id = some branch) :
    (record.reproducibility branch).artifacts = record.authoritativeArtifacts branch.id ↔
      ∀ trial ∈ record.collectedTrials branch.id, ∀ id ∈ trial.artifacts,
        record.isAuthoritative branch trial = true ∧ record.produced trial id = true := by
  have pieces : (record.authoritativeTrials branch.id).flatMap (fun trial =>
      trial.artifacts.filter (record.produced trial)) |>.Perm
        ((record.collectedTrials branch.id).flatMap fun trial =>
          trial.artifacts.filter fun id =>
            record.isAuthoritative branch trial && record.produced trial id) := by
    refine ((authoritative_perm_collected known).flatMap_right _).trans (.of_eq ?_)
    generalize record.collectedTrials branch.id = trials
    induction trials with
    | nil => rfl
    | cons trial rest ih =>
        cases current : record.isAuthoritative branch trial <;>
          simp [current, ih]
  rw [reproducibility_artifacts, ExperimentRecord.authoritativeArtifacts, insertionSort_eq_iff,
    List.perm_comm]
  refine ((pieces.congr_left _).trans (flatMap_perm_iff fun trial _ =>
    List.filter_sublist)).trans ?_
  simp only [List.filter_eq_self, Bool.and_eq_true]

theorem producer_iff (known : record.findBranch branch.id = some branch) :
    ((∃ trial ∈ record.authoritativeTrials branch.id, ∃ attempt,
      record.authoritativeAttempt trial = some attempt ∧
        (record.reproducibility branch).producerIdentity = attempt.identityText) ∨
    (∀ trial ∈ record.authoritativeTrials branch.id, record.authoritativeAttempt trial = none) ∧
      (record.reproducibility branch).producerIdentity = []) ↔
    ∀ reported, record.reportedAttempt branch.id = some reported →
      ∃ trial ∈ record.authoritativeTrials branch.id, ∃ attempt,
        record.authoritativeAttempt trial = some attempt ∧
          attempt.identityText = reported.identityText := by
  rw [reproducibility_producer]
  cases last : record.reportedAttempt branch.id with
  | none =>
      have unheld : ∀ trial ∈ record.collectedTrials branch.id,
          record.authoritativeAttempt trial = none := by
        rw [ExperimentRecord.reportedAttempt, List.getLast?_eq_none_iff] at last
        exact List.filterMap_eq_nil_iff.mp last
      refine iff_of_true (.inr ⟨fun trial current => ?_, rfl⟩) (by simp)
      exact unheld trial ((authoritative_iff_collected known).mp current).1
  | some reported =>
      simp only [Option.map_some, Option.getD_some, Option.some.injEq]
      constructor
      · rintro (⟨trial, current, attempt, held, same⟩ | ⟨-, empty⟩) other rfl
        · exact ⟨trial, current, attempt, held, same.symm⟩
        · exact absurd empty (identityText_ne_nil reported)
      · intro every
        obtain ⟨trial, current, attempt, held, same⟩ := every reported rfl
        exact .inl ⟨trial, current, attempt, held, same.symm⟩

theorem observationCount_iff : (record.reproducibility branch).observationCount =
    record.observations.countP (fun observation =>
      observation.branch = branch.id && observation.validity = .valid &&
        record.attested branch.id observation) ↔
    ∀ observation ∈ record.observations, observation.branch = branch.id →
      observation.validity = .valid → record.attested branch.id observation = true := by
  change record.observations.countP (fun observation =>
    observation.branch = branch.id && observation.validity = .valid) = _ ↔ _
  rw [countP_eq_iff]
  simp only [Bool.and_eq_true, decide_eq_true_eq, and_imp]

/-- The report of a branch is that of its authoritative attempts exactly when nothing else was
picked up. -/
theorem reports_iff (known : record.findBranch branch.id = some branch) :
    record.Reports branch.id (record.reproducibility branch) ↔ record.Unmixed branch := by
  constructor
  · rintro ⟨artifacts, producer, observations⟩
    exact ⟨(artifacts_eq_iff known).mp artifacts, (producer_iff known).mp producer,
      observationCount_iff.mp observations⟩
  · rintro ⟨artifacts, producer, observations⟩
    exact ⟨(artifacts_eq_iff known).mpr artifacts, (producer_iff known).mpr producer,
      observationCount_iff.mpr observations⟩

/-- The answer of a query reports current authority exactly when nothing else was picked up. -/
theorem reproducibility_reports_iff {c : Coordinator R} {experiment : ExperimentId} {id : BranchId}
    {result : ReproducibilityRecord} (answered : c.reproducibility experiment id = .ok result) :
    ∃ record branch, c.findExperiment experiment = some record ∧
      record.findBranch id = some branch ∧
      (record.Reports id result ↔ record.Unmixed branch) := by
  obtain ⟨record, branch, found, known, rfl⟩ := reproducibility_eq_ok_iff.mp answered
  obtain rfl := ExperimentRecord.findBranch_id known
  exact ⟨record, branch, found, known, reports_iff known⟩

end Reporting

/-- The committed trial is reported with its own producer, artifact and observation. -/
theorem reproducibility_reports_sample :
    ∃ record result, Sample.traced.findExperiment Sample.experiment = some record ∧
      Sample.candidateReport Sample.traced = .ok result ∧ record.Reports Sample.candidate result := by
  obtain ⟨record, result, found, answered, unmixed⟩ := Sample.of_reportPasses
    (show Sample.reportPasses Sample.traced (fun record _ =>
      (record.findBranch Sample.candidate).all fun branch =>
        (record.collectedTrials branch.id).all (fun trial =>
          record.isAuthoritative branch trial &&
            trial.artifacts.all (record.produced trial)) &&
        record.observations.all (record.attested branch.id)) = true by decide +kernel)
  obtain ⟨record', branch, found', known, reports⟩ :=
    @reproducibility_reports_iff ℚ _ _ stableSort _ _ _ _ answered
  obtain rfl := Option.some.inj (found.symm.trans found')
  rw [known, Option.all_some] at unmixed
  rw [← ExperimentRecord.findBranch_id known] at known
  simp only [Bool.and_eq_true, List.all_eq_true] at unmixed
  obtain ⟨trials, observations⟩ := unmixed
  refine ⟨record, result, found, answered, reports.mpr ⟨?_, ?_, ?_⟩⟩
  · exact fun trial collected id held => ⟨(trials trial collected).1, (trials trial collected).2 id held⟩
  · intro reported last
    obtain ⟨trial, collected, held⟩ := List.mem_filterMap.mp (List.mem_of_getLast? last)
    exact ⟨trial, (authoritative_iff_collected known).mpr ⟨collected, (trials trial collected).1⟩,
      reported, held, rfl⟩
  · exact fun observation member _ _ => observations observation member

/-- An observation of a trial that is not committed is counted. -/
theorem reproducibility_counts_uncommitted :
    (World.running Sample.observed).Reachable Sample.config.statePath ∧
    ∃ record result, Sample.observed.findExperiment Sample.experiment = some record ∧
      Sample.candidateReport Sample.observed = .ok result ∧
      record.authoritativeTrials Sample.candidate = [] ∧ result.observationCount = 1 ∧
      ¬ record.Reports Sample.candidate result := by
  obtain ⟨record, result, found, answered, passed⟩ := Sample.of_reportPasses
    (show Sample.reportPasses Sample.observed (fun record result =>
      (record.authoritativeTrials Sample.candidate).isEmpty && result.observationCount = 1) = true
      by decide +kernel)
  simp only [Bool.and_eq_true, decide_eq_true_eq, List.isEmpty_iff] at passed
  obtain ⟨uncommitted, counted⟩ := passed
  refine ⟨Sample.observed_reachable, record, result, found, answered, uncommitted, counted,
    fun reports => ?_⟩
  have none := reports.observationCount
  rw [counted, eq_comm] at none
  have unattested (observation : Observation ℚ) :
      record.attested Sample.candidate observation = false := by
    rw [ExperimentRecord.attested, uncommitted, List.any_nil]
  simp [unattested] at none

end ExperimentFabric
