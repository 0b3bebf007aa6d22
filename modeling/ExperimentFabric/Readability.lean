import ExperimentFabric.Canonical
import ExperimentFabric.Persistence
import Mathlib.Data.Nat.Digits.Lemmas

/-!
# Readability of canonical encodings

Canonical streams can be taken apart again: no two definitions that differ in an encoded field are fed
to the hasher as the same bytes.  Every word has its width, every text and every list its length before
it and every optional field its flag, so that the boundaries of the fields are where the bytes before
them say.
-/

namespace ExperimentFabric

open Lib

namespace Canonical

/-! ## Words, texts and optional fields -/

/-- A length of 64 bits. -/
def FitsLength (value : Text) : Prop := value.length < 2 ^ 64

instance : DecidablePred FitsLength := fun value => inferInstanceAs (Decidable (value.length < 2 ^ 64))

theorem determines_id {tag : Tag} : Determines (@StrongId.Fits tag) writeId id :=
  .of_codes codes_id

theorem determines_u32 : Determines FitsU32 writeU32 id := .of_codes codes_u32

theorem determines_boolean : Determines (fun _ => True) writeBoolean id := .of_codes codes_boolean

theorem determines_seed : Determines (fun _ => True) writeSeed id := .of_codes codes_seed

theorem determines_integer : Determines FitsInteger writeInteger id := .of_codes codes_integer

theorem determines_enum {E : Type} [DecidableEq E] [Enumeration E] :
    Determines (fun _ : E => True) writeEnum id :=
  .of_codes (codes_enum [])

theorem determines_text : Determines FitsLength writeText id := @Determines.sized 8

theorem determines_optional {α β : Type} {known : α → Prop} {write : α → Text} {view : α → β}
    (law : Determines known write view) :
    Determines (fun value => ∀ held ∈ value, known held) (writeOptional write) (Option.map view) := by
  rintro (_ | left) (_ | right) leftRest rightRest leftKnown rightKnown same
  · exact ⟨rfl, List.append_cancel_left same⟩
  · cases (determines_boolean false true _ _ trivial trivial (by
      simpa [writeOptional, List.append_assoc] using same)).1
  · cases (determines_boolean true false _ _ trivial trivial (by
      simpa [writeOptional, List.append_assoc] using same)).1
  · simp only [writeOptional, List.append_assoc] at same
    obtain ⟨viewed, rest⟩ := law left right _ _ (leftKnown left rfl) (rightKnown right rfl)
      (List.append_cancel_left same)
    exact ⟨congrArg some viewed, rest⟩

theorem determines_vector {α β : Type} {known : α → Prop} {write : α → Text} {view : α → β}
    (law : Determines known write view) :
    Determines (fun values => FitsU32 values.length ∧ ∀ value ∈ values, known value)
      (writeVector write) (List.map view) :=
  @Determines.counted _ _ _ _ _ 4 law

/-! ## Parameters -/

end Canonical

/-- The texts of a parameter have lengths. -/
structure ParameterAssignment.Encodable (parameter : ParameterAssignment) : Prop where
  key : Canonical.FitsLength parameter.key
  value : Canonical.FitsLength parameter.value

namespace Canonical

theorem determines_parameter (tag : Text) :
    Determines ParameterAssignment.Encodable (writeParameter tag) id := by
  refine Determines.record (.mark <| .field determines_text (fun _ fit => fit.key) <|
    .field determines_enum (fun _ _ => trivial) <|
    .field determines_text (fun _ fit => fit.value) .done) fun left right same => ?_
  cases left
  cases right
  simpa using same

/-- A parameter list that can be counted. -/
structure EncodableParameters (parameters : List ParameterAssignment) : Prop where
  length : FitsU32 parameters.length
  parameters : ∀ parameter ∈ parameters, parameter.Encodable

theorem determines_parameters :
    Determines EncodableParameters writeParameters normalizeParameters := by
  refine ((determines_vector (determines_parameter _)).comap normalizeParameters).weaken
    (fun parameters fit => ?_) fun left right _ _ same => by simpa using same
  have sorted : (normalizeParameters parameters).Perm parameters := List.mergeSort_perm _ _
  exact ⟨sorted.length_eq ▸ fit.length,
    fun parameter member => fit.parameters parameter (sorted.mem_iff.mp member)⟩

end Canonical

/-! ## Branches -/

/-- The numbers and lengths of a branch are words. -/
structure BranchDefinition.Encodable (branch : BranchDefinition) : Prop where
  id : branch.id.Fits
  name : Canonical.FitsLength branch.name
  parent : branch.parent.Fits
  generation : branch.generation.Fits
  parameters : Canonical.EncodableParameters branch.parameters
  inputSet : branch.inputSet.Fits
  environment : branch.environment.Fits
  environmentFingerprint : Canonical.FitsLength branch.environmentFingerprint
  plannedTrials : FitsU32 branch.plannedTrials

/-- A branch as it is encoded: parameters in order, without the fields that are not written. -/
def BranchDefinition.canonical (branch : BranchDefinition) : BranchDefinition :=
  { branch with
    parameters := normalizeParameters branch.parameters
    inputSet := branch.presentInputSet.getD .null
    environment := branch.presentEnvironment.getD .null
    createdSequence := 0 }

theorem presentInputSet_eq_iff {left right : BranchDefinition} :
    left.presentInputSet = right.presentInputSet ↔
      left.inputSetPresent = right.inputSetPresent ∧
        left.presentInputSet.getD .null = right.presentInputSet.getD .null := by
  unfold BranchDefinition.presentInputSet
  cases left.inputSetPresent <;> cases right.inputSetPresent <;> simp

theorem presentEnvironment_eq_iff {left right : BranchDefinition} :
    left.presentEnvironment = right.presentEnvironment ↔
      left.environmentPresent = right.environmentPresent ∧
        left.presentEnvironment.getD .null = right.presentEnvironment.getD .null := by
  unfold BranchDefinition.presentEnvironment
  cases left.environmentPresent <;> cases right.environmentPresent <;> simp

namespace Canonical

theorem determines_branch (tag : Text) :
    Determines BranchDefinition.Encodable (writeBranch tag) BranchDefinition.canonical := by
  refine Determines.record (.mark <| .field determines_id (fun _ fit => fit.id) <|
    .field determines_text (fun _ fit => fit.name) <|
    .field determines_enum (fun _ _ => trivial) <|
    .field determines_id (fun _ fit => fit.parent) <|
    .field determines_id (fun _ fit => fit.generation) <|
    .field determines_enum (fun _ _ => trivial) <|
    .field determines_parameters (fun _ fit => fit.parameters) <|
    .field (determines_optional determines_id) (fun branch fit id held => ?_) <|
    .field (determines_optional determines_id) (fun branch fit id held => ?_) <|
    .field determines_text (fun _ fit => fit.environmentFingerprint) <|
    .field (determines_optional determines_seed) (fun _ _ _ _ => trivial) <|
    .field determines_u32 (fun _ fit => fit.plannedTrials) <|
    .field determines_boolean (fun _ _ => trivial) .done) fun left right same => ?_
  · unfold BranchDefinition.presentInputSet at held
    split at held
    · exact Option.some.inj held ▸ fit.inputSet
    · cases held
  · unfold BranchDefinition.presentEnvironment at held
    split at held
    · exact Option.some.inj held ▸ fit.environment
    · cases held
  · simp only [Prod.mk.injEq, id_eq, Option.map_id_fun, presentInputSet_eq_iff,
      presentEnvironment_eq_iff] at same
    unfold BranchDefinition.canonical
    grind

end Canonical

/-! ## Reals -/

section Reals

variable {R : Type} [MetricReal R]

/-- A real that is neither NaN nor a negative zero. -/
structure PlainReal (value : R) : Prop where
  ordered : MetricReal.eq value value = true
  zero : MetricReal.eq value (MetricReal.ofInt 0) = true → value = MetricReal.ofInt 0

/-- Different plain reals have different texts. -/
def SeparatesReals (R : Type) [MetricReal R] [ToChars R] : Prop :=
  ∀ left right : R, PlainReal left → PlainReal right →
    Canonical.encodeReal left = Canonical.encodeReal right → left = right

namespace Canonical

variable [ToChars R]

theorem encodeReal_length (value : R) : (encodeReal value).length ≤ 64 := by
  have chars := ToChars.toChars_length value
  unfold encodeReal
  split_ifs <;> first | decide | exact chars

/-- The text of any real is determined. -/
theorem determines_realText : Determines (fun _ : R => True) writeReal encodeReal :=
  (determines_text.comap encodeReal).weaken
    (fun value _ => (encodeReal_length value).trans_lt (by decide)) fun _ _ _ _ same => same

/-- A plain real is determined. -/
theorem determines_real (separates : SeparatesReals R) :
    Determines (PlainReal (R := R)) writeReal id :=
  determines_realText.weaken (fun _ _ => trivial) separates

end Canonical

end Reals

/-! ## Comparison rules, metrics and policies -/

section Definitions

variable {R : Type} [MetricReal R]

/-- The numbers of a rule are words and plain reals. -/
structure ComparisonRule.Encodable (rule : ComparisonRule R) : Prop where
  metric : rule.metric.Fits
  threshold : PlainReal rule.threshold
  targetLow : PlainReal rule.targetLow
  targetHigh : PlainReal rule.targetHigh
  priority : FitsU32 rule.priority

/-- The numbers, bounds and lengths of a metric are words and plain reals. -/
structure MetricDefinition.Encodable (metric : MetricDefinition R) : Prop where
  id : metric.id.Fits
  name : Canonical.FitsLength metric.name
  unit : Canonical.FitsLength metric.unit
  lowerBound : ∀ bound ∈ metric.lowerBound, PlainReal bound
  upperBound : ∀ bound ∈ metric.upperBound, PlainReal bound
  targetLow : ∀ target ∈ metric.targetLow, PlainReal target
  targetHigh : ∀ target ∈ metric.targetHigh, PlainReal target
  weight : FitsU32 metric.weight
  priority : FitsU32 metric.priority
  categoryCount : FitsU32 metric.categories.length
  categories : ∀ category ∈ metric.categories, Canonical.FitsLength category

/-- The numbers of a policy are words and plain reals. -/
structure ComparisonPolicy.Encodable (policy : ComparisonPolicy R) : Prop where
  id : policy.id.Fits
  generation : policy.generation.Fits
  minCompletedTrialsPerBranch : FitsU32 policy.minCompletedTrialsPerBranch
  minValidObservationsPerRequiredMetric : FitsU32 policy.minValidObservationsPerRequiredMetric
  majorityWinsMinBasisPoints : FitsU32 policy.majorityWinsMinBasisPoints
  acceptScoreThreshold : PlainReal policy.acceptScoreThreshold
  ruleCount : FitsU32 policy.rules.length
  rules : ∀ rule ∈ policy.rules, rule.Encodable

variable [StdSort]

/-- A metric as it is encoded, with its categories in order. -/
def MetricDefinition.canonical (metric : MetricDefinition R) : MetricDefinition R :=
  { metric with categories := Canonical.sortedCategories metric.categories }

/-- A policy as it is encoded, with its rules in order. -/
def ComparisonPolicy.canonical (policy : ComparisonPolicy R) : ComparisonPolicy R :=
  { policy with rules := Canonical.sortedRules policy.rules }

namespace Canonical

variable [ToChars R]

omit [StdSort] in
theorem determines_rule (separates : SeparatesReals R) (tag : Text) :
    Determines (ComparisonRule.Encodable (R := R)) (writeRule tag) id := by
  have real := determines_real separates
  refine Determines.record (.mark <| .field determines_id (fun _ fit => fit.metric) <|
    .field determines_enum (fun _ _ => trivial) <|
    .field real (fun _ fit => fit.threshold) <| .field real (fun _ fit => fit.targetLow) <|
    .field real (fun _ fit => fit.targetHigh) <|
    .field determines_u32 (fun _ fit => fit.priority) .done) fun left right same => ?_
  cases left
  cases right
  simpa using same

theorem determines_metric (separates : SeparatesReals R) (tag : Text) :
    Determines (MetricDefinition.Encodable (R := R)) (writeMetric tag)
      MetricDefinition.canonical := by
  have bound := determines_optional (determines_real separates)
  refine Determines.record (.mark <| .field determines_id (fun _ fit => fit.id) <|
    .field determines_text (fun _ fit => fit.name) <|
    .field determines_text (fun _ fit => fit.unit) <|
    .field determines_enum (fun _ _ => trivial) <| .field determines_enum (fun _ _ => trivial) <|
    .field determines_enum (fun _ _ => trivial) <|
    .field determines_boolean (fun _ _ => trivial) <|
    .field determines_boolean (fun _ _ => trivial) <|
    .field bound (fun _ fit => fit.lowerBound) <| .field bound (fun _ fit => fit.upperBound) <|
    .field bound (fun _ fit => fit.targetLow) <| .field bound (fun _ fit => fit.targetHigh) <|
    .field determines_u32 (fun _ fit => fit.weight) <|
    .field determines_u32 (fun _ fit => fit.priority) <|
    .field (determines_vector determines_text) (fun metric fit => ?_) .done)
      fun left right same => ?_
  · have sorted : (sortedCategories metric.categories).Perm metric.categories := StdSort.perm _ _
    exact ⟨sorted.length_eq ▸ fit.categoryCount,
      fun category member => fit.categories category (sorted.mem_iff.mp member)⟩
  · cases left
    cases right
    simpa [MetricDefinition.canonical] using same

theorem determines_policy (separates : SeparatesReals R) (tag : Text) :
    Determines (ComparisonPolicy.Encodable (R := R)) (writePolicy tag)
      ComparisonPolicy.canonical := by
  refine Determines.record (.mark <| .field determines_id (fun _ fit => fit.id) <|
    .field determines_id (fun _ fit => fit.generation) <|
    .field determines_boolean (fun _ _ => trivial) <|
    .field determines_u32 (fun _ fit => fit.minCompletedTrialsPerBranch) <|
    .field determines_u32 (fun _ fit => fit.minValidObservationsPerRequiredMetric) <|
    .field determines_boolean (fun _ _ => trivial) <|
    .field determines_boolean (fun _ _ => trivial) <|
    .field determines_u32 (fun _ fit => fit.majorityWinsMinBasisPoints) <|
    .field determines_boolean (fun _ _ => trivial) <|
    .field (determines_real separates) (fun _ fit => fit.acceptScoreThreshold) <|
    .field (determines_vector (determines_rule separates _)) (fun policy fit => ?_) .done)
      fun left right same => ?_
  · have sorted : (sortedRules policy.rules).Perm policy.rules := StdSort.perm _ _
    exact ⟨sorted.length_eq ▸ fit.ruleCount,
      fun rule member => fit.rules rule (sorted.mem_iff.mp member)⟩
  · cases left
    cases right
    simpa [ComparisonPolicy.canonical] using same

end Canonical

/-- The numbers, bounds and lengths of a definition are words and plain reals. -/
structure ExperimentDefinition.Encodable (definition : ExperimentDefinition R) : Prop where
  id : definition.id.Fits
  generation : definition.generation.Fits
  hypothesis : definition.hypothesis.Fits
  hypothesisRevision : definition.hypothesisRevision.Fits
  name : Canonical.FitsLength definition.name
  branchCount : FitsU32 definition.branches.length
  branches : ∀ branch ∈ definition.branches, branch.Encodable
  metricCount : FitsU32 definition.metrics.length
  metrics : ∀ metric ∈ definition.metrics, metric.Encodable
  policy : definition.policy.Encodable
  maxAttemptsPerTrial : FitsU32 definition.maxAttemptsPerTrial
  parameters : Canonical.EncodableParameters definition.parameters
  provenance : Canonical.FitsLength definition.provenance

/-- A definition as it is encoded: branches and metrics by identity, each as it is encoded, and the
parameters in order. -/
def ExperimentDefinition.canonical (definition : ExperimentDefinition R) :
    ExperimentDefinition R :=
  { definition with
    branches := (Canonical.sortedBranches definition.branches).map BranchDefinition.canonical
    metrics := (Canonical.sortedMetrics definition.metrics).map MetricDefinition.canonical
    policy := definition.policy.canonical
    parameters := normalizeParameters definition.parameters
    createdSequence := 0 }

namespace Canonical

variable [ToChars R]

theorem determines_definition (separates : SeparatesReals R) :
    Determines (ExperimentDefinition.Encodable (R := R)) definitionStream
      ExperimentDefinition.canonical := by
  refine Determines.record (.mark <| .mark <| .field determines_id (fun _ fit => fit.id) <|
    .field determines_id (fun _ fit => fit.generation) <|
    .field determines_id (fun _ fit => fit.hypothesis) <|
    .field determines_id (fun _ fit => fit.hypothesisRevision) <|
    .field determines_text (fun _ fit => fit.name) <|
    .field (determines_vector (determines_branch _)) (fun definition fit => ?_) <|
    .field (determines_vector (determines_metric separates _)) (fun definition fit => ?_) <|
    .field (determines_policy separates _) (fun _ fit => fit.policy) <|
    .field determines_enum (fun _ _ => trivial) <|
    .field (determines_optional determines_seed) (fun _ _ _ _ => trivial) <|
    .field determines_enum (fun _ _ => trivial) <|
    .field determines_u32 (fun _ fit => fit.maxAttemptsPerTrial) <|
    .field determines_enum (fun _ _ => trivial) <| .field determines_enum (fun _ _ => trivial) <|
    .field determines_parameters (fun _ fit => fit.parameters) <|
    .field determines_text (fun _ fit => fit.provenance) .done) fun left right same => ?_
  · have sorted : (sortedBranches definition.branches).Perm definition.branches := StdSort.perm _ _
    exact ⟨sorted.length_eq ▸ fit.branchCount,
      fun branch member => fit.branches branch (sorted.mem_iff.mp member)⟩
  · have sorted : (sortedMetrics definition.metrics).Perm definition.metrics := StdSort.perm _ _
    exact ⟨sorted.length_eq ▸ fit.metricCount,
      fun metric member => fit.metrics metric (sorted.mem_iff.mp member)⟩
  · cases left
    cases right
    simpa [ExperimentDefinition.canonical] using same

/-- Definitions with the same stream agree on every encoded field. -/
theorem definitionStream_injective (separates : SeparatesReals R)
    {left right : ExperimentDefinition R} (leftFits : left.Encodable) (rightFits : right.Encodable)
    (same : definitionStream left = definitionStream right) : left.canonical = right.canonical :=
  (determines_definition separates).view_eq leftFits rightFits same

end Canonical

end Definitions

/-! ## Samples -/

/-- The decimal text of a number gives the number back. -/
theorem ofDigits_decimal (value : Nat) :
    Nat.ofDigits 10 ((decimal value).reverse.map fun character => character.toNat - 48) = value := by
  unfold decimal
  split
  · rename_i zero
    rw [zero]
    rfl
  · have same : ((Nat.digits 10 value).map fun digit => (UInt8.ofNat (48 + digit)).toNat - 48) =
        Nat.digits 10 value := by
      refine (List.map_congr_left fun digit member => ?_).trans (List.map_id _)
      have small : digit < 10 := Nat.digits_lt_base (by decide) member
      rw [UInt8.toNat_ofNat', id]
      omega
    rw [← List.map_reverse, List.reverse_reverse, List.map_map]
    exact (congrArg (Nat.ofDigits 10) same).trans (Nat.ofDigits_digits 10 value)

theorem decimal_injective {left right : Nat} (same : decimal left = decimal right) :
    left = right := by
  rw [← ofDigits_decimal left, same, ofDigits_decimal]

theorem decimal_length_le {value : Nat} (word : value < 2 ^ 64) : (decimal value).length ≤ 64 := by
  unfold decimal
  split
  · decide
  · rw [List.length_map, List.length_reverse, Nat.digits_length_le_iff (by decide)]
    omega

/-- The text of the words that stand for reals. -/
instance wordChars : ToChars UInt64 where
  toChars value := decimal value.toNat
  toChars_length value := decimal_length_le value.toNat_lt

namespace Sample

theorem word_plain (value : UInt64) : PlainReal value where
  ordered := by simp [MetricReal.eq]
  zero := of_decide_eq_true

theorem encodeReal_word (value : UInt64) :
    Canonical.encodeReal value = decimal value.toNat := by
  have ordered : MetricReal.eq value value = true := (word_plain value).ordered
  have finite : MetricReal.isFinite value = true := rfl
  rw [Canonical.encodeReal, ordered, finite]
  simp only [Bool.not_true, Bool.false_eq_true, if_false]
  split
  · rename_i zero
    rw [(word_plain value).zero zero]
    decide
  · rfl

theorem words_separated : SeparatesReals UInt64 := by
  intro left right _ _ same
  rw [encodeReal_word, encodeReal_word] at same
  exact UInt64.toNat_inj.mp (decimal_injective same)

/-- Two branches and a metric. -/
def ordered : ExperimentDefinition UInt64 where
  id := ⟨1⟩
  generation := ⟨1⟩
  branches := [{ id := ⟨1⟩, name := text "baseline", role := .baseline },
    { id := ⟨2⟩, name := text "candidate", inputSet := ⟨5⟩ }]
  metrics := [{ id := ⟨1⟩, name := text "latency", lowerBound := some 0 }]
  policy := { id := ⟨1⟩, acceptScoreThreshold := 1 }

/-- The same definition, declared the other way around at another time. -/
def declaredBackwards : ExperimentDefinition UInt64 :=
  { ordered with
    branches := [{ id := ⟨2⟩, name := text "candidate" },
      { id := ⟨1⟩, name := text "baseline", role := .baseline }]
    createdSequence := 7 }

theorem noParameters : Canonical.EncodableParameters [] := ⟨by decide, by simp⟩

theorem ordered_encodable : ordered.Encodable where
  id := by decide
  generation := by decide
  hypothesis := by decide
  hypothesisRevision := by decide
  name := by decide
  branchCount := by decide
  branches := by
    intro branch member
    rcases List.mem_pair.mp member with rfl | rfl
    · exact ⟨by decide, by decide, by decide, by decide, noParameters, by decide, by decide,
        by decide, by decide⟩
    · exact ⟨by decide, by decide, by decide, by decide, noParameters, by decide, by decide,
        by decide, by decide⟩
  metricCount := by decide
  metrics := by
    intro metric member
    obtain rfl := List.mem_singleton.mp member
    exact ⟨by decide, by decide, by decide, fun bound _ => word_plain bound, by simp, by simp,
      by simp, by decide, by decide, by decide, by simp⟩
  policy := ⟨by decide, by decide, by decide, by decide, by decide, word_plain 1, by decide,
    by simp [ordered]⟩
  maxAttemptsPerTrial := by decide
  parameters := noParameters
  provenance := by decide

theorem declaredBackwards_encodable : declaredBackwards.Encodable :=
  { ordered_encodable with
    branchCount := by decide
    branches := by
      intro branch member
      rcases List.mem_pair.mp member with rfl | rfl
      · exact ⟨by decide, by decide, by decide, by decide, noParameters, by decide, by decide,
          by decide, by decide⟩
      · exact ⟨by decide, by decide, by decide, by decide, noParameters, by decide, by decide,
          by decide, by decide⟩ }

/-- The stream of a definition under a stable sort. -/
def stream (definition : ExperimentDefinition UInt64) : Text :=
  letI := stableSort
  Canonical.definitionStream definition

end Sample

/-- Two declarations of one definition have one stream, so they agree in canonical form. -/
theorem definitionStream_sample :
    letI := stableSort
    Sample.ordered.canonical = Sample.declaredBackwards.canonical :=
  @Canonical.definitionStream_injective UInt64 _ stableSort _ Sample.words_separated
    _ _ Sample.ordered_encodable Sample.declaredBackwards_encodable
    (show Sample.stream Sample.ordered = Sample.stream Sample.declaredBackwards by decide +kernel)

end ExperimentFabric
