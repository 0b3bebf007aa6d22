import ExperimentFabric.Descent
import ExperimentFabric.Lib.Mixers
import ExperimentFabric.Session

/-!
# Derived trial seeds

The generator mixes its state by steps that lose nothing, so the seeds it derives from the ordinals of
one experiment are distinct.  In every reachable state the trials of an experiment that derives its
seeds hold the seed of their own identity.
-/

namespace ExperimentFabric

open Lib

variable {R : Type}

/-- The first output of the generator determines its seed. -/
theorem nextU64_injective : Function.Injective nextU64 := by
  have scrambled : Function.Injective fun seed : UInt64 =>
      (seed ^^^ 0x9E3779B97F4A7C15) + 0x9E3779B97F4A7C15 := by
    intro left right same
    exact (UInt64.xor_left_inj _).mp ((UInt64.add_left_inj _).mp same)
  have first : Function.Injective fun state : UInt64 =>
      (state ^^^ (state >>> 30)) * 0xBF58476D1CE4E5B9 :=
    (mul_odd_injective (by decide)).comp (xorShiftRight_injective (by decide))
  have second : Function.Injective fun state : UInt64 =>
      (state ^^^ (state >>> 27)) * 0x94D049BB133111EB :=
    (mul_odd_injective (by decide)).comp (xorShiftRight_injective (by decide))
  have last : Function.Injective fun state : UInt64 => state ^^^ (state >>> 31) :=
    xorShiftRight_injective (by decide)
  exact last.comp (second.comp (first.comp scrambled))

/-- The seed derived for an ordinal determines the ordinal. -/
theorem deriveTrialSeed_inj (experimentSeed : UInt64) :
    Function.Injective (deriveTrialSeed experimentSeed) := by
  intro left right same
  have mixed := (UInt64.xor_right_inj experimentSeed).mp (nextU64_injective same)
  exact mul_odd_injective (by decide) mixed

/-! ## Seeds of trials -/

/-- The seeds of the trials are derived from their identities, where the policy says so. -/
def ExperimentRecord.SeedsDerived (record : ExperimentRecord R) : Prop :=
  record.definition.seedPolicy = .derivedPerTrial →
    ∀ key trial, record.trials.find? key = some trial →
      trial.seed = some (deriveTrialSeed (record.definition.experimentSeed.getD 0)
        (UInt64.ofNat key.value))

namespace ExperimentRecord.SeedsDerived

variable {record after : ExperimentRecord R}

theorem step (derived : record.SeedsDerived)
    (trials : OrderedMap.Evolves (fun trial trial' => trial'.fixed = trial.fixed)
      record.trials after.trials)
    (policy : after.definition.seedPolicy = record.definition.seedPolicy)
    (seed : after.definition.experimentSeed = record.definition.experimentSeed) :
    after.SeedsDerived := by
  intro perTrial key trial' found
  obtain ⟨trial, before, fixed⟩ := trials.source found
  have sameSeed := congrArg TrialRecord.seed fixed
  rw [seed]
  exact sameSeed.trans (derived (policy.symm.trans perTrial) key trial before)

theorem addTrial (derived : record.SeedsDerived) (experiment : ExperimentId)
    (branch : BranchDefinition) (id : TrialId) (payload : Text) (sequence : Nat) :
    (record.addTrial (record.newTrial experiment branch id payload sequence)).SeedsDerived := by
  intro perTrial key trial found
  have policy : record.definition.seedPolicy = .derivedPerTrial := perTrial
  rcases find?_addTrial found with before | ⟨rfl, rfl⟩
  · exact derived policy key trial before
  · rw [newTrial, trialSeed, policy]
    rfl

/-- Trials of 64-bit identities have different seeds. -/
theorem distinct (derived : record.SeedsDerived)
    (perTrial : record.definition.seedPolicy = .derivedPerTrial) {first second : TrialId}
    {one other : TrialRecord} (held : record.trials.find? first = some one)
    (held' : record.trials.find? second = some other) (word : first.value < 2 ^ 64)
    (word' : second.value < 2 ^ 64) (different : first ≠ second) : one.seed ≠ other.seed := by
  intro same
  rw [derived perTrial first one held, derived perTrial second other held'] at same
  have ordinals := congrArg UInt64.toNat (deriveTrialSeed_inj _ (Option.some.inj same))
  rw [UInt64.toNat_ofNat_of_lt' word, UInt64.toNat_ofNat_of_lt' word'] at ordinals
  exact different (congrArg StrongId.mk ordinals)

end ExperimentRecord.SeedsDerived

section Runs

variable [MetricReal R] [CanonicalDigests R]

/-- Seeds are derived from identities in every reachable state. -/
theorem seedsDerived_invariant :
    RecordInvariant (fun (_ : World R) _ => True) (@ExperimentRecord.SeedsDerived R) where
  logged := fun {record} {line} derived =>
    derived.step (Rewritten.carries (rewritten_log record line)).trials rfl rfl
  created := by
    rintro spec limits marks expected branches _ sequence - - rfl - perTrial key trial found
    simp [ExperimentSpec.record] at found
  changed := by
    intro c request fault experiment record after marks marks' _ effect _ derived
    apply derived.step (moves_rewritten effect.moves).carries.trials
    · exact effect.view_fixed ExperimentDefinition.seedPolicy fun _ _ _ _ => rfl
    · exact effect.view_fixed ExperimentDefinition.experimentSeed fun _ _ _ _ => rfl
  added := fun _ derived => derived.addTrial _ _ _ _ _
  issued := fun _ _ _ _ _ derived => derived.step (issue_trials ..) rfl rfl
  lost := by
    intro record marks worker boot kind attemptDetail trialDetail line sequence _ derived
    have definition := (loseWorker_fields worker boot kind attemptDetail trialDetail sequence line
      record).2
    apply derived.step (loseWorker_rewritten ..).carries.trials
    · exact congrArg ExperimentDefinition.seedPolicy definition
    · exact congrArg ExperimentDefinition.experimentSeed definition
  staged := by
    intro record sequence derived
    apply derived.step (stage_carries record sequence).trials
    · rw [stage_forget_fields record sequence]
      rfl
    · rw [stage_forget_fields record sequence]
      rfl
  recovered := by
    intro image config outcomes id record after _ _ same _ derived
    have definition := congrArg (fun forgotten => forgotten.definition) same
    apply derived.step (recovered_carries same).trials
    · exact congrArg ExperimentDefinition.seedPolicy definition
    · exact congrArg ExperimentDefinition.experimentSeed definition

/-- Derived seeds never collide: the derivation loses no ordinal of 64 bits, and in every reachable
state two trials of an experiment that derives its seeds have different ones. -/
theorem derivedSeeds_distinct :
    (∀ experimentSeed, Function.Injective (deriveTrialSeed experimentSeed)) ∧
    ∀ (path : Text) (c : Coordinator R), (World.running c).Reachable path →
      ∀ (experiment : ExperimentId) (record : ExperimentRecord R),
        c.findExperiment experiment = some record →
        record.definition.seedPolicy = .derivedPerTrial →
        ∀ (first second : TrialId) (one other : TrialRecord),
          record.trials.find? first = some one → record.trials.find? second = some other →
          first.value < 2 ^ 64 → second.value < 2 ^ 64 → first ≠ second →
            one.seed ≠ other.seed := by
  refine ⟨deriveTrialSeed_inj, ?_⟩
  intro path c reachable experiment record found perTrial first second one other held held' word
    word' different
  have derived := (reachable.holds seedsDerived_invariant.durable).1 experiment record found
  exact derived.distinct perTrial held held' word word' different

end Runs

namespace Sample

/-- A trial of each branch, with seeds derived from the seed of the experiment. -/
def seeded : Coordinator ℚ :=
  coordinator.session [(.createExperiment { spec with experimentSeed := some 42 }, none),
    (.createTrial experiment baseline [], none), (.createTrial experiment candidate [], none)]

theorem seeded_reachable : (World.running seeded).Reachable config.statePath :=
  coordinator_reachable.session _

end Sample

/-- The two trials of the sample have different seeds. -/
theorem derivedSeeds_sample : ∃ record one other,
    Sample.seeded.findExperiment Sample.experiment = some record ∧
    record.trials.find? ⟨1⟩ = some one ∧ record.trials.find? ⟨2⟩ = some other ∧
    one.seed ≠ other.seed := by
  have ran : (Sample.seeded.findExperiment Sample.experiment).any (fun record =>
      record.definition.seedPolicy = .derivedPerTrial && (record.trials.find? ⟨1⟩).isSome &&
        (record.trials.find? ⟨2⟩).isSome) = true := by
    decide +kernel
  obtain ⟨record, found, checked⟩ := (Option.any_eq_true _ _).mp ran
  simp only [Bool.and_eq_true, decide_eq_true_eq, Option.isSome_iff_exists] at checked
  obtain ⟨⟨perTrial, one, first⟩, other, second⟩ := checked
  refine ⟨record, one, other, found, first, second, ?_⟩
  exact derivedSeeds_distinct.2 _ Sample.seeded Sample.seeded_reachable _ record found perTrial
    ⟨1⟩ ⟨2⟩ one other first second (by decide) (by decide) (by decide)

end ExperimentFabric
