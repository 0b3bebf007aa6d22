import ExperimentFabric.AttemptLedger
import ExperimentFabric.Conformance
import ExperimentFabric.Selection

/-!
# How often a trial is attempted

The claim loop alone counts attempts, and it tests the budget of the experiment and the policy
without retries before it does.  The policy that gives a retry a new identity is nowhere told from
the one that keeps it: a retried trial becomes ready again, and the next claim that reaches it issues
its second attempt.
-/

namespace ExperimentFabric

open Lib Relation

variable {R : Type}

/-- Every trial has as many attempts as the retry rule of its experiment allows. -/
def ExperimentRecord.Counts (allows : RetryPolicy → Nat → Nat → Prop)
    (record : ExperimentRecord R) : Prop :=
  ∀ key trial, record.trials.find? key = some trial →
    allows record.definition.retryPolicy record.definition.maxAttemptsPerTrial trial.attemptCount

/-- The attempts stay within the budget, and there is one without retries. -/
def WithinBudget (policy : RetryPolicy) (budget count : Nat) : Prop :=
  count ≤ budget ∧ (policy = .noRetry → count ≤ 1)

/-- There is one attempt when a retry takes a new identity. -/
def OncePerIdentity (policy : RetryPolicy) (_ count : Nat) : Prop :=
  policy = .newTrialIdentity → count ≤ 1

/-- The retry rule of the experiment holds for every trial. -/
structure RespectsRetryRule (record : ExperimentRecord R) : Prop where
  budget : ∀ key trial, record.trials.find? key = some trial →
    (record.attemptsOf key).length ≤ record.definition.maxAttemptsPerTrial
  noRetry : record.definition.retryPolicy = .noRetry → ∀ key trial,
    record.trials.find? key = some trial → (record.attemptsOf key).length ≤ 1
  newTrialIdentity : record.definition.retryPolicy = .newTrialIdentity → ∀ key trial,
    record.trials.find? key = some trial → (record.attemptsOf key).length ≤ 1

theorem Numbered.length {record : ExperimentRecord R} (numbered : Numbered record) {key : TrialId}
    {trial : TrialRecord} (found : record.trials.find? key = some trial) :
    (record.attemptsOf key).length = trial.attemptCount := by
  have same := congrArg List.length (numbered.numbers key trial found)
  simpa using same

theorem Numbered.respectsRetryRule {record : ExperimentRecord R} (numbered : Numbered record)
    (within : record.Counts WithinBudget) (once : record.Counts OncePerIdentity) :
    RespectsRetryRule record where
  budget := fun key trial found => by
    rw [numbered.length found]
    exact (within key trial found).1
  noRetry := fun policy key trial found => by
    rw [numbered.length found]
    exact (within key trial found).2 policy
  newTrialIdentity := fun policy key trial found => by
    rw [numbered.length found]
    exact once key trial found policy

/-! ## Counts of single records -/

section Counts

variable {allows : RetryPolicy → Nat → Nat → Prop} {record after : ExperimentRecord R}

theorem ExperimentRecord.Counts.keep (counts : record.Counts allows)
    (budget : after.definition.maxAttemptsPerTrial = record.definition.maxAttemptsPerTrial)
    (policy : after.definition.retryPolicy = record.definition.retryPolicy)
    (trials : OrderedMap.Evolves KeepsCount record.trials after.trials) : after.Counts allows := by
  intro key trial' found
  obtain ⟨trial, before, kept⟩ := trials.source found
  rw [policy, budget, kept.attemptCount]
  exact counts key trial before

theorem ExperimentRecord.Counts.addTrial (counts : record.Counts allows)
    (none_ : ∀ policy budget, allows policy budget 0) (experiment : ExperimentId)
    (branch : BranchDefinition) (id : TrialId) (payload : Text) (sequence : Nat) :
    (record.addTrial (record.newTrial experiment branch id payload sequence)).Counts allows := by
  intro key trial found
  rcases ExperimentRecord.find?_addTrial found with held | ⟨-, rfl⟩
  · exact counts key trial held
  · exact none_ _ _

theorem ExperimentRecord.Counts.issue (counts : record.Counts allows) {key : TrialId}
    {trial : TrialRecord} (found : record.trials.find? key = some trial)
    (more : allows record.definition.retryPolicy record.definition.maxAttemptsPerTrial
      (trial.attemptCount + 1)) (attempt : AttemptRecord) (sequence : Nat) :
    (record.issue key attempt sequence).Counts allows := by
  intro other trial' lookup
  rcases ExperimentRecord.find?_issue_trial lookup with ⟨rfl, before, held, rfl⟩ | ⟨-, held⟩
  · obtain rfl := Option.some.inj (found.symm.trans held)
    exact more
  · exact counts other trial' held

/-- A claimable trial has an attempt left, and is unclaimed where there are no retries. -/
theorem claimable_allows {limits : Limits} {trial : TrialRecord} {branch : BranchDefinition}
    (claimable : record.claimable limits trial = some branch) :
    trial.attemptCount < record.definition.maxAttemptsPerTrial ∧
      (record.definition.retryPolicy = .noRetry → trial.attemptCount = 0) := by
  unfold ExperimentRecord.claimable at claimable
  split at claimable
  · cases claimable
  · split at claimable
    · cases claimable
    · rename_i budget
      split at claimable
      · cases claimable
      · rename_i retry
        refine ⟨not_le.mp budget, fun policy => ?_⟩
        simpa [policy] using retry

variable [MetricReal R] [CanonicalDigests R]

/-- A bound on the attempts that the claims of a run respect holds throughout the run. -/
theorem counts_invariant {condition : World R → Event R → Prop}
    (none_ : ∀ policy budget, allows policy budget 0)
    (claimed : ∀ {c : Coordinator R} {claim : ClaimTrialRequest} {fault : Option SaveFault}
      {record : ExperimentRecord R} {trial : TrialRecord} {branch : BranchDefinition},
      condition (.running c) (.request (.claimTrials claim) fault) →
        record.claimable c.limits trial = some branch →
          allows record.definition.retryPolicy record.definition.maxAttemptsPerTrial
            (trial.attemptCount + 1)) :
    RecordRunInvariant condition (ExperimentRecord.Counts allows) where
  kept := fun {c request fault old} meets _ =>
    { logged := fun counts => counts.keep rfl rfl (.refl .refl)
      created := by
        rintro spec expected branches _ - - - rfl -
        intro key trial found
        cases found
      changed := fun effect _ counts =>
        have rule := effect.keepsRetryRule
        counts.keep rule.1 rule.2.1 (moves_keepsCount effect.moves)
      added := fun _ _ _ counts => counts.addTrial none_ _ _ _ _ _
      issued := by
        rintro claim live experiment record key trial branch id sequence rfl - - - found claimable
          - - counts
        exact counts.issue found (claimed meets claimable) _ _
      lost := by
        intro worker boot kind attemptDetail trialDetail line sequence id record _ _ _ counts
        have definition := (loseWorker_fields worker boot kind attemptDetail trialDetail sequence
          line record).2
        exact counts.keep (by rw [definition]) (by rw [definition]) (loseWorker_keepsCount ..) }
  staged := by
    intro record sequence counts
    have definition : (record.stage sequence).2.definition = record.definition := by
      rw [stage_forget_fields]
      rfl
    exact counts.keep (by rw [definition]) (by rw [definition]) (stage_keepsCount record sequence)
  recovered := by
    intro image config outcomes id record after _ _ same _ counts
    have definition : after.definition = record.definition :=
      congrArg (fun forgotten => forgotten.definition) same
    exact counts.keep (by rw [definition]) (by rw [definition]) (recovered_keepsCount same)

end Counts

/-! ## Runs -/

/-- None of the trials the claim issues was attempted before under a policy that gives retries a new
identity. -/
def Coordinator.ClaimsAfresh (c : Coordinator R) (claim : ClaimTrialRequest) : Prop :=
  ∀ live, c.claimTrialsGuard claim = .ok live →
    ∀ experiment key, (experiment, key) ∈ c.offered.take (c.claimBudget claim live) →
      ∀ record trial, c.findExperiment experiment = some record →
        record.definition.retryPolicy = .newTrialIdentity →
          record.trials.find? key = some trial → trial.attemptCount = 0

/-- The condition on the steps of a run: claims repeat no trial whose retries take a new identity. -/
def RetriesUnderNewIdentity : World R → Event R → Prop
  | .running c, .request (.claimTrials claim) _ => c.ClaimsAfresh claim
  | _, _ => True

section Runs

variable [MetricReal R] [CanonicalDigests R]

omit [MetricReal R] [CanonicalDigests R] in
/-- A claim that repeats no such trial leaves one attempt to each of them. -/
theorem claimTrials_once {c : Coordinator R} {claim : ClaimTrialRequest} {fault : Option SaveFault}
    (arranged : c.state.Arranged) (consistent : c.state.Consistent)
    (afresh : c.ClaimsAfresh claim)
    (once : c.state.Every (ExperimentRecord.Counts OncePerIdentity)) :
    (c.claimTrials claim fault).1.state.Every (ExperimentRecord.Counts OncePerIdentity) := by
  rcases c.claimTrials_spec claim fault with same | ⟨live, guarded, -, state, -, -⟩
  · rw [same]
    exact once
  · have picked := claimLoop_picks claim live arranged consistent
    intro id record' found key trial' held policy
    rw [state] at found
    obtain ⟨record, lookup, from_⟩ := picked.records id record' found
    rw [from_.definition] at policy
    obtain ⟨trial, there, rfl | ⟨listed, taken⟩⟩ := from_.trials key trial' held
    · exact once id record lookup key _ there policy
    · rw [taken.attemptCount, afresh live guarded id key listed record trial lookup policy there]

/-- Throughout every run whose claims repeat no trial that should be retried under a new identity, the
attempts of every trial stay within the budget and the retry policy of its experiment. -/
theorem retry_rule_respected {path : Text} {events : List (Event R)} {world : World R}
    (run : Run (fun source event target => RetriesUnderNewIdentity source event ∧
      World.Step path source event target) (.down none) events world) :
    world.Upholds (CoordinatorState.Every RespectsRetryRule) := by
  have reachable : world.Reachable path := ⟨events, run.mono fun _ _ _ step => step.2⟩
  have within : world.Upholds (CoordinatorState.Every (ExperimentRecord.Counts WithinBudget)) := by
    refine reachable.upholds (counts_invariant (fun _ _ => ⟨Nat.zero_le _, fun _ => by simp⟩)
      fun {c claim fault record trial branch} _ claimable => ?_).durable
    obtain ⟨budget, unclaimed⟩ := claimable_allows claimable
    exact ⟨budget, fun policy => (congrArg (· + 1) (unclaimed policy)).le⟩
  have once : world.Upholds (CoordinatorState.Every (ExperimentRecord.Counts OncePerIdentity)) := by
    -- Every step but a claim keeps the counts; a claim is one loop, and the condition speaks of it.
    let others (_ : World R) (event : Event R) : Prop :=
      ∀ claim fault, event ≠ .request (.claimTrials claim) fault
    have invariant : RunInvariant others
        (CoordinatorState.Every (ExperimentRecord.Counts OncePerIdentity)) :=
      (counts_invariant (fun _ _ _ => Nat.zero_le 1)
        fun {c claim fault record trial branch} other => (other claim fault rfl).elim).durable
    let property (reached : World R) : Prop := reached.Sound path ∧
      reached.Upholds (CoordinatorState.Every (ExperimentRecord.Counts OncePerIdentity))
    have start : property (.down none) := World.start_upholds path _
    have both : property world := by
      refine run.preserves_of (fun source event target holds meets step => ?_) start
      by_cases other : others source event
      · exact invariant.world other step holds
      · refine ⟨step.sound holds.1, ?_⟩
        simp only [others, not_forall, not_not] at other
        obtain ⟨claim, fault, rfl⟩ := other
        cases step with
        | request c _ _ =>
            obtain ⟨-, consistent, arranged, -⟩ := holds.1
            exact holds.2.operated (c.perform_operated (.claimTrials claim) fault)
              (claimTrials_once arranged consistent meets holds.2.1)
    exact both.2
  refine (((attempts_numbered reachable).and within).and once).mono fun state holds => ?_
  intro id record found
  exact (holds.1.1 id record found).respectsRetryRule (holds.1.2 id record found)
    (holds.2 id record found)

end Runs

namespace Sample

/-- The sample experiment, whose retries take a new trial identity. -/
def renewingSpec : ExperimentSpec ℚ := { spec with retryPolicy := .newTrialIdentity }

/-- Create the experiment and one trial, and register the worker. -/
def preparingRenewal : List (Request ℚ × Option SaveFault) :=
  [(.createExperiment renewingSpec, none), (.createTrial experiment candidate [], none),
    (.registerWorker { worker, boot }, none)]

/-- The claim of the sample worker. -/
def claim : ClaimTrialRequest := { epoch := coordinator.epoch, worker, boot }

/-- The coordinator before the trial is claimed. -/
def unclaimed : Coordinator ℚ := coordinator.session preparingRenewal

/-- The coordinator after the trial was claimed, failed for a retry and claimed again. -/
def reclaimed : Coordinator ℚ :=
  unclaimed.session [(.claimTrials claim, none), (.failTrial failure, none),
    (.claimTrials claim, none)]

/-- No trial of the coordinator has been attempted. -/
def isFresh (c : Coordinator ℚ) : Bool :=
  c.state.experiments.values.all fun record =>
    record.trials.values.all fun trial => trial.attemptCount = 0

theorem isFresh_claimsAfresh {c : Coordinator ℚ} (fresh : isFresh c = true)
    (request : ClaimTrialRequest) : c.ClaimsAfresh request := by
  intro live _ id key _ record held found _ lookup
  have listed := (OrderedMap.mem_values_iff _ record).mpr ⟨id, found⟩
  have trials := List.all_eq_true.mp fresh record listed
  have there := (OrderedMap.mem_values_iff _ held).mpr ⟨key, lookup⟩
  exact of_decide_eq_true (List.all_eq_true.mp trials held there)

end Sample

/-- The first claim of a trial respects its retry rule. -/
theorem retry_rule_respected_sample :
    (World.running (Sample.unclaimed.perform (.claimTrials Sample.claim) none).1).Upholds
      (CoordinatorState.Every RespectsRetryRule) := by
  have started : Run (fun source event target => RetriesUnderNewIdentity source event ∧
      World.Step Sample.config.statePath source event target) (.down none)
      [.start Sample.config fun _ => none] (.running Sample.coordinator) :=
    .single ⟨trivial, .start rfl Sample.coordinator_started⟩
  have prepared := started.append (Sample.coordinator.session_run_of Sample.config.statePath
    Sample.preparingRenewal (by
      intro request member reached
      simp only [Sample.preparingRenewal, List.mem_cons, List.not_mem_nil, or_false] at member
      rcases member with rfl | rfl | rfl <;> trivial))
  have fresh : Sample.isFresh Sample.unclaimed = true := by decide +kernel
  have meets : RetriesUnderNewIdentity (.running Sample.unclaimed)
      (.request (.claimTrials Sample.claim) none) := Sample.isFresh_claimsAfresh fresh Sample.claim
  exact retry_rule_respected (prepared.snoc ⟨meets, .request _ _ _⟩)

/-- A retried trial is attempted again under its own identity, although its retries take a new
one. -/
theorem retried_trial_keeps_identity :
    (World.running Sample.reclaimed).Reachable Sample.config.statePath ∧
      (Sample.firstTrial Sample.reclaimed).any (fun found =>
        found.1.definition.retryPolicy = .newTrialIdentity &&
          (found.1.attemptsOf Sample.trial).length = 2) = true :=
  ⟨(Sample.coordinator_reachable.session _).session _, by decide +kernel⟩

end ExperimentFabric
