import ExperimentFabric.Endings
import ExperimentFabric.Incarnations

/-!
# Conformance to the lifecycles

Which changes of trial and attempt states the operations make, against the tables of
`isValidTransition`.  Most requests move states in one direction only, from sources to targets that
are not sources, so the chain of steps of a request moves each state at most once.  Four requests are
followed exactly: a failure, a commit, and the two that end the attempts of a lost incarnation.
-/

namespace ExperimentFabric

open Lib Relation

variable {R : Type}

/-- The state is kept, or changed as the lifecycle of trials allows. -/
def TrialState.Conforms (source target : TrialState) : Prop :=
  target = source ∨ source.isValidTransition target = true

/-- The state is kept, or changed as the lifecycle of attempts allows. -/
def AttemptState.Conforms (source target : AttemptState) : Prop :=
  target = source ∨ source.isValidTransition target = true

instance (source target : TrialState) : Decidable (source.Conforms target) :=
  inferInstanceAs (Decidable (_ ∨ _))

instance (source target : AttemptState) : Decidable (source.Conforms target) :=
  inferInstanceAs (Decidable (_ ∨ _))

/-- Of the held trials only an assigned one may become ready again. -/
theorem conforms_ready_iff {state : TrialState} (held : isHeld state = true) :
    state.Conforms .ready ↔ state = .assigned := by
  revert held
  cases state <;> decide

/-- Of the held trials only an observed one may be completed. -/
theorem conforms_completed_iff {state : TrialState} (held : isHeld state = true) :
    state.Conforms .completed ↔ state = .observing := by
  revert held
  cases state <;> decide

theorem conforms_failed {state : TrialState} (held : isHeld state = true) :
    state.Conforms .failed := by
  revert held
  cases state <;> decide

/-- An open attempt may end without a result. -/
theorem conforms_ended {state ended : AttemptState} (isOpen : isAttemptTerminal state = false)
    (without : ended = .failed ∨ ended = .abandoned) : state.Conforms ended := by
  revert isOpen
  rcases without with rfl | rfl <;> cases state <;> decide

/-- Every trial and attempt of the first record is in the second one, in a related state. -/
structure ExperimentRecord.StatesMove (trial : TrialState → TrialState → Prop)
    (attempt : AttemptState → AttemptState → Prop) (old new : ExperimentRecord R) : Prop where
  trials : OrderedMap.Extends (fun before after => trial before.state after.state) old.trials
    new.trials
  attempts : OrderedMap.Extends (fun before after => attempt before.state after.state)
    old.attempts new.attempts

/-- The same for every experiment of a state. -/
def CoordinatorState.StatesMove (trial : TrialState → TrialState → Prop)
    (attempt : AttemptState → AttemptState → Prop) (old new : CoordinatorState R) : Prop :=
  OrderedMap.Extends (ExperimentRecord.StatesMove trial attempt) old.experiments new.experiments

/-- Every trial and attempt keeps its state or takes an allowed transition. -/
def CoordinatorState.Conforms (old new : CoordinatorState R) : Prop :=
  old.StatesMove TrialState.Conforms AttemptState.Conforms new

/-! ## One-way moves -/

/-- The state is kept, or moves from a source to a target. -/
def OneWay {σ : Type} (source target : σ → Prop) (before after : σ) : Prop :=
  after = before ∨ (source before ∧ target after)

theorem OneWay.refl {σ : Type} {source target : σ → Prop} (state : σ) :
    OneWay source target state state :=
  .inl rfl

theorem OneWay.trans {σ : Type} {source target : σ → Prop}
    (separate : ∀ state, target state → ¬ source state) {first second third : σ}
    (earlier : OneWay source target first second) (later : OneWay source target second third) :
    OneWay source target first third := by
  rcases earlier with rfl | ⟨left, reached⟩
  · exact later
  · rcases later with rfl | ⟨leaves, -⟩
    · exact .inr ⟨left, reached⟩
    · exact (separate second reached leaves).elim

/-- Trial states a request can move, unless it fails or commits an attempt or loses a worker. -/
def Request.TrialMove : Request R → TrialState → TrialState → Prop
  | .claimTrials _ => OneWay (· = .ready) (· = .assigned)
  | .publishObservation _ =>
      OneWay (fun state => state = .assigned ∨ state = .running) (· = .observing)
  | _ => OneWay (fun state => isTerminal state = false)
      (fun state => state = .superseded ∨ state = .cancelled)

/-- Attempt states a request can move, unless it fails or commits an attempt or loses a worker. -/
def Request.AttemptMove : Request R → AttemptState → AttemptState → Prop
  | .publishObservation _ => OneWay (· = .issued) (· = .running)
  | _ => OneWay (fun state => isAttemptTerminal state = false)
      (fun state => state = .abandoned ∨ state = .cancelled)

theorem Request.TrialMove.refl (request : Request R) (state : TrialState) :
    request.TrialMove state state := by
  cases request <;> exact .inl rfl

theorem Request.AttemptMove.refl (request : Request R) (state : AttemptState) :
    request.AttemptMove state state := by
  cases request <;> exact .inl rfl

theorem Request.TrialMove.trans (request : Request R) (first second third : TrialState)
    (earlier : request.TrialMove first second) (later : request.TrialMove second third) :
    request.TrialMove first third := by
  have closed : ∀ state : TrialState, state = .superseded ∨ state = .cancelled →
      ¬ isTerminal state = false := by
    rintro state (rfl | rfl) <;> decide
  have issued : ∀ state : TrialState, state = .assigned → ¬ state = .ready := by
    rintro state rfl
    decide
  have observed : ∀ state : TrialState, state = .observing →
      ¬ (state = .assigned ∨ state = .running) := by
    rintro state rfl
    decide
  cases request with
  | claimTrials request => exact OneWay.trans issued earlier later
  | publishObservation request => exact OneWay.trans observed earlier later
  | _ => exact OneWay.trans closed earlier later

theorem Request.AttemptMove.trans (request : Request R) (first second third : AttemptState)
    (earlier : request.AttemptMove first second) (later : request.AttemptMove second third) :
    request.AttemptMove first third := by
  have closed : ∀ state : AttemptState, state = .abandoned ∨ state = .cancelled →
      ¬ isAttemptTerminal state = false := by
    rintro state (rfl | rfl) <;> decide
  have started : ∀ state : AttemptState, state = .running → ¬ state = .issued := by
    rintro state rfl
    decide
  cases request with
  | publishObservation request => exact OneWay.trans started earlier later
  | _ => exact OneWay.trans closed earlier later

/-- Every one-way move is an allowed transition. -/
theorem Request.TrialMove.conforms {request : Request R} {source target : TrialState}
    (move : request.TrialMove source target) : source.Conforms target := by
  cases request with
  | claimTrials request =>
      rcases move with same | ⟨rfl, rfl⟩
      · exact .inl same
      · exact .inr rfl
  | publishObservation request =>
      rcases move with same | ⟨rfl | rfl, rfl⟩
      · exact .inl same
      · exact .inr rfl
      · exact .inr rfl
  | _ =>
      rcases move with same | ⟨isOpen, rfl | rfl⟩
      · exact .inl same
      · cases source <;> first | exact .inr rfl | cases isOpen
      · cases source <;> first | exact .inr rfl | cases isOpen

theorem Request.AttemptMove.conforms {request : Request R} {source target : AttemptState}
    (move : request.AttemptMove source target) : source.Conforms target := by
  cases request with
  | publishObservation request =>
      rcases move with same | ⟨rfl, rfl⟩
      · exact .inl same
      · exact .inr rfl
  | _ =>
      rcases move with same | ⟨isOpen, rfl | rfl⟩
      · exact .inl same
      · cases source <;> first | exact .inr rfl | cases isOpen
      · cases source <;> first | exact .inr rfl | cases isOpen

/-! ## Requests that move states one way -/

theorem ExperimentRecord.StatesMove.refl (request : Request R) (record : ExperimentRecord R) :
    record.StatesMove request.TrialMove request.AttemptMove record :=
  ⟨.refl fun _ => .refl request _, .refl fun _ => .refl request _⟩

theorem CoordinatorState.StatesMove.trans {request : Request R}
    {first second third : CoordinatorState R}
    (earlier : first.StatesMove request.TrialMove request.AttemptMove second)
    (later : second.StatesMove request.TrialMove request.AttemptMove third) :
    first.StatesMove request.TrialMove request.AttemptMove third := by
  refine OrderedMap.Extends.trans (fun old middle new left right => ⟨?_, ?_⟩) earlier later
  · exact left.trials.trans (fun _ _ _ => .trans request _ _ _) right.trials
  · exact left.attempts.trans (fun _ _ _ => .trans request _ _ _) right.attempts

theorem CoordinatorState.StatesMove.conforms {request : Request R}
    {old new : CoordinatorState R}
    (moves : old.StatesMove request.TrialMove request.AttemptMove new) : old.Conforms new := by
  intro id record found
  obtain ⟨record', found', moved⟩ := moves id record found
  refine ⟨record', found', fun key trial held => ?_, fun key attempt held => ?_⟩
  · obtain ⟨trial', held', move⟩ := moved.trials key trial held
    exact ⟨trial', held', move.conforms⟩
  · obtain ⟨attempt', held', move⟩ := moved.attempts key attempt held
    exact ⟨attempt', held', move.conforms⟩

/-- The request follows no failure, no commit and no lost incarnation. -/
def Request.oneWay : Request R → Bool
  | .failTrial _ | .commitTrial _ | .revokeWorker .. | .registerWorker _ => false
  | _ => true

/-- Closing trials moves the open ones to the state they are closed in. -/
theorem closeTrials_extends {related : TrialState → TrialState → Prop}
    (reflexive : ∀ state, related state state) (select : TrialRecord → Bool) {closed : TrialState}
    (closes : ∀ state, isTerminal state = false → related state closed) (kind : FailureKind)
    (detail : Text) (sequence : Nat) (trials : OrderedMap TrialId TrialRecord) :
    OrderedMap.Extends (fun before after => related before.state after.state) trials
      (closeTrials select closed kind detail sequence trials) := by
  refine (OrderedMap.Evolves.mapValues fun trial => ?_).extends_
  rcases closeTrial_cases select closed kind detail sequence trial with ⟨-, isOpen, same⟩ | ⟨-, same⟩
  · rw [same]
    exact closes _ isOpen
  · rw [same]
    exact reflexive _

theorem closeAttempts_extends {related : AttemptState → AttemptState → Prop}
    (reflexive : ∀ state, related state state) (select : AttemptRecord → Bool)
    {closed : AttemptState}
    (closes : ∀ state, isAttemptTerminal state = false → related state closed) (kind : FailureKind)
    (detail : Text) (sequence : Nat) (attempts : OrderedMap TrialAttemptId AttemptRecord) :
    OrderedMap.Extends (fun before after => related before.state after.state) attempts
      (closeAttempts select closed kind detail sequence attempts) := by
  refine (OrderedMap.Evolves.mapValues fun attempt => ?_).extends_
  rcases closeAttempt_cases select closed kind detail sequence attempt with
    ⟨-, isOpen, same⟩ | ⟨-, same⟩
  · rw [same]
    exact closes _ isOpen
  · rw [same]
    exact reflexive _

/-- Observing a live pair moves its trial and its attempt forward. -/
theorem observe_statesMove {record : ExperimentRecord R} (request : PublishObservationRequest R)
    {trialKey : TrialId} {attemptKey : TrialAttemptId} {trial : TrialRecord}
    {attempt : AttemptRecord} (live : LivePair record trialKey attemptKey trial attempt)
    (sequence : Nat) :
    record.StatesMove (Request.publishObservation request).TrialMove
      (Request.publishObservation request).AttemptMove
      (record.observe trial attempt trialKey attemptKey sequence).1 := by
  have observing : ∀ reached, trial.state = .assigned ∨ trial.state = .running →
      OrderedMap.Extends (fun before after =>
        (Request.publishObservation request).TrialMove before.state after.state) record.trials
        (record.trials.modify trialKey (·.observing reached)) := by
    intro reached advanced
    refine (OrderedMap.Evolves.modify (fun _ => .refl _ _) fun held found => ?_).extends_
    obtain rfl := Option.some.inj (live.trialFound.symm.trans found)
    exact .inr ⟨advanced, rfl⟩
  have started : ∀ reached, attempt.state = .issued →
      OrderedMap.Extends (fun before after =>
        (Request.publishObservation request).AttemptMove before.state after.state) record.attempts
        (record.attempts.modify attemptKey (·.started reached)) := by
    intro reached issued
    refine (OrderedMap.Evolves.modify (fun _ => .refl _ _) fun held found => ?_).extends_
    obtain rfl := Option.some.inj (live.attemptFound.symm.trans found)
    exact .inr ⟨issued, rfl⟩
  have trialsKept := (ExperimentRecord.StatesMove.refl (.publishObservation request) record).trials
  have attemptsKept :=
    (ExperimentRecord.StatesMove.refl (.publishObservation request) record).attempts
  unfold ExperimentRecord.observe
  dsimp only
  by_cases issued : attempt.state = .issued
  · rw [if_pos issued]
    split
    · rename_i advanced
      simp only [Bool.and_eq_true, Bool.or_eq_true, decide_eq_true_eq] at advanced
      exact ⟨observing _ advanced.1, started _ issued⟩
    · exact ⟨trialsKept, started _ issued⟩
  · rw [if_neg issued]
    split
    · rename_i advanced
      simp only [Bool.and_eq_true, Bool.or_eq_true, decide_eq_true_eq] at advanced
      exact ⟨observing _ advanced.1, attemptsKept⟩
    · exact ⟨trialsKept, attemptsKept⟩

/-- Modifying a trial without its state moves nothing. -/
theorem touched_extends (request : Request R) (trials : OrderedMap TrialId TrialRecord)
    (key : TrialId) {change : TrialRecord → TrialRecord}
    (keeps : ∀ trial, (change trial).state = trial.state) :
    OrderedMap.Extends (fun before after => request.TrialMove before.state after.state) trials
      (trials.modify key change) := by
  refine (OrderedMap.Evolves.modify (fun _ => .refl _ _) fun held found => ?_).extends_
  rw [keeps]
  exact .refl _ _

section Steps

variable [MetricReal R] [CanonicalDigests R] {c : Coordinator R} {request : Request R}

theorem Effect.statesMove {experiment : ExperimentId} {before after : ExperimentRecord R}
    {marks : Watermarks} (effect : Effect c experiment before marks request after)
    (oneWay : request.oneWay = true) :
    before.StatesMove request.TrialMove request.AttemptMove after := by
  have superseded : ∀ state, isTerminal state = false →
      OneWay (fun state => isTerminal state = false)
        (fun state => state = .superseded ∨ state = .cancelled) state TrialState.superseded :=
    fun state isOpen => .inr ⟨isOpen, .inl rfl⟩
  have cancelled : ∀ state, isTerminal state = false →
      OneWay (fun state => isTerminal state = false)
        (fun state => state = .superseded ∨ state = .cancelled) state TrialState.cancelled :=
    fun state isOpen => .inr ⟨isOpen, .inr rfl⟩
  have abandonedAttempt : ∀ state, isAttemptTerminal state = false →
      OneWay (fun state => isAttemptTerminal state = false)
        (fun state => state = .abandoned ∨ state = .cancelled) state AttemptState.abandoned :=
    fun state isOpen => .inr ⟨isOpen, .inl rfl⟩
  have cancelledAttempt : ∀ state, isAttemptTerminal state = false →
      OneWay (fun state => isAttemptTerminal state = false)
        (fun state => state = .abandoned ∨ state = .cancelled) state AttemptState.cancelled :=
    fun state isOpen => .inr ⟨isOpen, .inr rfl⟩
  have kept := ExperimentRecord.StatesMove.refl request before
  cases effect with
  | revise guarded =>
      exact ⟨closeTrials_extends .refl _ superseded _ _ _ _,
        closeAttempts_extends .refl _ abandonedAttempt _ _ _ _⟩
  | fork guarded forked valid allocated => exact ⟨kept.trials, kept.attempts⟩
  | forkUndone guarded => exact ⟨kept.trials, kept.attempts⟩
  | retire guarded =>
      exact ⟨closeTrials_extends .refl _ superseded _ _ _ _,
        closeAttempts_extends .refl _ abandonedAttempt _ _ _ _⟩
  | refuseObservation named found refused =>
      obtain ⟨observations, rejected, same⟩ := refusedObservation_frame c before _ _
      rw [same]
      exact ⟨kept.trials, kept.attempts⟩
  | @publishObservation published branch trial attempt admitted named accepted admission =>
      have live := ((c.checkEnvelope_eq_ok _ _).mp accepted).2.2.2.2.livePair
      have pushed : LivePair
          (before.pushObservation { admitted with sequence := c.currentSequence + 1 })
          published.observation.trial published.observation.attempt trial attempt :=
        ⟨live.trialFound, live.trialOpen, live.authoritative, live.attemptFound, live.attemptOpen⟩
      have moved := observe_statesMove published pushed (c.currentSequence + 1)
      exact ⟨moved.trials, moved.attempts⟩
  | publishObservationUndone named accepted =>
      have live := ((c.checkEnvelope_eq_ok _ _).mp accepted).2.2.2.2.livePair
      exact observe_statesMove _ live _
  | refuseArtifact named found built refused =>
      obtain ⟨rejected, same⟩ := reject_frame before _ _ _
      rw [same]
      exact ⟨kept.trials, kept.attempts⟩
  | publishArtifact named built accepted admission =>
      refine ⟨?_, kept.attempts⟩
      unfold ExperimentRecord.touch ExperimentRecord.pushArtifact
      rw [OrderedMap.modify_modify]
      apply touched_extends
      exact fun _ => rfl
  | publishArtifactUndone named built accepted =>
      refine ⟨?_, kept.attempts⟩
      unfold ExperimentRecord.touch
      apply touched_extends
      exact fun _ => rfl
  | registerArtifacts named guarded refused stored => cases oneWay
  | commit named guarded accepted stored => cases oneWay
  | fail named guarded => cases oneWay
  | cancelTrial owner isOpen =>
      have held := (c.ownerOf_eq_some owner).2
      refine ⟨?_, closeAttempts_extends .refl _ cancelledAttempt _ _ _ _⟩
      refine (OrderedMap.Evolves.modify (fun _ => .refl _ _) fun trial found => ?_).extends_
      obtain rfl := Option.some.inj (held.symm.trans found)
      exact cancelled _ isOpen
  | cancel found allowed =>
      exact ⟨closeTrials_extends .refl _ cancelled _ _ _ _,
        closeAttempts_extends .refl _ cancelledAttempt _ _ _ _⟩
  | finalize guarded decided allocated pointed => exact ⟨kept.trials, kept.attempts⟩
  | rollback guarded allocated =>
      exact ⟨closeTrials_extends .refl _ superseded _ _ _ _,
        closeAttempts_extends .refl _ abandonedAttempt _ _ _ _⟩

theorem StateStep.statesMove {old new : CoordinatorState R} (step : StateStep c request old new)
    (consistent : old.Consistent) (oneWay : request.oneWay = true) :
    old.StatesMove request.TrialMove request.AttemptMove new := by
  have kept : ∀ {experiment : ExperimentId} {before after : ExperimentRecord R},
      old.experiments.find? experiment = some before →
        before.StatesMove request.TrialMove request.AttemptMove after →
          new.experiments = old.experiments.assign experiment after →
            old.StatesMove request.TrialMove request.AttemptMove new := by
    intro experiment before after found moves stored
    unfold CoordinatorState.StatesMove
    rw [stored]
    exact (OrderedMap.Evolves.assign (.refl request) found moves).extends_
  cases step with
  | quiet same workers =>
      unfold CoordinatorState.StatesMove
      rw [same]
      exact .refl (.refl request)
  | change found effect stored workers => exact kept found (effect.statesMove oneWay) stored
  | create named accepted room defined valid allocated before absent stored workers =>
      intro id record found
      refine ⟨record, ?_, .refl request record⟩
      have different : id ≠ ⟨c.state.watermarks.experiment + 1⟩ := fun same => by
        simp [same, absent] at found
      simp [stored, different, found]
  | @addTrial experiment record _ branch payload named guarded valid found fresh allocated stored
      workers =>
      refine kept found ?_ stored
      exact ⟨.emplace fun _ => .refl request _, .refl fun _ => .refl request _⟩
  | @addTrialUndone experiment record _ branch payload named guarded found fresh stored workers =>
      refine kept found ?_ stored
      refine ⟨?_, .refl fun _ => .refl request _⟩
      rw [(consistent _ record found).addTrialUndone (fresh ▸ Nat.lt_succ_self _)]
      exact .refl fun _ => .refl request _
  | @issue claim live experiment record key trial branch id sequence named guarded found opened
      trialFound claimable fresh allocated stored workers =>
      subst named
      refine kept found ?_ stored
      refine ⟨?_, .emplace fun _ => .refl _ _⟩
      unfold ExperimentRecord.issue
      dsimp only
      refine (OrderedMap.Evolves.modify (fun _ => .refl _ _) fun held lookup => ?_).extends_
      obtain rfl := Option.some.inj (trialFound.symm.trans lookup)
      exact .inr ⟨claimable_ready claimable, rfl⟩
  | lose named stored workers =>
      rcases named with ⟨reason, rfl⟩ | ⟨registration, rfl, -⟩ <;> cases oneWay
  | register named guarded fresh identity same workers =>
      subst named
      cases oneWay

/-- Every other request moves states one way, so it only takes allowed transitions. -/
theorem Coordinator.perform_conforms (c : Coordinator R) (request : Request R)
    (fault : Option SaveFault) (consistent : c.state.Consistent) (arranged : c.state.Arranged)
    (oneWay : request.oneWay = true) : c.state.Conforms (c.perform request fault).1.state := by
  suffices moved : ∀ {new : CoordinatorState R}, StateSteps c request c.state new →
      c.state.StatesMove request.TrialMove request.AttemptMove new from
    (moved (c.perform_steps request fault)).conforms
  intro new steps
  induction steps with
  | refl => exact .refl (.refl request)
  | tail earlier last ih =>
      exact ih.trans (last.1.statesMove (StateSteps.sound earlier consistent arranged).1 oneWay)

end Steps

/-! ## Lost incarnations -/

/-- The state of a trial whose attempt was lost. -/
def ExperimentRecord.releasedState (record : ExperimentRecord R) (trial : TrialRecord) :
    TrialState :=
  if record.retryable trial then .ready else .failed

theorem TrialRecord.release_state (trial : TrialRecord) (retry : Bool) (kind : FailureKind)
    (detail : Text) (sequence : Nat) :
    (trial.release retry kind detail sequence).state = if retry then .ready else .failed := by
  cases retry <;> rfl

/-- The trial is in the hands of a live attempt of one of the incarnations. -/
def ExperimentRecord.HeldBy (record : ExperimentRecord R) (lost : WorkerId → WorkerBootId → Prop)
    (key : TrialId) : Prop :=
  ∃ id attempt, record.attempts.find? id = some attempt ∧ attempt.trial = key ∧
    lost attempt.worker attempt.boot ∧ isAttemptTerminal attempt.state = false

/-- The second record is the first one without the live attempts of some incarnations. -/
structure ExperimentRecord.Loses (lost : WorkerId → WorkerBootId → Prop)
    (record after : ExperimentRecord R) : Prop where
  definition : after.definition = record.definition
  spared : ∀ key trial, record.trials.find? key = some trial → ¬ record.HeldBy lost key →
    after.trials.find? key = some trial
  released : ∀ key trial, record.trials.find? key = some trial → record.HeldBy lost key →
    ∃ trial', after.trials.find? key = some trial' ∧ trial'.state = record.releasedState trial
  kept : ∀ id attempt, record.attempts.find? id = some attempt →
    (lost attempt.worker attempt.boot → isAttemptTerminal attempt.state = true) →
      after.attempts.find? id = some attempt
  abandoned : ∀ id attempt, record.attempts.find? id = some attempt →
    lost attempt.worker attempt.boot → isAttemptTerminal attempt.state = false →
      ∃ attempt', after.attempts.find? id = some attempt' ∧ attempt'.state = .abandoned
  source : ∀ id attempt, after.attempts.find? id = some attempt →
    isAttemptTerminal attempt.state = false →
      record.attempts.find? id = some attempt ∧ ¬ lost attempt.worker attempt.boot

theorem ExperimentRecord.retryable_congr {record after : ExperimentRecord R}
    (definition : after.definition = record.definition) (trial : TrialRecord) :
    after.retryable trial = record.retryable trial := by
  unfold ExperimentRecord.retryable
  rw [definition]

section Loses

variable {marks : Watermarks} (kind : FailureKind) (attemptDetail trialDetail : Text)
  (sequence : Nat)

theorem loseAttempts_spared (lost : List (TrialAttemptId × AttemptRecord))
    (record : ExperimentRecord R) {key : TrialId} {trial : TrialRecord}
    (found : record.trials.find? key = some trial)
    (spared : ∀ entry ∈ lost, entry.2.trial ≠ key) :
    (lost.foldl (ExperimentRecord.loseAttempt kind attemptDetail trialDetail sequence)
      record).trials.find? key = some trial := by
  induction lost generalizing record with
  | nil => exact found
  | cons entry rest ih =>
      have other : key ≠ entry.2.trial := (spared entry List.mem_cons_self).symm
      refine ih _ ?_ fun later member => spared later (List.mem_cons_of_mem entry member)
      simpa [ExperimentRecord.loseAttempt, other] using found

/-- Two live attempts of one trial are the same attempt. -/
theorem Lifecycle.live_unique {record : ExperimentRecord R} (life : Lifecycle marks record)
    {first second : TrialAttemptId × AttemptRecord}
    (found : record.attempts.find? first.1 = some first.2)
    (isOpen : isAttemptTerminal first.2.state = false)
    (found' : record.attempts.find? second.1 = some second.2)
    (isOpen' : isAttemptTerminal second.2.state = false) (same : second.2.trial = first.2.trial) :
    second.1 = first.1 := by
  obtain ⟨trial, trialFound⟩ := life.attemptTrial first.1 first.2 found
  have cell := life.trial _ trial trialFound
  have named := (cell.live first.1 first.2 found rfl isOpen).2
  have named' := (cell.live second.1 second.2 found' same isOpen').2
  exact named'.symm.trans named

theorem loseAttempts_released {record : ExperimentRecord R} (life : Lifecycle marks record)
    {lost : List (TrialAttemptId × AttemptRecord)} (distinct : (lost.map Prod.fst).Nodup)
    (isLive : ∀ entry ∈ lost, record.attempts.find? entry.1 = some entry.2 ∧
      isAttemptTerminal entry.2.state = false)
    {key : TrialId} {trial : TrialRecord} (found : record.trials.find? key = some trial)
    {entry : TrialAttemptId × AttemptRecord} (member : entry ∈ lost)
    (owner : entry.2.trial = key) :
    ∃ trial', (lost.foldl (ExperimentRecord.loseAttempt kind attemptDetail trialDetail sequence)
      record).trials.find? key = some trial' ∧ trial'.state = record.releasedState trial := by
  induction lost generalizing record with
  | nil => cases member
  | cons head rest ih =>
      have ⟨fresh, distinctRest⟩ := List.nodup_cons.mp distinct
      obtain ⟨headFound, headOpen⟩ := isLive head List.mem_cons_self
      by_cases here : head.2.trial = key
      · -- Nothing later in the list is an attempt of this trial.
        obtain ⟨held, named⟩ := (life.trial key trial found).live head.1 head.2 headFound here
          headOpen
        have identity : head.2.id = head.1 := life.attemptId head.1 head.2 headFound
        have isOpen : isTerminal trial.state = false := isTerminal_of_isHeld held
        refine ⟨trial.release (record.retryable trial) kind trialDetail sequence, ?_,
          TrialRecord.release_state ..⟩
        refine loseAttempts_spared kind attemptDetail trialDetail sequence rest _ ?_ ?_
        · simp [ExperimentRecord.loseAttempt, ExperimentRecord.releaseFrom, here, found, isOpen,
            identity, named]
        · intro later memberLater same
          obtain ⟨laterFound, laterOpen⟩ := isLive later (List.mem_cons_of_mem head memberLater)
          have repeated := life.live_unique headFound headOpen laterFound laterOpen
            (same.trans here.symm)
          exact fresh (repeated ▸ List.mem_map_of_mem memberLater)
      · have elsewhere : entry ∈ rest := by
          rcases List.mem_cons.mp member with rfl | elsewhere
          · exact (here owner).elim
          · exact elsewhere
        refine ih (life.loseAttempt kind attemptDetail trialDetail sequence headFound headOpen)
          distinctRest (fun later memberLater => ?_) ?_ elsewhere
        · have different : later.1 ≠ head.1 := fun same =>
            fresh (same ▸ List.mem_map_of_mem memberLater)
          have before := isLive later (List.mem_cons_of_mem head memberLater)
          exact ⟨by simpa [ExperimentRecord.loseAttempt, different] using before.1, before.2⟩
        · simpa [ExperimentRecord.loseAttempt, Ne.symm here] using found

theorem loseAttempts_attempt (lost : List (TrialAttemptId × AttemptRecord))
    (record : ExperimentRecord R) {id : TrialAttemptId} {attempt : AttemptRecord}
    (found : record.attempts.find? id = some attempt) :
    (id ∉ lost.map Prod.fst → (lost.foldl (ExperimentRecord.loseAttempt kind attemptDetail
      trialDetail sequence) record).attempts.find? id = some attempt) ∧
    (id ∈ lost.map Prod.fst ∨ attempt.state = .abandoned →
      ∃ attempt', (lost.foldl (ExperimentRecord.loseAttempt kind attemptDetail trialDetail
        sequence) record).attempts.find? id = some attempt' ∧ attempt'.state = .abandoned) := by
  induction lost generalizing record attempt with
  | nil => exact ⟨fun _ => found, by rintro (member | already); cases member; exact ⟨_, found, already⟩⟩
  | cons entry rest ih =>
      by_cases here : id = entry.1
      · have ended : (ExperimentRecord.loseAttempt kind attemptDetail trialDetail sequence record
            entry).attempts.find? id =
              some (attempt.finish .abandoned kind attemptDetail sequence) := by
          simp [ExperimentRecord.loseAttempt, here, here ▸ found]
        exact ⟨fun absent => (absent (by simp [here])).elim, fun _ => (ih _ ended).2 (.inr rfl)⟩
      · have same : (ExperimentRecord.loseAttempt kind attemptDetail trialDetail sequence record
            entry).attempts.find? id = some attempt := by
          simp [ExperimentRecord.loseAttempt, here, found]
        obtain ⟨kept, abandoned⟩ := ih _ same
        refine ⟨fun absent => kept ?_, fun member => abandoned ?_⟩
        · exact fun later => absent (by simp [later])
        · simpa [here] using member

theorem Lifecycle.loses {record : ExperimentRecord R} (life : Lifecycle marks record)
    (worker : WorkerId) (boot : WorkerBootId) (line : Text) :
    record.Loses (fun other otherBoot => other = worker ∧ otherBoot = boot)
      (record.loseWorker worker boot kind attemptDetail trialDetail sequence line) := by
  have listed : ∀ entry, entry ∈ record.liveAttemptsOf worker boot ↔
      record.attempts.find? entry.1 = some entry.2 ∧
        (entry.2.worker = worker ∧ entry.2.boot = boot) ∧
          isAttemptTerminal entry.2.state = false := by
    intro entry
    simp only [ExperimentRecord.liveAttemptsOf, List.mem_filter, Bool.and_eq_true,
      Bool.not_eq_true', decide_eq_true_eq]
    rw [← OrderedMap.mem_entries_iff]
  have distinct : ((record.liveAttemptsOf worker boot).map Prod.fst).Nodup :=
    record.attempts.keys_nodup.sublist (List.filter_sublist.map _)
  have unlisted : ∀ id attempt, record.attempts.find? id = some attempt →
      (attempt.worker = worker ∧ attempt.boot = boot → isAttemptTerminal attempt.state = true) →
        id ∉ (record.liveAttemptsOf worker boot).map Prod.fst := by
    rintro id attempt found spared member
    obtain ⟨⟨key, held⟩, present, rfl⟩ := List.mem_map.mp member
    obtain ⟨lookup, lost, isOpen⟩ := (listed _).mp present
    obtain rfl := Option.some.inj (lookup.symm.trans found)
    exact absurd (spared lost) (by simpa using isOpen)
  -- The log line changes neither trials nor attempts nor the definition.
  have trials : (record.loseWorker worker boot kind attemptDetail trialDetail sequence line).trials =
      ((record.liveAttemptsOf worker boot).foldl (ExperimentRecord.loseAttempt kind attemptDetail
        trialDetail sequence) record).trials := by
    unfold ExperimentRecord.loseWorker
    dsimp only
    split <;> rfl
  have attempts :
      (record.loseWorker worker boot kind attemptDetail trialDetail sequence line).attempts =
        ((record.liveAttemptsOf worker boot).foldl (ExperimentRecord.loseAttempt kind attemptDetail
          trialDetail sequence) record).attempts := by
    unfold ExperimentRecord.loseWorker
    dsimp only
    split <;> rfl
  refine ⟨?_, ?_, ?_, ?_, ?_, ?_⟩
  · exact (loseWorker_fields ..).2
  · intro key trial found free
    rw [trials]
    refine loseAttempts_spared _ _ _ _ _ _ found fun entry member owner => free ?_
    obtain ⟨lookup, lost, isOpen⟩ := (listed entry).mp member
    exact ⟨entry.1, entry.2, lookup, owner, lost, isOpen⟩
  · rintro key trial found ⟨id, attempt, lookup, owner, lost, isOpen⟩
    rw [trials]
    refine loseAttempts_released kind attemptDetail trialDetail sequence life distinct
      (fun entry member => ?_) found ((listed (id, attempt)).mpr ⟨lookup, lost, isOpen⟩) owner
    exact ⟨((listed entry).mp member).1, ((listed entry).mp member).2.2⟩
  · intro id attempt found spared
    rw [attempts]
    exact (loseAttempts_attempt _ _ _ _ _ _ found).1 (unlisted id attempt found spared)
  · intro id attempt found lost isOpen
    rw [attempts]
    refine (loseAttempts_attempt _ _ _ _ _ _ found).2 (.inl ?_)
    exact List.mem_map.mpr ⟨(id, attempt), (listed (id, attempt)).mpr ⟨found, lost, isOpen⟩, rfl⟩
  · intro id attempt found isOpen
    exact Coordinator.loseWorker_open found isOpen

end Loses

theorem ExperimentRecord.Loses.refl (record : ExperimentRecord R) :
    record.Loses (fun _ _ => False) record where
  definition := rfl
  spared := fun _ _ found _ => found
  released := fun _ _ _ ⟨_, _, _, _, impossible, _⟩ => impossible.elim
  kept := fun _ _ found _ => found
  abandoned := fun _ _ _ impossible => impossible.elim
  source := fun _ _ found _ => ⟨found, id⟩

/-- Losing some incarnations and then some others. -/
theorem ExperimentRecord.Loses.trans {marks : Watermarks} {first second third : ExperimentRecord R}
    {lost later : WorkerId → WorkerBootId → Prop} (life : Lifecycle marks second)
    (earlier : first.Loses lost second) (last : second.Loses later third) :
    first.Loses (fun worker boot => lost worker boot ∨ later worker boot) third := by
  have carried : ∀ key, ¬ first.HeldBy lost key → (second.HeldBy later key ↔
      first.HeldBy (fun worker boot => lost worker boot ∨ later worker boot) key) := by
    intro key free
    constructor
    · rintro ⟨id, attempt, found, owner, named, isOpen⟩
      exact ⟨id, attempt, (earlier.source id attempt found isOpen).1, owner, .inr named, isOpen⟩
    · rintro ⟨id, attempt, found, owner, named, isOpen⟩
      have unnamed : ¬ lost attempt.worker attempt.boot := fun named =>
        free ⟨id, attempt, found, owner, named, isOpen⟩
      exact ⟨id, attempt, earlier.kept id attempt found fun named => (unnamed named).elim, owner,
        named.resolve_left unnamed, isOpen⟩
  refine ⟨last.definition.trans earlier.definition, ?_, ?_, ?_, ?_, ?_⟩
  · intro key trial found free
    have freeFirst : ¬ first.HeldBy lost key := fun ⟨id, attempt, held, owner, named, isOpen⟩ =>
      free ⟨id, attempt, held, owner, .inl named, isOpen⟩
    exact last.spared key trial (earlier.spared key trial found freeFirst)
      fun held => free ((carried key freeFirst).mp held)
  · intro key trial found held
    by_cases heldFirst : first.HeldBy lost key
    · obtain ⟨trial', found', state⟩ := earlier.released key trial found heldFirst
      refine ⟨trial', last.spared key trial' found' ?_, state⟩
      rintro ⟨id, attempt, lookup, owner, -, isOpen⟩
      have stillHeld := ((life.trial key trial' found').live id attempt lookup owner isOpen).1
      rw [state, ExperimentRecord.releasedState] at stillHeld
      split at stillHeld <;> cases stillHeld
    · obtain ⟨trial', found', state⟩ := last.released key trial
        (earlier.spared key trial found heldFirst) ((carried key heldFirst).mpr held)
      refine ⟨trial', found', state.trans ?_⟩
      unfold ExperimentRecord.releasedState
      rw [ExperimentRecord.retryable_congr earlier.definition]
  · intro id attempt found closed
    exact last.kept id attempt (earlier.kept id attempt found fun named => closed (.inl named))
      fun named => closed (.inr named)
  · intro id attempt found named isOpen
    by_cases first : lost attempt.worker attempt.boot
    · obtain ⟨attempt', found', state⟩ := earlier.abandoned id attempt found first isOpen
      exact ⟨attempt', last.kept id attempt' found' fun _ => by rw [state]; rfl, state⟩
    · exact last.abandoned id attempt (earlier.kept id attempt found fun named => (first named).elim)
        (named.resolve_left first) isOpen
  · intro id attempt found isOpen
    obtain ⟨found', unnamed'⟩ := last.source id attempt found isOpen
    obtain ⟨found, unnamed⟩ := earlier.source id attempt found' isOpen
    exact ⟨found, fun named => named.elim unnamed unnamed'⟩

/-- Trials that some incarnations hold are still assigned, or have no retry left. -/
def ExperimentRecord.Unstarted (record : ExperimentRecord R)
    (lost : WorkerId → WorkerBootId → Prop) : Prop :=
  ∀ key trial, record.trials.find? key = some trial → record.HeldBy lost key →
    record.retryable trial = true → trial.state = .assigned

/-- Losing incarnations takes allowed transitions exactly when no trial that was observed already
is retried. -/
theorem ExperimentRecord.Loses.conforms_iff {marks : Watermarks} {record after : ExperimentRecord R}
    {lost : WorkerId → WorkerBootId → Prop} (life : Lifecycle marks record)
    (loses : record.Loses lost after) :
    record.StatesMove TrialState.Conforms AttemptState.Conforms after ↔ record.Unstarted lost := by
  have isHeld : ∀ key trial, record.trials.find? key = some trial → record.HeldBy lost key →
      isHeld trial.state = true := by
    rintro key trial found ⟨id, attempt, lookup, owner, -, isOpen⟩
    exact ((life.trial key trial found).live id attempt lookup owner isOpen).1
  constructor
  · intro conforms key trial found held retryable
    obtain ⟨trial', found', state⟩ := loses.released key trial found held
    obtain ⟨same, lookup, move⟩ := conforms.trials key trial found
    obtain rfl := Option.some.inj (found'.symm.trans lookup)
    rw [state, ExperimentRecord.releasedState, if_pos retryable] at move
    exact (conforms_ready_iff (isHeld key trial found held)).mp move
  · intro unstarted
    refine ⟨fun key trial found => ?_, fun id attempt found => ?_⟩
    · by_cases held : record.HeldBy lost key
      · obtain ⟨trial', found', state⟩ := loses.released key trial found held
        refine ⟨trial', found', ?_⟩
        dsimp only
        rw [state, ExperimentRecord.releasedState]
        split
        · rename_i retryable
          exact (conforms_ready_iff (isHeld key trial found held)).mpr
            (unstarted key trial found held retryable)
        · exact conforms_failed (isHeld key trial found held)
      · exact ⟨trial, loses.spared key trial found held, .inl rfl⟩
    · by_cases named : lost attempt.worker attempt.boot
      · cases isOpen : isAttemptTerminal attempt.state with
        | true => exact ⟨attempt, loses.kept id attempt found fun _ => isOpen, .inl rfl⟩
        | false =>
            obtain ⟨attempt', found', state⟩ := loses.abandoned id attempt found named isOpen
            refine ⟨attempt', found', ?_⟩
            dsimp only
            rw [state]
            exact conforms_ended isOpen (.inr rfl)
      · exact ⟨attempt, loses.kept id attempt found fun lost => (named lost).elim, .inl rfl⟩

end ExperimentFabric
