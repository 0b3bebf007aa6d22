import ExperimentFabric.RefusedEvidence
import ExperimentFabric.Revalidation

/-!
# Refused rollbacks

A rollback that its guard admits rewrites the record before it validates it and undoes nothing, so a
refusal leaves the record alone only when it comes from the guard.  In every reachable state the next
rollback point is new and the latest, so the rewritten record is refused for what was wrong before.
-/

namespace ExperimentFabric

open Lib

variable {R : Type}

/-! ## Stamps of rollback points -/

/-- The rollback points carry identities and sequence numbers that were handed out. -/
def CoordinatorState.Stamped (state : CoordinatorState R) : Prop :=
  ∀ id record, state.experiments.find? id = some record → ∀ point ∈ record.rollbackPoints,
    point.id.value ≤ state.watermarks.rollback ∧ point.sequence ≤ state.lastSequence

/-- Every rollback point of the new state is one of the old state. -/
def CoordinatorState.SamePoints (old new : CoordinatorState R) : Prop :=
  ∀ id record, new.experiments.find? id = some record → record.rollbackPoints = [] ∨
    ∃ before, old.experiments.find? id = some before ∧
      record.rollbackPoints = before.rollbackPoints

theorem CoordinatorState.Stamped.same {old new : CoordinatorState R} (stamped : old.Stamped)
    (points : old.SamePoints new) (marks : old.watermarks.rollback ≤ new.watermarks.rollback)
    (sequence : old.lastSequence ≤ new.lastSequence) : new.Stamped := by
  intro id record found point member
  rcases points id record found with none | ⟨before, lookup, same⟩
  · rw [none] at member
    cases member
  · rw [same] at member
    obtain ⟨identity, dated⟩ := stamped id before lookup point member
    exact ⟨identity.trans marks, dated.trans sequence⟩

/-- Storing a record whose points are those of the old one or new ones. -/
theorem CoordinatorState.Stamped.assign {old new : CoordinatorState R} (stamped : old.Stamped)
    {experiment : ExperimentId} {before after : ExperimentRecord R}
    (found : old.experiments.find? experiment = some before)
    (stored : new.experiments = old.experiments.assign experiment after)
    (marks : old.watermarks.rollback ≤ new.watermarks.rollback)
    (sequence : old.lastSequence ≤ new.lastSequence)
    (points : ∀ point ∈ after.rollbackPoints, point ∈ before.rollbackPoints ∨
      point.id.value ≤ new.watermarks.rollback ∧ point.sequence ≤ new.lastSequence) :
    new.Stamped := by
  intro id record lookup point member
  rw [stored, OrderedMap.find?_assign] at lookup
  split at lookup
  · obtain rfl := Option.some.inj lookup
    rcases points point member with earlier | added
    · obtain ⟨identity, dated⟩ := stamped experiment before found point earlier
      exact ⟨identity.trans marks, dated.trans sequence⟩
    · exact added
  · obtain ⟨identity, dated⟩ := stamped id record lookup point member
    exact ⟨identity.trans marks, dated.trans sequence⟩

section Stamps

variable [MetricReal R] [CanonicalDigests R]

/-- A step of a request that records no rollback point keeps the points. -/
theorem StateStep.samePoints {c : Coordinator R} {request : Request R}
    {old new : CoordinatorState R} (step : StateStep c request old new)
    (silent : request.recordsPoint = false) : old.SamePoints new := by
  have assigned : ∀ {experiment before after}, old.experiments.find? experiment = some before →
      new.experiments = old.experiments.assign experiment after →
        after.rollbackPoints = before.rollbackPoints → old.SamePoints new := by
    intro experiment before after found stored same id record lookup
    rw [stored, OrderedMap.find?_assign] at lookup
    split at lookup
    · rename_i here
      obtain rfl := Option.some.inj lookup
      exact .inr ⟨before, here ▸ found, same⟩
    · exact .inr ⟨record, lookup, rfl⟩
  cases step with
  | quiet same workers => exact fun id record found => .inr ⟨record, same ▸ found, rfl⟩
  | change found effect stored workers =>
      rcases effect.charts.points with same | ⟨records, -⟩
      · exact assigned found stored same
      · rw [silent] at records
        cases records
  | create named accepted room defined valid allocated before absent stored workers branched =>
      intro id record lookup
      rw [stored, OrderedMap.find?_assign] at lookup
      split at lookup
      · obtain rfl := Option.some.inj lookup
        rw [defined]
        exact .inl rfl
      · exact .inr ⟨record, lookup, rfl⟩
  | addTrial named guarded valid found fresh allocated stored workers =>
      exact assigned found stored rfl
  | addTrialUndone named guarded found fresh stored workers => exact assigned found stored rfl
  | issue named guarded found opened trialFound claimable fresh allocated stored workers =>
      exact assigned found stored rfl
  | @lose worker boot kind attemptDetail trialDetail line sequence named stored workers =>
      intro id record lookup
      rw [stored, OrderedMap.find?_mapValues] at lookup
      obtain ⟨before, found, rfl⟩ := Option.map_eq_some_iff.mp lookup
      obtain ⟨trials, attempts, lines, same⟩ :=
        loseWorker_frame worker boot kind attemptDetail trialDetail sequence line before
      exact .inr ⟨before, found, by rw [same]⟩
  | register named guarded fresh identity same workers =>
      exact fun id record found => .inr ⟨record, same ▸ found, rfl⟩

theorem StateSteps.stamped {c : Coordinator R} {request : Request R}
    {old new : CoordinatorState R} (steps : StateSteps c request old new)
    (silent : request.recordsPoint = false) (stamped : old.Stamped) : new.Stamped := by
  induction steps with
  | refl => exact stamped
  | tail earlier last ih =>
      exact ih.same (last.1.samePoints silent) last.2.marks.rollback last.2.sequence

theorem Coordinator.finalizeExperiment_stamped {c : Coordinator R} (stamped : c.state.Stamped)
    (experiment : ExperimentId) (candidate : BranchId) (reason : Text)
    (fault : Option SaveFault) :
    (c.finalizeExperiment experiment candidate reason fault).1.state.Stamped := by
  unfold finalizeExperiment
  split
  · exact stamped
  · rename_i record guarded
    rw [settle_id_fst, persistLocked_state]
    have found := (finalizeGuard_ok guarded).found
    split
    · rename_i concluded
      refine stamped.assign found rfl (Nat.le_succ _) (Nat.le_succ _) fun point member => ?_
      rcases List.mem_append.mp member with earlier | added
      · exact .inl earlier
      · rw [if_pos concluded] at added
        obtain rfl := List.mem_singleton.mp added
        exact .inr ⟨le_rfl, le_rfl⟩
    · rename_i inconclusive
      refine stamped.assign found rfl le_rfl (Nat.le_succ _) fun point member => ?_
      rcases List.mem_append.mp member with earlier | added
      · exact .inl earlier
      · rw [if_neg inconclusive] at added
        cases added

theorem Coordinator.rollback_stamped {c : Coordinator R} (stamped : c.state.Stamped)
    (experiment : ExperimentId) (target : ExperimentGeneration) (reason : Text)
    (fault : Option SaveFault) : (c.rollback experiment target reason fault).1.state.Stamped := by
  unfold rollback
  split
  · exact stamped
  · rename_i record chosen guarded
    have found := (rollbackGuard_ok guarded).found
    have restored : (c.nextSequence.allocRollbackId.withRecord experiment (record.rollback
        experiment chosen ⟨c.state.watermarks.rollback + 1⟩ reason
          (c.currentSequence + 1))).state.Stamped := by
      refine stamped.assign found rfl (Nat.le_succ _) (Nat.le_succ _) fun point member => ?_
      rcases List.mem_append.mp member with earlier | added
      · exact .inl earlier
      · obtain rfl := List.mem_singleton.mp added
        exact .inr ⟨le_rfl, le_rfl⟩
    dsimp only
    split
    · exact restored
    · rw [settle_id_fst, persistLocked_state]
      exact restored

theorem Coordinator.perform_stamped {c : Coordinator R} (stamped : c.state.Stamped)
    (request : Request R) (fault : Option SaveFault) :
    (c.perform request fault).1.state.Stamped := by
  cases records : request.recordsPoint with
  | false => exact (c.perform_steps request fault).stamped records stamped
  | true =>
      cases request with
      | finalizeExperiment experiment candidate reason =>
          exact finalizeExperiment_stamped stamped experiment candidate reason fault
      | rollback experiment target reason =>
          exact rollback_stamped stamped experiment target reason fault
      | _ => cases records

end Stamps

/-! ## Recovery -/

section Recovery

theorem stage_le (record : ExperimentRecord R) (sequence : Nat) :
    sequence ≤ (record.stage sequence).1 := by
  have attempts : sequence ≤ (record.attempts.traverse stageAttempt sequence).1 := by
    refine OrderedMap.traverse_keeps _ stageAttempt (fun reached attempt larger => ?_) le_rfl
    unfold stageAttempt
    split
    · exact larger
    · exact larger.trans (Nat.le_succ reached)
  let property (progress : Nat × List Text) : Prop := sequence ≤ progress.1
  have trials : property (record.trials.traverse stageTrial
      ((record.attempts.traverse stageAttempt sequence).1, [])).1 := by
    refine OrderedMap.traverse_keeps _ stageTrial (fun reached trial larger => ?_) attempts
    unfold stageTrial
    split
    · exact larger
    · exact Nat.le_succ_of_le larger
  exact trials

theorem resolve_le (sequence : Nat) (record : ExperimentRecord R) :
    sequence ≤ (record.resolve sequence).1 := by
  let property (progress : ResolveProgress) : Prop := sequence ≤ progress.sequence
  have trials : property (record.trials.traverse record.resolveTrial
      { sequence := sequence, attempts := record.attempts }).1 := by
    refine OrderedMap.traverse_keeps _ record.resolveTrial (fun reached trial larger => ?_) le_rfl
    unfold ExperimentRecord.resolveTrial
    split
    · exact larger
    · have attempts : reached.sequence ≤
          (reached.attempts.traverse (resolveAttempt trial.id) reached.sequence).1 := by
        refine OrderedMap.traverse_keeps _ _ (fun counted attempt further => ?_) le_rfl
        unfold resolveAttempt
        split
        · exact further
        · exact further.trans (Nat.le_succ counted)
      exact Nat.le_succ_of_le (larger.trans attempts)
  exact trials

/-- Recovery never sets the sequence counter back. -/
theorem lastSequence_keptByRecovery (image : Option (CoordinatorState R)) (least : Nat) :
    Coordinator.KeptByRecovery (Coordinator.Upheld image
      fun state : CoordinatorState R => least ≤ state.lastSequence) := by
  refine Coordinator.upheld_keptByRecovery (fun c _ record _ larger => ?_) fun c larger => ?_
  · exact larger.trans (stage_le record c.currentSequence)
  · refine OrderedMap.traverse_keeps c.state.experiments ExperimentRecord.resolve
      (fun reached record further => ?_) larger
    exact further.trans (resolve_le reached record)

variable [MetricReal R] [CanonicalDigests R] {config : Config}
  {image : Option (CoordinatorState R)} {outcomes : WriteOutcomes}

omit [MetricReal R] [CanonicalDigests R] in
theorem PartlyStaged.samePoints {old new : CoordinatorState R} (staged : PartlyStaged old new) :
    old.SamePoints new := by
  intro id record found
  cases before : old.experiments.find? id with
  | none => exact nomatch (staged.absent id before).symm.trans found
  | some original =>
      refine .inr ⟨original, rfl, ?_⟩
      rcases staged.present id original before with same | ⟨sequence, same⟩
      · rw [Option.some.inj (same.symm.trans found)]
      · rw [← Option.some.inj (same.symm.trans found), stage_forget_fields original sequence]
        rfl

omit [MetricReal R] [CanonicalDigests R] in
theorem Recovers.samePoints {old new : CoordinatorState R} (recovers : Recovers old new) :
    old.SamePoints new := by
  intro id record found
  obtain ⟨original, before, same, -⟩ := recovers.source found
  exact .inr ⟨original, before, congrArg (fun forgotten => forgotten.rollbackPoints) same⟩

omit [CanonicalDigests R] in
/-- A start keeps the stamps, in memory and in the file it leaves. -/
theorem create_stamped {path : Text} (sound : SoundImage path image)
    (stamped : (World.down image).Upholds CoordinatorState.Stamped) :
    (World.down (Coordinator.create config image outcomes).1).Upholds
        CoordinatorState.Stamped ∧
      ∀ c, (Coordinator.create config image outcomes).2 = .ok c →
        (World.running c).Upholds CoordinatorState.Stamped := by
  have outcome := Coordinator.create_spec config image outcomes (sound.origin config).1
  have empty : (({} : CoordinatorState R)).Stamped := fun _ _ found => nomatch found
  have start := stamped.origin empty config
  have counted := Coordinator.create_upholds
    (lastSequence_keptByRecovery image (Coordinator.origin config image).lastSequence) config
    outcomes le_rfl
  have running : ∀ c, (Coordinator.create config image outcomes).2 = .ok c →
      c.state.Stamped := by
    intro c started
    have recovers := outcome.recovers c started
    have marks := congrArg Watermarks.rollback recovers.watermarks
    exact start.same recovers.samePoints marks.ge (counted.2 c started)
  have left : (World.down (Coordinator.create config image outcomes).1).Upholds
      CoordinatorState.Stamped := by
    intro state held
    rcases counted.1 with same | ⟨saved, written, larger⟩
    · exact stamped state (same ▸ held)
    · obtain rfl := Option.some.inj (written.symm.trans held)
      by_cases noPath : config.statePath = []
      · exact stamped saved (outcome.noPath noPath ▸ written)
      · rcases outcome.written noPath saved written with staged | ⟨c, started, rfl⟩
        · have marks := congrArg Watermarks.rollback staged.watermarks
          exact start.same staged.samePoints marks.ge larger
        · exact running c started
  refine ⟨left, fun c started => ⟨running c started, ?_⟩⟩
  rw [outcome.stored c started]
  exact left

theorem World.Step.stamped {path : Text} {source target : World R} {event : Event R}
    (step : World.Step path source event target)
    (holds : source.Sound path ∧ source.Upholds CoordinatorState.Stamped) :
    target.Sound path ∧ target.Upholds CoordinatorState.Stamped := by
  refine ⟨step.sound holds.1, ?_⟩
  cases step with
  | request c request fault =>
      exact holds.2.operated (c.perform_operated request fault)
        (Coordinator.perform_stamped holds.2.1 request fault)
  | stop c => exact holds.2.2
  | start samePath started => exact (create_stamped holds.1 holds.2).2 _ (by rw [started])
  | @failedStart config image left outcomes failure samePath refused =>
      have stamped : (World.down (Coordinator.create config image outcomes).1).Upholds
          CoordinatorState.Stamped := (create_stamped holds.1 holds.2).1
      rwa [refused] at stamped

/-- In every reachable state, rollback points carry stamps that were handed out. -/
theorem World.Reachable.stamped {path : Text} {world : World R} (reachable : world.Reachable path) :
    world.Upholds CoordinatorState.Stamped := by
  obtain ⟨events, run⟩ := reachable
  have start : (World.down none : World R).Sound path ∧
      (World.down none : World R).Upholds CoordinatorState.Stamped :=
    ⟨⟨fun _ => rfl, fun _ held => nomatch held⟩, fun _ held => nomatch held⟩
  exact (run.preserves (fun _ _ _ holds step => World.Step.stamped step holds) start).2

end Recovery

/-! ## Refusals -/

section Refusal

variable [MetricReal R] [CanonicalDigests R] {c : Coordinator R} {experiment : ExperimentId}
  {target : ExperimentGeneration}

omit [MetricReal R] in
theorem rollback_recordCount (record : ExperimentRecord R) (chosen : RollbackPoint)
    (point : RollbackPointId) (reason : Text) (sequence : Nat) :
    (record.rollback experiment chosen point reason sequence).recordCount =
      record.recordCount + (1 + record.logGrowth) := by
  unfold ExperimentRecord.rollback
  dsimp only
  rw [log_recordCount]
  change _ + record.logGrowth = _
  simp only [ExperimentRecord.recordCount, ExperimentRecord.abandonStaleLiveWork, closeTrials,
    closeAttempts, OrderedMap.size_mapValues, List.length_append, List.length_singleton]
  omega

/-- Nothing stands in the way of a rollback that passed its guard: the record is valid at the target
generation, and the record and the state have room for one more rollback point. -/
def Coordinator.AcceptsRollback (c : Coordinator R) (experiment : ExperimentId)
    (target : ExperimentGeneration) (record : ExperimentRecord R) : Prop :=
  validateExperimentRecord (record.atGeneration target) c.limits experiment = .ok () ∧
    record.rollbackPoints.length < c.limits.maxDecisionsPerExperiment ∧
    c.Fits (1 + record.logGrowth)

/-- In every reachable state, a rollback that passed its guard succeeds exactly when nothing stands in
its way. -/
theorem rollback_ok_iff {path : Text} (reachable : (World.running c).Reachable path)
    {record : ExperimentRecord R} {chosen : RollbackPoint}
    (guarded : c.rollbackGuard experiment target = .ok (record, chosen)) (reason : Text) :
    (c.rollback experiment target reason none).2 = .ok () ↔
      c.AcceptsRollback experiment target record := by
  have allowed := Coordinator.rollbackGuard_ok guarded
  have stamped := reachable.stamped.1 experiment record allowed.found
  have valid := rollback_valid_iff record experiment chosen ⟨c.state.watermarks.rollback + 1⟩ reason
    (c.currentSequence + 1) c.limits allowed.member
    (fun earlier member => Nat.lt_succ_of_le (stamped earlier member).1)
    (fun earlier member => Nat.lt_succ_of_le (stamped earlier member).2)
  have savable : (c.nextSequence.allocRollbackId.withRecord experiment (record.rollback experiment
      chosen ⟨c.state.watermarks.rollback + 1⟩ reason (c.currentSequence + 1))).Savable none ↔
        c.Fits (1 + record.logGrowth) :=
    Coordinator.savable_iff_fits allowed.found rfl rfl rfl rfl (rollback_recordCount ..)
  rw [allowed.generation] at valid
  unfold Coordinator.AcceptsRollback
  rw [← and_assoc, ← valid, ← savable, Coordinator.rollback, guarded]
  dsimp only
  split
  · rename_i failure refused
    constructor
    · exact fun answered => nomatch answered
    · exact fun accepted => nomatch refused.symm.trans accepted.1
  · rename_i accepted
    rw [Coordinator.settle_ok_iff]
    exact ⟨fun saves => ⟨accepted, saves⟩, fun both => both.2⟩

/-- A rollback that passed its guard stores the rolled back record, whatever it answers. -/
theorem rollback_stored {record : ExperimentRecord R} {chosen : RollbackPoint}
    (guarded : c.rollbackGuard experiment target = .ok (record, chosen)) (reason : Text)
    (fault : Option SaveFault) :
    (c.rollback experiment target reason fault).1.findExperiment experiment =
      some (record.rollback experiment chosen ⟨c.state.watermarks.rollback + 1⟩ reason
        (c.currentSequence + 1)) := by
  have stored : (c.nextSequence.allocRollbackId.withRecord experiment (record.rollback experiment
      chosen ⟨c.state.watermarks.rollback + 1⟩ reason (c.currentSequence + 1))).findExperiment
        experiment = some (record.rollback experiment chosen ⟨c.state.watermarks.rollback + 1⟩
          reason (c.currentSequence + 1)) :=
    OrderedMap.find?_assign_self ..
  rw [Coordinator.rollback, guarded]
  dsimp only
  split
  · exact stored
  · rw [Coordinator.findExperiment, Coordinator.settle_id_fst, Coordinator.persistLocked_state]
    exact stored

/-- In every reachable state, a rollback that is refused although no storage write fails leaves the
record as it was exactly when its guard refuses it or nothing stands in its way. -/
theorem refused_rollback_iff {path : Text} (reachable : (World.running c).Reachable path)
    (experiment : ExperimentId) (target : ExperimentGeneration) (reason : Text) :
    (∀ failure, (c.rollback experiment target reason none).2 = .error failure →
      (c.rollback experiment target reason none).1.findExperiment experiment =
        c.findExperiment experiment) ↔
      ∀ record chosen, c.rollbackGuard experiment target = .ok (record, chosen) →
        c.AcceptsRollback experiment target record := by
  constructor
  · intro unchanged record chosen guarded
    rw [← rollback_ok_iff reachable guarded reason]
    cases answer : (c.rollback experiment target reason none).2 with
    | ok done => rfl
    | error failure =>
        have same := unchanged failure answer
        rw [rollback_stored guarded, (Coordinator.rollbackGuard_ok guarded).found] at same
        have lengths := congrArg (fun record => record.rollbackPoints.length) (Option.some.inj same)
        simp [ExperimentRecord.rollback, ExperimentRecord.log] at lengths
  · intro accepts failure refused
    cases guarded : c.rollbackGuard experiment target with
    | error blame => rw [Coordinator.rollback, guarded]
    | ok target =>
        have accepted := (rollback_ok_iff reachable guarded reason).mpr (accepts _ _ guarded)
        cases accepted.symm.trans refused

/-- The sample rollback succeeds, so it is no refusal that changes the record. -/
theorem refused_rollback_sample :
    (∀ failure, (Sample.concluded.rollback Sample.experiment ⟨1⟩ [] none).2 = .error failure →
      (Sample.concluded.rollback Sample.experiment ⟨1⟩ [] none).1.findExperiment Sample.experiment =
        Sample.concluded.findExperiment Sample.experiment) ↔
      ∀ record chosen, Sample.concluded.rollbackGuard Sample.experiment ⟨1⟩ = .ok (record, chosen) →
        Sample.concluded.AcceptsRollback Sample.experiment ⟨1⟩ record :=
  refused_rollback_iff Sample.concluded_reachable Sample.experiment ⟨1⟩ []

end Refusal

namespace Sample

/-- A conclusion where one rollback point is allowed. -/
def full : Coordinator ℚ :=
  (limited { maxDecisionsPerExperiment := 1 }).session
    [(.createExperiment spec, none), (.finalizeExperiment experiment baseline [], none)]

end Sample

/-- A rollback without room for its point is refused and leaves the experiment rolled back. -/
theorem refused_rollback_changes : (World.running Sample.full).Reachable (text "state") ∧
    ∃ failure, (Sample.full.rollback Sample.experiment ⟨1⟩ [] none).2 = .error failure ∧
      (Sample.full.rollback Sample.experiment ⟨1⟩ [] none).1.findExperiment Sample.experiment ≠
        Sample.full.findExperiment Sample.experiment := by
  have refused : (Sample.full.rollback Sample.experiment ⟨1⟩ [] none).2.isOk = false := by
    decide +kernel
  have before : (Sample.full.findExperiment Sample.experiment).map ExperimentRecord.state =
      some .finalized := by
    decide +kernel
  have after : ((Sample.full.rollback Sample.experiment ⟨1⟩ [] none).1.findExperiment
      Sample.experiment).map ExperimentRecord.state = some .opened := by
    decide +kernel
  refine ⟨Sample.limited_reachable (by decide) _, ?_⟩
  cases answer : (Sample.full.rollback Sample.experiment ⟨1⟩ [] none).2 with
  | ok done =>
      rw [answer] at refused
      cases refused
  | error failure =>
      refine ⟨failure, rfl, fun same => ?_⟩
      rw [same, before] at after
      cases after

end ExperimentFabric
