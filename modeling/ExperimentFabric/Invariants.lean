import ExperimentFabric.Soundness

/-!
# Invariants of the durable state

A property of the durable state that every step of a request, every staging write and every recovery
keeps holds in memory and in the file throughout every run.  The steps of the run may be restricted
by a condition, which each of these obligations may then assume.
-/

namespace ExperimentFabric

open Lib Relation

variable {R : Type} [MetricReal R] [CanonicalDigests R]

/-- What makes a property of the durable state an invariant of the runs whose steps meet a
condition. -/
structure DurableInvariant (condition : World R → Event R → Prop)
    (property : CoordinatorState R → Prop) : Prop where
  empty : property {}
  step : ∀ {c : Coordinator R} {request : Request R} {fault : Option SaveFault}
    {old new : CoordinatorState R}, condition (.running c) (.request request fault) →
      StateStep c request old new → old.Advances new → old.Consistent → old.Arranged →
        property old → property new
  staged : ∀ {image : Option (CoordinatorState R)} {config : Config} {outcomes : WriteOutcomes}
    {new : CoordinatorState R}, condition (.down image) (.start config outcomes) →
      PartlyStaged (Coordinator.origin config image) new →
        (Coordinator.origin config image).Saved → property (Coordinator.origin config image) →
          property new
  recovered : ∀ {image : Option (CoordinatorState R)} {config : Config} {outcomes : WriteOutcomes}
    {new : CoordinatorState R}, condition (.down image) (.start config outcomes) →
      Recovers (Coordinator.origin config image) new →
        (Coordinator.origin config image).Saved → property (Coordinator.origin config image) →
          property new

/-- What makes a property of the durable state an invariant of the runs whose steps meet a
condition, when a step of a request may refer to what the request has done before it. -/
structure RunInvariant (condition : World R → Event R → Prop)
    (property : CoordinatorState R → Prop) : Prop where
  empty : property {}
  step : ∀ {c : Coordinator R} {request : Request R} {fault : Option SaveFault}
    {old new : CoordinatorState R}, condition (.running c) (.request request fault) →
      StateSteps c request c.state old → StateStep c request old new → old.Advances new →
        old.Consistent → old.Arranged → property old → property new
  staged : ∀ {image : Option (CoordinatorState R)} {config : Config} {outcomes : WriteOutcomes}
    {new : CoordinatorState R}, condition (.down image) (.start config outcomes) →
      PartlyStaged (Coordinator.origin config image) new →
        (Coordinator.origin config image).Saved → property (Coordinator.origin config image) →
          property new
  recovered : ∀ {image : Option (CoordinatorState R)} {config : Config} {outcomes : WriteOutcomes}
    {new : CoordinatorState R}, condition (.down image) (.start config outcomes) →
      Recovers (Coordinator.origin config image) new →
        (Coordinator.origin config image).Saved → property (Coordinator.origin config image) →
          property new

theorem DurableInvariant.ofRuns {condition : World R → Event R → Prop}
    {property : CoordinatorState R → Prop} (invariant : DurableInvariant condition property) :
    RunInvariant condition property :=
  ⟨invariant.empty, fun meets _ => invariant.step meets, invariant.staged, invariant.recovered⟩

/-- The property holds in memory and in the file. -/
def World.Upholds (property : CoordinatorState R → Prop) : World R → Prop
  | .running c => property c.state ∧ ∀ image, c.image = some image → property image
  | .down image => ∀ state, image = some state → property state

section Upholds

omit [MetricReal R] [CanonicalDigests R]

variable {property other : CoordinatorState R → Prop} {world : World R}

theorem World.Upholds.mono (upholds : world.Upholds property)
    (imply : ∀ state, property state → other state) : world.Upholds other := by
  cases world with
  | running c => exact ⟨imply _ upholds.1, fun image written => imply image (upholds.2 image written)⟩
  | down image => exact fun state written => imply state (upholds state written)

theorem World.Upholds.and (upholds : world.Upholds property) (more : world.Upholds other) :
    world.Upholds fun state => property state ∧ other state := by
  cases world with
  | running c =>
      exact ⟨⟨upholds.1, more.1⟩, fun image written =>
        ⟨upholds.2 image written, more.2 image written⟩⟩
  | down image => exact fun state written => ⟨upholds state written, more state written⟩

/-- Before the first start there is nothing that could fail the property. -/
theorem World.start_upholds (path : Text) (property : CoordinatorState R → Prop) :
    (World.down none : World R).Sound path ∧ (World.down none : World R).Upholds property :=
  ⟨⟨fun _ => rfl, fun _ held => by cases held⟩, fun _ held => by cases held⟩

end Upholds

section Steps

variable {condition : World R → Event R → Prop} {property : CoordinatorState R → Prop}

theorem RunInvariant.steps (invariant : RunInvariant condition property)
    {c : Coordinator R} {request : Request R} {fault : Option SaveFault}
    (meets : condition (.running c) (.request request fault)) {new : CoordinatorState R}
    (steps : StateSteps c request c.state new) (consistent : c.state.Consistent)
    (arranged : c.state.Arranged) (holds : property c.state) : property new := by
  induction steps with
  | refl => exact holds
  | tail earlier last ih =>
      obtain ⟨consistent', arranged'⟩ := StateSteps.sound earlier consistent arranged
      exact invariant.step meets earlier last.1 last.2 consistent' arranged' ih

omit [MetricReal R] [CanonicalDigests R] in
/-- A process starts from the file or from nothing. -/
theorem World.Upholds.origin (empty : property {}) {image : Option (CoordinatorState R)}
    (config : Config) (holds : (World.down image).Upholds property) :
    property (Coordinator.origin config image) := by
  unfold Coordinator.origin
  split
  · exact empty
  · cases image with
    | none => exact empty
    | some state => exact holds state rfl

omit [CanonicalDigests R] in
/-- What staging and recovery keep of the property, a start keeps in memory and in the file. -/
theorem World.Upholds.create {path : Text} {image : Option (CoordinatorState R)} {config : Config}
    {outcomes : WriteOutcomes} (sound : SoundImage path image)
    (holds : (World.down image).Upholds property)
    (staged : ∀ new, PartlyStaged (Coordinator.origin config image) new → property new)
    (running : ∀ c, (Coordinator.create config image outcomes).2 = .ok c → property c.state) :
    (World.down (Coordinator.create config image outcomes).1).Upholds property ∧
      ∀ c, (Coordinator.create config image outcomes).2 = .ok c →
        (World.running c).Upholds property := by
  have outcome := Coordinator.create_spec config image outcomes (sound.origin config).1
  have left : (World.down (Coordinator.create config image outcomes).1).Upholds property := by
    by_cases noPath : config.statePath = []
    · rw [outcome.noPath noPath]
      exact holds
    · intro state held
      rcases outcome.written noPath state held with partly | ⟨c, started, rfl⟩
      · exact staged state partly
      · exact running c started
  refine ⟨left, fun c started => ⟨running c started, ?_⟩⟩
  rw [outcome.stored c started]
  exact left

/-- A start keeps the property, whether or not it succeeds. -/
theorem RunInvariant.create (invariant : RunInvariant condition property) {path : Text}
    {image : Option (CoordinatorState R)} {config : Config} {outcomes : WriteOutcomes}
    (meets : condition (.down image) (.start config outcomes)) (sound : SoundImage path image)
    (holds : (World.down image).Upholds property) :
    (World.down (Coordinator.create config image outcomes).1).Upholds property ∧
      ∀ c, (Coordinator.create config image outcomes).2 = .ok c →
        (World.running c).Upholds property := by
  have saved := (sound.origin config).1
  have outcome := Coordinator.create_spec config image outcomes saved
  have start := holds.origin invariant.empty config
  refine holds.create sound (fun new staged => ?_) fun c started => ?_
  · exact invariant.staged meets staged saved start
  · exact invariant.recovered meets (outcome.recovers c started) saved start

omit [MetricReal R] [CanonicalDigests R] in
/-- What an operation keeps in memory, it keeps in the file. -/
theorem World.Upholds.operated {c c' : Coordinator R} (operated : Coordinator.Operated c c')
    (holds : (World.running c).Upholds property) (memory : property c'.state) :
    (World.running c').Upholds property := by
  refine ⟨memory, ?_⟩
  cases operated.outcome with
  | untouched image degraded =>
      rw [image]
      exact holds.2
  | failed image degraded =>
      rw [image]
      exact holds.2
  | written image degraded hasPath =>
      rw [image]
      rintro state ⟨⟩
      exact memory

/-- A request keeps the property. -/
theorem RunInvariant.perform (invariant : RunInvariant condition property) {path : Text}
    {c : Coordinator R} {request : Request R} {fault : Option SaveFault}
    (meets : condition (.running c) (.request request fault))
    (sound : (World.running c).Sound path) (holds : (World.running c).Upholds property) :
    (World.running (c.perform request fault).1).Upholds property := by
  obtain ⟨-, consistent, arranged, -⟩ := sound
  have memory := invariant.steps meets (c.perform_steps request fault) consistent arranged holds.1
  exact holds.operated (c.perform_operated request fault) memory

/-- A step of a world keeps the property. -/
theorem RunInvariant.world (invariant : RunInvariant condition property) {path : Text}
    {source target : World R} {event : Event R} (meets : condition source event)
    (step : World.Step path source event target)
    (holds : source.Sound path ∧ source.Upholds property) :
    target.Sound path ∧ target.Upholds property := by
  refine ⟨step.sound holds.1, ?_⟩
  cases step with
  | request c request fault => exact invariant.perform meets holds.1 holds.2
  | stop c => exact holds.2.2
  | start samePath started =>
      exact (invariant.create meets holds.1 holds.2).2 _ (by rw [started])
  | failedStart samePath refused =>
      have left := (invariant.create meets holds.1 holds.2).1
      rwa [refused] at left

/-- An invariant holds throughout every run whose steps meet the condition. -/
theorem RunInvariant.run (invariant : RunInvariant condition property) {path : Text}
    {events : List (Event R)} {world : World R}
    (run : Run (fun source event target => condition source event ∧
      World.Step path source event target) (.down none) events world) :
    world.Sound path ∧ world.Upholds property :=
  run.preserves_of (fun _ _ _ holds meets step => invariant.world meets step holds)
    (World.start_upholds path property)

theorem DurableInvariant.run (invariant : DurableInvariant condition property) {path : Text}
    {events : List (Event R)} {world : World R}
    (run : Run (fun source event target => condition source event ∧
      World.Step path source event target) (.down none) events world) :
    world.Sound path ∧ world.Upholds property :=
  invariant.ofRuns.run run

/-- An invariant of all runs holds in every reachable world. -/
theorem World.Reachable.upholds {path : Text} {world : World R} (reachable : world.Reachable path)
    (invariant : RunInvariant (fun _ _ => True) property) : world.Upholds property := by
  obtain ⟨events, run⟩ := reachable
  exact (invariant.run (run.mono fun _ _ _ step => ⟨trivial, step⟩)).2

/-- An invariant of all steps holds in every reachable world. -/
theorem World.Reachable.holds {path : Text} {world : World R} (reachable : world.Reachable path)
    (invariant : DurableInvariant (fun _ _ => True) property) : world.Upholds property :=
  reachable.upholds invariant.ofRuns

end Steps

/-! ## Invariants of single experiments -/

/-- A property of experiment records that every change of one record keeps. -/
structure RecordInvariant (condition : World R → Event R → Prop)
    (property : ExperimentRecord R → Prop) : Prop where
  logged : ∀ {record : ExperimentRecord R} {line : Text}, property record →
    property (record.log line)
  created : ∀ {spec : ExperimentSpec R} {limits : Limits} {marks : Watermarks} {expected : MetricId}
    {branches : List BranchDefinition} {record : ExperimentRecord R} {sequence : Nat},
    validateSpec spec limits = .ok () →
    (defineBranches sequence marks.branch [] spec.branches).2 = .ok branches →
    record = spec.record ⟨marks.experiment + 1⟩ ⟨marks.hypothesis + 1⟩ ⟨marks.policy + 1⟩
      (defineMetrics marks.metric spec.metrics) expected branches sequence →
    validateExperimentRecord record limits ⟨marks.experiment + 1⟩ = .ok () → property record
  changed : ∀ {c : Coordinator R} {request : Request R} {fault : Option SaveFault}
    {experiment : ExperimentId} {record after : ExperimentRecord R} {marks marks' : Watermarks},
    condition (.running c) (.request request fault) →
      Effect c experiment record marks' request after → Lifecycle marks record →
        property record → property after
  added : ∀ {c : Coordinator R} {experiment : ExperimentId} {branchId : BranchId} {payload : Text}
    {record : ExperimentRecord R} {branch : BranchDefinition},
    c.createTrialGuard experiment branchId payload = .ok (record, branch) →
      property record → property (record.addTrial (record.newTrial experiment branch
        ⟨c.state.watermarks.trial + 1⟩ payload (c.currentSequence + 1)))
  issued : ∀ {record : ExperimentRecord R} {limits : Limits} {key : TrialId} {trial : TrialRecord}
    {branch : BranchDefinition} {marks : Watermarks} {id : TrialAttemptId} {worker : WorkerId}
    {boot : WorkerBootId} {epoch : CoordinatorEpoch} {producer : ProducerId} {sequence : Nat},
    record.state = .opened → record.trials.find? key = some trial →
      record.claimable limits trial = some branch → Lifecycle marks record →
        marks.attempt < id.value → property record →
          property (record.issue key
            (record.newAttempt trial id worker boot epoch producer sequence) sequence)
  lost : ∀ {record : ExperimentRecord R} {marks : Watermarks} {worker : WorkerId}
    {boot : WorkerBootId} {kind : FailureKind} {attemptDetail trialDetail line : Text}
    {sequence : Nat}, Lifecycle marks record → property record →
      property (record.loseWorker worker boot kind attemptDetail trialDetail sequence line)
  staged : ∀ {record : ExperimentRecord R} (sequence : Nat), property record →
    property (record.stage sequence).2
  recovered : ∀ {image : Option (CoordinatorState R)} {config : Config} {outcomes : WriteOutcomes}
    {id : ExperimentId} {record after : ExperimentRecord R},
    condition (.down image) (.start config outcomes) →
      (Coordinator.origin config image).experiments.find? id = some record →
        after.forget = record.recovered.forget → Frozen record after → property record →
          property after

/-- Every experiment of the state has the property. -/
def CoordinatorState.Every (property : ExperimentRecord R → Prop) (state : CoordinatorState R) :
    Prop :=
  ∀ id record, state.experiments.find? id = some record → property record

omit [MetricReal R] [CanonicalDigests R] in
theorem CoordinatorState.Every.assign {property : ExperimentRecord R → Prop}
    {old new : CoordinatorState R} (every : old.Every property) {experiment : ExperimentId}
    {after : ExperimentRecord R}
    (stored : new.experiments = old.experiments.assign experiment after)
    (holds : property after) : new.Every property := by
  intro id record found
  rw [stored, OrderedMap.find?_assign] at found
  split at found
  · obtain rfl := Option.some.inj found
    exact holds
  · exact every id record found

omit [MetricReal R] [CanonicalDigests R] in
/-- Removing the trial that was just added leaves the record as it was, up to its log. -/
theorem Lifecycle.removeTrial_addTrial {marks : Watermarks} {record : ExperimentRecord R}
    (life : Lifecycle marks record) {experiment : ExperimentId} {branch : BranchDefinition}
    {id : TrialId} {payload : Text} {sequence : Nat} (fresh : marks.trial < id.value) :
    ∃ line, (record.addTrial (record.newTrial experiment branch id payload sequence)).removeTrial id =
      record.log line := by
  have trials : ((record.addTrial (record.newTrial experiment branch id payload
      sequence)).removeTrial id).trials = record.trials := life.addTrialUndone fresh
  unfold ExperimentRecord.removeTrial ExperimentRecord.addTrial ExperimentRecord.log at trials ⊢
  dsimp only at trials ⊢
  rw [trials]
  exact ⟨_, rfl⟩

/-- What one step of a request must keep, so that a property holds of every experiment after it. -/
structure RecordsKept (c : Coordinator R) (request : Request R) (old : CoordinatorState R)
    (property : ExperimentRecord R → Prop) : Prop where
  logged : ∀ {record : ExperimentRecord R} {line : Text}, property record →
    property (record.log line)
  created : ∀ {spec : ExperimentSpec R} {expected : MetricId} {branches : List BranchDefinition}
    {record : ExperimentRecord R}, request = .createExperiment spec →
    validateSpec spec c.limits = .ok () →
    (defineBranches (c.currentSequence + 1) c.state.watermarks.branch [] spec.branches).2 =
      .ok branches →
    record = spec.record ⟨c.state.watermarks.experiment + 1⟩ ⟨c.state.watermarks.hypothesis + 1⟩
      ⟨c.state.watermarks.policy + 1⟩ (defineMetrics c.state.watermarks.metric spec.metrics)
      expected branches (c.currentSequence + 1) →
    validateExperimentRecord record c.limits ⟨c.state.watermarks.experiment + 1⟩ = .ok () →
      property record
  changed : ∀ {experiment : ExperimentId} {record after : ExperimentRecord R} {marks : Watermarks},
    Effect c experiment record marks request after → Lifecycle old.watermarks record →
      property record → property after
  added : ∀ {experiment : ExperimentId} {branchId : BranchId} {payload : Text}
    {record : ExperimentRecord R} {branch : BranchDefinition},
    c.createTrialGuard experiment branchId payload = .ok (record, branch) →
      Lifecycle old.watermarks record → old.watermarks.trial = c.state.watermarks.trial →
        property record → property (record.addTrial (record.newTrial experiment branch
          ⟨c.state.watermarks.trial + 1⟩ payload (c.currentSequence + 1)))
  issued : ∀ {claim : ClaimTrialRequest} {live : LiveWorker} {experiment : ExperimentId}
    {record : ExperimentRecord R} {key : TrialId} {trial : TrialRecord} {branch : BranchDefinition}
    {id : TrialAttemptId} {sequence : Nat}, request = .claimTrials claim →
    c.claimTrialsGuard claim = .ok live → old.experiments.find? experiment = some record →
      record.state = .opened → record.trials.find? key = some trial →
        record.claimable c.limits trial = some branch → Lifecycle old.watermarks record →
          old.watermarks.attempt < id.value → property record →
            property (record.issue key (record.newAttempt trial id claim.worker claim.boot c.epoch
              live.producer sequence) sequence)
  lost : ∀ {worker : WorkerId} {boot : WorkerBootId} {kind : FailureKind}
    {attemptDetail trialDetail line : Text} {sequence : Nat} {id : ExperimentId}
    {record : ExperimentRecord R}, ((∃ reason, request = .revokeWorker worker boot kind reason) ∨
      ∃ registration : RegisterWorkerRequest, request = .registerWorker registration ∧
        registration.worker = worker ∧ registration.boot ≠ boot) →
    old.experiments.find? id = some record → Lifecycle old.watermarks record → property record →
      property (record.loseWorker worker boot kind attemptDetail trialDetail sequence line)

/-- A step keeps a property of every experiment. -/
theorem RecordsKept.every {c : Coordinator R} {request : Request R} {old new : CoordinatorState R}
    {property : ExperimentRecord R → Prop} (kept : RecordsKept c request old property)
    (step : StateStep c request old new) (consistent : old.Consistent)
    (every : old.Every property) : new.Every property := by
  cases step with
  | quiet same workers => exact fun id record found => every id record (same ▸ found)
  | change found effect stored workers =>
      exact every.assign stored
        (kept.changed effect (consistent _ _ found) (every _ _ found))
  | create named accepted room defined valid allocated before absent stored workers branched =>
      exact every.assign stored (kept.created named accepted branched defined valid)
  | addTrial named guarded valid found fresh allocated stored workers =>
      exact every.assign stored (kept.added guarded (consistent _ _ found) fresh (every _ _ found))
  | addTrialUndone named guarded found fresh stored workers =>
      refine every.assign stored ?_
      have above : old.watermarks.trial < c.state.watermarks.trial + 1 := by
        rw [fresh]
        exact Nat.lt_succ_self _
      obtain ⟨line, same⟩ := (consistent _ _ found).removeTrial_addTrial above
      rw [same]
      exact kept.logged (every _ _ found)
  | issue named guarded found opened trialFound claimable fresh allocated stored workers =>
      exact every.assign stored (kept.issued named guarded found opened trialFound claimable
        (consistent _ _ found) fresh (every _ _ found))
  | lose named stored workers =>
      intro id record found
      rw [stored, OrderedMap.find?_mapValues] at found
      obtain ⟨before, lookup, rfl⟩ := Option.map_eq_some_iff.mp found
      exact kept.lost named lookup (consistent id before lookup) (every id before lookup)
  | register named guarded fresh identity same workers =>
      exact fun id record found => every id record (same ▸ found)

/-- What every step of a request keeps of the experiments, the request keeps. -/
theorem RecordsKept.steps {c : Coordinator R} {request : Request R}
    {property : ExperimentRecord R → Prop} (kept : ∀ old, RecordsKept c request old property)
    {new : CoordinatorState R} (steps : StateSteps c request c.state new)
    (consistent : c.state.Consistent) (arranged : c.state.Arranged)
    (every : c.state.Every property) : new.Every property := by
  induction steps with
  | refl => exact every
  | tail earlier last ih =>
      exact (kept _).every last.1 (StateSteps.sound earlier consistent arranged).1 ih

omit [CanonicalDigests R] [MetricReal R] in
theorem CoordinatorState.Every.stage {property : ExperimentRecord R → Prop}
    {old new : CoordinatorState R} (every : old.Every property) (staged : PartlyStaged old new)
    (each : ∀ {record : ExperimentRecord R} (sequence : Nat), property record →
      property (record.stage sequence).2) : new.Every property :=
  staged.every each every

/-- An invariant of single experiments is an invariant of the durable state. -/
theorem RecordInvariant.durable {condition : World R → Event R → Prop}
    {property : ExperimentRecord R → Prop} (invariant : RecordInvariant condition property) :
    DurableInvariant condition (CoordinatorState.Every property) where
  empty := fun id record found => by cases found
  step := by
    intro c request fault old new meets step _ consistent _ every
    have kept : RecordsKept c request old property :=
      ⟨invariant.logged, fun _ => invariant.created, invariant.changed meets,
        fun guarded _ _ => invariant.added guarded, fun _ _ _ => invariant.issued,
        fun _ _ => invariant.lost⟩
    exact kept.every step consistent every
  staged := fun _ staged _ every => every.stage staged invariant.staged
  recovered := by
    intro image config outcomes new meets recovers _ every id record found
    obtain ⟨original, before, same, frozen⟩ := recovers.source found
    exact invariant.recovered meets before same frozen (every id original before)

/-- A property of experiment records that every step of a request keeps, given what the request has
done before it. -/
structure RecordRunInvariant (condition : World R → Event R → Prop)
    (property : ExperimentRecord R → Prop) : Prop where
  kept : ∀ {c : Coordinator R} {request : Request R} {fault : Option SaveFault}
    {old : CoordinatorState R}, condition (.running c) (.request request fault) →
      StateSteps c request c.state old → RecordsKept c request old property
  staged : ∀ {record : ExperimentRecord R} (sequence : Nat), property record →
    property (record.stage sequence).2
  recovered : ∀ {image : Option (CoordinatorState R)} {config : Config} {outcomes : WriteOutcomes}
    {id : ExperimentId} {record after : ExperimentRecord R},
    condition (.down image) (.start config outcomes) →
      (Coordinator.origin config image).experiments.find? id = some record →
        after.forget = record.recovered.forget → Frozen record after → property record →
          property after

theorem RecordRunInvariant.durable {condition : World R → Event R → Prop}
    {property : ExperimentRecord R → Prop} (invariant : RecordRunInvariant condition property) :
    RunInvariant condition (CoordinatorState.Every property) where
  empty := fun id record found => by cases found
  step := fun meets reached step _ consistent _ every =>
    (invariant.kept meets reached).every step consistent every
  staged := fun _ staged _ every => every.stage staged invariant.staged
  recovered := by
    intro image config outcomes new meets recovers _ every id record found
    obtain ⟨original, before, same, frozen⟩ := recovers.source found
    exact invariant.recovered meets before same frozen (every id original before)

end ExperimentFabric
