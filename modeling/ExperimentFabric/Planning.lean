import ExperimentFabric.Descent
import ExperimentFabric.Reading
import ExperimentFabric.Session

/-!
# Plans

Creations determine the definitions of experiments and what trials are created with.  Registrations,
claims, publications and commits touch neither, so the plan of a session is the plan of its creations
in their order, whatever is executed between them.
-/

namespace ExperimentFabric

open Lib Relation

variable {R : Type}

/-! ## Plans -/

/-- A definition without the sequence numbers of its creation. -/
def ExperimentDefinition.undated (definition : ExperimentDefinition R) : ExperimentDefinition R :=
  { definition with
    branches := definition.branches.map BranchDefinition.undated
    createdSequence := 0 }

/-- The part of a trial that its creation determines, whenever it takes place. -/
def TrialRecord.undated (trial : TrialRecord) : TrialRecord :=
  { trial.fixed with createdSequence := 0 }

/-- What creations determine of an experiment. -/
def ExperimentRecord.outline (record : ExperimentRecord R) : ExperimentRecord R where
  definition := record.definition.undated
  hypothesis := {}
  state := record.state
  trials := record.trials.mapValues TrialRecord.undated

/-- The watermarks that creations move. -/
def Watermarks.created (marks : Watermarks) : Watermarks :=
  { marks with attempt := 0, observation := 0, artifact := 0, decision := 0, rollback := 0 }

/-- What creations determine of the durable state. -/
structure Plan (R : Type) where
  marks : Watermarks := {}
  experiments : OrderedMap ExperimentId (ExperimentRecord R) := .empty

/-- The plan of a state. -/
def CoordinatorState.plan (state : CoordinatorState R) : Plan R where
  marks := state.watermarks.created
  experiments := state.experiments.mapValues ExperimentRecord.outline

/-- Carry out a creation. -/
def Plan.create (plan : Plan R) : Request R → Plan R
  | .createExperiment spec =>
      let marks := plan.marks
      let branches := defineBranches 0 marks.branch [] spec.branches
      { marks :=
          { marks with
            experiment := marks.experiment + 1
            hypothesis := marks.hypothesis + 1
            metric := marks.metric + spec.metrics.length
            policy := marks.policy + 1
            branch := branches.1 }
        experiments := plan.experiments.assign ⟨marks.experiment + 1⟩
          (spec.record ⟨marks.experiment + 1⟩ ⟨marks.hypothesis + 1⟩ ⟨marks.policy + 1⟩
            (defineMetrics marks.metric spec.metrics) .null (branches.2.toOption.getD []) 0).outline }
  | .createTrial experiment branch payload =>
      { marks := { plan.marks with trial := plan.marks.trial + 1 }
        experiments := plan.experiments.modify experiment fun record =>
          match record.findBranch branch with
          | none => record
          | some found => (record.addTrial
              (record.newTrial experiment found ⟨plan.marks.trial + 1⟩ payload 0)).outline }
  | _ => plan

/-- The request creates an experiment or a trial. -/
def Request.creates : Request R → Bool
  | .createExperiment _ | .createTrial .. => true
  | _ => false

/-- The request registers or loses workers, claims, publishes, commits or saves. -/
def Request.executes : Request R → Bool
  | .registerWorker _ | .revokeWorker .. | .heartbeat _ | .claimTrials _ | .publishObservation _
  | .publishArtifact _ | .commitTrial _ | .save | .requestShutdown | .startServer _
  | .stopServer => true
  | _ => false

/-! ## Creations -/

/-- Definitions that one more branch starts. -/
def startBranches (branch : BranchDefinition) (later : Nat × Result (List BranchDefinition)) :
    Nat × Result (List BranchDefinition) :=
  (later.1, later.2.map (branch :: ·))

theorem defineBranches_cons (sequence watermark : Nat) (declared : List (BranchId × BranchSpec))
    (spec : BranchSpec) (rest : List BranchSpec) :
    defineBranches sequence watermark declared (spec :: rest) =
      match spec.forkFrom with
      | none => startBranches (spec.define ⟨watermark + 1⟩ sequence)
          (defineBranches sequence (watermark + 1) (declared ++ [(⟨watermark + 1⟩, spec)]) rest)
      | some name =>
          match declared.find? (·.2.name = name) with
          | none => (watermark + 1, .error (definitionError
              (text "branch fork parent must be declared earlier in the specification")))
          | some parent => startBranches
              ((spec.define ⟨watermark + 1⟩ sequence).inherit parent.1 parent.2)
              (defineBranches sequence (watermark + 1) (declared ++ [(⟨watermark + 1⟩, spec)])
                rest) := by
  rw [defineBranches]
  generalize defineBranches sequence (watermark + 1) (declared ++ [(⟨watermark + 1⟩, spec)]) rest =
    later
  obtain ⟨reached, outcome⟩ := later
  cases spec.forkFrom with
  | none => cases outcome <;> rfl
  | some name =>
      dsimp only
      cases declared.find? (·.2.name = name) with
      | none => rfl
      | some parent => cases outcome <;> rfl

/-- The sequence number of a creation dates the declared branches and decides nothing else. -/
theorem defineBranches_undated (sequence watermark : Nat) (declared : List (BranchId × BranchSpec))
    (specs : List BranchSpec) :
    (defineBranches sequence watermark declared specs).map id
        (Except.map (List.map BranchDefinition.undated)) =
      (defineBranches 0 watermark declared specs).map id
        (Except.map (List.map BranchDefinition.undated)) := by
  have started : ∀ branch (later : Nat × Result (List BranchDefinition)),
      (startBranches branch later).map id (Except.map (List.map BranchDefinition.undated)) =
        startBranches branch.undated
          (later.map id (Except.map (List.map BranchDefinition.undated))) := by
    rintro branch ⟨reached, _ | _⟩ <;> rfl
  induction specs generalizing watermark declared with
  | nil => rfl
  | cons spec rest ih =>
      rw [defineBranches_cons, defineBranches_cons]
      cases spec.forkFrom with
      | none =>
          dsimp only
          rw [started, started, ih]
          rfl
      | some name =>
          dsimp only
          cases declared.find? (·.2.name = name) with
          | none => rfl
          | some parent =>
              dsimp only
              rw [started, started, ih]
              rfl

/-- An operation that answers its value ends in the state it prepared. -/
theorem Coordinator.settle_state_of_ok {α : Type} (c : Coordinator R) (fault : Option SaveFault)
    (undo : Coordinator R → Coordinator R) (value : α)
    (succeeded : (c.settle fault undo value).2.isOk = true) :
    (c.settle fault undo value).1.state = c.state := by
  rcases c.settle_cases fault undo value with ⟨saved, persisted, ended⟩ |
    ⟨unsaved, failure, persisted, ended⟩
  · rw [ended]
    simpa [persisted] using c.persistLocked_state fault true
  · rw [ended] at succeeded
    cases succeeded

theorem spec_outline (spec : ExperimentSpec R) (id : ExperimentId) (hypothesis : HypothesisId)
    (policy : PolicyId) (metrics : List (MetricDefinition R))
    {branches branches' : List BranchDefinition}
    (same : branches'.map BranchDefinition.undated = branches.map BranchDefinition.undated)
    (expected expected' : MetricId) (sequence sequence' : Nat) :
    (spec.record id hypothesis policy metrics expected branches sequence).outline =
      (spec.record id hypothesis policy metrics expected' branches' sequence').outline := by
  unfold ExperimentSpec.record ExperimentRecord.outline ExperimentDefinition.undated
  dsimp only
  rw [same]

namespace ExperimentRecord

variable (record : ExperimentRecord R)

theorem findBranch_outline (branch : BranchId) :
    record.outline.findBranch branch =
      (record.findBranch branch).map BranchDefinition.undated := by
  unfold findBranch outline ExperimentDefinition.undated
  rw [List.find?_map]
  rfl

/-- The outline of a record with one more trial. -/
theorem addTrial_outline (experiment : ExperimentId) (branch : BranchDefinition) (id : TrialId)
    (payload : Text) (sequence sequence' : Nat) :
    (record.addTrial (record.newTrial experiment branch id payload sequence)).outline =
      (record.outline.addTrial
        (record.outline.newTrial experiment branch.undated id payload sequence')).outline := by
  have trials : (record.trials.emplace id
      (record.newTrial experiment branch id payload sequence)).mapValues TrialRecord.undated =
        (record.outline.trials.emplace id (record.outline.newTrial experiment branch.undated id
          payload sequence')).mapValues TrialRecord.undated := by
    have planned : record.outline.trials = record.trials.mapValues TrialRecord.undated := rfl
    refine OrderedMap.ext fun key => ?_
    rw [OrderedMap.find?_mapValues, OrderedMap.find?_mapValues, OrderedMap.find?_emplace,
      OrderedMap.find?_emplace, planned, OrderedMap.find?_mapValues, OrderedMap.find?_mapValues]
    split
    · cases record.trials.find? id <;> rfl
    · cases record.trials.find? key <;> rfl
  have definition : record.definition.undated = record.definition.undated.undated := by
    unfold ExperimentDefinition.undated
    simp only [List.map_map]
    rfl
  let assemble (definition : ExperimentDefinition R) (trials : OrderedMap TrialId TrialRecord) :
      ExperimentRecord R :=
    { definition, trials, hypothesis := {}, state := record.state }
  exact congrArg₂ assemble definition trials

end ExperimentRecord

section Creations

variable [MetricReal R] (c : Coordinator R)

/-- A successful `createExperiment` is the creation of its specification. -/
theorem createExperiment_plan (spec : ExperimentSpec R) (fault : Option SaveFault)
    (succeeded : (c.createExperiment spec fault).2.isOk = true) :
    (c.createExperiment spec fault).1.state.plan = c.state.plan.create (.createExperiment spec) := by
  have undated := defineBranches_undated (c.state.lastSequence + 1) c.state.watermarks.branch []
    spec.branches
  have branches : ∀ declared, (defineBranches (c.state.lastSequence + 1)
      c.state.watermarks.branch [] spec.branches).2 = .ok declared →
        ((defineBranches 0 c.state.watermarks.branch [] spec.branches).2.toOption.getD []).map
          BranchDefinition.undated = declared.map BranchDefinition.undated := by
    intro declared defined
    have second := congrArg Prod.snd undated
    rw [Prod.map_snd, Prod.map_snd, defined] at second
    cases initial : (defineBranches 0 c.state.watermarks.branch [] spec.branches).2 with
    | error failure =>
        rw [initial] at second
        cases second
    | ok branches =>
        rw [initial] at second
        exact (Except.ok.inj second).symm
  revert succeeded
  unfold Coordinator.createExperiment
  split
  · exact fun failed => nomatch failed
  · split
    · exact fun failed => nomatch failed
    · split
      · exact fun failed => nomatch failed
      · dsimp only
        split
        · exact fun failed => nomatch failed
        · split
          · exact fun failed => nomatch failed
          · split
            · exact fun failed => nomatch failed
            · rename_i declared defined
              split
              · exact fun failed => nomatch failed
              · intro succeeded
                rw [Coordinator.settle_state_of_ok _ _ _ _ succeeded]
                refine congrArg₂ Plan.mk ?_ ?_
                · have reached := congrArg Prod.fst undated
                  rw [Prod.map_fst, Prod.map_fst, id, id] at reached
                  simp [CoordinatorState.plan, Watermarks.created, reached]
                · refine (OrderedMap.mapValues_assign ..).trans ?_
                  exact congrArg _ (spec_outline spec _ _ _ _ (branches declared defined) ..)

/-- A successful `createTrial` is the creation of its trial. -/
theorem createTrial_plan (experiment : ExperimentId) (branch : BranchId) (payload : Text)
    (fault : Option SaveFault)
    (succeeded : (c.createTrial experiment branch payload fault).2.isOk = true) :
    (c.createTrial experiment branch payload fault).1.state.plan =
      c.state.plan.create (.createTrial experiment branch payload) := by
  revert succeeded
  unfold Coordinator.createTrial
  split
  · exact fun failed => nomatch failed
  · rename_i record definition guarded
    obtain ⟨found, -, branchFound, -, -⟩ := Coordinator.createTrialGuard_ok guarded
    dsimp only
    split
    · exact fun failed => nomatch failed
    · intro succeeded
      rw [Coordinator.settle_state_of_ok _ _ _ _ succeeded]
      refine congrArg₂ Plan.mk rfl ?_
      refine (OrderedMap.mapValues_assign ..).trans (OrderedMap.ext fun id => ?_)
      have planned := record.findBranch_outline branch
      rw [branchFound, Option.map_some] at planned
      rw [OrderedMap.find?_assign, OrderedMap.find?_modify]
      split
      · rename_i same
        subst same
        have held : c.state.plan.experiments.find? id = some record.outline := by
          rw [CoordinatorState.plan, OrderedMap.find?_mapValues]
          exact congrArg _ found
        rw [held, Option.map_some, planned]
        exact congrArg some (record.addTrial_outline id definition _ payload _ 0)
      · rw [CoordinatorState.plan, OrderedMap.find?_mapValues, OrderedMap.find?_mapValues]
        rfl

end Creations

/-! ## Execution -/

/-- No identity that creations allocate was allocated. -/
def KeepsMarks (c c' : Coordinator R) : Prop :=
  c'.state.watermarks.created = c.state.watermarks.created

theorem KeepsMarks.trans {first second third : Coordinator R} (earlier : KeepsMarks first second)
    (later : KeepsMarks second third) : KeepsMarks first third :=
  Eq.trans later earlier

namespace Coordinator

/-- The end of an operation that undoes no allocation keeps the marks that the operation kept. -/
theorem settle_marks {α : Type} {base c : Coordinator R} (kept : KeepsMarks base c)
    (fault : Option SaveFault) {undo : Coordinator R → Coordinator R}
    (undone : ∀ unsaved, KeepsMarks unsaved (undo unsaved)) (value : α) :
    KeepsMarks base (c.settle fault undo value).1 := by
  have saved := c.persistLocked_state fault true
  rcases c.settle_cases fault undo value with ⟨reached, persisted, ended⟩ |
    ⟨reached, failure, persisted, ended⟩
  · rw [persisted] at saved
    rw [ended, KeepsMarks, saved]
    exact kept
  · rw [persisted] at saved
    rw [ended, KeepsMarks, undone reached, saved]
    exact kept

theorem settle_id_marks {α : Type} {base c : Coordinator R} (kept : KeepsMarks base c)
    (fault : Option SaveFault) (value : α) : KeepsMarks base (c.settle fault id value).1 :=
  settle_marks kept fault (fun _ => rfl) value

theorem registerWorker_marks (c : Coordinator R) (request : RegisterWorkerRequest)
    (fault : Option SaveFault) : KeepsMarks c (c.registerWorker request fault).1 := by
  have replaced : ∀ (sequence : Nat) (lost : List LiveWorker) (later : Coordinator R),
      KeepsMarks later (lost.foldl (replaceIncarnation sequence) later) := by
    intro sequence lost
    induction lost with
    | nil => exact fun _ => rfl
    | cons live rest ih => exact fun later => ih (replaceIncarnation sequence later live)
  unfold registerWorker
  split
  · rfl
  · split
    · split <;> rfl
    · have reached := replaced c.nextSequence.currentSequence
        (c.nextSequence.replacedBy request.worker request.boot) c.nextSequence
      dsimp only
      split
      · exact reached
      · have added : ∀ later : Coordinator R, KeepsMarks later
            ((later.addWorker request).settle fault id ()).1 :=
          fun later => settle_id_marks rfl fault ()
        have ended := KeepsMarks.trans reached (added _)
        split
        · rename_i settled
          rwa [settled] at ended
        · rename_i settled
          rwa [settled] at ended

theorem claimTrial_marks (request : ClaimTrialRequest) (producer : ProducerId)
    (experiment : ExperimentId) (progress : ClaimProgress R) (key : TrialId) :
    KeepsMarks progress.coordinator
      (claimTrial request producer experiment progress key).coordinator := by
  unfold claimTrial
  repeat' split
  all_goals rfl

theorem claimTrials_marks (c : Coordinator R) (request : ClaimTrialRequest)
    (fault : Option SaveFault) : KeepsMarks c (c.claimTrials request fault).1 := by
  unfold claimTrials
  split
  · rfl
  · rename_i live guarded
    let property (reached : ClaimProgress R) : Prop := KeepsMarks c reached.coordinator
    have claimed : property (c.claimLoop request live) := by
      refine claimLoop_keeps c live ?_ fun _ => rfl
      exact fun reached experiment key same =>
        same.trans (claimTrial_marks request live.producer experiment reached key)
    dsimp only
    split
    · exact claimed
    · refine settle_id_marks ?_ fault ()
      exact claimed

theorem publishObservation_marks [MetricReal R] (c : Coordinator R)
    (request : PublishObservationRequest R) (fault : Option SaveFault) :
    KeepsMarks c (c.publishObservation request fault).1 := by
  unfold publishObservation
  dsimp only
  split
  · rfl
  · rename_i probe probeFound
    split
    · rename_i verdict refused
      have recorded : KeepsMarks c (c.rejectObservation probe request.observation verdict) := by
        unfold rejectObservation
        dsimp only
        split <;> rfl
      have ended := settle_id_marks recorded fault ()
      split
      · rename_i settled
        rwa [settled] at ended
      · rename_i settled
        rwa [settled] at ended
    · split
      · rfl
      · rfl
      · refine settle_marks ?_ fault ?_ ()
        · rfl
        · exact fun _ => rfl

theorem publishArtifact_marks (c : Coordinator R) (request : PublishArtifactRequest)
    (fault : Option SaveFault) : KeepsMarks c (c.publishArtifact request fault).1 := by
  unfold publishArtifact
  dsimp only
  split
  · rfl
  · rename_i probe probeFound
    split
    · rfl
    · split
      · rename_i verdict refused
        have recorded : KeepsMarks c (c.withRecord request.artifact.experiment
          (probe.reject (text "artifact") request.artifact.id.value verdict)) := rfl
        have ended := settle_id_marks recorded fault ()
        split
        · rename_i settled
          rwa [settled] at ended
        · rename_i settled
          rwa [settled] at ended
      · split
        · rfl
        · rfl
        · refine settle_marks ?_ fault ?_ ()
          · rfl
          · exact fun _ => rfl

theorem registerArtifacts_marks (envelope : AuthorityEnvelope) (artifacts : List ArtifactRecord)
    (c : Coordinator R) : KeepsMarks c (registerArtifacts envelope c artifacts).1 := by
  let property (reached : Coordinator R) : Prop := KeepsMarks c reached
  have kept : property (registerArtifacts envelope c artifacts).1 :=
    registerArtifacts_keeps envelope (fun _ same => same) (fun _ _ _ _ same _ _ _ _ => same)
      artifacts rfl
  exact kept

theorem commitTrial_marks (c : Coordinator R) (request : CommitTrialRequest)
    (fault : Option SaveFault) : KeepsMarks c (c.commitTrial request fault).1 := by
  apply commitTrial_keeps (KeepsMarks c) (KeepsMarks c) rfl
    (registerArtifacts_marks request.envelope request.artifacts c.nextSequence)
  · exact fun _ same => same
  · exact fun _ _ _ same => same
  · exact fun later record same =>
      settle_id_marks (c := later.withRecord request.envelope.experiment record) same fault ()

/-- Requests that execute trials allocate no identity that creations allocate. -/
theorem perform_marks [MetricReal R] [CanonicalDigests R] (c : Coordinator R)
    (request : Request R) (fault : Option SaveFault) (executes : request.executes = true) :
    KeepsMarks c (c.perform request fault).1 := by
  cases request with
  | registerWorker request => exact c.registerWorker_marks request fault
  | revokeWorker worker boot kind reason =>
      change KeepsMarks c (c.revokeWorker worker boot kind reason fault).1
      unfold revokeWorker
      split
      · rfl
      · refine settle_id_marks ?_ fault ()
        rfl
  | heartbeat request =>
      change KeepsMarks c (c.heartbeat request).1
      unfold heartbeat
      split <;> rfl
  | claimTrials request => exact c.claimTrials_marks request fault
  | publishObservation request => exact c.publishObservation_marks request fault
  | publishArtifact request => exact c.publishArtifact_marks request fault
  | commitTrial request => exact c.commitTrial_marks request fault
  | save => exact settle_id_marks rfl fault ()
  | requestShutdown => rfl
  | startServer started =>
      change KeepsMarks c (c.startServer started).1
      unfold startServer
      split
      · rfl
      · split <;> rfl
  | stopServer =>
      change KeepsMarks c (c.stopServer fault).1
      unfold stopServer
      split
      · rfl
      · refine settle_id_marks ?_ fault ()
        rfl
  | _ => cases executes

end Coordinator

/-- A change that leaves the definition, the state and the fixed part of the trials alone. -/
theorem outline_eq {old new : ExperimentRecord R} (definition : new.definition = old.definition)
    (state : new.state = old.state)
    (trials : OrderedMap.Evolves (fun trial trial' => trial'.fixed = trial.fixed) old.trials
      new.trials) : new.outline = old.outline := by
  have planned : new.trials.mapValues TrialRecord.undated =
      old.trials.mapValues TrialRecord.undated := by
    refine OrderedMap.ext fun key => ?_
    rw [OrderedMap.find?_mapValues, OrderedMap.find?_mapValues]
    cases found : old.trials.find? key with
    | none => rw [trials.absent key found]
    | some trial =>
        obtain ⟨trial', found', fixed⟩ := trials.extends_ key trial found
        rw [found', Option.map_some, Option.map_some, TrialRecord.undated, fixed]
        rfl
  unfold ExperimentRecord.outline
  rw [definition, state, planned]

section Execution

variable [MetricReal R] [CanonicalDigests R] {c : Coordinator R} {request : Request R}

theorem Effect.outline {experiment : ExperimentId} {record after : ExperimentRecord R}
    {marks : Watermarks} (effect : Effect c experiment record marks request after)
    (executes : request.executes = true) : after.outline = record.outline := by
  have fields : after.definition = record.definition ∧ after.state = record.state := by
    cases effect with
    | @refuseObservation publication verdict named found refused =>
        obtain ⟨observations, rejected, same⟩ :=
          refusedObservation_frame c record publication.observation verdict
        rw [same]
        exact ⟨rfl, rfl⟩
    | publishObservation named accepted => exact (observe_fields _ _ _ _ _ _).symm
    | publishObservationUndone named accepted => exact (observe_fields _ _ _ _ _ _).symm
    | refuseArtifact named found built refused => exact (reject_fields record _ _ _).symm
    | publishArtifact named built accepted => exact ⟨rfl, rfl⟩
    | publishArtifactUndone named built accepted => exact ⟨rfl, rfl⟩
    | registerArtifacts named guarded refused stored =>
        subst named
        have added := registered_pair guarded stored
        exact ⟨added.definition, added.state⟩
    | commit named guarded accepted stored =>
        subst named
        have added := registered_pair guarded stored
        exact ⟨added.definition, added.state⟩
    | _ => cases executes
  exact outline_eq fields.1 fields.2 (moves_rewritten effect.moves).carries.trials

/-- A step of an executing request keeps every outline. -/
theorem StateStep.outlines {old new : CoordinatorState R} (step : StateStep c request old new)
    (executes : request.executes = true) (id : ExperimentId) :
    (new.experiments.find? id).map ExperimentRecord.outline =
      (old.experiments.find? id).map ExperimentRecord.outline := by
  have replaced : ∀ {experiment before after}, old.experiments.find? experiment = some before →
      new.experiments = old.experiments.assign experiment after →
        after.outline = before.outline →
          (new.experiments.find? id).map ExperimentRecord.outline =
            (old.experiments.find? id).map ExperimentRecord.outline := by
    intro experiment before after found stored same
    rw [stored, OrderedMap.find?_assign]
    split
    · rename_i here
      rw [here, found, Option.map_some, Option.map_some, same]
    · rfl
  cases step with
  | quiet same workers => rw [same]
  | change found effect stored workers => exact replaced found stored (effect.outline executes)
  | create named accepted room defined valid allocated before absent stored workers branched =>
      rw [named] at executes
      cases executes
  | addTrial named guarded valid found fresh allocated stored workers =>
      rw [named] at executes
      cases executes
  | addTrialUndone named guarded found fresh stored workers =>
      rw [named] at executes
      cases executes
  | issue named guarded found opened trialFound claimable fresh allocated stored workers =>
      refine replaced found stored (outline_eq rfl rfl ?_)
      unfold ExperimentRecord.issue
      dsimp only
      refine .modify ?_ ?_
      · exact fun _ => rfl
      · exact fun _ _ => rfl
  | @lose worker boot kind attemptDetail trialDetail line sequence named stored workers =>
      rw [stored, OrderedMap.find?_mapValues, Option.map_map]
      refine Option.map_congr fun record _ => ?_
      have fields := loseWorker_fields worker boot kind attemptDetail trialDetail sequence line record
      exact outline_eq fields.2 fields.1 (loseWorker_rewritten ..).carries.trials
  | register named guarded fresh identity same workers => rw [same]

/-- An executing request keeps the plan. -/
theorem perform_plan (fault : Option SaveFault) (executes : request.executes = true) :
    (c.perform request fault).1.state.plan = c.state.plan := by
  have steps : ∀ {state : CoordinatorState R}, StateSteps c request c.state state → ∀ id,
      (state.experiments.find? id).map ExperimentRecord.outline =
        (c.state.experiments.find? id).map ExperimentRecord.outline := by
    intro state steps
    induction steps with
    | refl => exact fun _ => rfl
    | tail _ last ih => exact fun id => (last.1.outlines executes id).trans (ih id)
  refine congrArg₂ Plan.mk (c.perform_marks request fault executes) (OrderedMap.ext fun id => ?_)
  rw [OrderedMap.find?_mapValues, OrderedMap.find?_mapValues]
  exact steps (c.perform_steps request fault) id

/-- Every request of the session executes trials, or creates and succeeds. -/
def Coordinator.Scheduled (c : Coordinator R) : List (Request R × Option SaveFault) → Prop
  | [] => True
  | (request, fault) :: rest =>
      (request.executes = true ∨
        request.creates = true ∧ (c.perform request fault).2.succeeded = true) ∧
      (c.perform request fault).1.Scheduled rest

instance Coordinator.decidableScheduled (c : Coordinator R) :
    (requests : List (Request R × Option SaveFault)) → Decidable (c.Scheduled requests)
  | [] => isTrue trivial
  | (request, fault) :: rest =>
      have := (c.perform request fault).1.decidableScheduled rest
      inferInstanceAs (Decidable ((request.executes = true ∨
        request.creates = true ∧ (c.perform request fault).2.succeeded = true) ∧
          (c.perform request fault).1.Scheduled rest))

omit [MetricReal R] [CanonicalDigests R] in
/-- What a session creates, in order. -/
def creations (requests : List (Request R × Option SaveFault)) : List (Request R) :=
  (requests.map Prod.fst).filter Request.creates

theorem create_plan (fault : Option SaveFault) (creates : request.creates = true)
    (succeeded : (c.perform request fault).2.succeeded = true) :
    (c.perform request fault).1.state.plan = c.state.plan.create request := by
  cases request with
  | createExperiment spec => exact createExperiment_plan c spec fault succeeded
  | createTrial experiment branch payload =>
      exact createTrial_plan c experiment branch payload fault succeeded
  | _ => cases creates

/-- The plan of a session is that of its creations. -/
theorem Coordinator.Scheduled.plan {requests : List (Request R × Option SaveFault)}
    (scheduled : c.Scheduled requests) :
    (c.session requests).state.plan = (creations requests).foldl Plan.create c.state.plan := by
  induction requests generalizing c with
  | nil => rfl
  | cons first rest ih =>
      obtain ⟨request, fault⟩ := first
      obtain ⟨executes | ⟨creates, succeeded⟩, later⟩ := scheduled
      · have skipped : creations ((request, fault) :: rest) = creations rest := by
          cases request <;> first | rfl | cases executes
        have kept : (c.perform request fault).1.state.plan = c.state.plan :=
          perform_plan fault executes
        rw [skipped, ← kept]
        exact ih later
      · have counted : creations ((request, fault) :: rest) = request :: creations rest := by
          cases request <;> first | rfl | cases creates
        rw [counted, List.foldl_cons, ← create_plan fault creates succeeded]
        exact ih later

end Execution

end ExperimentFabric
