import ExperimentFabric.Conformance
import ExperimentFabric.Invariants
import ExperimentFabric.Observing

/-!
# Currency of artifacts

An artifact is stored as current, under the generation of its experiment, and nothing clears its flag
afterwards.  A run therefore keeps the flags true to the generations exactly when every revision and
every rollback of it finds no artifact of a generation other than the one it moves to.
-/

namespace ExperimentFabric

open Lib

variable {R : Type}

/-- Artifacts of another generation than that of the experiment are not current. -/
def ExperimentRecord.ArtifactsCurrent (record : ExperimentRecord R) : Prop :=
  ∀ artifact ∈ record.artifacts, artifact.generation ≠ record.definition.generation →
    artifact.current = false

/-- An artifact is an earlier one, or it is current and of the generation of the experiment. -/
def ExperimentRecord.Stamps (record after : ExperimentRecord R) : Prop :=
  ∀ artifact ∈ after.artifacts, artifact ∈ record.artifacts ∨
    artifact.generation = record.definition.generation ∧ artifact.current = true

/-! ## What a change adds -/

/-- Registered artifacts are current and of the generation of the experiment. -/
theorem registerArtifacts_stamps {c : Coordinator R} {envelope : AuthorityEnvelope}
    {record after : ExperimentRecord R}
    (found : c.findExperiment envelope.experiment = some record) (artifacts : List ArtifactRecord)
    (stored : (Coordinator.registerArtifacts envelope c artifacts).1.findExperiment
      envelope.experiment = some after) : record.Stamps after := by
  let property (reached : Coordinator R) : Prop :=
    ∃ held, reached.findExperiment envelope.experiment = some held ∧
      held.definition = record.definition ∧ record.Stamps held
  have kept : property (Coordinator.registerArtifacts envelope c artifacts).1 := by
    refine Coordinator.registerArtifacts_keeps envelope (fun _ holds => holds) ?_ artifacts
      ⟨record, found, rfl, fun _ member => .inl member⟩
    rintro reached held trial submitted ⟨before, lookup, definition, stamps⟩ present _ _ _
    obtain rfl := Option.some.inj (lookup.symm.trans present)
    refine ⟨_, OrderedMap.find?_assign_self .., definition, fun artifact member => ?_⟩
    rcases List.mem_append.mp member with earlier | last
    · exact stamps artifact earlier
    · rw [List.mem_singleton.mp last]
      exact .inr ⟨congrArg ExperimentDefinition.generation definition, rfl⟩
  obtain ⟨held, lookup, -, stamps⟩ := kept
  obtain rfl := Option.some.inj (lookup.symm.trans stored)
  exact stamps

variable [MetricReal R] [CanonicalDigests R]

theorem Effect.stamps {c : Coordinator R} {experiment : ExperimentId}
    {record after : ExperimentRecord R} {marks : Watermarks} {request : Request R}
    (effect : Effect c experiment record marks request after) : record.Stamps after := by
  have same : after.artifacts = record.artifacts → record.Stamps after :=
    fun equal artifact member => .inl (equal ▸ member)
  cases effect with
  | refuseObservation named found refused =>
      obtain ⟨observations, rejected, equal⟩ := refusedObservation_frame c record _ _
      exact same (by rw [equal])
  | @publishObservation publication branch trial attempt admitted named accepted admission =>
      obtain ⟨trials, attempts, equal⟩ := observe_frame
        (record.pushObservation { admitted with sequence := c.currentSequence + 1 }) trial attempt
        publication.observation.trial publication.observation.attempt (c.currentSequence + 1)
      exact same (by rw [equal]; rfl)
  | publishObservationUndone named accepted =>
      obtain ⟨trials, attempts, equal⟩ := observe_frame record _ _ _ _ _
      exact same (by rw [equal])
  | refuseArtifact named found built refused =>
      obtain ⟨rejected, equal⟩ := reject_frame record _ _ _
      exact same (by rw [equal])
  | @publishArtifact publication envelope branch trial attempt named built accepted admission =>
      obtain ⟨-, -, -, -, admitted⟩ := (c.checkEnvelope_eq_ok _ _).mp accepted
      have generation : envelope.generation = publication.artifact.generation := by
        simp only [artifactEnvelope, demand_bind_eq_ok] at built
        obtain ⟨_, -, _, -, equal⟩ := built
        cases equal
        rfl
      intro artifact member
      rcases List.mem_append.mp member with earlier | last
      · exact .inl earlier
      · rw [List.mem_singleton.mp last]
        exact .inr ⟨generation.symm.trans admitted.generation, rfl⟩
  | registerArtifacts named guarded refused stored =>
      subst named
      obtain ⟨-, -, -, found, -⟩ :=
        (c.checkEnvelope_eq_ok _ _).mp (Coordinator.commitTrialGuard_ok guarded)
      exact registerArtifacts_stamps (c := c.nextSequence) found _ stored
  | commit named guarded accepted stored =>
      subst named
      obtain ⟨-, -, -, found, -⟩ :=
        (c.checkEnvelope_eq_ok _ _).mp (Coordinator.commitTrialGuard_ok guarded)
      have stamps := registerArtifacts_stamps (c := c.nextSequence) found _ stored
      exact stamps
  | fail named guarded => exact same (fail_evidence _ _ _ _ _ _ _ _).2
  | _ => exact same rfl

/-! ## Throughout every run -/

/-- Every artifact is marked current. -/
def ExperimentRecord.AllCurrent (record : ExperimentRecord R) : Prop :=
  ∀ artifact ∈ record.artifacts, artifact.current = true

/-- No artifact ever loses its mark. -/
theorem allCurrent_invariant :
    RecordInvariant (fun _ _ => True) (ExperimentRecord.AllCurrent : ExperimentRecord R → Prop) where
  logged := fun current => current
  created := by
    intro spec limits marks expected branches record sequence _ _ defined _ artifact member
    rw [defined] at member
    exact nomatch member
  changed := by
    intro c request fault experiment record after marks marks' _ effect _ current artifact member
    rcases effect.stamps artifact member with before | stamped
    · exact current artifact before
    · exact stamped.2
  added := fun _ current => current
  issued := fun _ _ _ _ _ current => current
  lost := by
    intro record marks worker boot kind attemptDetail trialDetail line sequence _ current
    obtain ⟨trials, attempts, lines, same⟩ :=
      loseWorker_frame worker boot kind attemptDetail trialDetail sequence line record
    rw [same]
    exact current
  staged := by
    intro record sequence current
    rw [stage_forget_fields record sequence]
    exact current
  recovered := by
    intro image config outcomes id record after _ _ same _ current artifact member
    have artifacts := congrArg ExperimentRecord.artifacts same
    rw [show after.artifacts = record.artifacts from artifacts] at member
    exact current artifact member

/-- A revision or a rollback finds only artifacts of the generation it moves to. -/
def World.KeepsGenerations : World R → Event R → Prop
  | .running c, .request (.reviseHypothesis experiment spec) _ => ∀ record,
      c.reviseHypothesisGuard experiment spec = .ok record → ∀ artifact ∈ record.artifacts,
        artifact.generation = ⟨record.definition.generation.value + 1⟩
  | .running c, .request (.rollback experiment target _) _ => ∀ record chosen,
      c.rollbackGuard experiment target = .ok (record, chosen) → ∀ artifact ∈ record.artifacts,
        artifact.generation = chosen.generation
  | _, _ => True

omit [MetricReal R] [CanonicalDigests R] in
theorem ExperimentRecord.ArtifactsCurrent.ofSame {record after : ExperimentRecord R}
    (current : record.ArtifactsCurrent) (artifacts : after.artifacts = record.artifacts)
    (generation : after.definition.generation = record.definition.generation) :
    after.ArtifactsCurrent := by
  unfold ExperimentRecord.ArtifactsCurrent
  rw [artifacts, generation]
  exact current

theorem Effect.artifactsCurrent {c : Coordinator R} {experiment : ExperimentId}
    {record after : ExperimentRecord R} {marks : Watermarks} {request : Request R}
    {fault : Option SaveFault} (effect : Effect c experiment record marks request after)
    (meets : World.KeepsGenerations (.running c) (.request request fault))
    (current : record.ArtifactsCurrent) : after.ArtifactsCurrent := by
  intro artifact member outdated
  rcases effect.view_definition ExperimentDefinition.generation fun _ _ => rfl with
    same | ⟨spec, rfl, guarded, rfl⟩ | ⟨target, reason, chosen, rfl, guarded, rfl⟩
  · rw [same] at outdated
    rcases effect.stamps artifact member with before | stamped
    · exact current artifact before outdated
    · exact (outdated stamped.1).elim
  · exact (outdated (meets record guarded artifact member)).elim
  · exact (outdated (meets record chosen guarded artifact member)).elim

theorem artifactsCurrent_invariant :
    RecordRunInvariant World.KeepsGenerations
      (ExperimentRecord.ArtifactsCurrent : ExperimentRecord R → Prop) where
  kept := fun {c request fault old} meets _ =>
    { logged := fun current => current
      created := by
        intro spec expected branches record _ _ _ defined _ artifact member
        rw [defined] at member
        exact nomatch member
      changed := fun effect _ current => effect.artifactsCurrent meets current
      added := fun _ _ _ current => current
      issued := fun _ _ _ _ _ _ _ _ current => current
      lost := by
        intro worker boot kind attemptDetail trialDetail line sequence id record _ _ _ current
        obtain ⟨trials, attempts, lines, same⟩ :=
          loseWorker_frame worker boot kind attemptDetail trialDetail sequence line record
        rw [same]
        exact current }
  staged := by
    intro record sequence current
    rw [stage_forget_fields record sequence]
    exact current
  recovered := by
    intro image config outcomes id record after _ _ same _ current
    have artifacts := congrArg ExperimentRecord.artifacts same
    have generation := congrArg (fun forgotten => forgotten.definition.generation) same
    exact current.ofSame artifacts generation

/-! ## Steps that lose currency -/

theorem reviseHypothesis_findExperiment {c : Coordinator R} {experiment : ExperimentId}
    {spec : HypothesisRevisionSpec} {record : ExperimentRecord R}
    (guarded : c.reviseHypothesisGuard experiment spec = .ok record) (fault : Option SaveFault) :
    (c.perform (.reviseHypothesis experiment spec) fault).1.findExperiment experiment =
      some (record.revise spec (c.currentSequence + 1)) := by
  have state : (c.perform (.reviseHypothesis experiment spec) fault).1.state =
      (c.nextSequence.withRecord experiment (record.revise spec (c.currentSequence + 1))).state := by
    change (c.reviseHypothesis experiment spec fault).1.state = _
    unfold Coordinator.reviseHypothesis
    rw [guarded]
    exact Coordinator.settle_id_state _ fault _
  rw [Coordinator.findExperiment, state]
  exact OrderedMap.find?_assign_self ..

theorem rollback_findExperiment {c : Coordinator R} {experiment : ExperimentId}
    {target : ExperimentGeneration} {record : ExperimentRecord R} {chosen : RollbackPoint}
    (guarded : c.rollbackGuard experiment target = .ok (record, chosen)) (reason : Text)
    (fault : Option SaveFault) :
    (c.perform (.rollback experiment target reason) fault).1.findExperiment experiment =
      some (record.rollback experiment chosen ⟨c.state.watermarks.rollback + 1⟩ reason
        (c.currentSequence + 1)) := by
  have state : (c.perform (.rollback experiment target reason) fault).1.state =
      (c.nextSequence.allocRollbackId.withRecord experiment (record.rollback experiment chosen
        ⟨c.state.watermarks.rollback + 1⟩ reason (c.currentSequence + 1))).state := by
    change (c.rollback experiment target reason fault).1.state = _
    unfold Coordinator.rollback
    rw [guarded]
    dsimp only
    split
    · rfl
    · exact Coordinator.settle_id_state _ fault _
  rw [Coordinator.findExperiment, state]
  exact OrderedMap.find?_assign_self ..

/-- From a world that upholds the currency of artifacts, a step does exactly when it keeps the
generations of artifacts. -/
theorem step_upholds_iff {path : Text} {source target : World R} {event : Event R}
    (reachable : source.Reachable path)
    (upholds : source.Upholds (CoordinatorState.Every ExperimentRecord.ArtifactsCurrent))
    (step : World.Step path source event target) :
    target.Upholds (CoordinatorState.Every ExperimentRecord.ArtifactsCurrent) ↔
      source.KeepsGenerations event := by
  constructor
  · intro after
    -- All artifacts are marked, so one of another generation would break the property.
    cases step with
    | request c request fault =>
        have marked := (reachable.holds allCurrent_invariant.durable).1
        cases request with
        | reviseHypothesis experiment spec =>
            intro record guarded artifact member
            have found := (Coordinator.reviseHypothesisGuard_ok guarded).found
            have current := marked experiment record found artifact member
            have kept := after.1 experiment _ (reviseHypothesis_findExperiment guarded fault) artifact
              member
            by_contra outdated
            rw [kept outdated] at current
            exact nomatch current
        | rollback experiment target reason =>
            intro record chosen guarded artifact member
            have found := (Coordinator.rollbackGuard_ok guarded).found
            have current := marked experiment record found artifact member
            have kept := after.1 experiment _ (rollback_findExperiment guarded reason fault) artifact
              member
            by_contra outdated
            rw [kept outdated] at current
            exact nomatch current
        | _ => trivial
    | _ => trivial
  · intro keeps
    exact (artifactsCurrent_invariant.durable.world keeps step ⟨reachable.sound, upholds⟩).2

/-- The runs that uphold the currency of artifacts in every world they reach are those whose revisions
and rollbacks find only artifacts of the generation they move to. -/
theorem artifact_currency {path : Text} {events : List (Event R)} {world : World R} :
    Run (fun source event target => World.Step path source event target ∧
        target.Upholds (CoordinatorState.Every ExperimentRecord.ArtifactsCurrent))
      (.down none) events world ↔
    Run (fun source event target => World.Step path source event target ∧
        source.KeepsGenerations event) (.down none) events world := by
  let invariant (reached : World R) : Prop := reached.Reachable path ∧
    reached.Upholds (CoordinatorState.Every ExperimentRecord.ArtifactsCurrent)
  have start : invariant (.down none) := ⟨.empty path, (World.start_upholds path _).2⟩
  refine Run.iff_of_invariant (fun source event target holds => ?_) ?_ start
  · exact and_congr_right fun step => step_upholds_iff holds.1 holds.2 step
  · rintro source event target ⟨reachable, -⟩ ⟨step, upholds⟩
    exact ⟨reachable.step step, upholds⟩

namespace Sample

/-- An artifact of the claimed trial. -/
def trace : PublishArtifactRequest where
  epoch := coordinator.epoch
  worker := worker
  boot := boot
  artifact :=
    { id := ⟨1⟩, experiment := experiment, generation := ⟨1⟩, branch := candidate, trial := trial,
      attempt := ⟨1⟩, locator := text "trace" }

/-- The hypothesis is revised after the trial has published its artifact. -/
def outdated : Coordinator ℚ :=
  claimed.session [(.publishArtifact trace, none),
    (.reviseHypothesis experiment { statement := text "the candidate is smaller" }, none)]

end Sample

/-- An artifact of the first generation is still marked current in the second one. -/
theorem outdated_artifact_current : ∃ record artifact,
    (World.running Sample.outdated).Reachable Sample.config.statePath ∧
      Sample.outdated.findExperiment Sample.experiment = some record ∧
      artifact ∈ record.artifacts ∧ artifact.generation ≠ record.definition.generation ∧
      artifact.current = true := by
  have facts : (Sample.outdated.findExperiment Sample.experiment).any (fun record =>
      record.artifacts.any fun artifact =>
        decide (artifact.generation ≠ record.definition.generation ∧
          artifact.current = true)) = true := by decide +kernel
  obtain ⟨record, found, facts⟩ := (Option.any_eq_true _ _).mp facts
  obtain ⟨artifact, member, facts⟩ := List.any_eq_true.mp facts
  obtain ⟨differs, current⟩ := of_decide_eq_true facts
  exact ⟨record, artifact, Sample.claimed_reachable.session _, found, member, differs, current⟩

end ExperimentFabric
