import ExperimentFabric.Descent
import ExperimentFabric.Endings
import ExperimentFabric.Indexes
import ExperimentFabric.Lib.Ledger

/-!
# Accounts of a run

An account follows a run and records what successful requests did.  Without a state path it ends with
the process.  A fact about the durable state that requests and restarts keep, and that was saved when
its entry was recorded, holds of every entry in every later state, in memory and in the file.
-/

namespace ExperimentFabric

open Lib

variable {R : Type} [MetricReal R] [CanonicalDigests R] {α : Type}

/-! ## Accounts -/

/-- Without a state path, a process that stops takes everything with it. -/
def keepsEntries (path : Text) : Event R → Bool
  | .stop => path ≠ []
  | _ => true

/-- The entries of a step: those of its request. -/
def recordsOf (records : Coordinator R → Request R → Option SaveFault → List α) :
    World R → Event R → List α
  | .running c, .request request fault => records c request fault
  | _, _ => []

/-- The entries recorded by a run from an empty state path whose steps meet a condition. -/
abbrev Account (path : Text) (condition : List α → World R → Event R → Prop)
    (records : Coordinator R → Request R → Option SaveFault → List α) :
    List α → World R → Prop :=
  Ledger (fun entries source event target => condition entries source event ∧
    World.Step path source event target) (recordsOf records) (keepsEntries path) (.down none)

/-- Every run, whatever its steps. -/
def anyStep : List α → World R → Event R → Prop := fun _ _ _ => True

theorem Account.reachable {path : Text} {condition : List α → World R → Event R → Prop}
    {records : Coordinator R → Request R → Option SaveFault → List α} {entries : List α}
    {world : World R} (account : Account path condition records entries world) :
    world.Reachable path :=
  account.run fun _ _ _ _ taken => taken.2

/-- A start records nothing. -/
theorem start_ledger {path : Text} {condition : List α → World R → Event R → Prop}
    {records : Coordinator R → Request R → Option SaveFault → List α} {keeps : Event R → Bool}
    {entries : List α} {image left : Option (CoordinatorState R)} {config : Config}
    {outcomes : WriteOutcomes} {c : Coordinator R}
    (ledger : Ledger (fun entries source event target => condition entries source event ∧
      World.Step path source event target) (recordsOf records) keeps (.down none) entries
        (.down image))
    (kept : keeps (.start config outcomes) = true)
    (meets : condition entries (.down image) (.start config outcomes))
    (samePath : config.statePath = path)
    (started : Coordinator.create config image outcomes = (left, .ok c)) :
    Ledger (fun entries source event target => condition entries source event ∧
      World.Step path source event target) (recordsOf records) keeps (.down none) entries
        (.running c) := by
  have next := Ledger.snoc ledger ⟨meets, .start samePath started⟩
  rw [if_pos kept] at next
  rwa [show entries ++ recordsOf records (.down image) (.start config outcomes) = entries from
    List.append_nil entries] at next

/-- What a session records, request by request. -/
def Coordinator.entriesOf (records : Coordinator R → Request R → Option SaveFault → List α)
    (c : Coordinator R) : List (Request R × Option SaveFault) → List α
  | [] => []
  | request :: rest =>
      records c request.1 request.2 ++ entriesOf records (c.perform request.1 request.2).1 rest

/-- A session adds what it records to the ledger of the run before it. -/
theorem session_ledger {path : Text} {condition : List α → World R → Event R → Prop}
    {records : Coordinator R → Request R → Option SaveFault → List α} {keeps : Event R → Bool}
    (kept : ∀ request fault, keeps (.request request fault) = true)
    {entries : List α} {c : Coordinator R}
    (ledger : Ledger (fun entries source event target => condition entries source event ∧
      World.Step path source event target) (recordsOf records) keeps (.down none) entries
        (.running c))
    (requests : List (Request R × Option SaveFault))
    (meets : ∀ request ∈ requests, ∀ entries (reached : Coordinator R),
      condition entries (.running reached) (.request request.1 request.2)) :
    Ledger (fun entries source event target => condition entries source event ∧
      World.Step path source event target) (recordsOf records) keeps (.down none)
        (entries ++ c.entriesOf records requests) (.running (c.session requests)) := by
  induction requests generalizing entries c with
  | nil =>
      rw [Coordinator.entriesOf, List.append_nil]
      exact ledger
  | cons request rest ih =>
      have first := Ledger.snoc ledger
        ⟨meets request List.mem_cons_self entries c, .request c request.1 request.2⟩
      rw [if_pos (kept request.1 request.2)] at first
      have later := ih first fun other member => meets other (List.mem_cons_of_mem request member)
      rw [List.append_assoc] at later
      exact later

/-- What the entries vouch for when a request records an entry, and keep vouching for, holds of all
entries. -/
theorem Account.grounded {path : Text} {condition : List α → World R → Event R → Prop}
    {records : Coordinator R → Request R → Option SaveFault → List α}
    {property : List α → α → Prop}
    (grows : ∀ {entries more entry}, property entries entry → property (entries ++ more) entry)
    (recorded : ∀ {entries : List α} {c : Coordinator R} {request : Request R}
      {fault : Option SaveFault} {entry : α},
      Account path condition records entries (.running c) →
        condition entries (.running c) (.request request fault) →
          entry ∈ records c request fault → property entries entry)
    {entries : List α} {world : World R} (account : Account path condition records entries world) :
    ∀ entry ∈ entries, property entries entry := by
  refine Ledger.grounded grows ?_ account
  intro entries source event target entry earlier taken member
  obtain ⟨meets, step⟩ := taken
  cases step with
  | request c request fault => exact recorded earlier meets member
  | stop c => exact (List.not_mem_nil member).elim
  | start samePath started => exact (List.not_mem_nil member).elim
  | failedStart samePath refused => exact (List.not_mem_nil member).elim

/-- Entries that requests record apart from each other and from all earlier ones stay apart. -/
theorem Account.pairwise {path : Text} {condition : List α → World R → Event R → Prop}
    {records : Coordinator R → Request R → Option SaveFault → List α} {apart : α → α → Prop}
    (recorded : ∀ {entries : List α} {c : Coordinator R} {request : Request R}
      {fault : Option SaveFault},
      Account path condition records entries (.running c) →
        condition entries (.running c) (.request request fault) →
          (records c request fault).Pairwise apart ∧
            ∀ old ∈ entries, ∀ new ∈ records c request fault, apart old new)
    {entries : List α} {world : World R} (account : Account path condition records entries world) :
    entries.Pairwise apart := by
  refine Ledger.pairwise ?_ account
  intro entries source event target earlier taken
  obtain ⟨meets, step⟩ := taken
  have quiet : ([] : List α).Pairwise apart ∧ ∀ old ∈ entries, ∀ new ∈ ([] : List α), apart old new :=
    ⟨.nil, fun _ _ _ impossible => (List.not_mem_nil impossible).elim⟩
  cases step with
  | request c request fault => exact recorded earlier meets
  | stop c => exact quiet
  | start samePath started => exact quiet
  | failedStart samePath refused => exact quiet

/-! ## Restarts -/

omit [MetricReal R] [CanonicalDigests R] in
/-- A restart keeps trials and attempts, up to what changes during their life, and the evidence. -/
structure RecordResumed (old new : ExperimentRecord R) : Prop where
  carries : Carries old new
  observations : new.observations = old.observations
  artifacts : new.artifacts = old.artifacts

/-- What a restart leaves of a state. -/
structure Resumes (old new : CoordinatorState R) : Prop where
  watermarks : new.watermarks = old.watermarks
  producers : new.nextWorkerRegistrationSequence = old.nextWorkerRegistrationSequence
  workers : new.workers = old.workers
  epoch : new.lastEpoch = old.lastEpoch ∨
    ∃ seed, new.lastEpoch = Coordinator.mintEpoch old.lastEpoch seed
  records : ∀ id record, old.experiments.find? id = some record →
    ∃ record', new.experiments.find? id = some record' ∧ RecordResumed record record'

omit [MetricReal R] [CanonicalDigests R] in
theorem Resumes.refl (state : CoordinatorState R) : Resumes state state :=
  ⟨rfl, rfl, rfl, .inl rfl, fun _ record found => ⟨record, found, .refl record, rfl, rfl⟩⟩

omit [MetricReal R] [CanonicalDigests R] in
theorem stage_resumed (record : ExperimentRecord R) (sequence : Nat) :
    RecordResumed record (record.stage sequence).2 :=
  ⟨stage_carries record sequence, (Coordinator.stage_evidence record sequence).1,
    (Coordinator.stage_evidence record sequence).2⟩

omit [MetricReal R] [CanonicalDigests R] in
theorem recovered_resumed {record after : ExperimentRecord R}
    (same : after.forget = record.recovered.forget) : RecordResumed record after := by
  have kept : record.recovered.observations = record.observations ∧
      record.recovered.artifacts = record.artifacts := ⟨rfl, rfl⟩
  have observations := congrArg ExperimentRecord.observations same
  have artifacts := congrArg ExperimentRecord.artifacts same
  exact ⟨recovered_carries same, observations.trans kept.1, artifacts.trans kept.2⟩

omit [CanonicalDigests R] in
/-- A start resumes the state in the file, in memory and in the file it leaves. -/
theorem create_resumes {config : Config} (hasPath : config.statePath ≠ [])
    {state : CoordinatorState R} (saved : state.Saved) (outcomes : WriteOutcomes) :
    (∃ left, (Coordinator.create config (some state) outcomes).1 = some left ∧
      Resumes state left) ∧
    ∀ c, (Coordinator.create config (some state) outcomes).2 = .ok c → Resumes state c.state := by
  have origin : Coordinator.origin config (some state) = state := by
    rw [Coordinator.origin, if_neg hasPath]
    rfl
  have outcome := Coordinator.create_spec config (some state) outcomes
    (by rw [origin]; exact saved)
  let counted (later : CoordinatorState R) : Prop :=
    later.nextWorkerRegistrationSequence = state.nextWorkerRegistrationSequence ∧
      later.workers = state.workers ∧
      later.lastEpoch = Coordinator.mintEpoch state.lastEpoch config.epochSeed
  have blind : Coordinator.Blind counted := fun _ _ _ same => same
  have upheld := Coordinator.create_upheld blind config outcomes
    (show counted (Coordinator.boot config (some state)
        (Coordinator.origin config (some state))).state by
      rw [origin]
      exact ⟨rfl, rfl, rfl⟩)
  have running : ∀ c, (Coordinator.create config (some state) outcomes).2 = .ok c →
      Resumes state c.state := by
    intro c started
    have recovers := outcome.recovers c started
    rw [origin] at recovers
    obtain ⟨producers, workers, epoch⟩ := upheld.2 c started
    refine ⟨recovers.watermarks, producers, workers, .inr ⟨_, epoch⟩, fun id record found => ?_⟩
    have same := recovers.records id
    rw [found, Option.map_some] at same
    obtain ⟨record', found', equal⟩ := Option.map_eq_some_iff.mp same
    exact ⟨record', found', recovered_resumed equal⟩
  refine ⟨?_, running⟩
  cases left : (Coordinator.create config (some state) outcomes).1 with
  | none => cases outcome.absent left
  | some file =>
      refine ⟨file, rfl, ?_⟩
      rcases upheld.1 with same | ⟨other, held, producers, workers, epoch⟩
      · rw [Option.some.inj (left.symm.trans same)]
        exact .refl state
      · obtain rfl := Option.some.inj (left.symm.trans held)
        rcases outcome.written hasPath file left with staged | ⟨c, started, rfl⟩
        · rw [origin] at staged
          refine ⟨staged.watermarks, producers, workers, .inr ⟨_, epoch⟩, fun id record found => ?_⟩
          rcases staged.present id record found with same | ⟨sequence, same⟩
          · exact ⟨record, same, .refl record, rfl, rfl⟩
          · exact ⟨_, same, stage_resumed record sequence⟩
        · exact running c started

/-! ## What requests leave of a record -/

/-- What requests and restarts leave of a record: its attempts, up to their course, and its
evidence. -/
structure RecordLasts (old new : ExperimentRecord R) : Prop where
  attempts : OrderedMap.Extends (fun attempt attempt' => attempt'.fixed = attempt.fixed) old.attempts
    new.attempts
  observations : old.observations <+: new.observations
  artifacts : old.artifacts <+: new.artifacts

omit [MetricReal R] [CanonicalDigests R] in
theorem RecordLasts.refl (record : ExperimentRecord R) : RecordLasts record record :=
  ⟨.refl fun _ => rfl, List.prefix_rfl, List.prefix_rfl⟩

omit [MetricReal R] [CanonicalDigests R] in
theorem RecordLasts.trans (first second third : ExperimentRecord R)
    (earlier : RecordLasts first second) (later : RecordLasts second third) :
    RecordLasts first third where
  attempts := earlier.attempts.trans (fun _ _ _ left right => right.trans left) later.attempts
  observations := earlier.observations.trans later.observations
  artifacts := earlier.artifacts.trans later.artifacts

omit [MetricReal R] [CanonicalDigests R] in
theorem Rewritten.lasts {old new : ExperimentRecord R} (rewritten : Rewritten old new) :
    RecordLasts old new :=
  ⟨rewritten.carries.attempts.extends_, rewritten.evidence.observations,
    rewritten.evidence.artifacts⟩

omit [MetricReal R] [CanonicalDigests R] in
theorem RecordResumed.lasts {old new : ExperimentRecord R} (resumed : RecordResumed old new) :
    RecordLasts old new :=
  ⟨resumed.carries.attempts.extends_, resumed.observations ▸ List.prefix_rfl,
    resumed.artifacts ▸ List.prefix_rfl⟩

theorem StateStep.lasts {c : Coordinator R} {request : Request R} {old new : CoordinatorState R}
    (step : StateStep c request old new) :
    OrderedMap.Extends RecordLasts old.experiments new.experiments := by
  cases step with
  | quiet same workers => exact same ▸ .refl .refl
  | change found effect stored workers =>
      rw [stored]
      exact (OrderedMap.Evolves.assign .refl found (moves_rewritten effect.moves).lasts).extends_
  | create named accepted room defined valid allocated before absent stored workers branched =>
      intro id record found
      have different : id ≠ ⟨c.state.watermarks.experiment + 1⟩ := by
        rintro rfl
        exact nomatch absent.symm.trans found
      exact ⟨record, by rw [stored, OrderedMap.find?_assign, if_neg different, found], .refl record⟩
  | addTrial named guarded valid found fresh allocated stored workers =>
      rw [stored]
      exact (OrderedMap.Evolves.assign .refl found
        ⟨.refl fun _ => rfl, List.prefix_rfl, List.prefix_rfl⟩).extends_
  | addTrialUndone named guarded found fresh stored workers =>
      rw [stored]
      exact (OrderedMap.Evolves.assign .refl found
        ⟨.refl fun _ => rfl, List.prefix_rfl, List.prefix_rfl⟩).extends_
  | issue named guarded found opened trialFound claimable fresh allocated stored workers =>
      rw [stored]
      refine (OrderedMap.Evolves.assign .refl found ⟨?_, List.prefix_rfl, List.prefix_rfl⟩).extends_
      apply OrderedMap.Extends.emplace
      exact fun _ => rfl
  | lose named stored workers =>
      rw [stored]
      exact (OrderedMap.Evolves.mapValues fun record => (loseWorker_rewritten ..).lasts).extends_
  | register named guarded fresh identity same workers => exact same ▸ .refl .refl

theorem StateSteps.lasts {c : Coordinator R} {request : Request R} {old new : CoordinatorState R}
    (steps : StateSteps c request old new) :
    OrderedMap.Extends RecordLasts old.experiments new.experiments := by
  induction steps with
  | refl => exact .refl .refl
  | tail _ last ih => exact ih.trans .trans last.1.lasts

/-! ## Facts that last -/

/-- A fact about the durable state that requests and restarts which meet a condition keep. -/
structure Lasting (condition : World R → Event R → Prop) (property : CoordinatorState R → Prop) :
    Prop where
  performed : ∀ {c : Coordinator R} {request : Request R} {fault : Option SaveFault},
    condition (.running c) (.request request fault) → property c.state →
      property (c.perform request fault).1.state
  resumed : ∀ {config : Config} {outcomes : WriteOutcomes} {old new : CoordinatorState R},
    condition (.down (some old)) (.start config outcomes) → Resumes old new → property old →
      property new

/-- A fact about the record of one experiment lasts if what requests and restarts leave of a record
keeps it. -/
theorem Lasting.ofRecord {condition : World R → Event R → Prop} (experiment : ExperimentId)
    {property : ExperimentRecord R → Prop}
    (kept : ∀ old new, RecordLasts old new → property old → property new) :
    Lasting condition fun state : CoordinatorState R =>
      ∃ record, state.experiments.find? experiment = some record ∧ property record where
  performed := by
    rintro c request fault - ⟨record, found, holds⟩
    obtain ⟨record', found', lasts⟩ := (c.perform_steps request fault).lasts experiment record found
    exact ⟨record', found', kept record record' lasts holds⟩
  resumed := by
    rintro config outcomes old new - resumes ⟨record, found, holds⟩
    obtain ⟨record', found', resumed⟩ := resumes.records experiment record found
    exact ⟨record', found', kept record record' resumed.lasts holds⟩

/-- The fact holds in memory, and in the file if there is a state path. -/
def World.Retains (path : Text) (property : CoordinatorState R → Prop) : World R → Prop
  | .running c => property c.state ∧
      (path ≠ [] → ∃ image, c.image = some image ∧ property image)
  | .down image => path ≠ [] ∧ ∃ state, image = some state ∧ property state

theorem World.Step.retains {path : Text} {condition : World R → Event R → Prop}
    {property : CoordinatorState R → Prop} (lasting : Lasting condition property)
    {source target : World R} {event : Event R} (step : World.Step path source event target)
    (meets : condition source event) (sound : source.Sound path)
    (keeps : keepsEntries path event = true) (retained : source.Retains path property) :
    target.Retains path property := by
  cases step with
  | request c request fault =>
      have memory : property (c.perform request fault).1.state :=
        lasting.performed meets retained.1
      refine ⟨memory, fun hasPath => ?_⟩
      cases (c.perform_operated request fault).outcome with
      | untouched image degraded =>
          rw [image]
          exact retained.2 hasPath
      | failed image degraded =>
          rw [image]
          exact retained.2 hasPath
      | written image degraded hasPath => exact ⟨_, image, memory⟩
  | stop c =>
      have hasPath : path ≠ [] := by simpa [keepsEntries] using keeps
      exact ⟨hasPath, retained.2 hasPath⟩
  | @start config image left outcomes c samePath started =>
      obtain ⟨hasPath, state, rfl, holds⟩ := retained
      have saved : state.Saved := (sound.2 state rfl).1
      have resumes := create_resumes (samePath ▸ hasPath : config.statePath ≠ []) saved outcomes
      have stored := (Coordinator.create_spec config (some state) outcomes
        (by rw [Coordinator.origin, if_neg (samePath ▸ hasPath)]; exact saved)).stored
      rw [started] at resumes stored
      refine ⟨lasting.resumed meets (resumes.2 c rfl) holds, fun _ => ?_⟩
      obtain ⟨file, same, later⟩ := resumes.1
      exact ⟨file, (stored c rfl).trans same, lasting.resumed meets later holds⟩
  | @failedStart config image left outcomes failure samePath refused =>
      obtain ⟨hasPath, state, rfl, holds⟩ := retained
      have saved : state.Saved := (sound.2 state rfl).1
      have resumes := create_resumes (samePath ▸ hasPath : config.statePath ≠ []) saved outcomes
      rw [refused] at resumes
      obtain ⟨file, same, later⟩ := resumes.1
      exact ⟨hasPath, file, same, lasting.resumed meets later holds⟩

/-- The file holds exactly the state in memory, if there is a state path. -/
def Coordinator.InStep (c : Coordinator R) : Prop :=
  c.config.statePath ≠ [] → c.image = some c.state

omit [MetricReal R] [CanonicalDigests R] in
theorem Coordinator.persistLocked_inStep (prepared : Coordinator R) {fault : Option SaveFault}
    (savable : prepared.Savable fault) : (prepared.persistLocked fault).1.InStep := by
  have succeeded := (prepared.persistLocked_ok_iff fault).mpr savable
  intro hasPath
  rw [persistLocked_config] at hasPath
  rcases prepared.persistLocked_cases fault true with ⟨same, unneeded⟩ | ⟨failure, same⟩ |
    ⟨same, -⟩
  · rcases unneeded with noPath | impossible
    · exact (hasPath noPath).elim
    · cases impossible
  · rw [same] at succeeded
    cases succeeded
  · rw [same]

/-- A fact that lasts, holds when its entry is recorded and is saved then, holds of every entry in
every state of the run. -/
theorem Account.retains {path : Text} {condition : List α → World R → Event R → Prop}
    {records : Coordinator R → Request R → Option SaveFault → List α}
    {property : α → CoordinatorState R → Prop}
    (lasting : ∀ entry, Lasting (fun _ _ => True) (property entry))
    (recorded : ∀ {entries : List α} {c : Coordinator R} {request : Request R}
      {fault : Option SaveFault} {entry : α},
      Account path condition records entries (.running c) →
        condition entries (.running c) (.request request fault) →
          entry ∈ records c request fault →
            property entry (c.perform request fault).1.state ∧
              (c.perform request fault).1.InStep)
    {entries : List α} {world : World R} (account : Account path condition records entries world) :
    ∀ entry ∈ entries, world.Retains path (property entry) := by
  let retained (world : World R) (entry : α) : Prop := world.Retains path (property entry)
  have all : ∀ entry ∈ entries, retained world entry := by
    refine Ledger.holds ?_ ?_ account
    · intro entries source event target entry earlier taken keeps member
      obtain ⟨meets, step⟩ := taken
      cases step with
      | request c request fault =>
          obtain ⟨holds, inStep⟩ := recorded earlier meets member
          have samePath : (c.perform request fault).1.config.statePath = path := by
            rw [(c.perform_operated request fault).config]
            exact (Account.reachable earlier).sound.1
          exact ⟨holds, fun hasPath => ⟨_, inStep (samePath ▸ hasPath), holds⟩⟩
      | stop c => exact (List.not_mem_nil member).elim
      | start samePath started => exact (List.not_mem_nil member).elim
      | failedStart samePath refused => exact (List.not_mem_nil member).elim
    · intro entries source event target entry earlier taken keeps retained
      exact taken.2.retains (lasting entry) trivial (Account.reachable earlier).sound keeps retained
  exact all

end ExperimentFabric
