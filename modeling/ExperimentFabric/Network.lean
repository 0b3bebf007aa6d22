import ExperimentFabric.Endings
import ExperimentFabric.Server

/-!
# The networked system

A coordinator, its control plane and any number of connections.  What peers send is arbitrary; a
step of the network is an event of the process, a new connection, or one pass of the serving loop of
a connection.  The history of a network is one sequence of exchanges and events of the process, in
which every exchange takes effect at once; each connection has carried its own exchanges of that
sequence, in their order.
-/

namespace ExperimentFabric

open Lib Protocol

variable {R : Type}

/-! ## Connections and the network -/

/-- A connection of the control plane, with the bytes it carries. -/
structure ServerConnection where
  connection : TcpConnection
  /-- The limits of the control plane that accepted it. -/
  limits : Limits
  /-- What the peer sends in all. -/
  stream : Text := connection.pending
  /-- The bytes sent to the peer. -/
  outgoing : Text := []

/-- What happened on a network. -/
inductive Entry (R : Type) where
  /-- An event of the process: a local call, a stop or a start. -/
  | own (event : Event R)
  /-- A frame that the connection at an index carried, and its reply. -/
  | exchange (index : Nat) (request reply : Frame) (fault : Option SaveFault)

/-- A world, the connections it has accepted and what has happened. -/
structure Network (R : Type) where
  world : World R
  connections : List ServerConnection := []
  history : List (Entry R) := []

/-- What can happen on a network. -/
inductive NetworkEvent (R : Type) where
  | process (event : Event R)
  | connect (incoming : List Delivery)
  /-- A pass of the serving loop; the socket takes the reply as `accepts` tells. -/
  | serve (index : Nat) (accepts : List Acceptance) (fault : Option SaveFault)

/-- The process is running and its control plane is open. -/
def World.Serves : World R → Prop
  | .running c => c.serverActive = true
  | .down _ => False

instance (world : World R) : Decidable world.Serves :=
  match world with
  | .running c => inferInstanceAs (Decidable (c.serverActive = true))
  | .down _ => .isFalse id

/-- The exchanges of the connection at an index. -/
def exchangesOf (index : Nat) : List (Entry R) → List (Frame × Frame)
  | [] => []
  | .exchange at_ request reply _ :: later =>
      if at_ = index then (request, reply) :: exchangesOf index later else exchangesOf index later
  | .own _ :: later => exchangesOf index later

namespace ServerConnection

/-- Close a connection. -/
def close (peer : ServerConnection) : ServerConnection :=
  { peer with connection := peer.connection.close }

/-- Send a reply; a connection that cannot send is closed. -/
def answer (peer : ServerConnection) (reply : Frame) (accepts : List Acceptance) :
    ServerConnection :=
  let (sent, out) := peer.connection.sendFrame reply peer.limits accepts
  let peer := { peer with outgoing := peer.outgoing ++ out }
  match sent with
  | .error _ => peer.close
  | .ok () => peer

end ServerConnection

section Serving

variable [MetricReal R] [CanonicalDigests R] [BitPattern R] [ToChars R] [StdSort]

/-- One pass of the serving loop: receive a frame, dispatch it and send the reply. -/
def ServerConnection.serve (peer : ServerConnection) (c : Coordinator R) (index : Nat)
    (accepts : List Acceptance) (fault : Option SaveFault) :
    Coordinator R × ServerConnection × List (Entry R) :=
  match peer.connection.receiveFrame peer.limits with
  | (.error _, connection) => (c, { peer with connection := connection.close }, [])
  | (.ok request, connection) =>
      let (after, reply) := Server.dispatch c request fault
      (after, { peer with connection }.answer reply accepts,
        [.exchange index request reply fault])

/-- Steps of a network.  The connections of a control plane end with it. -/
inductive Network.Step (path : Text) : Network R → NetworkEvent R → Network R → Prop where
  | process {network : Network R} {event : Event R} {next : World R}
      (step : World.Step path network.world event next) :
      Step path network (.process event)
        { world := next
          connections := if next.Serves then network.connections
            else network.connections.map ServerConnection.close
          history := network.history ++ [.own event] }
  | connect {c : Coordinator R} {connections : List ServerConnection} {history : List (Entry R)}
      (incoming : List Delivery) (serves : c.serverActive = true)
      -- the bound is a word of 32 bits
      (words : c.limits.maxFramePayloadBytes < 2 ^ 32) :
      Step path ⟨.running c, connections, history⟩ (.connect incoming)
        ⟨.running c, connections ++ [{ connection := ⟨true, incoming⟩, limits := c.limits }],
          history⟩
  | serve {c : Coordinator R} {connections : List ServerConnection} {history : List (Entry R)}
      {index : Nat} {peer : ServerConnection} (accepts : List Acceptance)
      (fault : Option SaveFault) (serves : c.serverActive = true)
      (found : connections[index]? = some peer) (opened : peer.connection.isOpen = true) :
      Step path ⟨.running c, connections, history⟩ (.serve index accepts fault)
        ⟨.running (peer.serve c index accepts fault).1,
          connections.set index (peer.serve c index accepts fault).2.1,
          history ++ (peer.serve c index accepts fault).2.2⟩

/-- Networks reachable from an empty state path. -/
def Network.Reachable (path : Text) (network : Network R) : Prop :=
  ∃ events, Run (Network.Step path) { world := .down none } events network

/-- The system that the peers of a network see: exchanges take effect at once, between events of the
process. -/
inductive Serving (path : Text) : World R → Entry R → World R → Prop where
  | own {source target : World R} {event : Event R} (step : World.Step path source event target) :
      Serving path source (.own event) target
  | exchange {c : Coordinator R} (index : Nat) (request : Frame) (fault : Option SaveFault)
      (serves : c.serverActive = true) :
      Serving path (.running c)
        (.exchange index request (Server.dispatch c request fault).2 fault)
        (.running (Server.dispatch c request fault).1)

end Serving

/-! ## What a connection has carried -/

/-- The bytes of a connection are those of its exchanges; the last reply may have been cut, and then
the connection is closed. -/
structure ServerConnection.Carries (peer : ServerConnection) (exchanges : List (Frame × Frame)) :
    Prop where
  words : peer.limits.maxFramePayloadBytes < 2 ^ 32
  fit : ∀ exchange ∈ exchanges, exchange.1.Fits peer.limits ∧
    exchange.2.correlation = exchange.1.correlation
  received : ∃ rest,
    peer.stream = (exchanges.map fun exchange => exchange.1.bytes).flatten ++ rest ∧
    (peer.connection.isOpen = true → peer.connection.pending = rest)
  sent : ∃ answered lost cut, exchanges = answered ++ lost ∧
    (∀ exchange ∈ answered, exchange.2.Fits peer.limits) ∧
    peer.outgoing = (answered.map fun exchange => exchange.2.bytes).flatten ++ cut ∧
    (lost = [] ∧ cut = [] ∨
      ∃ exchange, lost = [exchange] ∧ cut <+: exchange.2.bytes ∧ cut ≠ exchange.2.bytes ∧
        peer.connection.isOpen = false)

/-- What holds of a network in every run. -/
structure Network.Sound [MetricReal R] [CanonicalDigests R] [BitPattern R] [ToChars R] [StdSort]
    (path : Text) (network : Network R) : Prop where
  serialized : Run (Serving path) (.down none) network.history network.world
  opened : ∀ peer ∈ network.connections, peer.connection.isOpen = true →
    ∃ c, network.world = .running c ∧ c.serverActive = true ∧ c.limits = peer.limits
  carried : ∀ index (peer : ServerConnection), network.connections[index]? = some peer →
    peer.Carries (exchangesOf index network.history)
  fresh : ∀ index, network.connections.length ≤ index → exchangesOf index network.history = []

/-! ## Only its own two operations open and close the control plane -/

/-- The request opens or closes the control plane. -/
def Request.controls : Request R → Bool
  | .startServer _ => true
  | .stopServer => true
  | _ => false

namespace Coordinator

theorem replaceIncarnations_serverActive (sequence : Nat) (replaced : List LiveWorker)
    (c : Coordinator R) :
    (replaced.foldl (replaceIncarnation sequence) c).serverActive = c.serverActive := by
  induction replaced generalizing c with
  | nil => rfl
  | cons live rest ih => exact ih _

theorem claimLoop_serverActive (c : Coordinator R) (request : ClaimTrialRequest)
    (live : LiveWorker) :
    (c.claimLoop request live).coordinator.serverActive = c.serverActive := by
  let property (reached : ClaimProgress R) : Prop :=
    reached.coordinator.serverActive = c.serverActive
  have looped : property (c.claimLoop request live) := by
    refine claimLoop_keeps c live (fun reached experiment key held => ?_) fun _ => rfl
    change (claimTrial request live.producer experiment reached key).coordinator.serverActive = _
    rw [← held]
    unfold claimTrial
    repeat' split
    all_goals rfl
  exact looped

theorem registerArtifacts_serverActive {envelope : AuthorityEnvelope}
    {artifacts : List ArtifactRecord} {c registered : Coordinator R} {result : Result Unit}
    (accepted : registerArtifacts envelope c.nextSequence artifacts = (registered, result)) :
    registered.serverActive = c.serverActive := by
  let property (reached : Coordinator R) : Prop := reached.serverActive = c.serverActive
  have start : property c.nextSequence := rfl
  have kept : property (registerArtifacts envelope c.nextSequence artifacts).1 :=
    registerArtifacts_keeps envelope (fun _ same => same) (fun _ _ _ _ same _ _ _ _ => same)
      artifacts start
  rwa [accepted] at kept

/-- Saving leaves the control plane as the undoing of a failed save does. -/
theorem endWith_serverActive (prepared : Coordinator R) (fault : Option SaveFault)
    {undo : Coordinator R → Coordinator R} (kept : ∀ c, (undo c).serverActive = c.serverActive)
    (answer : Check Status → Reply R) :
    (prepared.endWith fault undo answer).1.serverActive = prepared.serverActive := by
  unfold endWith
  rcases prepared.persistLocked_cases fault true with ⟨persisted, -⟩ | ⟨failure, persisted⟩ |
    ⟨persisted, -⟩ <;> rw [persisted]
  exact kept _

variable [MetricReal R] [CanonicalDigests R]

theorem saving_serverActive {c prepared : Coordinator R} {request : Request R}
    {undo : Coordinator R → Coordinator R} {answer : Check Status → Reply R}
    (saves : Saving c request prepared undo answer) (other : request.controls = false)
    (fault : Option SaveFault) :
    (prepared.endWith fault undo answer).1.serverActive = c.serverActive := by
  cases saves with
  | register =>
      exact (endWith_serverActive _ fault (fun _ => rfl) _).trans
        (replaceIncarnations_serverActive _ _ _)
  | claim =>
      exact (endWith_serverActive _ fault (fun _ => rfl) _).trans (claimLoop_serverActive c _ _)
  | refuseObservation =>
      refine (endWith_serverActive _ fault (fun _ => rfl) _).trans ?_
      unfold rejectObservation
      dsimp only
      split <;> rfl
  | commit guarded evidence accepted =>
      have same := registerArtifacts_serverActive accepted
      exact (endWith_serverActive _ fault (fun _ => rfl) _).trans same
  | finalize =>
      refine (endWith_serverActive _ fault (fun _ => rfl) _).trans ?_
      unfold deciding
      split <;> rfl
  | stopServer => cases other
  | _ =>
      refine endWith_serverActive _ fault ?_ _
      exact fun _ => rfl

/-- No other request opens or closes the control plane. -/
theorem perform_serverActive (c : Coordinator R) (request : Request R) (fault : Option SaveFault)
    (other : request.controls = false) :
    (c.perform request fault).1.serverActive = c.serverActive := by
  have ending := c.perform_ending fault request
  generalize c.perform request fault = done at ending
  cases ending with
  | saving saves => exact saving_serverActive saves other fault
  | replaced => exact replaceIncarnations_serverActive _ _ _
  | idle => exact claimLoop_serverActive c _ _
  | artifactsKept guarded refused =>
      exact registerArtifacts_serverActive refused
  | artifactsWithdrawn guarded accepted =>
      refine Eq.trans ?_ (registerArtifacts_serverActive accepted)
      unfold withdrawArtifacts
      split <;> rfl
  | startServer => cases other
  | _ => rfl

end Coordinator

/-! ## Bytes of a connection -/

@[simp]
theorem exchangesOf_append (index : Nat) (before after : List (Entry R)) :
    exchangesOf index (before ++ after) = exchangesOf index before ++ exchangesOf index after := by
  induction before with
  | nil => rfl
  | cons entry rest ih =>
      cases entry with
      | own event => exact ih
      | exchange place request reply fault =>
          simp only [List.cons_append, exchangesOf, ih]
          split <;> rfl

theorem ServerConnection.answer_limits (peer : ServerConnection) (reply : Frame)
    (accepts : List Acceptance) : (peer.answer reply accepts).limits = peer.limits := by
  unfold answer
  rcases peer.connection.sendFrame reply peer.limits accepts with ⟨failure | ⟨⟨⟩⟩, out⟩ <;> rfl

namespace ServerConnection.Carries

variable {peer : ServerConnection} {exchanges : List (Frame × Frame)}

theorem closed (carries : peer.Carries exchanges) : peer.close.Carries exchanges where
  words := carries.words
  fit := carries.fit
  received := by
    obtain ⟨rest, split, -⟩ := carries.received
    exact ⟨rest, split, fun opened => by cases opened⟩
  sent := by
    obtain ⟨answered, lost, cut, split, fit, out, whole | ⟨exchange, one, short, partly, -⟩⟩ :=
      carries.sent
    · exact ⟨answered, lost, cut, split, fit, out, .inl whole⟩
    · exact ⟨answered, lost, cut, split, fit, out, .inr ⟨exchange, one, short, partly, rfl⟩⟩

/-- An open connection has sent every reply. -/
theorem answered (carries : peer.Carries exchanges) (opened : peer.connection.isOpen = true) :
    (∀ exchange ∈ exchanges, exchange.2.Fits peer.limits) ∧
      peer.outgoing = (exchanges.map fun exchange => exchange.2.bytes).flatten := by
  obtain ⟨answered, lost, cut, rfl, fit, out, ⟨rfl, rfl⟩ | ⟨-, -, -, -, closed⟩⟩ := carries.sent
  · simpa using And.intro fit out
  · rw [closed] at opened
    cases opened

/-- An exchange on an open connection. -/
theorem exchanged (carries : peer.Carries exchanges) (opened : peer.connection.isOpen = true)
    {request reply : Frame} {connection : TcpConnection}
    (received : peer.connection.receiveFrame peer.limits = (.ok request, connection))
    (declared : request.type.declared = true → reply.type.declared = true)
    (correlated : reply.correlation = request.correlation) (accepts : List Acceptance) :
    ({ peer with connection }.answer reply accepts).Carries (exchanges ++ [(request, reply)]) := by
  obtain ⟨fit, split, stillOpen⟩ :=
    TcpConnection.receiveFrame_spec carries.words received
  obtain ⟨answered, sent⟩ := carries.answered opened
  obtain ⟨rest, stream, pending⟩ := carries.received
  have streamed : peer.stream =
      ((exchanges ++ [(request, reply)]).map fun exchange => exchange.1.bytes).flatten ++
        connection.pending := by
    rw [stream, ← pending opened, split]
    simp
  have fits : ∀ exchange ∈ exchanges ++ [(request, reply)], exchange.1.Fits peer.limits ∧
      exchange.2.correlation = exchange.1.correlation := by
    intro exchange member
    rcases List.mem_append.mp member with before | last
    · exact carries.fit exchange before
    · obtain rfl := List.mem_singleton.mp last
      exact ⟨fit, correlated⟩
  obtain ⟨done, refused⟩ := connection.sendFrame_spec (declared fit.type.1) peer.limits accepts
  rcases result : connection.sendFrame reply peer.limits accepts with ⟨failure | ⟨⟨⟩⟩, out⟩
  · rw [result] at refused
    obtain ⟨short, partly⟩ := refused failure rfl
    have answer : { peer with connection }.answer reply accepts =
        { peer with connection := connection.close, outgoing := peer.outgoing ++ out } := by
      simp [answer, result, close]
    rw [answer]
    exact ⟨carries.words, fits, ⟨_, streamed, fun opened => by cases opened⟩,
      exchanges, [(request, reply)], out, rfl, answered, by rw [sent],
      .inr ⟨_, rfl, short, partly, rfl⟩⟩
  · rw [result] at done
    obtain ⟨replyFits, rfl⟩ := done rfl
    have answer : { peer with connection }.answer reply accepts =
        { peer with connection, outgoing := peer.outgoing ++ reply.bytes } := by
      simp [answer, result]
    rw [answer]
    refine ⟨carries.words, fits, ⟨_, streamed, fun _ => rfl⟩,
      exchanges ++ [(request, reply)], [], [], by simp, ?_, by simp [sent], .inl ⟨rfl, rfl⟩⟩
    intro exchange member
    rcases List.mem_append.mp member with before | last
    · exact answered exchange before
    · obtain rfl := List.mem_singleton.mp last
      exact replyFits

end ServerConnection.Carries

/-! ## Steps of the network -/

section Steps

variable [MetricReal R] [CanonicalDigests R] [BitPattern R] [ToChars R] [StdSort]

omit [MetricReal R] [CanonicalDigests R] [BitPattern R] [ToChars R] [StdSort] in
/-- A payload that asks for an operation was decoded to its request. -/
theorem Protocol.Server.asks_decoded {α : Type} {outcome : Result α} {asks : α → Request R}
    {asked : Request R} (found : (outcome.map fun value => Server.Ask.perform (asks value)) =
      .ok (.perform asked)) : ∃ value, outcome = .ok value ∧ asks value = asked := by
  cases outcome with
  | error failure => cases found
  | ok value => exact ⟨value, rfl, Server.Ask.perform.inj (Except.ok.inj found)⟩

omit [MetricReal R] [CanonicalDigests R] [ToChars R] [StdSort] in
/-- A frame neither opens nor closes the control plane. -/
theorem Protocol.Server.ask_controls {limits : Limits} {request : Frame} {asked : Request R}
    (asks : Server.ask limits request = .ok (.perform asked)) : asked.controls = false := by
  unfold Server.ask at asks
  dsimp only at asks
  split at asks
  case h_16 =>
      rcases decoded : decodeQueryRequest limits request.payload with failure | value <;>
        rw [decoded] at asks <;> cases asks
  all_goals first
    | cases asks; rfl
    | cases asks
    | obtain ⟨value, -, rfl⟩ := Server.asks_decoded asks; rfl

/-- Dispatching a frame keeps the process and its control plane. -/
theorem Protocol.Server.dispatch_process (c : Coordinator R) (request : Frame)
    (fault : Option SaveFault) :
    (Server.dispatch c request fault).1.config = c.config ∧
      (Server.dispatch c request fault).1.serverActive = c.serverActive := by
  rw [Server.dispatch_eq]
  rcases asks : Server.ask c.limits request with failure | ⟨⟨⟩ | asked | asked⟩
  · exact ⟨rfl, rfl⟩
  · exact ⟨rfl, rfl⟩
  · exact ⟨rfl, rfl⟩
  · exact ⟨(c.perform_operated asked fault).config,
      c.perform_serverActive asked fault (Server.ask_controls asks)⟩

omit [BitPattern R] [ToChars R] [StdSort] in
/-- A running process that goes on is the same one. -/
theorem World.Step.process {path : Text} {c next : Coordinator R} {event : Event R}
    (step : World.Step path (.running c) event (.running next)) : next.config = c.config := by
  cases step with
  | request c request fault => exact (c.perform_operated request fault).config

namespace Network.Sound

variable {path : Text}

theorem initial : Network.Sound path ({ world := .down none } : Network R) where
  serialized := .nil _
  opened := fun _ member => by cases member
  carried := fun _ _ found => by simp at found
  fresh := fun _ _ => rfl

theorem process {network : Network R} (sound : network.Sound path) {event : Event R}
    {next : World R} (step : World.Step path network.world event next) :
    Network.Sound path
      { world := next
        connections := if next.Serves then network.connections
          else network.connections.map ServerConnection.close
        history := network.history ++ [.own event] } where
  serialized := sound.serialized.snoc (.own step)
  opened := by
    intro peer member opened
    dsimp only at member
    split at member
    · rename_i serves
      obtain ⟨c, running, -, limits⟩ := sound.opened peer member opened
      rw [running] at step
      cases next with
      | running after =>
          exact ⟨after, rfl, serves, (congrArg Config.limits step.process).trans limits⟩
      | down image => cases serves
    · obtain ⟨before, -, rfl⟩ := List.mem_map.mp member
      cases opened
  carried := by
    intro index peer found
    rw [exchangesOf_append, show exchangesOf index [Entry.own event] = [] from rfl,
      List.append_nil]
    dsimp only at found
    split at found
    · exact sound.carried index peer found
    · rw [List.getElem?_map] at found
      obtain ⟨before, there, rfl⟩ := Option.map_eq_some_iff.mp found
      exact (sound.carried index before there).closed
  fresh := by
    intro index beyond
    have same : network.connections.length ≤ index := by
      dsimp only at beyond
      split at beyond
      · exact beyond
      · rwa [List.length_map] at beyond
    rw [exchangesOf_append, sound.fresh index same]
    rfl

theorem connect {c : Coordinator R} {connections : List ServerConnection} {history : List (Entry R)}
    (sound : Network.Sound path ⟨.running c, connections, history⟩) (incoming : List Delivery)
    (serves : c.serverActive = true) (words : c.limits.maxFramePayloadBytes < 2 ^ 32) :
    Network.Sound path
      ⟨.running c, connections ++ [{ connection := ⟨true, incoming⟩, limits := c.limits }],
        history⟩ where
  serialized := sound.serialized
  opened := by
    intro peer member opened
    rcases List.mem_append.mp member with before | last
    · exact sound.opened peer before opened
    · obtain rfl := List.mem_singleton.mp last
      exact ⟨c, rfl, serves, rfl⟩
  carried := by
    intro index peer found
    dsimp only at found ⊢
    rw [List.getElem?_append] at found
    split at found
    · exact sound.carried index peer found
    · rename_i beyond
      obtain ⟨bound, rfl⟩ := List.getElem?_eq_some_iff.mp found
      rw [sound.fresh index (Nat.le_of_not_lt beyond)]
      have only : index - connections.length = 0 := by simpa using bound
      simp only [only, List.getElem_cons_zero]
      exact ⟨words, by simp, ⟨_, rfl, fun _ => rfl⟩, [], [], [], rfl, by simp, rfl,
        .inl ⟨rfl, rfl⟩⟩
  fresh := by
    intro index beyond
    refine sound.fresh index ?_
    simp only [List.length_append] at beyond ⊢
    omega

/-- One connection has carried more; the process and the other connections are the same. -/
theorem replaced {c after : Coordinator R} {connections : List ServerConnection}
    {history entries : List (Entry R)}
    (sound : Network.Sound path ⟨.running c, connections, history⟩) {index : Nat}
    {peer next : ServerConnection} (serves : c.serverActive = true)
    (found : connections[index]? = some peer) (opened : peer.connection.isOpen = true)
    (serialized : Run (Serving path) (.down none) (history ++ entries) (.running after))
    (config : after.config = c.config) (active : after.serverActive = c.serverActive)
    (limits : next.limits = peer.limits)
    (others : ∀ other, other ≠ index → exchangesOf other entries = [])
    (carries : next.Carries (exchangesOf index history ++ exchangesOf index entries)) :
    Network.Sound path ⟨.running after, connections.set index next, history ++ entries⟩ where
  serialized := serialized
  opened := by
    have kept : after.limits = c.limits := congrArg Config.limits config
    intro later member nowOpen
    obtain ⟨before, running, -, same⟩ : ∃ before : Coordinator R,
        World.running c = .running before ∧ before.serverActive = true ∧
          before.limits = later.limits := by
      rcases List.mem_or_eq_of_mem_set member with other | rfl
      · exact sound.opened later other nowOpen
      · obtain ⟨before, running, up, same⟩ :=
          sound.opened peer (List.mem_of_getElem? found) opened
        exact ⟨before, running, up, same.trans limits.symm⟩
    obtain rfl := World.running.inj running
    exact ⟨after, rfl, active.trans serves, kept.trans same⟩
  carried := by
    intro place later there
    dsimp only at there ⊢
    rw [exchangesOf_append]
    by_cases same : place = index
    · subst same
      rw [List.getElem?_set_self (List.getElem?_eq_some_iff.mp found).1] at there
      obtain rfl := Option.some.inj there
      exact carries
    · rw [List.getElem?_set_ne (Ne.symm same)] at there
      rw [others place same, List.append_nil]
      exact sound.carried place later there
  fresh := by
    intro place beyond
    dsimp only at beyond ⊢
    rw [List.length_set] at beyond
    have apart : place ≠ index := by
      rintro rfl
      exact absurd (List.getElem?_eq_some_iff.mp found).1 (Nat.not_lt.mpr beyond)
    rw [exchangesOf_append, others place apart, List.append_nil]
    exact sound.fresh place beyond

theorem serve {c : Coordinator R} {connections : List ServerConnection} {history : List (Entry R)}
    (sound : Network.Sound path ⟨.running c, connections, history⟩) {index : Nat}
    {peer : ServerConnection} (accepts : List Acceptance) (fault : Option SaveFault)
    (serves : c.serverActive = true) (found : connections[index]? = some peer)
    (opened : peer.connection.isOpen = true) :
    Network.Sound path
      ⟨.running (peer.serve c index accepts fault).1,
        connections.set index (peer.serve c index accepts fault).2.1,
        history ++ (peer.serve c index accepts fault).2.2⟩ := by
  have carries := sound.carried index peer found
  unfold ServerConnection.serve
  rcases received : peer.connection.receiveFrame peer.limits with ⟨failure | request, connection⟩
  · refine sound.replaced serves found opened ?_ rfl rfl rfl (fun _ _ => rfl) ?_
    · rw [List.append_nil]
      exact sound.serialized
    · obtain ⟨rest, split, -⟩ := carries.closed.received
      refine ⟨carries.words, ?_, ⟨rest, ?_, fun open_ => by cases open_⟩, ?_⟩
      all_goals simp only [exchangesOf, List.append_nil]
      · exact carries.fit
      · exact split
      · exact carries.closed.sent
  · obtain ⟨config, active⟩ := Server.dispatch_process c request fault
    refine sound.replaced serves found opened
      (sound.serialized.snoc (.exchange index request fault serves)) config active ?_ ?_ ?_
    · exact ServerConnection.answer_limits _ _ accepts
    · intro other apart
      simp [exchangesOf, Ne.symm apart]
    · simp only [exchangesOf, if_pos]
      exact carries.exchanged opened received Server.dispatch_declared
        Server.dispatch_correlation accepts

/-- A step keeps what holds of a network. -/
theorem step {network next : Network R} {event : NetworkEvent R} (sound : network.Sound path)
    (taken : Network.Step path network event next) : next.Sound path := by
  cases taken with
  | process step => exact sound.process step
  | connect incoming serves words => exact sound.connect incoming serves words
  | serve accepts fault serves found opened =>
      exact sound.serve accepts fault serves found opened

end Network.Sound

theorem Network.Reachable.sound {path : Text} {network : Network R}
    (reachable : network.Reachable path) : network.Sound path := by
  obtain ⟨events, run⟩ := reachable
  exact run.preserves (fun _ _ _ sound taken => sound.step taken) .initial

/-- What the peers of a network do to the world, local callers could do. -/
theorem Serving.reachable {path : Text} {world : World R} {history : List (Entry R)}
    (served : Run (Serving path) (.down none) history world) : world.Reachable path := by
  refine served.preserves (fun source entry target reachable taken => ?_)
    (World.Reachable.empty path)
  cases taken with
  | own step => exact reachable.step step
  | @exchange c index request fault serves =>
      have dispatched : (Server.dispatch c request fault).1 = c ∨
          ∃ asked, (Server.dispatch c request fault).1 = (c.perform asked fault).1 :=
        Server.dispatch_cases
      rcases dispatched with same | ⟨asked, same⟩
      · rwa [same]
      · rw [same]
        exact reachable.step (.request c asked fault)

end Steps

/-! ## A connection that delivers byte by byte -/

/-- Placeholder digests, as long as those of the runtime. -/
instance wordDigests : CanonicalDigests UInt64 where
  definitionDigest _ := List.replicate 32 0
  evidenceDigest _ _ := List.replicate 32 0

section Sample

local instance sampleSort : StdSort := stableSort

namespace Sample

/-- The control plane of the first process is open. -/
def listening : Coordinator UInt64 :=
  ((Coordinator.boot config none {}).perform (.startServer (.ok ())) none).1

/-- The control plane has accepted a connection that delivers a heartbeat. -/
def connected : Network UInt64 where
  world := .running listening
  connections := [{ connection := dribble, limits := listening.limits }]
  history := [.own (.start config fun _ => none), .own (.request (.startServer (.ok ())) none)]

/-- The connection after its heartbeat was served. -/
def served : Coordinator UInt64 × ServerConnection × List (Entry UInt64) :=
  ServerConnection.serve { connection := dribble, limits := listening.limits } listening 0
    [.takes 99] none

/-- The network after the heartbeat was served. -/
def answered : Network UInt64 where
  world := .running served.1
  connections := [served.2.1]
  history := connected.history ++ served.2.2

/-- The first process has started. -/
def booted : Network UInt64 where
  world := .running (Coordinator.boot config none {})
  history := [.own (.start config fun _ => none)]

end Sample

end Sample

end ExperimentFabric
