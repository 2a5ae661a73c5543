import PubSub.Proofs.Network.Tidy
import PubSub.Proofs.Session.Connections
import PubSub.Proofs.Session.Use
/-!
# Which requests agents notice

A request to connect or disconnect an agent is noticed by that agent, a request to cut all connections by all, and
letting go of an agent by that agent. No other request changes anything about the connection of an agent.
-/

namespace PubSub

/-- A connect is accepted and has a live connection, or is refused and changes nothing, or fails. -/
theorem Agent.connect_outcome (medium : Medium) (agent : Agent) (overrides : BrokerOverrides) :
    ((agent.connect medium overrides).2.2 = .ok () ∧
      (agent.connect medium overrides).2.1.connection.state = .connected ∧
      ∃ handle, (agent.connect medium overrides).2.1.connection.handle = some handle ∧
        (agent.connect medium overrides).1.broker.isLive handle) ∨
    (∃ state operation, (agent.connect medium overrides).2.2 = .error (.invalidState state operation) ∧
      (agent.connect medium overrides).1 = medium ∧ (agent.connect medium overrides).2.1 = agent) ∨
    ∃ error, (agent.connect medium overrides).2.2 = .error error ∧
      (∀ state operation, error ≠ .invalidState state operation) ∧
      (agent.connect medium overrides).2.1.connection.state = .errored := by
  unfold connect
  cases began : agent.beginConnect medium overrides with
  | error error =>
    have refused : error = .invalidState agent.connection.state "connect" := by
      unfold beginConnect at began
      by_cases busy : agent.connection.state = .connecting ∨
          agent.connection.isConnected (medium.isLive agent.transport)
      · rw [Connection.begin?_of_busy busy] at began
        exact (Except.error.inj began).symm
      · rw [Connection.begin?_of_idle busy] at began
        cases began
    exact .inr (.inl ⟨_, _, congrArg Except.error refused, rfl, rfl⟩)
  | ok found =>
    obtain ⟨asked, begun, pending⟩ := found
    obtain ⟨same, generation, -⟩ := beginConnect_eq_ok began
    have current : begun.connection.isCurrent pending.generation := by
      rw [same, generation]
      simp [Connection.isCurrent]
    cases answer : asked.answerConnect begun.transport pending.options begun.clientId with
    | error error =>
      refine .inr (.inr ⟨_, by simp only [completeConnect, answer]; rfl, ?_, ?_⟩)
      · intro state operation same
        cases same
      · simp [completeConnect, answer, Connection.reject, current]
    | ok answered =>
      have done : (begun.completeConnect asked pending).2.2 = .ok () := by
        simp only [completeConnect, answer, Connection.accept?, current, if_true]
        rfl
      rcases completes : begun.completeConnect asked pending with ⟨after, later, result⟩
      obtain rfl : result = .ok () := by rw [← done, completes]
      obtain ⟨rfl, rfl⟩ := completeConnect_eq_ok completes
      simp only [completes]
      exact .inl ⟨trivial, trivial, asked.broker.clients.length, rfl, by simp [Broker.isLive, clientRecord]⟩

/-- An agent is connected at once if the builder says so, or else if its configuration does. -/
theorem AgentBuilder.autoConnect_agent {builder : AgentBuilder} {label : String} {serial : Nat} {agent : Agent}
    (h : builder.agent label serial = .ok agent) :
    agent.autoConnect = builder.autoConnect.getD builder.config.behavior.autoConnect := by
  obtain ⟨identity, transport, -, -, rfl⟩ := agent_eq_ok h
  rfl

namespace Network

variable {foreign : ConnectionId → Prop} {network : Network} {agent changed : Agent} {index : Nat} {busy : Nat → Prop}

theorem view_onAgent {α : Type} (network : Network) (index : Nat) (agent : Agent)
    (operation : Medium → Agent → Medium × Agent × α) :
    (network.onAgent index agent operation).1.view =
      { network.view with
        broker := (operation network.medium agent).1.broker
        agents := network.view.agents.set index (operation network.medium agent).2.1.standing } := by
  unfold onAgent
  simp only [view_wake, view_setAgent]
  rfl

/-- An agent does something with its connection, which no other agent holds. -/
theorem upholds_onAgent {α : Type} (sound : network.Sound foreign) (h : network.agents[index]? = some agent)
    (operation : Medium → Agent → Medium × Agent × α)
    (held : (operation network.medium agent).2.1.held = agent.held)
    (handles : ∀ handle, (operation network.medium agent).2.1.connection.handle = some handle →
      agent.connection.handle = some handle ∨ network.medium.broker.clients.length ≤ handle)
    (spares : network.medium.broker.Spares (fun connection ↦ agent.connection.handle = some connection) false
      (operation network.medium agent).1.broker) :
    network.Upholds (fun place ↦ place = index) false (network.onAgent index agent operation).1 := by
  have standing : network.view.agents[index]? = some agent.standing := by simp [view, h]
  refine ⟨?_, ?_⟩
  · rw [view_onAgent]
    refine .set standing held handles (fun other ↦ absurd rfl other) spares ?_
    intro place other handle hother idle has same
    exact idle (sound.apart_handles hother standing has same)
  · unfold onAgent
    obtain ⟨ready, same, -⟩ := setAgent_eq { network with medium := (operation network.medium agent).1 } index
      (operation network.medium agent).2.1
    simp only [attempts_wake, same]

/-- An agent is exchanged for what work on its channels has made of it. -/
theorem upholds_replaceAgent {medium : Medium} (h : network.agents[index]? = some agent)
    (link : changed.link = agent.link) (held : changed.held = agent.held)
    (spares : network.medium.broker.Spares (fun _ ↦ False) false medium.broker) :
    network.Upholds busy false (wake { network with medium, agents := network.agents.set index changed }) := by
  have standing : network.view.agents[index]? = some agent.standing := by simp [view, h]
  have view : Network.view { network with medium, agents := network.agents.set index changed } =
      { network.view with broker := medium.broker, agents := network.view.agents.set index changed.standing } := by
    simp [Network.view, List.map_set]
  refine ⟨?_, congrArg List.length (attempts_wake _)⟩
  rw [view_wake, view]
  have connection : changed.connection = agent.connection := congrArg Link.connection link
  have handles (handle : ConnectionId) (has : changed.connection.handle = some handle) :
      agent.connection.handle = some handle := by rw [← connection, has]
  exact .set standing held (fun handle has ↦ .inl (handles handle has)) (fun _ ↦ connection) spares
    fun _ _ _ _ _ _ h ↦ h

end Network

/-- Whether a request cuts all connections. -/
def Request.cuts : Request → Bool
  | .silenceAll => true
  | _ => false

theorem Network.Upholds.mono {busy busier : Nat → Prop} {cut : Bool} {before after : Network}
    (upholds : before.Upholds busy cut after) (subset : ∀ index, busy index → busier index) :
    before.Upholds busier cut after :=
  ⟨upholds.view.mono subset, upholds.attempts⟩

namespace Session

variable {session next : Session} {busy : Nat → Prop} {cut again : Bool} {agent : Agent} {index : Nat}

/-- Whether a request is to connect or disconnect the agent at a place. -/
def Busies (session : Session) (request : Request) (index : Nat) : Prop :=
  match request with
  | .connect agent _ | .disconnect agent => session.agents.get? agent = some index
  | _ => False

/-- From one session to the next, the connections of agents are upheld. -/
abbrev Upholds (busy : Nat → Prop) (cut : Bool) (before after : Session) : Prop :=
  before.network.Upholds busy cut after.network

/-! ## Parts of requests -/

theorem upholds_attempt_bind {α : Type} {found : Except Refusal α}
    {next : α → Except Refusal (Session × Except Refusal Answer)}
    (h : ∀ thing, found = .ok thing → session.Upholds busy false (session.attempt (next thing)).1) :
    session.Upholds busy false (session.attempt (found >>= next)).1 := by
  cases found with
  | error refusal => exact .refl session.network
  | ok thing => exact h thing rfl

theorem upholds_onBroker (session : Session) {operation : Broker → Broker}
    (spares : session.network.medium.broker.Spares (fun _ ↦ False) cut (operation session.network.medium.broker)) :
    session.Upholds busy cut (session.onBroker operation) :=
  Network.upholds_onBroker session.network spares

theorem upholds_onMedium (session : Session) {operation : Medium → Medium}
    (spares : session.network.medium.broker.Spares (fun _ ↦ False) cut (operation session.network.medium).broker) :
    session.Upholds busy cut (session.onNetwork fun network ↦ network.onMedium operation) :=
  Network.upholds_onMedium session.network spares fun _ _ _ _ _ _ h ↦ h

theorem upholds_request (session : Session) {result : Except BrokerError Broker}
    (spares : ∀ broker, result = .ok broker →
      session.network.medium.broker.Spares (fun _ ↦ False) false broker) :
    session.Upholds busy false (session.request result).1 := by
  cases result with
  | error error => exact .refl session.network
  | ok broker => exact upholds_onBroker session (spares broker rfl)

theorem upholds_publishAs (session : Session) (agent : Agent) (message : Message) (options : PublishOptions) :
    session.Upholds busy false (session.publishAs agent message options).1 :=
  upholds_onMedium session (Agent.spares_publish _ agent message options)

theorem upholds_createSender (h : session.network.agents[index]? = some agent) (request : ChannelRequest)
    (options : ChannelOptions) : session.Upholds busy false (session.createSender index agent request options).1 := by
  unfold Session.createSender
  split
  · exact .refl session.network
  · rename_i medium changed place hcreate
    obtain ⟨broker, senders, same⟩ := Agent.createSender_cases hcreate
    have replaced : session.network.Upholds busy false
        (Network.wake { session.network with medium, agents := session.network.agents.set index changed }) :=
      Network.upholds_replaceAgent h (by rw [same]; rfl) (by rw [same]) (.of_clients (by rw [broker]))
    simp only
    split <;> exact replaced

theorem upholds_createReceiver (h : session.network.agents[index]? = some agent) (request : ChannelRequest)
    (options : ChannelOptions) :
    session.Upholds busy false (session.createReceiver index agent request options).1 := by
  unfold Session.createReceiver
  split
  · exact .refl session.network
  · rename_i medium changed place hcreate
    have same : changed.link = agent.link ∧ changed.held = agent.held := by
      rcases Agent.createReceiver_cases hcreate with ⟨-, rfl⟩ | ⟨_, -, -, ⟨-, rfl⟩ | ⟨-, rfl⟩⟩ <;> exact ⟨rfl, rfl⟩
    have replaced : session.network.Upholds busy false
        (Network.wake { session.network with medium, agents := session.network.agents.set index changed }) :=
      Network.upholds_replaceAgent h same.1 same.2 (Agent.spares_createReceiver hcreate)
    simp only
    split <;> exact replaced

theorem upholds_subscribeAs (session : Session) (agent : Agent) (id : ReceiverId) (receiver : Receiver) :
    session.Upholds busy false (session.subscribeAs agent id receiver).1 := by
  let marked := session.network.modifyReceiver id fun _ ↦ (agent.subscribe session.network.medium receiver).2.1
  have marks : session.network.Upholds busy false marked := Network.upholds_modifyReceiver _ _ _
  have spares : marked.medium.broker.Spares (fun _ ↦ False) false
      (agent.subscribe session.network.medium receiver).1.broker :=
    Agent.spares_subscribe session.network.medium agent receiver
  have asks : marked.Upholds busy false
      (marked.onMedium fun _ ↦ (agent.subscribe session.network.medium receiver).1) :=
    Network.upholds_onMedium marked spares fun _ _ _ _ _ _ h ↦ h
  exact marks.trans asks

theorem upholds_register (session : Session) (id : ReceiverId) (receiver : Receiver) (callback : Callback) :
    session.Upholds busy false (session.register id receiver callback).1 :=
  Network.upholds_modifyReceiver _ _ _

theorem upholds_publish (session : Session) (message : Message) (retain : Bool) (times : Nat) :
    session.Upholds busy false (session.onNetwork fun network ↦
      Nat.repeat (fun network ↦ network.publish message retain) times network) := by
  induction times with
  | zero => exact .refl session.network
  | succ times ih => exact ih.trans (Network.upholds_publish _ message retain)

/-- A raw client closes its connection, which no agent holds. -/
theorem upholds_close {connection : ConnectionId} (steady : session.Steady) (raw : session.IsRaw connection)
    (upheld : session.Upholds busy false next) :
    session.Upholds busy false (next.onBroker fun broker ↦ broker.close connection) := by
  have closes : next.network.Upholds busy false
      (next.network.onMedium fun medium ↦ medium.onBroker fun broker ↦ broker.close connection) := by
    refine Network.upholds_onMedium next.network (Broker.spares_close _ connection) ?_
    rintro place standing handle hstanding - has rfl
    have lt : place < session.network.view.agents.length :=
      upheld.view.length ▸ (List.getElem?_eq_some_iff.1 hstanding).1
    have former := List.getElem?_eq_getElem lt
    obtain ⟨later, hlater, -, handles, -⟩ := upheld.view.agents place _ former
    obtain rfl : later = standing := Option.some.inj (hlater.symm.trans hstanding)
    rcases handles handle has with has' | fresh
    · exact steady.network.sound.not_foreign former has' raw
    · exact Nat.not_lt.2 fresh (steady.network.sound.foreign_lt handle raw)
  exact upheld.trans closes

/-! ## Requests -/

theorem upholds_handle (steady : session.Steady) (request : Request)
    (begins : ∀ agent ticket overrides, request ≠ .startConnect agent ticket overrides)
    (builds : ∀ description, request ≠ .build description)
    (drops : ∀ label background, request ≠ .dropAgent label background) :
    session.Upholds (session.Busies request) request.cuts (session.handle request).1 := by
  have raw {label : String} {connection : ConnectionId} (h : session.findRaw label = .ok connection) :
      session.IsRaw connection := by
    unfold findRaw at h
    split at h
    · cases h
    · rename_i hget
      exact ⟨label, Except.ok.inj h ▸ mem_of_get? hget⟩
  cases request with
  | build request => exact absurd rfl (builds request)
  | startConnect agent ticket overrides => exact absurd rfl (begins agent ticket overrides)
  | dropAgent label background => exact absurd rfl (drops label background)
  | connect agent overrides =>
    apply upholds_attempt_bind
    rintro ⟨index, agent⟩ hfind
    have connects := Network.upholds_onAgent steady.network.sound (findAgent_eq_ok hfind)
      (fun medium agent ↦ agent.connect medium overrides) (Agent.framed_connect _ _ _).held_eq
      (Agent.advances_connect session.network.medium agent overrides).handle (Agent.spares_connect _ _ _)
    exact connects.mono fun place own ↦ own ▸ get?_of_findAgent hfind
  | disconnect agent =>
    apply upholds_attempt_bind
    rintro ⟨index, agent⟩ hfind
    have disconnects := Network.upholds_onAgent steady.network.sound (findAgent_eq_ok hfind)
      (fun medium agent ↦ ((agent.disconnect medium).1, (agent.disconnect medium).2, (.ok () : Except Error Unit)))
      (by rw [(Agent.disconnect_eq _ _).2]) (Agent.advances_disconnect session.network.medium agent).handle
      (Agent.spares_disconnect _ _)
    exact disconnects.mono fun place own ↦ own ▸ get?_of_findAgent hfind
  | publishRaw agent message qos retain =>
    apply upholds_attempt_bind
    intro found _
    apply upholds_attempt_bind
    intro qos _
    exact upholds_publishAs session _ _ _
  | script label change => exact upholds_onMedium session (.refl _)
  | release transport number =>
    refine .of_view (session.network.view_releaseConnect transport number) ?_
    simp only [Session.handle, Network.releaseConnect]
    split
    · rfl
    · obtain ⟨ready, same, -⟩ := Network.schedule_eq _ _
      rw [same]
      exact List.length_modify ..
  | createSender request =>
    apply upholds_attempt_bind
    intro qos _
    apply upholds_attempt_bind
    intro found hfind
    exact upholds_createSender (findAgent_eq_ok hfind) _ _
  | send sender value =>
    apply upholds_attempt_bind
    intro found _
    apply upholds_attempt_bind
    intro payload _
    exact upholds_publishAs session _ _ _
  | sendRaw sender payload =>
    apply upholds_attempt_bind
    intro found _
    exact upholds_publishAs session _ _ _
  | createReceiver request =>
    apply upholds_attempt_bind
    intro qos _
    apply upholds_attempt_bind
    intro found hfind
    exact upholds_createReceiver (findAgent_eq_ok hfind) _ _
  | subscribe agent receiver =>
    apply upholds_attempt_bind
    rintro ⟨id, receiver⟩ _
    apply upholds_attempt_bind
    rintro ⟨index, agent⟩ _
    exact upholds_subscribeAs session agent id receiver
  | register receiver callback =>
    apply upholds_attempt_bind
    rintro ⟨id, receiver⟩ _
    exact upholds_register session id receiver callback
  | next receiver label =>
    apply upholds_attempt_bind
    rintro ⟨id, receiver⟩ _
    exact (upholds_register session id receiver _).trans (.of_view rfl rfl)
  | poll label =>
    unfold Session.handle
    simp only
    split
    · exact .refl session.network
    · split <;> exact .refl session.network
  | publish topic payload retain times =>
    apply upholds_attempt_bind
    intro payload _
    exact upholds_publish session ⟨topic, payload⟩ retain times
  | setAvailable available => exact upholds_onBroker session (.of_clients rfl)
  | requireCredentials credentials => exact upholds_onBroker session (.of_clients rfl)
  | silenceAll => exact upholds_onBroker session (Broker.spares_silenceAll _)
  | rawConnect label clientId options =>
    apply upholds_attempt_bind
    rintro ⟨broker, connection⟩ h
    have connects : session.Upholds (session.Busies (.rawConnect label clientId options)) false
        (session.onBroker fun _ ↦ broker) := by
      refine upholds_onBroker session ?_
      cases hconnect : session.network.medium.broker.connect options (.given clientId) with
      | error error =>
        rw [hconnect] at h
        cases h
      | ok found =>
        rw [hconnect] at h
        obtain rfl : found = (broker, connection) := Except.ok.inj h
        exact Broker.spares_of_connect hconnect
    simp only
    split
    · exact connects
    · rename_i old hget
      have hget' : session.raws.get? label = some old := hget
      exact upholds_close steady ⟨label, mem_of_get? hget'⟩ connects
  | rawSubscribe label pattern qos =>
    apply upholds_attempt_bind
    intro qos _
    apply upholds_attempt_bind
    intro connection _
    exact upholds_request session fun broker h ↦ Broker.spares_of_subscribe h
  | rawPublish label message retain =>
    apply upholds_attempt_bind
    intro connection _
    exact upholds_request session fun broker h ↦ Broker.eq_route_of_publish h ▸ Broker.spares_route _ message retain
  | rawClose label =>
    apply upholds_attempt_bind
    intro connection hraw
    exact upholds_close steady (raw hraw) (.refl session.network)
  | rawReceive label sorted =>
    apply upholds_attempt_bind
    intro connection _
    exact upholds_onBroker session (Broker.spares_emptyInbox _ connection)
  | rawDrop label =>
    unfold Session.handle
    simp only
    split
    · exact .refl session.network
    · rename_i connection hget
      exact upholds_close steady ⟨label, mem_of_get? hget⟩ (.refl session.network)
  | _ => exact .refl session.network

/-! ## Agents that come and go -/

theorem releases_dropAgent (tidy : session.network.Tidy) (label : String) (background : Bool) :
    session.network.Releases (session.handle (.dropAgent label background)).1.network := by
  unfold Session.handle
  simp only
  split
  · exact .inl (.refl session.network)
  · apply tidy.releases_letGo
    cases background
    · exact .inr rfl
    · exact .inl rfl

theorem joins_labelAgent (steady : session.Steady) (tidy : session.network.Tidy) {medium : Medium} (label : String)
    (turn : Link.Turn (fun _ ↦ False) session.network.medium.broker ⟨.initial, none⟩ medium.broker agent.link)
    (spares : session.network.medium.broker.Spares (fun _ ↦ False) false medium.broker)
    (new : ∀ handle, agent.connection.handle = some handle → session.network.medium.broker.clients.length ≤ handle) :
    ∃ joined, session.network.Joins agent joined ∧ joined.Steady session.IsRaw ∧ joined.medium.broker = medium.broker ∧
      joined.Releases ((session.onNetwork fun network ↦ { network with medium }).labelAgent label agent).network := by
  let joined := Network.wake { session.network with medium, agents := session.network.agents ++ [agent] }
  have joins : session.network.Joins agent joined := by
    refine ⟨Network.attempts_wake _, ⟨medium.broker, ?_, spares⟩, new⟩
    rw [Network.view_wake]
    simp [Network.view]
  have broker : joined.medium.broker = medium.broker := congrArg Medium.broker (Network.medium_wake _)
  refine ⟨joined, joins, (steady.network.sound.join turn).wake, broker, ?_⟩
  unfold Session.labelAgent
  simp only
  split
  · exact .inl (.refl joined)
  · exact (tidy.joins joins).releases_letGo _ (.inl rfl)

/-- An agent is not built, or it joins the others, connected if it is meant to be, and the one that had its label may be
let go then. -/
theorem build_outcome (steady : session.Steady) (tidy : session.network.Tidy) (label : String)
    (builder : AgentBuilder) :
    (session.network.Upholds (fun _ ↦ False) false (session.build label builder).1.network ∧
      (session.build label builder).2.isOk = false) ∨
    ∃ agent joined, session.network.Joins agent joined ∧ joined.Steady session.IsRaw ∧
      joined.Releases (session.build label builder).1.network ∧ (session.build label builder).2.isOk ∧
      if builder.autoConnect.getD builder.config.behavior.autoConnect then
        agent.connection.state = .connected ∧
          ∃ handle, agent.connection.handle = some handle ∧ joined.medium.broker.isLive handle
      else agent.connection = .initial := by
  have stays {medium : Medium} (broker : medium.broker = session.network.medium.broker) :
      session.network.Upholds (fun _ ↦ False) false { session.network with medium } := by
    refine .of_view ?_ rfl
    simp [Network.view, broker]
  unfold Session.build
  simp only
  cases hagent : builder.agent label session.network.agents.length with
  | error error =>
    have failed : builder.build session.network.medium label session.network.agents.length =
        (session.network.medium, .error error) := by simp only [AgentBuilder.build, hagent]; rfl
    rw [failed]
    exact .inl ⟨stays rfl, rfl⟩
  | ok described =>
    have free : described.connection.handle = none :=
      congrArg Connection.handle (AgentBuilder.connection_agent hagent)
    rw [← AgentBuilder.autoConnect_agent hagent]
    cases auto : described.autoConnect with
    | false =>
      have built : builder.build session.network.medium label session.network.agents.length =
          (session.network.medium, .ok described) := by simp only [AgentBuilder.build, hagent, auto]; rfl
      obtain ⟨joined, joins, steady', -, releases⟩ := joins_labelAgent steady tidy label
        (AgentBuilder.turn_of_build built) (.refl _) fun handle has ↦ by rw [free] at has; cases has
      rw [built]
      exact .inr ⟨described, joined, joins, steady', releases, rfl, AgentBuilder.connection_agent hagent⟩
    | true =>
      have outcome := Agent.connect_outcome session.network.medium described .none
      have spares := Agent.spares_connect session.network.medium described .none
      have new := (Agent.advances_connect session.network.medium described .none).handle
      rcases connect : described.connect session.network.medium .none with ⟨medium, agent, result⟩
      rw [connect] at outcome spares new
      have built : builder.build session.network.medium label session.network.agents.length =
          (medium, result.map fun _ ↦ agent) := by simp only [AgentBuilder.build, hagent, auto, connect]; rfl
      rw [built]
      cases result with
      | error error => exact .inl ⟨stays (Agent.broker_of_connect_error free connect), rfl⟩
      | ok _ =>
        rcases outcome with ⟨-, state, handle, has, live⟩ | ⟨_, _, failed, -⟩ | ⟨_, failed, -⟩
        · obtain ⟨joined, joins, steady', broker, releases⟩ := joins_labelAgent steady tidy label
            (AgentBuilder.turn_of_build built) (spares.mono fun handle has ↦ by rw [free] at has; cases has)
            fun handle has ↦ (new handle has).resolve_left fun own ↦ by
              have own : described.connection.handle = some handle := own
              rw [free] at own
              cases own
          exact .inr ⟨agent, joined, joins, steady', releases, rfl, state, handle, has, broker ▸ live⟩
        · cases failed
        · cases failed

end Session

end PubSub
