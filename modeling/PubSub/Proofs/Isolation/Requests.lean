import PubSub.Proofs.Isolation.Builder
import PubSub.Proofs.Isolation.Extent
import PubSub.Proofs.Isolation.Party
/-!
# Requests while a party is left out

A request that is no request of the party does the same to what is left of a session, with the same answer. A request
of the party does nothing to what is left.
-/

namespace PubSub

variable {party : Party} {selection : Selection}

/-- Works out the same in a session and in what is left of it, as far as `same` can tell. -/
def Corresponds {α β : Type} (selection : Selection) (same : α → β → Prop) :
    Except Refusal α → Except Refusal β → Prop
  | .ok thing, .ok thing' => same thing thing'
  | .error refusal, .error refusal' => refusal' = refusal.reduced selection
  | _, _ => False

theorem Corresponds.bind {α β γ δ : Type} {same : γ → δ → Prop} (found : Except Refusal α) {move : α → β}
    {next : α → Except Refusal γ} {next' : β → Except Refusal δ}
    (h : ∀ thing, found = .ok thing → Corresponds selection same (next thing) (next' (move thing))) :
    Corresponds selection same (found >>= next) (reducedResult selection move found >>= next') := by
  cases found with
  | error refusal => rfl
  | ok thing => exact h thing rfl

/-- What has nothing to do with numbers is found the same. -/
theorem Corresponds.bind_same {α γ δ : Type} {same : γ → δ → Prop} (found : Except Refusal α)
    (still : ∀ refusal, found = .error refusal → refusal.reduced selection = refusal)
    {next : α → Except Refusal γ} {next' : α → Except Refusal δ}
    (h : ∀ thing, found = .ok thing → Corresponds selection same (next thing) (next' thing)) :
    Corresponds selection same (found >>= next) (found >>= next') := by
  cases found with
  | error refusal => exact (still refusal rfl).symm
  | ok thing => exact h thing rfl

theorem reduced_of_failing {α : Type} {result : Except Error α} {refusal : Refusal}
    (h : Session.failing result = .error refusal) : refusal.reduced selection = refusal := by
  cases result with
  | error error =>
    obtain rfl : Refusal.failed error = refusal := Except.error.inj h
    rfl
  | ok thing => cases h

theorem reduced_of_checkQoS {qos : Option Nat} {refusal : Refusal}
    (h : Session.checkQoS qos = .error refusal) : refusal.reduced selection = refusal := by
  cases qos with
  | none => cases h
  | some level => exact reduced_of_failing h

namespace Session

variable {session rest : Session} {index : Nat} {agent : Agent} {id : ReceiverId} {receiver : Receiver}

/-- What a request comes to in a session and in what is left of it. -/
structure Agrees (party : Party) (selection : Selection) (outcome outcome' : Session × Except Refusal Answer) :
    Prop where
  session : outcome.1.Reduces party selection outcome'.1
  answer : outcome'.2 = reducedResult selection (Answer.reduced selection) outcome.2

theorem reducedResult_failing {α : Type} (result : Except Error α) :
    reducedResult selection (Answer.reduced selection) (failing (result.map fun _ ↦ .done)) =
      failing (result.map fun _ ↦ .done) := by
  cases result <;> rfl

theorem extent_labelAgent (session : Session) (label : String) (agent : Agent) :
    (session.labelAgent label agent).network.extent =
      { session.network.extent with agents := session.network.agents.length + 1 } := by
  unfold labelAgent
  simp only
  split
  · rw [Network.extent_wake]
    simp [Network.extent]
  · rw [Network.extent_letGo, Network.extent_wake]
    simp [Network.extent]

theorem build_eq {label : String} {builder : AgentBuilder} {medium : Medium}
    (built : builder.build session.network.medium label session.network.agents.length = (medium, .ok agent)) :
    session.build label builder =
      ((session.onNetwork fun network ↦ { network with medium }).labelAgent label agent, .ok .done) := by
  unfold build
  simp only [built]
  rfl

theorem build_of_error {label : String} {builder : AgentBuilder} {medium : Medium} {error : Error}
    (built : builder.build session.network.medium label session.network.agents.length = (medium, .error error)) :
    session.build label builder =
      (session.onNetwork fun network ↦ { network with medium }, .error (.failed error)) := by
  unfold build
  simp only [built]
  rfl

/-- The session with somebody waiting for the next message of a receiver. -/
def awaiting (session : Session) (id : ReceiverId) (receiver : Receiver) (label : String) : Session :=
  let ticket := session.network.replies.length
  let registered := (session.register id receiver ⟨true, .reply ticket⟩).1
  { registered.onNetwork fun network ↦ { network with replies := network.replies ++ [.waiting id] } with
    nexts := session.nexts.put label ticket }

/-- A new agent and its connection are on the side of what is new. -/
theorem Brings.build {kept : Bool} {label : String} {builder : AgentBuilder}
    (brings : Brings selection kept session (session.build label builder).1) :
    Agent.Adds selection kept session.network.medium.broker
        (builder.build session.network.medium label session.network.agents.length).1.broker ∧
      ((builder.build session.network.medium label session.network.agents.length).2.isOk →
        selection.agents session.network.agents.length = kept) := by
  obtain ⟨agents, connections, -⟩ := brings
  rcases built : builder.build session.network.medium label session.network.agents.length with ⟨medium, error | agent⟩
  · rw [build_of_error built] at connections
    exact ⟨connections, nofun⟩
  · rw [build_eq built] at agents connections
    have extent := extent_labelAgent (session.onNetwork fun network ↦ { network with medium }) label agent
    have joined := congrArg Extent.agents extent
    have accepted := congrArg Extent.connections extent
    simp only [Network.extent, onNetwork] at joined accepted
    refine ⟨fun connection le lt ↦ connections connection le (accepted ▸ lt), fun _ ↦ agents _ (Nat.le_refl _) ?_⟩
    exact joined ▸ Nat.lt_succ_self _

namespace Reduces

variable (reduces : session.Reduces party selection rest)

include reduces

theorem attempt {work work' : Except Refusal (Session × Except Refusal Answer)}
    (corresponds : Corresponds selection (Agrees party selection) work work') :
    Agrees party selection (session.attempt work) (rest.attempt work') := by
  cases work with
  | error refusal =>
    cases work' with
    | error refusal' =>
      obtain rfl : refusal' = refusal.reduced selection := corresponds
      exact ⟨reduces, rfl⟩
    | ok outcome => exact corresponds.elim
  | ok outcome =>
    cases work' with
    | error refusal => exact corresponds.elim
    | ok outcome' => exact corresponds

theorem question {answer answer' : Except Refusal Answer}
    (corresponds : Corresponds selection (fun first second ↦ second = first.reduced selection) answer answer') :
    Agrees party selection (session.question answer) (rest.question answer') := by
  refine ⟨reduces, ?_⟩
  cases answer with
  | error refusal =>
    cases answer' with
    | error refusal' =>
      obtain rfl : refusal' = refusal.reduced selection := corresponds
      rfl
    | ok outcome => exact corresponds.elim
  | ok outcome =>
    cases answer' with
    | error refusal => exact corresponds.elim
    | ok outcome' =>
      obtain rfl : outcome' = outcome.reduced selection := corresponds
      rfl

/-! ## Parts of requests that are kept -/

theorem onNetwork {operation operation' : Network → Network}
    (network : (operation session.network).Reduces selection (operation' rest.network)) :
    (session.onNetwork operation).Reduces party selection (rest.onNetwork operation') :=
  { reduces with network }

theorem onBroker {operation operation' : Broker → Broker}
    (broker : operation' (session.network.medium.broker.reduced selection) =
      (operation session.network.medium.broker).reduced selection) :
    (session.onBroker operation).Reduces party selection (rest.onBroker operation') := by
  refine reduces.onNetwork (reduces.network.onMedium ?_)
  simp only [Medium.onBroker, reduces.network.broker, broker]

theorem close {connection : ConnectionId} (own : selection.connections connection) :
    (session.onBroker fun broker ↦ broker.close connection).Reduces party selection
      (rest.onBroker fun broker ↦ broker.close (selection.connections.place connection)) := by
  apply reduces.onBroker
  exact (Broker.reduced_close own).symm

theorem request {result result' : Except BrokerError Broker}
    (same : result' = (result.map (Broker.reduced selection)).mapError (BrokerError.reduced selection)) :
    Agrees party selection (session.request result) (rest.request result') := by
  subst same
  cases result with
  | error error => exact ⟨reduces, rfl⟩
  | ok broker =>
    refine ⟨reduces.onBroker ?_, rfl⟩
    rfl

theorem publishAs (belongs : agent.Belongs selection true) (message : Message) (options : PublishOptions) :
    Agrees party selection (session.publishAs agent message options)
      (rest.publishAs (agent.reduced selection) message options) := by
  obtain ⟨broker, result⟩ := Agent.publish_reduced belongs reduces.network.broker message options
  have network : (session.network.onMedium fun _ ↦ (agent.publish session.network.medium message options).1).Reduces
      selection (rest.network.onMedium fun _ ↦
        ((agent.reduced selection).publish rest.network.medium message options).1) := by
    apply reduces.network.onMedium
    exact broker
  refine ⟨{ reduces with network }, ?_⟩
  simp only [Session.publishAs, result, reducedResult_failing]

theorem onAgent {α : Type} {operation : Medium → Agent → Medium × Agent × Except Error α}
    (own : selection.agents index)
    (broker : (operation rest.network.medium (agent.reduced selection)).1.broker =
      (operation session.network.medium agent).1.broker.reduced selection)
    (answer : (operation rest.network.medium (agent.reduced selection)).2 =
      ((operation session.network.medium agent).2.1.reduced selection, (operation session.network.medium agent).2.2))
    (belongs : (operation session.network.medium agent).2.1.Belongs selection true) :
    Agrees party selection (session.onAgent index agent operation fun _ ↦ .done)
      (rest.onAgent (selection.agents.place index) (agent.reduced selection) operation fun _ ↦ .done) := by
  obtain ⟨network, result⟩ := reduces.network.onAgent own broker answer belongs
  refine ⟨{ reduces with network }, ?_⟩
  simp only [Session.onAgent, result, reducedResult_failing]

theorem subscribeAs (own : selection.agents id.agent) (belongs : agent.Belongs selection true)
    (found : session.network.receiver? id = some receiver) :
    Agrees party selection (session.subscribeAs agent id receiver)
      (rest.subscribeAs (agent.reduced selection) (id.reduced selection) (receiver.reduced selection)) := by
  obtain ⟨broker, answer⟩ := Agent.subscribe_reduced belongs reduces.network.broker receiver
  obtain ⟨changed, result⟩ := Prod.mk.inj answer
  have holds : receiver.Belongs selection true := own ▸ reduces.network.belongs_receiver found
  have keeps : (agent.subscribe session.network.medium receiver).2.1.Belongs selection true := by
    intro callback hcallback
    exact holds callback (Agent.callbacks_subscribe session.network.medium agent receiver ▸ hcallback)
  constructor
  · refine { reduces with network := ?_ }
    simp only [Session.subscribeAs, changed]
    apply (reduces.network.exchange own keeps).onMedium
    exact broker
  · simp only [Session.subscribeAs, result, reducedResult_failing]

theorem register {callback : Callback} (own : selection.agents id.agent)
    (found : session.network.receiver? id = some receiver) (belongs : callback.Belongs selection true) :
    (session.register id receiver callback).1.Reduces party selection
        (rest.register (id.reduced selection) (receiver.reduced selection) (callback.reduced selection)).1 ∧
      (rest.register (id.reduced selection) (receiver.reduced selection) (callback.reduced selection)).2 =
        (session.register id receiver callback).2 := by
  have holds : receiver.Belongs selection true := own ▸ reduces.network.belongs_receiver found
  constructor
  · refine { reduces with network := ?_ }
    simp only [Session.register, ← Receiver.reduced_register]
    exact reduces.network.exchange own (holds.register belongs)
  · simp [Session.register, Receiver.register, Receiver.reduced]

theorem awaiting {label : String} (own : selection.agents id.agent)
    (found : session.network.receiver? id = some receiver) (kept : party.waits label = false)
    (new : selection.waits session.network.replies.length) :
    (session.awaiting id receiver label).Reduces party selection
      (rest.awaiting (id.reduced selection) (receiver.reduced selection) label) := by
  have belongs : Callback.Belongs selection true ⟨true, .reply session.network.replies.length⟩ := new
  obtain ⟨registers, -⟩ := reduces.register own found belongs
  have network := registers.network.await new own
  have nexts := reduces.nexts.put kept session.network.replies.length new
  unfold Session.awaiting
  rw [reduces.network.length_replies]
  exact { registers with network, nexts }

/-- The network with an agent exchanged, and all dispatchers woken. -/
theorem replaceAgent {medium medium' : Medium} {changed : Agent} (own : selection.agents index)
    (broker : medium'.broker = medium.broker.reduced selection) (belongs : changed.Belongs selection true) :
    (Network.wake { session.network with medium, agents := session.network.agents.set index changed }).Reduces selection
      (Network.wake { rest.network with
        medium := medium'
        agents := rest.network.agents.set (selection.agents.place index) (changed.reduced selection) }) :=
  ((reduces.network.withBroker broker).set own belongs).wake

theorem createSender (own : selection.agents index) (belongs : agent.Belongs selection true) {request : ChannelRequest}
    (label : party.senders request.label = false) (options : ChannelOptions) :
    Agrees party selection (session.createSender index agent request options)
      (rest.createSender (selection.agents.place index) (agent.reduced selection) request options) := by
  have alike := Agent.createSender_reduced belongs reduces.network.broker request.name request.kind options
  unfold Session.createSender
  rcases alike.elim with
    ⟨error, refused, refused'⟩ | ⟨⟨medium, changed, _⟩, ⟨medium', _, place⟩, made, made', broker, same⟩
  · rw [refused, refused']
    exact ⟨reduces, rfl⟩
  · obtain ⟨rfl, rfl⟩ := Prod.mk.inj same
    have network := reduces.replaceAgent own broker (belongs.createSender made)
    have known := reduces.senders.labelsOf ⟨index, place⟩ own fun _ kept same ↦ SenderId.reduced_inj own kept same
    have senders := reduces.senders.put label ⟨index, place⟩ own
    have still : (changed.reduced selection).senders = changed.senders := rfl
    simp only [made, made', still]
    cases changed.senders[place]? with
    | none => exact ⟨{ reduces with network, senders }, rfl⟩
    | some sender =>
      refine ⟨{ reduces with network, senders }, ?_⟩
      exact congrArg (fun known ↦ Except.ok (Answer.createdSender known sender)) known

theorem createReceiver (own : selection.agents index) (belongs : agent.Belongs selection true)
    {request : ChannelRequest} (label : party.receivers request.label = false) (options : ChannelOptions) :
    Agrees party selection (session.createReceiver index agent request options)
      (rest.createReceiver (selection.agents.place index) (agent.reduced selection) request options) := by
  have alike := Agent.createReceiver_reduced belongs reduces.network.broker request.name request.kind options
  unfold Session.createReceiver
  rcases alike.elim with
    ⟨error, refused, refused'⟩ | ⟨⟨medium, changed, _⟩, ⟨medium', _, place⟩, made, made', broker, same⟩
  · rw [refused, refused']
    exact ⟨reduces, rfl⟩
  · obtain ⟨rfl, rfl⟩ := Prod.mk.inj same
    have network := reduces.replaceAgent own broker (belongs.createReceiver made)
    have known := reduces.receivers.labelsOf ⟨index, place⟩ own fun _ kept same ↦ ReceiverId.reduced_inj own kept same
    have receivers := reduces.receivers.put label ⟨index, place⟩ own
    have still : (changed.reduced selection).receivers[place]? =
        changed.receivers[place]?.map (Receiver.reduced selection) := List.getElem?_map
    simp only [made, made', still]
    cases changed.receivers[place]? with
    | none => exact ⟨{ reduces with network, receivers }, rfl⟩
    | some receiver =>
      refine ⟨{ reduces with network, receivers }, ?_⟩
      exact congrArg (fun known ↦ Except.ok (Answer.createdReceiver known (receiver.reduced selection))) known

theorem holds (own : selection.agents id.agent) : rest.holds (id.reduced selection) = session.holds id := by
  have agents : rest.network.holdsReceivers (id.reduced selection).agent = session.network.holdsReceivers id.agent := by
    have agents := reduces.network.getElem?_agents own
    unfold Network.holdsReceivers Network.isConnecting
    simp only [ReceiverId.reduced, agents, reduces.network.alone, reduces.network.ready, List.any_filterMap,
      Option.any_map]
    congr 2
    funext task
    cases task with
    | attempt number => rfl
    | close transport connection => cases h : selection.connections connection <;> simp [Task.reduced?, h]
    | dispatch agent source =>
      cases side : selection.agents agent with
      | true => simp [Task.reduced?, side, Choice.place_inj side own]
      | false =>
        have apart : agent ≠ id.agent := fun same ↦ by rw [same, own] at side; cases side
        simp [Task.reduced?, side, apart]
  have labels := reduces.receivers.any id own fun _ kept same ↦ ReceiverId.reduced_inj own kept same
  have itself : rest.network.holdsItself (id.reduced selection) = session.network.holdsItself id := by
    unfold Network.holdsItself
    rw [reduces.network.receiver? own, Option.any_map]
    congr 1
    funext receiver
    simp only [Receiver.reduced, List.any_map]
    congr 1
    funext callback
    rcases callback with ⟨once, handler⟩
    cases handler <;> rfl
  simp only [Session.holds, agents, labels, itself]

theorem length_agents : rest.network.agents.length = selection.agents.place session.network.agents.length := by
  rw [reduces.network.agents, List.length_map, Choice.length_keep]

theorem labelAgent {label : String} (kept : party.agents label = false)
    (new : selection.agents session.network.agents.length) (belongs : agent.Belongs selection true) :
    (session.labelAgent label agent).Reduces party selection (rest.labelAgent label (agent.reduced selection)) := by
  have joined := (reduces.network.join new belongs).wake
  have agents := reduces.agents.put kept session.network.agents.length new
  unfold Session.labelAgent
  rw [reduces.agents.get? kept, reduces.length_agents]
  cases h : session.agents.get? label with
  | none => exact { reduces with network := joined, agents }
  | some old =>
    have own : selection.agents old := by rw [reduces.agents.mark_of_get? h, kept]; rfl
    exact { reduces with network := joined.letGo own (.inl rfl), agents }

theorem build {label : String} {builder : AgentBuilder} (kept : party.agents label = false)
    (plain : ∀ transport, builder.transport = some transport → transport = .plain)
    (brings : Brings selection true session (session.build label builder).1) :
    Agrees party selection (session.build label builder) (rest.build label builder) := by
  obtain ⟨adds, joins⟩ := brings.build
  obtain ⟨broker, answer⟩ := AgentBuilder.build_reduced plain reduces.network.broker adds
  rcases built : builder.build session.network.medium label session.network.agents.length with ⟨medium, error | agent⟩
  all_goals
    rcases built' : builder.build rest.network.medium label (selection.agents.place session.network.agents.length) with
      ⟨medium', result⟩
    rw [built, built'] at broker answer
    rw [← reduces.length_agents] at built'
  · obtain rfl : result = .error error := answer
    rw [build_of_error built, build_of_error built']
    exact ⟨{ reduces with network := reduces.network.withBroker broker }, rfl⟩
  · obtain rfl : result = .ok (agent.reduced selection) := answer
    have belongs : agent.Belongs selection true := AgentBuilder.belongs_build plain adds (by rw [built])
    have new := joins (by rw [built]; rfl)
    have changed : Reduces party selection (session.onNetwork fun network ↦ { network with medium })
        (rest.onNetwork fun network ↦ { network with medium := medium' }) :=
      { reduces with network := reduces.network.withBroker broker }
    rw [build_eq built, build_eq built']
    exact ⟨changed.labelAgent kept new belongs, rfl⟩

theorem poll {ticket : Nat} (own : selection.waits ticket) :
    rest.poll (selection.waits.place ticket) = session.poll ticket := by
  unfold Session.poll
  rw [reduces.network.replies, List.getElem?_map, Choice.getElem?_keep own]
  cases h : session.network.replies[ticket]? with
  | none => rfl
  | some reply =>
    cases reply with
    | delivered delivery => rfl
    | waiting id =>
      have own' : selection.agents id.agent := (reduces.network.waits ticket id h).symm.trans own
      simp only [Option.map_some, Reply.reduced, reduces.holds own']

/-! ## Parts of requests that are left out -/

theorem attempt_bind_left_out {α : Type} {found : Except Refusal α}
    {next : α → Except Refusal (Session × Except Refusal Answer)}
    (h : ∀ thing, found = .ok thing → (session.attempt (next thing)).1.Reduces party selection rest) :
    (session.attempt (found >>= next)).1.Reduces party selection rest := by
  cases found with
  | error refusal => exact reduces
  | ok thing => exact h thing rfl

theorem onAgent_left_out {α : Type} {operation : Medium → Agent → Medium × Agent × Except Error α}
    (awake : rest.network.Awake) (left : selection.agents index = false)
    (broker : (operation session.network.medium agent).1.broker.reduced selection =
      session.network.medium.broker.reduced selection)
    (belongs : (operation session.network.medium agent).2.1.Belongs selection false) (answer : α → Answer) :
    (session.onAgent index agent operation answer).1.Reduces party selection rest :=
  { reduces with network := reduces.network.onAgent_left_out awake left broker belongs }

theorem subscribeAs_left_out (awake : rest.network.Awake) (left : selection.agents id.agent = false)
    (belongs : agent.Belongs selection false) (found : session.network.receiver? id = some receiver) :
    (session.subscribeAs agent id receiver).1.Reduces party selection rest := by
  have holds : receiver.Belongs selection false := left ▸ reduces.network.belongs_receiver found
  have keeps : (agent.subscribe session.network.medium receiver).2.1.Belongs selection false := by
    intro callback hcallback
    exact holds callback (Agent.callbacks_subscribe session.network.medium agent receiver ▸ hcallback)
  refine { reduces with network := ?_ }
  simp only [Session.subscribeAs]
  apply (reduces.network.exchange_left_out left keeps).onMedium_left_out awake
  exact Agent.subscribe_left_out belongs session.network.medium receiver

theorem register_left_out {callback : Callback} (left : selection.agents id.agent = false)
    (found : session.network.receiver? id = some receiver) (belongs : callback.Belongs selection false) :
    (session.register id receiver callback).1.Reduces party selection rest := by
  have holds : receiver.Belongs selection false := left ▸ reduces.network.belongs_receiver found
  exact { reduces with network := reduces.network.exchange_left_out left (holds.register belongs) }

theorem awaiting_left_out {label : String} (left : selection.agents id.agent = false)
    (found : session.network.receiver? id = some receiver) (left' : party.waits label)
    (new : selection.waits session.network.replies.length = false) :
    (session.awaiting id receiver label).Reduces party selection rest := by
  have belongs : Callback.Belongs selection false ⟨true, .reply session.network.replies.length⟩ := new
  have registers := reduces.register_left_out left found belongs
  have network := registers.network.await_left_out new left
  have nexts := reduces.nexts.put_left_out left' session.network.replies.length new
  exact { registers with network, nexts }

theorem replaceAgent_left_out {medium : Medium} {changed : Agent} (awake : rest.network.Awake)
    (left : selection.agents index = false)
    (broker : medium.broker.reduced selection = session.network.medium.broker.reduced selection)
    (belongs : changed.Belongs selection false) :
    (Network.wake { session.network with
      medium
      agents := session.network.agents.set index changed }).Reduces selection rest.network := by
  have exchanged : Network.Reduces selection { session.network with medium } rest.network :=
    { reduces.network with broker := reduces.network.broker.trans broker.symm }
  have woken := (exchanged.set_left_out left belongs).wake
  rw [awake.wake] at woken
  exact woken

theorem createSender_left_out (awake : rest.network.Awake) (left : selection.agents index = false)
    (belongs : agent.Belongs selection false) {request : ChannelRequest} (label : party.senders request.label)
    (options : ChannelOptions) : (session.createSender index agent request options).1.Reduces party selection rest := by
  unfold Session.createSender
  cases made : agent.createSender session.network.medium request.name request.kind options with
  | error error => exact reduces
  | ok created =>
    obtain ⟨medium, changed, place⟩ := created
    have broker : medium.broker = session.network.medium.broker := (Agent.createSender_cases made).1
    have network := reduces.replaceAgent_left_out awake left (by rw [broker]) (belongs.createSender made)
    have senders := reduces.senders.put_left_out label ⟨index, place⟩ left
    dsimp only
    split <;> exact { reduces with network, senders }

theorem createReceiver_left_out (awake : rest.network.Awake) (left : selection.agents index = false)
    (belongs : agent.Belongs selection false) {request : ChannelRequest} (label : party.receivers request.label)
    (options : ChannelOptions) :
    (session.createReceiver index agent request options).1.Reduces party selection rest := by
  unfold Session.createReceiver
  cases made : agent.createReceiver session.network.medium request.name request.kind options with
  | error error => exact reduces
  | ok created =>
    obtain ⟨medium, changed, place⟩ := created
    have broker := Agent.createReceiver_left_out belongs made
    have network := reduces.replaceAgent_left_out awake left broker (belongs.createReceiver made)
    have receivers := reduces.receivers.put_left_out label ⟨index, place⟩ left
    dsimp only
    split <;> exact { reduces with network, receivers }

theorem labelAgent_left_out {label : String} (awake : rest.network.Awake) (left : party.agents label)
    (new : selection.agents session.network.agents.length = false) (belongs : agent.Belongs selection false) :
    (session.labelAgent label agent).Reduces party selection rest := by
  have joined := (reduces.network.join_left_out new belongs).wake
  rw [awake.wake] at joined
  have agents := reduces.agents.put_left_out left session.network.agents.length new
  unfold Session.labelAgent
  cases h : session.agents.get? label with
  | none => exact { reduces with network := joined, agents }
  | some old =>
    have own : selection.agents old = false := by rw [reduces.agents.mark_of_get? h, left]; rfl
    exact { reduces with network := joined.letGo_left_out awake own (.inl rfl), agents }

theorem build_left_out {label : String} {builder : AgentBuilder} (awake : rest.network.Awake)
    (left : party.agents label) (plain : ∀ transport, builder.transport = some transport → transport = .plain)
    (brings : Brings selection false session (session.build label builder).1) :
    (session.build label builder).1.Reduces party selection rest := by
  obtain ⟨adds, joins⟩ := brings.build
  have broker := AgentBuilder.build_left_out plain adds
  rcases built : builder.build session.network.medium label session.network.agents.length with ⟨medium, result⟩
  rw [built] at broker
  have changed : Reduces party selection (session.onNetwork fun network ↦ { network with medium }) rest :=
    { reduces with network := { reduces.network with broker := reduces.network.broker.trans broker.symm } }
  cases result with
  | error error =>
    rw [build_of_error built]
    exact changed
  | ok agent =>
    have belongs : agent.Belongs selection false := AgentBuilder.belongs_build plain adds (by rw [built])
    have new := joins (by rw [built]; rfl)
    rw [build_eq built]
    exact changed.labelAgent_left_out awake left new belongs

end Reduces

end Session

end PubSub
