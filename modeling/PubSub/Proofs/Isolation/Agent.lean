import PubSub.Proofs.Agent.Registry
import PubSub.Proofs.Broker.Liveness
import PubSub.Proofs.Isolation.Callback
import PubSub.Proofs.Session.Connections
/-!
# An agent without some of the others

An agent that is kept does the same on a broker without the connections that are left out, but for the numbers of
connections. An agent that is left out does nothing to what is left of the broker.
-/

namespace PubSub

variable {selection : Selection} {medium rest : Medium} {agent : Agent} {receiver : Receiver} {kept : Bool}

/-- Two results are alike if both are the same error, or both are values that are related. -/
def Alike {ε α β : Type} (related : α → β → Prop) : Except ε α → Except ε β → Prop
  | .ok first, .ok second => related first second
  | .error first, .error second => first = second
  | _, _ => False

theorem Alike.bind {ε α β γ : Type} {related : β → γ → Prop} (first : Except ε α) {next : α → Except ε β}
    {next' : α → Except ε γ} (alike : ∀ thing, first = .ok thing → Alike related (next thing) (next' thing)) :
    Alike related (first >>= next) (first >>= next') := by
  cases first with
  | error error => rfl
  | ok thing => exact alike thing rfl

theorem Alike.elim {ε α β : Type} {related : α → β → Prop} {first : Except ε α} {second : Except ε β}
    (alike : Alike related first second) :
    (∃ error, first = .error error ∧ second = .error error) ∨
      ∃ thing thing', first = .ok thing ∧ second = .ok thing' ∧ related thing thing' := by
  rcases first with error | thing <;> rcases second with error' | thing'
  · exact .inl ⟨error, rfl, congrArg Except.error (Eq.symm alike)⟩
  · exact False.elim alike
  · exact False.elim alike
  · exact .inr ⟨thing, thing', rfl, rfl, alike⟩

/-! ## What is known by its number -/

def Connection.reduced (selection : Selection) (connection : Connection) : Connection :=
  { connection with handle := connection.handle.map selection.connections.place }

def Dispatcher.reduced (selection : Selection) (dispatcher : Dispatcher) : Dispatcher :=
  { dispatcher with source := selection.connections.place dispatcher.source }

/-- The agent as it is once others are left out: the same but for the numbers of connections and waits. -/
def Agent.reduced (selection : Selection) (agent : Agent) : Agent :=
  { agent with
    clientId := agent.clientId.reduced selection
    connection := agent.connection.reduced selection
    receivers := agent.receivers.map (Receiver.reduced selection)
    dispatcher := agent.dispatcher.map (Dispatcher.reduced selection) }

/-- An agent on the broker itself holds connections and waits of its own side only. -/
structure Agent.Belongs (selection : Selection) (kept : Bool) (agent : Agent) : Prop where
  plain : agent.transport = .plain
  handle : ∀ connection, agent.connection.handle = some connection → selection.connections connection = kept
  source : ∀ dispatcher, agent.dispatcher = some dispatcher → selection.connections dispatcher.source = kept
  callbacks : ∀ receiver ∈ agent.receivers, receiver.Belongs selection kept

namespace Medium

variable {connection : ConnectionId}

theorem subscribe_plain (live : medium.broker.isLive connection) (pattern : String) (qos : QoS) :
    ∃ broker, medium.broker.subscribe connection pattern qos = .ok broker ∧
      medium.subscribe .plain connection pattern qos = ({ medium with broker }, .ok ()) := by
  have granted : ∃ broker, medium.broker.subscribe connection pattern qos = .ok broker := by
    unfold Broker.subscribe
    rw [if_pos live]
    exact ⟨_, rfl⟩
  obtain ⟨broker, granted⟩ := granted
  refine ⟨broker, granted, ?_⟩
  simp [Medium.subscribe, record, settleRequest, subscribeFault, scriptOf, Script.clear, Script.fault, granted, bind,
    Except.bind, pure, Except.pure, Except.mapError]

theorem publish_plain (live : medium.broker.isLive connection) (message : Message) (options : PublishOptions) :
    medium.publish .plain connection message options =
      ({ medium with broker := medium.broker.route message options.retain }, .ok ()) := by
  simp [Medium.publish, record, settleRequest, scriptOf, Script.clear, Script.fault, Broker.publish, live, bind,
    Except.bind, pure, Except.pure, Except.mapError]

theorem close_plain (connection : ConnectionId) : medium.close .plain connection =
    ({ medium with broker := medium.broker.close connection }, .ok ()) := by
  simp [Medium.close, record, scriptOf, Script.clear, Script.fault, pure, Except.pure]

theorem answerConnect_plain {transport : Transport} (plain : transport = .plain) (medium : Medium)
    (options : BrokerOptions) (clientId : ClientId) : medium.answerConnect transport options clientId =
      ((medium.broker.connect options clientId).map fun accepted ↦
        ({ medium with broker := accepted.1 }, accepted.2)).mapError .broker := by
  subst plain
  simp only [Medium.answerConnect, scriptOf, Script.clear, Script.fault, List.isEmpty_nil, if_true, bind, Except.bind,
    pure, Except.pure]
  cases medium.broker.connect options clientId <;> rfl

end Medium

namespace Connection

variable (connection : Connection) (generation : Nat)

theorem reject_reduced :
    (connection.reduced selection).reject generation = (connection.reject generation).reduced selection := by
  have current : (connection.reduced selection).isCurrent generation = connection.isCurrent generation := rfl
  unfold reject
  rw [current]
  split <;> rfl

theorem accept?_reduced (handle : ConnectionId) :
    (connection.reduced selection).accept? generation (selection.connections.place handle) =
      (connection.accept? generation handle).map (reduced selection) := by
  have current : (connection.reduced selection).isCurrent generation = connection.isCurrent generation := rfl
  unfold accept?
  rw [current]
  split <;> rfl

end Connection

/-! ## Agents that are kept -/

namespace Agent

theorem isLive_of_liveHandle? (belongs : agent.Belongs selection kept) {handle : ConnectionId}
    (h : agent.liveHandle? medium = some handle) :
    medium.broker.isLive handle ∧ selection.connections handle = kept := by
  unfold liveHandle? Connection.liveHandle? at h
  split at h
  · rename_i connected
    rw [Connection.isConnected, h, Option.any_some, belongs.plain, Medium.isLive_plain, Bool.and_eq_true] at connected
    exact ⟨connected.2, belongs.handle handle h⟩
  · cases h

section Kept

variable (belongs : agent.Belongs selection true) (same : rest.broker = medium.broker.reduced selection)

include belongs same

theorem isLive_reduced {handle : ConnectionId} (held : agent.connection.handle = some handle) :
    rest.isLive (agent.reduced selection).transport (selection.connections.place handle) =
      medium.isLive agent.transport handle := by
  have plain : (agent.reduced selection).transport = .plain := belongs.plain
  rw [plain, belongs.plain, Medium.isLive_plain, Medium.isLive_plain, same,
    Broker.isLive_reduced (belongs.handle handle held)]

theorem isConnected_reduced : (agent.reduced selection).isConnected rest = agent.isConnected medium := by
  have handle : (agent.reduced selection).connection.handle =
      agent.connection.handle.map selection.connections.place := rfl
  have state : (agent.reduced selection).connection.state = agent.connection.state := rfl
  unfold isConnected Connection.isConnected
  rw [handle, state]
  cases held : agent.connection.handle with
  | none => rfl
  | some handle => simp only [Option.map_some, Option.any_some, isLive_reduced belongs same held]

theorem liveHandle?_reduced : (agent.reduced selection).liveHandle? rest =
    (agent.liveHandle? medium).map selection.connections.place := by
  have connected : (agent.reduced selection).connection.isConnected (rest.isLive (agent.reduced selection).transport) =
      agent.connection.isConnected (medium.isLive agent.transport) := isConnected_reduced belongs same
  unfold liveHandle? Connection.liveHandle?
  rw [connected]
  split <;> rfl

theorem publish_reduced (message : Message) (options : PublishOptions) :
    ((agent.reduced selection).publish rest message options).1.broker =
      (agent.publish medium message options).1.broker.reduced selection ∧
    ((agent.reduced selection).publish rest message options).2 = (agent.publish medium message options).2 := by
  unfold publish
  rw [liveHandle?_reduced belongs same]
  cases h : agent.liveHandle? medium with
  | none => exact ⟨same, rfl⟩
  | some handle =>
    obtain ⟨live, kept⟩ := isLive_of_liveHandle? belongs h
    have live' : rest.broker.isLive (selection.connections.place handle) := by
      rw [same, Broker.isLive_reduced kept, live]
    have plain : (agent.reduced selection).transport = .plain := belongs.plain
    simp only [Option.map_some, plain, belongs.plain, Medium.publish_plain live, Medium.publish_plain live', same,
      Broker.reduced_route]
    exact ⟨trivial, trivial⟩

theorem subscribe_reduced (receiver : Receiver) :
    ((agent.reduced selection).subscribe rest (receiver.reduced selection)).1.broker =
      (agent.subscribe medium receiver).1.broker.reduced selection ∧
    ((agent.reduced selection).subscribe rest (receiver.reduced selection)).2 =
      ((agent.subscribe medium receiver).2.1.reduced selection, (agent.subscribe medium receiver).2.2) := by
  unfold subscribe
  rw [liveHandle?_reduced belongs same]
  cases h : agent.liveHandle? medium with
  | none => exact ⟨same, rfl⟩
  | some handle =>
    obtain ⟨live, kept⟩ := isLive_of_liveHandle? belongs h
    have live' : rest.broker.isLive (selection.connections.place handle) := by
      rw [same, Broker.isLive_reduced kept, live]
    have plain : (agent.reduced selection).transport = .plain := belongs.plain
    have pattern : (receiver.reduced selection).pattern = receiver.pattern := rfl
    have qos : (receiver.reduced selection).qos = receiver.qos := rfl
    obtain ⟨broker, granted, subscribed⟩ := Medium.subscribe_plain live receiver.pattern.text receiver.qos
    obtain ⟨broker', granted', subscribed'⟩ := Medium.subscribe_plain live' receiver.pattern.text receiver.qos
    rw [same, Broker.subscribe_reduced kept, granted] at granted'
    obtain rfl : broker.reduced selection = broker' := Except.ok.inj granted'
    simp only [Option.map_some, plain, belongs.plain, pattern, qos, subscribed, subscribed']
    exact ⟨trivial, rfl⟩

end Kept

theorem subscribeEach_reduced (belongs : agent.Belongs selection true)
    (same : rest.broker = medium.broker.reduced selection) (receivers : List Receiver) :
    ((agent.reduced selection).subscribeEach rest (receivers.map (Receiver.reduced selection))).1.broker =
      (agent.subscribeEach medium receivers).1.broker.reduced selection ∧
    ((agent.reduced selection).subscribeEach rest (receivers.map (Receiver.reduced selection))).2 =
      (agent.subscribeEach medium receivers).2.map (Receiver.reduced selection) := by
  induction receivers generalizing medium rest with
  | nil => exact ⟨same, rfl⟩
  | cons receiver others ih =>
    obtain ⟨broker, answer⟩ := subscribe_reduced belongs same receiver
    obtain ⟨changed, result⟩ := Prod.mk.inj answer
    simp only [List.map_cons, subscribeEach, changed, result]
    split
    · obtain ⟨broker', others'⟩ := ih broker
      exact ⟨broker', by rw [others']⟩
    · have failed : ((agent.reduced selection).subscribe rest (receiver.reduced selection)).1.fail.broker =
          (agent.subscribe medium receiver).1.fail.broker.reduced selection := broker
      obtain ⟨broker', others'⟩ := ih failed
      exact ⟨broker', by rw [others']⟩

theorem Belongs.started (belongs : agent.Belongs selection kept) {handle : ConnectionId} {connection : Connection}
    (own : selection.connections handle = kept) (held : connection.handle = some handle) :
    Agent.Belongs selection kept { agent with connection, dispatcher := some ⟨handle, .busy⟩ } where
  plain := belongs.plain
  handle other has := by
    obtain rfl : handle = other := Option.some.inj (held.symm.trans has)
    exact own
  source dispatcher reads := by
    obtain rfl := Option.some.inj reads
    exact own
  callbacks := belongs.callbacks

theorem completeConnect_reduced (belongs : agent.Belongs selection true)
    (same : rest.broker = medium.broker.reduced selection) (pending : Pending)
    (new : ∀ after connection, medium.broker.connect pending.options agent.clientId = .ok (after, connection) →
      selection.connections connection) :
    ((agent.reduced selection).completeConnect rest pending).1.broker =
      (agent.completeConnect medium pending).1.broker.reduced selection ∧
    ((agent.reduced selection).completeConnect rest pending).2 =
      ((agent.completeConnect medium pending).2.1.reduced selection, (agent.completeConnect medium pending).2.2) := by
  have connection : (agent.reduced selection).connection = agent.connection.reduced selection := rfl
  have closes (medium : Medium) (handle : ConnectionId) : (medium.close agent.transport handle).1.broker =
      medium.broker.close handle := by rw [belongs.plain, Medium.close_plain]
  have plain : (agent.reduced selection).transport = .plain := belongs.plain
  have name : (agent.reduced selection).clientId = agent.clientId.reduced selection := rfl
  unfold completeConnect
  rw [Medium.answerConnect_plain belongs.plain, Medium.answerConnect_plain plain, same, connection, name,
    Broker.connect_reduced new]
  cases accepted : medium.broker.connect pending.options agent.clientId with
  | error error =>
    refine ⟨same, ?_⟩
    simp only [Except.map, Except.mapError, Connection.reject_reduced]
    rfl
  | ok answer =>
    obtain ⟨broker, handle⟩ := answer
    have own : selection.connections handle := new broker handle accepted
    simp only [Except.map, Except.mapError, Connection.accept?_reduced]
    cases taken : agent.connection.accept? pending.generation handle with
    | none =>
      -- Another request has come in between, and the new connection is closed again.
      refine ⟨?_, rfl⟩
      have left : ({ medium with broker } : Medium).warn.broker = broker := rfl
      rw [closes, left, Broker.reduced_close own]
      exact closes _ _
    | some connected =>
      have held : connected.handle = some handle := by
        unfold Connection.accept? at taken
        split at taken
        · exact congrArg Connection.handle (Option.some.inj taken).symm
        · cases taken
      let started : Agent := { agent with connection := connected, dispatcher := some ⟨handle, .busy⟩ }
      have belongs' : started.Belongs selection true := belongs.started own held
      have same' : ({ rest with broker := broker.reduced selection } : Medium).broker =
          ({ medium with broker } : Medium).broker.reduced selection := rfl
      obtain ⟨broker', receivers⟩ := subscribeEach_reduced belongs' same' agent.receivers
      let done (receivers : List Receiver) : Agent × Except Error Unit :=
        ({ started.reduced selection with receivers }, .ok ())
      exact ⟨broker', congrArg done receivers⟩

theorem beginConnect_reduced (belongs : agent.Belongs selection true)
    (same : rest.broker = medium.broker.reduced selection) (overrides : BrokerOverrides) :
    (∃ error, agent.beginConnect medium overrides = .error error ∧
      (agent.reduced selection).beginConnect rest overrides = .error error) ∨
    ∃ asked asked' begun pending, agent.beginConnect medium overrides = .ok (asked, begun, pending) ∧
      (agent.reduced selection).beginConnect rest overrides = .ok (asked', begun.reduced selection, pending) ∧
      asked'.broker = asked.broker.reduced selection := by
  have connected : (agent.reduced selection).connection.isConnected (rest.isLive (agent.reduced selection).transport) =
      agent.connection.isConnected (medium.isLive agent.transport) := isConnected_reduced belongs same
  by_cases busy : agent.connection.state = .connecting ∨ agent.connection.isConnected (medium.isLive agent.transport)
  · have busy' : (agent.reduced selection).connection.state = .connecting ∨
        (agent.reduced selection).connection.isConnected (rest.isLive (agent.reduced selection).transport) := by
      rw [connected]
      exact busy
    left
    unfold beginConnect
    rw [Connection.begin?_of_busy busy, Connection.begin?_of_busy busy']
    exact ⟨_, rfl, rfl⟩
  · have idle' : ¬((agent.reduced selection).connection.state = .connecting ∨
        (agent.reduced selection).connection.isConnected (rest.isLive (agent.reduced selection).transport)) := by
      rw [connected]
      exact busy
    obtain ⟨found, began⟩ : ∃ found, agent.beginConnect medium overrides = .ok found := by
      unfold beginConnect
      rw [Connection.begin?_of_idle busy]
      exact ⟨_, rfl⟩
    obtain ⟨found', began'⟩ : ∃ found, (agent.reduced selection).beginConnect rest overrides = .ok found := by
      unfold beginConnect
      rw [Connection.begin?_of_idle idle']
      exact ⟨_, rfl⟩
    obtain ⟨asked, begun, pending⟩ := found
    obtain ⟨asked', begun', pending'⟩ := found'
    obtain ⟨rfl, rfl, broker⟩ := beginConnect_eq_ok began
    obtain ⟨rfl, rfl, broker'⟩ := beginConnect_eq_ok began'
    refine .inr ⟨asked, asked', _, _, began, began', ?_⟩
    have handle : (agent.reduced selection).connection.handle =
        agent.connection.handle.map selection.connections.place := rfl
    rw [broker, broker', handle, same]
    cases held : agent.connection.handle with
    | none => rfl
    | some handle => exact (Broker.reduced_close (belongs.handle handle held)).symm

/-- A connect that is answered with a connection adds it to those of the broker, whatever comes of it. -/
theorem lt_length_completeConnect {pending : Pending} {answered : Medium} {handle : ConnectionId}
    (h : medium.answerConnect agent.transport pending.options agent.clientId = .ok (answered, handle)) :
    medium.broker.clients.length < (agent.completeConnect medium pending).1.broker.clients.length := by
  have accepted : answered.broker.clients.length = medium.broker.clients.length + 1 := by
    rw [(answerConnect_eq_ok h).2]
    simp
  have le : answered.broker.clients.length ≤ (agent.completeConnect medium pending).1.broker.clients.length := by
    unfold completeConnect
    rw [h]
    simp only
    split
    · simp [Medium.broker_close, Broker.close, Broker.modifyClient, Medium.warn, Medium.observe]
    · have spares {started : Agent} {receivers : List Receiver} : answered.broker.Spares (fun _ ↦ False) false
          (started.subscribeEach answered receivers).1.broker := spares_subscribeEach _ _ _
      exact spares.length_le
  omega

/-- The connections that an operation adds are of the side of the agent that it is an operation of. -/
def Adds (selection : Selection) (kept : Bool) (before after : Broker) : Prop :=
  ∀ connection, before.clients.length ≤ connection → connection < after.clients.length →
    selection.connections connection = kept

theorem new_of_adds {pending : Pending} (belongs : agent.Belongs selection kept)
    (adds : Adds selection kept medium.broker (agent.completeConnect medium pending).1.broker) {after : Broker}
    {connection : ConnectionId} (h : medium.broker.connect pending.options agent.clientId = .ok (after, connection)) :
    selection.connections connection = kept := by
  have answer : medium.answerConnect agent.transport pending.options agent.clientId =
      .ok ({ medium with broker := after }, connection) := by
    rw [Medium.answerConnect_plain belongs.plain, h]
    rfl
  have same := (answerConnect_eq_ok answer).1
  exact adds connection (Nat.le_of_eq same.symm) (same ▸ lt_length_completeConnect answer)

theorem adds_of_begun {asked : Medium} {begun : Agent} {pending : Pending} {overrides : BrokerOverrides}
    (began : agent.beginConnect medium overrides = .ok (asked, begun, pending))
    (adds : Adds selection kept medium.broker (agent.connect medium overrides).1.broker) :
    Adds selection kept asked.broker (begun.completeConnect asked pending).1.broker := by
  have length : asked.broker.clients.length = medium.broker.clients.length := by
    rw [(beginConnect_eq_ok began).2.2]
    cases agent.connection.handle with
    | none => rfl
    | some handle => simp [Broker.close, Broker.modifyClient]
  have connect : agent.connect medium overrides = begun.completeConnect asked pending := by
    rw [Agent.connect, began]
  intro connection le lt
  exact adds connection (length ▸ le) (connect ▸ lt)

theorem Belongs.begun {asked : Medium} {begun : Agent} {pending : Pending} {overrides : BrokerOverrides}
    (belongs : agent.Belongs selection kept)
    (began : agent.beginConnect medium overrides = .ok (asked, begun, pending)) :
    begun.Belongs selection kept := by
  rw [(beginConnect_eq_ok began).1]
  exact ⟨belongs.plain, nofun, belongs.source, belongs.callbacks⟩

theorem connect_reduced (belongs : agent.Belongs selection true)
    (same : rest.broker = medium.broker.reduced selection) (overrides : BrokerOverrides)
    (adds : Adds selection true medium.broker (agent.connect medium overrides).1.broker) :
    ((agent.reduced selection).connect rest overrides).1.broker =
      (agent.connect medium overrides).1.broker.reduced selection ∧
    ((agent.reduced selection).connect rest overrides).2 =
      ((agent.connect medium overrides).2.1.reduced selection, (agent.connect medium overrides).2.2) := by
  rcases beginConnect_reduced belongs same overrides with
    ⟨error, refused, refused'⟩ | ⟨asked, asked', begun, pending, began, began', broker⟩
  · unfold connect
    rw [refused, refused']
    exact ⟨same, rfl⟩
  · have completes := completeConnect_reduced (belongs.begun began) broker pending fun _ _ h ↦
      new_of_adds (belongs.begun began) (adds_of_begun began adds) h
    unfold connect
    rw [began, began']
    exact completes

theorem disconnect_reduced (belongs : agent.Belongs selection true)
    (same : rest.broker = medium.broker.reduced selection) :
    ((agent.reduced selection).disconnect rest).1.broker = (agent.disconnect medium).1.broker.reduced selection ∧
    ((agent.reduced selection).disconnect rest).2 = (agent.disconnect medium).2.reduced selection := by
  obtain ⟨broker, after⟩ := disconnect_eq medium agent
  obtain ⟨broker', after'⟩ := disconnect_eq rest (agent.reduced selection)
  have handle : (agent.reduced selection).connection.handle =
      agent.connection.handle.map selection.connections.place := rfl
  rw [broker, broker', after, after', handle, same]
  constructor
  · cases held : agent.connection.handle with
    | none => rfl
    | some handle => exact (Broker.reduced_close (belongs.handle handle held)).symm
  · simp [reduced, Connection.reduced, Function.comp_def, Receiver.reduced]

/-- The results of creating a channel with and without what is left out. -/
def Creates (selection : Selection) (created : Medium × Agent × Nat) (created' : Medium × Agent × Nat) : Prop :=
  created'.1.broker = created.1.broker.reduced selection ∧
    created'.2 = (created.2.1.reduced selection, created.2.2)

section Kept

variable (belongs : agent.Belongs selection true) (same : rest.broker = medium.broker.reduced selection)
  (name : String) (kind : PayloadKind) (options : ChannelOptions)

include belongs same

theorem requireConnection_reduced (direction : Direction) :
    (agent.reduced selection).requireConnection rest name direction =
      agent.requireConnection medium name direction := by
  have auto : (agent.reduced selection).autoConnect = agent.autoConnect := rfl
  rw [requireConnection, isConnected_reduced belongs same, auto, requireConnection]

theorem createSender_reduced : Alike (Creates selection) (agent.createSender medium name kind options)
    ((agent.reduced selection).createSender rest name kind options) := by
  have new : (agent.reduced selection).newSender name kind options = agent.newSender name kind options := rfl
  unfold createSender
  rw [requireConnection_reduced belongs same, new]
  refine .bind _ fun _ _ ↦ .bind _ fun found _ ↦ ?_
  cases found with
  | some index => exact ⟨same, rfl⟩
  | none => exact .bind _ fun _ _ ↦ .bind _ fun sender _ ↦ ⟨same, rfl⟩

theorem createReceiver_reduced : Alike (Creates selection) (agent.createReceiver medium name kind options)
    ((agent.reduced selection).createReceiver rest name kind options) := by
  have new : (agent.reduced selection).newReceiver name kind options = agent.newReceiver name kind options := rfl
  have known : (agent.reduced selection).receivers.map (fun receiver ↦ (receiver.definition.name, receiver.kind)) =
      agent.receivers.map fun receiver ↦ (receiver.definition.name, receiver.kind) := by
    simp [reduced, Receiver.reduced, Function.comp_def]
  unfold createReceiver
  rw [requireConnection_reduced belongs same, isConnected_reduced belongs same, new, known]
  refine .bind _ fun _ _ ↦ .bind _ fun found _ ↦ ?_
  cases found with
  | some index => exact ⟨same, rfl⟩
  | none =>
    refine .bind _ fun _ _ ↦ .bind _ fun receiver created ↦ ?_
    have bare : receiver.reduced selection = receiver := by
      rw [← (entry_newReceiver created).2]
      rfl
    obtain ⟨broker, answer⟩ := subscribe_reduced belongs same receiver
    rw [bare] at broker answer
    obtain ⟨subscribed, result⟩ := Prod.mk.inj answer
    by_cases connected : agent.isConnected medium
    · simp only [connected, if_true, subscribed, result]
      refine ⟨?_, ?_⟩
      · split
        · exact broker
        · exact broker
      · simp [reduced]
    · simp only [connected]
      exact ⟨same, by simp [reduced, bare]⟩

end Kept

/-! ## Agents that are left out -/

section LeftOut

variable (belongs : agent.Belongs selection false)

include belongs

theorem subscribe_left_out (medium : Medium) (receiver : Receiver) :
    (agent.subscribe medium receiver).1.broker.reduced selection = medium.broker.reduced selection := by
  rcases subscribe_cases medium agent receiver with ⟨same, -⟩ | ⟨handle, held, -, subscribed, -⟩
  · rw [same]
  · exact Broker.reduced_of_subscribe (belongs.handle handle held) subscribed

theorem subscribeEach_left_out (medium : Medium) (receivers : List Receiver) :
    (agent.subscribeEach medium receivers).1.broker.reduced selection = medium.broker.reduced selection := by
  induction receivers generalizing medium with
  | nil => rfl
  | cons receiver rest ih =>
    have first := subscribe_left_out belongs medium receiver
    simp only [subscribeEach]
    split
    · rw [ih, first]
    · rw [ih]
      exact first

theorem completeConnect_left_out (medium : Medium) (pending : Pending)
    (adds : Adds selection false medium.broker (agent.completeConnect medium pending).1.broker) :
    (agent.completeConnect medium pending).1.broker.reduced selection = medium.broker.reduced selection := by
  rcases completeConnect_cases medium agent pending with
    ⟨broker, -⟩ | ⟨answered, handle, answer, ends⟩
  · rw [broker]
  · have place := (answerConnect_eq_ok answer).1
    have own : selection.connections handle = false :=
      adds handle (Nat.le_of_eq place.symm) (place ▸ lt_length_completeConnect answer)
    have accepted : answered.broker.reduced selection = medium.broker.reduced selection := by
      have left : selection.connections medium.broker.clients.length = false := place ▸ own
      rw [(answerConnect_eq_ok answer).2]
      simp only [Broker.reduced, Choice.keep_concat_of_left_out left]
    rcases ends with ⟨-, broker, -⟩ | ⟨-, done⟩
    · rw [broker, Broker.reduced_close_of_left_out own, accepted]
    · rw [done]
      exact (subscribeEach_left_out (belongs.started own rfl) answered agent.receivers).trans accepted

theorem connect_left_out (medium : Medium) (overrides : BrokerOverrides)
    (adds : Adds selection false medium.broker (agent.connect medium overrides).1.broker) :
    (agent.connect medium overrides).1.broker.reduced selection = medium.broker.reduced selection := by
  rcases connect_cases medium agent overrides with ⟨same, -⟩ | ⟨asked, begun, pending, began, answered⟩
  · rw [same]
  · have asks : asked.broker.reduced selection = medium.broker.reduced selection := by
      rw [(beginConnect_eq_ok began).2.2]
      cases held : agent.connection.handle with
      | none => rfl
      | some handle => exact Broker.reduced_close_of_left_out (belongs.handle handle held)
    rw [answered, completeConnect_left_out (belongs.begun began) asked pending (adds_of_begun began adds), asks]

theorem disconnect_left_out (medium : Medium) :
    (agent.disconnect medium).1.broker.reduced selection = medium.broker.reduced selection := by
  rw [(disconnect_eq medium agent).1]
  cases held : agent.connection.handle with
  | none => rfl
  | some handle => exact Broker.reduced_close_of_left_out (belongs.handle handle held)

theorem createReceiver_left_out {name : String} {kind : PayloadKind} {options : ChannelOptions} {after : Medium}
    {changed : Agent} {place : Nat} (h : agent.createReceiver medium name kind options = .ok (after, changed, place)) :
    after.broker.reduced selection = medium.broker.reduced selection := by
  rcases createReceiver_cases h with ⟨same, -⟩ | ⟨receiver, -, -, ⟨same, -⟩ | ⟨same, -⟩⟩
  · rw [same]
  · rw [same]
  · rw [same, subscribe_left_out belongs]

end LeftOut

/-! ## What an agent holds -/

/-- A receiver that is created has no callbacks yet. -/
theorem callbacks_createReceiver {name : String} {kind : PayloadKind} {options : ChannelOptions} {after : Medium}
    {changed : Agent} {place : Nat} (h : agent.createReceiver medium name kind options = .ok (after, changed, place)) :
    changed = agent ∨
      ∃ receiver, receiver.callbacks = [] ∧ changed = { agent with receivers := agent.receivers ++ [receiver] } := by
  obtain ⟨_, -, h⟩ := exists_of_bind_eq_ok h
  obtain ⟨found, -, h⟩ := exists_of_bind_eq_ok h
  cases found with
  | some index =>
    obtain ⟨-, rfl, -⟩ := by simpa using Except.ok.inj h
    exact .inl rfl
  | none =>
    obtain ⟨_, -, h⟩ := exists_of_bind_eq_ok h
    obtain ⟨receiver, hreceiver, h⟩ := exists_of_bind_eq_ok h
    have none : receiver.callbacks = [] := (congrArg Receiver.callbacks (entry_newReceiver hreceiver).2).symm
    by_cases connected : agent.isConnected medium
    · simp only [connected, if_true] at h
      obtain ⟨-, rfl, -⟩ := by simpa using Except.ok.inj h
      exact .inr ⟨_, (callbacks_subscribe medium agent receiver).trans none, rfl⟩
    · simp only [connected] at h
      obtain ⟨-, rfl, -⟩ := by simpa using Except.ok.inj h
      exact .inr ⟨receiver, none, rfl⟩

namespace Belongs

variable (belongs : agent.Belongs selection kept)

include belongs

/-- Receivers may be exchanged for others with the same callbacks. -/
theorem withReceivers {receivers : List Receiver}
    (same : receivers.map Receiver.callbacks = agent.receivers.map Receiver.callbacks) :
    Agent.Belongs selection kept { agent with receivers } where
  plain := belongs.plain
  handle := belongs.handle
  source := belongs.source
  callbacks receiver hreceiver callback hcallback := by
    have hmem : receiver.callbacks ∈ agent.receivers.map Receiver.callbacks :=
      same ▸ List.mem_map_of_mem hreceiver
    obtain ⟨former, hformer, same⟩ := List.mem_map.1 hmem
    exact belongs.callbacks former hformer callback (same ▸ hcallback)

theorem unheld : Agent.Belongs selection kept { agent with held := false } :=
  ⟨belongs.plain, belongs.handle, belongs.source, belongs.callbacks⟩

/-- The dispatcher may go on to another phase. -/
theorem withDispatcher {source : ConnectionId} (own : selection.connections source = kept) (phase : DispatcherPhase) :
    Agent.Belongs selection kept { agent with dispatcher := some ⟨source, phase⟩ } :=
  ⟨belongs.plain, belongs.handle, fun _ reads ↦ Option.some.inj reads ▸ own, belongs.callbacks⟩

/-- Whether the agent reads a connection of its own side does not depend on what is left out. -/
theorem reads_place {source : ConnectionId} (own : kept) (own' : selection.connections source) :
    ((agent.reduced selection).dispatcher.all fun other ↦ other.source ≠ selection.connections.place source) =
      agent.dispatcher.all fun other ↦ other.source ≠ source := by
  subst own
  cases other : agent.dispatcher with
  | none => simp [Agent.reduced, other]
  | some another =>
    have source' : selection.connections another.source := belongs.source another other
    simp [Agent.reduced, other, Dispatcher.reduced, Choice.place_inj source' own']

theorem completeConnect (medium : Medium) (pending : Pending)
    (adds : Adds selection kept medium.broker (agent.completeConnect medium pending).1.broker) :
    (agent.completeConnect medium pending).2.1.Belongs selection kept := by
  rcases completeConnect_cases medium agent pending with
    ⟨-, changed, -⟩ | ⟨answered, handle, answer, ⟨-, -, changed, -⟩ | ⟨-, done⟩⟩
  · rw [changed]
    refine ⟨belongs.plain, fun connection has ↦ ?_, belongs.source, belongs.callbacks⟩
    unfold Connection.reject at has
    split at has
    · cases has
    · exact belongs.handle connection has
  · rw [changed]
    exact belongs
  · have place := (answerConnect_eq_ok answer).1
    have own : selection.connections handle = kept :=
      adds handle (Nat.le_of_eq place.symm) (place ▸ lt_length_completeConnect answer)
    rw [done]
    exact (belongs.started own rfl).withReceivers (map_seen_subscribeEach (fun _ _ ↦ rfl) _ _ _)

theorem connect (medium : Medium) (overrides : BrokerOverrides)
    (adds : Adds selection kept medium.broker (agent.connect medium overrides).1.broker) :
    (agent.connect medium overrides).2.1.Belongs selection kept := by
  rcases connect_cases medium agent overrides with ⟨-, same, -⟩ | ⟨asked, begun, pending, began, answered⟩
  · rw [same]
    exact belongs
  · rw [answered]
    exact (belongs.begun began).completeConnect asked pending (adds_of_begun began adds)

theorem release : agent.release.1.Belongs selection kept :=
  ⟨belongs.plain, nofun, nofun, belongs.callbacks⟩

theorem disconnect (medium : Medium) : (agent.disconnect medium).2.Belongs selection kept := by
  rw [(disconnect_eq medium agent).2]
  have released : Agent.Belongs selection kept { agent with
      connection := ⟨.initialised, none, agent.connection.generation + 1⟩, dispatcher := none } :=
    ⟨belongs.plain, nofun, nofun, belongs.callbacks⟩
  exact released.withReceivers (by simp [Function.comp_def])

theorem createSender {name : String} {kind : PayloadKind} {options : ChannelOptions} {after : Medium}
    {changed : Agent} {place : Nat} (h : agent.createSender medium name kind options = .ok (after, changed, place)) :
    changed.Belongs selection kept := by
  obtain ⟨-, senders, same⟩ := createSender_cases h
  rw [same]
  exact ⟨belongs.plain, belongs.handle, belongs.source, belongs.callbacks⟩

theorem createReceiver {name : String} {kind : PayloadKind} {options : ChannelOptions} {after : Medium}
    {changed : Agent} {place : Nat} (h : agent.createReceiver medium name kind options = .ok (after, changed, place)) :
    changed.Belongs selection kept := by
  rcases callbacks_createReceiver h with same | ⟨receiver, none, same⟩
  · rw [same]
    exact belongs
  · rw [same]
    refine ⟨belongs.plain, belongs.handle, belongs.source, fun other hother callback hcallback ↦ ?_⟩
    rcases List.mem_append.1 hother with former | new
    · exact belongs.callbacks other former callback hcallback
    · rw [List.mem_singleton.1 new, none] at hcallback
      cases hcallback

end Belongs

end Agent

end PubSub
