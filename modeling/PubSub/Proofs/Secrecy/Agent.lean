import PubSub.Proofs.Secrecy.Redaction
/-!
# Agents without passwords

Brokers, media and agents do when they are redacted what they do otherwise, and come to the same results. Only the
broker ever looks at a password, when it compares credentials; what the comparison came to is all that can be learnt
from it.
-/

namespace PubSub

/-- Two procedures that go on alike after a common first part come alike to their results. -/
theorem bind_eq_map_bind {ε α β γ : Type} {first : Except ε α} {next : α → Except ε β} {other : α → Except ε γ}
    {change : γ → β} (h : ∀ middle, next middle = (other middle).map change) :
    first >>= next = (first >>= other).map change := by
  cases first with
  | error error => rfl
  | ok middle => exact h middle

variable {passes : Bool}

/-! ## The broker -/

namespace Broker

/-- What the credentials of a client come to when they are compared, if the broker gets as far as that. -/
def compared? (broker : Broker) (options : BrokerOptions) : Option Bool :=
  if broker.available then broker.credentials.map fun wanted ↦ wanted == ⟨options.username, options.password⟩ else none

variable {broker : Broker} {options : BrokerOptions}

theorem isSome_compared?_redacted :
    ((broker.redacted passes).compared? options.redacted).isSome = (broker.compared? options).isSome := by
  unfold compared?
  change Option.isSome (if broker.available then _ else _) = _
  split
  · simp [redacted]
  · rfl

/-- Empty passwords compare as the ones in whose place they stand. -/
theorem compared?_redacted (outcome : ∀ same ∈ broker.compared? options, same = passes) :
    (broker.redacted passes).compared? options.redacted = broker.compared? options := by
  unfold compared? at outcome ⊢
  cases available : broker.available with
  | false => simp [redacted, available]
  | true =>
    rw [available, if_pos rfl] at outcome
    cases wanted : broker.credentials with
    | none => simp [redacted, available, wanted]
    | some credentials =>
      rw [wanted, Option.map_some] at outcome
      have outcome := outcome _ rfl
      simp only [redacted, available, wanted, if_true, Option.map_some, outcome]
      congr 1
      cases passes with
      | false => simp [Credentials.redacted, BrokerOptions.redacted]
      | true =>
        rw [beq_iff_eq] at outcome
        simp [Credentials.redacted, BrokerOptions.redacted, outcome]

/-- The broker accepts every connect that it does not refuse for being unavailable or for a comparison. -/
theorem connect_eq (clientId : ClientId) :
    broker.connect options clientId =
      if !broker.available then throw (.unreachable options.uri)
      else if (broker.compared? options).all id then
        pure ({ broker with clients := broker.clients ++ [⟨clientId, .live, [], []⟩] }, broker.clients.length)
      else throw (.badCredentials options.uri) := by
  unfold connect compared?
  cases broker.available with
  | false => rfl
  | true => cases broker.credentials <;> rfl

theorem connect_redacted (outcome : ∀ same ∈ broker.compared? options, same = passes) (clientId : ClientId) :
    (broker.redacted passes).connect options.redacted clientId =
      (broker.connect options clientId).map (Prod.map (redacted passes) id) := by
  rw [connect_eq, connect_eq, compared?_redacted outcome]
  change (if !broker.available then _ else _) = _
  split
  · rfl
  · split <;> rfl

theorem subscribe_redacted (connection : ConnectionId) (filter : String) (qos : QoS) :
    (broker.redacted passes).subscribe connection filter qos =
      (broker.subscribe connection filter qos).map (redacted passes) := by
  unfold subscribe
  change (if broker.isLive connection then _ else _) = _
  split <;> rfl

theorem publish_redacted (connection : ConnectionId) (message : Message) (retain : Bool) :
    (broker.redacted passes).publish connection message retain =
      (broker.publish connection message retain).map (redacted passes) := by
  unfold publish
  change (if broker.isLive connection then _ else _) = _
  split <;> rfl

theorem take?_redacted (connection : ConnectionId) :
    (broker.redacted passes).take? connection = (broker.take? connection).map (Prod.map id (redacted passes)) := by
  have same : (broker.redacted passes).clients[connection]? = broker.clients[connection]? := rfl
  unfold take?
  rw [same]
  rcases broker.clients[connection]? with _ | ⟨_, _, _, _ | _⟩ <;> rfl

end Broker

/-! ## The medium -/

namespace Medium

/-- What the credentials of a client come to when the transport lets the broker compare them. -/
def compared? (medium : Medium) (transport : Transport) (options : BrokerOptions) : Option Bool :=
  if (medium.scriptOf transport).connect.isEmpty then medium.broker.compared? options else none

variable {medium : Medium} {transport : Transport}

@[simp] theorem observe_redacted (observation : Observation) :
    (medium.redacted passes).observe observation.redacted = (medium.observe observation).redacted passes := by
  simp [observe, redacted]

@[simp] theorem warn_redacted : (medium.redacted passes).warn = medium.warn.redacted passes :=
  observe_redacted .warning

@[simp] theorem fail_redacted : (medium.redacted passes).fail = medium.fail.redacted passes :=
  observe_redacted .failure

theorem scriptOf_redacted : (medium.redacted passes).scriptOf transport = medium.scriptOf transport := by
  cases transport <;> rfl

theorem isLive_redacted : (medium.redacted passes).isLive transport = medium.isLive transport := by
  cases transport <;> rfl

theorem record_redacted (call : Call) :
    (medium.redacted passes).record transport call.redacted = (medium.record transport call).redacted passes := by
  cases transport with
  | plain => rfl
  | scripted label => exact observe_redacted (.call label call)

theorem requestConnect_redacted (options : BrokerOptions) (clientId : ClientId) :
    (medium.redacted passes).requestConnect transport options.redacted clientId =
      (medium.requestConnect transport options clientId).redacted passes := by
  cases transport with
  | plain => rfl
  | scripted label =>
    have called : (medium.redacted passes).observe (.call label (.connect options.redacted clientId)) =
        (medium.observe (.call label (.connect options clientId))).redacted passes :=
      observe_redacted (.call label (.connect options clientId))
    simp only [requestConnect, called]
    rfl

theorem isSome_compared?_redacted {options : BrokerOptions} :
    ((medium.redacted passes).compared? transport options.redacted).isSome =
      (medium.compared? transport options).isSome := by
  unfold compared?
  rw [scriptOf_redacted]
  split
  · exact Broker.isSome_compared?_redacted
  · rfl

theorem answerConnect_redacted {options : BrokerOptions}
    (outcome : ∀ same ∈ medium.compared? transport options, same = passes) (clientId : ClientId) :
    (medium.redacted passes).answerConnect transport options.redacted clientId =
      (medium.answerConnect transport options clientId).map (Prod.map (redacted passes) id) := by
  unfold answerConnect
  rw [scriptOf_redacted]
  unfold compared? at outcome
  cases fault : (medium.scriptOf transport).connect with
  | cons cause causes => rfl
  | nil =>
    rw [fault] at outcome
    have answer : (medium.redacted passes).broker.connect options.redacted clientId = _ :=
      Broker.connect_redacted outcome clientId
    rw [answer]
    simp only [bind, Script.fault, List.isEmpty_nil, if_true, pure, Except.pure, Except.bind]
    cases medium.broker.connect options clientId <;> rfl

theorem subscribe_redacted (connection : ConnectionId) (pattern : String) (qos : QoS) :
    (medium.redacted passes).subscribe transport connection pattern qos =
      Prod.map (redacted passes) id (medium.subscribe transport connection pattern qos) := by
  have called : (medium.redacted passes).record transport (.subscribe pattern qos) =
      (medium.record transport (.subscribe pattern qos)).redacted passes := record_redacted (.subscribe pattern qos)
  simp only [subscribe, called]
  generalize medium.record transport (.subscribe pattern qos) = medium
  have fault : (medium.redacted passes).subscribeFault transport pattern = medium.subscribeFault transport pattern := by
    rw [subscribeFault, scriptOf_redacted]
    rfl
  have request : (medium.redacted passes).broker.subscribe connection pattern qos = _ :=
    Broker.subscribe_redacted connection pattern qos
  rw [fault, request]
  cases medium.subscribeFault transport pattern with
  | error error => rfl
  | ok => cases medium.broker.subscribe connection pattern qos <;> rfl

theorem publish_redacted (connection : ConnectionId) (message : Message) (options : PublishOptions) :
    (medium.redacted passes).publish transport connection message options =
      Prod.map (redacted passes) id (medium.publish transport connection message options) := by
  have called : (medium.redacted passes).record transport (.publish message options) =
      (medium.record transport (.publish message options)).redacted passes := record_redacted (.publish message options)
  simp only [publish, called]
  generalize medium.record transport (.publish message options) = medium
  have request : (medium.redacted passes).broker.publish connection message options.retain = _ :=
    Broker.publish_redacted connection message options.retain
  rw [scriptOf_redacted, request]
  cases Script.fault (medium.scriptOf transport).publish with
  | error error => rfl
  | ok => cases medium.broker.publish connection message options.retain <;> rfl

theorem close_redacted (connection : ConnectionId) :
    (medium.redacted passes).close transport connection =
      Prod.map (redacted passes) id (medium.close transport connection) := by
  have called : (medium.redacted passes).record transport .close = (medium.record transport .close).redacted passes :=
    record_redacted .close
  simp only [close, called, scriptOf_redacted]
  rfl

end Medium

/-! ## Agents -/

namespace Agent

variable {medium : Medium} {agent : Agent}

theorem isConnected_redacted : agent.redacted.isConnected (medium.redacted passes) = agent.isConnected medium := by
  unfold isConnected
  rw [Medium.isLive_redacted]
  rfl

theorem liveHandle?_redacted : agent.redacted.liveHandle? (medium.redacted passes) = agent.liveHandle? medium := by
  unfold liveHandle?
  rw [Medium.isLive_redacted]
  rfl

theorem publish_redacted (message : Message) (options : PublishOptions) :
    agent.redacted.publish (medium.redacted passes) message options =
      Prod.map (Medium.redacted passes) id (agent.publish medium message options) := by
  unfold publish
  rw [liveHandle?_redacted]
  cases agent.liveHandle? medium with
  | none => rfl
  | some handle =>
    have published : (medium.redacted passes).publish agent.redacted.transport handle message options = _ :=
      Medium.publish_redacted handle message options
    simp only [published]
    rfl

theorem subscribe_redacted (receiver : Receiver) :
    agent.redacted.subscribe (medium.redacted passes) receiver =
      Prod.map (Medium.redacted passes) id (agent.subscribe medium receiver) := by
  unfold subscribe
  rw [liveHandle?_redacted]
  cases agent.liveHandle? medium with
  | none => rfl
  | some handle =>
    have subscribed : (medium.redacted passes).subscribe agent.redacted.transport handle receiver.pattern.text
        receiver.qos = _ := Medium.subscribe_redacted handle receiver.pattern.text receiver.qos
    simp only [subscribed]
    rfl

theorem subscribeEach_redacted (receivers : List Receiver) :
    agent.redacted.subscribeEach (medium.redacted passes) receivers =
      Prod.map (Medium.redacted passes) id (agent.subscribeEach medium receivers) := by
  induction receivers generalizing medium with
  | nil => rfl
  | cons receiver rest ih =>
    have settled : (if (agent.subscribe medium receiver).2.2.isOk
          then (agent.subscribe medium receiver).1.redacted passes
          else ((agent.subscribe medium receiver).1.redacted passes).fail) =
        (if (agent.subscribe medium receiver).2.2.isOk then (agent.subscribe medium receiver).1
          else (agent.subscribe medium receiver).1.fail).redacted passes := by
      split
      · rfl
      · exact Medium.fail_redacted
    simp only [subscribeEach, subscribe_redacted, Prod.map, id, settled, ih]

/-! ## Connecting -/

/-- What the comparison of a connect comes to, if it is made. -/
def compared? (medium : Medium) (agent : Agent) (overrides : BrokerOverrides) : Option Bool :=
  match agent.beginConnect medium overrides with
  | .error _ => none
  | .ok (medium, agent, pending) => medium.compared? agent.transport pending.options

variable {overrides : BrokerOverrides} {pending : Pending}

theorem beginConnect_redacted :
    agent.redacted.beginConnect (medium.redacted passes) overrides.redacted =
      (agent.beginConnect medium overrides).map
        (Prod.map (Medium.redacted passes) (Prod.map redacted Pending.redacted)) := by
  unfold beginConnect
  rw [Medium.isLive_redacted]
  change (agent.connection.begin? (medium.isLive agent.transport) >>= _) = _
  cases agent.connection.begin? (medium.isLive agent.transport) with
  | error error => rfl
  | ok begun =>
    have asked (medium : Medium) : (medium.redacted passes).requestConnect agent.redacted.transport
        (agent.redacted.options.merged overrides.redacted) agent.redacted.clientId = _ :=
      Medium.requestConnect_redacted (agent.options.merged overrides) agent.clientId
    have closed (handle : ConnectionId) : (medium.redacted passes).warn.close agent.redacted.transport handle =
        Prod.map (Medium.redacted passes) id (medium.warn.close agent.transport handle) := by
      rw [Medium.warn_redacted]
      exact Medium.close_redacted handle
    simp only [bind, Except.bind]
    cases begun.stale with
    | none =>
      simp only [asked]
      rfl
    | some handle =>
      simp only [closed, Prod.map, asked]
      rfl

theorem isSome_compared?_redacted :
    (agent.redacted.compared? (medium.redacted passes) overrides.redacted).isSome =
      (agent.compared? medium overrides).isSome := by
  unfold compared?
  rw [beginConnect_redacted]
  rcases agent.beginConnect medium overrides with error | ⟨medium, agent, pending⟩
  · rfl
  · exact Medium.isSome_compared?_redacted

theorem completeConnect_redacted (outcome : ∀ same ∈ medium.compared? agent.transport pending.options, same = passes) :
    agent.redacted.completeConnect (medium.redacted passes) pending.redacted =
      Prod.map (Medium.redacted passes) (Prod.map redacted id) (agent.completeConnect medium pending) := by
  unfold completeConnect
  have answer : (medium.redacted passes).answerConnect agent.redacted.transport pending.redacted.options
      agent.redacted.clientId = _ := Medium.answerConnect_redacted outcome agent.clientId
  simp only [answer]
  rcases medium.answerConnect agent.transport pending.options agent.clientId with error | ⟨answered, handle⟩
  · exact congrArg (·, _) Medium.fail_redacted
  · have generation : pending.redacted.generation = pending.generation := rfl
    simp only [Except.map, Prod.map, id, connection_redacted, generation]
    cases agent.connection.accept? pending.generation handle with
    | none =>
      have closed : (answered.redacted passes).warn.close agent.redacted.transport handle =
          Prod.map (Medium.redacted passes) id (answered.warn.close agent.transport handle) := by
        rw [Medium.warn_redacted]
        exact Medium.close_redacted handle
      simp only [closed]
      rfl
    | some connection =>
      let connected : Agent := { agent with connection, dispatcher := some ⟨handle, .busy⟩ }
      have subscribed : connected.redacted.subscribeEach (answered.redacted passes) agent.receivers = _ :=
        subscribeEach_redacted agent.receivers
      exact congrArg (fun found : Medium × List Receiver ↦
        (found.1, { connected.redacted with receivers := found.2 }, (.ok () : Except Error Unit))) subscribed

theorem connect_redacted (outcome : ∀ same ∈ agent.compared? medium overrides, same = passes) :
    agent.redacted.connect (medium.redacted passes) overrides.redacted =
      Prod.map (Medium.redacted passes) (Prod.map redacted id) (agent.connect medium overrides) := by
  unfold connect
  rw [beginConnect_redacted]
  unfold compared? at outcome
  revert outcome
  rcases agent.beginConnect medium overrides with error | ⟨medium, agent, pending⟩
  · exact fun _ ↦ rfl
  · exact completeConnect_redacted

theorem disconnect_redacted :
    agent.redacted.disconnect (medium.redacted passes) =
      Prod.map (Medium.redacted passes) redacted (agent.disconnect medium) := by
  unfold disconnect
  have released : agent.redacted.release = Prod.map redacted id agent.release := rfl
  rw [released]
  rcases agent.release with ⟨released, _ | handle⟩
  · rfl
  · simp only [Prod.map, id, transport_redacted, Medium.close_redacted]
    rcases medium.close released.transport handle with ⟨later, error | _⟩
    · exact congrArg (·, _) Medium.warn_redacted
    · rfl

/-! ## Creating channels -/

theorem requireConnection_redacted (name : String) (direction : Direction) :
    agent.redacted.requireConnection (medium.redacted passes) name direction =
      agent.requireConnection medium name direction := by
  unfold requireConnection
  rw [isConnected_redacted]
  rfl

theorem createSender_redacted (name : String) (kind : PayloadKind) (options : ChannelOptions) :
    agent.redacted.createSender (medium.redacted passes) name kind options =
      (agent.createSender medium name kind options).map (Prod.map (Medium.redacted passes) (Prod.map redacted id)) := by
  unfold createSender
  rw [requireConnection_redacted]
  refine bind_eq_map_bind fun _ ↦ bind_eq_map_bind fun found ↦ ?_
  cases found with
  | some index =>
    simp only [Medium.warn_redacted]
    rfl
  | none => exact bind_eq_map_bind fun _ ↦ bind_eq_map_bind fun sender ↦ rfl

theorem createReceiver_redacted (name : String) (kind : PayloadKind) (options : ChannelOptions) :
    agent.redacted.createReceiver (medium.redacted passes) name kind options =
      (agent.createReceiver medium name kind options).map
        (Prod.map (Medium.redacted passes) (Prod.map redacted id)) := by
  unfold createReceiver
  rw [requireConnection_redacted, isConnected_redacted]
  refine bind_eq_map_bind fun _ ↦ bind_eq_map_bind fun found ↦ ?_
  cases found with
  | some index =>
    simp only [Medium.warn_redacted]
    rfl
  | none =>
    refine bind_eq_map_bind fun _ ↦ bind_eq_map_bind fun receiver ↦ ?_
    cases agent.isConnected medium with
    | false =>
      simp only [Medium.warn_redacted]
      rfl
    | true =>
      rw [subscribe_redacted]
      rcases agent.subscribe medium receiver with ⟨later, marked, error | _⟩
      · simp only [Prod.map, Medium.fail_redacted]
        rfl
      · rfl

end Agent

/-! ## Builders -/

namespace AgentBuilder

/-- What the comparison comes to if the agent connects when it is built. -/
def compared? (medium : Medium) (builder : AgentBuilder) (label : String) (serial : Nat) : Option Bool :=
  match builder.agent label serial with
  | .error _ => none
  | .ok agent => if agent.autoConnect then agent.compared? medium .none else none

variable {medium : Medium} {builder : AgentBuilder} {label : String} {serial : Nat}

theorem agent_redacted : builder.redacted.agent label serial = (builder.agent label serial).map Agent.redacted := by
  unfold agent
  change (Identity.new builder.role builder.instanceId >>= _) = _
  cases Identity.new builder.role builder.instanceId with
  | error error => rfl
  | ok identity =>
    have transport : builder.redacted.transport = builder.transport := rfl
    simp only [bind, Except.bind, transport]
    cases builder.transport <;> rfl

theorem isSome_compared?_redacted :
    (builder.redacted.compared? (medium.redacted passes) label serial).isSome =
      (builder.compared? medium label serial).isSome := by
  unfold compared?
  rw [agent_redacted]
  cases builder.agent label serial with
  | error error => rfl
  | ok agent =>
    change Option.isSome (if agent.autoConnect then _ else _) = Option.isSome (if agent.autoConnect then _ else _)
    split
    · exact @Agent.isSome_compared?_redacted passes medium agent .none
    · rfl

theorem build_redacted (outcome : ∀ same ∈ builder.compared? medium label serial, same = passes) :
    builder.redacted.build (medium.redacted passes) label serial =
      Prod.map (Medium.redacted passes) (Except.map Agent.redacted) (builder.build medium label serial) := by
  unfold build
  rw [agent_redacted]
  unfold compared? at outcome
  revert outcome
  cases builder.agent label serial with
  | error error => exact fun _ ↦ rfl
  | ok agent =>
    intro outcome
    simp only at outcome
    change (if agent.autoConnect then _ else _) = Prod.map _ _ (if agent.autoConnect then _ else _)
    split
    · rename_i connects
      rw [if_pos connects] at outcome
      have connected : agent.redacted.connect (medium.redacted passes) .none = _ := Agent.connect_redacted outcome
      rw [connected]
      rcases agent.connect medium .none with ⟨later, changed, error | _⟩ <;> rfl
    · rfl

end AgentBuilder

end PubSub
