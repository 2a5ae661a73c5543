import PubSub.Channel.Basic
import PubSub.Config.Basic
import PubSub.Connection.Basic
import PubSub.Topic.Address
import PubSub.Transport.Medium
/-!
# Agents

An agent is an identity with one connection and many channels. Its senders and receivers share the connection, and the
messages that arrive on it are dispatched to the receivers by one dispatcher, which belongs to the last connect that
succeeded.
-/

namespace PubSub

/-- How far a dispatcher has come with the inbox that it reads. -/
inductive DispatcherPhase where
  /-- It has not looked into the inbox yet, or not to the bottom of it. -/
  | busy
  /-- It has found the inbox empty and waits for more. -/
  | resting
  /-- It has seen the end of the inbox. -/
  | finished
  deriving DecidableEq

/-- What hands the messages of a connection to the receivers of an agent. -/
structure Dispatcher where
  source : ConnectionId
  phase : DispatcherPhase
  deriving DecidableEq

structure Agent where
  /-- The name under which the agent's callbacks and calls are reported. -/
  label : String
  identity : Identity
  transport : Transport
  /-- The options that every connect starts from. -/
  options : BrokerOptions
  clientId : ClientId
  defaults : ChannelDefaults
  /-- Whether channels need a connection when they are created. -/
  autoConnect : Bool
  connection : Connection
  senders : List Sender
  receivers : List Receiver
  /-- The dispatcher that was started last, unless it was stopped. -/
  dispatcher : Option Dispatcher
  /-- Whether somebody still holds the agent. -/
  held : Bool

namespace Agent

def isConnected (medium : Medium) (agent : Agent) : Bool :=
  agent.connection.isConnected (medium.isLive agent.transport)

def liveHandle? (medium : Medium) (agent : Agent) : Option ConnectionId :=
  agent.connection.liveHandle? (medium.isLive agent.transport)

/-- Role, instance or `any`, and the address of the broker. -/
def description (agent : Agent) : String × String × String :=
  (agent.identity.role, agent.identity.instanceId.getD "any", agent.options.uri)

/-- The places of the receivers whose pattern accepts a topic, in the order of creation. -/
def offered (agent : Agent) (topic : String) : List Nat :=
  (List.range agent.receivers.length).filter fun index ↦
    agent.receivers[index]?.any fun receiver ↦ receiver.pattern.accepts topic

def inspect (medium : Medium) (agent : Agent) : String :=
  Text.record "Agent" [
    ("identity", Text.record "AgentIdentity" [
      ("role", Text.quoted agent.identity.role),
      ("instance_id", Text.optional (agent.identity.instanceId.map Text.quoted))]),
    ("connection", Text.record "ConnectionManager" [
      ("transport", medium.inspectTransport agent.transport), ("options", agent.options.inspect),
      ("client_id", Text.quoted agent.clientId.text), ("state", agent.connection.state.inspect),
      ("has_handle", Text.flag agent.connection.handle.isSome)]),
    ("registry", Text.record "ChannelRegistry" [
      ("sender_count", toString agent.senders.length), ("receiver_count", toString agent.receivers.length)]),
    ("auto_connect", Text.flag agent.autoConnect),
    ("dispatching", Text.flag (agent.dispatcher.any fun dispatcher ↦ dispatcher.phase ≠ .finished))]

/-! ## Requests -/

def publish (medium : Medium) (agent : Agent) (message : Message) (options : PublishOptions) :
    Medium × Except Error Unit :=
  match agent.liveHandle? medium with
  | none => (medium, throw (.publishWithoutConnection message.topic))
  | some handle =>
    let (medium, result) := medium.publish agent.transport handle message options
    (medium, result.mapError fun error ↦ .publish message.topic error.message)

/-- Subscribes a receiver on the agent's connection, and marks on the receiver whether that succeeded. -/
def subscribe (medium : Medium) (agent : Agent) (receiver : Receiver) : Medium × Receiver × Except Error Unit :=
  let pattern := receiver.pattern.text
  match agent.liveHandle? medium with
  | none => (medium, { receiver with subscribed := false }, throw (.subscription pattern "not connected"))
  | some handle =>
    let (medium, result) := medium.subscribe agent.transport handle pattern receiver.qos
    (medium, { receiver with subscribed := result.isOk },
      result.mapError fun error ↦ .subscription pattern error.message)

/-- Subscribes receivers one after the other. A subscription that fails is noted, and the others are still tried. -/
def subscribeEach (agent : Agent) : Medium → List Receiver → Medium × List Receiver
  | medium, [] => (medium, [])
  | medium, receiver :: rest =>
    let (medium, receiver, result) := agent.subscribe medium receiver
    let medium := if result.isOk then medium else medium.fail
    let (medium, rest) := agent.subscribeEach medium rest
    (medium, receiver :: rest)

/-! ## Connecting -/

end Agent

/-- A connect attempt whose answer is outstanding. -/
structure Pending where
  generation : Nat
  options : BrokerOptions
  deriving DecidableEq

namespace Agent

/-- Begins a connect with overrides for this attempt only: a handle that is held, and must be dead, is closed, and the
transport is asked to connect. -/
def beginConnect (medium : Medium) (agent : Agent) (overrides : BrokerOverrides) :
    Except Error (Medium × Agent × Pending) := do
  let begun ← agent.connection.begin? (medium.isLive agent.transport)
  let medium := match begun.stale with
    | none => medium
    | some handle => (medium.warn.close agent.transport handle).1
  let options := agent.options.merged overrides
  pure (medium.requestConnect agent.transport options agent.clientId,
    { agent with connection := begun.connection }, ⟨begun.generation, options⟩)

/-- Completes a connect with the transport's answer. An attempt that succeeds starts a dispatcher in the place of the
present one and subscribes every receiver. An attempt that was overtaken closes the connection it got. -/
def completeConnect (medium : Medium) (agent : Agent) (pending : Pending) : Medium × Agent × Except Error Unit :=
  let refusal (reason : String) : Error := .connection (pending.options.uri ++ ": " ++ reason)
  match medium.answerConnect agent.transport pending.options agent.clientId with
  | .error error =>
    (medium.fail, { agent with connection := agent.connection.reject pending.generation },
      throw (refusal error.message))
  | .ok (medium, handle) =>
    match agent.connection.accept? pending.generation handle with
    | none => ((medium.warn.close agent.transport handle).1, agent, throw (refusal "disconnected while connecting"))
    | some connection =>
      let agent := { agent with connection, dispatcher := some ⟨handle, .busy⟩ }
      let (medium, receivers) := agent.subscribeEach medium agent.receivers
      (medium, { agent with receivers }, pure ())

/-- Connects without letting anything happen in between. -/
def connect (medium : Medium) (agent : Agent) (overrides : BrokerOverrides) : Medium × Agent × Except Error Unit :=
  match agent.beginConnect medium overrides with
  | .error error => (medium, agent, throw error)
  | .ok (medium, agent, pending) => agent.completeConnect medium pending

/-- The agent without its dispatcher and without its connection, and the handle of that connection. -/
def release (agent : Agent) : Agent × Option ConnectionId :=
  let (connection, handle) := agent.connection.release
  ({ agent with connection, dispatcher := none }, handle)

def disconnect (medium : Medium) (agent : Agent) : Medium × Agent :=
  let (agent, handle) := agent.release
  let agent := { agent with receivers := agent.receivers.map fun receiver ↦ { receiver with subscribed := false } }
  match handle with
  | none => (medium, agent)
  | some handle =>
    let (medium, result) := medium.close agent.transport handle
    (if result.isOk then medium else medium.warn, agent)

/-! ## Creating channels -/

/-- Refuses to create a channel while the agent should be connected and is not. -/
def requireConnection (medium : Medium) (agent : Agent) (name : String) (direction : Direction) : Except Error Unit :=
  if agent.autoConnect && !agent.isConnected medium then
    throw (.notConnected ("create " ++ direction.text ++ " \"" ++ name ++ "\""))
  else pure ()

/-- The place of an existing channel of the name, unless the options ask for a new one in any case. -/
def existing (name : String) (kind : PayloadKind) (options : ChannelOptions)
    (channels : List (String × PayloadKind)) : Except Error (Option Nat) :=
  if options.ignoreExisting then pure none else findChannel name kind channels

def newSender (agent : Agent) (name : String) (kind : PayloadKind) (options : ChannelOptions) :
    Except Error Sender := do
  let topic ← match options.overrideTopic with
    | some topic => pure topic
    | none => TopicAddress.text <$> TopicAddress.forSender name agent.identity options.role options.instanceId
  pure ⟨⟨name, topic, .sender⟩, kind,
    ⟨options.qos.getD agent.defaults.qos, options.retain.getD agent.defaults.retain⟩⟩

/-- Finds or creates a sender, and tells its place. -/
def createSender (medium : Medium) (agent : Agent) (name : String) (kind : PayloadKind) (options : ChannelOptions) :
    Except Error (Medium × Agent × Nat) := do
  validChannelName name
  let known := agent.senders.map fun sender ↦ (sender.definition.name, sender.kind)
  match ← existing name kind options known with
  | some index => pure (medium.warn, agent, index)
  | none =>
    agent.requireConnection medium name .sender
    let sender ← agent.newSender name kind options
    pure (medium, { agent with senders := agent.senders ++ [sender] }, agent.senders.length)

def newReceiver (agent : Agent) (name : String) (kind : PayloadKind) (options : ChannelOptions) :
    Except Error Receiver := do
  let topic ← match options.overrideTopic with
    | some topic => pure topic
    | none => TopicAddress.text <$> TopicAddress.forReceiver name options.role options.instanceId
  let pattern ← TopicPattern.parse topic
  pure ⟨⟨name, topic, .receiver⟩, kind, pattern, options.qos.getD agent.defaults.qos, false, []⟩

/-- Finds or creates a receiver, and tells its place. A new receiver is subscribed if the agent is connected; if that
fails, or the agent is not connected, the receiver is there all the same. -/
def createReceiver (medium : Medium) (agent : Agent) (name : String) (kind : PayloadKind) (options : ChannelOptions) :
    Except Error (Medium × Agent × Nat) := do
  validChannelName name
  let known := agent.receivers.map fun receiver ↦ (receiver.definition.name, receiver.kind)
  match ← existing name kind options known with
  | some index => pure (medium.warn, agent, index)
  | none =>
    agent.requireConnection medium name .receiver
    let receiver ← agent.newReceiver name kind options
    let (medium, receiver) :=
      if agent.isConnected medium then
        let (medium, receiver, result) := agent.subscribe medium receiver
        (if result.isOk then medium else medium.fail, receiver)
      else (medium.warn, receiver)
    pure (medium, { agent with receivers := agent.receivers ++ [receiver] }, agent.receivers.length)

end Agent

end PubSub
