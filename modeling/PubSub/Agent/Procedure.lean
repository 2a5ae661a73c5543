import PubSub.Agent.Basic
/-!
# Operations part by part

The operations of an agent as procedures: they look things up, check them, and write to the agent and to what it shares
with others, one after the other. A procedure that fails leaves everything as it stands then. Nothing is undone, so
whether a failure leaves something behind depends on what was written before it.
-/

namespace PubSub

/-- Something that an agent does. It gives a result or fails, and has written what it has written in either case. -/
def Procedure (α : Type) : Type :=
  Medium → Agent → Medium × Agent × Except Error α

namespace Procedure

variable {α : Type}

instance : Monad Procedure where
  pure value := fun medium agent ↦ (medium, agent, .ok value)
  bind procedure next := fun medium agent ↦
    match procedure medium agent with
    | (medium, agent, .ok value) => next value medium agent
    | (medium, agent, .error error) => (medium, agent, .error error)

/-! ## Parts -/

/-- Goes on with a result, or fails with its error. -/
def demand (result : Except Error α) : Procedure α := fun medium agent ↦
  (medium, agent, result)

def refuseIf (reason : Bool) (error : Error) : Procedure Unit :=
  demand (if reason then throw error else pure ())

def look (view : Medium → Agent → α) : Procedure α := fun medium agent ↦
  (medium, agent, .ok (view medium agent))

/-- Writes to what agents share. -/
def share (change : Medium → Medium) : Procedure Unit := fun medium agent ↦
  (change medium, agent, .ok ())

def write (change : Agent → Agent) : Procedure Unit := fun medium agent ↦
  (medium, change agent, .ok ())

def writeConnection (change : Connection → Connection) : Procedure Unit :=
  write fun agent ↦ { agent with connection := change agent.connection }

/-- Makes a request on the connection of the agent, which may come back with a failure. -/
def ask (request : Medium → Agent → Medium × Except Error α) : Procedure α := fun medium agent ↦
  let (medium, result) := request medium agent
  (medium, agent, result)

/-! ## Connecting -/

/-- Begins a connect: the states that refuse it are looked for first, then the attempt is entered, and then a handle
that is held, and must be dead, is closed. -/
def beginConnect (overrides : BrokerOverrides) : Procedure Pending := do
  let state ← look fun _ agent ↦ agent.connection.state
  let live ← look fun medium agent ↦ agent.connection.handle.any (medium.isLive agent.transport)
  refuseIf (state = .connecting) (.invalidState state "connect")
  refuseIf (state = .connected && live) (.invalidState state "connect")
  writeConnection fun connection ↦ { connection with state := .connecting }
  writeConnection fun connection ↦ { connection with generation := connection.generation + 1 }
  let attempt ← look fun _ agent ↦ agent.connection.generation
  let stale ← look fun _ agent ↦ agent.connection.handle
  writeConnection fun connection ↦ { connection with handle := none }
  let transport ← look fun _ agent ↦ agent.transport
  if let some handle := stale then
    share Medium.warn
    share fun medium ↦ (medium.close transport handle).1
  let options ← look fun _ agent ↦ agent.options.merged overrides
  let clientId ← look fun _ agent ↦ agent.clientId
  share fun medium ↦ medium.requestConnect transport options clientId
  return ⟨attempt, options⟩

def connect (overrides : BrokerOverrides) : Procedure Unit := do
  let pending ← beginConnect overrides
  fun medium agent ↦ agent.completeConnect medium pending

/-! ## Publishing -/

def publish (message : Message) (options : PublishOptions) : Procedure Unit := do
  let handle ← look fun medium agent ↦ agent.liveHandle? medium
  match handle with
  | none => demand (throw (.publishWithoutConnection message.topic))
  | some handle =>
    ask fun medium agent ↦
      let (medium, result) := medium.publish agent.transport handle message options
      (medium, result.mapError fun error ↦ .publish message.topic error.message)

def send (sender : Sender) (payload : Except Error Bytes) : Procedure Unit := do
  let payload ← demand payload
  publish ⟨sender.definition.topic, payload⟩ sender.options

/-! ## Creating channels -/

end Procedure

/-- One of the two lists of channels that an agent keeps. -/
structure Register (γ : Type) where
  channels : Agent → List γ
  heading : γ → String × PayloadKind
  keep : Agent → List γ → Agent

namespace Register

def senders : Register Sender where
  channels := Agent.senders
  heading sender := (sender.definition.name, sender.kind)
  keep agent senders := { agent with senders }

def receivers : Register Receiver where
  channels := Agent.receivers
  heading receiver := (receiver.definition.name, receiver.kind)
  keep agent receivers := { agent with receivers }

end Register

/-- How a channel was come by, with its place. -/
inductive Registration (γ : Type) where
  | existing (place : Nat)
  | created (place : Nat) (channel : γ)

namespace Procedure

/-- Finds the channel of a name, or enters the one that is created then. With `ignoreExisting` nothing is looked for. -/
def getOrInsert {γ : Type} (register : Register γ) (name : String) (kind : PayloadKind) (ignoreExisting : Bool)
    (create : Procedure γ) : Procedure (Registration γ) := do
  let known ← look fun _ agent ↦ (register.channels agent).map register.heading
  let found ← demand (if ignoreExisting then pure none else findChannel name kind known)
  match found with
  | some place =>
    share Medium.warn
    return .existing place
  | none =>
    let channel ← create
    let place ← look fun _ agent ↦ (register.channels agent).length
    write fun agent ↦ register.keep agent (register.channels agent ++ [channel])
    return .created place channel

def requireConnection (name : String) (direction : Direction) : Procedure Unit := do
  let allowed ← look fun medium agent ↦ agent.requireConnection medium name direction
  demand allowed

def createSender (name : String) (kind : PayloadKind) (options : ChannelOptions) : Procedure Nat := do
  demand (validChannelName name)
  let registration ← getOrInsert .senders name kind options.ignoreExisting do
    requireConnection name .sender
    let sender ← look fun _ agent ↦ agent.newSender name kind options
    demand sender
  match registration with
  | .existing place | .created place _ => return place

/-- Subscribes a receiver that has been entered at a place, and marks it there. It is told whether that succeeded. -/
def subscribe (place : Nat) (receiver : Receiver) : Procedure Bool := fun medium agent ↦
  let (medium, receiver, result) := agent.subscribe medium receiver
  (medium, { agent with receivers := agent.receivers.set place receiver }, .ok result.isOk)

/-- Subscribes a receiver that has been entered at a place, or leaves that to the next connect. Neither a missing
connection nor a subscription that is refused makes this fail. -/
def subscribeOrDefer (place : Nat) (receiver : Receiver) : Procedure Unit := do
  let connected ← look fun medium agent ↦ agent.isConnected medium
  if connected then
    let subscribed ← subscribe place receiver
    unless subscribed do share Medium.fail
  else share Medium.warn

/-- Finds or creates a receiver, and tells its place. A new receiver is entered first and subscribed then. -/
def createReceiver (name : String) (kind : PayloadKind) (options : ChannelOptions) : Procedure Nat := do
  demand (validChannelName name)
  let registration ← getOrInsert .receivers name kind options.ignoreExisting do
    requireConnection name .receiver
    let receiver ← look fun _ agent ↦ agent.newReceiver name kind options
    demand receiver
  match registration with
  | .existing place => return place
  | .created place receiver =>
    subscribeOrDefer place receiver
    return place

end Procedure

/-- An operation that an agent may refuse. -/
inductive Operation where
  | connect (overrides : BrokerOverrides)
  | createSender (name : String) (kind : PayloadKind) (options : ChannelOptions)
  | createReceiver (name : String) (kind : PayloadKind) (options : ChannelOptions)
  | publish (message : Message) (options : PublishOptions)
  | send (sender : Sender) (payload : Except Error Bytes)

namespace Operation

/-- What an operation gives: the place of a channel, or nothing. -/
def Result : Operation → Type
  | createSender .. | createReceiver .. => Nat
  | _ => Unit

def procedure : (operation : Operation) → Procedure operation.Result
  | connect overrides => .connect overrides
  | createSender name kind options => .createSender name kind options
  | createReceiver name kind options => .createReceiver name kind options
  | publish message options => .publish message options
  | send sender payload => .send sender payload

/-- Whether an error refuses an operation. A connect that was begun can still fail with the transport's answer, and is
then not refused. -/
def Refuses (error : Error) : Operation → Prop
  | connect _ => ∃ state, error = .invalidState state "connect"
  | _ => True

end Operation

end PubSub
