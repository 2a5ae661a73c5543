import PubSub.Session.Step
/-!
# Sessions

A session is a network with labels for what its steps have created. Each step is carried out on the network as it is;
then, unless the step says otherwise, the background work is done until none is left, and what could be observed
meanwhile is reported with the answer. A request on an unknown label is refused and changes nothing. A label that is
given again stands for the new thing; the old thing is let go.
-/

namespace PubSub

abbrev Labels (α : Type) := List (String × α)

namespace Labels

variable {α : Type}

def get? (labels : Labels α) (label : String) : Option α :=
  (labels.find? fun entry ↦ entry.1 == label).map Prod.snd

def remove (labels : Labels α) (label : String) : Labels α :=
  labels.filter fun entry ↦ entry.1 != label

def put (labels : Labels α) (label : String) (thing : α) : Labels α :=
  labels.remove label ++ [(label, thing)]

/-- The labels that stand for a thing, sorted. -/
def labelsOf [BEq α] (labels : Labels α) (thing : α) : List String :=
  ((labels.filter fun entry ↦ entry.2 == thing).map Prod.fst).mergeSort fun a b ↦ a ≤ b

end Labels

/-- A sender, by its agent and its place in the order in which the agent created its senders. -/
structure SenderId where
  agent : Nat
  index : Nat
  deriving DecidableEq

/-- A network with labels. -/
structure Session where
  network : Network
  agents : Labels Nat
  senders : Labels SenderId
  receivers : Labels ReceiverId
  nexts : Labels Nat
  raws : Labels ConnectionId

namespace Session

def fresh : Session :=
  ⟨.fresh, [], [], [], [], []⟩

/-! ## Finding what labels stand for -/

def findAgent (session : Session) (label : String) : Except Refusal (Nat × Agent) :=
  match session.agents.get? label with
  | none => throw (.unknown .agent)
  | some index =>
    match session.network.agents[index]? with
    | none => throw (.unknown .agent)
    | some agent => pure (index, agent)

def findSender (session : Session) (label : String) : Except Refusal (Agent × Sender) :=
  match session.senders.get? label with
  | none => throw (.unknown .sender)
  | some id =>
    match session.network.agents[id.agent]? with
    | none => throw (.unknown .sender)
    | some agent =>
      match agent.senders[id.index]? with
      | none => throw (.unknown .sender)
      | some sender => pure (agent, sender)

def findReceiver (session : Session) (label : String) : Except Refusal (ReceiverId × Receiver) :=
  match session.receivers.get? label with
  | none => throw (.unknown .receiver)
  | some id =>
    match session.network.receiver? id with
    | none => throw (.unknown .receiver)
    | some receiver => pure (id, receiver)

def findRaw (session : Session) (label : String) : Except Refusal ConnectionId :=
  match session.raws.get? label with
  | none => throw (.unknown .raw)
  | some connection => pure connection

/-! ## Parts of requests -/

/-- A request that fails with an error of the library. -/
def failing {α : Type} (result : Except Error α) : Except Refusal α :=
  result.mapError .failed

/-- A request that the broker refuses. -/
def refusing {α : Type} (result : Except BrokerError α) : Except Refusal α :=
  result.mapError .transport

/-- The guarantee of a level, if a level is given. -/
def checkQoS : Option Nat → Except Refusal (Option QoS)
  | none => pure none
  | some level => failing ((some <$> QoS.checked level).mapError .config)

/-- The builder that a request describes. Its configuration file is read first. -/
def builderOf (request : AgentRequest) : Except Refusal AgentBuilder := do
  let config ← match request.document with
    | none => pure Config.standard
    | some document => failing ((Config.parse document).mapError .config)
  pure {
    role := request.role
    instanceId := request.instanceId
    config := { config with broker := request.broker.getD config.broker }
    overrides := request.overrides
    autoConnect := request.autoConnect
    transport := match request.transport with
      | .scripted => some (.scripted request.agent)
      | .plain => some .plain
      | .missing => none
    clientId := request.clientId }

def onNetwork (session : Session) (operation : Network → Network) : Session :=
  { session with network := operation session.network }

def onBroker (session : Session) (operation : Broker → Broker) : Session :=
  session.onNetwork fun network ↦ network.onMedium fun medium ↦ medium.onBroker operation

/-- The session after a request to the broker that may be refused. -/
def request (session : Session) (result : Except BrokerError Broker) : Session × Except Refusal Answer :=
  match result with
  | .ok broker => (session.onBroker fun _ ↦ broker, pure .done)
  | .error error => (session, throw (.transport error))

/-- The session with a label for a new agent. The agent that had the label is let go. -/
def labelAgent (session : Session) (label : String) (agent : Agent) : Session :=
  let index := session.network.agents.length
  let network := Network.wake { session.network with agents := session.network.agents ++ [agent] }
  let network := match session.agents.get? label with
    | none => network
    | some old => network.letGo old Network.closeLater
  { session with network, agents := session.agents.put label index }

def build (session : Session) (label : String) (builder : AgentBuilder) : Session × Except Refusal Answer :=
  let network := session.network
  let (medium, result) := builder.build network.medium label network.agents.length
  let session := session.onNetwork fun network ↦ { network with medium }
  match result with
  | .error error => (session, throw (.failed error))
  | .ok agent => (session.labelAgent label agent, pure .done)

/-- Lets an agent carry out an operation that gives a result or fails. -/
def onAgent {α : Type} (session : Session) (index : Nat) (agent : Agent)
    (operation : Medium → Agent → Medium × Agent × Except Error α) (answer : α → Answer) :
    Session × Except Refusal Answer :=
  let (network, result) := session.network.onAgent index agent operation
  ({ session with network }, failing (result.map answer))

def publishAs (session : Session) (agent : Agent) (message : Message) (options : PublishOptions) :
    Session × Except Refusal Answer :=
  let (medium, result) := agent.publish session.network.medium message options
  (session.onNetwork fun network ↦ network.onMedium fun _ ↦ medium, failing (result.map fun _ ↦ .done))

/-- Subscribes a receiver on the connection of an agent, which need not be the receiver's own. -/
def subscribeAs (session : Session) (agent : Agent) (id : ReceiverId) (receiver : Receiver) :
    Session × Except Refusal Answer :=
  let (medium, receiver, result) := agent.subscribe session.network.medium receiver
  let network := (session.network.modifyReceiver id fun _ ↦ receiver).onMedium fun _ ↦ medium
  ({ session with network }, failing (result.map fun _ ↦ .done))

/-- Finds or creates a sender and gives it a label. -/
def createSender (session : Session) (index : Nat) (agent : Agent) (request : ChannelRequest)
    (options : ChannelOptions) : Session × Except Refusal Answer :=
  match agent.createSender session.network.medium request.name request.kind options with
  | .error error => (session, throw (.failed error))
  | .ok (medium, agent, place) =>
    let network := Network.wake { session.network with medium, agents := session.network.agents.set index agent }
    let id : SenderId := ⟨index, place⟩
    let known := session.senders.labelsOf id
    let session := { session with network, senders := session.senders.put request.label id }
    match agent.senders[place]? with
    | none => (session, throw (.unknown .sender))
    | some sender => (session, pure (.createdSender known sender))

/-- Finds or creates a receiver and gives it a label. -/
def createReceiver (session : Session) (index : Nat) (agent : Agent) (request : ChannelRequest)
    (options : ChannelOptions) : Session × Except Refusal Answer :=
  match agent.createReceiver session.network.medium request.name request.kind options with
  | .error error => (session, throw (.failed error))
  | .ok (medium, agent, place) =>
    let network := Network.wake { session.network with medium, agents := session.network.agents.set index agent }
    let id : ReceiverId := ⟨index, place⟩
    let known := session.receivers.labelsOf id
    let session := { session with network, receivers := session.receivers.put request.label id }
    match agent.receivers[place]? with
    | none => (session, throw (.unknown .receiver))
    | some receiver => (session, pure (.createdReceiver known receiver))

/-- Registers a callback, and counts the callbacks then. -/
def register (session : Session) (id : ReceiverId) (receiver : Receiver) (callback : Callback) : Session × Answer :=
  let receiver := receiver.register callback
  (session.onNetwork fun network ↦ network.modifyReceiver id fun _ ↦ receiver, .count receiver.callbacks.length)

/-- Whether anything still holds a receiver: its agent, a label, or a callback of its own. -/
def holds (session : Session) (id : ReceiverId) : Bool :=
  session.network.holdsReceivers id.agent || session.receivers.any (fun entry ↦ entry.2 = id) ||
    session.network.holdsItself id

/-- What a wait for the next message has come to. -/
def poll (session : Session) (ticket : Nat) : Poll :=
  match session.network.replies[ticket]? with
  | some (.delivered delivery) => .ready delivery
  | some (.waiting id) => if session.holds id then .pending else .gone
  | none => .gone

def sortMessages (messages : List Message) : List Message :=
  messages.mergeSort fun a b ↦ a.topic < b.topic || (a.topic == b.topic && decide (a.payload ≤ b.payload))

/-! ## Requests -/

/-- Carries out a request whose labels are found step by step; a request that is refused changes nothing. -/
def attempt (session : Session) (work : Except Refusal (Session × Except Refusal Answer)) :
    Session × Except Refusal Answer :=
  match work with
  | .ok done => done
  | .error refusal => (session, throw refusal)

/-- Answers a question, which changes nothing. -/
def question (session : Session) (answer : Except Refusal Answer) : Session × Except Refusal Answer :=
  (session, answer)

def handle (session : Session) : Request → Session × Except Refusal Answer
  | .build request => session.attempt do
    pure (session.build request.agent (← builderOf request))
  | .inspectBuilder request => session.question do
    pure (.text ((← builderOf request).inspect session.network.medium))
  | .describe agent => session.question do
    let (_, agent) ← session.findAgent agent
    pure (.agent agent)
  | .inspectAgent agent => session.question do
    let (_, agent) ← session.findAgent agent
    pure (.text (agent.inspect session.network.medium))
  | .connect agent overrides => session.attempt do
    let (index, agent) ← session.findAgent agent
    pure (session.onAgent index agent (fun medium agent ↦ agent.connect medium overrides) fun _ ↦ .done)
  | .startConnect agent ticket overrides => session.attempt do
    let (index, _) ← session.findAgent agent
    pure (session.onNetwork fun network ↦ network.startConnect index ticket overrides, pure .done)
  | .disconnect agent => session.attempt do
    let (index, agent) ← session.findAgent agent
    pure (session.onAgent index agent
      (fun medium agent ↦
        let (medium, agent) := agent.disconnect medium
        (medium, agent, pure ()))
      fun _ ↦ .done)
  | .dropAgent label background =>
    match session.agents.get? label with
    | none => (session, pure (.flag false))
    | some index =>
      let dispose := if background then Network.closeLater else Network.forget
      let session := { session with agents := session.agents.remove label }
      (session.onNetwork fun network ↦ network.letGo index dispose, pure (.flag true))
  | .publishRaw agent message qos retain => session.attempt do
    let (_, agent) ← session.findAgent agent
    let qos ← checkQoS qos
    pure (session.publishAs agent message ⟨qos.getD .atLeastOnce, retain⟩)
  | .script label change =>
    let changed (medium : Medium) := medium.setScript label ((medium.script label).changed change)
    (session.onNetwork fun network ↦ network.onMedium changed, pure .done)
  | .release transport number =>
    let (network, waiting) := session.network.releaseConnect transport number
    ({ session with network }, pure (.flag waiting))
  | .createSender request => session.attempt do
    let qos ← checkQoS request.qos
    let (index, agent) ← session.findAgent request.agent
    pure (session.createSender index agent request { request.options with qos })
  | .describeSender sender => session.question do
    let (_, sender) ← session.findSender sender
    pure (.sender sender)
  | .inspectSender sender => session.question do
    let (_, sender) ← session.findSender sender
    pure (.text sender.inspect)
  | .send sender value => session.attempt do
    let (agent, sender) ← session.findSender sender
    let payload ← failing (sender.kind.encode (value sender.kind))
    pure (session.publishAs agent ⟨sender.definition.topic, payload⟩ sender.options)
  | .sendRaw sender payload => session.attempt do
    let (agent, sender) ← session.findSender sender
    pure (session.publishAs agent ⟨sender.definition.topic, payload⟩ sender.options)
  | .createReceiver request => session.attempt do
    let qos ← checkQoS request.qos
    let (index, agent) ← session.findAgent request.agent
    pure (session.createReceiver index agent request { request.options with qos })
  | .subscribe agent receiver => session.attempt do
    let (id, receiver) ← session.findReceiver receiver
    let (_, agent) ← session.findAgent agent
    pure (session.subscribeAs agent id receiver)
  | .describeReceiver receiver => session.question do
    let (_, receiver) ← session.findReceiver receiver
    pure (.receiver receiver)
  | .inspectReceiver receiver => session.question do
    let (_, receiver) ← session.findReceiver receiver
    pure (.text receiver.inspect)
  | .accepts receiver topics => session.question do
    let (_, receiver) ← session.findReceiver receiver
    pure (.flags (topics.map receiver.pattern.accepts))
  | .register receiver callback => session.attempt do
    let (id, receiver) ← session.findReceiver receiver
    let (session, answer) := session.register id receiver callback
    pure (session, pure answer)
  | .dropReceiver label =>
    ({ session with receivers := session.receivers.remove label }, pure (.flag (session.receivers.get? label).isSome))
  | .next receiver label => session.attempt do
    let (id, receiver) ← session.findReceiver receiver
    let ticket := session.network.replies.length
    let (session, _) := session.register id receiver ⟨true, .reply ticket⟩
    let session := session.onNetwork fun network ↦ { network with replies := network.replies ++ [.waiting id] }
    pure ({ session with nexts := session.nexts.put label ticket }, pure .done)
  | .poll label =>
    match session.nexts.get? label with
    | none => (session, throw (.unknown .next))
    | some ticket =>
      match session.poll ticket with
      | .pending => (session, pure (.poll .pending))
      | poll => ({ session with nexts := session.nexts.remove label }, pure (.poll poll))
  | .dropNext label =>
    ({ session with nexts := session.nexts.remove label }, pure (.flag (session.nexts.get? label).isSome))
  | .publish topic payload retain times => session.attempt do
    let payload ← failing payload
    let publish (network : Network) := network.publish ⟨topic, payload⟩ retain
    pure (session.onNetwork fun network ↦ Nat.repeat publish times network, pure .done)
  | .setAvailable available => (session.onBroker fun broker ↦ { broker with available }, pure .done)
  | .requireCredentials credentials =>
    (session.onBroker fun broker ↦ { broker with credentials := some credentials }, pure .done)
  | .silenceAll => (session.onBroker Broker.silenceAll, pure .done)
  | .report clients topics => session.question do
    let broker := session.network.medium.broker
    pure (.report broker.connectionCount broker.published (topics.map broker.retained?)
      (clients.map fun client ↦ broker.subscriptionsOf (.given client)))
  | .inspectBroker => session.question (pure (.text session.network.medium.broker.inspect))
  | .rawConnect label clientId options => session.attempt do
    let (broker, connection) ← refusing (session.network.medium.broker.connect options (.given clientId))
    let session := session.onBroker fun _ ↦ broker
    let session := match session.raws.get? label with
      | none => session
      | some old => session.onBroker fun broker ↦ broker.close old
    let text := session.network.medium.broker.inspectConnection connection
    pure ({ session with raws := session.raws.put label connection }, pure (.text text))
  | .rawSubscribe label pattern qos => session.attempt do
    let qos ← checkQoS qos
    let connection ← session.findRaw label
    pure (session.request (session.network.medium.broker.subscribe connection pattern (qos.getD .atLeastOnce)))
  | .rawPublish label message retain => session.attempt do
    let connection ← session.findRaw label
    pure (session.request (session.network.medium.broker.publish connection message retain))
  | .rawClose label => session.attempt do
    let connection ← session.findRaw label
    pure (session.onBroker fun broker ↦ broker.close connection, pure .done)
  | .rawLive label => session.question do
    let connection ← session.findRaw label
    let broker := session.network.medium.broker
    pure (.link (broker.isLive connection) (broker.inspectConnection connection))
  | .rawReceive label sorted => session.attempt do
    let connection ← session.findRaw label
    let broker := session.network.medium.broker
    let messages := broker.inbox connection
    let messages := if sorted then sortMessages messages else messages
    pure (session.onBroker fun broker ↦ broker.emptyInbox connection,
      pure (.received messages (broker.isClosed connection)))
  | .rawDrop label =>
    match session.raws.get? label with
    | none => (session, pure (.flag false))
    | some connection =>
      let session := session.onBroker fun broker ↦ broker.close connection
      ({ session with raws := session.raws.remove label }, pure (.flag true))

/-! ## Steps -/

/-- How many steps of background work settling may take. -/
def settleLimit : Nat := 1000000

def status (session : Session) (label : String) : Option (ConnectionState × Bool) :=
  match session.findAgent label with
  | .ok (_, agent) => some (agent.connection.state, agent.isConnected session.network.medium)
  | .error _ => none

/-- Carries out a step and tells what could be seen of it. -/
def step (session : Session) (step : Step) : Session × Outcome :=
  let session := session.onNetwork fun network ↦
    { network with medium := { network.medium with observations := [] } }
  let (session, answer) := session.handle step.request
  let session := if step.settles then session.onNetwork (Network.run settleLimit) else session
  (session, {
    answer
    status := step.watched >>= session.status
    report := .ofObservations step.sorted session.network.medium.observations })

def steps (session : Session) : List Step → List Outcome
  | [] => []
  | next :: rest =>
    let (session, outcome) := session.step next
    outcome :: session.steps rest

end Session

end PubSub
