import PubSub.Broker.Options
import PubSub.Bytes
import PubSub.Quality
import PubSub.Topic.Filter
/-!
# The broker

A broker in the process. It keeps a record per accepted connection, in the order of acceptance, and the messages that
topics retain. A message that is published reaches every live connection once that holds a filter accepting its topic,
however many of its filters do. Records are never deleted: a connection ends as `closed`, so what it was sent before
can still be read from its inbox.

Beside routing the broker can fail on purpose: it can be made unavailable, ask for credentials, and silence all
connections without telling anybody.
-/

namespace PubSub

/-- A message as the broker hands it on, before anybody matches or decodes it. -/
structure Message where
  topic : String
  payload : Bytes
  deriving DecidableEq

/-- The name that a client presents to the broker: given, or made up so that no two agents share it. -/
inductive ClientId where
  | given (name : String)
  | generated (serial : Nat)
  deriving DecidableEq

/-- The name in texts, where a made-up one only shows as such. -/
def ClientId.text : ClientId → String
  | given name => name
  | generated _ => "<generated>"

/-- A connection of the broker, by its place in the order of acceptance. -/
abbrev ConnectionId := Nat

inductive LinkStatus where
  | live
  /-- The connection was cut without notice. The broker still lists it, but sends it nothing. -/
  | silenced
  /-- The broker has forgotten the connection, and nothing will be added to its inbox. -/
  | closed
  deriving DecidableEq

structure Subscription where
  filter : String
  qos : QoS
  deriving DecidableEq

/-- An accepted connection. -/
structure Client where
  clientId : ClientId
  status : LinkStatus
  subscriptions : List Subscription
  /-- The messages that were sent to the client and not yet taken, the oldest first. -/
  inbox : List Message
  deriving DecidableEq

/-- Whom a connection must claim to be. -/
structure Credentials where
  username : String
  password : String
  deriving DecidableEq

inductive BrokerError where
  | unreachable (uri : String)
  | badCredentials (uri : String)
  | notLive (connection : ConnectionId)
  deriving DecidableEq

/-- The number of a connection in texts, counted from one. -/
def ConnectionId.number (connection : ConnectionId) : String :=
  toString (connection + 1)

def BrokerError.message : BrokerError → String
  | unreachable uri => "broker at " ++ uri ++ " is unreachable"
  | badCredentials uri => "broker at " ++ uri ++ " refused connection: bad username or password"
  | notLive connection => "connection " ++ ConnectionId.number connection ++ " is closed"

structure Broker where
  clients : List Client
  /-- For each topic that retains a message, its payload. -/
  retained : List Message
  credentials : Option Credentials
  available : Bool
  /-- How many messages were accepted for routing. -/
  published : Nat
  deriving DecidableEq

namespace Client

def wants (client : Client) (topic : String) : Bool :=
  client.subscriptions.any fun subscription ↦ Filter.accepts subscription.filter topic

/-- The client with a message put into its inbox, if it is live and wants it. -/
def offer (client : Client) (message : Message) : Client :=
  if client.status = .live ∧ client.wants message.topic then
    { client with inbox := client.inbox ++ [message] }
  else client

/-- The client with a filter. A filter that it holds already moves to the end and takes the new guarantee. -/
def withFilter (client : Client) (filter : String) (qos : QoS) : Client :=
  let others := client.subscriptions.filter fun subscription ↦ subscription.filter != filter
  { client with subscriptions := others ++ [⟨filter, qos⟩] }

end Client

namespace Broker

def fresh : Broker :=
  ⟨[], [], none, true, 0⟩

def isLive (broker : Broker) (connection : ConnectionId) : Bool :=
  broker.clients[connection]?.any fun client ↦ client.status = .live

/-- Whether the broker has forgotten the connection. -/
def isClosed (broker : Broker) (connection : ConnectionId) : Bool :=
  broker.clients[connection]?.all fun client ↦ client.status = .closed

def modifyClient (broker : Broker) (connection : ConnectionId) (change : Client → Client) : Broker :=
  { broker with clients := broker.clients.modify connection change }

/-- Accepts a connection, unless the broker is unavailable or wants other credentials. -/
def connect (broker : Broker) (options : BrokerOptions) (clientId : ClientId) :
    Except BrokerError (Broker × ConnectionId) :=
  if !broker.available then throw (.unreachable options.uri)
  else if broker.credentials.all fun wanted ↦ wanted == ⟨options.username, options.password⟩ then
    pure ({ broker with clients := broker.clients ++ [⟨clientId, .live, [], []⟩] }, broker.clients.length)
  else throw (.badCredentials options.uri)

def retained? (broker : Broker) (topic : String) : Option Bytes :=
  (broker.retained.find? fun message ↦ message.topic == topic).map Message.payload

/-- The retained messages after one more: an empty payload clears its topic, any other takes its place. -/
def retain (retained : List Message) (message : Message) : List Message :=
  let others := retained.filter fun other ↦ other.topic != message.topic
  if message.payload.isEmpty then others else others ++ [message]

/-- Accepts a message for routing. Every live client that wants it gets one copy. -/
def route (broker : Broker) (message : Message) (retain : Bool) : Broker :=
  { broker with
    published := broker.published + 1
    retained := if retain then Broker.retain broker.retained message else broker.retained
    clients := broker.clients.map fun client ↦ client.offer message }

/-- Subscribes a live connection to a filter, and sends it the retained messages that the filter accepts. -/
def subscribe (broker : Broker) (connection : ConnectionId) (filter : String) (qos : QoS) :
    Except BrokerError Broker :=
  if broker.isLive connection then
    let found := broker.retained.filter fun message ↦ Filter.accepts filter message.topic
    pure (broker.modifyClient connection fun client ↦
      let client := client.withFilter filter qos
      { client with inbox := client.inbox ++ found })
  else throw (.notLive connection)

def publish (broker : Broker) (connection : ConnectionId) (message : Message) (retain : Bool) :
    Except BrokerError Broker :=
  if broker.isLive connection then pure (broker.route message retain) else throw (.notLive connection)

/-- Forgets a connection. -/
def close (broker : Broker) (connection : ConnectionId) : Broker :=
  broker.modifyClient connection fun client ↦ { client with status := .closed }

/-- Cuts every live connection without notice. -/
def silenceAll (broker : Broker) : Broker :=
  { broker with
    clients := broker.clients.map fun client ↦
      if client.status = .live then { client with status := .silenced } else client }

/-- The oldest message of an inbox, taken out. -/
def take? (broker : Broker) (connection : ConnectionId) : Option (Message × Broker) :=
  match broker.clients[connection]? with
  | some ⟨_, _, _, message :: rest⟩ =>
    some (message, broker.modifyClient connection fun client ↦ { client with inbox := rest })
  | _ => none

def inbox (broker : Broker) (connection : ConnectionId) : List Message :=
  (broker.clients[connection]?.map Client.inbox).getD []

def emptyInbox (broker : Broker) (connection : ConnectionId) : Broker :=
  broker.modifyClient connection fun client ↦ { client with inbox := [] }

/-- The number of live connections. -/
def connectionCount (broker : Broker) : Nat :=
  broker.clients.countP fun client ↦ client.status = .live

/-- The filters of the connections that present the name, in the order of subscription. A connection that the broker
has forgotten has none. -/
def subscriptionsOf (broker : Broker) (clientId : ClientId) : List String :=
  (broker.clients.filter fun client ↦ client.clientId = clientId ∧ client.status ≠ .closed).flatMap fun client ↦
    client.subscriptions.map Subscription.filter

/-- The broker in diagnostic texts, which count the connections that it lists. -/
def inspect (broker : Broker) : String :=
  Text.record "MemoryBroker" [
    ("connection_count", toString (broker.clients.countP fun client ↦ client.status ≠ .closed)),
    ("retained_count", toString broker.retained.length),
    ("available", Text.flag broker.available)]

def inspectConnection (broker : Broker) (connection : ConnectionId) : String :=
  Text.openRecord "Connection" [
    ("handle", Text.record "MemoryHandle" [
      ("id", ConnectionId.number connection), ("live", Text.flag (broker.isLive connection))])]

end Broker

end PubSub
