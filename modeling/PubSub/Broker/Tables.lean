import PubSub.Broker.History
/-!
# The tables of a broker

How the records of a broker are kept: a table of the clients that are registered, a flag for each handle that its table
entry shares, and an inbox whose far end its owner keeps. Handle and table may disagree as far as the tables go. A
handle that says it is live and is not registered would be refused for another reason than a handle that is not live.
-/

namespace PubSub.Broker

structure Entry where
  clientId : ClientId
  subscriptions : List Subscription

def Entry.wants (entry : Entry) (topic : String) : Bool :=
  entry.subscriptions.any fun subscription ↦ Filter.accepts subscription.filter topic

/-- Why the tables refuse a request. -/
inductive TableError where
  | broker (error : BrokerError)
  /-- The handle is live, and the client is not registered. -/
  | unknown (connection : ConnectionId)

/-- The records of a broker. -/
@[ext]
structure Tables where
  entries : ConnectionId → Option Entry
  /-- What the handles say of themselves. -/
  live : ConnectionId → Bool
  inboxes : ConnectionId → List Message
  /-- The number that the next connection gets. -/
  next : ConnectionId
  retained : List Message
  credentials : Option Credentials
  available : Bool
  published : Nat

namespace Tables

def fresh : Tables :=
  ⟨fun _ ↦ none, fun _ ↦ false, fun _ ↦ [], 0, [], none, true, 0⟩

def put {α : Type} (table : ConnectionId → α) (connection : ConnectionId) (value : α) (other : ConnectionId) : α :=
  if other = connection then value else table other

/-- Accepts a connection under a new number, unless the broker is unavailable or wants other credentials. -/
def connect (tables : Tables) (options : BrokerOptions) (clientId : ClientId) : Except TableError Tables :=
  if !tables.available then throw (.broker (.unreachable options.uri))
  else if tables.credentials.all fun wanted ↦ wanted == ⟨options.username, options.password⟩ then
    pure { tables with
      entries := put tables.entries tables.next (some ⟨clientId, []⟩)
      live := put tables.live tables.next true
      inboxes := put tables.inboxes tables.next []
      next := tables.next + 1 }
  else throw (.broker (.badCredentials options.uri))

/-- Subscribes the client of a live handle, which has to be registered, and sends it what is retained. -/
def subscribe (tables : Tables) (handle : ConnectionId) (filter : String) (qos : QoS) : Except TableError Tables :=
  if tables.live handle then
    match tables.entries handle with
    | none => throw (.unknown handle)
    | some entry =>
      let others := entry.subscriptions.filter fun subscription ↦ subscription.filter != filter
      let found := tables.retained.filter fun message ↦ Filter.accepts filter message.topic
      pure { tables with
        entries := put tables.entries handle (some { entry with subscriptions := others ++ [⟨filter, qos⟩] })
        inboxes := put tables.inboxes handle (tables.inboxes handle ++ found) }
  else throw (.broker (.notLive handle))

/-- Routes a message to every client that is registered, live and wants it. -/
def route (tables : Tables) (message : Message) (retain : Bool) : Tables :=
  { tables with
    published := tables.published + 1
    retained := if retain then Broker.retain tables.retained message else tables.retained
    inboxes := fun connection ↦
      match tables.entries connection with
      | none => tables.inboxes connection
      | some entry =>
        if tables.live connection && entry.wants message.topic then tables.inboxes connection ++ [message]
        else tables.inboxes connection }

/-- Ends a handle, which is not live from then on, and removes its client. -/
def close (tables : Tables) (handle : ConnectionId) : Tables :=
  { tables with live := put tables.live handle false, entries := put tables.entries handle none }

/-- Cuts the clients that are registered, by their flags. -/
def silenceAll (tables : Tables) : Tables :=
  { tables with live := fun connection ↦ tables.live connection && (tables.entries connection).isNone }

def perform (tables : Tables) : Operation → Except TableError Tables
  | .connect options clientId => tables.connect options clientId
  | .subscribe handle filter qos => tables.subscribe handle filter qos
  | .publishOn handle message retain =>
    if tables.live handle then pure (tables.route message retain) else throw (.broker (.notLive handle))
  | .publish message retain => pure (tables.route message retain)
  | .finish handle | .drop handle => pure (tables.close handle)
  | .silenceAll => pure tables.silenceAll
  | .setAvailable available => pure { tables with available }
  | .requireCredentials credentials => pure { tables with credentials := some credentials }

/-- What a turn leads to. A request that is refused changes nothing. -/
def turn (tables : Tables) : Turn → Tables
  | .ask operation =>
    match tables.perform operation with
    | .ok after => after
    | .error _ => tables
  | .take connection => { tables with inboxes := put tables.inboxes connection (tables.inboxes connection).tail }

def run (tables : Tables) (turns : List Turn) : Tables :=
  turns.foldl turn tables

end Tables

end PubSub.Broker
