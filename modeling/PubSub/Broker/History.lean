import PubSub.Broker.Basic
/-!
# The history of a broker

What a broker is asked for, one operation after the other, with a note of what succeeded and of what the owners of
connections have taken from their inboxes. The notes alone tell which connections are live, what topics retain and what
was sent to whom; nothing of that refers to the state of the broker.
-/

namespace PubSub.Broker

/-- What a broker can be asked for, on a connection or from outside all of them. -/
inductive Operation where
  | connect (options : BrokerOptions) (clientId : ClientId)
  | subscribe (handle : ConnectionId) (filter : String) (qos : QoS)
  | publishOn (handle : ConnectionId) (message : Message) (retain : Bool)
  | publish (message : Message) (retain : Bool)
  | finish (handle : ConnectionId)
  /-- The handle of a connection is let go of, ended or not. -/
  | drop (handle : ConnectionId)
  | silenceAll
  | setAvailable (available : Bool)
  | requireCredentials (credentials : Credentials)

def perform (broker : Broker) : Operation → Except BrokerError Broker
  | .connect options clientId => (broker.connect options clientId).map Prod.fst
  | .subscribe handle filter qos => broker.subscribe handle filter qos
  | .publishOn handle message retain => broker.publish handle message retain
  | .publish message retain => pure (broker.route message retain)
  | .finish handle | .drop handle => pure (broker.close handle)
  | .silenceAll => pure broker.silenceAll
  | .setAvailable available => pure { broker with available }
  | .requireCredentials credentials => pure { broker with credentials := some credentials }

/-- The connection whose owner makes a request of the broker on it. -/
def Operation.requester? : Operation → Option ConnectionId
  | .subscribe handle _ _ | .publishOn handle _ _ => some handle
  | _ => none

/-- The connection that an operation is an operation of, if it is one's. -/
def Operation.handle? : Operation → Option ConnectionId
  | .subscribe handle _ _ | .publishOn handle _ _ | .finish handle | .drop handle => some handle
  | _ => none

/-- An operation that was asked for, and whether it succeeded. -/
structure Event where
  operation : Operation
  succeeded : Bool

namespace Event

def accepts : Event → Bool
  | ⟨.connect _ _, succeeded⟩ => succeeded
  | _ => false

/-- Whether a connection is not live any more. -/
def ends (connection : ConnectionId) : Event → Bool
  | ⟨.finish handle, _⟩ | ⟨.drop handle, _⟩ => handle = connection
  | ⟨.silenceAll, _⟩ => true
  | _ => false

/-- The message that was routed, and whether it was to be retained. -/
def routed? : Event → Option (Message × Bool)
  | ⟨.publishOn _ message retain, true⟩ | ⟨.publish message retain, true⟩ => some (message, retain)
  | _ => none

def subscription? (connection : ConnectionId) : Event → Option Subscription
  | ⟨.subscribe handle filter qos, true⟩ => if handle = connection then some ⟨filter, qos⟩ else none
  | _ => none

end Event

/-! ## What the history tells -/

/-- The number of connections that were accepted. Each is known by the number of those before it. -/
def accepted (events : List Event) : Nat :=
  events.countP Event.accepts

/-- Whether a connection was accepted and nothing has ended it since. -/
def LiveAfter (events : List Event) (connection : ConnectionId) : Prop :=
  ∃ before event after, events = before ++ event :: after ∧ event.accepts ∧ accepted before = connection ∧
    ∀ later ∈ after, later.ends connection = false

def HoldsAfter (events : List Event) (connection : ConnectionId) (filter : String) : Prop :=
  ∃ qos, ⟨.subscribe connection filter qos, true⟩ ∈ events

/-- Of the subscriptions to one filter only the last, in the order of those that are left. -/
def lastOfEach : List Subscription → List Subscription
  | [] => []
  | first :: later =>
    if first.filter ∈ later.map Subscription.filter then lastOfEach later else first :: lastOfEach later

/-- The filters of a connection, in the order in which it was last subscribed to each of them. -/
def subscriptionsAfter (events : List Event) (connection : ConnectionId) : List Subscription :=
  lastOfEach (events.filterMap (Event.subscription? connection))

/-- What a topic retains: the payload of the last message that was routed on it to be retained, unless it is empty. -/
def retainedAfter (events : List Event) (topic : String) : Option Bytes :=
  let kept := (events.filterMap Event.routed?).filter fun (message, retain) ↦ retain && message.topic == topic
  kept.getLast?.bind fun (message, _) ↦ if message.payload.isEmpty then none else some message.payload

/-- Whether a connection is one that a message on a topic is sent to. -/
def WantsAfter (events : List Event) (connection : ConnectionId) (topic : String) : Prop :=
  LiveAfter events connection ∧ ∃ filter, HoldsAfter events connection filter ∧ Filter.accepts filter topic

/-- What an event sends to a connection after the events before it. -/
inductive Sends (events : List Event) (connection : ConnectionId) : Event → List Message → Prop
  /-- A message is routed, and the connection gets one copy. -/
  | copy {event : Event} {message : Message} {retain : Bool} (routed : event.routed? = some (message, retain))
    (wanted : WantsAfter events connection message.topic) : Sends events connection event [message]
  | pass {event : Event} {message : Message} {retain : Bool} (routed : event.routed? = some (message, retain))
    (unwanted : ¬WantsAfter events connection message.topic) : Sends events connection event []
  /-- The connection is subscribed, and gets one copy of every retained message that the filter accepts. -/
  | retained {filter : String} {qos : QoS} {sent : List Message} (once : sent.Nodup)
    (mem_iff : ∀ message, message ∈ sent ↔
      retainedAfter events message.topic = some message.payload ∧ Filter.accepts filter message.topic) :
    Sends events connection ⟨.subscribe connection filter qos, true⟩ sent
  | nothing {event : Event} (unrouted : event.routed? = none)
    (other : ∀ filter qos, event ≠ ⟨.subscribe connection filter qos, true⟩) : Sends events connection event []

/-- What was sent to a connection by all events, in their order. -/
inductive Sent (connection : ConnectionId) : List Event → List Message → Prop
  | start : Sent connection [] []
  | next {events : List Event} {event : Event} {earlier more : List Message} (sent : Sent connection events earlier)
    (sends : Sends events connection event more) : Sent connection (events ++ [event]) (earlier ++ more)

/-! ## Keeping account -/

/-- What happens at a broker: it is asked for something, or the owner of a connection takes a message that was sent. -/
inductive Turn where
  | ask (operation : Operation)
  | take (connection : ConnectionId)

def Turn.asked? : Turn → Option Operation
  | .ask operation => some operation
  | .take _ => none

/-- The connection whose turn it is, if it is one's. -/
def Turn.handle? : Turn → Option ConnectionId
  | .ask operation => operation.handle?
  | .take connection => some connection

/-- A broker with what was asked of it, the first thing first, and with what was taken from inboxes. -/
structure Account where
  broker : Broker
  events : List Event
  taken : ConnectionId → List Message

namespace Account

def fresh : Account :=
  ⟨.fresh, [], fun _ ↦ []⟩

/-- Asks the broker for something, and notes whether it succeeded. -/
def ask (account : Account) (operation : Operation) : Account :=
  match account.broker.perform operation with
  | .ok broker => { account with broker, events := account.events ++ [⟨operation, true⟩] }
  | .error _ => { account with events := account.events ++ [⟨operation, false⟩] }

def take (account : Account) (connection : ConnectionId) : Account :=
  match account.broker.take? connection with
  | none => account
  | some (message, broker) =>
    { account with
      broker
      taken := fun other ↦ if other = connection then account.taken other ++ [message] else account.taken other }

def turn (account : Account) : Turn → Account
  | .ask operation => account.ask operation
  | .take connection => account.take connection

def run (account : Account) (turns : List Turn) : Account :=
  turns.foldl turn account

/-- What was sent to a connection: what its owner has taken, and what waits in its inbox. -/
def sentTo (account : Account) (connection : ConnectionId) : List Message :=
  account.taken connection ++ account.broker.inbox connection

end Account

end PubSub.Broker
