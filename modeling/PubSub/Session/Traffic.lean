import PubSub.Session.Basic
/-!
# Traffic

What a session does, move by move: it carries out a request, or it does one step of the background work. A record is
kept of the messages that the broker has put into each inbox, and of those that dispatchers have taken from there and
handed on. A step of a session is a request and then as much background work as there is.
-/

namespace PubSub

/-- The messages that came into an inbox between two moments, if none was taken. -/
def Broker.arrivals (before after : Broker) (connection : ConnectionId) : List Message :=
  (after.inbox connection).drop (before.inbox connection).length

/-- Whether the dispatcher of an agent was started for a connection and has not been stopped. -/
def Network.Reads (network : Network) (index : Nat) (connection : ConnectionId) : Prop :=
  ∃ agent phase, network.agents[index]? = some agent ∧ agent.dispatcher = some ⟨connection, phase⟩

/-- The session without what was observed so far. -/
def Session.cleared (session : Session) : Session :=
  session.onNetwork fun network ↦ { network with medium := { network.medium with observations := [] } }

inductive Move where
  /-- A request is carried out, and no background work. -/
  | request (request : Request)
  /-- One step of background work is done, if there is any. -/
  | work

/-- A session with a record of its messages. -/
structure Traffic where
  session : Session
  /-- The messages that the broker has put into the inbox of a connection, the oldest first. -/
  enqueued : ConnectionId → List Message
  /-- The messages that a dispatcher has taken from the inbox of a connection and handed on, the oldest first. -/
  dispatched : ConnectionId → List Message

namespace Traffic

def fresh : Traffic :=
  ⟨.fresh, fun _ ↦ [], fun _ ↦ []⟩

def enqueue (traffic : Traffic) (before after : Broker) : Traffic :=
  { traffic with enqueued := fun connection ↦ traffic.enqueued connection ++ before.arrivals after connection }

/-- Notes that a message of a connection is handed on. -/
def hand (traffic : Traffic) (source : ConnectionId) (message : Message) : Traffic :=
  { traffic with
    dispatched := fun connection ↦
      if connection = source then traffic.dispatched connection ++ [message] else traffic.dispatched connection }

/-- The traffic with the session that comes next. -/
def goOn (traffic : Traffic) (before : Broker) (session : Session) : Traffic :=
  { traffic.enqueue before session.network.medium.broker with session }

def request (traffic : Traffic) (request : Request) : Traffic :=
  traffic.goOn traffic.session.network.medium.broker (traffic.session.cleared.handle request).1

/-- Does one step of background work. A message that is handed on is taken from its inbox first. -/
def work (traffic : Traffic) : Traffic :=
  match traffic.session.network.tick? with
  | none => traffic
  | some network =>
    let session := { traffic.session with network }
    match traffic.session.network.handed? with
    | none => traffic.goOn traffic.session.network.medium.broker session
    | some (source, message, broker) => (traffic.hand source message).goOn broker session

def move (traffic : Traffic) : Move → Traffic
  | .request request => traffic.request request
  | .work => traffic.work

def run (traffic : Traffic) (moves : List Move) : Traffic :=
  moves.foldl move traffic

end Traffic

end PubSub
