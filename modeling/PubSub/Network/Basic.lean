import PubSub.Agent.Builder
/-!
# Networks

A network is a medium with the agents on it and the work that is still to be done in the background: inboxes to
dispatch, connects to carry on and connections of given-up agents to close. Background work stands in a queue of tasks
and is done in the order in which it became possible. Nothing is done in the background while an operation of the
network is carried out.

Agents, background connects and reply tickets are known by their places in the order of creation, and are never
deleted. An agent that nobody holds any more still has its senders and receivers.
-/

namespace PubSub

inductive Progress where
  | queued
  /-- The transport was asked and holds its answer back until the connect of that number is released. -/
  | gated (number : Nat) (pending : Pending)
  | released (pending : Pending)
  | finished
  deriving DecidableEq

/-- A connect in the background. -/
structure Attempt where
  ticket : String
  agent : Nat
  overrides : BrokerOverrides
  progress : Progress
  deriving DecidableEq

/-- Work that is ready to be done in the background. -/
inductive Task where
  /-- The dispatcher that an agent started for a connection looks into the inbox. -/
  | dispatch (agent : Nat) (source : ConnectionId)
  /-- A connect goes on as far as it can. -/
  | attempt (index : Nat)
  /-- A connection that an agent left behind is closed. -/
  | close (transport : Transport) (connection : ConnectionId)
  deriving DecidableEq

/-- What became of a wait for the next message of a receiver. -/
inductive Reply where
  | waiting (receiver : ReceiverId)
  | delivered (delivery : Delivery)
  deriving DecidableEq

/-- A medium with the agents on it and the work in the background. -/
structure Network where
  medium : Medium
  agents : List Agent
  attempts : List Attempt
  replies : List Reply
  /-- The tasks that are ready, the one that is next at the head. -/
  ready : List Task

namespace Network

def fresh : Network :=
  ⟨.fresh, [], [], [], []⟩

/-! ## Access -/

def receiver? (network : Network) (id : ReceiverId) : Option Receiver :=
  network.agents[id.agent]? >>= fun agent ↦ agent.receivers[id.index]?

def modifyAgent (network : Network) (index : Nat) (change : Agent → Agent) : Network :=
  { network with agents := network.agents.modify index change }

def modifyReceiver (network : Network) (id : ReceiverId) (change : Receiver → Receiver) : Network :=
  network.modifyAgent id.agent fun agent ↦ { agent with receivers := agent.receivers.modify id.index change }

def observe (network : Network) (observation : Observation) : Network :=
  { network with medium := network.medium.observe observation }

def labelOf (network : Network) (agent : Nat) : String :=
  (network.agents[agent]?.map Agent.label).getD ""

/-! ## Tasks -/

/-- The network with a task ready, which keeps its place if it is ready already. -/
def schedule (network : Network) (task : Task) : Network :=
  if network.ready.contains task then network else { network with ready := network.ready ++ [task] }

/-- The task of a dispatcher that is busy, or that rests and has something to look at: a message, or the end of its
inbox. -/
def wakeUp? (broker : Broker) (index : Nat) (agent : Agent) : Option Task :=
  match agent.dispatcher with
  | some ⟨source, .busy⟩ => some (.dispatch index source)
  | some ⟨source, .resting⟩ =>
    if broker.isClosed source || !(broker.inbox source).isEmpty then some (.dispatch index source) else none
  | _ => none

/-- The network with the tasks of all dispatchers ready that have something to do. -/
def wake (network : Network) : Network :=
  (network.agents.zipIdx.filterMap fun entry ↦ wakeUp? network.medium.broker entry.2 entry.1).foldl schedule network

/-- The network with an agent in the place of its earlier self. A dispatcher that the agent has stopped gets one more
turn, to end in. -/
def setAgent (network : Network) (index : Nat) (agent : Agent) : Network :=
  let stopped (dispatcher : Dispatcher) : Bool :=
    dispatcher.phase ≠ .finished && agent.dispatcher.all fun other ↦ other.source ≠ dispatcher.source
  let last := (network.agents[index]? >>= Agent.dispatcher).filter stopped
  let network := { network with agents := network.agents.set index agent }
  match last with
  | none => network
  | some dispatcher => network.schedule (.dispatch index dispatcher.source)

def onMedium (network : Network) (operation : Medium → Medium) : Network :=
  wake { network with medium := operation network.medium }

/-- The network after an operation of one agent on the medium, and what the operation gives. -/
def onAgent {α : Type} (network : Network) (index : Nat) (agent : Agent)
    (operation : Medium → Agent → Medium × Agent × α) : Network × α :=
  let (medium, agent, result) := operation network.medium agent
  (wake (setAgent { network with medium } index agent), result)

end Network

end PubSub
