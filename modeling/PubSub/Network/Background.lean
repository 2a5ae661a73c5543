import PubSub.Network.Dispatch
/-!
# Background work

The tasks of a network are done one step at a time. A dispatcher keeps its turn until its inbox is empty; it ends when
the inbox is empty and nothing more can come, and it does nothing once its agent has stopped it. A connect in the
background goes on until its transport holds the answer back. An agent that nobody holds is given up as soon as no
connect of it is under way, and its connection is then closed in the background.

A network is settled when no task is ready. Callbacks that publish may keep a network busy for ever, so settling is
bounded by a number of steps.
-/

namespace PubSub

namespace Network

/-- Whether a connect of the agent is under way. -/
def isConnecting (network : Network) (agent : Nat) : Bool :=
  network.attempts.any fun attempt ↦ attempt.agent = agent && attempt.progress ≠ .finished

/-- Gives an agent up: its dispatcher stops, and the handle that it held is handed to `dispose`. -/
def giveUp (network : Network) (index : Nat) (dispose : Network → Agent → ConnectionId → Network) : Network :=
  match network.agents[index]? with
  | none => network
  | some agent =>
    let (released, handle) := agent.release
    let network := network.setAgent index released
    match handle with
    | none => network
    | some handle => dispose network agent handle

/-- Leaves a connection to be closed in the background. -/
def closeLater (network : Network) (agent : Agent) (handle : ConnectionId) : Network :=
  network.schedule (.close agent.transport handle)

/-- Forgets a connection where nothing can be done in the background. -/
def forget (network : Network) (_ : Agent) (handle : ConnectionId) : Network :=
  network.onMedium fun medium ↦ medium.onBroker fun broker ↦ broker.close handle

/-- Lets go of an agent. It is given up at once unless a connect of it is under way. -/
def letGo (network : Network) (index : Nat) (dispose : Network → Agent → ConnectionId → Network) : Network :=
  let network := network.modifyAgent index fun agent ↦ { agent with held := false }
  if network.isConnecting index then network else network.giveUp index dispose

def startConnect (network : Network) (agent : Nat) (ticket : String) (overrides : BrokerOverrides) : Network :=
  let attempt : Attempt := ⟨ticket, agent, overrides, .queued⟩
  schedule { network with attempts := network.attempts ++ [attempt] } (.attempt network.attempts.length)

/-- Lets the connect of a number on a scripted transport have its answer. Tells whether one was waiting. -/
def releaseConnect (network : Network) (transport : String) (number : Nat) : Network × Bool :=
  let waits (attempt : Attempt) : Bool :=
    match attempt.progress with
    | .gated found _ =>
      found = number && network.agents[attempt.agent]?.any fun agent ↦ agent.transport = .scripted transport
    | _ => false
  match network.attempts.findIdx? waits with
  | none => (network, false)
  | some index =>
    let release (attempt : Attempt) : Attempt :=
      match attempt.progress with
      | .gated _ pending => { attempt with progress := .released pending }
      | _ => attempt
    (schedule { network with attempts := network.attempts.modify index release } (.attempt index), true)

def connect (network : Network) (index : Nat) (agent : Agent) (overrides : BrokerOverrides) :
    Network × Except Error Unit :=
  network.onAgent index agent fun medium agent ↦ agent.connect medium overrides

def setProgress (network : Network) (index : Nat) (progress : Progress) : Network :=
  { network with attempts := network.attempts.modify index fun attempt ↦ { attempt with progress } }

/-- Ends a connect with its result. An agent that nobody holds any more is given up with its last connect. -/
def finishConnect (network : Network) (index : Nat) (attempt : Attempt) (result : Except Error Unit) : Network :=
  let network := (network.setProgress index .finished).observe (.completed attempt.ticket result)
  if network.agents[attempt.agent]?.any (fun agent ↦ !agent.held) && !network.isConnecting attempt.agent then
    network.giveUp attempt.agent closeLater
  else network

def completeConnect (network : Network) (index : Nat) (attempt : Attempt) (agent : Agent) (pending : Pending) :
    Network :=
  let (network, result) := network.onAgent attempt.agent agent fun medium agent ↦ agent.completeConnect medium pending
  network.finishConnect index attempt result

/-- Carries a connect on as far as it can get. -/
def continueConnect (network : Network) (index : Nat) (attempt : Attempt) (agent : Agent) : Network :=
  match attempt.progress with
  | .queued =>
    match agent.beginConnect network.medium attempt.overrides with
    | .error error => network.finishConnect index attempt (throw error)
    | .ok (medium, agent, pending) =>
      let network := wake (setAgent { network with medium } attempt.agent agent)
      let script := medium.scriptOf agent.transport
      if script.gate then network.setProgress index (.gated script.attempts pending)
      else network.completeConnect index attempt agent pending
  | .released pending => network.completeConnect index attempt agent pending
  | .gated _ _ => network
  | .finished => network

/-- Lets a dispatcher look into its inbox: it dispatches a message and stays ready, or it rests. -/
def lookInside (network : Network) (index : Nat) (source : ConnectionId) (rest : List Task) : Network :=
  match network.agents[index]? with
  | none => { network with ready := rest }
  | some agent =>
    if agent.dispatcher.any fun dispatcher ↦ dispatcher.source = source && dispatcher.phase ≠ .finished then
      match network.medium.broker.take? source with
      | some (message, broker) =>
        dispatch { network with medium := { network.medium with broker } } index agent message
      | none =>
        let phase := if network.medium.broker.isClosed source then .finished else .resting
        let rested (agent : Agent) : Agent := { agent with dispatcher := some ⟨source, phase⟩ }
        modifyAgent { network with ready := rest } index rested
    else { network with ready := rest }

/-- One step of background work, if there is any. -/
def tick? (network : Network) : Option Network :=
  match network.ready with
  | [] => none
  | .dispatch index source :: rest => some (network.lookInside index source rest)
  | .close transport connection :: rest =>
    some (onMedium { network with ready := rest } fun medium ↦ (medium.close transport connection).1)
  | .attempt index :: rest =>
    let network := { network with ready := rest }
    match network.attempts[index]? with
    | none => some network
    | some attempt =>
      match network.agents[attempt.agent]? with
      | none => some network
      | some agent => some (network.continueConnect index attempt agent)

/-- The message that the next step of background work dispatches, if it dispatches one, with the connection in whose
inbox it stands and with the broker once it is taken from there. -/
def handed? (network : Network) : Option (ConnectionId × Message × Broker) :=
  match network.ready with
  | .dispatch index source :: _ =>
    match network.agents[index]? with
    | none => none
    | some agent =>
      if agent.dispatcher.any fun dispatcher ↦ dispatcher.source = source && dispatcher.phase ≠ .finished then
        (network.medium.broker.take? source).map fun taken ↦ (source, taken)
      else none
  | _ => none

/-- At most `steps` steps of background work. -/
def run : Nat → Network → Network
  | 0, network => network
  | steps + 1, network =>
    match network.tick? with
    | none => network
    | some network => run steps network

/-- Whether an agent or what it started in the background still holds its receivers. -/
def holdsReceivers (network : Network) (index : Nat) : Bool :=
  network.agents[index]?.any Agent.held || network.isConnecting index || network.ready.any fun task ↦
    match task with
    | .dispatch agent _ => agent = index
    | _ => false

/-- Whether a callback of the receiver holds the receiver, as scripted ones do. -/
def holdsItself (network : Network) (id : ReceiverId) : Bool :=
  (network.receiver? id).any fun receiver ↦ receiver.callbacks.any fun callback ↦
    match callback.handler with
    | .scripted _ _ => true
    | .reply _ => false

end Network

end PubSub
