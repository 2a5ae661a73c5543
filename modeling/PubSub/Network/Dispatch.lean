import PubSub.Network.Basic
/-!
# Dispatching

A message that is taken from an inbox is offered to the receivers of the agent one after the other, in the order of
their creation. A receiver that cannot decode the message passes it over. A receiver that can runs the callbacks that
it has at that moment, in the order of their registration. The running callbacks are set aside meanwhile: a callback
that is registered during the pass waits for the next message, behind those that stay. A callback that fails spoils
neither the other callbacks nor the other receivers, and keeps its place if it is one that stays.
-/

namespace PubSub

namespace Network

/-- Publishes from outside any agent. -/
def publish (network : Network) (message : Message) (retain : Bool) : Network :=
  network.onMedium fun medium ↦ medium.onBroker fun broker ↦ broker.route message retain

def silenceAll (network : Network) : Network :=
  network.onMedium fun medium ↦ medium.onBroker Broker.silenceAll

/-- Does one thing that a handler of a receiver does. The second result tells whether the handler fails here. -/
def act (network : Network) (id : ReceiverId) (label : String) (delivery : Delivery) : Action → Network × Bool
  | .count =>
    let callbacks := ((network.receiver? id).map fun receiver ↦ receiver.callbacks.length).getD 0
    (network.observe (.event (network.labelOf id.agent) (.counted label callbacks)), false)
  | .register target once handler =>
    (network.modifyReceiver (target.getD id) fun receiver ↦ receiver.register ⟨once, handler⟩, false)
  | .publish topic payload retain => (network.publish ⟨topic, payload⟩ retain, false)
  | .silenceAll => (network.silenceAll, false)
  | .fail => (network, true)
  | .failIf test => (network, test delivery.payload)

/-- Does what a handler does, up to the point where it fails. -/
def actAll (network : Network) (id : ReceiverId) (label : String) (delivery : Delivery) :
    List Action → Network × Bool
  | [] => (network, false)
  | action :: rest =>
    match network.act id label delivery action with
    | (network, true) => (network, true)
    | (network, false) => network.actAll id label delivery rest

/-- Runs a handler. A failure is noted and goes no further. -/
def runHandler (network : Network) (id : ReceiverId) (delivery : Delivery) : Handler → Network
  | .reply ticket => { network with replies := network.replies.modify ticket fun _ ↦ .delivered delivery }
  | .scripted label actions =>
    let network := network.observe (.event (network.labelOf id.agent) (.ran label delivery))
    match network.actAll id label delivery actions with
    | (network, false) => network
    | (network, true) => network.observe .failure

/-- Delivers to a receiver: runs the callbacks it has, and keeps those that stay before those that came meanwhile. -/
def deliver (network : Network) (id : ReceiverId) (delivery : Delivery) (callbacks : List Callback) : Network :=
  let network := network.modifyReceiver id fun receiver ↦ { receiver with callbacks := [] }
  let network := callbacks.foldl (fun network callback ↦ network.runHandler id delivery callback.handler) network
  network.modifyReceiver id fun receiver ↦
    { receiver with callbacks := callbacks.filter (fun callback ↦ !callback.once) ++ receiver.callbacks }

def offer (network : Network) (message : Message) (id : ReceiverId) : Network :=
  match network.receiver? id with
  | none => network
  | some receiver =>
    match receiver.read? message with
    | none => network.observe .failure
    | some delivery => network.deliver id delivery receiver.callbacks

/-- Offers a message to every receiver of an agent whose pattern accepts its topic. -/
def dispatch (network : Network) (index : Nat) (agent : Agent) (message : Message) : Network :=
  (agent.offered message.topic).foldl (fun network place ↦ network.offer message ⟨index, place⟩) network

end Network

end PubSub
