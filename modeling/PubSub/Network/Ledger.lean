import PubSub.Network.Dispatch
/-!
# Ledgers

What becomes of the callbacks of one receiver. Every callback that is registered is numbered, by the count of those that
were registered before it, and keeps its number while the receiver has it; every pass over the callbacks is recorded
with the numbers of those that ran. Keeping a ledger changes nothing of the work.

A receiver is asked to register a callback, to hand its next message to somebody who waits for it, or to deliver a
message. Its callbacks do whatever handlers do, register further callbacks on it included.
-/

namespace PubSub

abbrev Numbered := Callback × Nat

/-- What happened when a message was delivered. -/
structure Pass where
  /-- How many callbacks had been registered when the pass began. -/
  known : Nat
  delivery : Delivery
  /-- The numbers of the callbacks that ran, in the order in which they ran. -/
  ran : List Nat

/-- A network with a record of the callbacks of one receiver. -/
structure Ledger where
  network : Network
  receiver : ReceiverId
  /-- All callbacks that were registered, the earliest first. The place of a callback is its number. -/
  registered : List Callback
  present : List Numbered
  passes : List Pass

inductive ReceiverRequest where
  /-- To register a callback, of either sort. -/
  | register (callback : Callback)
  /-- To hand the next message to the holder of a new ticket. -/
  | next
  | deliver (message : Message)

namespace Network

def serve (network : Network) (id : ReceiverId) : ReceiverRequest → Network
  | .register callback => network.modifyReceiver id fun receiver ↦ receiver.register callback
  | .next =>
    let network := network.modifyReceiver id fun receiver ↦ receiver.register ⟨true, .reply network.replies.length⟩
    { network with replies := network.replies ++ [.waiting id] }
  | .deliver message => network.offer message id

def serveAll (network : Network) (id : ReceiverId) (requests : List ReceiverRequest) : Network :=
  requests.foldl (fun network request ↦ network.serve id request) network

end Network

namespace Ledger

/-- A ledger that is opened now. The callbacks that the receiver has count as registered in their order. -/
def opened (network : Network) (receiver : ReceiverId) : Ledger :=
  let callbacks := ((network.receiver? receiver).map Receiver.callbacks).getD []
  ⟨network, receiver, callbacks, callbacks.zipIdx, []⟩

/-- The ledger after something that registers nothing on the receiver. -/
def onNetwork (ledger : Ledger) (operation : Network → Network) : Ledger :=
  { ledger with network := operation ledger.network }

def enter (ledger : Ledger) (callback : Callback) : Ledger :=
  { ledger with
    registered := ledger.registered ++ [callback]
    present := ledger.present ++ [(callback, ledger.registered.length)] }

/-- Notes what an action of the receiver's handlers registers on the receiver itself. -/
def enterAction (ledger : Ledger) : Action → Ledger
  | .register target once handler =>
    if target.getD ledger.receiver = ledger.receiver then ledger.enter ⟨once, handler⟩ else ledger
  | _ => ledger

/-- Does one thing that a handler of the receiver does. The second result tells whether the handler fails here. -/
def act (ledger : Ledger) (label : String) (delivery : Delivery) (action : Action) : Ledger × Bool :=
  let (network, fails) := ledger.network.act ledger.receiver label delivery action
  ({ ledger.enterAction action with network }, fails)

def actAll (ledger : Ledger) (label : String) (delivery : Delivery) : List Action → Ledger × Bool
  | [] => (ledger, false)
  | action :: rest =>
    match ledger.act label delivery action with
    | (ledger, true) => (ledger, true)
    | (ledger, false) => ledger.actAll label delivery rest

def runHandler (ledger : Ledger) (delivery : Delivery) : Handler → Ledger
  | .reply ticket => ledger.onNetwork fun network ↦ network.runHandler ledger.receiver delivery (.reply ticket)
  | .scripted label actions =>
    let ledger := ledger.onNetwork fun network ↦
      network.observe (.event (network.labelOf ledger.receiver.agent) (.ran label delivery))
    match ledger.actAll label delivery actions with
    | (ledger, false) => ledger
    | (ledger, true) => ledger.onNetwork fun network ↦ network.observe .failure

/-- Runs callbacks one after the other, and tells the numbers of those that ran. -/
def runEach (ledger : Ledger) (delivery : Delivery) : List Numbered → Ledger × List Nat
  | [] => (ledger, [])
  | (callback, number) :: rest =>
    let ledger := ledger.runHandler delivery callback.handler
    let (ledger, numbers) := ledger.runEach delivery rest
    (ledger, number :: numbers)

/-- Delivers to the receiver: a pass over the callbacks that it has. -/
def deliver (ledger : Ledger) (delivery : Delivery) : Ledger :=
  let known := ledger.registered.length
  let running := ledger.present
  let taken := { ledger with present := [] }.onNetwork fun network ↦
    network.modifyReceiver ledger.receiver fun receiver ↦ { receiver with callbacks := [] }
  let (ledger, ran) := taken.runEach delivery running
  let kept := running.filter fun entry ↦ !entry.1.once
  { ledger with
    network := ledger.network.modifyReceiver ledger.receiver fun receiver ↦
      { receiver with callbacks := kept.map Prod.fst ++ receiver.callbacks }
    present := kept ++ ledger.present
    passes := ledger.passes ++ [⟨known, delivery, ran⟩] }

def offer (ledger : Ledger) (message : Message) : Ledger :=
  match ledger.network.receiver? ledger.receiver with
  | none => ledger
  | some receiver =>
    match receiver.read? message with
    | none => ledger.onNetwork fun network ↦ network.observe .failure
    | some delivery => ledger.deliver delivery

def serve (ledger : Ledger) : ReceiverRequest → Ledger
  | .register callback =>
    (ledger.enter callback).onNetwork fun network ↦ network.serve ledger.receiver (.register callback)
  | .next =>
    (ledger.enter ⟨true, .reply ledger.network.replies.length⟩).onNetwork fun network ↦
      network.serve ledger.receiver .next
  | .deliver message => ledger.offer message

def serveAll (ledger : Ledger) (requests : List ReceiverRequest) : Ledger :=
  requests.foldl serve ledger

/-- Whether a callback still has to run: it stays, or no pass has begun since it was registered. -/
def isDue (passes : List Pass) (entry : Numbered) : Bool :=
  !entry.1.once || passes.all fun pass ↦ pass.known ≤ entry.2

def hasRun (ledger : Ledger) (number : Nat) : Bool :=
  ledger.passes.any fun pass ↦ pass.ran.contains number

end Ledger

end PubSub
