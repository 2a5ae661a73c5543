import PubSub.Network.Journal
/-!
# Rounds

The way of one message over the receivers of an agent, with a record of the callbacks that are registered meanwhile. A
callback that is registered in the round is marked with its place among the registrations of the round, and keeps the
mark while its receiver has it, so that it is told apart from its equals. Keeping the record changes nothing of the
work.
-/

namespace PubSub

/-! ## What handlers register -/

structure Registered where
  /-- The receiver whose handler it was. -/
  source : ReceiverId
  /-- The receiver that gets the callback. -/
  target : ReceiverId
  callback : Callback

/-- What an action of a receiver's handler registers. -/
def Action.registrations (id : ReceiverId) : Action → List Registered
  | .register target once handler => [⟨id, target.getD id, ⟨once, handler⟩⟩]
  | _ => []

/-- Whether a handler fails at an action. -/
def Action.fails (delivery : Delivery) : Action → Bool
  | .fail => true
  | .failIf test => test delivery.payload
  | _ => false

/-- What a receiver's handler registers, up to the point where it fails. -/
def Handler.registrations (id : ReceiverId) (delivery : Delivery) : Handler → List Registered
  | .scripted _ actions => go actions
  | .reply _ => []
where
  go : List Action → List Registered
    | [] => []
    | action :: rest => action.registrations id ++ if action.fails delivery then [] else go rest

/-! ## Rounds -/

/-- A callback with its number among the registrations of a round, or with none if it is older than the round. -/
abbrev Marked := Callback × Option Nat

/-- The way of a message over the receivers of an agent, as far as it has come. -/
structure Round where
  journal : Journal
  present : ReceiverId → List Marked
  /-- What was registered in the round, the earliest first. The place of a registration is its number. -/
  registrations : List Registered
  /-- The callbacks that ran in the round, each with its receiver, the earliest first. -/
  runs : List (ReceiverId × Marked)

def Network.callbacksOf (network : Network) (id : ReceiverId) : List Callback :=
  ((network.receiver? id).map Receiver.callbacks).getD []

namespace Round

def opened (network : Network) : Round :=
  ⟨⟨network, []⟩, fun id ↦ (network.callbacksOf id).map fun callback ↦ (callback, none), [], []⟩

def setPresent (round : Round) (id : ReceiverId) (entries : List Marked) : Round :=
  { round with present := fun other ↦ if id = other then entries else round.present other }

/-- The round after something that is not part of it. -/
def onNetwork (round : Round) (operation : Network → Network) : Round :=
  { round with journal := round.journal.onNetwork operation }

def enter (round : Round) (registration : Registered) : Round :=
  let entry : Marked := (registration.callback, some round.registrations.length)
  { round.setPresent registration.target (round.present registration.target ++ [entry]) with
    registrations := round.registrations ++ [registration] }

def runCallback (round : Round) (id : ReceiverId) (delivery : Delivery) (entry : Marked) : Round :=
  (entry.1.handler.registrations id delivery).foldl enter
    { round with
      journal := round.journal.runCallback id delivery entry.1
      runs := round.runs ++ [(id, entry)] }

def deliver (round : Round) (id : ReceiverId) (delivery : Delivery) : Round :=
  let running := round.present id
  let kept := running.filter fun entry ↦ !entry.1.once
  let taken := (round.setPresent id []).onNetwork fun network ↦
    network.modifyReceiver id fun receiver ↦ { receiver with callbacks := [] }
  let ran := running.foldl (fun round entry ↦ round.runCallback id delivery entry) taken
  (ran.setPresent id (kept ++ ran.present id)).onNetwork fun network ↦
    network.modifyReceiver id fun receiver ↦ { receiver with callbacks := kept.map Prod.fst ++ receiver.callbacks }

def offer (round : Round) (message : Message) (id : ReceiverId) : Round :=
  match round.journal.network.receiver? id with
  | none => round
  | some receiver =>
    let round := { round with journal := round.journal.note (.offered id message receiver.callbacks) }
    match receiver.read? message with
    | none => round.onNetwork fun network ↦ network.observe .failure
    | some delivery => round.deliver id delivery

/-- Offers a message to the receiver of an agent at a place if the pattern of the receiver accepts it. The second
result counts the receivers that did. -/
def visit (index : Nat) (agent : Agent) (message : Message) (state : Round × Nat) (place : Nat) : Round × Nat :=
  if agent.receivers[place]?.any fun receiver ↦ receiver.pattern.accepts message.topic then
    (state.1.offer message ⟨index, place⟩, state.2 + 1)
  else state

/-- Takes a message to the receivers of an agent in the order of their creation, and tells how many accepted it. -/
def dispatch (round : Round) (index : Nat) (agent : Agent) (message : Message) : Round × Nat :=
  (List.range agent.receivers.length).foldl (visit index agent message) (round, 0)

end Round

end PubSub
