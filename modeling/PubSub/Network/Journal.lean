import PubSub.Network.Background
/-!
# Journals

Background work with a record of what it brings to receivers: which messages are offered to them, which callbacks they
have at that moment, and which callbacks run on what. Keeping the record changes nothing of the work.
-/

namespace PubSub

/-- Something that happens to a receiver while a message is dispatched. -/
inductive Occurrence where
  /-- A message is offered to the receiver, which has the callbacks at that moment. -/
  | offered (receiver : ReceiverId) (message : Message) (callbacks : List Callback)
  | ran (receiver : ReceiverId) (callback : Callback) (delivery : Delivery)

def Occurrence.receiver : Occurrence → ReceiverId
  | offered receiver _ _ => receiver
  | ran receiver _ _ => receiver

def Occurrence.offer? : Occurrence → Option (ReceiverId × Message)
  | offered receiver message _ => some (receiver, message)
  | ran _ _ _ => none

def Occurrence.run? : Occurrence → Option (ReceiverId × Callback)
  | offered _ _ _ => none
  | ran receiver callback _ => some (receiver, callback)

/-- What happens to a receiver that is offered a message once: if it can read the message, each of the callbacks that
it has runs once. -/
def Receiver.occurrences (receiver : Receiver) (id : ReceiverId) (message : Message) (callbacks : List Callback) :
    List Occurrence :=
  .offered id message callbacks ::
    match receiver.read? message with
    | none => []
    | some delivery => callbacks.map fun callback ↦ .ran id callback delivery

/-- A network with a record of what has happened to its receivers, the oldest first. -/
structure Journal where
  network : Network
  entries : List Occurrence

namespace Journal

def entriesOf (journal : Journal) (id : ReceiverId) : List Occurrence :=
  journal.entries.filter fun entry ↦ entry.receiver = id

def note (journal : Journal) (entry : Occurrence) : Journal :=
  { journal with entries := journal.entries ++ [entry] }

/-- The journal after something that happens to no receiver. -/
def onNetwork (journal : Journal) (operation : Network → Network) : Journal :=
  { journal with network := operation journal.network }

def runCallback (journal : Journal) (id : ReceiverId) (delivery : Delivery) (callback : Callback) : Journal :=
  (journal.onNetwork fun network ↦ network.runHandler id delivery callback.handler).note (.ran id callback delivery)

def deliver (journal : Journal) (id : ReceiverId) (delivery : Delivery) (callbacks : List Callback) : Journal :=
  let journal := journal.onNetwork fun network ↦
    network.modifyReceiver id fun receiver ↦ { receiver with callbacks := [] }
  let journal := callbacks.foldl (fun journal callback ↦ journal.runCallback id delivery callback) journal
  journal.onNetwork fun network ↦ network.modifyReceiver id fun receiver ↦
    { receiver with callbacks := callbacks.filter (fun callback ↦ !callback.once) ++ receiver.callbacks }

def offer (journal : Journal) (message : Message) (id : ReceiverId) : Journal :=
  match journal.network.receiver? id with
  | none => journal
  | some receiver =>
    let journal := journal.note (.offered id message receiver.callbacks)
    match receiver.read? message with
    | none => journal.onNetwork fun network ↦ network.observe .failure
    | some delivery => journal.deliver id delivery receiver.callbacks

def dispatch (journal : Journal) (index : Nat) (agent : Agent) (message : Message) : Journal :=
  (agent.offered message.topic).foldl (fun journal place ↦ journal.offer message ⟨index, place⟩) journal

/-- Lets a dispatcher look into its inbox. Something happens to receivers only if there is a message. -/
def lookInside (journal : Journal) (index : Nat) (source : ConnectionId) (rest : List Task) : Journal :=
  match journal.network.agents[index]? with
  | none => journal.onNetwork fun network ↦ network.lookInside index source rest
  | some agent =>
    if agent.dispatcher.any fun dispatcher ↦ dispatcher.source = source && dispatcher.phase ≠ .finished then
      match journal.network.medium.broker.take? source with
      | none => journal.onNetwork fun network ↦ network.lookInside index source rest
      | some (message, broker) =>
        let journal := journal.onNetwork fun network ↦ { network with medium := { network.medium with broker } }
        journal.dispatch index agent message
    else journal.onNetwork fun network ↦ network.lookInside index source rest

def tick? (journal : Journal) : Option Journal :=
  match journal.network.ready with
  | .dispatch index source :: rest => some (journal.lookInside index source rest)
  | _ => journal.network.tick?.map fun network ↦ { journal with network }

def run : Nat → Journal → Journal
  | 0, journal => journal
  | steps + 1, journal =>
    match journal.tick? with
    | none => journal
    | some journal => run steps journal

end Journal

/-! ## Quiet callbacks -/

mutual

/-- Whether an action leaves the broker alone, now and in what it registers. -/
def Action.isQuiet : Action → Bool
  | .count | .fail | .failIf _ => true
  | .register _ _ handler => handler.isQuiet
  | .publish _ _ _ | .silenceAll => false

def Handler.isQuiet : Handler → Bool
  | .scripted _ actions => Action.areQuiet actions
  | .reply _ => true

def Action.areQuiet : List Action → Bool
  | [] => true
  | action :: rest => action.isQuiet && Action.areQuiet rest

end

/-- Whether no callback does anything to the broker. Callbacks may fail, and register others of the sort. -/
def Network.Quiet (network : Network) : Prop :=
  ∀ id receiver, network.receiver? id = some receiver → ∀ callback ∈ receiver.callbacks, callback.handler.isQuiet

end PubSub
