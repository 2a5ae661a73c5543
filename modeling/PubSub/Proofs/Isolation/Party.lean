import PubSub.Proofs.Isolation.Labels
import PubSub.Proofs.Isolation.Leaving
/-!
# Parties

A party is some of the agents of a session, known by their labels, with the labels of their senders and receivers and
of the waits for messages of these. What is asked of a party can be left out of a session.
-/

namespace PubSub

/-- The labels of some agents, and of all that is theirs. -/
structure Party where
  agents : String → Bool
  senders : String → Bool
  receivers : String → Bool
  waits : String → Bool

/-- Whether a request is about an agent of the party, or about a channel or a wait of one. -/
def Party.owns (party : Party) : Request → Bool
  | .build request | .inspectBuilder request => party.agents request.agent
  | .describe agent | .inspectAgent agent | .connect agent _ | .startConnect agent _ _ | .disconnect agent
  | .dropAgent agent _ | .publishRaw agent _ _ _ | .subscribe agent _ => party.agents agent
  | .createSender request | .createReceiver request => party.agents request.agent
  | .describeSender sender | .inspectSender sender | .send sender _ | .sendRaw sender _ => party.senders sender
  | .describeReceiver receiver | .inspectReceiver receiver | .accepts receiver _ | .register receiver _
  | .dropReceiver receiver | .next receiver _ => party.receivers receiver
  | .poll label | .dropNext label => party.waits label
  | .script _ _ | .release _ _ | .publish _ _ _ _ | .setAvailable _ | .requireCredentials _ | .silenceAll
  | .report _ _ | .inspectBroker | .rawConnect _ _ _ | .rawSubscribe _ _ _ | .rawPublish _ _ _ | .rawClose _
  | .rawLive _ | .rawReceive _ _ | .rawDrop _ => false

/-- What is asked of a session in which the agents share the broker and nothing else. They are on the broker itself, no
connect goes on in the background, labels of the party are for things of the party only and labels of others for things
of others, callbacks have to do with their own side only, and the party does not publish. -/
def Party.Respects (party : Party) (selection : Selection) : Request → Prop
  | .build request => request.transport ≠ .scripted
  | .startConnect _ _ _ => False
  | .publishRaw agent _ _ _ => party.agents agent = false
  | .send sender _ | .sendRaw sender _ => party.senders sender = false
  | .createSender request => party.senders request.label = party.agents request.agent
  | .createReceiver request => party.receivers request.label = party.agents request.agent
  | .subscribe agent receiver => party.receivers receiver = party.agents agent
  | .register receiver callback => callback.Belongs selection (!party.receivers receiver)
  | .next receiver label => party.waits label = party.receivers receiver
  | _ => True

/-- Whether the answer shows the broker, with the connections that there are. -/
def Request.showsBroker : Request → Bool
  | .inspectBuilder _ | .inspectAgent _ | .report _ _ | .inspectBroker => true
  | _ => false

/-- Whether the answer shows the connection of a raw client by its number. -/
def Request.showsConnection : Request → Bool
  | .rawConnect _ _ _ | .rawLive _ => true
  | _ => false

/-! ## What is known by its number -/

/-- The request, with the places that receivers and waits have once others are left out. -/
def Request.reduced (selection : Selection) : Request → Request
  | .register receiver callback => .register receiver (callback.reduced selection)
  | request => request

def Refusal.reduced (selection : Selection) : Refusal → Refusal
  | .transport error => .transport (error.reduced selection)
  | refusal => refusal

def Answer.reduced (selection : Selection) : Answer → Answer
  | .agent found => .agent (found.reduced selection)
  | .receiver found => .receiver (found.reduced selection)
  | .createdReceiver known found => .createdReceiver known (found.reduced selection)
  | answer => answer

def SenderId.reduced (selection : Selection) (id : SenderId) : SenderId :=
  ⟨selection.agents.place id.agent, id.index⟩

theorem SenderId.reduced_inj {selection : Selection} {id other : SenderId} (kept : selection.agents id.agent)
    (kept' : selection.agents other.agent) (same : other.reduced selection = id.reduced selection) : other = id := by
  obtain ⟨agents, index⟩ := SenderId.mk.inj same
  exact (SenderId.mk.injEq ..).mpr ⟨(Choice.place_inj kept' kept).1 agents, index⟩

/-- A result, with the places that things have once others are left out. -/
def reducedResult {α β : Type} (selection : Selection) (move : α → β) (result : Except Refusal α) :
    Except Refusal β :=
  (result.map move).mapError (Refusal.reduced selection)

namespace Session

/-- The session with no other connections on its broker than those that are kept. -/
def shown (selection : Selection) (session : Session) : Session :=
  { session with network.medium.broker := session.network.medium.broker.reduced selection }

variable {party : Party} {selection : Selection} {session rest : Session} {label : String}

/-- What is left of a session when a party is left out. -/
structure Reduces (party : Party) (selection : Selection) (session rest : Session) : Prop where
  network : session.network.Reduces selection rest.network
  agents : session.agents.Reduces party.agents selection.agents selection.agents.place rest.agents
  senders : session.senders.Reduces party.senders (fun id ↦ selection.agents id.agent) (SenderId.reduced selection)
    rest.senders
  receivers : session.receivers.Reduces party.receivers (fun id ↦ selection.agents id.agent)
    (ReceiverId.reduced selection) rest.receivers
  nexts : session.nexts.Reduces party.waits selection.waits selection.waits.place rest.nexts
  raws : session.raws.Reduces (fun _ ↦ false) selection.connections selection.connections.place rest.raws

/-- The agents, connections and waits that are new are all kept or all left out. -/
structure Brings (selection : Selection) (kept : Bool) (before after : Session) : Prop where
  agents (index : Nat) : before.network.agents.length ≤ index → index < after.network.agents.length →
    selection.agents index = kept
  connections : Agent.Adds selection kept before.network.medium.broker after.network.medium.broker
  waits (ticket : Nat) : before.network.replies.length ≤ ticket → ticket < after.network.replies.length →
    selection.waits ticket = kept

theorem reduces_fresh (party : Party) (selection : Selection) : fresh.Reduces party selection fresh where
  network :=
    { broker := rfl
      agents := rfl
      replies := rfl
      ready := rfl
      alone := ⟨rfl, rfl⟩
      belongs := by simp [fresh, Network.fresh]
      tasks := by simp [fresh, Network.fresh]
      waits := by simp [fresh, Network.fresh] }
  agents := .empty
  senders := .empty
  receivers := .empty
  nexts := .empty
  raws := .empty

namespace Reduces

/-! ## Finding what labels stand for -/

theorem findAgent (reduces : session.Reduces party selection rest) (kept : party.agents label = false) :
    rest.findAgent label = reducedResult selection
      (fun found ↦ (selection.agents.place found.1, found.2.reduced selection)) (session.findAgent label) := by
  unfold Session.findAgent
  rw [reduces.agents.get? kept]
  cases h : session.agents.get? label with
  | none => rfl
  | some index =>
    have own : selection.agents index := by rw [reduces.agents.mark_of_get? h, kept]; rfl
    simp only [Option.map_some, reduces.network.getElem?_agents own]
    cases session.network.agents[index]? <;> rfl

theorem findSender (reduces : session.Reduces party selection rest) (kept : party.senders label = false) :
    rest.findSender label = reducedResult selection (fun found ↦ (found.1.reduced selection, found.2))
      (session.findSender label) := by
  unfold Session.findSender
  rw [reduces.senders.get? kept]
  cases h : session.senders.get? label with
  | none => rfl
  | some id =>
    have own : selection.agents id.agent := by rw [reduces.senders.mark_of_get? h, kept]; rfl
    simp only [Option.map_some, SenderId.reduced, reduces.network.getElem?_agents own]
    cases session.network.agents[id.agent]? with
    | none => rfl
    | some agent =>
      have senders : (agent.reduced selection).senders = agent.senders := rfl
      simp only [Option.map_some, senders]
      cases agent.senders[id.index]? <;> rfl

theorem findReceiver (reduces : session.Reduces party selection rest) (kept : party.receivers label = false) :
    rest.findReceiver label = reducedResult selection
      (fun found ↦ (found.1.reduced selection, found.2.reduced selection)) (session.findReceiver label) := by
  unfold Session.findReceiver
  rw [reduces.receivers.get? kept]
  cases h : session.receivers.get? label with
  | none => rfl
  | some id =>
    have own : selection.agents id.agent := by rw [reduces.receivers.mark_of_get? h, kept]; rfl
    simp only [Option.map_some, reduces.network.receiver? own]
    cases session.network.receiver? id <;> rfl

theorem findRaw (reduces : session.Reduces party selection rest) (label : String) :
    rest.findRaw label = reducedResult selection selection.connections.place (session.findRaw label) := by
  unfold Session.findRaw
  rw [reduces.raws.get? rfl]
  cases session.raws.get? label <;> rfl

end Reduces

end Session

end PubSub
