import PubSub.Channel.Basic
import PubSub.Proofs.Isolation.Broker
/-!
# Callbacks when agents are left out

A handler knows receivers and waits by their places. When agents are left out, the handlers that are kept are the same
but for these places, as long as they have to do with receivers and waits of their own side only.
-/

namespace PubSub

def ReceiverId.reduced (selection : Selection) (id : ReceiverId) : ReceiverId :=
  ⟨selection.agents.place id.agent, id.index⟩

theorem ReceiverId.reduced_inj {selection : Selection} {id other : ReceiverId} (kept : selection.agents id.agent)
    (kept' : selection.agents other.agent) (same : other.reduced selection = id.reduced selection) : other = id := by
  obtain ⟨agents, index⟩ := ReceiverId.mk.inj same
  exact (ReceiverId.mk.injEq ..).mpr ⟨(Choice.place_inj kept' kept).1 agents, index⟩

mutual

/-- The action, with the place that its receiver has once others are left out. -/
def Action.reduced (selection : Selection) : Action → Action
  | .register target once handler =>
    .register (target.map (ReceiverId.reduced selection)) once (handler.reduced selection)
  | .count => .count
  | .publish topic payload retain => .publish topic payload retain
  | .silenceAll => .silenceAll
  | .fail => .fail
  | .failIf test => .failIf test

/-- The handler, with the places that its receivers and its wait have once others are left out. -/
def Handler.reduced (selection : Selection) : Handler → Handler
  | .scripted label actions => .scripted label (Action.eachReduced selection actions)
  | .reply ticket => .reply (selection.waits.place ticket)

def Action.eachReduced (selection : Selection) : List Action → List Action
  | [] => []
  | action :: rest => action.reduced selection :: Action.eachReduced selection rest

end

mutual

/-- An action registers callbacks on receivers of its own side only, and leaves the broker alone if that side is left
out. -/
def Action.Belongs (selection : Selection) (kept : Bool) : Action → Prop
  | .register target _ handler =>
    (∀ id ∈ target, selection.agents id.agent = kept) ∧ handler.Belongs selection kept
  | .publish _ _ _ | .silenceAll => kept
  | .count | .fail | .failIf _ => True

/-- A handler has to do with receivers and waits of its own side only, and leaves the broker alone if that side is left
out. -/
def Handler.Belongs (selection : Selection) (kept : Bool) : Handler → Prop
  | .scripted _ actions => Action.AllBelong selection kept actions
  | .reply ticket => selection.waits ticket = kept

def Action.AllBelong (selection : Selection) (kept : Bool) : List Action → Prop
  | [] => True
  | action :: rest => action.Belongs selection kept ∧ Action.AllBelong selection kept rest

end

def Callback.reduced (selection : Selection) (callback : Callback) : Callback :=
  { callback with handler := callback.handler.reduced selection }

def Receiver.reduced (selection : Selection) (receiver : Receiver) : Receiver :=
  { receiver with callbacks := receiver.callbacks.map (Callback.reduced selection) }

/-- A callback that has to do with its own side only. -/
def Callback.Belongs (selection : Selection) (kept : Bool) (callback : Callback) : Prop :=
  callback.handler.Belongs selection kept

def Receiver.Belongs (selection : Selection) (kept : Bool) (receiver : Receiver) : Prop :=
  ∀ callback ∈ receiver.callbacks, callback.Belongs selection kept

variable {selection : Selection} {kept : Bool}

namespace Receiver

variable {receiver : Receiver} {callback : Callback}

theorem reduced_register : (receiver.register callback).reduced selection =
    (receiver.reduced selection).register (callback.reduced selection) := by
  simp [reduced, register]

theorem Belongs.register (belongs : receiver.Belongs selection kept) (own : callback.Belongs selection kept) :
    (receiver.register callback).Belongs selection kept := by
  intro other hother
  rcases List.mem_append.1 hother with former | new
  · exact belongs other former
  · rw [List.mem_singleton.1 new]
    exact own

end Receiver

end PubSub
