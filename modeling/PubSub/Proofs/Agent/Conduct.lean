import PubSub.Proofs.Agent.Operations
import Mathlib.Logic.Relation
/-!
# What can be done with an agent

An agent is changed by its own operations, by its dispatcher, which comes to rest, and by callbacks, which come and go.
Whatever is said of an agent over time follows from what these few deeds do to it. Two of them need an allowance: a
connect that succeeds and a channel that is created in any case.
-/

namespace PubSub

/-- What may be done with an agent. -/
structure Allowance where
  /-- Whether a connect of the agent may succeed. -/
  connects : Prop
  /-- Whether a channel may be created although there is one of the name. -/
  duplicates : Prop

/-- The receiver as it was when it was created. -/
def Receiver.asCreated (receiver : Receiver) : Receiver :=
  { receiver with subscribed := false, callbacks := [] }

namespace Agent

/-- The connection that the agent's dispatcher reads, if there is one that was not stopped. -/
def source? (agent : Agent) : Option ConnectionId :=
  agent.dispatcher.map Dispatcher.source

/-- One thing that is done with an agent. -/
inductive Deed (allowed : Allowance) : Agent → Agent → Prop
  | ask {agent begun : Agent} {medium after : Medium} {overrides : BrokerOverrides} {pending : Pending}
    (h : agent.beginConnect medium overrides = .ok (after, begun, pending)) : Deed allowed agent begun
  | complete {agent : Agent} (medium : Medium) (pending : Pending)
    (permitted : (agent.completeConnect medium pending).2.2.isOk → allowed.connects) :
    Deed allowed agent (agent.completeConnect medium pending).2.1
  | disconnect {agent : Agent} (medium : Medium) : Deed allowed agent (agent.disconnect medium).2
  | release {agent : Agent} : Deed allowed agent agent.release.1
  | letGo {agent : Agent} : Deed allowed agent { agent with held := false }
  | createSender {agent changed : Agent} {medium after : Medium} {name : String} {kind : PayloadKind}
    {options : ChannelOptions} {place : Nat}
    (h : agent.createSender medium name kind options = .ok (after, changed, place))
    (permitted : options.ignoreExisting → allowed.duplicates) : Deed allowed agent changed
  | createReceiver {agent changed : Agent} {medium after : Medium} {name : String} {kind : PayloadKind}
    {options : ChannelOptions} {place : Nat}
    (h : agent.createReceiver medium name kind options = .ok (after, changed, place))
    (permitted : options.ignoreExisting → allowed.duplicates) : Deed allowed agent changed
  /-- The dispatcher finds its inbox empty. -/
  | rest {agent : Agent} {source : ConnectionId} {former : DispatcherPhase} (phase : DispatcherPhase)
    (reads : agent.dispatcher = some ⟨source, former⟩) :
    Deed allowed agent { agent with dispatcher := some ⟨source, phase⟩ }
  /-- Receivers are marked, and callbacks come and go. -/
  | retune {agent : Agent} {receivers : List Receiver}
    (same : receivers.map Receiver.asCreated = agent.receivers.map Receiver.asCreated) :
    Deed allowed agent { agent with receivers }

/-- Whether nothing was asked of the agent yet. -/
def IsBlank (agent : Agent) : Prop :=
  agent.senders = [] ∧ agent.receivers = [] ∧ agent.dispatcher = none

/-- What is done with an agent, one thing after the other. -/
def Conduct (allowed : Allowance) : Agent → Agent → Prop :=
  Relation.ReflTransGen (Deed allowed)

variable {allowed other : Allowance} {medium : Medium} {agent later : Agent}

/-! ## Allowances -/

theorem Deed.mono (deed : Deed allowed agent later) (connects : allowed.connects → other.connects)
    (duplicates : allowed.duplicates → other.duplicates) : Deed other agent later := by
  cases deed with
  | ask h => exact .ask h
  | complete medium pending permitted => exact .complete medium pending fun done ↦ connects (permitted done)
  | disconnect medium => exact .disconnect medium
  | release => exact .release
  | letGo => exact .letGo
  | createSender h permitted => exact .createSender h fun forced ↦ duplicates (permitted forced)
  | createReceiver h permitted => exact .createReceiver h fun forced ↦ duplicates (permitted forced)
  | rest phase reads => exact .rest phase reads
  | retune same => exact .retune same

theorem Conduct.mono (conduct : Conduct allowed agent later) (connects : allowed.connects → other.connects)
    (duplicates : allowed.duplicates → other.duplicates) : Conduct other agent later :=
  Relation.ReflTransGen.mono (fun _ _ deed ↦ Deed.mono deed connects duplicates) _ _ conduct

/-- A connect in one go is a connect that begins and has its answer. -/
theorem conduct_connect (medium : Medium) (agent : Agent) (overrides : BrokerOverrides)
    (permitted : (agent.connect medium overrides).2.2.isOk → allowed.connects) :
    Conduct allowed agent (agent.connect medium overrides).2.1 := by
  rcases connect_cases medium agent overrides with ⟨-, same, -⟩ | ⟨asked, begun, pending, hbegin, done⟩
  · rw [same]
    exact .refl
  · rw [done] at permitted ⊢
    exact .tail (.single (.ask hbegin)) (.complete asked pending permitted)

theorem asCreated_subscribe (medium : Medium) (agent : Agent) (receiver : Receiver) :
    (agent.subscribe medium receiver).2.1.asCreated = receiver.asCreated :=
  seen_subscribe (fun _ _ ↦ rfl) medium agent receiver

/-! ## The dispatcher -/

/-- A dispatcher is started by a connect that succeeds, and by nothing else. -/
theorem Deed.source?_eq (deed : Deed allowed agent later) (idle : ¬allowed.connects) :
    later.source? = agent.source? ∨ later.source? = none := by
  cases deed with
  | ask h => exact .inl (by rw [(beginConnect_eq_ok h).1]; rfl)
  | complete medium pending permitted =>
    rcases dispatcher_completeConnect medium agent pending with ⟨-, same⟩ | ⟨answered, handle, -, -, done, -⟩
    · exact .inl (congrArg (Option.map Dispatcher.source) same)
    · exact absurd (permitted done) idle
  | disconnect medium => exact .inr (by rw [(disconnect_eq medium agent).2]; rfl)
  | release => exact .inr rfl
  | letGo => exact .inl rfl
  | createSender h permitted =>
    exact .inl (congrArg (fun link ↦ link.dispatcher.map Dispatcher.source) (createSender_eq_ok h).1)
  | createReceiver h permitted =>
    exact .inl (congrArg (fun link ↦ link.dispatcher.map Dispatcher.source) (createReceiver_eq_ok h).1)
  | rest phase reads => exact .inl (by rw [source?, source?, reads]; rfl)
  | retune same => exact .inl rfl

theorem Conduct.source?_eq (conduct : Conduct allowed agent later) (idle : ¬allowed.connects) :
    later.source? = agent.source? ∨ later.source? = none := by
  induction conduct with
  | refl => exact .inl rfl
  | tail _ deed ih =>
    rcases deed.source?_eq idle with same | stopped
    · rw [same]
      exact ih
    · exact .inr stopped

end Agent

/-- What a builder describes is blank. -/
theorem AgentBuilder.isBlank_agent {builder : AgentBuilder} {label : String} {serial : Nat} {agent : Agent}
    (h : builder.agent label serial = .ok agent) : agent.IsBlank := by
  obtain ⟨identity, transport, -, -, rfl⟩ := agent_eq_ok h
  exact ⟨rfl, rfl, rfl⟩

end PubSub
