import PubSub.Proofs.Agent.Conduct
/-!
# The terms that an agent works on

What is settled when an agent is built and is the same for ever: who it is, how it reaches the broker and with which
options, and what its channels are like by default. A connect with overrides does not change the options that the next
one starts from.
-/

namespace PubSub

/-- What is settled when an agent is built. -/
structure Agent.Terms where
  label : String
  identity : Identity
  transport : Transport
  options : BrokerOptions
  clientId : ClientId
  defaults : ChannelDefaults
  autoConnect : Bool

namespace Agent

variable {allowed : Allowance} {agent later : Agent}

/-- The terms that an agent was built on. -/
def terms (agent : Agent) : Terms :=
  ⟨agent.label, agent.identity, agent.transport, agent.options, agent.clientId, agent.defaults, agent.autoConnect⟩

theorem Framed.terms_eq (framed : agent.Framed later) : later.terms = agent.terms := by
  obtain ⟨connection, dispatcher, receivers, rfl, -⟩ := framed
  rfl

/-- No deed changes the terms. -/
theorem Deed.terms_eq (deed : Deed allowed agent later) : later.terms = agent.terms := by
  cases deed with
  | ask began => exact (framed_of_beginConnect began).terms_eq
  | complete medium pending permitted => exact (framed_completeConnect medium agent pending).terms_eq
  | disconnect medium => exact (framed_disconnect medium agent).terms_eq
  | release => rfl
  | letGo => rfl
  | createSender created permitted =>
    obtain ⟨-, senders, rfl⟩ := createSender_cases created
    rfl
  | createReceiver created permitted =>
    rcases createReceiver_cases created with ⟨-, rfl⟩ | ⟨receiver, -, -, ⟨-, rfl⟩ | ⟨-, rfl⟩⟩
    · rfl
    · rfl
    · rfl
  | rest phase reads => rfl
  | retune same => rfl

theorem Conduct.terms_eq (conduct : Conduct allowed agent later) : later.terms = agent.terms := by
  induction conduct with
  | refl => rfl
  | tail _ deed ih => exact deed.terms_eq.trans ih

end Agent

end PubSub
