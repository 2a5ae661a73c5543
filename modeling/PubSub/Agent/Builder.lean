import PubSub.Agent.Basic
/-!
# Building agents

What an agent is built from. The configuration, the overrides and the switches are resolved once, when the agent is
built, and are fixed from then on. An agent that is to connect is connected at once, and if that fails there is no
agent.
-/

namespace PubSub

structure AgentBuilder where
  role : String
  instanceId : Option String
  config : Config
  overrides : BrokerOverrides
  autoConnect : Option Bool
  transport : Option Transport
  clientId : Option String
  deriving DecidableEq

namespace AgentBuilder

/-- The agent that is described, before it connects. `serial` makes up a client name if none is given. -/
def agent (builder : AgentBuilder) (label : String) (serial : Nat) : Except Error Agent := do
  let identity ← Identity.new builder.role builder.instanceId
  match builder.transport with
  | none => throw (.config .noTransport)
  | some transport => pure {
      label, identity, transport
      options := builder.config.broker.merged builder.overrides
      clientId := (builder.clientId.map .given).getD (.generated serial)
      defaults := builder.config.channels
      autoConnect := builder.autoConnect.getD builder.config.behavior.autoConnect
      connection := .initial
      senders := []
      receivers := []
      dispatcher := none
      held := true }

def build (medium : Medium) (builder : AgentBuilder) (label : String) (serial : Nat) :
    Medium × Except Error Agent :=
  match builder.agent label serial with
  | .error error => (medium, throw error)
  | .ok agent =>
    if agent.autoConnect then
      let (medium, agent, result) := agent.connect medium .none
      (medium, result.map fun _ ↦ agent)
    else (medium, pure agent)

def inspect (medium : Medium) (builder : AgentBuilder) : String :=
  Text.openRecord "AgentBuilder" [
    ("role", Text.quoted builder.role),
    ("instance_id", Text.optional (builder.instanceId.map Text.quoted)),
    ("config", builder.config.inspect),
    ("auto_connect", Text.optional (builder.autoConnect.map Text.flag)),
    ("transport", Text.optional (builder.transport.map medium.inspectTransport)),
    ("client_id", Text.optional (builder.clientId.map Text.quoted))]

end AgentBuilder

end PubSub
