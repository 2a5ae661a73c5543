import PubSub.Session.Basic
/-!
# Redaction

Everything that holds a password, with the password taken out: the options and overrides of clients, the credentials
that a broker wants, and with them agents, connects under way, brokers and whole sessions, and what is asked and seen of
them. A password that is taken out of options is empty from then on. In place of the one that a broker wants there is
another, chosen so that empty ones pass or fail with it: that the passwords are gone must not decide a comparison which
was decided otherwise while they were there.

What agents, builders and options show of themselves is what they show when they are redacted.
-/

namespace PubSub

/-! ## What clients present -/

def BrokerOptions.redacted (options : BrokerOptions) : BrokerOptions :=
  { options with password := "" }

/-- Whether a password was given is taken out as well. -/
def BrokerOverrides.redacted (overrides : BrokerOverrides) : BrokerOverrides :=
  { overrides with password := .none }

def Config.redacted (config : Config) : Config :=
  { config with broker := config.broker.redacted }

namespace BrokerOptions

variable (options : BrokerOptions)

@[simp] theorem uri_redacted : options.redacted.uri = options.uri :=
  rfl

@[simp] theorem inspect_redacted : options.redacted.inspect = options.inspect :=
  rfl

end BrokerOptions

@[simp] theorem Config.inspect_redacted (config : Config) : config.redacted.inspect = config.inspect :=
  rfl

/-! ## Brokers and what is observed -/

/-- Credentials that empty passwords pass, or do not pass. -/
def Credentials.redacted (passes : Bool) (credentials : Credentials) : Credentials :=
  { credentials with password := if passes then "" else "*" }

def Broker.redacted (passes : Bool) (broker : Broker) : Broker :=
  { broker with credentials := broker.credentials.map (Credentials.redacted passes) }

def Call.redacted : Call → Call
  | connect options clientId => connect options.redacted clientId
  | other => other

def Observation.redacted : Observation → Observation
  | call transport found => call transport found.redacted
  | other => other

def Medium.redacted (passes : Bool) (medium : Medium) : Medium where
  broker := medium.broker.redacted passes
  scripts := medium.scripts
  observations := medium.observations.map Observation.redacted

/-! ## Agents -/

def Agent.redacted (agent : Agent) : Agent :=
  { agent with options := agent.options.redacted }

def AgentBuilder.redacted (builder : AgentBuilder) : AgentBuilder :=
  { builder with config := builder.config.redacted, overrides := builder.overrides.redacted }

def Pending.redacted (pending : Pending) : Pending :=
  { pending with options := pending.options.redacted }

@[simp] theorem Agent.transport_redacted (agent : Agent) : agent.redacted.transport = agent.transport :=
  rfl

@[simp] theorem Agent.options_redacted (agent : Agent) : agent.redacted.options = agent.options.redacted :=
  rfl

@[simp] theorem Agent.connection_redacted (agent : Agent) : agent.redacted.connection = agent.connection :=
  rfl

@[simp] theorem Agent.senders_redacted (agent : Agent) : agent.redacted.senders = agent.senders :=
  rfl

@[simp] theorem Agent.receivers_redacted (agent : Agent) : agent.redacted.receivers = agent.receivers :=
  rfl

@[simp] theorem Agent.dispatcher_redacted (agent : Agent) : agent.redacted.dispatcher = agent.dispatcher :=
  rfl

@[simp] theorem Agent.description_redacted (agent : Agent) : agent.redacted.description = agent.description :=
  rfl

@[simp] theorem Agent.inspect_redacted (passes : Bool) (medium : Medium) (agent : Agent) :
    agent.redacted.inspect (medium.redacted passes) = agent.inspect medium := by
  have transport : (medium.redacted passes).inspectTransport agent.transport =
      medium.inspectTransport agent.transport := by
    cases agent.transport <;> rfl
  unfold Agent.inspect
  exact transport ▸ rfl

@[simp] theorem AgentBuilder.inspect_redacted (passes : Bool) (medium : Medium) (builder : AgentBuilder) :
    builder.redacted.inspect (medium.redacted passes) = builder.inspect medium := by
  have transport (transport : Transport) : (medium.redacted passes).inspectTransport transport =
      medium.inspectTransport transport := by
    cases transport <;> rfl
  have config : builder.redacted.config.inspect = builder.config.inspect := builder.config.inspect_redacted
  unfold AgentBuilder.inspect
  rw [funext transport, config]
  rfl

/-! ## Networks and sessions -/

def Progress.redacted : Progress → Progress
  | gated number pending => gated number pending.redacted
  | released pending => released pending.redacted
  | other => other

def Attempt.redacted (attempt : Attempt) : Attempt :=
  { attempt with overrides := attempt.overrides.redacted, progress := attempt.progress.redacted }

@[simp] theorem Attempt.agent_redacted (attempt : Attempt) : attempt.redacted.agent = attempt.agent :=
  rfl

def Network.redacted (passes : Bool) (network : Network) : Network where
  medium := network.medium.redacted passes
  agents := network.agents.map Agent.redacted
  attempts := network.attempts.map Attempt.redacted
  replies := network.replies
  ready := network.ready

namespace Network

variable (passes : Bool) (network : Network)

@[simp] theorem medium_redacted : (network.redacted passes).medium = network.medium.redacted passes :=
  rfl

@[simp] theorem ready_redacted : (network.redacted passes).ready = network.ready :=
  rfl

@[simp] theorem length_agents_redacted : (network.redacted passes).agents.length = network.agents.length :=
  List.length_map _

end Network

def Session.redacted (passes : Bool) (session : Session) : Session :=
  { session with network := session.network.redacted passes }

namespace Session

variable (passes : Bool) (session : Session)

@[simp] theorem network_redacted : (session.redacted passes).network = session.network.redacted passes :=
  rfl

@[simp] theorem agents_redacted : (session.redacted passes).agents = session.agents :=
  rfl

@[simp] theorem senders_redacted : (session.redacted passes).senders = session.senders :=
  rfl

@[simp] theorem receivers_redacted : (session.redacted passes).receivers = session.receivers :=
  rfl

@[simp] theorem nexts_redacted : (session.redacted passes).nexts = session.nexts :=
  rfl

@[simp] theorem raws_redacted : (session.redacted passes).raws = session.raws :=
  rfl

end Session

def AgentRequest.redacted (request : AgentRequest) : AgentRequest :=
  { request with broker := request.broker.map BrokerOptions.redacted, overrides := request.overrides.redacted }

def Request.redacted (passes : Bool) : Request → Request
  | build request => build request.redacted
  | inspectBuilder request => inspectBuilder request.redacted
  | connect agent overrides => connect agent overrides.redacted
  | startConnect agent ticket overrides => startConnect agent ticket overrides.redacted
  | requireCredentials credentials => requireCredentials (credentials.redacted passes)
  | rawConnect raw clientId options => rawConnect raw clientId options.redacted
  | other => other

def Step.redacted (passes : Bool) (step : Step) : Step :=
  { step with request := step.request.redacted passes }

/-! ## What is seen -/

/-- An agent is told with its options. -/
def Answer.redacted : Answer → Answer
  | agent found => agent found.redacted
  | other => other

def Report.redacted (report : Report) : Report :=
  { report with calls := report.calls.map fun entry ↦ (entry.1, entry.2.map Call.redacted) }

def Outcome.redacted (outcome : Outcome) : Outcome :=
  { outcome with answer := outcome.answer.map Answer.redacted, report := outcome.report.redacted }

/-! ## Redacting twice -/

variable (passes before : Bool)

@[simp] theorem Broker.redacted_redacted (broker : Broker) :
    (broker.redacted before).redacted passes = broker.redacted passes := by
  simp only [redacted, Option.map_map]
  rfl

@[simp] theorem Observation.redacted_redacted (observation : Observation) :
    observation.redacted.redacted = observation.redacted := by
  rcases observation with ⟨transport, call⟩ | _ | _ | _ | _
  · cases call <;> rfl
  all_goals rfl

@[simp] theorem Medium.redacted_redacted (medium : Medium) :
    (medium.redacted before).redacted passes = medium.redacted passes := by
  simp [redacted]

@[simp] theorem Agent.redacted_redacted (agent : Agent) : agent.redacted.redacted = agent.redacted :=
  rfl

@[simp] theorem Attempt.redacted_redacted (attempt : Attempt) : attempt.redacted.redacted = attempt.redacted := by
  rcases attempt with ⟨ticket, agent, overrides, progress⟩
  cases progress <;> rfl

@[simp] theorem Network.redacted_redacted (network : Network) :
    (network.redacted before).redacted passes = network.redacted passes := by
  simp [redacted]

@[simp] theorem Session.redacted_redacted (session : Session) :
    (session.redacted before).redacted passes = session.redacted passes := by
  simp [redacted]

@[simp] theorem AgentRequest.redacted_redacted (request : AgentRequest) :
    request.redacted.redacted = request.redacted := by
  simp only [redacted, Option.map_map]
  rfl

@[simp] theorem Request.redacted_redacted (request : Request) :
    (request.redacted before).redacted passes = request.redacted passes := by
  cases request with
  | build request => exact congrArg build request.redacted_redacted
  | inspectBuilder request => exact congrArg inspectBuilder request.redacted_redacted
  | _ => rfl

end PubSub
