import PubSub.Agent.Builder
import PubSub.Proofs.Isolation.Agent
/-!
# Building agents while others are left out

An agent gets its made-up name from its place among the agents, so the name changes with the place when others are left
out. Nothing else about a new agent depends on the others.
-/

namespace PubSub.AgentBuilder

variable {selection : Selection} {builder : AgentBuilder} {medium rest : Medium} {label : String} {serial : Nat}
  {agent : Agent} {kept : Bool}

theorem agent_reduced (builder : AgentBuilder) (label : String) (serial : Nat) :
    builder.agent label (selection.agents.place serial) =
      (builder.agent label serial).map (Agent.reduced selection) := by
  unfold AgentBuilder.agent
  cases Identity.new builder.role builder.instanceId with
  | error error => rfl
  | ok identity =>
    cases builder.transport with
    | none => rfl
    | some transport => cases builder.clientId <;> rfl

/-- An agent that is described, on the broker itself, holds nothing yet. -/
theorem belongs_agent (plain : ∀ transport, builder.transport = some transport → transport = .plain)
    (h : builder.agent label serial = .ok agent) : agent.Belongs selection kept := by
  obtain ⟨identity, used, -, transport, rfl⟩ := agent_eq_ok h
  exact ⟨plain used transport, by simp [Connection.initial], by simp, by simp⟩

theorem build_eq (described : builder.agent label serial = .ok agent) :
    builder.build medium label serial =
      if agent.autoConnect then
        ((agent.connect medium .none).1, (agent.connect medium .none).2.2.map fun _ ↦ (agent.connect medium .none).2.1)
      else (medium, .ok agent) := by
  rw [build, described]
  rfl

theorem build_of_error {error : Error} (described : builder.agent label serial = .error error) :
    builder.build medium label serial = (medium, .error error) := by
  rw [build, described]
  rfl

theorem build_reduced (plain : ∀ transport, builder.transport = some transport → transport = .plain)
    (same : rest.broker = medium.broker.reduced selection)
    (adds : Agent.Adds selection true medium.broker (builder.build medium label serial).1.broker) :
    (builder.build rest label (selection.agents.place serial)).1.broker =
      (builder.build medium label serial).1.broker.reduced selection ∧
    (builder.build rest label (selection.agents.place serial)).2 =
      (builder.build medium label serial).2.map (Agent.reduced selection) := by
  have describes : builder.agent label (selection.agents.place serial) = _ := agent_reduced builder label serial
  cases h : builder.agent label serial with
  | error error =>
    rw [h] at describes
    rw [build_of_error h, build_of_error describes]
    exact ⟨same, rfl⟩
  | ok agent =>
    rw [h] at describes
    have auto : (agent.reduced selection).autoConnect = agent.autoConnect := rfl
    rw [build_eq h] at adds
    rw [build_eq h, build_eq describes, auto]
    split
    · rename_i connects
      rw [if_pos connects] at adds
      obtain ⟨broker, answer⟩ := Agent.connect_reduced (belongs_agent plain h) same .none adds
      refine ⟨broker, ?_⟩
      simp only [answer]
      cases (agent.connect medium .none).2.2 <;> rfl
    · exact ⟨same, rfl⟩

theorem build_left_out (plain : ∀ transport, builder.transport = some transport → transport = .plain)
    (adds : Agent.Adds selection false medium.broker (builder.build medium label serial).1.broker) :
    (builder.build medium label serial).1.broker.reduced selection = medium.broker.reduced selection := by
  cases h : builder.agent label serial with
  | error error => rw [build_of_error h]
  | ok agent =>
    rw [build_eq h] at adds ⊢
    split
    · rename_i connects
      rw [if_pos connects] at adds
      exact Agent.connect_left_out (belongs_agent plain h) medium .none adds
    · rfl

theorem belongs_build (plain : ∀ transport, builder.transport = some transport → transport = .plain)
    (adds : Agent.Adds selection kept medium.broker (builder.build medium label serial).1.broker)
    (h : (builder.build medium label serial).2 = .ok agent) : agent.Belongs selection kept := by
  cases described : builder.agent label serial with
  | error error =>
    rw [build_of_error described] at h
    cases h
  | ok fresh =>
    have belongs : fresh.Belongs selection kept := belongs_agent plain described
    rw [build_eq described] at adds h
    split at h
    · rename_i connects
      rw [if_pos connects] at adds
      cases result : (fresh.connect medium .none).2.2 with
      | error error => simp [result, Except.map] at h
      | ok done =>
        rw [result] at h
        exact Except.ok.inj h ▸ belongs.connect medium .none adds
    · exact Except.ok.inj h ▸ belongs

end PubSub.AgentBuilder
