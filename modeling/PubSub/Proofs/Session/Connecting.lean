import PubSub.Proofs.Agent.Connecting
import PubSub.Proofs.Session.Connectedness
import PubSub.Proofs.Session.Refusals
import PubSub.Proofs.Session.Registry
/-!
# Connecting in a session

Whatever was asked of a session before, and whatever attempts are still outstanding: a connect that nothing comes in
between of is refused because of the state that the agent is in, or it replaces the handle that is held. It offers the
options that the agent was built with and the overrides of this attempt, and none of an earlier one.
-/

namespace PubSub

/-! ## What an agent is built with -/

theorem AgentBuilder.options_agent {builder : AgentBuilder} {label : String} {serial : Nat} {agent : Agent}
    (h : builder.agent label serial = .ok agent) : agent.options = builder.config.broker.merged builder.overrides := by
  obtain ⟨identity, transport, -, -, rfl⟩ := agent_eq_ok h
  rfl

namespace Session

variable {session : Session} {built : Agent}

/-- Letting go of the agent that had the label before does not touch the terms of the new one. -/
theorem terms_labelAgent {medium : Medium} {label : String} {agent : Agent}
    (h : ((session.onNetwork fun network ↦ { network with medium }).labelAgent label agent).network.agents[
      session.network.agents.length]? = some built) : built.terms = agent.terms := by
  let joined := Network.wake { session.network with medium, agents := session.network.agents ++ [agent] }
  have there : joined.agents[session.network.agents.length]? = some agent := by
    rw [Network.agents_wake]
    exact List.getElem?_concat_length
  unfold labelAgent at h
  simp only at h
  split at h
  · rw [Option.some.inj (there.symm.trans h)]
  · rename_i old _
    have lets : joined.Conducts (fun _ ↦ ⟨False, False⟩) (joined.letGo old Network.closeLater) :=
      Network.conducts_letGo joined old (.inl rfl)
    obtain ⟨later, hlater, conduct⟩ := lets.kept _ agent there
    rw [Option.some.inj (h.symm.trans hlater)]
    exact conduct.terms_eq

/-- An agent has the options of its builder as soon as it is there. -/
theorem options_build {label : String} {builder : AgentBuilder}
    (h : (session.build label builder).1.network.agents[session.network.agents.length]? = some built) :
    built.options = builder.config.broker.merged builder.overrides := by
  unfold build at h
  simp only at h
  rcases builder.build_cases session.network.medium label session.network.agents.length with
    ⟨-, failed⟩ | ⟨described, hdescribed, result⟩
  · cases hresult : (builder.build session.network.medium label session.network.agents.length).2 with
    | ok agent =>
      rw [hresult] at failed
      cases failed
    | error error =>
      rw [hresult] at h
      have lt := (List.getElem?_eq_some_iff.1 h).1
      exact absurd lt (Nat.lt_irrefl _)
  · have terms : built.terms = described.terms := by
      rcases result with result | ⟨-, result⟩
      · rw [result] at h
        exact terms_labelAgent h
      · rw [result] at h
        exact (terms_labelAgent h).trans (Agent.framed_connect _ _ _).terms_eq
    exact (congrArg Agent.Terms.options terms).trans (AgentBuilder.options_agent hdescribed)

/-! ## Connecting -/

/-- What a request to connect comes to is what connecting comes to for the agent. -/
structure Reconnects (session : Session) (index : Nat) (agent : Agent) (overrides : BrokerOverrides)
    (outcome : Session × Except Refusal Answer) : Prop where
  refused : agent.IsBusy session.network.medium →
    outcome = (session, .error (.failed (.invalidState agent.connection.state "connect")))
  connects : ∃ later result, outcome.1.network.agents[index]? = some later ∧
    outcome.2 = failing (result.map fun _ ↦ .done) ∧
    agent.ConnectsAs session.network.medium (agent.options.merged overrides) outcome.1.network.medium later result

theorem reconnects_handle {label : String} {index : Nat} {agent : Agent} (steady : session.Steady)
    (found : session.findAgent label = .ok (index, agent))
    (faultless : (session.network.medium.scriptOf agent.transport).connect = []) (overrides : BrokerOverrides) :
    session.Reconnects index agent overrides (session.handle (.connect label overrides)) := by
  have place := findAgent_eq_ok found
  have sound := steady.network.sound.sound_link place
  have connects := Agent.connectsAs_connect sound faultless overrides
  let operation (medium : Medium) (agent : Agent) := agent.connect medium overrides
  have later := Network.getElem?_onAgent place operation
  have after : (session.network.onAgent index agent operation).1.medium = (operation session.network.medium agent).1 :=
    Network.medium_onAgent _ _ _ _
  rw [handle_connect found]
  refine ⟨fun busy ↦ ?_, (operation session.network.medium agent).2.1, (operation session.network.medium agent).2.2,
    later, rfl, ?_⟩
  · obtain ⟨sameMedium, sameAgent, refused⟩ := connects.refused busy
    have unchanged : operation session.network.medium agent = (session.network.medium, agent, _) :=
      Prod.ext sameMedium (Prod.ext sameAgent refused)
    rw [onAgent, Network.onAgent_of_unchanged steady.network.awake place unchanged]
    rfl
  · have medium : (session.onAgent index agent operation fun _ ↦ .done).1.network.medium = _ := after
    rw [medium]
    exact connects

end Session

namespace Traffic

/-- In every session: a connect is refused if and only if the agent is busy, and otherwise ends the handle that is held,
offers the transport the options of the agent with the overrides of this attempt, and ends as the broker decides. The
options of an agent are for ever those that its builder has made of the configuration and the builder's overrides. -/
theorem connects_as_configured (moves : List Move) :
    let session := (fresh.run moves).session
    (∀ label index agent overrides, session.findAgent label = .ok (index, agent) →
      (session.network.medium.scriptOf agent.transport).connect = [] →
      session.Reconnects index agent overrides (session.handle (.connect label overrides))) ∧
    ∀ before description after builder built agent, moves = before ++ .request (.build description) :: after →
      Session.builderOf description = .ok builder →
      let index := (fresh.run before).session.network.agents.length
      (fresh.run (before ++ [.request (.build description)])).session.network.agents[index]? = some built →
      session.network.agents[index]? = some agent →
      let options := builder.config.broker.merged builder.overrides
      agent.options = options ∧ agent.description.2.2 = options.uri := by
  intro session
  have steady := (sound_fresh.run moves).steady
  refine ⟨fun label index agent overrides found faultless ↦
    Session.reconnects_handle steady found faultless overrides, ?_⟩
  · intro before description after builder built agent split described index hbuilt hagent options
    have added := run_concat fresh before (.request (.build description))
    have later : fresh.run moves = (fresh.run (before ++ [.request (.build description)])).run after := by
      rw [split, run_split, added]
    obtain ⟨kept, hkept, terms, -⟩ := kept_run _ after hbuilt
    rw [← later] at hkept
    obtain rfl : kept = agent := Option.some.inj (hkept.symm.trans hagent)
    have first : built.options = options := by
      rw [added] at hbuilt
      have handled : (fresh.run before).session.cleared.handle (.build description) =
          (fresh.run before).session.cleared.build description.agent builder := by
        simp only [Session.handle, described]
        rfl
      have there : ((fresh.run before).session.cleared.handle (.build description)).1.network.agents[index]? =
          some built := hbuilt
      rw [handled] at there
      exact Session.options_build there
    have same : kept.options = options := (congrArg Agent.Terms.options terms).trans first
    exact ⟨same, congrArg BrokerOptions.uri same⟩

/-- An agent has reconnected with a password for this attempt only, and its connection is cut once more. The next
attempt closes what is left of the connection and fails with the configured password. -/
theorem connects_as_configured_again : ∃ (moves : List Move) (agent later : Agent),
    let session := (fresh.run moves).session
    let outcome := session.handle (.connect "agent" .none)
    session.network.agents[0]? = some agent ∧ agent.connection = ⟨.connected, some 1, 2⟩ ∧
    outcome.2 = .error (.failed (.connection ("mqtt://localhost:1884: broker at " ++
      "mqtt://localhost:1884 refused connection: bad username or password"))) ∧
    outcome.1.network.agents[0]? = some later ∧ later.connection.state = .errored ∧
    (∃ client, outcome.1.network.medium.broker.clients[1]? = some client ∧ client.status = .closed) ∧
    ∃ clientId, outcome.1.network.medium.calls = session.network.medium.calls ++ [("agent", .close),
      ("agent", .connect ⟨"mqtt", "localhost", 1884, "", "tether", "sp_ceB0ss!"⟩ clientId)] := by
  let description : AgentRequest :=
    ⟨"agent", "car", none, none, none, { BrokerOverrides.none with port := some 1884 }, some true, none, .scripted⟩
  let rest : List Move := [.request (.requireCredentials ⟨"tether", "secret"⟩), .request .silenceAll,
    .request (.connect "agent" { BrokerOverrides.none with password := some "secret" }), .request .silenceAll]
  let moves := [] ++ .request (.build description) :: rest
  let session := (fresh.run moves).session
  obtain ⟨built, hbuilt⟩ : ∃ built, (fresh.run ([] ++ [.request (.build description)])).session.network.agents[0]? =
      some built := Option.isSome_iff_exists.1 (by decide +kernel)
  obtain ⟨agent, h⟩ : ∃ agent, session.network.agents[0]? = some agent :=
    Option.isSome_iff_exists.1 (by decide +kernel)
  have found : session.findAgent "agent" = .ok (0, agent) :=
    Session.findAgent_of_get? (by decide +kernel : session.agents.get? "agent" = some 0) h
  have connection : agent.connection = ⟨.connected, some 1, 2⟩ :=
    Session.view_of_seen h Agent.connection _ (by decide +kernel)
  have transport : agent.transport = .scripted "agent" := Session.view_of_seen h Agent.transport _ (by decide +kernel)
  have idle : ¬agent.IsBusy session.network.medium := by
    have dead : session.network.medium.isLive (.scripted "agent") 1 = false := by decide +kernel
    rintro (connecting | ⟨-, handle, held, live⟩)
    · rw [connection] at connecting
      cases connecting
    · rw [connection] at held
      obtain rfl : 1 = handle := Option.some.inj held
      rw [transport, dead] at live
      cases live
  have faultless : (session.network.medium.scriptOf agent.transport).connect = [] := by
    rw [transport]
    decide +kernel
  obtain ⟨reconnects, configured⟩ := connects_as_configured moves
  obtain ⟨options, -⟩ := configured [] description rest _ built agent rfl rfl hbuilt h
  have again : session.Reconnects 0 agent .none (session.handle (.connect "agent" .none)) :=
    reconnects "agent" 0 agent .none found faultless
  obtain ⟨later, result, hlater, answered, connects⟩ := again.connects
  have offered : agent.options.merged .none = ⟨"mqtt", "localhost", 1884, "", "tether", "sp_ceB0ss!"⟩ := options
  rw [offered] at connects
  have failed : session.network.medium.broker.connect ⟨"mqtt", "localhost", 1884, "", "tether", "sp_ceB0ss!"⟩
      agent.clientId = .error (.badCredentials "mqtt://localhost:1884") :=
    Session.view_of_seen h (fun agent ↦ session.network.medium.broker.connect _ agent.clientId) _ (by decide +kernel)
  have unanswered : result ≠ .ok () := fun done ↦ by
    rcases Broker.connect_cases session.network.medium.broker _ agent.clientId with ⟨-, accepted⟩ | ⟨refuses, -⟩
    · rw [accepted] at failed
      cases failed
    · exact refuses ((connects.ok_iff idle).1 done)
  obtain ⟨errored, -, error, refused, told⟩ := connects.errored idle unanswered
  obtain rfl : _ = error := Except.error.inj (failed.symm.trans refused)
  obtain ⟨-, -, closed⟩ := connects.ended idle 1 (by rw [connection]; rfl)
  obtain ⟨subscriptions, calls, -, silent⟩ := connects.offered idle
  obtain rfl := silent unanswered
  have reason : BrokerOptions.uri ⟨"mqtt", "localhost", 1884, "", "tether", "sp_ceB0ss!"⟩ ++ ": " ++
      BrokerError.message (.badCredentials "mqtt://localhost:1884") = "mqtt://localhost:1884: broker at " ++
        "mqtt://localhost:1884 refused connection: bad username or password" := by decide +kernel
  refine ⟨moves, agent, later, h, connection, ?_, hlater, errored, closed, agent.clientId, ?_⟩
  · rw [answered, told, reason]
    rfl
  · rw [calls, connection, transport, List.append_nil, List.append_assoc]
    rfl

end Traffic

end PubSub
