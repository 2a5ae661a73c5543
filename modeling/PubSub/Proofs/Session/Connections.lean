import PubSub.Proofs.Lifecycle.Handles
import PubSub.Proofs.Session.Reachable
/-!
# No connection is leaked

Every connection that is opened for an agent is closed once, or is the one that the agent holds. On the broker this
shows in numbers: when no work is left, the live connections that belong to no raw client are the connections of the
agents that are connected.
-/

namespace PubSub

/-- Whether the agents' transports report as live what the broker holds to be live. Only a script can make them report
anything else. -/
def Network.Truthful (network : Network) : Prop :=
  ∀ agent ∈ network.agents, ∀ connection,
    network.medium.isLive agent.transport connection = network.medium.broker.isLive connection

theorem Medium.isLive_plain (medium : Medium) (connection : ConnectionId) :
    medium.isLive .plain connection = medium.broker.isLive connection := by
  simp [isLive, scriptOf, Script.clear]

theorem Network.truthful_of_plain {network : Network} (plain : ∀ agent ∈ network.agents, agent.transport = .plain) :
    network.Truthful := by
  intro agent hagent connection
  rw [plain agent hagent, Medium.isLive_plain]

/-- The live connections of a network that are no raw client's. -/
def Session.agentConnections (session : Session) : List ConnectionId :=
  (List.range session.network.medium.broker.clients.length).filter fun connection ↦
    session.network.medium.broker.isLive connection && session.raws.all fun entry ↦ entry.2 ≠ connection

namespace Session

variable {session : Session} {agent : Agent} {connection : ConnectionId}

theorem mem_agentConnections :
    connection ∈ session.agentConnections ↔
      session.network.medium.broker.isLive connection ∧ ¬session.IsRaw connection := by
  have hraw : (session.raws.all fun entry ↦ entry.2 ≠ connection) ↔ ¬session.IsRaw connection := by
    simp only [List.all_eq_true, decide_eq_true_eq, IsRaw, not_exists]
    exact ⟨fun h label hmem ↦ h (label, connection) hmem rfl, fun h entry hmem same ↦ h entry.1 (same ▸ hmem)⟩
  unfold agentConnections
  rw [List.mem_filter, Bool.and_eq_true, hraw, List.mem_range]
  exact ⟨And.right, fun h ↦ ⟨Broker.lt_length_of_isLive h.1, h⟩⟩

theorem liveHandle?_eq_some_iff (truthful : session.network.Truthful) (steady : session.Steady)
    (h : agent ∈ session.network.agents) :
    agent.liveHandle? session.network.medium = some connection ↔
      agent.connection.handle = some connection ∧ session.network.medium.broker.isLive connection := by
  rcases List.getElem?_of_mem h with ⟨index, hindex⟩
  have hconnected := (steady.network.sound.sound_link hindex).connected_iff
  have hlive := truthful agent h
  unfold Agent.liveHandle? Connection.liveHandle? Connection.isConnected
  rw [Option.ite_none_right_eq_some, Bool.and_eq_true, decide_eq_true_eq]
  constructor
  · intro ⟨⟨_, live⟩, held⟩
    rw [held, Option.any_some, hlive] at live
    exact ⟨held, live⟩
  · intro ⟨held, live⟩
    have hstate : agent.connection.state = .connected := hconnected.2 (by simp [Agent.link, held])
    exact ⟨⟨hstate, by rw [held, Option.any_some, hlive, live]⟩, held⟩

theorem isSome_liveHandle? (medium : Medium) (agent : Agent) :
    (agent.liveHandle? medium).isSome = agent.isConnected medium := by
  unfold Agent.liveHandle? Connection.liveHandle? Agent.isConnected
  cases connected : agent.connection.isConnected (medium.isLive agent.transport) with
  | false => rfl
  | true =>
    cases held : agent.connection.handle with
    | none => simp [Connection.isConnected, held] at connected
    | some handle => rfl

theorem nodup_liveHandle? (truthful : session.network.Truthful) (steady : session.Steady) :
    (session.network.agents.filterMap fun agent ↦ agent.liveHandle? session.network.medium).Nodup := by
  rw [List.Nodup, List.pairwise_filterMap, List.pairwise_iff_getElem]
  intro first second hfirst hsecond hlt handle held handle' held' same
  rw [liveHandle?_eq_some_iff truthful steady (List.getElem_mem _)] at held held'
  have place := Network.getElem?_links (List.getElem?_eq_getElem hfirst)
  have place' := Network.getElem?_links (List.getElem?_eq_getElem hsecond)
  rcases (steady.network.sound.links first _ place).dispatched handle held.1 with ⟨phase, reads⟩
  rcases (steady.network.sound.links second _ place').dispatched handle' held'.1 with ⟨phase', reads'⟩
  have hindex := steady.network.sound.readers first second _ _ _ _ place place' reads reads' same
  omega

/-- The live connections that are no raw client's are those of the connected agents. -/
theorem agentConnections_perm (steady : session.Steady) (truthful : session.network.Truthful)
    (settled : session.network.ready = []) :
    session.agentConnections.Perm
      (session.network.agents.filterMap fun agent ↦ agent.liveHandle? session.network.medium) := by
  have nodup : session.agentConnections.Nodup := List.nodup_range.filter _
  apply (List.perm_ext_iff_of_nodup nodup (nodup_liveHandle? truthful steady)).2
  intro connection
  rw [mem_agentConnections, List.mem_filterMap]
  constructor
  · intro ⟨live, foreign⟩
    rcases steady.network.sound.owned connection live with raw | ⟨link, hlink, held⟩ | ⟨transport, closes⟩
    · exact absurd raw foreign
    · rcases List.mem_map.1 hlink with ⟨agent, hagent, rfl⟩
      exact ⟨agent, hagent, (liveHandle?_eq_some_iff truthful steady hagent).2 ⟨held, live⟩⟩
    · simp [settled] at closes
  · intro ⟨agent, hagent, held⟩
    rw [liveHandle?_eq_some_iff truthful steady hagent] at held
    rcases List.getElem?_of_mem hagent with ⟨index, hindex⟩
    have place := Network.getElem?_links hindex
    rcases (steady.network.sound.links index _ place).dispatched connection held.1 with ⟨phase, reads⟩
    exact ⟨held.2, steady.network.sound.foreign_ne index _ _ place reads⟩

end Session

/-- When nothing is under way, a close was called once on every connection that was opened, and never on the handle
that is held, which is there only if the connection is connected. So when no work is left in a session, as many live
connections belong to agents as there are connected agents. -/
theorem connections_accounted :
    (∀ (options : BrokerOptions) (moves : List Lifecycle.Move) (lifecycle : Lifecycle),
      (Lifecycle.initial options).run? moves = some lifecycle → lifecycle.isQuiet →
      lifecycle.opened.Nodup ∧
      (∀ handle, lifecycle.ended.count handle =
        if handle ∈ lifecycle.opened ∧ lifecycle.connection.handle ≠ some handle then 1 else 0) ∧
      ∀ handle, lifecycle.connection.handle = some handle →
        handle ∈ lifecycle.opened ∧ lifecycle.connection.state = .connected) ∧
    ∀ session : Session, session.Reachable → session.network.ready = [] → session.network.Truthful →
      session.agentConnections.length = session.network.agents.countP fun agent ↦
        agent.isConnected session.network.medium := by
  refine ⟨?_, ?_⟩
  · intro options moves lifecycle run quiet
    have accounted := Lifecycle.accounted_of_run? run
    refine ⟨accounted.2.nodup, Lifecycle.count_ended_of_isQuiet run quiet, ?_⟩
    intro handle held
    have hcount := accounted.2.count_opened handle
    rw [held, Option.toList_some, List.count_singleton_self] at hcount
    exact ⟨List.count_pos_iff.1 (by omega), accounted.1.connected_iff.2 (by simp [held])⟩
  · intro session reachable settled truthful
    have steady := reachable.steady
    calc
      session.agentConnections.length
        = (session.network.agents.filterMap fun agent ↦ agent.liveHandle? session.network.medium).length :=
          (Session.agentConnections_perm steady truthful settled).length_eq
      _ = session.network.agents.countP fun agent ↦ (agent.liveHandle? session.network.medium).isSome :=
          List.length_filterMap_eq_countP
      _ = session.network.agents.countP fun agent ↦ agent.isConnected session.network.medium := by
          congr 1
          funext agent
          exact Session.isSome_liveHandle? session.network.medium agent

/-- An attempt gets its connection too late, and a second one connects. In a session an agent disconnects, another one
stays connected, and a raw client comes. -/
theorem connections_accounted_overtaken :
    (∃ lifecycle, (Lifecycle.initial .tcp).run? [.connect .none fun _ ↦ true, .disconnect, .connect .none fun _ ↦ true,
        .answered 0 (.ok 0), .answered 1 (.ok 1), .abandoned 0] = some lifecycle ∧
      lifecycle.isQuiet ∧ lifecycle.ended.count 0 = 1 ∧ lifecycle.ended.count 1 = 0) ∧
    ∃ session : Session, session.Reachable ∧ session.network.ready = [] ∧
      session.network.medium.broker.connectionCount = 2 ∧ session.agentConnections.length = 1 := by
  refine ⟨?_, ?_⟩
  · have run : (Lifecycle.initial .tcp).run? [.connect .none fun _ ↦ true, .disconnect, .connect .none fun _ ↦ true,
        .answered 0 (.ok 0), .answered 1 (.ok 1), .abandoned 0] = some _ := rfl
    have counts := (connections_accounted.1 .tcp _ _ run rfl).2.1
    exact ⟨_, run, rfl, counts 0, counts 1⟩
  · let step (request : Request) : Step := ⟨request, none, true, false⟩
    let build (label : String) : Step := step (.build ⟨label, "role", none, none, none, .none, some true, none, .plain⟩)
    let session := Session.fresh.after
      [build "one", build "two", step (.disconnect "one"), step (.rawConnect "raw" "raw" .tcp)]
    have reachable : session.Reachable := Session.Reachable.fresh.after _
    have truthful : session.network.Truthful := Network.truthful_of_plain (by decide +kernel)
    have connected : session.network.agents.countP (fun agent ↦ agent.isConnected session.network.medium) = 1 := by
      decide +kernel
    have settled : session.network.ready = [] := by decide +kernel
    have counts := connections_accounted.2 session reachable settled truthful
    exact ⟨session, reachable, settled, by decide +kernel, counts.trans connected⟩

end PubSub
