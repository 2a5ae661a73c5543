import PubSub.Proofs.Isolation.Network
/-!
# Agents that come and go while others are left out

An agent that joins takes the next place, and one that is let go gives up its connection and stays at its place. Either
is the same for what is left of the network, or is not noticed there.
-/

namespace PubSub

/-- The agent when nobody holds it any more. -/
def Agent.unheld (agent : Agent) : Agent :=
  { agent with held := false }

namespace Network

variable {selection : Selection} {network rest : Network} {index : Nat} {agent changed : Agent}
  {medium medium' : Medium}
  {dispose : Network → Agent → ConnectionId → Network}

/-- The network with an agent that nobody holds and that has given up its connection. -/
def released (network : Network) (index : Nat) (agent : Agent) : Network :=
  setAgent { network with agents := network.agents.set index agent.unheld } index agent.unheld.release.1

/-- Letting go of an agent, as long as no connect goes on in the background. -/
theorem letGo_eq (alone : network.attempts = []) (h : network.agents[index]? = some agent)
    (dispose : Network → Agent → ConnectionId → Network) :
    network.letGo index dispose =
      match agent.connection.handle with
      | none => network.released index agent
      | some handle => dispose (network.released index agent) agent.unheld handle := by
  let left := network.modifyAgent index fun agent ↦ { agent with held := false }
  have same : left = { network with agents := network.agents.set index agent.unheld } := modifyAgent_eq h _
  have still : left.isConnecting index = false := by
    rw [same]
    simp [isConnecting, alone]
  have own : left.agents[index]? = some agent.unheld := by
    rw [same]
    exact List.getElem?_set_self (List.getElem?_eq_some_iff.1 h).1
  have gives : network.letGo index dispose = left.giveUp index dispose := if_neg (still ▸ Bool.false_ne_true)
  rw [gives, giveUp, own, same]
  rfl

theorem letGo_of_none (h : network.agents[index]? = none) (dispose : Network → Agent → ConnectionId → Network) :
    network.letGo index dispose = network := by
  have same : (network.modifyAgent index fun agent ↦ { agent with held := false }) = network := by
    unfold modifyAgent
    rw [List.modify_eq_self (List.getElem?_eq_none_iff.1 h)]
  unfold letGo giveUp
  simp [same, h]

namespace Reduces

/-! ## Joining -/

theorem belongs_concat (reduces : network.Reduces selection rest)
    (belongs : changed.Belongs selection (selection.agents network.agents.length)) (other : Nat) (agent : Agent)
    (h : (network.agents ++ [changed])[other]? = some agent) : agent.Belongs selection (selection.agents other) := by
  rcases Nat.lt_trichotomy other network.agents.length with lt | rfl | gt
  · exact reduces.belongs other agent (List.getElem?_append_left lt ▸ h)
  · rw [List.getElem?_concat_length] at h
    exact Option.some.inj h ▸ belongs
  · rw [List.getElem?_eq_none (by simpa using Nat.succ_le_of_lt gt)] at h
    cases h

theorem join (reduces : network.Reduces selection rest) (kept : selection.agents network.agents.length)
    (belongs : agent.Belongs selection true) :
    Reduces selection { network with agents := network.agents ++ [agent] }
      { rest with agents := rest.agents ++ [agent.reduced selection] } :=
  { reduces with
    agents := by simp [Choice.keep_concat, kept, reduces.agents]
    belongs := reduces.belongs_concat (kept ▸ belongs) }

theorem join_left_out (reduces : network.Reduces selection rest)
    (left : selection.agents network.agents.length = false) (belongs : agent.Belongs selection false) :
    Reduces selection { network with agents := network.agents ++ [agent] } rest :=
  { reduces with
    agents := by rw [Choice.keep_concat_of_left_out left, reduces.agents]
    belongs := reduces.belongs_concat (left ▸ belongs) }

/-! ## Leaving -/

theorem released (reduces : network.Reduces selection rest) (kept : selection.agents index)
    (belongs : agent.Belongs selection true) :
    (network.released index agent).Reduces selection
      (rest.released (selection.agents.place index) (agent.reduced selection)) := by
  have unheld : agent.unheld.Belongs selection true := belongs.unheld
  exact (reduces.set kept unheld).setAgent kept unheld.release

theorem released_left_out (reduces : network.Reduces selection rest) (left : selection.agents index = false)
    (belongs : agent.Belongs selection false) : (network.released index agent).Reduces selection rest := by
  have unheld : agent.unheld.Belongs selection false := belongs.unheld
  exact (reduces.set_left_out left unheld).setAgent_left_out left unheld.release

theorem letGo (reduces : network.Reduces selection rest) (kept : selection.agents index)
    (disposes : dispose = closeLater ∨ dispose = forget) :
    (network.letGo index dispose).Reduces selection (rest.letGo (selection.agents.place index) dispose) := by
  have same := reduces.getElem?_agents kept
  cases h : network.agents[index]? with
  | none =>
    rw [h, Option.map_none] at same
    rw [letGo_of_none h, letGo_of_none same]
    exact reduces
  | some agent =>
    rw [h, Option.map_some] at same
    have belongs : agent.Belongs selection true := kept ▸ reduces.belongs index agent h
    have handle : (agent.reduced selection).connection.handle =
        agent.connection.handle.map selection.connections.place := rfl
    have leaves := reduces.released kept belongs
    rw [letGo_eq reduces.alone.1 h, letGo_eq reduces.alone.2 same, handle]
    cases held : agent.connection.handle with
    | none => exact leaves
    | some connection =>
      have own : selection.connections connection := belongs.handle connection held
      have plain : agent.unheld.transport = .plain := belongs.plain
      have plain' : (agent.reduced selection).unheld.transport = .plain := belongs.plain
      rcases disposes with rfl | rfl
      · have scheduled := leaves.schedule (show Task.Belongs selection (.close .plain connection) from rfl)
        simp only [Option.map_some, closeLater, plain, plain']
        simpa [Task.reduced?, own] using scheduled
      · refine leaves.onMedium ?_
        simp only [Medium.onBroker, leaves.broker, Broker.reduced_close own]

theorem letGo_left_out (reduces : network.Reduces selection rest) (awake : rest.Awake)
    (left : selection.agents index = false) (disposes : dispose = closeLater ∨ dispose = forget) :
    (network.letGo index dispose).Reduces selection rest := by
  cases h : network.agents[index]? with
  | none =>
    rw [letGo_of_none h]
    exact reduces
  | some agent =>
    have belongs : agent.Belongs selection false := left ▸ reduces.belongs index agent h
    have leaves := reduces.released_left_out left belongs
    rw [letGo_eq reduces.alone.1 h]
    cases held : agent.connection.handle with
    | none => exact leaves
    | some connection =>
      have own : selection.connections connection = false := belongs.handle connection held
      have plain : agent.unheld.transport = .plain := belongs.plain
      rcases disposes with rfl | rfl
      · have scheduled := leaves.schedule (show Task.Belongs selection (.close .plain connection) from rfl)
        simp only [closeLater, plain]
        simpa [Task.reduced?, own] using scheduled
      · refine leaves.onMedium_left_out awake ?_
        simp only [Medium.onBroker, Broker.reduced_close_of_left_out own]

end Reduces

end Network

end PubSub
