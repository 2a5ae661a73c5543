import PubSub.Proofs.Agent.Resubscription
import PubSub.Proofs.Session.Dispatching
/-!
# Every connect subscribes again

Whenever a connect of an agent succeeds in a session, on request or in the background, the receivers that the agent has
at that moment are subscribed again: those that it had before, and those that were created while it was not connected
or while the transport held its answer back.
-/

namespace PubSub

namespace Network

variable {network after : Network} {agent : Agent} {attempt : Attempt} {index : Nat}

/-- The end of a connect leaves an agent as it is, unless nobody holds it: then it is given up with its receivers. -/
theorem receivers_finishConnect (h : network.agents[attempt.agent]? = some agent) (number : Nat)
    (result : Except Error Unit) :
    ∃ later, (network.finishConnect number attempt result).agents[attempt.agent]? = some later ∧
      later.receivers = agent.receivers ∧ (agent.held → later = agent) := by
  have place : (network.ended number attempt result).agents[attempt.agent]? = some agent := h
  rcases finishConnect_cases network number attempt result h with ⟨-, same⟩ | ⟨unused, same⟩
  · rw [same]
    exact ⟨agent, place, rfl, fun _ ↦ rfl⟩
  · rw [same]
    have unheld : ¬agent.held := fun held ↦ unused (.inl (by rw [place]; exact held))
    have released : ((network.ended number attempt result).giveUp attempt.agent closeLater).agents[attempt.agent]? =
        some agent.release.1 := by
      have set := agents_setAgent (network.ended number attempt result) attempt.agent agent.release.1
      have own : (network.ended number attempt result).agents.set attempt.agent agent.release.1 =
          ((network.ended number attempt result).giveUp attempt.agent closeLater).agents := by
        unfold giveUp
        rw [place]
        simp only
        split
        · exact set.symm
        · exact ((agents_schedule _ _).trans set).symm
      rw [← own]
      exact List.getElem?_set_self (List.getElem?_eq_some_iff.1 place).1
    exact ⟨_, released, rfl, fun held ↦ absurd held unheld⟩

theorem Asks.asked {asked : Network} {begun : Agent} (asks : network.Asks attempt agent asked begun) :
    agent.Asked network.medium asked.medium ∧ begun = { agent with connection := begun.connection } := by
  rcases asks.medium_cases with ⟨same, rfl⟩ | ⟨pending, began⟩
  · exact ⟨.inl same, rfl⟩
  · exact ⟨.inr ⟨_, _, _, began⟩, by rw [(Agent.beginConnect_eq_ok began).1]⟩

/-- A connect whose success is observed has subscribed again. -/
theorem resubscribes_of_continueConnect {number : Nat} (h : network.agents[attempt.agent]? = some agent)
    (observed : .completed attempt.ticket (.ok ()) ∈
      (network.continueConnect number attempt agent).medium.observations.drop network.medium.observations.length) :
    ∃ later, (network.continueConnect number attempt agent).agents[attempt.agent]? = some later ∧
      agent.Resubscribes network.medium later (network.continueConnect number attempt agent).medium := by
  have carry := network.carry_continueConnect number attempt agent
  generalize network.continueConnect number attempt agent = after at carry observed ⊢
  cases carry with
  | idle => simp at observed
  | refuse refused => simp [medium_finishConnect, Medium.observe] at observed
  | wait asks =>
    have logs : network.medium.Logs Unsubscribing _ := asks.logs rfl fun _ _ ↦ rfl
    exact absurd (logs.mem_drop observed) fun logged ↦ logged
  | @answer asked begun pending asks =>
    obtain ⟨added, logged, news⟩ := asks.observations (fun _ ↦ True) number pending trivial (fun _ _ ↦ trivial)
      fun _ _ _ ↦ trivial
    have done : (begun.completeConnect asked.medium pending).2.2 = .ok () := by
      rw [news] at observed
      rcases List.mem_append.1 observed with hmem | hmem
      · exact absurd (logged _ hmem) fun h ↦ h
      · exact (Observation.completed.inj (List.mem_singleton.1 hmem)).2.symm
    have place := getElem?_onAgent (asks.getElem? h) fun medium agent ↦ agent.completeConnect medium pending
    obtain ⟨later, hlater, receivers, held⟩ := receivers_finishConnect place number
      (begun.completeConnect asked.medium pending).2.2
    refine ⟨later, hlater, ?_⟩
    rw [medium_completeConnect, done]
    exact Agent.resubscribes_of_completeConnect asks.asked.1 asks.asked.2 (Prod.ext rfl (Prod.ext rfl done))
      (by simp) receivers held

/-- A connect that a step of background work brings to success subscribes the receivers that the agent has then. -/
theorem resubscribes_of_completes (h : network.tick? = some after) (completes : network.Completes index) :
    ∃ agent later, network.agents[index]? = some agent ∧ after.agents[index]? = some later ∧
      agent.Resubscribes network.medium later after.medium := by
  obtain ⟨last, number, attempt, ticks, head, started, rfl, observed⟩ := completes
  obtain rfl : last = after := Option.some.inj (ticks.symm.trans h)
  cases tick_of_tick? h with
  | @attempt found rest other agent ready started' hagent handed =>
    obtain rfl : found = number := by simpa [ready] using head
    obtain rfl : other = attempt := Option.some.inj (started'.symm.trans started)
    let passed : Network := { network with ready := rest }
    have hagent' : passed.agents[other.agent]? = some agent := hagent
    obtain ⟨later, hlater, resubscribes⟩ := resubscribes_of_continueConnect hagent' observed
    exact ⟨agent, later, hagent, hlater, resubscribes⟩
  | pass ready closes handed => simp at observed
  | dispatch ready hagent reads taken handed => simp [ready] at head
  | rest ready hagent reads empty handed => simp [ready] at head
  | close ready handed => simp [ready] at head

end Network

/-- A connect that is requested and answered with success subscribes the receivers that the agent has then. -/
theorem Session.resubscribes_of_connects {session : Session} {index : Nat} {request : Request}
    (connects : session.Connects index request) :
    ∃ agent later, session.network.agents[index]? = some agent ∧
      (session.handle request).1.network.agents[index]? = some later ∧
      agent.Resubscribes session.network.medium later (session.handle request).1.network.medium := by
  cases request with
  | connect label overrides =>
    obtain ⟨known, done⟩ := connects
    cases hfind : session.findAgent label with
    | error refusal =>
      rw [Traffic.handle_connect_of_error hfind] at done
      cases done
    | ok found =>
      obtain ⟨place, agent⟩ := found
      obtain rfl : index = place := Option.some.inj (known.symm.trans (get?_of_findAgent hfind))
      rw [handle_connect hfind] at done ⊢
      rw [isOk_onAgent] at done
      have h := findAgent_eq_ok hfind
      have place := Network.getElem?_onAgent h fun medium agent ↦ agent.connect medium overrides
      refine ⟨agent, _, h, place, ?_⟩
      have medium := Network.medium_onAgent session.network index agent fun medium agent ↦
        agent.connect medium overrides
      unfold onAgent
      rw [medium]
      exact Agent.resubscribes_connect (Prod.ext rfl (Prod.ext rfl (Network.eq_ok_of_isOk done)))
  | _ => cases connects

/-- A connect succeeds exactly if the transport accepts it in time, whatever becomes of the receivers. It then makes one
attempt to subscribe each receiver that the agent has at that moment, in the order of registration and with the
receiver's pattern and guarantee, and marks the receiver with what came of it. The new connection lists the patterns of
all receivers if no attempt fails, and of equal patterns the last. -/
theorem connect_resubscribes :
    (∀ (medium : Medium) (agent : Agent) (pending : Pending),
      (agent.completeConnect medium pending).2.2.isOk =
        ((medium.answerConnect agent.transport pending.options agent.clientId).isOk &&
          agent.connection.isCurrent pending.generation)) ∧
    (∀ (before after : Medium) (agent later : Agent) (overrides : BrokerOverrides),
      agent.connect before overrides = (after, later, .ok ()) → agent.Resubscribes before later after) ∧
    (∀ (session : Session) (request : Request) (index : Nat), session.Connects index request →
      ∃ agent later, session.network.agents[index]? = some agent ∧
        (session.handle request).1.network.agents[index]? = some later ∧
        agent.Resubscribes session.network.medium later (session.handle request).1.network.medium) ∧
    (∀ (network after : Network) (index : Nat), network.tick? = some after → network.Completes index →
      ∃ agent later, network.agents[index]? = some agent ∧ after.agents[index]? = some later ∧
        agent.Resubscribes network.medium later after.medium) ∧
    ∀ (medium : Medium) (receiver : Receiver), medium.grants .plain receiver :=
  ⟨Agent.isOk_completeConnect, fun _ _ _ _ _ done ↦ Agent.resubscribes_connect done,
    fun _ _ _ connects ↦ Session.resubscribes_of_connects connects,
    fun _ _ _ ticks completes ↦ Network.resubscribes_of_completes ticks completes, Medium.grants_plain⟩

/-- Three receivers were created before the connect, two of them with one pattern. With a fault that strikes the other
pattern only that receiver is not subscribed; without faults the broker lists each pattern once, in the order of the
last of each. -/
theorem connect_resubscribes_duplicates :
    let receiver (label pattern : String) : Request := .createReceiver
      ⟨"agent", label, .u32, "speed", { ChannelOptions.none with overrideTopic := some pattern, ignoreExisting := true },
        none⟩
    let prepared (transport : TransportChoice) : List Request := [
      .build ⟨"agent", "role", none, none, none, .none, some false, none, transport⟩,
      receiver "first" "speed", receiver "second" "#", receiver "third" "speed",
      .script "agent" ⟨none, some ["denied"], some (some "#"), none, none, none, none⟩]
    let session (transport : TransportChoice) : Session :=
      (Traffic.fresh.run ((prepared transport).map .request)).session
    ((session .scripted).handle (.connect "agent" .none)).1.network.agents[0]?.map
      (fun agent ↦ agent.receivers.map Receiver.subscribed) = some [true, false, true] ∧
    ((session .plain).handle (.connect "agent" .none)).1.network.medium.broker.filtersOf 0 = ["#", "speed"] := by
  intro receiver prepared session
  constructor
  · obtain ⟨agent, later, h, hlater, resubscribes⟩ := connect_resubscribes.2.2.1 (session .scripted)
      (.connect "agent" .none) 0 ⟨by decide +kernel, by decide +kernel⟩
    have granted : (session .scripted).network.agents[0]?.map (fun agent ↦
        agent.receivers.map ((session .scripted).network.medium.grants agent.transport)) = some [true, false, true] := by
      decide +kernel
    rw [h, Option.map_some] at granted
    rw [hlater, Option.map_some, resubscribes.marks, List.map_map, ← granted]
    rfl
  · obtain ⟨agent, later, h, -, resubscribes⟩ := connect_resubscribes.2.2.1 (session .plain)
      (.connect "agent" .none) 0 ⟨by decide +kernel, by decide +kernel⟩
    have described : (session .plain).network.agents[0]?.map (fun agent ↦
        (agent.transport, (agent.receivers.map fun receiver ↦ receiver.pattern.text).dedup)) =
          some (.plain, ["#", "speed"]) := by decide +kernel
    rw [h, Option.map_some, Option.some.injEq, Prod.mk.injEq] at described
    have first : (session .plain).network.medium.broker.clients.length = 0 := by decide +kernel
    have filters := resubscribes.filters fun receiver _ ↦ by
      rw [described.1]
      exact connect_resubscribes.2.2.2.2 _ receiver
    rw [described.2, first] at filters
    exact filters

end PubSub
