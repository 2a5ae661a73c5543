import PubSub.Proofs.Agent.Conduct
import PubSub.Proofs.Agent.Logging
import PubSub.Proofs.Network.Quiet
import PubSub.Proofs.Network.Steady
import PubSub.Proofs.Network.Ticks
/-!
# What background work does with agents

Whatever happens in a network, no agent is changed but by the deeds that agents are known to do, and no agent is ever
removed. A step of background work creates no channels, and a connect that it brings to success is observed as such.
-/

namespace PubSub

namespace Network

variable {allowed wider : Nat → Allowance} {network before middle after : Network} {agent changed : Agent} {index : Nat}

/-! ## Agents and their deeds -/

/-- From one network to a later one: no agent does anything but deeds, and no agent is lost. An agent that joins may
have connected already. -/
structure Conducts (allowed : Nat → Allowance) (before after : Network) : Prop where
  kept : ∀ (index : Nat) (agent : Agent), before.agents[index]? = some agent →
    ∃ later, after.agents[index]? = some later ∧ Agent.Conduct (allowed index) agent later
  joined : ∀ (index : Nat) (later : Agent), before.agents[index]? = none → after.agents[index]? = some later →
    ∃ described : Agent, described.IsBlank ∧ Agent.Conduct ⟨True, (allowed index).duplicates⟩ described later

namespace Conducts

theorem of_agents (same : after.agents = before.agents) : before.Conducts allowed after where
  kept index agent h := ⟨agent, same ▸ h, .refl⟩
  joined index later none h := by
    rw [same, none] at h
    cases h

theorem refl (network : Network) : network.Conducts allowed network :=
  of_agents rfl

theorem trans (first : before.Conducts allowed middle) (second : middle.Conducts allowed after) :
    before.Conducts allowed after where
  kept index agent h := by
    obtain ⟨between, hbetween, conduct⟩ := first.kept index agent h
    obtain ⟨later, hlater, conduct'⟩ := second.kept index between hbetween
    exact ⟨later, hlater, conduct.trans conduct'⟩
  joined index later none h := by
    cases hmiddle : middle.agents[index]? with
    | none => exact second.joined index later hmiddle h
    | some between =>
      obtain ⟨described, blank, conduct⟩ := first.joined index between none hmiddle
      obtain ⟨same, hsame, conduct'⟩ := second.kept index between hmiddle
      obtain rfl : same = later := Option.some.inj (hsame.symm.trans h)
      exact ⟨described, blank, conduct.trans (conduct'.mono (fun _ ↦ trivial) fun forced ↦ forced)⟩

theorem mono (conducts : before.Conducts allowed after)
    (connects : ∀ index, (allowed index).connects → (wider index).connects)
    (duplicates : ∀ index, (allowed index).duplicates → (wider index).duplicates) : before.Conducts wider after where
  kept index agent h := by
    obtain ⟨later, hlater, conduct⟩ := conducts.kept index agent h
    exact ⟨later, hlater, conduct.mono (connects index) (duplicates index)⟩
  joined index later none h := by
    obtain ⟨described, blank, conduct⟩ := conducts.joined index later none h
    exact ⟨described, blank, conduct.mono (fun _ ↦ trivial) (duplicates index)⟩

/-- One agent does something. -/
theorem set (h : before.agents[index]? = some agent) (same : after.agents = before.agents.set index changed)
    (conduct : Agent.Conduct (allowed index) agent changed) : before.Conducts allowed after where
  kept place other hplace := by
    by_cases own : index = place
    · subst own
      obtain rfl : agent = other := Option.some.inj (h.symm.trans hplace)
      refine ⟨changed, ?_, conduct⟩
      rw [same]
      exact List.getElem?_set_self (List.getElem?_eq_some_iff.1 h).1
    · refine ⟨other, ?_, .refl⟩
      rw [same, List.getElem?_set_ne own]
      exact hplace
  joined place later none hplace := by
    have length := congrArg List.length same
    rw [List.length_set] at length
    have lt := (List.getElem?_eq_some_iff.1 hplace).1
    have le := List.getElem?_eq_none_iff.1 none
    omega

end Conducts

theorem agents_wake (network : Network) : network.wake.agents = network.agents := by
  obtain ⟨ready, same, -⟩ := wake_eq network
  rw [same]

theorem agents_schedule (network : Network) (task : Task) : (network.schedule task).agents = network.agents := by
  obtain ⟨ready, same, -⟩ := schedule_eq network task
  rw [same]

theorem medium_schedule (network : Network) (task : Task) : (network.schedule task).medium = network.medium := by
  obtain ⟨ready, same, -⟩ := schedule_eq network task
  rw [same]

theorem agents_setAgent (network : Network) (index : Nat) (agent : Agent) :
    (network.setAgent index agent).agents = network.agents.set index agent := by
  obtain ⟨ready, same, -⟩ := setAgent_eq network index agent
  rw [same]

theorem conducts_modifyAgent {change : Agent → Agent}
    (conduct : ∀ agent, network.agents[index]? = some agent → Agent.Conduct (allowed index) agent (change agent)) :
    network.Conducts allowed (network.modifyAgent index change) := by
  cases h : network.agents[index]? with
  | none => exact .of_agents (List.modify_eq_self (List.getElem?_eq_none_iff.1 h))
  | some agent =>
    rw [modifyAgent_eq h]
    exact .set h rfl (conduct agent h)

/-- A receiver may get other callbacks and another mark. -/
theorem conducts_modifyReceiver (network : Network) (id : ReceiverId) {change : Receiver → Receiver}
    (same : ∀ receiver, network.receiver? id = some receiver → (change receiver).asCreated = receiver.asCreated) :
    network.Conducts allowed (network.modifyReceiver id change) := by
  apply conducts_modifyAgent
  intro agent hagent
  refine .single (.retune ?_)
  apply List.ext_getElem?
  intro place
  simp only [List.getElem?_map, List.getElem?_modify]
  by_cases own : id.index = place
  · subst own
    cases h : agent.receivers[id.index]? with
    | none => rfl
    | some receiver => simp [same receiver (receiver?_eq_some_iff.2 ⟨agent, hagent, h⟩)]
  · simp [own]

/-! ## Callbacks -/

/-- One thing that callbacks do to a network. -/
inductive Stir : Network → Network → Prop
  | observe (network : Network) (observation : Observation) : Stir network (network.observe observation)
  | retune (network : Network) (id : ReceiverId) (change : Receiver → Receiver)
    (same : ∀ receiver, (change receiver).asCreated = receiver.asCreated) :
    Stir network (network.modifyReceiver id change)
  | broker (network : Network) (operation : Broker → Broker) :
    Stir network (network.onMedium fun medium ↦ medium.onBroker operation)
  | reply (network : Network) (replies : List Reply) : Stir network { network with replies }

/-- What callbacks do, one thing after the other. -/
def Stirs : Network → Network → Prop :=
  Relation.ReflTransGen Stir

theorem stirs_act (network : Network) (id : ReceiverId) (label : String) (delivery : Delivery) (action : Action) :
    network.Stirs (network.act id label delivery action).1 := by
  cases action with
  | count => exact .single (.observe network _)
  | register target once handler => exact .single (.retune network _ _ fun _ ↦ rfl)
  | publish topic payload retain => exact .single (.broker network _)
  | silenceAll => exact .single (.broker network _)
  | fail => exact .refl
  | failIf test => exact .refl

theorem stirs_actAll (network : Network) (id : ReceiverId) (label : String) (delivery : Delivery)
    (actions : List Action) : network.Stirs (network.actAll id label delivery actions).1 := by
  induction actions generalizing network with
  | nil => exact .refl
  | cons action rest ih =>
    have first := stirs_act network id label delivery action
    unfold actAll
    split
    · rename_i h
      rw [h] at first
      exact first
    · rename_i h
      rw [h] at first
      exact first.trans (ih _)

theorem stirs_runHandler (network : Network) (id : ReceiverId) (delivery : Delivery) (handler : Handler) :
    network.Stirs (network.runHandler id delivery handler) := by
  cases handler with
  | reply ticket => exact .single (.reply network _)
  | scripted label actions =>
    let noted := network.observe (.event (network.labelOf id.agent) (.ran label delivery))
    have noted' : network.Stirs noted := .single (.observe network _)
    have done := stirs_actAll noted id label delivery actions
    unfold runHandler
    simp only
    split
    · rename_i h
      rw [h] at done
      exact noted'.trans done
    · rename_i h
      rw [h] at done
      exact (noted'.trans done).tail (.observe _ _)

theorem stirs_deliver (network : Network) (id : ReceiverId) (delivery : Delivery) (callbacks : List Callback) :
    network.Stirs (network.deliver id delivery callbacks) := by
  have all (callbacks : List Callback) (network : Network) : network.Stirs
      (callbacks.foldl (fun network callback ↦ network.runHandler id delivery callback.handler) network) := by
    induction callbacks generalizing network with
    | nil => exact .refl
    | cons callback rest ih => exact (stirs_runHandler network id delivery callback.handler).trans (ih _)
  have taken : network.Stirs (network.modifyReceiver id fun receiver ↦ { receiver with callbacks := [] }) :=
    .single (.retune network id _ fun _ ↦ rfl)
  exact (taken.trans (all callbacks _)).tail (.retune _ id _ fun _ ↦ rfl)

theorem stirs_offer (network : Network) (message : Message) (id : ReceiverId) :
    network.Stirs (network.offer message id) := by
  unfold offer
  split
  · exact .refl
  · split
    · exact .single (.observe network _)
    · exact stirs_deliver network id _ _

theorem stirs_dispatch (network : Network) (index : Nat) (agent : Agent) (message : Message) :
    network.Stirs (network.dispatch index agent message) := by
  unfold dispatch
  induction agent.offered message.topic generalizing network with
  | nil => exact .refl
  | cons place rest ih => exact (stirs_offer network message ⟨index, place⟩).trans (ih _)

theorem Stir.conducts (stir : before.Stir after) : before.Conducts allowed after := by
  cases stir with
  | observe observation => exact .of_agents rfl
  | retune id change same => exact conducts_modifyReceiver before id fun receiver _ ↦ same receiver
  | broker operation => exact .of_agents (agents_wake _)
  | reply replies => exact .of_agents rfl

theorem Stirs.conducts (stirs : before.Stirs after) : before.Conducts allowed after := by
  induction stirs with
  | refl => exact .refl before
  | tail _ stir ih => exact ih.trans stir.conducts

/-! ## Background work -/

theorem conducts_onAgent {α : Type} (h : network.agents[index]? = some agent)
    (operation : Medium → Agent → Medium × Agent × α)
    (conduct : Agent.Conduct (allowed index) agent (operation network.medium agent).2.1) :
    network.Conducts allowed (network.onAgent index agent operation).1 := by
  refine .set h ?_ conduct
  unfold onAgent
  simp only [agents_wake, agents_setAgent]

theorem conducts_giveUp {dispose : Network → Agent → ConnectionId → Network}
    (disposes : dispose = closeLater ∨ dispose = forget) :
    network.Conducts allowed (network.giveUp index dispose) := by
  unfold giveUp
  split
  · exact .refl network
  · rename_i agent h
    have released : network.Conducts allowed (network.setAgent index agent.release.1) :=
      .set h (agents_setAgent network index _) (.single .release)
    simp only
    split
    · exact released
    · refine released.trans (.of_agents ?_)
      rcases disposes with rfl | rfl
      · exact agents_schedule _ _
      · exact agents_wake _

theorem conducts_letGo (network : Network) (index : Nat) {dispose : Network → Agent → ConnectionId → Network}
    (disposes : dispose = closeLater ∨ dispose = forget) : network.Conducts allowed (network.letGo index dispose) := by
  have dropped : network.Conducts allowed (network.modifyAgent index fun agent ↦ { agent with held := false }) :=
    conducts_modifyAgent fun _ _ ↦ .single .letGo
  unfold letGo
  simp only
  split
  · exact dropped
  · exact dropped.trans (conducts_giveUp disposes)

theorem conducts_finishConnect (network : Network) (index : Nat) (attempt : Attempt) (result : Except Error Unit) :
    network.Conducts allowed (network.finishConnect index attempt result) := by
  have noted : network.Conducts allowed
      ((network.setProgress index .finished).observe (.completed attempt.ticket result)) := .of_agents rfl
  unfold finishConnect
  simp only
  split
  · exact noted.trans (conducts_giveUp (.inl rfl))
  · exact noted

theorem medium_onAgent {α : Type} (network : Network) (index : Nat) (agent : Agent)
    (operation : Medium → Agent → Medium × Agent × α) :
    (network.onAgent index agent operation).1.medium = (operation network.medium agent).1 := by
  obtain ⟨ready, same, -⟩ := setAgent_eq { network with medium := (operation network.medium agent).1 } index
    (operation network.medium agent).2.1
  simp only [onAgent, medium_wake, same]

theorem medium_giveUp_closeLater (network : Network) (index : Nat) :
    (network.giveUp index closeLater).medium = network.medium := by
  unfold giveUp
  split
  · rfl
  · rename_i agent _
    obtain ⟨ready, same, -⟩ := setAgent_eq network index agent.release.1
    simp only [same]
    split
    · rfl
    · exact medium_schedule _ _

/-- The end of a connect is observed last of all, and nothing is asked of the broker for it. -/
theorem medium_finishConnect (network : Network) (index : Nat) (attempt : Attempt) (result : Except Error Unit) :
    (network.finishConnect index attempt result).medium =
      network.medium.observe (.completed attempt.ticket result) := by
  unfold finishConnect
  simp only
  split
  · rw [medium_giveUp_closeLater]
    rfl
  · rfl

/-- Whether the next step of background work brings a connect of an agent to success: the success is newly observed. -/
def Completes (network : Network) (index : Nat) : Prop :=
  ∃ after number attempt, network.tick? = some after ∧ network.ready.head? = some (.attempt number) ∧
    network.attempts[number]? = some attempt ∧ attempt.agent = index ∧
    .completed attempt.ticket (.ok ()) ∈ after.medium.observations.drop network.medium.observations.length

/-- A connect that has its answer starts a dispatcher only if its success is then observed. -/
theorem conducts_completeConnect (number : Nat) (attempt : Attempt) (h : network.agents[attempt.agent]? = some agent)
    (pending : Pending) (permitted : (agent.completeConnect network.medium pending).2.2.isOk →
      (allowed attempt.agent).connects) :
    network.Conducts allowed (network.completeConnect number attempt agent pending) := by
  rw [completeConnect_eq]
  have answered := conducts_onAgent h (fun medium agent ↦ agent.completeConnect medium pending)
    (.single (.complete network.medium pending permitted))
  exact answered.trans (conducts_finishConnect _ number attempt _)

theorem medium_completeConnect (network : Network) (number : Nat) (attempt : Attempt) (agent : Agent)
    (pending : Pending) : (network.completeConnect number attempt agent pending).medium =
      (agent.completeConnect network.medium pending).1.observe
        (.completed attempt.ticket (agent.completeConnect network.medium pending).2.2) := by
  rw [completeConnect_eq, medium_finishConnect, medium_onAgent]

theorem eq_ok_of_isOk {result : Except Error Unit} (ok : result.isOk) : result = .ok () := by
  cases result with
  | error error => cases ok
  | ok => rfl

namespace Asks

variable {attempt : Attempt} {asked : Network} {begun : Agent}

theorem agents_cases (asks : network.Asks attempt agent asked begun) :
    asked.agents = network.agents ∧ begun = agent ∨ asked.agents = network.agents.set attempt.agent begun := by
  cases asks with
  | before => exact .inl ⟨rfl, rfl⟩
  | now began => exact .inr ((agents_wake _).trans (agents_setAgent _ _ _))

theorem getElem? (asks : network.Asks attempt agent asked begun) (h : network.agents[attempt.agent]? = some agent) :
    asked.agents[attempt.agent]? = some begun := by
  rcases asks.agents_cases with ⟨same, rfl⟩ | set
  · rw [same]
    exact h
  · rw [set]
    exact List.getElem?_set_self (List.getElem?_eq_some_iff.1 h).1

theorem medium_cases (asks : network.Asks attempt agent asked begun) :
    asked.medium = network.medium ∧ begun = agent ∨
      ∃ pending, agent.beginConnect network.medium attempt.overrides = .ok (asked.medium, begun, pending) := by
  cases asks with
  | before => exact .inl ⟨rfl, rfl⟩
  | @now medium begun pending began =>
    obtain ⟨ready, same, -⟩ := setAgent_eq { network with medium } attempt.agent begun
    refine .inr ⟨pending, ?_⟩
    rw [medium_wake, same]
    exact began

theorem conducts (asks : network.Asks attempt agent asked begun) (h : network.agents[attempt.agent]? = some agent) :
    network.Conducts allowed asked := by
  rcases asks.agents_cases with ⟨same, -⟩ | set
  · exact .of_agents same
  · rcases asks.medium_cases with ⟨-, rfl⟩ | ⟨pending, began⟩
    · exact .set h set .refl
    · exact .set h set (.single (.ask began))

theorem logs {calls : Call → Prop} (asks : network.Asks attempt agent asked begun) (closes : calls .close)
    (connects : ∀ options clientId, calls (.connect options clientId)) : network.medium.Logs calls asked.medium := by
  rcases asks.medium_cases with ⟨same, -⟩ | ⟨pending, began⟩
  · rw [same]
    exact .refl network.medium
  · exact Agent.logs_of_beginConnect closes connects began

/-- What is observed of a connect that has its answer: calls and notes, and then its end. -/
theorem observations (calls : Call → Prop) (asks : network.Asks attempt agent asked begun) (number : Nat)
    (pending : Pending) (closes : calls .close) (connects : ∀ options clientId, calls (.connect options clientId))
    (subscribes : (begun.completeConnect asked.medium pending).2.2.isOk →
      ∀ pattern qos, calls (.subscribe pattern qos)) :
    ∃ added, (∀ observation ∈ added, observation.IsLogged calls) ∧
      (asked.completeConnect number attempt begun pending).medium.observations.drop
        network.medium.observations.length =
          added ++ [.completed attempt.ticket (begun.completeConnect asked.medium pending).2.2] := by
  have logs := (asks.logs closes connects).trans
    (Agent.logs_completeConnect asked.medium begun pending closes subscribes)
  obtain ⟨added, same, logged⟩ := logs
  refine ⟨added, logged, ?_⟩
  rw [medium_completeConnect, Medium.observe, ← same, List.append_assoc, List.drop_left]

end Asks

/-- A connect in the background succeeds only if that is observed. -/
theorem conducts_continueConnect {number : Nat} {attempt : Attempt} (h : network.agents[attempt.agent]? = some agent)
    (permitted : .completed attempt.ticket (.ok ()) ∈
      (network.continueConnect number attempt agent).medium.observations.drop network.medium.observations.length →
      (allowed attempt.agent).connects) :
    network.Conducts allowed (network.continueConnect number attempt agent) := by
  have carry := network.carry_continueConnect number attempt agent
  generalize network.continueConnect number attempt agent = after at carry permitted
  cases carry with
  | idle => exact .refl network
  | refuse refused => exact conducts_finishConnect network number attempt _
  | wait asks => exact (asks.conducts h).trans (.of_agents rfl)
  | @answer asked begun pending asks =>
    have answered := conducts_completeConnect number attempt (asks.getElem? h) pending fun ok ↦ permitted ?_
    · exact (asks.conducts h).trans answered
    obtain ⟨added, -, observed⟩ := asks.observations (fun _ ↦ True) number pending trivial
      (fun _ _ ↦ trivial) fun _ _ _ ↦ trivial
    rw [observed, eq_ok_of_isOk ok]
    exact List.mem_append_right _ (List.mem_singleton_self _)

/-- A step of background work creates no channels, and it brings connects to success that are observed. -/
theorem conducts_tick? (h : network.tick? = some after) :
    network.Conducts (fun index ↦ ⟨network.Completes index, False⟩) after := by
  cases tick_of_tick? h with
  | @dispatch index source rest agent phase message broker ready hagent reads taken handed =>
    have taken : network.Conducts (fun index ↦ ⟨network.Completes index, False⟩)
        { network with medium := { network.medium with broker } } := .of_agents rfl
    exact taken.trans (stirs_dispatch _ index agent message).conducts
  | @rest index source rest agent former ready hagent reads empty handed =>
    have hagent' : ({ network with ready := rest } : Network).agents[index]? = some agent := hagent
    rw [modifyAgent_eq hagent']
    exact .set hagent rfl (.single (.rest _ reads))
  | pass ready closes handed => exact .of_agents rfl
  | close ready handed => exact .of_agents (agents_wake _)
  | @attempt number rest attempt agent ready started hagent handed =>
    have passed : network.Conducts (fun index ↦ ⟨network.Completes index, False⟩) { network with ready := rest } :=
      .of_agents rfl
    refine passed.trans (conducts_continueConnect hagent fun observed ↦ ?_)
    exact ⟨_, number, attempt, h, by rw [ready]; rfl, started, rfl, observed⟩

end Network

end PubSub
