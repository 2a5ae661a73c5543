import PubSub.Proofs.Isolation.Leaving
import PubSub.Proofs.Network.Ticks
/-!
# The extent of a network

How many agents, connections and waits a network has grown to. As long as no connect goes on in the background, the
background work adds none.
-/

namespace PubSub

/-- How many agents, connections and waits there are, with the connects in the background. -/
structure Extent where
  agents : Nat
  connections : Nat
  waits : Nat
  attempts : List Attempt

namespace Network

variable {network after : Network}

def extent (network : Network) : Extent :=
  ⟨network.agents.length, network.medium.broker.clients.length, network.replies.length, network.attempts⟩

@[simp]
theorem extent_schedule (network : Network) (task : Task) : (network.schedule task).extent = network.extent := by
  obtain ⟨ready, same, -⟩ := schedule_eq network task
  rw [same]
  rfl

@[simp]
theorem extent_wake (network : Network) : network.wake.extent = network.extent := by
  obtain ⟨ready, same, -⟩ := wake_eq network
  rw [same]
  rfl

@[simp]
theorem extent_setAgent (network : Network) (index : Nat) (agent : Agent) :
    (network.setAgent index agent).extent = network.extent := by
  obtain ⟨ready, same, -⟩ := setAgent_eq network index agent
  rw [same]
  simp [extent]

@[simp]
theorem extent_observe (network : Network) (observation : Observation) :
    (network.observe observation).extent = network.extent :=
  rfl

@[simp]
theorem extent_modifyAgent (network : Network) (index : Nat) (change : Agent → Agent) :
    (network.modifyAgent index change).extent = network.extent := by
  simp [extent, modifyAgent]

@[simp]
theorem extent_modifyReceiver (network : Network) (id : ReceiverId) (change : Receiver → Receiver) :
    (network.modifyReceiver id change).extent = network.extent :=
  extent_modifyAgent network id.agent _

theorem extent_onMedium {operation : Medium → Medium}
    (same : (operation network.medium).broker.clients.length = network.medium.broker.clients.length) :
    (network.onMedium operation).extent = network.extent := by
  unfold onMedium
  rw [extent_wake]
  simp [extent, same]

@[simp]
theorem extent_publish (network : Network) (message : Message) (retain : Bool) :
    (network.publish message retain).extent = network.extent := by
  apply extent_onMedium
  simp [Medium.onBroker, Broker.route]

@[simp]
theorem extent_silenceAll (network : Network) : network.silenceAll.extent = network.extent := by
  apply extent_onMedium
  simp [Medium.onBroker, Broker.silenceAll]

/-! ## Callbacks -/

theorem extent_act (network : Network) (id : ReceiverId) (label : String) (delivery : Delivery) (action : Action) :
    (network.act id label delivery action).1.extent = network.extent := by
  cases action <;> simp [act]

theorem extent_actAll (network : Network) (id : ReceiverId) (label : String) (delivery : Delivery)
    (actions : List Action) : (network.actAll id label delivery actions).1.extent = network.extent := by
  induction actions generalizing network with
  | nil => rfl
  | cons action rest ih =>
    have first := extent_act network id label delivery action
    unfold actAll
    rcases acted : network.act id label delivery action with ⟨network', failed⟩
    rw [acted] at first
    cases failed with
    | true => exact first
    | false => exact (ih network').trans first

theorem extent_runHandler (network : Network) (id : ReceiverId) (delivery : Delivery) (handler : Handler) :
    (network.runHandler id delivery handler).extent = network.extent := by
  cases handler with
  | reply ticket => simp [runHandler, extent]
  | scripted label actions =>
    let noted := network.observe (.event (network.labelOf id.agent) (.ran label delivery))
    have acts : (noted.actAll id label delivery actions).1.extent = network.extent :=
      extent_actAll noted id label delivery actions
    simp only [runHandler]
    rcases acted : noted.actAll id label delivery actions with ⟨network', failed⟩
    rw [acted] at acts
    cases failed with
    | true => exact acts
    | false => exact acts

theorem extent_deliver (network : Network) (id : ReceiverId) (delivery : Delivery) (callbacks : List Callback) :
    (network.deliver id delivery callbacks).extent = network.extent := by
  have all (callbacks : List Callback) (network : Network) :
      (callbacks.foldl (fun network callback ↦ network.runHandler id delivery callback.handler) network).extent =
        network.extent := by
    induction callbacks generalizing network with
    | nil => rfl
    | cons callback rest ih => rw [List.foldl_cons, ih, extent_runHandler]
  unfold deliver
  rw [extent_modifyReceiver, all, extent_modifyReceiver]

theorem extent_dispatch (network : Network) (index : Nat) (agent : Agent) (message : Message) :
    (network.dispatch index agent message).extent = network.extent := by
  have offer (network : Network) (id : ReceiverId) : (network.offer message id).extent = network.extent := by
    unfold Network.offer
    split
    · rfl
    · split
      · rfl
      · exact extent_deliver network id _ _
  unfold dispatch
  induction agent.offered message.topic generalizing network with
  | nil => rfl
  | cons place rest ih => rw [List.foldl_cons, ih, offer]

/-! ## Background work -/

theorem extent_tick? (alone : network.attempts = []) (h : network.tick? = some after) :
    after.extent = network.extent := by
  cases tick_of_tick? h with
  | @dispatch index source rest agent phase message broker ready hagent reads taken handed =>
    have kept := (Broker.fades_of_take? taken).length_eq
    rw [extent_dispatch]
    simp [extent, kept]
  | rest ready hagent reads empty handed => exact extent_modifyAgent _ _ _
  | pass ready closes handed => rfl
  | close ready handed =>
    apply extent_onMedium
    simp [Broker.close, Broker.modifyClient]
  | attempt ready started hagent handed => simp [alone] at started

/-- The background work adds no agents, connections and waits. -/
theorem extent_run (alone : network.attempts = []) (steps : Nat) : (network.run steps).extent = network.extent := by
  induction steps generalizing network with
  | zero => rfl
  | succ steps ih =>
    unfold Network.run
    split
    · rfl
    · rename_i next ticks
      have same := extent_tick? alone ticks
      have alone' : next.attempts = [] := (congrArg Extent.attempts same).trans alone
      rw [ih alone', same]

/-! ## Agents that leave -/

theorem extent_letGo (network : Network) (index : Nat) : (network.letGo index closeLater).extent = network.extent := by
  unfold letGo giveUp
  simp only
  split
  · exact extent_modifyAgent _ _ _
  · split
    · exact extent_modifyAgent _ _ _
    · rename_i agent _
      split
      · rw [extent_setAgent, extent_modifyAgent]
      · rw [closeLater, extent_schedule, extent_setAgent, extent_modifyAgent]

end Network

end PubSub
