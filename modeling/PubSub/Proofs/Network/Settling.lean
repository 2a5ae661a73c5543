import PubSub.Proofs.Agent.Operations
import PubSub.Proofs.Network.Delivery
import PubSub.Proofs.Network.Ticks
/-!
# Settling

A network whose callbacks leave the broker alone comes to an end of its background work. A connect that is carried on is
ready no more, and puts no other connect before it; apart from connects, a connection is closed, a message is taken from
an inbox, or a dispatcher goes to rest. So with every step the counts of these, in that order, become less.
-/

namespace PubSub

/-- Whether a task carries a connect on. -/
def Task.isAttempt : Task → Bool
  | .attempt _ => true
  | _ => false

/-- Whether a task closes a connection. -/
def Task.isClose : Task → Bool
  | .close _ _ => true
  | _ => false

/-- How many messages wait in the inboxes of a broker. -/
def Broker.waiting (broker : Broker) : Nat :=
  (broker.clients.flatMap Client.inbox).length

theorem length_flatMap_modify {α β : Type} (parts : α → List β) (change : α → α) {items : List α} {index : Nat}
    {item : α} (h : items[index]? = some item) :
    ((items.modify index change).flatMap parts).length + (parts item).length =
      (items.flatMap parts).length + (parts (change item)).length := by
  induction items generalizing index with
  | nil => cases h
  | cons first rest ih =>
    cases index with
    | zero =>
      obtain rfl : first = item := by simpa using h
      simp only [List.modify_zero_cons, List.flatMap_cons, List.length_append]
      omega
    | succ index =>
      have shorter := ih (by simpa using h)
      simp only [List.modify_succ_cons, List.flatMap_cons, List.length_append]
      omega

/-- A message that is taken waits no longer. -/
theorem Broker.waiting_of_take? {broker rest : Broker} {connection : ConnectionId} {message : Message}
    (taken : broker.take? connection = some (message, rest)) : broker.waiting = rest.waiting + 1 := by
  rcases take?_eq_some taken with ⟨inbox, hinbox, rfl⟩
  unfold Broker.inbox at hinbox
  cases hclient : broker.clients[connection]? with
  | none => simp [hclient] at hinbox
  | some client =>
    have size : client.inbox.length = inbox.length + 1 := by
      rw [hclient, Option.map_some, Option.getD_some] at hinbox
      rw [hinbox, List.length_cons]
    have total := length_flatMap_modify Client.inbox (fun client ↦ { client with inbox }) hclient
    unfold waiting modifyClient
    simp only at total ⊢
    omega

namespace Network

variable {network before middle after : Network} {agent changed : Agent} {index : Nat}

/-! ## Counting tasks -/

theorem countP_schedule {counts : Task → Bool} {task : Task} (h : counts task = false) (network : Network) :
    (network.schedule task).ready.countP counts = network.ready.countP counts := by
  unfold schedule
  split
  · rfl
  · simp [h]

theorem countP_lt_cons {counts : Task → Bool} {task : Task} (h : counts task) (rest : List Task) :
    rest.countP counts < (task :: rest).countP counts := by
  rw [List.countP_cons_of_pos h]
  exact Nat.lt_succ_self _

/-- Waking adds no tasks but those of dispatchers. -/
theorem countP_wake {counts : Task → Bool} (h : ∀ index source, counts (.dispatch index source) = false)
    (network : Network) : network.wake.ready.countP counts = network.ready.countP counts := by
  have all (tasks : List Task) (others : ∀ task ∈ tasks, counts task = false) (network : Network) :
      (tasks.foldl schedule network).ready.countP counts = network.ready.countP counts := by
    induction tasks generalizing network with
    | nil => rfl
    | cons task rest ih =>
      rw [List.forall_mem_cons] at others
      rw [List.foldl_cons, ih others.2, countP_schedule others.1]
  refine all _ (fun task hmem ↦ ?_) network
  rcases List.mem_filterMap.1 hmem with ⟨entry, -, hwake⟩
  rcases wakeUp?_eq_some hwake with ⟨dispatcher, -, rfl, -⟩
  exact h _ _

/-! ## What a connect leaves as it is -/

/-- The callbacks of all receivers. -/
def callbacks (network : Network) : List (List (List Callback)) :=
  network.agents.map fun agent ↦ agent.receivers.map Receiver.callbacks

theorem callbacks_set (h : network.agents[index]? = some agent)
    (same : changed.receivers.map Receiver.callbacks = agent.receivers.map Receiver.callbacks) :
    ((network.agents.set index changed).map fun agent ↦ agent.receivers.map Receiver.callbacks) =
      network.callbacks := by
  have place : network.callbacks[index]? = some (changed.receivers.map Receiver.callbacks) := by
    rw [same, callbacks, List.getElem?_map, h, Option.map_some]
  obtain ⟨hlt, hplace⟩ := List.getElem?_eq_some_iff.1 place
  calc ((network.agents.set index changed).map fun agent ↦ agent.receivers.map Receiver.callbacks)
    _ = network.callbacks.set index (changed.receivers.map Receiver.callbacks) := List.map_set
    _ = network.callbacks := by rw [← hplace, List.set_getElem_self]

theorem Quiet.of_callbacks (quiet : before.Quiet) (same : after.callbacks = before.callbacks) : after.Quiet := by
  intro id receiver h callback hmem
  rcases receiver?_eq_some_iff.1 h with ⟨agent, hagent, hreceiver⟩
  have place := congrArg (fun callbacks ↦ callbacks[id.agent]? >>= fun rows ↦ rows[id.index]?) same
  simp only [callbacks, List.getElem?_map, hagent, Option.map_some, Option.bind_eq_bind, Option.bind_some,
    hreceiver] at place
  rcases Option.bind_eq_some_iff.1 place.symm with ⟨rows, hrows, hrow⟩
  rcases Option.map_eq_some_iff.1 hrows with ⟨former, hformer, rfl⟩
  rw [List.getElem?_map] at hrow
  rcases Option.map_eq_some_iff.1 hrow with ⟨old, hold, hcallbacks⟩
  rw [← hcallbacks] at hmem
  exact quiet id old (receiver?_eq_some_iff.2 ⟨former, hformer, hold⟩) callback hmem

/-- From one network to another with as many connects ready and with the same callbacks. -/
structure Spares (before after : Network) : Prop where
  attempts : after.ready.countP Task.isAttempt = before.ready.countP Task.isAttempt
  callbacks : after.callbacks = before.callbacks

namespace Spares

theorem refl (network : Network) : network.Spares network :=
  ⟨rfl, rfl⟩

theorem trans (first : before.Spares middle) (second : middle.Spares after) : before.Spares after :=
  ⟨second.attempts.trans first.attempts, second.callbacks.trans first.callbacks⟩

theorem schedule {task : Task} (h : task.isAttempt = false) (network : Network) :
    network.Spares (network.schedule task) where
  attempts := countP_schedule h network
  callbacks := by
    rcases schedule_eq network task with ⟨ready, hready, -⟩
    rw [hready]
    rfl

theorem wake (network : Network) : network.Spares network.wake where
  attempts := countP_wake (fun _ _ ↦ rfl) network
  callbacks := by
    rcases wake_eq network with ⟨ready, hready, -⟩
    rw [hready]
    rfl

theorem setAgent {medium : Medium} (h : network.agents[index]? = some agent)
    (same : changed.receivers.map Receiver.callbacks = agent.receivers.map Receiver.callbacks) :
    network.Spares (Network.setAgent { network with medium } index changed) := by
  have set : network.Spares { network with medium, agents := network.agents.set index changed } :=
    ⟨rfl, callbacks_set h same⟩
  unfold Network.setAgent
  simp only
  split
  · exact set
  · exact set.trans (schedule rfl _)

theorem giveUp (network : Network) (index : Nat) : network.Spares (network.giveUp index closeLater) := by
  unfold Network.giveUp
  split
  · exact refl network
  · rename_i agent h
    have released : network.Spares (network.setAgent index agent.release.1) := setAgent h rfl
    cases held : agent.release.2 with
    | none =>
      simp only [held]
      exact released
    | some handle =>
      simp only [held]
      exact released.trans (schedule rfl _)

theorem finishConnect (network : Network) (index : Nat) (attempt : Attempt) (result : Except Error Unit) :
    network.Spares (network.finishConnect index attempt result) := by
  have finished : network.Spares ((network.setProgress index .finished).observe (.completed attempt.ticket result)) :=
    ⟨rfl, rfl⟩
  unfold Network.finishConnect
  simp only
  split
  · exact finished.trans (giveUp _ attempt.agent)
  · exact finished

theorem completeConnect (index : Nat) (attempt : Attempt) (h : network.agents[attempt.agent]? = some agent)
    (pending : Pending) : network.Spares (network.completeConnect index attempt agent pending) := by
  have answered : network.Spares (Network.setAgent
      { network with medium := (agent.completeConnect network.medium pending).1 } attempt.agent
      (agent.completeConnect network.medium pending).2.1) :=
    setAgent h ((Agent.framed_completeConnect network.medium agent pending).map_eq fun _ _ ↦ rfl)
  rw [completeConnect_eq]
  exact (answered.trans (wake _)).trans (finishConnect _ index attempt _)

theorem continueConnect (index : Nat) (attempt : Attempt) (h : network.agents[attempt.agent]? = some agent) :
    network.Spares (network.continueConnect index attempt agent) := by
  unfold Network.continueConnect
  split
  · split
    · exact finishConnect network index attempt _
    · rename_i medium begun pending hbegin
      have h' : ({ network with medium } : Network).agents[attempt.agent]? = some agent := h
      have asked : network.Spares (Network.setAgent { network with medium } attempt.agent begun) :=
        setAgent h (by rw [(Agent.beginConnect_eq_ok hbegin).1])
      have begins := asked.trans (wake _)
      simp only
      split
      · exact ⟨begins.attempts, begins.callbacks⟩
      · exact begins.trans (completeConnect index attempt (getElem?_wake_setAgent h' begun) pending)
  · exact completeConnect index attempt h _
  · exact refl network
  · exact refl network

end Spares

/-! ## Steps -/

theorem mild_dispatch (quiet : network.Quiet) (index : Nat) (agent : Agent) (message : Message) :
    Mild (fun _ ↦ True) network (network.dispatch index agent message) := by
  unfold Network.dispatch
  induction agent.offered message.topic generalizing network with
  | nil => exact .refl _
  | cons place rest ih =>
    have first : Mild (fun _ ↦ True) network (network.offer message ⟨index, place⟩) :=
      (Mild.offer quiet message ⟨index, place⟩).mono fun _ _ ↦ trivial
    exact first.trans (ih (first.quiet quiet))

/-- What is left to do: the connects, the closes, the messages, and the tasks of any sort. -/
def load (network : Network) : Nat × Nat × Nat × Nat :=
  (network.ready.countP Task.isAttempt, network.ready.countP Task.isClose, network.medium.broker.waiting,
    network.ready.length)

/-- Less is left to do: the first count that is not as before is less. -/
def Lighter (before after : Network) : Prop :=
  Prod.Lex (· < ·) (Prod.Lex (· < ·) (Prod.Lex (· < ·) (· < ·))) after.load before.load

theorem Quiet.tick? (quiet : network.Quiet) (h : network.tick? = some after) :
    after.Quiet ∧ network.Lighter after := by
  cases tick_of_tick? h with
  | @dispatch index source rest agent phase message broker ready hagent reads taken handed =>
    let start : Network := { network with medium := { network.medium with broker } }
    have quiet' : start.Quiet := quiet
    have mild := mild_dispatch quiet' index agent message
    have ready_eq := congrArg Network.ready mild.bare_eq
    have broker_eq := congrArg (fun network ↦ network.medium.broker) mild.bare_eq
    change (start.dispatch index agent message).ready = network.ready at ready_eq
    change (start.dispatch index agent message).medium.broker = broker at broker_eq
    refine ⟨mild.quiet quiet', ?_⟩
    unfold Lighter load
    rw [ready_eq, broker_eq, Broker.waiting_of_take? taken]
    exact .right _ (.right _ (.left _ _ (Nat.lt_succ_self _)))
  | @rest index source rest agent former ready hagent reads empty handed =>
    have hagent' : ({ network with ready := rest } : Network).agents[index]? = some agent := hagent
    refine ⟨quiet.of_callbacks ?_, ?_⟩
    · rw [modifyAgent_eq hagent']
      exact callbacks_set hagent rfl
    · unfold Lighter load
      rw [ready]
      exact .right _ (.right _ (.right _ (Nat.lt_succ_self _)))
  | @pass task rest ready closes handed =>
    refine ⟨quiet, ?_⟩
    unfold Lighter load
    rw [ready]
    cases task with
    | dispatch index source => exact .right _ (.right _ (.right _ (Nat.lt_succ_self _)))
    | attempt index => exact .left _ _ (countP_lt_cons rfl rest)
    | close transport connection => exact absurd rfl (closes transport connection)
  | @close transport connection rest ready handed =>
    refine ⟨quiet.of_callbacks ?_, ?_⟩
    · exact (Spares.wake _).callbacks
    · unfold Lighter load onMedium
      rw [countP_wake fun _ _ ↦ rfl, countP_wake fun _ _ ↦ rfl, ready]
      exact .right _ (.left _ _ (countP_lt_cons rfl rest))
  | @attempt index rest attempt agent ready started hagent handed =>
    have hagent' : ({ network with ready := rest } : Network).agents[attempt.agent]? = some agent := hagent
    have spares := Spares.continueConnect index attempt hagent'
    refine ⟨quiet.of_callbacks spares.callbacks, ?_⟩
    unfold Lighter load
    rw [spares.attempts, ready]
    exact .left _ _ (countP_lt_cons rfl rest)

/-- Callbacks that leave the broker alone let the background work come to an end. -/
theorem exists_settled (network : Network) (quiet : network.Quiet) : ∃ steps, (network.run steps).ready = [] := by
  cases h : network.tick? with
  | none => exact ⟨0, tick?_eq_none_iff.1 h⟩
  | some after =>
    obtain ⟨quiet', lighter⟩ := quiet.tick? h
    obtain ⟨steps, settled⟩ := exists_settled after quiet'
    refine ⟨steps + 1, ?_⟩
    rw [run_of_tick? h]
    exact settled
termination_by network.load
decreasing_by exact lighter

end Network

end PubSub
