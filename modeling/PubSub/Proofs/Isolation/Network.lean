import PubSub.Proofs.Isolation.Agent
import PubSub.Proofs.Network.Steady
/-!
# A network without some of its agents

Leaving out agents, with their connections and waits, leaves a network in which the others do the same. Each step of
the network is a step of what is left if it is one of the others, and else is not noticed there.
-/

namespace PubSub

/-! ## What is known by its number -/

def Reply.reduced (selection : Selection) : Reply → Reply
  | waiting receiver => waiting (receiver.reduced selection)
  | delivered delivery => delivered delivery

/-- A task as it is once others are left out, unless it is left out itself. -/
def Task.reduced? (selection : Selection) : Task → Option Task
  | dispatch agent source =>
    if selection.agents agent then
      some (dispatch (selection.agents.place agent) (selection.connections.place source))
    else none
  | attempt _ => none
  | close transport connection =>
    if selection.connections connection then some (close transport (selection.connections.place connection))
    else none

/-- A task is about an agent and a connection of the same side, and none carries on a connect. -/
def Task.Belongs (selection : Selection) : Task → Prop
  | dispatch agent source => selection.connections source = selection.agents agent
  | attempt _ => False
  | close transport _ => transport = .plain

variable {selection : Selection}

theorem Task.reduced?_inj {task other left : Task} (belongs : task.Belongs selection)
    (belongs' : other.Belongs selection) (h : task.reduced? selection = some left)
    (h' : other.reduced? selection = some left) : task = other := by
  cases task with
  | attempt number => cases belongs
  | dispatch agent source =>
    simp only [reduced?, Option.ite_none_right_eq_some, Option.some.injEq] at h
    obtain ⟨kept, rfl⟩ := h
    cases other with
    | attempt number => cases belongs'
    | close transport connection => simp [reduced?] at h'
    | dispatch agent' source' =>
      simp only [reduced?, Option.ite_none_right_eq_some, Option.some.injEq, dispatch.injEq] at h'
      obtain ⟨kept', place, place'⟩ := h'
      have source : selection.connections source := belongs.trans kept
      have source' : selection.connections source' := belongs'.trans kept'
      rw [(Choice.place_inj kept' kept).1 place, (Choice.place_inj source' source).1 place']
  | close transport connection =>
    simp only [reduced?, Option.ite_none_right_eq_some, Option.some.injEq] at h
    obtain ⟨kept, rfl⟩ := h
    cases other with
    | attempt number => cases belongs'
    | dispatch agent source => simp [reduced?] at h'
    | close transport' connection' =>
      simp only [reduced?, Option.ite_none_right_eq_some, Option.some.injEq, close.injEq] at h'
      obtain ⟨kept', rfl, place⟩ := h'
      rw [(Choice.place_inj kept' kept).1 place]

namespace Network

/-- What is left of a network when agents are left out, with their connections, waits and tasks. No connect goes on in
the background, and nothing is shared between those that are kept and those that are not. -/
structure Reduces (selection : Selection) (network rest : Network) : Prop where
  broker : rest.medium.broker = network.medium.broker.reduced selection
  agents : rest.agents = (selection.agents.keep network.agents).map (Agent.reduced selection)
  replies : rest.replies = (selection.waits.keep network.replies).map (Reply.reduced selection)
  ready : rest.ready = network.ready.filterMap (Task.reduced? selection)
  alone : network.attempts = [] ∧ rest.attempts = []
  belongs : ∀ (index : Nat) (agent : Agent), network.agents[index]? = some agent →
    agent.Belongs selection (selection.agents index)
  tasks : ∀ task ∈ network.ready, task.Belongs selection
  waits : ∀ (ticket : Nat) (id : ReceiverId), network.replies[ticket]? = some (.waiting id) →
    selection.waits ticket = selection.agents id.agent

variable {network rest : Network} {index : Nat} {id : ReceiverId} {agent changed : Agent}

namespace Reduces

theorem getElem?_agents (reduces : network.Reduces selection rest) (kept : selection.agents index) :
    rest.agents[selection.agents.place index]? = network.agents[index]?.map (Agent.reduced selection) := by
  rw [reduces.agents, List.getElem?_map, Choice.getElem?_keep kept]

theorem receiver? (reduces : network.Reduces selection rest) (kept : selection.agents id.agent) :
    rest.receiver? (id.reduced selection) = (network.receiver? id).map (Receiver.reduced selection) := by
  unfold Network.receiver?
  simp only [ReceiverId.reduced, reduces.getElem?_agents kept]
  cases network.agents[id.agent]? with
  | none => rfl
  | some agent => exact List.getElem?_map

theorem belongs_receiver (reduces : network.Reduces selection rest) {receiver : Receiver}
    (h : network.receiver? id = some receiver) : receiver.Belongs selection (selection.agents id.agent) := by
  obtain ⟨agent, hagent, hreceiver⟩ := Option.bind_eq_some_iff.1 h
  exact (reduces.belongs id.agent agent hagent).callbacks receiver (List.mem_of_getElem? hreceiver)

/-! ## Tasks -/

theorem schedule (reduces : network.Reduces selection rest) {task : Task} (belongs : task.Belongs selection) :
    (network.schedule task).Reduces selection (((task.reduced? selection).map rest.schedule).getD rest) := by
  have tasks : ∀ other ∈ network.ready ++ [task], other.Belongs selection := by
    intro other hother
    rcases List.mem_append.1 hother with former | new
    · exact reduces.tasks other former
    · exact List.mem_singleton.1 new ▸ belongs
  cases h : task.reduced? selection with
  | none =>
    simp only [Option.map_none, Option.getD_none]
    unfold Network.schedule
    split
    · exact reduces
    · exact { reduces with
        ready := by rw [List.filterMap_append, ← reduces.ready]; simp [h]
        tasks }
  | some left =>
    have same : rest.ready.contains left = network.ready.contains task := by
      rw [Bool.eq_iff_iff, List.contains_iff_mem, List.contains_iff_mem, reduces.ready, List.mem_filterMap]
      constructor
      · rintro ⟨other, hmem, hother⟩
        exact Task.reduced?_inj (reduces.tasks other hmem) belongs hother h ▸ hmem
      · exact fun hmem ↦ ⟨task, hmem, h⟩
    simp only [Option.map_some, Option.getD_some]
    unfold Network.schedule
    rw [same]
    split
    · exact reduces
    · exact { reduces with
        ready := by rw [List.filterMap_append, ← reduces.ready]; simp [h]
        tasks }

theorem foldl_schedule {tasks : List Task} (reduces : network.Reduces selection rest)
    (belongs : ∀ task ∈ tasks, task.Belongs selection) :
    (tasks.foldl Network.schedule network).Reduces selection
      ((tasks.filterMap (Task.reduced? selection)).foldl Network.schedule rest) := by
  induction tasks generalizing network rest with
  | nil => exact reduces
  | cons task others ih =>
    have belongs := List.forall_mem_cons.1 belongs
    have first := ih (reduces.schedule belongs.1) belongs.2
    rw [List.foldl_cons]
    cases h : task.reduced? selection with
    | none => simpa [h] using first
    | some left => simpa [h] using first

end Reduces

/-- The tasks of all dispatchers that have something to do. -/
def wakeUps (network : Network) : List Task :=
  network.agents.zipIdx.filterMap fun entry ↦ wakeUp? network.medium.broker entry.2 entry.1

theorem wakeUp?_reduced {kept : Bool} (belongs : agent.Belongs selection kept) (own : selection.agents index = kept)
    (broker : Broker) :
    (if selection.agents index then
      wakeUp? (broker.reduced selection) (selection.agents.place index) (agent.reduced selection)
    else none) = (wakeUp? broker index agent).bind (Task.reduced? selection) := by
  unfold wakeUp?
  have dispatcher : (agent.reduced selection).dispatcher = agent.dispatcher.map (Dispatcher.reduced selection) := rfl
  rw [dispatcher]
  cases kept : selection.agents index with
  | false =>
    rcases agent.dispatcher with _ | ⟨source, _ | _ | _⟩
    · rfl
    · simp [Task.reduced?, kept]
    · simp only [Bool.false_eq_true, if_false]
      split <;> simp [Task.reduced?, kept]
    · rfl
  | true =>
    rcases reads : agent.dispatcher with _ | ⟨source, _ | _ | _⟩
    · rfl
    · simp [Dispatcher.reduced, Task.reduced?, kept]
    · have kept' : selection.connections source := (belongs.source _ reads).trans (own.symm.trans kept)
      simp only [if_true, Option.map_some, Dispatcher.reduced, Broker.isClosed_reduced kept',
        Broker.inbox_reduced kept']
      split <;> simp [Task.reduced?, kept]
    · rfl

theorem belongs_of_wakeUp? {kept : Bool} {broker : Broker} {task : Task} (belongs : agent.Belongs selection kept)
    (own : selection.agents index = kept) (h : wakeUp? broker index agent = some task) : task.Belongs selection := by
  unfold wakeUp? at h
  rcases reads : agent.dispatcher with _ | ⟨source, _ | _ | _⟩ <;> simp only [reads] at h
  · cases h
  · obtain rfl := Option.some.inj h
    exact (belongs.source _ reads).trans own.symm
  · obtain ⟨-, rfl⟩ := by simpa using h
    exact (belongs.source _ reads).trans own.symm
  · cases h

namespace Reduces

theorem wakeUps (reduces : network.Reduces selection rest) :
    rest.wakeUps = network.wakeUps.filterMap (Task.reduced? selection) := by
  unfold Network.wakeUps
  rw [reduces.agents, reduces.broker, List.zipIdx_map, Choice.zipIdx_keep, List.map_map, List.filterMap_map,
    List.filterMap_filterMap, List.filterMap_filter]
  refine List.filterMap_congr fun entry hentry ↦ ?_
  have own := List.mk_mem_zipIdx_iff_getElem?.1 hentry
  exact wakeUp?_reduced (reduces.belongs entry.2 entry.1 own) rfl network.medium.broker

theorem wake (reduces : network.Reduces selection rest) : network.wake.Reduces selection rest.wake := by
  have same : rest.wake = (network.wakeUps.filterMap (Task.reduced? selection)).foldl Network.schedule rest := by
    rw [← reduces.wakeUps]
    rfl
  rw [same]
  refine reduces.foldl_schedule fun task htask ↦ ?_
  obtain ⟨entry, hentry, h⟩ := List.mem_filterMap.1 htask
  exact belongs_of_wakeUp? (reduces.belongs entry.2 entry.1 (List.mk_mem_zipIdx_iff_getElem?.1 hentry)) rfl h

end Reduces

/-- Nothing is added to the tasks of a network in which every dispatcher that has something to do is ready. -/
theorem Awake.wake (awake : rest.Awake) : rest.wake = rest := by
  have ready : ∀ task ∈ rest.wakeUps, task ∈ rest.ready := by
    intro task htask
    obtain ⟨entry, hentry, h⟩ := List.mem_filterMap.1 htask
    exact awake entry.2 entry.1 task (List.mk_mem_zipIdx_iff_getElem?.1 hentry) h
  have all (tasks : List Task) (ready : ∀ task ∈ tasks, task ∈ rest.ready) : tasks.foldl schedule rest = rest := by
    induction tasks with
    | nil => rfl
    | cons task others ih =>
      have ready := List.forall_mem_cons.1 ready
      have same : rest.schedule task = rest := by simp [schedule, ready.1]
      rw [List.foldl_cons, same, ih ready.2]
  exact all _ ready

namespace Reduces

/-! ## Parts that change -/

theorem withBroker {medium medium' : Medium} (reduces : network.Reduces selection rest)
    (broker : medium'.broker = medium.broker.reduced selection) :
    Reduces selection { network with medium } { rest with medium := medium' } :=
  { reduces with broker }

theorem onMedium {operation operation' : Medium → Medium} (reduces : network.Reduces selection rest)
    (broker : (operation' rest.medium).broker = (operation network.medium).broker.reduced selection) :
    (network.onMedium operation).Reduces selection (rest.onMedium operation') :=
  (reduces.withBroker broker).wake

theorem onMedium_left_out {operation : Medium → Medium} (reduces : network.Reduces selection rest)
    (awake : rest.Awake)
    (broker : (operation network.medium).broker.reduced selection = network.medium.broker.reduced selection) :
    (network.onMedium operation).Reduces selection rest := by
  have changed : Reduces selection { network with medium := operation network.medium } rest :=
    { reduces with broker := reduces.broker.trans broker.symm }
  have woken := changed.wake
  rw [awake.wake] at woken
  exact woken

theorem publish (reduces : network.Reduces selection rest) (message : Message) (retain : Bool) :
    (network.publish message retain).Reduces selection (rest.publish message retain) := by
  unfold Network.publish
  apply reduces.onMedium
  simp only [Medium.onBroker, reduces.broker, Broker.reduced_route]

theorem close {connection : ConnectionId} (reduces : network.Reduces selection rest)
    (kept : selection.connections connection) :
    (network.onMedium fun medium ↦ (medium.close .plain connection).1).Reduces selection
      (rest.onMedium fun medium ↦ (medium.close .plain (selection.connections.place connection)).1) := by
  apply reduces.onMedium
  simp only [Medium.close_plain, Broker.reduced_close kept, reduces.broker]

theorem close_left_out {connection : ConnectionId} (reduces : network.Reduces selection rest) (awake : rest.Awake)
    (left : selection.connections connection = false) :
    (network.onMedium fun medium ↦ (medium.close .plain connection).1).Reduces selection rest := by
  apply reduces.onMedium_left_out awake
  simp only [Medium.close_plain, Broker.reduced_close_of_left_out left]

theorem silenceAll (reduces : network.Reduces selection rest) :
    network.silenceAll.Reduces selection rest.silenceAll := by
  unfold Network.silenceAll
  apply reduces.onMedium
  simp only [Medium.onBroker, reduces.broker, Broker.reduced_silenceAll]

/-- An agent is exchanged for one that belongs to the same side. -/
theorem belongs_set (reduces : network.Reduces selection rest)
    (belongs : changed.Belongs selection (selection.agents index)) (other : Nat) (agent : Agent)
    (h : (network.agents.set index changed)[other]? = some agent) :
    agent.Belongs selection (selection.agents other) := by
  by_cases same : index = other
  · subst same
    rw [List.getElem?_set] at h
    simp only [if_true] at h
    split at h
    · exact Option.some.inj h ▸ belongs
    · cases h
  · rw [List.getElem?_set_ne same] at h
    exact reduces.belongs other agent h

theorem set (reduces : network.Reduces selection rest) (kept : selection.agents index)
    (belongs : changed.Belongs selection true) :
    Reduces selection { network with agents := network.agents.set index changed }
      { rest with agents := rest.agents.set (selection.agents.place index) (changed.reduced selection) } :=
  { reduces with
    agents := by rw [Choice.keep_set kept, List.map_set, ← reduces.agents]
    belongs := reduces.belongs_set (kept ▸ belongs) }

theorem set_left_out (reduces : network.Reduces selection rest) (left : selection.agents index = false)
    (belongs : changed.Belongs selection false) :
    Reduces selection { network with agents := network.agents.set index changed } rest :=
  { reduces with
    agents := by rw [Choice.keep_set_of_left_out left, reduces.agents]
    belongs := reduces.belongs_set (left ▸ belongs) }

/-! ## Agents -/

theorem setAgent (reduces : network.Reduces selection rest) (kept : selection.agents index)
    (belongs : changed.Belongs selection true) :
    (network.setAgent index changed).Reduces selection
      (rest.setAgent (selection.agents.place index) (changed.reduced selection)) := by
  have exchanged := reduces.set kept belongs
  unfold Network.setAgent
  rw [reduces.getElem?_agents kept]
  cases h : network.agents[index]? with
  | none => exact exchanged
  | some former =>
    have own := reduces.belongs index former h
    rw [kept] at own
    cases reads : former.dispatcher with
    | none =>
      have reads' : (former.reduced selection).dispatcher = none := by simp [Agent.reduced, reads]
      simp only [Option.map_some, bind, Option.bind, reads, reads', Option.filter_none]
      exact exchanged
    | some dispatcher =>
      have reads' : (former.reduced selection).dispatcher = some (dispatcher.reduced selection) := by
        simp [Agent.reduced, reads]
      have source : selection.connections dispatcher.source := own.source dispatcher reads
      have leaves : ((changed.reduced selection).dispatcher.all fun other ↦
          other.source ≠ (dispatcher.reduced selection).source) =
            changed.dispatcher.all fun other ↦ other.source ≠ dispatcher.source := belongs.reads_place rfl source
      have phase : (dispatcher.reduced selection).phase = dispatcher.phase := rfl
      simp only [Option.map_some, bind, Option.bind, reads, reads', Option.filter_some, phase, leaves]
      -- The former dispatcher is woken once more, if it has not finished and the agent leaves its connection.
      generalize (decide (dispatcher.phase ≠ .finished) && changed.dispatcher.all fun other ↦
        other.source ≠ dispatcher.source) = stops
      cases stops with
      | false => exact exchanged
      | true =>
        have own : Task.Belongs selection (.dispatch index dispatcher.source) := source.trans kept.symm
        have scheduled := exchanged.schedule own
        simp only [Task.reduced?, kept, if_true, Option.map_some, Option.getD_some] at scheduled
        exact scheduled

theorem setAgent_left_out (reduces : network.Reduces selection rest) (left : selection.agents index = false)
    (belongs : changed.Belongs selection false) : (network.setAgent index changed).Reduces selection rest := by
  have exchanged := reduces.set_left_out left belongs
  unfold Network.setAgent
  simp only
  split
  · exact exchanged
  · rename_i dispatcher stopped
    obtain ⟨reads, -⟩ := Option.filter_eq_some_iff.1 stopped
    obtain ⟨former, h, reads⟩ := Option.bind_eq_some_iff.1 reads
    have source := (reduces.belongs index former h).source dispatcher reads
    have scheduled := exchanged.schedule (show Task.Belongs selection (.dispatch index dispatcher.source) from source)
    simpa [Task.reduced?, left] using scheduled

theorem onAgent {α : Type} {operation : Medium → Agent → Medium × Agent × α} (reduces : network.Reduces selection rest)
    (kept : selection.agents index)
    (broker : (operation rest.medium (agent.reduced selection)).1.broker =
      (operation network.medium agent).1.broker.reduced selection)
    (answer : (operation rest.medium (agent.reduced selection)).2 =
      ((operation network.medium agent).2.1.reduced selection, (operation network.medium agent).2.2))
    (belongs : (operation network.medium agent).2.1.Belongs selection true) :
    (network.onAgent index agent operation).1.Reduces selection
        (rest.onAgent (selection.agents.place index) (agent.reduced selection) operation).1 ∧
      (rest.onAgent (selection.agents.place index) (agent.reduced selection) operation).2 =
        (network.onAgent index agent operation).2 := by
  obtain ⟨changed, result⟩ := Prod.mk.inj answer
  unfold Network.onAgent
  refine ⟨?_, result⟩
  simp only [changed]
  exact ((reduces.withBroker broker).setAgent kept belongs).wake

theorem onAgent_left_out {α : Type} {operation : Medium → Agent → Medium × Agent × α}
    (reduces : network.Reduces selection rest) (awake : rest.Awake) (left : selection.agents index = false)
    (broker : (operation network.medium agent).1.broker.reduced selection = network.medium.broker.reduced selection)
    (belongs : (operation network.medium agent).2.1.Belongs selection false) :
    (network.onAgent index agent operation).1.Reduces selection rest := by
  have changed : Reduces selection { network with medium := (operation network.medium agent).1 } rest :=
    { reduces with broker := reduces.broker.trans broker.symm }
  have woken := (changed.setAgent_left_out left belongs).wake
  rw [awake.wake] at woken
  exact woken

/-! ## Receivers -/

end Reduces

/-- A change of a receiver brings it no callbacks of another side. -/
def Keeps (selection : Selection) (kept : Bool) (change : Receiver → Receiver) : Prop :=
  ∀ receiver : Receiver, receiver.Belongs selection kept → (change receiver).Belongs selection kept

theorem belongs_modify {kept : Bool} {change : Receiver → Receiver} (belongs : agent.Belongs selection kept)
    (keeps : Keeps selection kept change) (place : Nat) :
    Agent.Belongs selection kept { agent with receivers := agent.receivers.modify place change } := by
  refine ⟨belongs.plain, belongs.handle, belongs.source, fun receiver hreceiver ↦ ?_⟩
  obtain ⟨other, hother⟩ := List.getElem?_of_mem hreceiver
  obtain ⟨former, hformer, rfl⟩ := Option.map_eq_some_iff.1 (List.getElem?_modify .. ▸ hother)
  have own := belongs.callbacks former (List.mem_of_getElem? hformer)
  split
  · exact keeps former own
  · exact own

theorem modifyReceiver_eq (h : network.agents[id.agent]? = some agent) (change : Receiver → Receiver) :
    network.modifyReceiver id change = { network with
      agents := network.agents.set id.agent { agent with receivers := agent.receivers.modify id.index change } } :=
  modifyAgent_eq h _

theorem modifyReceiver_of_none (h : network.agents[id.agent]? = none) (change : Receiver → Receiver) :
    network.modifyReceiver id change = network := by
  unfold modifyReceiver modifyAgent
  rw [List.modify_eq_self (List.getElem?_eq_none_iff.1 h)]

namespace Reduces

theorem modifyReceiver {change change' : Receiver → Receiver} (reduces : network.Reduces selection rest)
    (kept : selection.agents id.agent)
    (same : ∀ receiver, (change receiver).reduced selection = change' (receiver.reduced selection))
    (keeps : Keeps selection true change) :
    (network.modifyReceiver id change).Reduces selection (rest.modifyReceiver (id.reduced selection) change') := by
  cases h : network.agents[id.agent]? with
  | none =>
    have h' : rest.agents[(id.reduced selection).agent]? = none := by
      rw [ReceiverId.reduced, reduces.getElem?_agents kept, h]
      rfl
    rw [modifyReceiver_of_none h, modifyReceiver_of_none h']
    exact reduces
  | some agent =>
    have h' : rest.agents[(id.reduced selection).agent]? = some (agent.reduced selection) := by
      rw [ReceiverId.reduced, reduces.getElem?_agents kept, h]
      rfl
    have own := reduces.belongs id.agent agent h
    rw [kept] at own
    have changed : { agent.reduced selection with
          receivers := (agent.reduced selection).receivers.modify (id.reduced selection).index change' } =
        Agent.reduced selection { agent with receivers := agent.receivers.modify id.index change } := by
      simp only [Agent.reduced, ReceiverId.reduced, Agent.mk.injEq, true_and, and_true]
      refine List.ext_getElem? fun place ↦ ?_
      simp only [List.getElem?_map, List.getElem?_modify]
      cases agent.receivers[place]? with
      | none => rfl
      | some receiver => by_cases here : id.index = place <;> simp [here, same]
    rw [modifyReceiver_eq h, modifyReceiver_eq h', changed]
    exact reduces.set kept (belongs_modify own keeps id.index)

theorem modifyReceiver_left_out {change : Receiver → Receiver} (reduces : network.Reduces selection rest)
    (left : selection.agents id.agent = false) (keeps : Keeps selection false change) :
    (network.modifyReceiver id change).Reduces selection rest := by
  cases h : network.agents[id.agent]? with
  | none =>
    rw [modifyReceiver_of_none h]
    exact reduces
  | some agent =>
    have own := reduces.belongs id.agent agent h
    rw [left] at own
    rw [modifyReceiver_eq h]
    exact reduces.set_left_out left (belongs_modify own keeps id.index)

theorem exchange {receiver : Receiver} (reduces : network.Reduces selection rest) (kept : selection.agents id.agent)
    (belongs : receiver.Belongs selection true) :
    (network.modifyReceiver id fun _ ↦ receiver).Reduces selection
      (rest.modifyReceiver (id.reduced selection) fun _ ↦ receiver.reduced selection) := by
  apply reduces.modifyReceiver kept
  · exact fun _ ↦ rfl
  · exact fun _ _ ↦ belongs

theorem exchange_left_out {receiver : Receiver} (reduces : network.Reduces selection rest)
    (left : selection.agents id.agent = false) (belongs : receiver.Belongs selection false) :
    (network.modifyReceiver id fun _ ↦ receiver).Reduces selection rest :=
  reduces.modifyReceiver_left_out left fun _ _ ↦ belongs

/-! ## Waits and notes -/

theorem observe (reduces : network.Reduces selection rest) (observation observation' : Observation) :
    (network.observe observation).Reduces selection (rest.observe observation') :=
  { reduces with }

theorem observe_left_out (reduces : network.Reduces selection rest) (observation : Observation) :
    (network.observe observation).Reduces selection rest :=
  { reduces with }

theorem waits_modify (reduces : network.Reduces selection rest) (ticket : Nat) (delivery : Delivery) (other : Nat)
    (id : ReceiverId) (h : (network.replies.modify ticket fun _ ↦ .delivered delivery)[other]? = some (.waiting id)) :
    selection.waits other = selection.agents id.agent := by
  rw [List.getElem?_modify] at h
  obtain ⟨former, hformer, same⟩ := Option.map_eq_some_iff.1 h
  split at same
  · cases same
  · exact reduces.waits other id (same ▸ hformer)

theorem length_replies (reduces : network.Reduces selection rest) :
    rest.replies.length = selection.waits.place network.replies.length := by
  rw [reduces.replies, List.length_map, Choice.length_keep]

theorem waits_concat (reduces : network.Reduces selection rest)
    (own : selection.waits network.replies.length = selection.agents id.agent) (ticket : Nat) (other : ReceiverId)
    (h : (network.replies ++ [.waiting id])[ticket]? = some (.waiting other)) :
    selection.waits ticket = selection.agents other.agent := by
  rcases Nat.lt_trichotomy ticket network.replies.length with lt | rfl | gt
  · exact reduces.waits ticket other (List.getElem?_append_left lt ▸ h)
  · rw [List.getElem?_concat_length] at h
    cases Option.some.inj h
    exact own
  · rw [List.getElem?_eq_none (by simpa using Nat.succ_le_of_lt gt)] at h
    cases h

/-- Somebody begins to wait for a message. -/
theorem await (reduces : network.Reduces selection rest) (kept : selection.waits network.replies.length)
    (own : selection.agents id.agent) :
    Reduces selection { network with replies := network.replies ++ [.waiting id] }
      { rest with replies := rest.replies ++ [.waiting (id.reduced selection)] } :=
  { reduces with
    replies := by simp [Choice.keep_concat, kept, reduces.replies, Reply.reduced]
    waits := reduces.waits_concat (kept.trans own.symm) }

theorem await_left_out (reduces : network.Reduces selection rest)
    (left : selection.waits network.replies.length = false) (own : selection.agents id.agent = false) :
    Reduces selection { network with replies := network.replies ++ [.waiting id] } rest :=
  { reduces with
    replies := by rw [Choice.keep_concat_of_left_out left, reduces.replies]
    waits := reduces.waits_concat (left.trans own.symm) }

theorem answer (reduces : network.Reduces selection rest) {ticket : Nat} (kept : selection.waits ticket)
    (delivery : Delivery) :
    Reduces selection { network with replies := network.replies.modify ticket fun _ ↦ .delivered delivery }
      { rest with
        replies := rest.replies.modify (selection.waits.place ticket) fun _ ↦ .delivered delivery } :=
  { reduces with
    replies := by
      rw [Choice.keep_modify kept, reduces.replies]
      refine List.ext_getElem? fun place ↦ ?_
      simp only [List.getElem?_map, List.getElem?_modify]
      cases (selection.waits.keep network.replies)[place]? with
      | none => rfl
      | some reply => by_cases here : selection.waits.place ticket = place <;> simp [here, Reply.reduced]
    waits := reduces.waits_modify ticket delivery }

theorem answer_left_out (reduces : network.Reduces selection rest) {ticket : Nat}
    (left : selection.waits ticket = false) (delivery : Delivery) :
    Reduces selection { network with replies := network.replies.modify ticket fun _ ↦ .delivered delivery } rest :=
  { reduces with
    replies := by rw [Choice.keep_modify_of_left_out left, reduces.replies]
    waits := reduces.waits_modify ticket delivery }

end Reduces

end Network

end PubSub
