import PubSub.Proofs.Isolation.Network
import PubSub.Proofs.Network.Delivery
import PubSub.Proofs.Network.Ticks
/-!
# Background work without some of the agents

What the background work brings to the receivers of agents that are kept does not depend on the others, as long as
these have only callbacks that leave the broker alone.
-/

namespace PubSub

variable {selection : Selection}

/-- What happens to a receiver, as it is once others are left out, unless the receiver is left out itself. -/
def Occurrence.reduced? (selection : Selection) : Occurrence → Option Occurrence
  | offered receiver message callbacks =>
    if selection.agents receiver.agent then
      some (offered (receiver.reduced selection) message (callbacks.map (Callback.reduced selection)))
    else none
  | ran receiver callback delivery =>
    if selection.agents receiver.agent then
      some (ran (receiver.reduced selection) (callback.reduced selection) delivery)
    else none

namespace Network.Reduces

variable {network rest : Network} {id : ReceiverId}

/-! ## Handlers -/

theorem keeps_register {kept : Bool} {callback : Callback} (belongs : callback.Belongs selection kept) :
    Network.Keeps selection kept fun receiver ↦ receiver.register callback :=
  fun _ own ↦ own.register belongs

/-- The receiver that an action registers a callback on is of the side of the receiver that acts. -/
theorem agents_target {kept : Bool} (own : selection.agents id.agent = kept) {target : Option ReceiverId}
    (belongs : ∀ other ∈ target, selection.agents other.agent = kept) :
    selection.agents (target.getD id).agent = kept := by
  cases target with
  | none => exact own
  | some other => exact belongs other rfl

theorem act (reduces : network.Reduces selection rest) (kept : selection.agents id.agent) (label : String)
    (delivery : Delivery) {action : Action} (belongs : action.Belongs selection true) :
    (network.act id label delivery action).1.Reduces selection
        (rest.act (id.reduced selection) label delivery (action.reduced selection)).1 ∧
      (rest.act (id.reduced selection) label delivery (action.reduced selection)).2 =
        (network.act id label delivery action).2 := by
  cases action with
  | count => exact ⟨reduces.observe _ _, rfl⟩
  | register target once handler =>
    have target' : (target.map (ReceiverId.reduced selection)).getD (id.reduced selection) =
        (target.getD id).reduced selection := by cases target <;> rfl
    have own : Callback.Belongs selection true ⟨once, handler⟩ := belongs.2
    refine ⟨?_, rfl⟩
    simp only [Network.act, Action.reduced, target']
    exact reduces.modifyReceiver (agents_target kept belongs.1) (fun receiver ↦ receiver.reduced_register)
      (keeps_register own)
  | publish topic payload retain => exact ⟨reduces.publish _ _, rfl⟩
  | silenceAll => exact ⟨reduces.silenceAll, rfl⟩
  | fail => exact ⟨reduces, rfl⟩
  | failIf test => exact ⟨reduces, rfl⟩

theorem act_left_out (reduces : network.Reduces selection rest) (left : selection.agents id.agent = false)
    (label : String) (delivery : Delivery) {action : Action} (belongs : action.Belongs selection false) :
    (network.act id label delivery action).1.Reduces selection rest := by
  cases action with
  | count => exact reduces.observe_left_out _
  | register target once handler =>
    have own : Callback.Belongs selection false ⟨once, handler⟩ := belongs.2
    exact reduces.modifyReceiver_left_out (agents_target left belongs.1) (keeps_register own)
  | publish topic payload retain => cases belongs
  | silenceAll => cases belongs
  | fail => exact reduces
  | failIf test => exact reduces

theorem actAll (reduces : network.Reduces selection rest) (kept : selection.agents id.agent) (label : String)
    (delivery : Delivery) {actions : List Action} (belongs : Action.AllBelong selection true actions) :
    (network.actAll id label delivery actions).1.Reduces selection
        (rest.actAll (id.reduced selection) label delivery (Action.eachReduced selection actions)).1 ∧
      (rest.actAll (id.reduced selection) label delivery (Action.eachReduced selection actions)).2 =
        (network.actAll id label delivery actions).2 := by
  induction actions generalizing network rest with
  | nil => exact ⟨reduces, rfl⟩
  | cons action others ih =>
    obtain ⟨acts, fails⟩ := reduces.act kept label delivery belongs.1
    unfold Network.actAll Action.eachReduced
    rcases acted : network.act id label delivery action with ⟨network', failed⟩
    rcases acted' : rest.act (id.reduced selection) label delivery (action.reduced selection) with ⟨rest', failed'⟩
    rw [acted, acted'] at acts fails
    obtain rfl : failed' = failed := fails
    simp only [acted']
    cases failed' with
    | true => exact ⟨acts, rfl⟩
    | false => exact ih acts belongs.2

theorem actAll_left_out (reduces : network.Reduces selection rest) (left : selection.agents id.agent = false)
    (label : String) (delivery : Delivery) {actions : List Action}
    (belongs : Action.AllBelong selection false actions) :
    (network.actAll id label delivery actions).1.Reduces selection rest := by
  induction actions generalizing network with
  | nil => exact reduces
  | cons action others ih =>
    have acts := reduces.act_left_out left label delivery belongs.1
    unfold Network.actAll
    rcases acted : network.act id label delivery action with ⟨network', failed⟩
    rw [acted] at acts
    cases failed with
    | true => exact acts
    | false => exact ih acts belongs.2

theorem runHandler (reduces : network.Reduces selection rest) (kept : selection.agents id.agent)
    (delivery : Delivery) {handler : Handler} (belongs : handler.Belongs selection true) :
    (network.runHandler id delivery handler).Reduces selection
      (rest.runHandler (id.reduced selection) delivery (handler.reduced selection)) := by
  cases handler with
  | reply ticket => exact reduces.answer belongs delivery
  | scripted label actions =>
    let noted := network.observe (.event (network.labelOf id.agent) (.ran label delivery))
    let noted' := rest.observe (.event (rest.labelOf (id.reduced selection).agent) (.ran label delivery))
    have notes : noted.Reduces selection noted' := reduces.observe _ _
    obtain ⟨acts, fails⟩ := notes.actAll kept label delivery belongs
    simp only [Network.runHandler, Handler.reduced]
    rcases acted : noted.actAll id label delivery actions with ⟨network', failed⟩
    rcases acted' : noted'.actAll (id.reduced selection) label delivery (Action.eachReduced selection actions) with
      ⟨rest', failed'⟩
    rw [acted, acted'] at acts fails
    obtain rfl : failed' = failed := fails
    cases failed' with
    | true => exact acts.observe _ _
    | false => exact acts

theorem runHandler_left_out (reduces : network.Reduces selection rest) (left : selection.agents id.agent = false)
    (delivery : Delivery) {handler : Handler} (belongs : handler.Belongs selection false) :
    (network.runHandler id delivery handler).Reduces selection rest := by
  cases handler with
  | reply ticket => exact reduces.answer_left_out belongs delivery
  | scripted label actions =>
    let noted := network.observe (.event (network.labelOf id.agent) (.ran label delivery))
    have notes : noted.Reduces selection rest := reduces.observe_left_out _
    have acts := notes.actAll_left_out left label delivery belongs
    simp only [Network.runHandler]
    rcases acted : noted.actAll id label delivery actions with ⟨network', failed⟩
    rw [acted] at acts
    cases failed with
    | true => exact acts.observe_left_out _
    | false => exact acts

end Network.Reduces

namespace Journal

/-- What is left of a journal when agents are left out. -/
structure Reduces (selection : Selection) (journal rest : Journal) : Prop where
  network : journal.network.Reduces selection rest.network
  entries : rest.entries = journal.entries.filterMap (Occurrence.reduced? selection)

variable {journal rest next : Journal} {id : ReceiverId} {index : Nat} {agent : Agent} {source : ConnectionId}
  {callback : Callback} {callbacks : List Callback}

namespace Reduces

theorem onNetwork {operation operation' : Network → Network} (reduces : journal.Reduces selection rest)
    (network : (operation journal.network).Reduces selection (operation' rest.network)) :
    (journal.onNetwork operation).Reduces selection (rest.onNetwork operation') :=
  ⟨network, reduces.entries⟩

theorem onNetwork_left_out {operation : Network → Network} (reduces : journal.Reduces selection rest)
    (network : (operation journal.network).Reduces selection rest.network) :
    (journal.onNetwork operation).Reduces selection rest :=
  ⟨network, reduces.entries⟩

theorem note {entry entry' : Occurrence} (reduces : journal.Reduces selection rest)
    (h : entry.reduced? selection = some entry') : (journal.note entry).Reduces selection (rest.note entry') :=
  ⟨reduces.network, by simp [Journal.note, reduces.entries, h]⟩

theorem note_left_out {entry : Occurrence} (reduces : journal.Reduces selection rest)
    (h : entry.reduced? selection = none) : (journal.note entry).Reduces selection rest :=
  ⟨reduces.network, by simp [Journal.note, reduces.entries, h]⟩

/-! ## Deliveries -/

theorem runCallback (reduces : journal.Reduces selection rest) (kept : selection.agents id.agent)
    (delivery : Delivery) (belongs : callback.Belongs selection true) :
    (journal.runCallback id delivery callback).Reduces selection
      (rest.runCallback (id.reduced selection) delivery (callback.reduced selection)) :=
  (reduces.onNetwork (reduces.network.runHandler kept delivery belongs)).note (by simp [Occurrence.reduced?, kept])

theorem runCallback_left_out (reduces : journal.Reduces selection rest) (left : selection.agents id.agent = false)
    (delivery : Delivery) (belongs : callback.Belongs selection false) :
    (journal.runCallback id delivery callback).Reduces selection rest :=
  (reduces.onNetwork_left_out (reduces.network.runHandler_left_out left delivery belongs)).note_left_out
    (by simp [Occurrence.reduced?, left])

theorem runEach (reduces : journal.Reduces selection rest) (kept : selection.agents id.agent) (delivery : Delivery)
    (belong : ∀ callback ∈ callbacks, callback.Belongs selection true) :
    (callbacks.foldl (fun journal callback ↦ journal.runCallback id delivery callback) journal).Reduces selection
      ((callbacks.map (Callback.reduced selection)).foldl
        (fun journal callback ↦ journal.runCallback (id.reduced selection) delivery callback) rest) := by
  induction callbacks generalizing journal rest with
  | nil => exact reduces
  | cons callback others ih =>
    have belong := List.forall_mem_cons.1 belong
    exact ih (reduces.runCallback kept delivery belong.1) belong.2

theorem runEach_left_out (reduces : journal.Reduces selection rest) (left : selection.agents id.agent = false)
    (delivery : Delivery) (belong : ∀ callback ∈ callbacks, callback.Belongs selection false) :
    (callbacks.foldl (fun journal callback ↦ journal.runCallback id delivery callback) journal).Reduces selection
      rest := by
  induction callbacks generalizing journal with
  | nil => exact reduces
  | cons callback others ih =>
    have belong := List.forall_mem_cons.1 belong
    exact ih (reduces.runCallback_left_out left delivery belong.1) belong.2

theorem modifyReceiver {change change' : Receiver → Receiver} (reduces : journal.Reduces selection rest)
    (kept : selection.agents id.agent)
    (same : ∀ receiver, (change receiver).reduced selection = change' (receiver.reduced selection))
    (keeps : Network.Keeps selection true change) :
    (journal.onNetwork fun network ↦ network.modifyReceiver id change).Reduces selection
      (rest.onNetwork fun network ↦ network.modifyReceiver (id.reduced selection) change') :=
  ⟨reduces.network.modifyReceiver kept same keeps, reduces.entries⟩

theorem modifyReceiver_left_out {change : Receiver → Receiver} (reduces : journal.Reduces selection rest)
    (left : selection.agents id.agent = false) (keeps : Network.Keeps selection false change) :
    (journal.onNetwork fun network ↦ network.modifyReceiver id change).Reduces selection rest :=
  ⟨reduces.network.modifyReceiver_left_out left keeps, reduces.entries⟩

theorem keeps_setAside {kept : Bool} : Network.Keeps selection kept fun receiver ↦ { receiver with callbacks := [] } :=
  fun _ _ ↦ nofun

theorem keeps_giveBack {kept : Bool} (belong : ∀ callback ∈ callbacks, callback.Belongs selection kept) :
    Network.Keeps selection kept fun receiver ↦ { receiver with
      callbacks := callbacks.filter (fun callback ↦ !callback.once) ++ receiver.callbacks } := by
  intro receiver own callback hcallback
  rcases List.mem_append.1 hcallback with back | new
  · exact belong callback (List.mem_filter.1 back).1
  · exact own callback new

theorem deliver (reduces : journal.Reduces selection rest) (kept : selection.agents id.agent) (delivery : Delivery)
    (belong : ∀ callback ∈ callbacks, callback.Belongs selection true) :
    (journal.deliver id delivery callbacks).Reduces selection
      (rest.deliver (id.reduced selection) delivery (callbacks.map (Callback.reduced selection))) := by
  let setAside (receiver : Receiver) : Receiver := { receiver with callbacks := [] }
  have same (receiver : Receiver) : (setAside receiver).reduced selection = setAside (receiver.reduced selection) := rfl
  have aside := reduces.modifyReceiver kept same keeps_setAside
  have ran := aside.runEach kept delivery belong
  refine ran.modifyReceiver kept (fun receiver ↦ ?_) (keeps_giveBack belong)
  simp [Receiver.reduced, List.filter_map, Function.comp_def, Callback.reduced]

theorem deliver_left_out (reduces : journal.Reduces selection rest) (left : selection.agents id.agent = false)
    (delivery : Delivery) (belong : ∀ callback ∈ callbacks, callback.Belongs selection false) :
    (journal.deliver id delivery callbacks).Reduces selection rest := by
  have aside := reduces.modifyReceiver_left_out left keeps_setAside
  have ran := aside.runEach_left_out left delivery belong
  exact ran.modifyReceiver_left_out left (keeps_giveBack belong)

theorem offer (reduces : journal.Reduces selection rest) (kept : selection.agents id.agent) (message : Message) :
    (journal.offer message id).Reduces selection (rest.offer message (id.reduced selection)) := by
  unfold Journal.offer
  rw [reduces.network.receiver? kept]
  cases h : journal.network.receiver? id with
  | none => exact reduces
  | some receiver =>
    have own : receiver.Belongs selection true := kept ▸ reduces.network.belongs_receiver h
    have read : (receiver.reduced selection).read? message = receiver.read? message := rfl
    have noted := reduces.note (show (Occurrence.offered id message receiver.callbacks).reduced? selection =
      some (.offered (id.reduced selection) message (receiver.reduced selection).callbacks) from if_pos kept)
    simp only [Option.map_some, read]
    cases receiver.read? message with
    | none => exact noted.onNetwork (noted.network.observe _ _)
    | some delivery => exact noted.deliver kept delivery own

theorem offer_left_out (reduces : journal.Reduces selection rest) (left : selection.agents id.agent = false)
    (message : Message) : (journal.offer message id).Reduces selection rest := by
  unfold Journal.offer
  cases h : journal.network.receiver? id with
  | none => exact reduces
  | some receiver =>
    have own : receiver.Belongs selection false := left ▸ reduces.network.belongs_receiver h
    have noted := reduces.note_left_out (show (Occurrence.offered id message receiver.callbacks).reduced? selection =
      none from if_neg (by simp [left]))
    dsimp only
    cases receiver.read? message with
    | none => exact noted.onNetwork_left_out (noted.network.observe_left_out _)
    | some delivery => exact noted.deliver_left_out left delivery own

theorem dispatch (reduces : journal.Reduces selection rest) (kept : selection.agents index) (agent : Agent)
    (message : Message) : (journal.dispatch index agent message).Reduces selection
      (rest.dispatch (selection.agents.place index) (agent.reduced selection) message) := by
  have offered : (agent.reduced selection).offered message.topic = agent.offered message.topic := by
    simp [Agent.offered, Agent.reduced, Option.any_map, Receiver.reduced]
  unfold Journal.dispatch
  rw [offered]
  induction agent.offered message.topic generalizing journal rest with
  | nil => exact reduces
  | cons place others ih =>
    have kept' : selection.agents (ReceiverId.mk index place).agent := kept
    exact ih (reduces.offer kept' message)

theorem dispatch_left_out (reduces : journal.Reduces selection rest) (left : selection.agents index = false)
    (agent : Agent) (message : Message) : (journal.dispatch index agent message).Reduces selection rest := by
  unfold Journal.dispatch
  induction agent.offered message.topic generalizing journal with
  | nil => exact reduces
  | cons place others ih =>
    have left' : selection.agents (ReceiverId.mk index place).agent = false := left
    exact ih (reduces.offer_left_out left' message)

end Reduces

end Journal

/-- Whether the dispatcher of an agent reads the inbox of a connection and has not come to its end. -/
def Agent.reads (source : ConnectionId) (agent : Agent) : Bool :=
  agent.dispatcher.any fun dispatcher ↦ dispatcher.source = source && dispatcher.phase ≠ .finished

theorem Agent.reads_reduced {source : ConnectionId} {agent : Agent} (belongs : agent.Belongs selection true)
    (kept : selection.connections source) :
    (agent.reduced selection).reads (selection.connections.place source) = agent.reads source := by
  unfold reads
  have dispatcher : (agent.reduced selection).dispatcher = agent.dispatcher.map (Dispatcher.reduced selection) := rfl
  rw [dispatcher]
  cases h : agent.dispatcher with
  | none => rfl
  | some dispatcher =>
    simp [Dispatcher.reduced, Choice.place_inj (belongs.source dispatcher h) kept]

namespace Journal

variable {journal rest next : Journal} {index : Nat} {agent : Agent} {source : ConnectionId} {tasks : List Task}

/-- The journal with a dispatcher at rest, or at its end if nothing more can come. -/
def rested (journal : Journal) (index : Nat) (agent : Agent) (source : ConnectionId) (tasks : List Task) : Journal :=
  let phase := if journal.network.medium.broker.isClosed source then .finished else .resting
  journal.onNetwork fun network ↦ { network with
    agents := network.agents.set index { agent with dispatcher := some ⟨source, phase⟩ }
    ready := tasks }

theorem idle_or_reads (journal : Journal) (index : Nat) (source : ConnectionId) :
    (∀ agent, journal.network.agents[index]? = some agent → agent.reads source = false) ∨
      ∃ agent, journal.network.agents[index]? = some agent ∧ agent.reads source := by
  cases h : journal.network.agents[index]? with
  | none => exact .inl fun agent absent ↦ (Option.some_ne_none agent absent.symm).elim
  | some agent =>
    cases reads : agent.reads source with
    | true => exact .inr ⟨agent, rfl, reads⟩
    | false =>
      refine .inl fun other same ↦ ?_
      rw [← Option.some.inj same, reads]

theorem lookInside_of_idle (idle : ∀ agent, journal.network.agents[index]? = some agent → agent.reads source = false)
    (tasks : List Task) :
    journal.lookInside index source tasks = journal.onNetwork fun network ↦ { network with ready := tasks } := by
  unfold lookInside onNetwork Network.lookInside
  cases h : journal.network.agents[index]? with
  | none => simp [h]
  | some agent =>
    have idle := idle agent h
    unfold Agent.reads at idle
    simp only [h, idle, Bool.false_eq_true, if_false]

theorem lookInside_of_empty (h : journal.network.agents[index]? = some agent) (reads : agent.reads source)
    (empty : journal.network.medium.broker.take? source = none) (tasks : List Task) :
    journal.lookInside index source tasks = journal.rested index agent source tasks := by
  have h' : ({ journal.network with ready := tasks } : Network).agents[index]? = some agent := h
  unfold Agent.reads at reads
  unfold lookInside rested onNetwork Network.lookInside
  simp only [h, reads, empty, if_true, Network.modifyAgent_eq h']

theorem lookInside_of_take? {message : Message} {broker : Broker} (h : journal.network.agents[index]? = some agent)
    (reads : agent.reads source) (taken : journal.network.medium.broker.take? source = some (message, broker))
    (tasks : List Task) : journal.lookInside index source tasks =
      (journal.onNetwork fun network ↦ { network with medium := { network.medium with broker } }).dispatch
        index agent message := by
  unfold Agent.reads at reads
  unfold lookInside
  simp only [h, reads, taken, if_true]

namespace Reduces

/-! ## Looking into an inbox -/

theorem pass (reduces : journal.Reduces selection rest) {task : Task} (ready : journal.network.ready = task :: tasks) :
    (journal.onNetwork fun network ↦ { network with ready := tasks }).Reduces selection
      (rest.onNetwork fun network ↦ { network with ready := tasks.filterMap (Task.reduced? selection) }) :=
  ⟨{ reduces.network with
      ready := rfl
      tasks := fun other hother ↦ reduces.network.tasks other (ready ▸ List.mem_cons_of_mem task hother) },
    reduces.entries⟩

theorem pass_left_out (reduces : journal.Reduces selection rest) {task : Task}
    (ready : journal.network.ready = task :: tasks) (left : task.reduced? selection = none) :
    (journal.onNetwork fun network ↦ { network with ready := tasks }).Reduces selection rest :=
  ⟨{ reduces.network with
      ready := by rw [reduces.network.ready, ready, List.filterMap_cons_none left]; rfl
      tasks := fun other hother ↦ reduces.network.tasks other (ready ▸ List.mem_cons_of_mem task hother) },
    reduces.entries⟩

theorem rested (reduces : journal.Reduces selection rest)
    (ready : journal.network.ready = .dispatch index source :: tasks) (kept : selection.agents index)
    (kept' : selection.connections source) (belongs : agent.Belongs selection true) :
    (journal.rested index agent source tasks).Reduces selection
      (rest.rested (selection.agents.place index) (agent.reduced selection) (selection.connections.place source)
        (tasks.filterMap (Task.reduced? selection))) := by
  unfold Journal.rested
  simp only [reduces.network.broker, Broker.isClosed_reduced kept']
  exact ⟨(reduces.pass ready).network.set kept (belongs.withDispatcher kept' _), reduces.entries⟩

theorem lookInside (reduces : journal.Reduces selection rest)
    (ready : journal.network.ready = .dispatch index source :: tasks) (kept : selection.agents index) :
    (journal.lookInside index source tasks).Reduces selection (rest.lookInside (selection.agents.place index)
      (selection.connections.place source) (tasks.filterMap (Task.reduced? selection))) := by
  have own : (Task.dispatch index source).Belongs selection := reduces.network.tasks _ (by simp [ready])
  have kept' : selection.connections source := own.trans kept
  rcases journal.idle_or_reads index source with idle | ⟨agent, h, reads⟩
  · have idle' (agent' : Agent) (h' : rest.network.agents[selection.agents.place index]? = some agent') :
        agent'.reads (selection.connections.place source) = false := by
      rw [reduces.network.getElem?_agents kept] at h'
      obtain ⟨agent, h, rfl⟩ := Option.map_eq_some_iff.1 h'
      rw [Agent.reads_reduced (kept ▸ reduces.network.belongs index agent h) kept', idle agent h]
    rw [lookInside_of_idle idle, lookInside_of_idle idle']
    exact reduces.pass ready
  · have belongs : agent.Belongs selection true := kept ▸ reduces.network.belongs index agent h
    have h' : rest.network.agents[selection.agents.place index]? = some (agent.reduced selection) := by
      rw [reduces.network.getElem?_agents kept, h]
      rfl
    have reads' := (Agent.reads_reduced belongs kept').trans reads
    have takes : (journal.network.medium.broker.reduced selection).take? (selection.connections.place source) = _ :=
      Broker.take?_reduced kept'
    rw [← reduces.network.broker] at takes
    cases taken : journal.network.medium.broker.take? source with
    | none =>
      rw [taken] at takes
      rw [lookInside_of_empty h reads taken, lookInside_of_empty h' reads' takes]
      exact reduces.rested ready kept kept' belongs
    | some answer =>
      obtain ⟨message, broker⟩ := answer
      rw [taken] at takes
      rw [lookInside_of_take? h reads taken, lookInside_of_take? h' reads' takes]
      exact (reduces.onNetwork (reduces.network.withBroker rfl)).dispatch kept agent message

theorem lookInside_left_out (reduces : journal.Reduces selection rest)
    (ready : journal.network.ready = .dispatch index source :: tasks) (left : selection.agents index = false) :
    (journal.lookInside index source tasks).Reduces selection rest := by
  have own : (Task.dispatch index source).Belongs selection := reduces.network.tasks _ (by simp [ready])
  have left' : selection.connections source = false := own.trans left
  have passes := reduces.pass_left_out ready (by simp [Task.reduced?, left])
  rcases journal.idle_or_reads index source with idle | ⟨agent, h, reads⟩
  · rw [lookInside_of_idle idle]
    exact passes
  · cases taken : journal.network.medium.broker.take? source with
    | none =>
      have belongs : agent.Belongs selection false := left ▸ reduces.network.belongs index agent h
      rw [lookInside_of_empty h reads taken]
      exact ⟨passes.network.set_left_out left (belongs.withDispatcher left' _), reduces.entries⟩
    | some answer =>
      obtain ⟨message, broker⟩ := answer
      have same := Broker.reduced_of_take? left' taken
      rw [lookInside_of_take? h reads taken]
      refine (reduces.onNetwork_left_out ?_).dispatch_left_out left agent message
      exact { reduces.network with broker := reduces.network.broker.trans same.symm }

/-! ## Steps -/

theorem ready_of_kept (reduces : journal.Reduces selection rest) {task task' : Task}
    (ready : journal.network.ready = task :: tasks) (kept : task.reduced? selection = some task') :
    rest.network.ready = task' :: tasks.filterMap (Task.reduced? selection) := by
  rw [reduces.network.ready, ready, List.filterMap_cons_some kept]

/-- A step of the work is one of what is left, or is not noticed there. -/
theorem tick? (reduces : journal.Reduces selection rest) (awake : rest.network.Awake)
    (h : journal.tick? = some next) :
    next.Reduces selection rest ∨ ∃ next', rest.tick? = some next' ∧ next.Reduces selection next' := by
  unfold Journal.tick? at h
  split at h
  · rename_i index source tasks ready
    obtain rfl := Option.some.inj h
    cases side : selection.agents index with
    | false => exact .inl (reduces.lookInside_left_out ready side)
    | true =>
      have ready' := reduces.ready_of_kept ready (if_pos side)
      refine .inr ⟨_, ?_, reduces.lookInside ready side⟩
      unfold Journal.tick?
      rw [ready']
  · rename_i other
    obtain ⟨network, ticks, rfl⟩ := Option.map_eq_some_iff.1 h
    unfold Network.tick? at ticks
    split at ticks
    · cases ticks
    · rename_i index source tasks ready
      exact absurd ready (other index source tasks)
    · rename_i transport connection tasks ready
      obtain rfl := Option.some.inj ticks
      have plain : transport = .plain := reduces.network.tasks (.close transport connection) (by simp [ready])
      subst plain
      cases side : selection.connections connection with
      | false =>
        have passes : Network.Reduces selection { journal.network with ready := tasks } rest.network :=
          (reduces.pass_left_out ready (by simp [Task.reduced?, side])).network
        exact .inl ⟨passes.close_left_out awake side, reduces.entries⟩
      | true =>
        have ready' := reduces.ready_of_kept ready (if_pos side)
        have passes : Network.Reduces selection { journal.network with ready := tasks }
            { rest.network with ready := tasks.filterMap (Task.reduced? selection) } := (reduces.pass ready).network
        refine .inr ⟨⟨_, rest.entries⟩, ?_, passes.close side, reduces.entries⟩
        unfold Journal.tick?
        split
        · rename_i dispatches
          rw [ready'] at dispatches
          cases dispatches
        · simp only [Network.tick?, ready']
          rfl
    · rename_i index tasks ready
      exact (reduces.network.tasks (.attempt index) (by simp [ready])).elim

end Reduces

/-! ## Runs -/

/-- Once there is no work left, nothing more happens. -/
theorem run_of_le {fewer steps : Nat} (settled : (journal.run fewer).network.ready = []) (le : fewer ≤ steps) :
    journal.run steps = journal.run fewer := by
  induction fewer generalizing journal steps with
  | zero => exact run_of_settled settled steps
  | succ fewer ih =>
    obtain ⟨more, rfl⟩ := Nat.exists_eq_add_of_le' le
    cases ticks : journal.tick? with
    | none => simp only [run, ticks]
    | some next =>
      rw [run_of_tick? ticks] at settled
      rw [← Nat.add_assoc, run_of_tick? ticks, run_of_tick? ticks]
      exact ih settled (Nat.le_add_left fewer more)

namespace Reduces

variable {foreign : ConnectionId → Prop}

/-- The work on what is left is part of the work on the whole. -/
theorem exists_run (reduces : journal.Reduces selection rest) (steady : rest.network.Steady foreign) (steps : Nat) :
    ∃ fewer ≤ steps, (journal.run steps).Reduces selection (rest.run fewer) := by
  induction steps generalizing journal rest with
  | zero => exact ⟨0, Nat.le_refl 0, reduces⟩
  | succ steps ih =>
    cases ticks : journal.tick? with
    | none =>
      simp only [Journal.run, ticks]
      exact ⟨0, Nat.zero_le _, reduces⟩
    | some next =>
      rw [run_of_tick? ticks]
      rcases reduces.tick? steady.awake ticks with still | ⟨next', ticks', moved⟩
      -- The work of an agent that is left out takes a step that there is not on what is left.
      · obtain ⟨fewer, le, ran⟩ := ih still steady
        exact ⟨fewer, Nat.le_succ_of_le le, ran⟩
      · have steady' : next'.network.Steady foreign := by
          apply steady.tick?
          rw [← network_tick?, ticks', Option.map_some]
        obtain ⟨fewer, le, ran⟩ := ih moved steady'
        refine ⟨fewer + 1, Nat.succ_le_succ le, ?_⟩
        rw [run_of_tick? ticks']
        exact ran

/-- Work that comes to its end comes to its end on what is left, too. -/
theorem run (reduces : journal.Reduces selection rest) (steady : rest.network.Steady foreign) {steps : Nat}
    (settled : (journal.run steps).network.ready = []) :
    (journal.run steps).Reduces selection (rest.run steps) := by
  obtain ⟨fewer, le, ran⟩ := reduces.exists_run steady steps
  have settled' : (rest.run fewer).network.ready = [] := by
    rw [ran.network.ready, settled]
    rfl
  rw [run_of_le settled' le]
  exact ran

end Reduces

end Journal

end PubSub
