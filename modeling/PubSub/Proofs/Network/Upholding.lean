import PubSub.Proofs.Broker.Liveness
import PubSub.Proofs.Network.Journal
import PubSub.Proofs.Network.View
/-!
# What agents do not notice

Most of what happens in a network leaves the connections of agents as they are. An agent that connects or disconnects
changes its own connection, and all agents notice only when all connections are cut.
-/

namespace PubSub

namespace View

variable {view before middle after : View} {standing changed : Standing} {broker : Broker} {index place : Nat}
  {busy : Nat → Prop} {touched : ConnectionId → Prop} {cut again : Bool}

/-- From an agent to what has become of it while it did nothing with its connection. -/
structure Untroubled (cut : Bool) (before : Broker) (standing : Standing) (after : Broker) (later : Standing) :
    Prop where
  connection : later.connection = standing.connection
  live : ∀ handle, standing.connection.handle = some handle → handle < before.clients.length →
    after.isLive handle = (before.isLive handle && !cut)

theorem Untroubled.isConnected {before after : Broker} {standing later : Standing}
    (untroubled : Untroubled cut before standing after later)
    (lt : ∀ handle, standing.connection.handle = some handle → handle < before.clients.length) :
    later.connection.isConnected after.isLive = (standing.connection.isConnected before.isLive && !cut) := by
  unfold Connection.isConnected
  rw [untroubled.connection]
  cases has : standing.connection.handle with
  | none => simp
  | some handle => simp [untroubled.live handle has (lt handle has), Bool.and_assoc]

/-- From one view to a later one, with no agent more and no connection more that waits for its close. The busy agents
may have done something with their connections, and the others notice nothing unless all connections are cut. -/
structure Upholds (busy : Nat → Prop) (cut : Bool) (before after : View) : Prop where
  length : after.agents.length = before.agents.length
  clients : before.broker.clients.length ≤ after.broker.clients.length
  closing : after.closing ⊆ before.closing
  agents : ∀ (index : Nat) (standing : Standing), before.agents[index]? = some standing →
    ∃ later, after.agents[index]? = some later ∧ later.held = standing.held ∧
      (∀ handle, later.connection.handle = some handle →
        standing.connection.handle = some handle ∨ before.broker.clients.length ≤ handle) ∧
      (¬busy index → Untroubled cut before.broker standing after.broker later)

namespace Upholds

theorem trans (first : before.Upholds busy cut middle) (second : middle.Upholds busy again after) :
    before.Upholds busy (cut || again) after where
  length := second.length.trans first.length
  clients := Nat.le_trans first.clients second.clients
  closing := List.Subset.trans second.closing first.closing
  agents index standing h := by
    obtain ⟨between, hbetween, held, handles, untroubled⟩ := first.agents index standing h
    obtain ⟨later, hlater, held', handles', untroubled'⟩ := second.agents index between hbetween
    refine ⟨later, hlater, held'.trans held, fun handle has ↦ ?_, fun idle ↦ ?_⟩
    · rcases handles' handle has with has' | fresh
      · exact handles handle has'
      · exact .inr (Nat.le_trans first.clients fresh)
    · obtain ⟨connection, live⟩ := untroubled idle
      obtain ⟨connection', live'⟩ := untroubled' idle
      refine ⟨connection'.trans connection, fun handle has lt ↦ ?_⟩
      rw [live' handle (by rw [connection, has]) (Nat.lt_of_lt_of_le lt first.clients), live handle has lt,
        Bool.not_or, Bool.and_assoc]

theorem mono {busier : Nat → Prop} (upholds : before.Upholds busy cut after)
    (subset : ∀ index, busy index → busier index) : before.Upholds busier cut after :=
  { upholds with
    agents index standing h :=
      (upholds.agents index standing h).imp fun _ ⟨hlater, held, handles, untroubled⟩ ↦
        ⟨hlater, held, handles, fun idle ↦ untroubled fun own ↦ idle (subset index own)⟩ }

/-- Something happens on the broker, which spares the connections that idle agents hold. -/
theorem of_spares (view : View) (spares : view.broker.Spares touched cut broker)
    (apart : ∀ (index : Nat) (standing : Standing) (handle : ConnectionId), view.agents[index]? = some standing →
      ¬busy index → standing.connection.handle = some handle → ¬touched handle) :
    view.Upholds busy cut { view with broker } where
  length := rfl
  clients := spares.length_le
  closing := List.Subset.refl _
  agents index standing h :=
    ⟨standing, h, rfl, fun _ has ↦ .inl has, fun idle ↦
      ⟨rfl, fun handle has lt ↦ spares.isLive handle lt (apart index standing handle h idle has)⟩⟩

theorem refl (view : View) : view.Upholds busy false view := by
  have spares : view.broker.Spares (fun _ ↦ False) false view.broker := .refl view.broker
  exact of_spares view spares fun _ _ _ _ _ _ h ↦ h

theorem of_eq (same : after = before) : before.Upholds busy false after := by
  rw [same]
  exact refl before

theorem fewer {closing : List ConnectionId} (subset : closing ⊆ view.closing) :
    view.Upholds busy false { view with closing } :=
  have same : view.Upholds busy false view := refl view
  { same with closing := subset }

/-- An agent is changed that is busy, or that keeps its connection. -/
theorem set (h : view.agents[place]? = some standing) (held : changed.held = standing.held)
    (handles : ∀ handle, changed.connection.handle = some handle →
      standing.connection.handle = some handle ∨ view.broker.clients.length ≤ handle)
    (idle : ¬busy place → changed.connection = standing.connection)
    (spares : view.broker.Spares touched cut broker)
    (apart : ∀ (index : Nat) (standing : Standing) (handle : ConnectionId), view.agents[index]? = some standing →
      ¬busy index → standing.connection.handle = some handle → ¬touched handle) :
    view.Upholds busy cut { view with broker, agents := view.agents.set place changed } where
  length := List.length_set
  clients := spares.length_le
  closing := List.Subset.refl _
  agents index other hother := by
    have live (idle : ¬busy index) (handle : ConnectionId) (has : other.connection.handle = some handle)
        (lt : handle < view.broker.clients.length) : broker.isLive handle = (view.broker.isLive handle && !cut) :=
      spares.isLive handle lt (apart index other handle hother idle has)
    by_cases own : place = index
    · subst own
      obtain rfl : standing = other := Option.some.inj (h.symm.trans hother)
      refine ⟨changed, List.getElem?_set_self (List.getElem?_eq_some_iff.1 h).1, held, handles, fun still ↦ ?_⟩
      exact ⟨idle still, live still⟩
    · refine ⟨other, ?_, rfl, fun _ has ↦ .inl has, fun idle ↦ ⟨rfl, live idle⟩⟩
      rw [← hother]
      exact List.getElem?_set_ne own

end Upholds

end View

/-! ## Callbacks that cut connections -/

/-- Whether actions cut all connections before one of them fails. -/
def Action.cut (delivery : Delivery) : List Action → Bool
  | [] => false
  | .silenceAll :: _ => true
  | .fail :: _ => false
  | .failIf test :: rest => !test delivery.payload && cut delivery rest
  | _ :: rest => cut delivery rest

/-- Whether a handler that runs on a delivery cuts all connections. -/
def Handler.cuts (delivery : Delivery) : Handler → Bool
  | .scripted _ actions => Action.cut delivery actions
  | .reply _ => false

/-- Whether all connections are cut in this. -/
def Occurrence.cuts : Occurrence → Bool
  | .offered _ _ _ => false
  | .ran _ callback delivery => callback.handler.cuts delivery

namespace Network

variable {network before middle after : Network} {agent changed : Agent} {index : Nat} {busy : Nat → Prop}
  {touched : ConnectionId → Prop} {cut again : Bool}

/-- From one network to a later one, with no agent or connect more, and with connections kept by all but the busy
agents, unless all connections are cut. -/
structure Upholds (busy : Nat → Prop) (cut : Bool) (before after : Network) : Prop where
  view : before.view.Upholds busy cut after.view
  attempts : after.attempts.length = before.attempts.length

namespace Upholds

theorem trans (first : before.Upholds busy cut middle) (second : middle.Upholds busy again after) :
    before.Upholds busy (cut || again) after :=
  ⟨first.view.trans second.view, second.attempts.trans first.attempts⟩

theorem of_view (view : after.view = before.view) (attempts : after.attempts.length = before.attempts.length) :
    before.Upholds busy false after :=
  ⟨.of_eq view, attempts⟩

theorem refl (network : Network) : network.Upholds busy false network :=
  of_view rfl rfl

end Upholds

theorem attempts_wake (network : Network) : network.wake.attempts = network.attempts := by
  obtain ⟨ready, same, -⟩ := wake_eq network
  rw [same]

theorem upholds_observe (network : Network) (observation : Observation) :
    network.Upholds busy false (network.observe observation) :=
  .of_view rfl rfl

theorem upholds_modifyReceiver (network : Network) (id : ReceiverId) (change : Receiver → Receiver) :
    network.Upholds busy false (network.modifyReceiver id change) := by
  cases h : network.agents[id.agent]? with
  | none =>
    have same : network.modifyReceiver id change = network := by
      unfold modifyReceiver modifyAgent
      rw [List.modify_eq_self (List.getElem?_eq_none_iff.1 h)]
    rw [same]
    exact .refl network
  | some agent =>
    let changed : Agent := { agent with receivers := agent.receivers.modify id.index change }
    have standing : network.view.agents[id.agent]? = some agent.standing := by simp [Network.view, h]
    have view : (network.modifyReceiver id change).view =
        { network.view with
          broker := network.medium.broker, agents := network.view.agents.set id.agent changed.standing } := by
      rw [modifyReceiver, modifyAgent_eq h]
      simp [Network.view, List.map_set, changed]
    have spares : network.view.broker.Spares (fun _ ↦ False) false network.medium.broker := .refl _
    refine ⟨?_, rfl⟩
    rw [view]
    exact .set standing rfl (fun _ has ↦ .inl has) (fun _ ↦ rfl) spares fun _ _ _ _ _ _ h ↦ h

theorem upholds_onMedium (network : Network) {operation : Medium → Medium}
    (spares : network.medium.broker.Spares touched cut (operation network.medium).broker)
    (apart : ∀ (index : Nat) (standing : Standing) (handle : ConnectionId),
      network.view.agents[index]? = some standing → ¬busy index →
        standing.connection.handle = some handle → ¬touched handle) :
    network.Upholds busy cut (network.onMedium operation) := by
  refine ⟨?_, congrArg List.length (attempts_wake _)⟩
  rw [view_onMedium]
  exact .of_spares network.view spares apart

/-- The broker does something that closes no connection. -/
theorem upholds_onBroker (network : Network) {operation : Broker → Broker}
    (spares : network.medium.broker.Spares (fun _ ↦ False) cut (operation network.medium.broker)) :
    network.Upholds busy cut (network.onMedium fun medium ↦ medium.onBroker operation) :=
  upholds_onMedium network spares fun _ _ _ _ _ _ h ↦ h

theorem upholds_publish (network : Network) (message : Message) (retain : Bool) :
    network.Upholds busy false (network.publish message retain) :=
  upholds_onBroker network (Broker.spares_route _ message retain)

theorem upholds_actAll (network : Network) (id : ReceiverId) (label : String) (delivery : Delivery)
    (actions : List Action) :
    network.Upholds busy (Action.cut delivery actions) (network.actAll id label delivery actions).1 := by
  induction actions generalizing network with
  | nil => exact .refl network
  | cons action rest ih =>
    cases action with
    | count => exact (upholds_observe network _).trans (ih _)
    | register target once handler =>
      have registers : network.Upholds busy false
          (network.modifyReceiver (target.getD id) fun receiver ↦ receiver.register ⟨once, handler⟩) :=
        upholds_modifyReceiver network _ _
      exact registers.trans (ih _)
    | publish topic payload retain => exact (upholds_publish network ⟨topic, payload⟩ retain).trans (ih _)
    | silenceAll =>
      exact (upholds_onBroker network (Broker.spares_silenceAll _)).trans (ih network.silenceAll)
    | fail => exact .refl network
    | failIf test =>
      cases fails : test delivery.payload with
      | true =>
        simp only [actAll, act, Action.cut, fails]
        exact .refl network
      | false =>
        simp only [actAll, act, Action.cut, fails]
        exact ih network

theorem upholds_runHandler (network : Network) (id : ReceiverId) (delivery : Delivery) (handler : Handler) :
    network.Upholds busy (handler.cuts delivery) (network.runHandler id delivery handler) := by
  cases handler with
  | reply ticket => exact .of_view rfl rfl
  | scripted label actions =>
    let noted := network.observe (.event (network.labelOf id.agent) (.ran label delivery))
    have done : network.Upholds busy (false || Action.cut delivery actions)
        (noted.actAll id label delivery actions).1 :=
      (upholds_observe network _).trans (upholds_actAll noted id label delivery actions)
    unfold runHandler
    simp only
    split
    · rename_i h
      rw [h] at done
      exact done
    · rename_i h
      rw [h] at done
      simpa [Handler.cuts] using done.trans (upholds_observe _ .failure)

end Network

namespace Journal

variable {journal before middle after : Journal} {busy : Nat → Prop}

/-- From one journal to a later one: the network upholds, and all connections are cut if an entry since tells so. -/
def Upholds (busy : Nat → Prop) (before after : Journal) : Prop :=
  ∃ added, after.entries = before.entries ++ added ∧
    before.network.Upholds busy (added.any Occurrence.cuts) after.network

theorem Upholds.trans (first : before.Upholds busy middle) (second : middle.Upholds busy after) :
    before.Upholds busy after := by
  obtain ⟨added, entries, upholds⟩ := first
  obtain ⟨more, entries', upholds'⟩ := second
  refine ⟨added ++ more, by rw [entries', entries, List.append_assoc], ?_⟩
  rw [List.any_append]
  exact upholds.trans upholds'

theorem Upholds.refl (journal : Journal) : journal.Upholds busy journal :=
  ⟨[], (List.append_nil _).symm, .refl journal.network⟩

theorem Upholds.of_network {operation : Network → Network}
    (upholds : before.network.Upholds busy false (operation before.network)) :
    before.Upholds busy (before.onNetwork operation) :=
  ⟨[], (List.append_nil _).symm, upholds⟩

theorem upholds_note (journal : Journal) {entry : Occurrence} (calm : entry.cuts = false) :
    journal.Upholds busy (journal.note entry) :=
  ⟨[entry], rfl, by simpa [calm] using .refl journal.network⟩

theorem upholds_runCallback (journal : Journal) (id : ReceiverId) (delivery : Delivery) (callback : Callback) :
    journal.Upholds busy (journal.runCallback id delivery callback) := by
  refine ⟨[.ran id callback delivery], rfl, ?_⟩
  have runs : journal.network.Upholds busy (callback.handler.cuts delivery)
      (journal.network.runHandler id delivery callback.handler) := Network.upholds_runHandler _ _ _ _
  simpa [Occurrence.cuts, runCallback, onNetwork, note] using runs

theorem upholds_deliver (journal : Journal) (id : ReceiverId) (delivery : Delivery) (callbacks : List Callback) :
    journal.Upholds busy (journal.deliver id delivery callbacks) := by
  have all (callbacks : List Callback) (journal : Journal) : journal.Upholds busy
      (callbacks.foldl (fun journal callback ↦ journal.runCallback id delivery callback) journal) := by
    induction callbacks generalizing journal with
    | nil => exact .refl journal
    | cons callback rest ih => exact (upholds_runCallback journal id delivery callback).trans (ih _)
  have taken : journal.Upholds busy
      (journal.onNetwork fun network ↦ network.modifyReceiver id fun receiver ↦ { receiver with callbacks := [] }) :=
    .of_network (Network.upholds_modifyReceiver _ _ _)
  exact (taken.trans (all callbacks _)).trans (.of_network (Network.upholds_modifyReceiver _ _ _))

theorem upholds_offer (journal : Journal) (message : Message) (id : ReceiverId) :
    journal.Upholds busy (journal.offer message id) := by
  unfold offer
  split
  · exact .refl journal
  · rename_i receiver _
    have noted : journal.Upholds busy (journal.note (.offered id message receiver.callbacks)) :=
      journal.upholds_note rfl
    simp only
    split
    · exact noted.trans (.of_network (Network.upholds_observe _ _))
    · exact noted.trans (upholds_deliver _ _ _ _)

theorem upholds_dispatch (journal : Journal) (index : Nat) (agent : Agent) (message : Message) :
    journal.Upholds busy (journal.dispatch index agent message) := by
  unfold dispatch
  induction agent.offered message.topic generalizing journal with
  | nil => exact .refl journal
  | cons place rest ih => exact (upholds_offer journal message ⟨index, place⟩).trans (ih _)

end Journal

end PubSub
