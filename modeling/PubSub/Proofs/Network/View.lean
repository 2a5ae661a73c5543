import PubSub.Proofs.Agent.Operations
import PubSub.Proofs.Network.Quiet
import PubSub.Proofs.Network.Steady
import PubSub.Proofs.Network.Ticks
import Mathlib.Logic.Relation
/-!
# The view of a network

What agents and broker have to do with each other does not depend on the order of the work, on callbacks or on what is
observed. The view of a network leaves all of that out. Few things can happen to a view, and everything that is asked of
a network or done in the background comes to some of these, one after the other.
-/

namespace PubSub

/-- The connection that a task closes. -/
def Task.closing? : Task → Option ConnectionId
  | .close _ connection => some connection
  | _ => none

/-- The broker, how the agents stand, and the connections that wait for their close. -/
structure View where
  broker : Broker
  agents : List Standing
  closing : List ConnectionId

/-- The view of a network. -/
def Network.view (network : Network) : View :=
  ⟨network.medium.broker, network.agents.map Agent.standing, network.ready.filterMap Task.closing?⟩

namespace View

/-- What may happen to a view. -/
structure Licence where
  /-- The connections that no agent has opened. -/
  foreign : ConnectionId → Prop
  /-- Whether an agent may subscribe a receiver of another one. -/
  lends : Prop
  /-- The agents that may be told to disconnect. -/
  disconnects : Nat → Prop

/-- One thing that happens to a view. -/
inductive Change (licence : Licence) : View → View → Prop
  /-- The broker does something that no agent asked for, or routes a message. -/
  | outside {view : View} {broker : Broker} (grows : view.broker.Grows licence.foreign broker) :
    Change licence view { view with broker }
  /-- Somebody who is no agent takes all messages of an inbox. -/
  | empty {view : View} {connection : ConnectionId} (h : licence.foreign connection) :
    Change licence view { view with broker := view.broker.emptyInbox connection }
  | close {view : View} {connection : ConnectionId} {closing : List ConnectionId} (h : connection ∈ view.closing)
    (fewer : closing ⊆ view.closing) :
    Change licence view { view with broker := view.broker.close connection, closing }
  /-- An agent does something, and keeps or replaces its dispatcher unless it disconnects. -/
  | act {view : View} {index : Nat} {standing changed : Standing} {broker : Broker}
    (h : view.agents[index]? = some standing) (advances : standing.Advances view.broker broker changed)
    (kept : ¬licence.disconnects index → standing.dispatcher.isSome → changed.dispatcher.isSome) :
    Change licence view { view with broker, agents := view.agents.set index changed }
  /-- An agent that nobody holds leaves its connection to be closed. -/
  | leave {view : View} {index : Nat} {standing changed : Standing} {closing : List ConnectionId}
    (h : view.agents[index]? = some standing) (handle : changed.connection.handle = none)
    (dispatcher : changed.dispatcher = none) (held : changed.held = false)
    (tunings : changed.tunings = standing.tunings)
    (left : ∀ connection ∈ closing, connection ∈ view.closing ∨ standing.connection.handle = some connection) :
    Change licence view { view with agents := view.agents.set index changed, closing }
  /-- A dispatcher comes to the end of its inbox. -/
  | rest {view : View} {index : Nat} {standing : Standing} {source : ConnectionId} {former phase : DispatcherPhase}
    (h : view.agents[index]? = some standing) (reads : standing.dispatcher = some ⟨source, former⟩)
    (lt : source < view.broker.clients.length) (inbox : view.broker.inbox source = [])
    (finished : phase = .finished → view.broker.isClosed source) :
    Change licence view
      { view with agents := view.agents.set index { standing with dispatcher := some ⟨source, phase⟩ } }
  | join {view : View} {standing : Standing} (link : standing.toLink = ⟨.initial, none⟩) (off : standing.tunings = []) :
    Change licence view { view with agents := view.agents ++ [standing] }
  /-- An agent subscribes a receiver of another one, of which the mark is changed. -/
  | lend {view : View} {index : Nat} {standing changed : Standing} {broker : Broker} (h : licence.lends)
    (owner : view.agents[index]? = some standing) (link : changed.toLink = standing.toLink)
    (held : changed.held = standing.held) (grows : view.broker.Grows (fun _ ↦ True) broker) :
    Change licence view { view with broker, agents := view.agents.set index changed }

/-- Things that happen to a view, one after the other. -/
def Changes (licence : Licence) : View → View → Prop :=
  Relation.ReflTransGen (Change licence)

/-- The broker has grown, and nothing else has happened. -/
def Grows (before after : View) : Prop :=
  ∃ broker, before.broker.Grows (fun _ ↦ False) broker ∧ after = { before with broker }

variable {before middle after : View} {licence : Licence}

theorem Grows.of_eq (same : after = before) : before.Grows after :=
  ⟨before.broker, .refl _, same⟩

theorem Grows.trans (first : before.Grows middle) (second : middle.Grows after) : before.Grows after := by
  obtain ⟨between, grows, rfl⟩ := first
  obtain ⟨broker, grows', rfl⟩ := second
  exact ⟨broker, grows.trans grows' fun _ _ h ↦ h, rfl⟩

theorem Grows.changes (grows : before.Grows after) : Changes licence before after := by
  obtain ⟨broker, grows, rfl⟩ := grows
  exact .single (.outside (grows.mono fun _ ↦ False.elim))

theorem Changes.of_eq (same : after = before) : Changes licence before after :=
  same ▸ .refl

end View

namespace Network

open View (Change Changes Licence)

variable {licence : Licence} {network before after : Network} {agent changed : Agent} {index : Nat}

/-! ## What does not show -/

theorem view_schedule {task : Task} (h : task.closing? = none) (network : Network) :
    (network.schedule task).view = network.view := by
  unfold schedule
  split
  · rfl
  · simp [view, h]

theorem view_wake (network : Network) : network.wake.view = network.view := by
  have all (tasks : List Task) (h : ∀ task ∈ tasks, task.closing? = none) (network : Network) :
      (tasks.foldl schedule network).view = network.view := by
    induction tasks generalizing network with
    | nil => rfl
    | cons task rest ih =>
      rw [List.forall_mem_cons] at h
      rw [List.foldl_cons, ih h.2, view_schedule h.1]
  refine all _ (fun task hmem ↦ ?_) network
  rcases List.mem_filterMap.1 hmem with ⟨entry, -, hwake⟩
  rcases wakeUp?_eq_some hwake with ⟨dispatcher, -, rfl, -⟩
  rfl

theorem view_pass {task : Task} {rest : List Task} (ready : network.ready = task :: rest) (h : task.closing? = none) :
    Network.view { network with ready := rest } = network.view := by
  unfold view
  rw [ready, List.filterMap_cons_none h]

theorem view_onMedium (network : Network) (operation : Medium → Medium) :
    (network.onMedium operation).view = { network.view with broker := (operation network.medium).broker } :=
  view_wake _

theorem view_releaseConnect (network : Network) (transport : String) (number : Nat) :
    (network.releaseConnect transport number).1.view = network.view := by
  unfold releaseConnect
  simp only
  split
  · rfl
  · exact view_schedule rfl _

theorem view_setAgent (network : Network) (index : Nat) (agent : Agent) :
    (network.setAgent index agent).view =
      { network.view with agents := network.view.agents.set index agent.standing } := by
  have set : Network.view { network with agents := network.agents.set index agent } =
      { network.view with agents := network.view.agents.set index agent.standing } := by
    simp [view, List.map_set]
  unfold setAgent
  simp only
  split
  · exact set
  · rw [view_schedule rfl]
    exact set

theorem standing_modifyReceiver {change : Receiver → Receiver}
    (same : ∀ receiver, agent.receivers[index]? = some receiver → (change receiver).tuning = receiver.tuning) :
    Agent.standing { agent with receivers := agent.receivers.modify index change } = agent.standing := by
  have tunings : (agent.receivers.modify index change).map Receiver.tuning = agent.receivers.map Receiver.tuning := by
    apply List.ext_getElem?
    intro place
    simp only [List.getElem?_map, List.getElem?_modify]
    by_cases own : index = place
    · subst own
      cases h : agent.receivers[index]? with
      | none => rfl
      | some receiver => simp [same receiver h]
    · simp [own]
  simp [Agent.standing, Agent.link, tunings]

theorem view_modifyAgent {change : Agent → Agent}
    (same : ∀ agent, network.agents[index]? = some agent → (change agent).standing = agent.standing) :
    (network.modifyAgent index change).view = network.view := by
  have agents : (network.agents.modify index change).map Agent.standing = network.agents.map Agent.standing := by
    apply List.ext_getElem?
    intro place
    simp only [List.getElem?_map, List.getElem?_modify]
    by_cases own : index = place
    · subst own
      cases h : network.agents[index]? with
      | none => rfl
      | some agent => simp [same agent h]
    · simp [own]
  simp [view, modifyAgent, agents]

/-- A receiver may be changed as long as it wants the same and keeps its mark. -/
theorem view_modifyReceiver {change : Receiver → Receiver} {id : ReceiverId}
    (same : ∀ receiver, network.receiver? id = some receiver → (change receiver).tuning = receiver.tuning) :
    (network.modifyReceiver id change).view = network.view := by
  apply view_modifyAgent
  intro agent hagent
  apply standing_modifyReceiver
  intro receiver hreceiver
  exact same receiver (receiver?_eq_some_iff.2 ⟨agent, hagent, hreceiver⟩)

/-! ## Callbacks -/

theorem grows_onBroker {operation : Broker → Broker}
    (grows : network.medium.broker.Grows (fun _ ↦ False) (operation network.medium.broker)) :
    network.view.Grows (network.onMedium fun medium ↦ medium.onBroker operation).view :=
  ⟨operation network.medium.broker, grows, view_onMedium network _⟩

theorem grows_publish (network : Network) (message : Message) (retain : Bool) :
    network.view.Grows (network.publish message retain).view :=
  grows_onBroker (Broker.grows_route _ message retain)

/-- Whatever a callback does, to the view the broker has grown. -/
theorem grows_act (network : Network) (id : ReceiverId) (label : String) (delivery : Delivery) (action : Action) :
    network.view.Grows (network.act id label delivery action).1.view := by
  cases action with
  | count => exact .of_eq rfl
  | register target once handler =>
    apply View.Grows.of_eq
    apply view_modifyReceiver
    intro receiver _
    rfl
  | publish topic payload retain => exact grows_publish network ⟨topic, payload⟩ retain
  | silenceAll => exact grows_onBroker (Broker.grows_silenceAll _)
  | fail => exact .of_eq rfl
  | failIf test => exact .of_eq rfl

theorem grows_actAll (network : Network) (id : ReceiverId) (label : String) (delivery : Delivery)
    (actions : List Action) : network.view.Grows (network.actAll id label delivery actions).1.view := by
  induction actions generalizing network with
  | nil => exact .of_eq rfl
  | cons action rest ih =>
    have first := grows_act network id label delivery action
    unfold actAll
    split
    · rename_i h
      rw [h] at first
      exact first
    · rename_i h
      rw [h] at first
      exact first.trans (ih _)

theorem grows_runHandler (network : Network) (id : ReceiverId) (delivery : Delivery) (handler : Handler) :
    network.view.Grows (network.runHandler id delivery handler).view := by
  cases handler with
  | reply ticket => exact .of_eq rfl
  | scripted label actions =>
    have done := grows_actAll (network.observe (.event (network.labelOf id.agent) (.ran label delivery))) id label
      delivery actions
    unfold runHandler
    simp only
    split
    · rename_i h
      rw [h] at done
      exact done
    · rename_i h
      rw [h] at done
      exact done

theorem grows_deliver (network : Network) (id : ReceiverId) (delivery : Delivery) (callbacks : List Callback) :
    network.view.Grows (network.deliver id delivery callbacks).view := by
  have all (callbacks : List Callback) (network : Network) : network.view.Grows
      (callbacks.foldl (fun network callback ↦ network.runHandler id delivery callback.handler) network).view := by
    induction callbacks generalizing network with
    | nil => exact .of_eq rfl
    | cons callback rest ih => exact (grows_runHandler network id delivery callback.handler).trans (ih _)
  have taken : network.view.Grows
      (network.modifyReceiver id fun receiver ↦ { receiver with callbacks := [] }).view := by
    apply View.Grows.of_eq
    apply view_modifyReceiver
    intro receiver _
    rfl
  refine (taken.trans (all callbacks _)).trans (.of_eq ?_)
  apply view_modifyReceiver
  intro receiver _
  rfl

theorem grows_offer (network : Network) (message : Message) (id : ReceiverId) :
    network.view.Grows (network.offer message id).view := by
  unfold offer
  split
  · exact .of_eq rfl
  · split
    · exact .of_eq rfl
    · exact grows_deliver network id _ _

theorem grows_dispatch (network : Network) (index : Nat) (agent : Agent) (message : Message) :
    network.view.Grows (network.dispatch index agent message).view := by
  unfold dispatch
  induction agent.offered message.topic generalizing network with
  | nil => exact .of_eq rfl
  | cons place rest ih => exact (grows_offer network message ⟨index, place⟩).trans (ih _)

/-! ## Background work -/

theorem changes_setAgent {medium : Medium} (h : network.agents[index]? = some agent)
    (advances : agent.standing.Advances network.medium.broker medium.broker changed.standing)
    (kept : ¬licence.disconnects index → agent.dispatcher.isSome → changed.dispatcher.isSome) :
    Changes licence network.view (setAgent { network with medium } index changed).wake.view := by
  have standing : network.view.agents[index]? = some agent.standing := by simp [view, h]
  rw [view_wake, view_setAgent]
  exact .single (.act standing advances kept)

/-- An agent that nobody holds is given up. -/
theorem changes_giveUp {dispose : Network → Agent → ConnectionId → Network}
    (disposes : dispose = closeLater ∨ dispose = forget)
    (unheld : ∀ agent, network.agents[index]? = some agent → agent.held = false) :
    Changes licence network.view (network.giveUp index dispose).view := by
  unfold giveUp
  split
  · exact .refl
  · rename_i agent h
    have standing : network.view.agents[index]? = some agent.standing := by simp [view, h]
    have left {closing : List ConnectionId} (left : ∀ connection ∈ closing, connection ∈ network.view.closing ∨
        agent.standing.connection.handle = some connection) :
        Change licence network.view
          { network.view with agents := network.view.agents.set index agent.release.1.standing, closing } :=
      .leave standing rfl rfl (unheld agent h) rfl left
    cases held : agent.release.2 with
    | none =>
      simp only [held, view_setAgent]
      exact .single (left fun connection hmem ↦ .inl hmem)
    | some handle =>
      have handle_held : agent.standing.connection.handle = some handle := held
      simp only [held]
      rcases disposes with rfl | rfl
      · unfold closeLater schedule
        split
        · rw [view_setAgent]
          exact .single (left fun connection hmem ↦ .inl hmem)
        · have closing : Network.view { network.setAgent index agent.release.1 with
              ready := (network.setAgent index agent.release.1).ready ++ [.close agent.transport handle] } =
              { network.view with
                agents := network.view.agents.set index agent.release.1.standing
                closing := network.view.closing ++ [handle] } := by
            have set := view_setAgent network index agent.release.1
            simp only [view, View.mk.injEq] at set ⊢
            exact ⟨set.1, set.2.1, by simp [set.2.2, Task.closing?]⟩
          rw [closing]
          refine .single (left fun connection hmem ↦ ?_)
          rcases List.mem_append.1 hmem with hmem | hmem
          · exact .inl hmem
          · exact .inr (handle_held.trans (congrArg some (List.mem_singleton.1 hmem).symm))
      · have closed : (forget (network.setAgent index agent.release.1) agent handle).view =
            { network.view with
              broker := network.medium.broker.close handle
              agents := network.view.agents.set index agent.release.1.standing } := by
          have broker : (network.setAgent index agent.release.1).medium.broker = network.medium.broker :=
            congrArg View.broker (view_setAgent network index agent.release.1)
          simp only [forget, view_onMedium, view_setAgent, Medium.onBroker, broker]
        rw [closed]
        -- As if the connection had waited for its close.
        have waiting : Change licence network.view { network.view with
            agents := network.view.agents.set index agent.release.1.standing
            closing := handle :: network.view.closing } := by
          refine left fun connection hmem ↦ ?_
          rcases List.mem_cons.1 hmem with rfl | hmem
          · exact .inr handle_held
          · exact .inl hmem
        exact .tail (.single waiting) (.close List.mem_cons_self (List.subset_cons_self _ _))

theorem changes_letGo (network : Network) (index : Nat) {dispose : Network → Agent → ConnectionId → Network}
    (disposes : dispose = closeLater ∨ dispose = forget) :
    Changes licence network.view (network.letGo index dispose).view := by
  let dropped := network.modifyAgent index fun agent ↦ { agent with held := false }
  have first : Changes licence network.view dropped.view := by
    cases h : network.agents[index]? with
    | none =>
      refine .of_eq ?_
      simp [dropped, modifyAgent, view, List.modify_eq_self (List.getElem?_eq_none_iff.1 h)]
    | some agent =>
      have standing : network.view.agents[index]? = some agent.standing := by simp [view, h]
      have agents : dropped.view = { network.view with
          agents := network.view.agents.set index { agent.standing with held := false } } := by
        simp [dropped, modifyAgent_eq h, view, List.map_set, Agent.standing, Agent.link]
      rw [agents]
      refine .single (.act standing ?_ fun _ h ↦ h)
      have unheld (held : false = true) : agent.held = true := by simp at held
      exact .of_link rfl unheld (.refl _) fun tuned ↦ { tuned with idle := fun held ↦ by simp at held }
  have unheld (agent : Agent) (h : dropped.agents[index]? = some agent) : agent.held = false := by
    simp only [dropped, modifyAgent, List.getElem?_modify_eq] at h
    obtain ⟨former, -, rfl⟩ := Option.map_eq_some_iff.1 h
    rfl
  unfold letGo
  simp only
  split
  · exact first
  · exact first.trans (changes_giveUp disposes unheld)

theorem changes_finishConnect (network : Network) (index : Nat) (attempt : Attempt) (result : Except Error Unit) :
    Changes licence network.view (network.finishConnect index attempt result).view := by
  let finished := (network.setProgress index .finished).observe (.completed attempt.ticket result)
  have given (unheld : ∀ agent, finished.agents[attempt.agent]? = some agent → agent.held = false) :
      Changes licence finished.view (finished.giveUp attempt.agent closeLater).view :=
    changes_giveUp (.inl rfl) unheld
  unfold finishConnect
  simp only
  split
  · rename_i ended
    rw [Bool.and_eq_true] at ended
    apply given
    intro agent h
    have unheld := ended.1
    rw [h] at unheld
    simpa using unheld
  · exact .refl

theorem changes_completeConnect (index : Nat) (attempt : Attempt) (h : network.agents[attempt.agent]? = some agent)
    (pending : Pending) : Changes licence network.view (network.completeConnect index attempt agent pending).view := by
  have answered : Changes licence network.view
      (network.onAgent attempt.agent agent fun medium agent ↦ agent.completeConnect medium pending).1.view :=
    changes_setAgent h (Agent.advances_completeConnect network.medium agent pending) fun _ ↦
      Agent.isSome_dispatcher_completeConnect network.medium agent pending
  rw [completeConnect_eq]
  exact answered.trans (changes_finishConnect _ index attempt _)

theorem changes_continueConnect (index : Nat) (attempt : Attempt) (h : network.agents[attempt.agent]? = some agent) :
    Changes licence network.view (network.continueConnect index attempt agent).view := by
  unfold continueConnect
  split
  · split
    · exact changes_finishConnect network index attempt _
    · rename_i medium begun pending hbegin
      have begins : Changes licence network.view (setAgent { network with medium } attempt.agent begun).wake.view := by
        refine changes_setAgent h (Agent.advances_of_beginConnect hbegin) fun _ reads ↦ ?_
        rw [(Agent.beginConnect_eq_ok hbegin).1]
        exact reads
      simp only
      split
      · exact begins
      · have h' : ({ network with medium } : Network).agents[attempt.agent]? = some agent := h
        exact begins.trans (changes_completeConnect index attempt (getElem?_wake_setAgent h' begun) pending)
  · exact changes_completeConnect index attempt h _
  · exact .refl
  · exact .refl

/-- A step of background work brings changes. Where it hands a message on, they start when the message has been taken
from its inbox, and the broker grows. -/
theorem changes_tick? {foreign : ConnectionId → Prop} (licence : Licence) (sound : network.Sound foreign)
    (h : network.tick? = some after) :
    match network.handed? with
    | none => Changes licence network.view after.view
    | some (_, _, broker) => View.Grows { network.view with broker } after.view := by
  cases tick_of_tick? h with
  | @dispatch index source rest agent phase message broker ready hagent reads taken handed =>
    simp only [handed]
    exact grows_dispatch { network with medium := { network.medium with broker } } index agent message
  | @rest index source rest agent former ready hagent reads empty handed =>
    have standing : network.view.agents[index]? = some agent.standing := by simp [view, hagent]
    have hagent' : ({ network with ready := rest } : Network).agents[index]? = some agent := hagent
    let phase : DispatcherPhase := if network.medium.broker.isClosed source then .finished else .resting
    have finished (h : phase = .finished) : network.medium.broker.isClosed source := by
      by_cases closed : network.medium.broker.isClosed source
      · exact closed
      · simp [phase, closed] at h
    have rested : Change licence network.view { network.view with
        agents := network.view.agents.set index { agent.standing with dispatcher := some ⟨source, phase⟩ } } :=
      .rest standing reads ((sound.sound_link hagent).source_lt _ reads) (Broker.inbox_eq_nil_of_take? empty) finished
    have same : Network.view { network with
        agents := network.agents.set index { agent with dispatcher := some ⟨source, phase⟩ }, ready := rest } =
        { network.view with
          agents := network.view.agents.set index { agent.standing with dispatcher := some ⟨source, phase⟩ } } := by
      have passed := congrArg View.closing (view_pass ready rfl)
      simp only [view, List.map_set] at passed ⊢
      rw [passed]
      rfl
    simp only [handed, modifyAgent_eq hagent']
    exact same ▸ .single rested
  | @pass task rest ready closes handed =>
    simp only [handed]
    apply Changes.of_eq
    cases task with
    | dispatch index source => exact view_pass ready rfl
    | attempt index => exact view_pass ready rfl
    | close transport connection => exact absurd rfl (closes transport connection)
  | @close transport connection rest ready handed =>
    have waits : connection ∈ network.view.closing := by simp [view, ready, Task.closing?]
    have fewer : rest.filterMap Task.closing? ⊆ network.view.closing := by
      intro other hmem
      simp only [view, ready, List.filterMap_cons, Task.closing?]
      exact List.mem_cons_of_mem _ hmem
    simp only [handed, view_onMedium, Medium.broker_close]
    exact .single (.close waits fewer)
  | @attempt index rest attempt agent ready started hagent handed =>
    simp only [handed]
    rw [← view_pass ready rfl]
    exact changes_continueConnect index attempt hagent

end Network

end PubSub
