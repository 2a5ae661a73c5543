import PubSub.Proofs.Agent.Operations
/-!
# What is observed of agents

Whatever an agent does, what was observed before still is, and nothing comes to it but calls on the agent's transport
and notes in the log: no callback is reported, and no connect is reported to have ended. Which calls there can be
depends on the operation. A connect subscribes nothing before it succeeds, and the broker lists no filter then that it
did not list before.
-/

namespace PubSub

/-- Whether a call asks for a subscription. -/
def Call.subscribes : Call → Bool
  | subscribe _ _ => true
  | _ => false

/-- Whether an observation is a note in the log or an allowed call. -/
def Observation.IsLogged (allowed : Call → Prop) : Observation → Prop
  | call _ made => allowed made
  | warning | failure => True
  | event _ _ | completed _ _ => False

variable {allowed : Call → Prop}

namespace Medium

/-- From one medium to a later one: what was observed before still is, and notes and allowed calls have come to it. -/
def Logs (allowed : Call → Prop) (before after : Medium) : Prop :=
  ∃ added, before.observations ++ added = after.observations ∧
    ∀ observation ∈ added, observation.IsLogged allowed

variable {before middle after : Medium}

namespace Logs

theorem of_observations (same : after.observations = before.observations) : before.Logs allowed after :=
  ⟨[], by rw [List.append_nil, same], by simp⟩

theorem refl (medium : Medium) : medium.Logs allowed medium :=
  of_observations rfl

theorem trans (first : before.Logs allowed middle) (second : middle.Logs allowed after) :
    before.Logs allowed after := by
  obtain ⟨added, same, logged⟩ := first
  obtain ⟨others, same', logged'⟩ := second
  refine ⟨added ++ others, by rw [← List.append_assoc, same, same'], fun observation hmem ↦ ?_⟩
  rcases List.mem_append.1 hmem with hmem | hmem
  · exact logged observation hmem
  · exact logged' observation hmem

theorem mem_drop (logs : before.Logs allowed after) {observation : Observation}
    (hmem : observation ∈ after.observations.drop before.observations.length) : observation.IsLogged allowed := by
  obtain ⟨added, same, logged⟩ := logs
  rw [← same, List.drop_left] at hmem
  exact logged observation hmem

end Logs

theorem logs_observe (medium : Medium) {observation : Observation} (logged : observation.IsLogged allowed) :
    medium.Logs allowed (medium.observe observation) :=
  ⟨[observation], rfl, by simpa using logged⟩

theorem logs_warn (medium : Medium) : medium.Logs allowed medium.warn :=
  medium.logs_observe trivial

theorem logs_fail (medium : Medium) : medium.Logs allowed medium.fail :=
  medium.logs_observe trivial

theorem logs_record (medium : Medium) (transport : Transport) {call : Call} (permitted : allowed call) :
    medium.Logs allowed (medium.record transport call) := by
  cases transport with
  | plain => exact .refl medium
  | scripted label => exact medium.logs_observe permitted

theorem logs_settleRequest (medium : Medium) (request : Except TransportError Broker) :
    medium.Logs allowed (medium.settleRequest request).1 := by
  cases request with
  | error error => exact .refl medium
  | ok broker => exact .of_observations rfl

theorem logs_close (medium : Medium) (transport : Transport) (connection : ConnectionId) (closes : allowed .close) :
    medium.Logs allowed (medium.close transport connection).1 :=
  medium.logs_record transport closes

theorem logs_requestConnect (medium : Medium) (transport : Transport) {options : BrokerOptions} {clientId : ClientId}
    (connects : allowed (.connect options clientId)) :
    medium.Logs allowed (medium.requestConnect transport options clientId) := by
  cases transport with
  | plain => exact .refl medium
  | scripted label => exact medium.logs_observe connects

/-- A transport that answers with a connection has it from the broker. -/
theorem broker_of_answerConnect {transport : Transport} {options : BrokerOptions} {clientId : ClientId}
    {handle : ConnectionId} (h : before.answerConnect transport options clientId = .ok (after, handle)) :
    ∃ broker, before.broker.connect options clientId = .ok (broker, handle) ∧ after = { before with broker } := by
  unfold answerConnect at h
  cases hfault : Script.fault (before.scriptOf transport).connect with
  | error error => simp [hfault, bind, Except.bind] at h
  | ok =>
    cases hconnect : before.broker.connect options clientId with
    | error error => simp [hfault, hconnect, bind, Except.bind] at h
    | ok accepted =>
      simp only [hfault, hconnect, bind, Except.bind] at h
      obtain ⟨rfl, rfl⟩ := Prod.mk.inj (Except.ok.inj h)
      exact ⟨accepted.1, rfl, rfl⟩

end Medium

/-! ## Operations of agents -/

namespace Agent

variable {medium after : Medium} {agent begun : Agent}

theorem logs_publish (medium : Medium) (agent : Agent) (message : Message) (options : PublishOptions)
    (publishes : allowed (.publish message options)) :
    medium.Logs allowed (agent.publish medium message options).1 := by
  unfold publish
  split
  · exact .refl medium
  · exact (medium.logs_record agent.transport publishes).trans (Medium.logs_settleRequest _ _)

theorem logs_subscribe (medium : Medium) (agent : Agent) (receiver : Receiver)
    (subscribes : allowed (.subscribe receiver.pattern.text receiver.qos)) :
    medium.Logs allowed (agent.subscribe medium receiver).1 := by
  unfold subscribe
  simp only
  split
  · exact .refl medium
  · exact (medium.logs_record agent.transport subscribes).trans (Medium.logs_settleRequest _ _)

theorem logs_subscribeEach (agent : Agent) (medium : Medium) (receivers : List Receiver)
    (subscribes : ∀ pattern qos, allowed (.subscribe pattern qos)) :
    medium.Logs allowed (agent.subscribeEach medium receivers).1 :=
  subscribeEach_induction (motive := fun before after ↦ before.Logs allowed after) .refl
    (fun first second ↦ first.trans second)
    (fun medium receiver ↦ logs_subscribe medium agent receiver (subscribes receiver.pattern.text receiver.qos))
    Medium.logs_fail medium receivers

theorem logs_of_beginConnect {overrides : BrokerOverrides} {pending : Pending} (closes : allowed .close)
    (connects : ∀ options clientId, allowed (.connect options clientId))
    (h : agent.beginConnect medium overrides = .ok (after, begun, pending)) : medium.Logs allowed after := by
  unfold beginConnect at h
  cases hbegin : agent.connection.begin? (medium.isLive agent.transport) with
  | error error => simp [hbegin, bind, Except.bind] at h
  | ok found =>
    simp only [hbegin, bind, Except.bind] at h
    rw [← (Prod.mk.inj (Except.ok.inj h)).1]
    split
    · exact medium.logs_requestConnect _ (connects _ _)
    · rename_i handle _
      have closed := medium.logs_warn.trans (medium.warn.logs_close agent.transport handle closes)
      exact closed.trans (Medium.logs_requestConnect _ _ (connects _ _))

/-- Only a connect that succeeds calls for subscriptions. -/
theorem logs_completeConnect (medium : Medium) (agent : Agent) (pending : Pending) (closes : allowed .close)
    (subscribes : (agent.completeConnect medium pending).2.2.isOk → ∀ pattern qos, allowed (.subscribe pattern qos)) :
    medium.Logs allowed (agent.completeConnect medium pending).1 := by
  unfold completeConnect at subscribes ⊢
  cases hanswer : medium.answerConnect agent.transport pending.options agent.clientId with
  | error error => exact medium.logs_fail
  | ok answer =>
    obtain ⟨answered, handle⟩ := answer
    obtain ⟨broker, -, rfl⟩ := Medium.broker_of_answerConnect hanswer
    have asked : medium.Logs allowed { medium with broker } := .of_observations rfl
    simp only [hanswer] at subscribes ⊢
    cases haccept : agent.connection.accept? pending.generation handle with
    | none => exact asked.trans ((Medium.logs_warn _).trans (Medium.logs_close _ _ _ closes))
    | some connection =>
      simp only [haccept] at subscribes ⊢
      exact asked.trans (logs_subscribeEach _ _ _ (subscribes rfl))

theorem logs_connect (medium : Medium) (agent : Agent) (overrides : BrokerOverrides) (closes : allowed .close)
    (connects : ∀ options clientId, allowed (.connect options clientId))
    (subscribes : (agent.connect medium overrides).2.2.isOk → ∀ pattern qos, allowed (.subscribe pattern qos)) :
    medium.Logs allowed (agent.connect medium overrides).1 := by
  rcases connect_cases medium agent overrides with ⟨same, -⟩ | ⟨asked, begun, pending, hbegin, done⟩
  · rw [same]
    exact .refl medium
  · rw [done] at subscribes ⊢
    exact (logs_of_beginConnect closes connects hbegin).trans
      (logs_completeConnect asked begun pending closes subscribes)

theorem logs_disconnect (medium : Medium) (agent : Agent) (closes : allowed .close) :
    medium.Logs allowed (agent.disconnect medium).1 := by
  unfold disconnect
  simp only
  split
  · exact .refl medium
  · rename_i handle _
    have closed := medium.logs_close agent.transport handle closes
    split
    · exact closed
    · exact closed.trans (Medium.logs_warn _)

theorem logs_of_createSender {changed : Agent} {name : String} {kind : PayloadKind} {options : ChannelOptions}
    {place : Nat} (h : agent.createSender medium name kind options = .ok (after, changed, place)) :
    medium.Logs allowed after := by
  unfold createSender at h
  cases hname : validChannelName name with
  | error error => simp [hname, bind, Except.bind] at h
  | ok =>
    cases hexisting : existing name kind options
        (agent.senders.map fun sender ↦ (sender.definition.name, sender.kind)) with
    | error error => simp [hname, hexisting, bind, Except.bind] at h
    | ok found =>
      simp only [hname, hexisting, bind, Except.bind] at h
      split at h
      · obtain ⟨rfl, -, -⟩ := by simpa using Except.ok.inj h
        exact medium.logs_warn
      · split at h
        · cases h
        · split at h
          · cases h
          · obtain ⟨rfl, -, -⟩ := by simpa using Except.ok.inj h
            exact .refl medium

theorem logs_of_createReceiver {changed : Agent} {name : String} {kind : PayloadKind} {options : ChannelOptions}
    {place : Nat} (subscribes : ∀ pattern qos, allowed (.subscribe pattern qos))
    (h : agent.createReceiver medium name kind options = .ok (after, changed, place)) : medium.Logs allowed after := by
  unfold createReceiver at h
  cases hname : validChannelName name with
  | error error => simp [hname, bind, Except.bind] at h
  | ok =>
    cases hexisting : existing name kind options
        (agent.receivers.map fun receiver ↦ (receiver.definition.name, receiver.kind)) with
    | error error => simp [hname, hexisting, bind, Except.bind] at h
    | ok found =>
      simp only [hname, hexisting, bind, Except.bind] at h
      split at h
      · obtain ⟨rfl, -, -⟩ := by simpa using Except.ok.inj h
        exact medium.logs_warn
      · split at h
        · cases h
        · cases hnew : agent.newReceiver name kind options with
          | error error => simp [hnew] at h
          | ok receiver =>
            simp only [hnew] at h
            obtain ⟨rfl, -, -⟩ := by simpa using Except.ok.inj h
            split
            · have subscribed := logs_subscribe medium agent receiver (subscribes _ _)
              split
              · exact subscribed
              · exact subscribed.trans (Medium.logs_fail _)
            · exact medium.logs_warn

end Agent

/-! ## Filters -/

namespace Broker

variable {before middle after broker : Broker}

/-- From one broker to a later one that lists no filter more. -/
def Narrows (before after : Broker) : Prop :=
  ∀ connection, after.filtersOf connection ⊆ before.filtersOf connection

theorem Narrows.refl (broker : Broker) : broker.Narrows broker :=
  fun _ _ h ↦ h

theorem Narrows.trans (first : before.Narrows middle) (second : middle.Narrows after) : before.Narrows after :=
  fun connection _ h ↦ first connection (second connection h)

theorem narrows_close (broker : Broker) (connection : ConnectionId) : broker.Narrows (broker.close connection) := by
  intro other
  unfold filtersOf close
  rw [clients_modifyClient]
  split
  · cases broker.clients[other]? <;> simp [Client.filters]
  · exact fun _ h ↦ h

theorem narrows_of_connect {options : BrokerOptions} {clientId : ClientId} {connection : ConnectionId}
    (h : broker.connect options clientId = .ok (after, connection)) : broker.Narrows after := by
  unfold connect at h
  split at h
  · cases h
  · split at h
    · obtain ⟨rfl, -⟩ := Prod.mk.inj (Except.ok.inj h)
      intro other
      unfold filtersOf
      rw [List.getElem?_append]
      split
      · exact fun _ h ↦ h
      · cases other - broker.clients.length <;> simp [Client.filters]
    · cases h

end Broker

namespace Agent

variable {medium after : Medium} {agent begun : Agent}

theorem narrows_of_beginConnect {overrides : BrokerOverrides} {pending : Pending}
    (h : agent.beginConnect medium overrides = .ok (after, begun, pending)) : medium.broker.Narrows after.broker := by
  rw [(beginConnect_eq_ok h).2.2]
  cases agent.connection.handle with
  | none => exact .refl _
  | some handle => exact medium.broker.narrows_close handle

/-- A connect that fails, or comes too late, subscribes nothing. -/
theorem narrows_completeConnect {pending : Pending} (failed : (agent.completeConnect medium pending).2.2.isOk = false) :
    medium.broker.Narrows (agent.completeConnect medium pending).1.broker := by
  rcases completeConnect_cases medium agent pending with
    ⟨broker, -⟩ | ⟨answered, handle, answer, ⟨-, broker, -⟩ | ⟨-, done⟩⟩
  · rw [broker]
    exact .refl _
  · rw [broker]
    obtain ⟨accepted, connected, rfl⟩ := Medium.broker_of_answerConnect answer
    exact (Broker.narrows_of_connect connected).trans (accepted.narrows_close handle)
  · rw [done] at failed
    cases failed

theorem narrows_connect {overrides : BrokerOverrides} (failed : (agent.connect medium overrides).2.2.isOk = false) :
    medium.broker.Narrows (agent.connect medium overrides).1.broker := by
  rcases connect_cases medium agent overrides with ⟨same, -⟩ | ⟨asked, begun, pending, hbegin, done⟩
  · rw [same]
    exact .refl _
  · rw [done] at failed ⊢
    exact (narrows_of_beginConnect hbegin).trans (narrows_completeConnect failed)

end Agent

end PubSub
