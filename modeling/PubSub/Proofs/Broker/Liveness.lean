import PubSub.Proofs.Agent.Resubscription
/-!
# What stays live

An operation of the broker leaves connections as live as they were, but for those that it closes and unless it cuts all
of them. An agent closes no connection but the one that it holds.
-/

namespace PubSub

namespace Broker

variable {broker before middle after : Broker} {connection other : ConnectionId} {touched others : ConnectionId → Prop}
  {cut again : Bool}

/-- From one broker to a later one: of the connections that there were, those that are not touched are as live as
before, or all are cut. -/
structure Spares (touched : ConnectionId → Prop) (cut : Bool) (before after : Broker) : Prop where
  length_le : before.clients.length ≤ after.clients.length
  isLive : ∀ connection < before.clients.length, ¬touched connection →
    after.isLive connection = (before.isLive connection && !cut)

namespace Spares

theorem of_same (length_le : before.clients.length ≤ after.clients.length)
    (same : ∀ connection < before.clients.length, after.isLive connection = before.isLive connection) :
    before.Spares touched false after :=
  ⟨length_le, fun connection lt _ ↦ by rw [same connection lt, Bool.not_false, Bool.and_true]⟩

theorem of_clients (same : after.clients = before.clients) : before.Spares touched false after :=
  of_same (Nat.le_of_eq (by rw [same])) fun connection _ ↦ by rw [Broker.isLive, Broker.isLive, same]

theorem refl (broker : Broker) : broker.Spares touched false broker :=
  of_clients rfl

theorem of_append {added : List Client} (clients : after.clients = before.clients ++ added) :
    before.Spares touched false after := by
  refine .of_same (by simp [clients]) fun connection lt ↦ ?_
  rw [Broker.isLive, Broker.isLive, clients, List.getElem?_append_left lt]

theorem trans (first : before.Spares touched cut middle) (second : middle.Spares others again after)
    (subset : ∀ connection < before.clients.length, others connection → touched connection) :
    before.Spares touched (cut || again) after where
  length_le := Nat.le_trans first.length_le second.length_le
  isLive connection lt untouched := by
    have later := second.isLive connection (Nat.lt_of_lt_of_le lt first.length_le)
      fun other ↦ untouched (subset connection lt other)
    rw [later, first.isLive connection lt untouched, Bool.not_or, Bool.and_assoc]

theorem mono (spares : before.Spares others cut after) (subset : ∀ connection, others connection → touched connection) :
    before.Spares touched cut after :=
  ⟨spares.length_le, fun connection lt untouched ↦
    spares.isLive connection lt fun other ↦ untouched (subset connection other)⟩

end Spares

theorem spares_modifyClient {change : Client → Client} (same : ∀ client, (change client).status = client.status)
    (broker : Broker) (connection : ConnectionId) :
    broker.Spares touched false (broker.modifyClient connection change) :=
  .of_same (by simp [modifyClient]) fun other _ ↦ isLive_modifyClient same broker connection other

theorem spares_route (broker : Broker) (message : Message) (retain : Bool) :
    broker.Spares touched false (broker.route message retain) :=
  .of_same (by simp [route]) fun connection _ ↦ broker.isLive_route message retain connection

theorem spares_close (broker : Broker) (connection : ConnectionId) :
    broker.Spares (· = connection) false (broker.close connection) := by
  refine ⟨by simp [close, modifyClient], fun other _ apart ↦ ?_⟩
  rw [Bool.not_false, Bool.and_true, Bool.eq_iff_iff, isLive_close_iff]
  exact ⟨And.left, fun live ↦ ⟨live, apart⟩⟩

theorem spares_silenceAll (broker : Broker) : broker.Spares touched true broker.silenceAll := by
  refine ⟨by simp [silenceAll], fun connection _ _ ↦ ?_⟩
  rw [Bool.not_true, Bool.and_false, Bool.eq_false_iff]
  intro live
  obtain ⟨client, hclient, status⟩ := isLive_iff.1 live
  rw [silenceAll, List.getElem?_map] at hclient
  obtain ⟨former, -, rfl⟩ := Option.map_eq_some_iff.1 hclient
  split at status
  · cases status
  · contradiction

theorem spares_emptyInbox (broker : Broker) (connection : ConnectionId) :
    broker.Spares touched false (broker.emptyInbox connection) := by
  apply spares_modifyClient
  exact fun _ ↦ rfl

theorem spares_of_take? {message : Message} (taken : broker.take? connection = some (message, after)) :
    broker.Spares touched false after :=
  .of_same (Nat.le_of_eq (fades_of_take? taken).length_eq.symm) fun other _ ↦ isLive_of_take? taken other

theorem spares_of_subscribe {filter : String} {qos : QoS}
    (h : broker.subscribe connection filter qos = .ok after) : broker.Spares touched false after := by
  unfold subscribe at h
  split at h
  · obtain rfl := Except.ok.inj h
    apply spares_modifyClient
    exact fun _ ↦ rfl
  · cases h

theorem spares_of_connect {options : BrokerOptions} {clientId : ClientId}
    (h : broker.connect options clientId = .ok (after, connection)) : broker.Spares touched false after := by
  unfold connect at h
  split at h
  · cases h
  · split at h
    · obtain ⟨rfl, rfl⟩ := Prod.mk.inj (Except.ok.inj h)
      exact .of_append rfl
    · cases h

end Broker

namespace Agent

variable {medium after : Medium} {agent begun : Agent} {touched : ConnectionId → Prop}

theorem spares_publish (medium : Medium) (agent : Agent) (message : Message) (options : PublishOptions) :
    medium.broker.Spares touched false (agent.publish medium message options).1.broker := by
  unfold publish
  split
  · exact .refl _
  · rename_i handle _
    rcases medium.publish_cases agent.transport handle message options with ⟨-, -, same⟩ | routed
    · simp only
      rw [same]
      exact .refl _
    · simp only
      rw [routed]
      exact medium.broker.spares_route message options.retain

theorem spares_subscribe (medium : Medium) (agent : Agent) (receiver : Receiver) :
    medium.broker.Spares touched false (agent.subscribe medium receiver).1.broker := by
  rcases subscribe_cases medium agent receiver with ⟨same, -⟩ | ⟨handle, -, -, subscribed, -⟩
  · exact .of_clients (by rw [same])
  · exact Broker.spares_of_subscribe subscribed

theorem spares_subscribeEach (agent : Agent) (medium : Medium) (receivers : List Receiver) :
    medium.broker.Spares touched false (agent.subscribeEach medium receivers).1.broker :=
  subscribeEach_induction (motive := fun before after ↦ before.broker.Spares touched false after.broker)
    (fun _ ↦ .refl _) (fun first second ↦ first.trans second fun _ _ held ↦ held)
    (fun medium receiver ↦ spares_subscribe medium agent receiver) (fun _ ↦ .refl _) medium receivers

theorem spares_createReceiver {name : String} {kind : PayloadKind} {options : ChannelOptions} {changed : Agent}
    {place : Nat} (h : agent.createReceiver medium name kind options = .ok (after, changed, place)) :
    medium.broker.Spares touched false after.broker := by
  rcases createReceiver_cases h with ⟨same, -⟩ | ⟨receiver, -, -, ⟨same, -⟩ | ⟨same, -⟩⟩
  · rw [same]
    exact .refl _
  · rw [same]
    exact .refl _
  · rw [same]
    exact spares_subscribe medium agent receiver

theorem spares_of_beginConnect {overrides : BrokerOverrides} {pending : Pending}
    (h : agent.beginConnect medium overrides = .ok (after, begun, pending)) :
    medium.broker.Spares (fun connection ↦ agent.connection.handle = some connection) false after.broker := by
  rw [(beginConnect_eq_ok h).2.2]
  cases held : agent.connection.handle with
  | none => exact .refl _
  | some handle => exact (medium.broker.spares_close handle).mono fun connection same ↦ congrArg some same.symm

theorem spares_completeConnect (medium : Medium) (agent : Agent) (pending : Pending) :
    medium.broker.Spares touched false (agent.completeConnect medium pending).1.broker := by
  rcases completeConnect_cases medium agent pending with
    ⟨broker, -⟩ | ⟨answered, handle, answer, ⟨-, broker, -⟩ | ⟨-, done⟩⟩
  · rw [broker]
    exact .refl _
  · obtain ⟨rfl, rfl⟩ := answerConnect_eq_ok answer
    rw [broker]
    refine .trans (.of_append rfl) (Broker.spares_close _ medium.broker.clients.length) fun connection lt new ↦ ?_
    exact absurd (new ▸ lt) (Nat.lt_irrefl _)
  · obtain ⟨rfl, rfl⟩ := answerConnect_eq_ok answer
    rw [done]
    exact .trans (.of_append rfl) (spares_subscribeEach _ _ _) fun _ _ held ↦ held

/-- A connect touches the connection that it replaces and no other. -/
theorem spares_connect (medium : Medium) (agent : Agent) (overrides : BrokerOverrides) :
    medium.broker.Spares (fun connection ↦ agent.connection.handle = some connection) false
      (agent.connect medium overrides).1.broker := by
  rcases connect_cases medium agent overrides with ⟨same, -⟩ | ⟨asked, begun, pending, began, answered⟩
  · rw [same]
    exact .refl _
  · rw [answered]
    exact (spares_of_beginConnect began).trans (spares_completeConnect asked begun pending) fun _ _ held ↦ held

theorem spares_disconnect (medium : Medium) (agent : Agent) :
    medium.broker.Spares (fun connection ↦ agent.connection.handle = some connection) false
      (agent.disconnect medium).1.broker := by
  rw [(disconnect_eq medium agent).1]
  cases agent.connection.handle with
  | none => exact .refl _
  | some handle => exact (medium.broker.spares_close handle).mono fun connection same ↦ congrArg some same.symm

end Agent

end PubSub
