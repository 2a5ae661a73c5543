import PubSub.Transport.Medium
/-!
# Connections of a broker

What an operation does to the connections that a broker has. All but one leave their number as it is, revive no
connection and take no notice of one that is closed: connections fade. The other one accepts a connection, which is
live and comes behind those that there are.
-/

namespace PubSub

/-- What may become of a record: a connection does not come back to life, and stays closed. -/
structure Client.Fades (before after : Client) : Prop where
  live : after.status = .live → before.status = .live
  closed : before.status = .closed → after.status = .closed

theorem Client.Fades.of_status {before after : Client} (same : after.status = before.status) : before.Fades after :=
  ⟨fun live ↦ same ▸ live, fun closed ↦ same ▸ closed⟩

namespace Broker

variable {broker before after last : Broker} {connection other : ConnectionId} {client : Client}

theorem isLive_iff : broker.isLive connection ↔
    ∃ client, broker.clients[connection]? = some client ∧ client.status = .live := by
  simp [isLive, Option.any_eq_true]

theorem isClosed_iff : broker.isClosed connection ↔
    ∀ client, broker.clients[connection]? = some client → client.status = .closed := by
  simp [isClosed, Option.all_eq_true]

theorem lt_length_of_isLive (live : broker.isLive connection) : connection < broker.clients.length := by
  obtain ⟨client, hclient, -⟩ := isLive_iff.1 live
  exact (List.getElem?_eq_some_iff.1 hclient).1

theorem not_isLive_of_isClosed (closed : broker.isClosed connection) : ¬broker.isLive connection := by
  intro live
  obtain ⟨client, hclient, status⟩ := isLive_iff.1 live
  rw [isClosed_iff.1 closed client hclient] at status
  cases status

/-! ## Fading -/

/-- No connection is added or comes back to life, and none that is closed is opened again. -/
structure Fades (before after : Broker) : Prop where
  length_eq : after.clients.length = before.clients.length
  isLive : ∀ connection, after.isLive connection → before.isLive connection
  isClosed : ∀ connection, before.isClosed connection → after.isClosed connection

namespace Fades

theorem refl (broker : Broker) : broker.Fades broker :=
  ⟨rfl, fun _ live ↦ live, fun _ closed ↦ closed⟩

theorem trans (first : before.Fades after) (second : after.Fades last) : before.Fades last where
  length_eq := second.length_eq.trans first.length_eq
  isLive connection live := first.isLive connection (second.isLive connection live)
  isClosed connection closed := second.isClosed connection (first.isClosed connection closed)

theorem of_clients (same : after.clients = before.clients) : before.Fades after where
  length_eq := by rw [same]
  isLive connection live := by rwa [Broker.isLive, same] at live
  isClosed connection closed := by rwa [Broker.isClosed, same]

theorem of_map {change : Client → Client} (clients : after.clients = before.clients.map change)
    (fades : ∀ client : Client, client.Fades (change client)) : before.Fades after where
  length_eq := by rw [clients, List.length_map]
  isLive connection live := by
    obtain ⟨client, hclient, status⟩ := isLive_iff.1 live
    rw [clients, List.getElem?_map] at hclient
    obtain ⟨old, hold, rfl⟩ := Option.map_eq_some_iff.1 hclient
    exact isLive_iff.2 ⟨old, hold, (fades old).live status⟩
  isClosed connection closed := by
    refine isClosed_iff.2 fun client hclient ↦ ?_
    rw [clients, List.getElem?_map] at hclient
    obtain ⟨old, hold, rfl⟩ := Option.map_eq_some_iff.1 hclient
    exact (fades old).closed (isClosed_iff.1 closed old hold)

end Fades

theorem clients_modifyClient (broker : Broker) (connection other : ConnectionId) (change : Client → Client) :
    (broker.modifyClient connection change).clients[other]? =
      if connection = other then broker.clients[other]?.map change else broker.clients[other]? := by
  simp only [modifyClient, List.getElem?_modify]
  split <;> simp

theorem fades_modifyClient (broker : Broker) (connection : ConnectionId) {change : Client → Client}
    (fades : ∀ client : Client, client.Fades (change client)) :
    broker.Fades (broker.modifyClient connection change) where
  length_eq := by simp [modifyClient]
  isLive other live := by
    obtain ⟨client, hclient, status⟩ := isLive_iff.1 live
    rw [clients_modifyClient] at hclient
    split at hclient
    · obtain ⟨old, hold, rfl⟩ := Option.map_eq_some_iff.1 hclient
      exact isLive_iff.2 ⟨old, hold, (fades old).live status⟩
    · exact isLive_iff.2 ⟨client, hclient, status⟩
  isClosed other closed := by
    refine isClosed_iff.2 fun client hclient ↦ ?_
    rw [clients_modifyClient] at hclient
    split at hclient
    · obtain ⟨old, hold, rfl⟩ := Option.map_eq_some_iff.1 hclient
      exact (fades old).closed (isClosed_iff.1 closed old hold)
    · exact isClosed_iff.1 closed client hclient

theorem fades_route (broker : Broker) (message : Message) (retain : Bool) :
    broker.Fades (broker.route message retain) := by
  apply Fades.of_map rfl
  intro client
  apply Client.Fades.of_status
  rw [Client.offer]
  split <;> rfl

theorem fades_close (broker : Broker) (connection : ConnectionId) : broker.Fades (broker.close connection) :=
  broker.fades_modifyClient connection fun _ ↦ ⟨nofun, fun _ ↦ rfl⟩

theorem fades_silenceAll (broker : Broker) : broker.Fades broker.silenceAll := by
  apply Fades.of_map rfl
  intro client
  split
  · rename_i live
    exact ⟨nofun, fun closed ↦ by rw [live] at closed; cases closed⟩
  · exact .of_status rfl

theorem fades_emptyInbox (broker : Broker) (connection : ConnectionId) :
    broker.Fades (broker.emptyInbox connection) :=
  broker.fades_modifyClient connection fun _ ↦ .of_status rfl

theorem fades_of_subscribe {filter : String} {qos : QoS} (h : broker.subscribe connection filter qos = .ok after) :
    broker.Fades after := by
  rw [subscribe] at h
  split at h
  · obtain rfl := Except.ok.inj h
    exact broker.fades_modifyClient connection fun _ ↦ .of_status rfl
  · cases h

theorem eq_route_of_publish {message : Message} {retain : Bool}
    (h : broker.publish connection message retain = .ok after) : after = broker.route message retain := by
  rw [publish] at h
  split at h
  · exact (Except.ok.inj h).symm
  · cases h

theorem fades_of_publish {message : Message} {retain : Bool}
    (h : broker.publish connection message retain = .ok after) : broker.Fades after :=
  eq_route_of_publish h ▸ broker.fades_route message retain

theorem isLive_close_iff : (broker.close connection).isLive other ↔ broker.isLive other ∧ other ≠ connection := by
  simp only [isLive_iff, close, clients_modifyClient]
  by_cases same : connection = other
  · simp [same]
  · simp [same, Ne.symm same]

/-! ## Inboxes -/

theorem inbox_modifyClient (broker : Broker) (connection other : ConnectionId) (change : Client → Client) :
    (broker.modifyClient connection change).inbox other =
      if connection = other then ((broker.clients[other]?.map change).map Client.inbox).getD []
      else broker.inbox other := by
  simp only [inbox, clients_modifyClient]
  split <;> rfl

/-- What is taken is the oldest message, and nothing else changes. -/
theorem take?_of_inbox {message : Message} {rest : List Message} (h : broker.inbox connection = message :: rest) :
    broker.take? connection =
      some (message, broker.modifyClient connection fun client ↦ { client with inbox := rest }) := by
  unfold inbox at h
  cases hclient : broker.clients[connection]? with
  | none => simp [hclient] at h
  | some client =>
    obtain ⟨clientId, status, subscriptions, inbox⟩ := client
    have hinbox : inbox = message :: rest := by simpa [hclient] using h
    rw [take?, hclient, hinbox]

theorem take?_of_inbox_nil (h : broker.inbox connection = []) : broker.take? connection = none := by
  unfold inbox at h
  cases hclient : broker.clients[connection]? with
  | none => rw [take?, hclient]
  | some client =>
    obtain ⟨clientId, status, subscriptions, inbox⟩ := client
    have hinbox : inbox = [] := by simpa [hclient] using h
    rw [take?, hclient, hinbox]

theorem inbox_eq_nil_of_take? (h : broker.take? connection = none) : broker.inbox connection = [] := by
  cases hinbox : broker.inbox connection with
  | nil => rfl
  | cons message rest => simp [take?_of_inbox hinbox] at h

theorem take?_eq_some {message : Message} (h : broker.take? connection = some (message, after)) :
    ∃ rest, broker.inbox connection = message :: rest ∧
      after = broker.modifyClient connection fun client ↦ { client with inbox := rest } := by
  cases hinbox : broker.inbox connection with
  | nil => simp [take?_of_inbox_nil hinbox] at h
  | cons found rest =>
    rw [take?_of_inbox hinbox, Option.some.injEq, Prod.mk.injEq] at h
    exact ⟨rest, by rw [h.1], h.2.symm⟩

theorem isClosed_modifyClient {change : Client → Client} (same : ∀ client, (change client).status = client.status)
    (broker : Broker) (connection other : ConnectionId) :
    (broker.modifyClient connection change).isClosed other = broker.isClosed other := by
  unfold isClosed
  rw [clients_modifyClient]
  split
  · cases broker.clients[other]? <;> simp [same]
  · rfl

theorem fades_of_take? {message : Message} (h : broker.take? connection = some (message, after)) :
    broker.Fades after := by
  rcases take?_eq_some h with ⟨rest, -, rfl⟩
  exact broker.fades_modifyClient connection fun _ ↦ .of_status rfl

/-! ## Accepting -/

/-- One live connection is added behind those that there are. -/
structure Accepts (before after : Broker) (connection : ConnectionId) : Prop where
  eq_length : connection = before.clients.length
  length_eq : after.clients.length = before.clients.length + 1
  isLive_iff : ∀ other, after.isLive other ↔ before.isLive other ∨ other = connection
  isClosed_iff : ∀ other < before.clients.length, after.isClosed other ↔ before.isClosed other

theorem accepts_of_connect {options : BrokerOptions} {clientId : ClientId}
    (h : broker.connect options clientId = .ok (after, connection)) : broker.Accepts after connection := by
  rw [connect] at h
  split at h
  · cases h
  · split at h
    · obtain ⟨rfl, rfl⟩ := Prod.mk.inj (Except.ok.inj h)
      refine ⟨rfl, by simp, fun other ↦ ?_, fun other hlt ↦ ?_⟩
      · rcases Nat.lt_trichotomy other broker.clients.length with hlt | rfl | hgt
        · simp [isLive, List.getElem?_append_left hlt, Nat.ne_of_lt hlt]
        · simp [isLive]
        · have hle := Nat.le_of_lt hgt
          have hne := Nat.sub_ne_zero_of_lt hgt
          simp [isLive, List.getElem?_append_right hle, List.getElem?_eq_none hle, Nat.ne_of_gt hgt,
            hne]
      · simp [isClosed, List.getElem?_append_left hlt]
    · cases h

end Broker

/-! ## Media -/

namespace Medium

variable {medium : Medium} {transport : Transport} {connection : ConnectionId}

@[simp]
theorem broker_warn (medium : Medium) : medium.warn.broker = medium.broker := rfl

@[simp]
theorem broker_fail (medium : Medium) : medium.fail.broker = medium.broker := rfl

@[simp]
theorem broker_record (medium : Medium) (transport : Transport) (call : Call) :
    (medium.record transport call).broker = medium.broker := by
  cases transport <;> rfl

@[simp]
theorem broker_requestConnect (medium : Medium) (transport : Transport) (options : BrokerOptions)
    (clientId : ClientId) : (medium.requestConnect transport options clientId).broker = medium.broker := by
  cases transport <;> rfl

@[simp]
theorem broker_close (medium : Medium) (transport : Transport) (connection : ConnectionId) :
    (medium.close transport connection).1.broker = medium.broker.close connection := by
  simp [close]

theorem fades_settleRequest {request : Except TransportError Broker}
    (fades : ∀ broker, request = .ok broker → medium.broker.Fades broker) :
    medium.broker.Fades (medium.settleRequest request).1.broker := by
  cases request with
  | error error => exact .refl _
  | ok broker => exact fades broker rfl

theorem fades_subscribe (medium : Medium) (transport : Transport) (connection : ConnectionId) (pattern : String)
    (qos : QoS) : medium.broker.Fades (medium.subscribe transport connection pattern qos).1.broker := by
  have hrecord := medium.broker_record transport (.subscribe pattern qos)
  rw [subscribe, ← hrecord]
  apply fades_settleRequest
  intro broker h
  rw [hrecord] at h ⊢
  cases hfault : (medium.record transport (.subscribe pattern qos)).subscribeFault transport pattern with
  | error error => simp [hfault, bind, Except.bind] at h
  | ok =>
    cases hsubscribe : medium.broker.subscribe connection pattern qos with
    | error error =>
      rw [hfault, hsubscribe] at h
      cases h
    | ok accepted =>
      rw [hfault, hsubscribe] at h
      obtain rfl : accepted = broker := Except.ok.inj h
      exact Broker.fades_of_subscribe hsubscribe

/-- A publish either fails and leaves the broker as it is, or routes the message. -/
theorem publish_cases (medium : Medium) (transport : Transport) (connection : ConnectionId) (message : Message)
    (options : PublishOptions) :
    (∃ error, (medium.publish transport connection message options).2 = .error error ∧
      (medium.publish transport connection message options).1.broker = medium.broker) ∨
    (medium.publish transport connection message options).1 =
      { medium.record transport (.publish message options) with
        broker := medium.broker.route message options.retain } := by
  simp only [publish, broker_record]
  cases hfault : Script.fault ((medium.record transport (.publish message options)).scriptOf transport).publish with
  | error error => exact .inl ⟨error, rfl, by simp [bind, Except.bind, settleRequest]⟩
  | ok =>
    cases hpublish : medium.broker.publish connection message options.retain with
    | error error => exact .inl ⟨.broker error, rfl, broker_record medium transport _⟩
    | ok broker =>
      obtain rfl := Broker.eq_route_of_publish hpublish
      exact .inr rfl

theorem fades_publish (medium : Medium) (transport : Transport) (connection : ConnectionId) (message : Message)
    (options : PublishOptions) :
    medium.broker.Fades (medium.publish transport connection message options).1.broker := by
  rcases medium.publish_cases transport connection message options with ⟨-, -, same⟩ | routed
  · exact .of_clients (by rw [same])
  · rw [routed]
    exact medium.broker.fades_route message options.retain

end Medium

end PubSub
