import PubSub.Proofs.Broker.Connections
import Mathlib.Data.List.Nodup
/-!
# Inboxes and filters

What an operation of the broker adds. Messages are only put behind those that wait in an inbox, and into no inbox of a
connection that is closed. The filters of a connection are changed by subscribing or closing that connection and by
nothing else. Of the messages that are retained no two have one topic.
-/

namespace PubSub

/-- The filters that the broker lists for a client. One that it has forgotten has none. -/
def Client.filters (client : Client) : List String :=
  if client.status = .closed then [] else client.subscriptions.map Subscription.filter

/-- What may become of a record: its inbox is added to, unless it is closed. -/
structure Client.Grows (before after : Client) : Prop where
  inbox : before.inbox <+: after.inbox
  closed : before.status = .closed → after.status = .closed ∧ after.inbox = before.inbox

theorem Client.Grows.of_inbox {before after : Client} (inbox : after.inbox = before.inbox)
    (closed : before.status = .closed → after.status = .closed) : before.Grows after :=
  ⟨inbox ▸ List.prefix_refl _, fun h ↦ ⟨closed h, inbox⟩⟩

theorem Client.status_offer (client : Client) (message : Message) : (client.offer message).status = client.status := by
  unfold offer
  split <;> rfl

theorem Client.grows_offer (client : Client) (message : Message) :
    client.Grows (client.offer message) ∧ (client.offer message).filters = client.filters := by
  unfold offer
  split
  · rename_i wanted
    refine ⟨⟨List.prefix_append _ _, fun closed ↦ ?_⟩, rfl⟩
    rw [wanted.1] at closed
    cases closed
  · exact ⟨.of_inbox rfl fun closed ↦ closed, rfl⟩

namespace Broker

variable {broker before middle after : Broker} {connection : ConnectionId} {touched others : ConnectionId → Prop}

/-- The filters that the broker lists for a connection. -/
def filtersOf (broker : Broker) (connection : ConnectionId) : List String :=
  (broker.clients[connection]?.map Client.filters).getD []

theorem isClosed_of_getElem? {client : Client} (h : broker.clients[connection]? = some client) :
    broker.isClosed connection = decide (client.status = .closed) := by
  rw [isClosed, h, Option.all_some]

/-- A topic retains one message at most. -/
theorem nodup_retain {retained : List Message} (distinct : (retained.map Message.topic).Nodup) (message : Message) :
    ((retain retained message).map Message.topic).Nodup := by
  have others : ((retained.filter fun other ↦ other.topic != message.topic).map Message.topic).Nodup :=
    distinct.sublist (List.filter_sublist.map _)
  unfold retain
  split
  · exact others
  · rw [List.map_append, List.map_singleton, List.nodup_append]
    refine ⟨others, List.nodup_singleton _, fun topic hmem found hfound ↦ ?_⟩
    obtain ⟨other, hother, rfl⟩ := List.mem_map.1 hmem
    rw [List.mem_singleton.1 hfound]
    simpa using (List.mem_filter.1 hother).2

/-- From one broker to a later one: inboxes are added to, those of closed connections stay as they are, and filters are
changed of `touched` connections only. -/
structure Grows (touched : ConnectionId → Prop) (before after : Broker) : Prop where
  length_le : before.clients.length ≤ after.clients.length
  inbox : ∀ connection, before.inbox connection <+: after.inbox connection
  closed : ∀ connection < before.clients.length, before.isClosed connection →
    after.isClosed connection ∧ after.inbox connection = before.inbox connection
  filters : ∀ connection < before.clients.length, ¬touched connection →
    after.filtersOf connection = before.filtersOf connection
  distinct : (before.retained.map Message.topic).Nodup → (after.retained.map Message.topic).Nodup

namespace Grows

/-- It is enough to know what becomes of each record. -/
theorem of_records (length_le : before.clients.length ≤ after.clients.length)
    (records : ∀ connection client, before.clients[connection]? = some client →
      ∃ changed, after.clients[connection]? = some changed ∧ client.Grows changed ∧
        (¬touched connection → changed.filters = client.filters))
    (distinct : (before.retained.map Message.topic).Nodup → (after.retained.map Message.topic).Nodup) :
    before.Grows touched after where
  length_le := length_le
  inbox connection := by
    unfold Broker.inbox
    cases h : before.clients[connection]? with
    | none => exact List.nil_prefix
    | some client =>
      obtain ⟨changed, hchanged, grows, -⟩ := records connection client h
      rw [hchanged]
      exact grows.inbox
  closed connection hlt closed := by
    have h := List.getElem?_eq_getElem hlt
    obtain ⟨changed, hchanged, grows, -⟩ := records connection _ h
    rw [isClosed_of_getElem? h, decide_eq_true_eq] at closed
    rw [isClosed_of_getElem? hchanged, decide_eq_true_eq, Broker.inbox, Broker.inbox, hchanged, h]
    exact grows.closed closed
  filters connection hlt untouched := by
    have h := List.getElem?_eq_getElem hlt
    obtain ⟨changed, hchanged, -, filters⟩ := records connection _ h
    rw [filtersOf, filtersOf, hchanged, h]
    exact filters untouched
  distinct := distinct

theorem of_clients (same : after.clients = before.clients) (retained : after.retained = before.retained) :
    before.Grows touched after :=
  of_records (Nat.le_of_eq (by rw [same])) (fun _ client h ↦
    ⟨client, same ▸ h, .of_inbox rfl fun closed ↦ closed, fun _ ↦ rfl⟩) fun distinct ↦ retained ▸ distinct

theorem refl (broker : Broker) : broker.Grows touched broker :=
  of_clients rfl rfl

/-- What the later step touches counts only where there was a connection before. -/
theorem trans (first : before.Grows touched middle) (second : middle.Grows others after)
    (subset : ∀ connection < before.clients.length, others connection → touched connection) :
    before.Grows touched after where
  length_le := Nat.le_trans first.length_le second.length_le
  inbox connection := (first.inbox connection).trans (second.inbox connection)
  closed connection hlt closed := by
    have h := first.closed connection hlt closed
    have h' := second.closed connection (Nat.lt_of_lt_of_le hlt first.length_le) h.1
    exact ⟨h'.1, h'.2.trans h.2⟩
  filters connection hlt untouched := by
    have later := second.filters connection (Nat.lt_of_lt_of_le hlt first.length_le)
      fun other ↦ untouched (subset connection hlt other)
    exact later.trans (first.filters connection hlt untouched)
  distinct distinct := second.distinct (first.distinct distinct)

theorem mono (grows : before.Grows touched after) (subset : ∀ connection, touched connection → others connection) :
    before.Grows others after :=
  { grows with filters := fun connection hlt untouched ↦
      grows.filters connection hlt fun h ↦ untouched (subset connection h) }

end Grows

/-! ## Operations -/

theorem grows_modifyClient {change : Client → Client}
    (grows : ∀ client, broker.clients[connection]? = some client → client.Grows (change client)) :
    broker.Grows (· = connection) (broker.modifyClient connection change) := by
  refine .of_records (by simp [modifyClient]) (fun other client h ↦ ?_) fun distinct ↦ distinct
  rw [clients_modifyClient]
  by_cases same : connection = other
  · rw [if_pos same, h]
    exact ⟨change client, rfl, grows client (same ▸ h), fun untouched ↦ absurd same.symm untouched⟩
  · rw [if_neg same]
    exact ⟨client, h, .of_inbox rfl fun closed ↦ closed, fun _ ↦ rfl⟩

theorem grows_map {change : Client → Client} (clients : after.clients = before.clients.map change)
    (grows : ∀ client : Client, client.Grows (change client) ∧ (change client).filters = client.filters)
    (distinct : (before.retained.map Message.topic).Nodup → (after.retained.map Message.topic).Nodup) :
    before.Grows touched after := by
  refine .of_records (Nat.le_of_eq (by rw [clients, List.length_map])) (fun connection client h ↦ ?_) distinct
  refine ⟨change client, ?_, (grows client).1, fun _ ↦ (grows client).2⟩
  rw [clients, List.getElem?_map, h, Option.map_some]

theorem grows_route (broker : Broker) (message : Message) (retain : Bool) :
    broker.Grows touched (broker.route message retain) := by
  refine grows_map rfl (fun client ↦ client.grows_offer message) fun distinct ↦ ?_
  cases retain with
  | true => exact nodup_retain distinct message
  | false => exact distinct

theorem grows_silenceAll (broker : Broker) : broker.Grows touched broker.silenceAll := by
  refine grows_map rfl (fun client ↦ ?_) fun distinct ↦ distinct
  split
  · rename_i live
    refine ⟨.of_inbox rfl fun closed ↦ ?_, by simp [Client.filters, live]⟩
    rw [live] at closed
    cases closed
  · exact ⟨.of_inbox rfl fun closed ↦ closed, rfl⟩

theorem grows_close (broker : Broker) (connection : ConnectionId) :
    broker.Grows (· = connection) (broker.close connection) :=
  grows_modifyClient fun _ _ ↦ .of_inbox rfl fun _ ↦ rfl

theorem inbox_close (broker : Broker) (connection other : ConnectionId) :
    (broker.close connection).inbox other = broker.inbox other := by
  rw [close, inbox_modifyClient]
  split
  · rw [Option.map_map]
    rfl
  · rfl

theorem grows_of_subscribe {filter : String} {qos : QoS} (h : broker.subscribe connection filter qos = .ok after) :
    broker.Grows (· = connection) after := by
  unfold subscribe at h
  split at h
  · rename_i live
    obtain rfl := Except.ok.inj h
    refine grows_modifyClient fun client hclient ↦ ⟨List.prefix_append _ _, fun closed ↦ ?_⟩
    obtain ⟨found, hfound, status⟩ := isLive_iff.1 live
    obtain rfl : client = found := Option.some.inj (hclient.symm.trans hfound)
    rw [closed] at status
    cases status
  · cases h

theorem grows_of_connect {options : BrokerOptions} {clientId : ClientId}
    (h : broker.connect options clientId = .ok (after, connection)) :
    broker.Grows touched after ∧ connection = broker.clients.length ∧ after.filtersOf connection = [] := by
  have clients : after.clients = broker.clients ++ [⟨clientId, .live, [], []⟩] ∧
      connection = broker.clients.length ∧ after.retained = broker.retained := by
    unfold connect at h
    split at h
    · cases h
    · split at h
      · obtain ⟨rfl, rfl⟩ := Prod.mk.inj (Except.ok.inj h)
        exact ⟨rfl, rfl, rfl⟩
      · cases h
  refine ⟨.of_records (by simp [clients.1]) (fun other client hclient ↦ ?_) fun distinct ↦ ?_, clients.2.1, ?_⟩
  · refine ⟨client, ?_, .of_inbox rfl fun closed ↦ closed, fun _ ↦ rfl⟩
    rw [clients.1, List.getElem?_append_left (List.getElem?_eq_some_iff.1 hclient).1, hclient]
  · rw [clients.2.2]
    exact distinct
  · rw [filtersOf, clients.1, clients.2.1, List.getElem?_concat_length]
    rfl

/-- A message that is taken stood first in its inbox, and no other inbox changes. -/
theorem inbox_of_take? {message : Message} (taken : broker.take? connection = some (message, after)) :
    connection < broker.clients.length ∧ broker.inbox connection = message :: after.inbox connection ∧
      ∀ other, connection ≠ other → after.inbox other = broker.inbox other := by
  rcases take?_eq_some taken with ⟨rest, hinbox, rfl⟩
  cases hclient : broker.clients[connection]? with
  | none => simp [inbox, hclient] at hinbox
  | some client =>
    refine ⟨(List.getElem?_eq_some_iff.1 hclient).1, ?_, fun other hne ↦ ?_⟩
    · rw [hinbox, inbox_modifyClient, if_pos rfl, hclient]
      rfl
    · rw [inbox_modifyClient, if_neg hne]

/-! ## Filters -/

/-- What is done to a record other than subscribing or closing leaves the filters of all connections. -/
theorem filtersOf_modifyClient {change : Client → Client} (same : ∀ client, (change client).filters = client.filters)
    (broker : Broker) (connection other : ConnectionId) :
    (broker.modifyClient connection change).filtersOf other = broker.filtersOf other := by
  unfold filtersOf
  rw [clients_modifyClient]
  split
  · cases broker.clients[other]? with
    | none => rfl
    | some client => exact same client
  · rfl

theorem filtersOf_of_take? {message : Message} (taken : broker.take? connection = some (message, after))
    (other : ConnectionId) : after.filtersOf other = broker.filtersOf other := by
  rcases take?_eq_some taken with ⟨rest, -, rfl⟩
  apply filtersOf_modifyClient
  exact fun _ ↦ rfl

/-- A subscription adds its filter and keeps the others. -/
theorem mem_filtersOf_of_subscribe {filter other : String} {qos : QoS}
    (h : broker.subscribe connection filter qos = .ok after) :
    other ∈ after.filtersOf connection ↔ other = filter ∨ other ∈ broker.filtersOf connection := by
  unfold subscribe at h
  split at h
  · rename_i live
    obtain rfl := Except.ok.inj h
    obtain ⟨client, hclient, status⟩ := isLive_iff.1 live
    unfold filtersOf
    rw [clients_modifyClient, if_pos rfl, hclient]
    have held : other ∈ client.subscriptions.map Subscription.filter ↔
        ∃ subscription ∈ client.subscriptions, subscription.filter = other := List.mem_map
    simp only [Option.map_some, Option.getD_some, Client.filters, Client.withFilter, status, reduceCtorEq, if_false,
      List.map_append, List.mem_append, List.mem_map, List.mem_filter, bne_iff_ne, ne_eq, List.map_cons, List.map_nil,
      List.mem_singleton]
    constructor
    · rintro (⟨subscription, ⟨hmem, -⟩, same⟩ | same)
      · exact .inr ⟨subscription, hmem, same⟩
      · exact .inl same
    · rintro (same | ⟨subscription, hmem, same⟩)
      · exact .inr same
      · by_cases again : subscription.filter = filter
        · exact .inr (same.symm.trans again)
        · exact .inl ⟨subscription, ⟨hmem, again⟩, same⟩
  · cases h

/-- A live connection wants what one of its filters accepts. -/
theorem any_filtersOf_of_isLive (live : broker.isLive connection) (topic : String) :
    (broker.filtersOf connection).any (fun filter ↦ Filter.accepts filter topic) =
      broker.clients[connection]?.any fun client ↦ client.wants topic := by
  obtain ⟨client, hclient, status⟩ := isLive_iff.1 live
  simp [filtersOf, hclient, Client.filters, status, Client.wants, Function.comp_def]

/-! ## Routing -/

/-- Whether some filter of a connection accepts the topic. -/
def wants (broker : Broker) (connection : ConnectionId) (topic : String) : Bool :=
  broker.clients[connection]?.any fun client ↦ client.wants topic

/-- A message is put once into the inbox of every live connection that wants it, however many filters do. -/
theorem inbox_route (broker : Broker) (message : Message) (retain : Bool) (connection : ConnectionId) :
    (broker.route message retain).inbox connection = broker.inbox connection ++
      if broker.isLive connection && broker.wants connection message.topic then [message] else [] := by
  unfold inbox route isLive wants
  rw [List.getElem?_map]
  cases broker.clients[connection]? with
  | none => rfl
  | some client =>
    by_cases concerned : client.status = .live ∧ client.wants message.topic
    · simp [Client.offer, concerned]
    · have unconcerned : (decide (client.status = .live) && client.wants message.topic) = false := by
        rw [not_and] at concerned
        cases hstatus : decide (client.status = .live) with
        | false => rfl
        | true => simpa using concerned (of_decide_eq_true hstatus)
      simp [Client.offer, concerned, unconcerned]

theorem isClosed_route (broker : Broker) (message : Message) (retain : Bool) (connection : ConnectionId) :
    (broker.route message retain).isClosed connection = broker.isClosed connection := by
  unfold isClosed route
  rw [List.getElem?_map]
  cases broker.clients[connection]? with
  | none => rfl
  | some client => simp [client.status_offer message]

theorem isLive_route (broker : Broker) (message : Message) (retain : Bool) (connection : ConnectionId) :
    (broker.route message retain).isLive connection = broker.isLive connection := by
  unfold isLive route
  rw [List.getElem?_map]
  cases broker.clients[connection]? with
  | none => rfl
  | some client => simp [client.status_offer message]

end Broker

/-! ## Media -/

namespace Medium

variable {medium : Medium} {transport : Transport} {connection : ConnectionId} {touched : ConnectionId → Prop}

/-- A subscription either fails and leaves the broker as it is, or the broker carries it out. -/
theorem subscribe_cases (medium : Medium) (transport : Transport) (connection : ConnectionId) (pattern : String)
    (qos : QoS) :
    (∃ error, (medium.subscribe transport connection pattern qos).2 = .error error ∧
      (medium.subscribe transport connection pattern qos).1.broker = medium.broker) ∨
    ((medium.subscribe transport connection pattern qos).2 = .ok () ∧
      medium.broker.subscribe connection pattern qos =
        .ok (medium.subscribe transport connection pattern qos).1.broker) := by
  simp only [subscribe, broker_record]
  cases (medium.record transport (.subscribe pattern qos)).subscribeFault transport pattern with
  | error error => exact .inl ⟨error, rfl, by simp [bind, Except.bind, settleRequest]⟩
  | ok =>
    cases hsubscribe : medium.broker.subscribe connection pattern qos with
    | error error => exact .inl ⟨.broker error, rfl, broker_record medium transport _⟩
    | ok broker => exact .inr ⟨rfl, rfl⟩

theorem grows_publish (medium : Medium) (transport : Transport) (connection : ConnectionId) (message : Message)
    (options : PublishOptions) :
    medium.broker.Grows touched (medium.publish transport connection message options).1.broker := by
  rcases medium.publish_cases transport connection message options with ⟨-, -, same⟩ | routed
  · exact .of_clients (by rw [same]) (by rw [same])
  · rw [routed]
    exact medium.broker.grows_route message options.retain

theorem grows_of_answerConnect {after : Medium} {options : BrokerOptions} {clientId : ClientId} {handle : ConnectionId}
    (touched : ConnectionId → Prop)
    (h : medium.answerConnect transport options clientId = .ok (after, handle)) :
    medium.broker.Grows touched after.broker ∧ handle = medium.broker.clients.length ∧
      after.broker.filtersOf handle = [] := by
  unfold answerConnect at h
  cases hfault : Script.fault (medium.scriptOf transport).connect with
  | error error => simp [hfault, bind, Except.bind] at h
  | ok =>
    cases hconnect : medium.broker.connect options clientId with
    | error error => simp [hfault, hconnect, bind, Except.bind] at h
    | ok found =>
      simp only [hfault, hconnect, bind, Except.bind] at h
      obtain ⟨rfl, rfl⟩ := Prod.mk.inj (Except.ok.inj h)
      exact Broker.grows_of_connect hconnect

end Medium

end PubSub
