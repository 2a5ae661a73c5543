import PubSub.Broker.History
import PubSub.Proofs.Broker.Growth
import Mathlib.Data.List.Induction
import Mathlib.Data.List.Nodup
/-!
# History and state

What an operation does to a broker, told for all operations alike: who is live, which filters are held, what is retained
and what comes into inboxes. One turn at a time it follows that the history tells all of this.
-/

namespace PubSub.Broker

variable {broker before after : Broker} {connection other : ConnectionId} {operation : Operation} {event : Event}
  {events : List Event} {topic : String}

/-! ## One more event -/

theorem accepted_append (events : List Event) (event : Event) :
    accepted (events ++ [event]) = accepted events + if event.accepts then 1 else 0 := by
  simp [accepted, List.countP_append, List.countP_singleton]

theorem liveAfter_append : LiveAfter (events ++ [event]) connection ↔
    (event.accepts ∧ connection = accepted events) ∨ (LiveAfter events connection ∧ event.ends connection = false) := by
  constructor
  · rintro ⟨before, found, after, split, accepts, rfl, lasting⟩
    rcases List.eq_nil_or_concat after with rfl | ⟨after, last, rfl⟩
    · obtain ⟨rfl, same⟩ := List.append_inj' split rfl
      obtain rfl : event = found := List.singleton_inj.1 same
      exact .inl ⟨accepts, rfl⟩
    · rw [List.concat_eq_append, ← List.cons_append, ← List.append_assoc] at split
      obtain ⟨rfl, same⟩ := List.append_inj' split rfl
      obtain rfl : event = last := List.singleton_inj.1 same
      refine .inr ⟨⟨before, found, after, rfl, accepts, rfl, fun later hmem ↦ ?_⟩, ?_⟩
      · exact lasting later (by simp [hmem])
      · exact lasting event (by simp)
  · rintro (⟨accepts, rfl⟩ | ⟨⟨before, found, after, rfl, accepts, rfl, lasting⟩, goes⟩)
    · exact ⟨events, event, [], rfl, accepts, rfl, nofun⟩
    · refine ⟨before, found, after ++ [event], by simp, accepts, rfl, fun later hmem ↦ ?_⟩
      rcases List.mem_append.1 hmem with hmem | hmem
      · exact lasting later hmem
      · rw [List.mem_singleton.1 hmem]
        exact goes

/-- A connection that is not live any more never becomes live again. -/
theorem liveAfter_of_append {more : List Event} (known : connection < accepted events)
    (live : LiveAfter (events ++ more) connection) : LiveAfter events connection := by
  induction more using List.reverseRecOn with
  | nil => simpa using live
  | append_singleton more event ih =>
    rw [← List.append_assoc, liveAfter_append] at live
    rcases live with ⟨-, rfl⟩ | ⟨live, -⟩
    · have le : accepted events ≤ accepted (events ++ more) := by simp [accepted, List.countP_append]
      exact absurd known (Nat.not_lt.2 le)
    · exact ih live

theorem holdsAfter_append {filter : String} : HoldsAfter (events ++ [event]) connection filter ↔
    HoldsAfter events connection filter ∨ ∃ qos, event = ⟨.subscribe connection filter qos, true⟩ := by
  simp [HoldsAfter, exists_or, eq_comm]

theorem retainedAfter_append (events : List Event) (event : Event) (topic : String) :
    retainedAfter (events ++ [event]) topic =
      match event.routed? with
      | some (message, true) =>
        if message.topic = topic then if message.payload.isEmpty then none else some message.payload
        else retainedAfter events topic
      | _ => retainedAfter events topic := by
  simp only [retainedAfter, List.filterMap_append, List.filter_append]
  cases routed : event.routed? with
  | none => simp [routed]
  | some found =>
    obtain ⟨message, retain⟩ := found
    cases retain with
    | false => simp [routed]
    | true =>
      by_cases same : message.topic = topic
      · simp [routed, same]
      · simp [routed, same]

/-! ## What operations do -/

/-- The filters of a connection, whatever has become of it. -/
def heldBy (broker : Broker) (connection : ConnectionId) : List String :=
  (broker.clients[connection]?.map fun client ↦ client.subscriptions.map Subscription.filter).getD []

theorem wants_eq_any (broker : Broker) (connection : ConnectionId) (topic : String) :
    broker.wants connection topic = (broker.heldBy connection).any fun filter ↦ Filter.accepts filter topic := by
  unfold wants heldBy
  cases broker.clients[connection]? with
  | none => rfl
  | some client => simp [Client.wants, Function.comp_def]

/-- The filters of a connection with their guarantees, whatever has become of it. -/
def subscriptionsOn (broker : Broker) (connection : ConnectionId) : List Subscription :=
  (broker.clients[connection]?.map Client.subscriptions).getD []

theorem heldBy_eq_map (broker : Broker) (connection : ConnectionId) :
    broker.heldBy connection = (broker.subscriptionsOn connection).map Subscription.filter := by
  rw [heldBy, subscriptionsOn]
  cases broker.clients[connection]? <;> rfl

theorem heldBy_congr (same : after.subscriptionsOn connection = before.subscriptionsOn connection) :
    after.heldBy connection = before.heldBy connection := by
  rw [heldBy_eq_map, heldBy_eq_map, same]

theorem subscriptionsOn_of_getElem? {client : Client} (h : broker.clients[connection]? = some client) :
    broker.subscriptionsOn connection = client.subscriptions := by
  rw [subscriptionsOn, h, Option.map_some, Option.getD_some]

theorem subscriptionsOn_map {change : Client → Client} (clients : after.clients = before.clients.map change)
    (same : ∀ client, (change client).subscriptions = client.subscriptions) (connection : ConnectionId) :
    after.subscriptionsOn connection = before.subscriptionsOn connection := by
  simp only [subscriptionsOn, clients, List.getElem?_map, Option.map_map, Function.comp_def, same]

theorem subscriptionsOn_modifyClient (broker : Broker) (connection other : ConnectionId) (change : Client → Client) :
    (broker.modifyClient connection change).subscriptionsOn other =
      if connection = other then (broker.clients[other]?.map fun client ↦ (change client).subscriptions).getD []
      else broker.subscriptionsOn other := by
  simp only [subscriptionsOn, clients_modifyClient]
  split
  · rw [Option.map_map, Function.comp_def]
  · rfl

/-- A change of one record that leaves its filters alone. -/
theorem subscriptionsOn_modifyClient_of_same {change : Client → Client}
    (same : ∀ client, (change client).subscriptions = client.subscriptions) (broker : Broker)
    (connection other : ConnectionId) :
    (broker.modifyClient connection change).subscriptionsOn other = broker.subscriptionsOn other := by
  rw [subscriptionsOn_modifyClient]
  simp only [same]
  split <;> rfl

theorem subscriptionsOn_route (broker : Broker) (message : Message) (retain : Bool) (connection : ConnectionId) :
    (broker.route message retain).subscriptionsOn connection = broker.subscriptionsOn connection := by
  refine subscriptionsOn_map rfl (fun client ↦ ?_) connection
  unfold Client.offer
  split <;> rfl

theorem subscriptionsOn_close (broker : Broker) (handle connection : ConnectionId) :
    (broker.close handle).subscriptionsOn connection = broker.subscriptionsOn connection := by
  apply subscriptionsOn_modifyClient_of_same
  exact fun _ ↦ rfl

theorem subscriptionsOn_silenceAll (broker : Broker) (connection : ConnectionId) :
    broker.silenceAll.subscriptionsOn connection = broker.subscriptionsOn connection := by
  refine subscriptionsOn_map rfl (fun client ↦ ?_) connection
  split <;> rfl

theorem subscriptionsOn_of_take? {taken : ConnectionId} {message : Message}
    (h : before.take? taken = some (message, after)) (connection : ConnectionId) :
    after.subscriptionsOn connection = before.subscriptionsOn connection := by
  obtain ⟨rest, -, rfl⟩ := take?_eq_some h
  apply subscriptionsOn_modifyClient_of_same
  exact fun _ ↦ rfl

/-- What an event puts into an inbox. -/
def chunk (broker : Broker) (connection : ConnectionId) (event : Event) : List Message :=
  match event with
  | ⟨.subscribe handle filter _, true⟩ =>
    if handle = connection then broker.retained.filter fun message ↦ Filter.accepts filter message.topic else []
  | event =>
    match event.routed? with
    | some (message, _) => if broker.isLive connection && broker.wants connection message.topic then [message] else []
    | none => []

/-- What comes from an event that is no subscription of the connection. -/
theorem chunk_of_ne (broker : Broker)
    (other : ∀ filter qos, event ≠ ⟨.subscribe connection filter qos, true⟩) :
    broker.chunk connection event =
      match event.routed? with
      | some (message, _) => if broker.isLive connection && broker.wants connection message.topic then [message] else []
      | none => [] := by
  unfold chunk
  split
  · rename_i handle filter qos
    by_cases same : handle = connection
    · subst same
      exact absurd rfl (other filter qos)
    · rw [if_neg same]
      rfl
  · rfl

/-- What an event makes of a broker. -/
structure Answers (before : Broker) (event : Event) (after : Broker) : Prop where
  length_eq : after.clients.length = before.clients.length + if event.accepts then 1 else 0
  isLive_iff : ∀ connection, after.isLive connection ↔
    (event.accepts ∧ connection = before.clients.length) ∨
      (before.isLive connection ∧ event.ends connection = false)
  mem_heldBy_iff : ∀ connection filter, filter ∈ after.heldBy connection ↔
    filter ∈ before.heldBy connection ∨ ∃ qos, event = ⟨.subscribe connection filter qos, true⟩
  retained : after.retained =
    match event.routed? with
    | some (message, true) => retain before.retained message
    | _ => before.retained
  inbox : ∀ connection, after.inbox connection = before.inbox connection ++ before.chunk connection event

/-- An event that neither accepts nor ends connections, and neither subscribes nor routes. -/
theorem answers_of_clients (clients : after.clients = before.clients) (retained : after.retained = before.retained)
    (accepts : event.accepts = false) (ends : ∀ connection, event.ends connection = false)
    (unrouted : event.routed? = none)
    (other : ∀ connection filter qos, event ≠ ⟨.subscribe connection filter qos, true⟩) :
    before.Answers event after where
  length_eq := by simp [clients, accepts]
  isLive_iff connection := by simp [isLive, clients, accepts, ends]
  mem_heldBy_iff connection filter := by simp [heldBy, clients, other]
  retained := by rw [retained, unrouted]
  inbox connection := by
    rw [before.chunk_of_ne (other connection), unrouted, List.append_nil, inbox, clients, inbox]

theorem getElem?_concat {α : Type} (items : List α) (item : α) (place : Nat) :
    (items ++ [item])[place]? = if place = items.length then some item else items[place]? := by
  rcases Nat.lt_trichotomy place items.length with lt | rfl | gt
  · rw [List.getElem?_append_left lt, if_neg (Nat.ne_of_lt lt)]
  · simp
  · rw [if_neg (Nat.ne_of_gt gt), List.getElem?_eq_none (by simp; omega), List.getElem?_eq_none (Nat.le_of_lt gt)]

theorem answers_connect {options : BrokerOptions} {clientId : ClientId}
    (h : before.connect options clientId = .ok (after, connection)) :
    before.Answers ⟨.connect options clientId, true⟩ after := by
  have accepts := accepts_of_connect h
  have done : after = { before with clients := before.clients ++ [⟨clientId, .live, [], []⟩] } := by
    unfold connect at h
    split at h
    · cases h
    · split at h
      · exact (Prod.mk.inj (Except.ok.inj h)).1.symm
      · cases h
  refine ⟨accepts.length_eq, fun other ↦ ?_, fun other filter ↦ ?_, by rw [done]; rfl, fun other ↦ ?_⟩
  · rw [accepts.isLive_iff, accepts.eq_length]
    simp [Event.accepts, Event.ends, or_comm]
  · simp only [heldBy, done, getElem?_concat]
    by_cases new : other = before.clients.length
    · simp [new]
    · simp [new]
  · simp only [inbox, done, getElem?_concat]
    by_cases new : other = before.clients.length
    · simp [new, chunk, Event.routed?]
    · simp [new, chunk, Event.routed?]

theorem isLive_modifyClient {change : Client → Client} (same : ∀ client, (change client).status = client.status)
    (broker : Broker) (connection other : ConnectionId) :
    (broker.modifyClient connection change).isLive other = broker.isLive other := by
  simp only [isLive, clients_modifyClient]
  split
  · cases broker.clients[other]? <;> simp [same]
  · rfl

theorem isLive_of_take? {message : Message} (taken : broker.take? connection = some (message, after))
    (other : ConnectionId) : after.isLive other = broker.isLive other := by
  rcases take?_eq_some taken with ⟨rest, -, rfl⟩
  apply isLive_modifyClient
  exact fun _ ↦ rfl

theorem heldBy_of_take? {message : Message} (taken : broker.take? connection = some (message, after))
    (other : ConnectionId) : after.heldBy other = broker.heldBy other :=
  heldBy_congr (subscriptionsOn_of_take? taken other)

/-- A live connection has the filters that the broker lists for it. -/
theorem heldBy_of_isLive (live : broker.isLive connection) :
    broker.heldBy connection = broker.filtersOf connection := by
  obtain ⟨client, hclient, status⟩ := isLive_iff.1 live
  simp [heldBy, filtersOf, hclient, Client.filters, status]

theorem answers_subscribe {filter : String} {qos : QoS} (h : before.subscribe connection filter qos = .ok after) :
    before.Answers ⟨.subscribe connection filter qos, true⟩ after := by
  have live : before.isLive connection := by
    unfold subscribe at h
    split at h
    · assumption
    · cases h
  obtain ⟨client, hclient, status⟩ := isLive_iff.1 live
  have done : after = before.modifyClient connection fun client ↦
      { client.withFilter filter qos with
        inbox := client.inbox ++ before.retained.filter fun message ↦ Filter.accepts filter message.topic } := by
    simp only [subscribe, live, if_true] at h
    exact (Except.ok.inj h).symm
  have isLive (other : ConnectionId) : after.isLive other = before.isLive other := by
    rw [done]
    apply isLive_modifyClient
    exact fun _ ↦ rfl
  refine ⟨by simp [done, Event.accepts, modifyClient], fun other ↦ ?_, fun other wanted ↦ ?_, by rw [done]; rfl,
    fun other ↦ ?_⟩
  · simp [isLive, Event.accepts, Event.ends]
  · by_cases same : connection = other
    · subst same
      rw [heldBy_of_isLive live, heldBy_of_isLive ((isLive connection).trans live), mem_filtersOf_of_subscribe h]
      simp [or_comm, eq_comm]
    · simp [done, heldBy, clients_modifyClient, same]
  · rw [done, inbox_modifyClient]
    by_cases same : connection = other
    · subst same
      simp [hclient, chunk, inbox]
    · simp [same, chunk]

theorem answers_route (broker : Broker) (message : Message) (retain : Bool)
    (routed : event.routed? = some (message, retain)) (accepts : event.accepts = false)
    (ends : ∀ connection, event.ends connection = false)
    (other : ∀ connection filter qos, event ≠ ⟨.subscribe connection filter qos, true⟩) :
    broker.Answers event (broker.route message retain) := by
  refine ⟨by simp [accepts, route], fun connection ↦ ?_, fun connection filter ↦ ?_, ?_, fun connection ↦ ?_⟩
  · simp [isLive_route, accepts, ends]
  · rw [heldBy_congr (broker.subscriptionsOn_route message retain connection)]
    simp [other]
  · rw [routed]
    cases retain <;> rfl
  · rw [broker.chunk_of_ne (other connection), routed, broker.inbox_route]

theorem answers_close (broker : Broker) (connection : ConnectionId) (accepts : event.accepts = false)
    (ends : ∀ other, event.ends other = decide (connection = other)) (unrouted : event.routed? = none)
    (other : ∀ connection filter qos, event ≠ ⟨.subscribe connection filter qos, true⟩) :
    broker.Answers event (broker.close connection) := by
  refine ⟨by simp [accepts, close, modifyClient], fun found ↦ ?_, fun found filter ↦ ?_, by rw [unrouted]; rfl,
    fun found ↦ ?_⟩
  · rw [isLive_close_iff, accepts, ends, decide_eq_false_iff_not, ne_comm]
    simp
  · rw [heldBy_congr (broker.subscriptionsOn_close connection found)]
    simp [other]
  · rw [broker.chunk_of_ne (other found), unrouted, List.append_nil, close, inbox_modifyClient]
    split
    · rw [inbox]
      cases broker.clients[found]? <;> rfl
    · rfl

theorem inbox_silenceAll (broker : Broker) (connection : ConnectionId) :
    broker.silenceAll.inbox connection = broker.inbox connection := by
  simp only [inbox, silenceAll, List.getElem?_map]
  cases broker.clients[connection]? with
  | none => rfl
  | some client =>
    simp only [Option.map_some]
    split <;> rfl

theorem answers_silenceAll (broker : Broker) : broker.Answers ⟨.silenceAll, true⟩ broker.silenceAll := by
  refine ⟨by simp [Event.accepts, silenceAll], fun connection ↦ ?_, fun connection filter ↦ ?_, rfl,
    fun connection ↦ ?_⟩
  · have silent : broker.silenceAll.isLive connection = false := by
      simp only [isLive, silenceAll, List.getElem?_map, Option.any_map, Option.any_eq_false]
      intro client _
      simp only [decide_eq_false_iff_not]
      split
      · simp
      · assumption
    simp [silent, Event.accepts, Event.ends]
  · rw [heldBy_congr (broker.subscriptionsOn_silenceAll connection)]
    simp
  · have other (filter : String) (qos : QoS) :
        Event.mk .silenceAll true ≠ ⟨.subscribe connection filter qos, true⟩ := by
      simp
    rw [broker.chunk_of_ne other, broker.inbox_silenceAll]
    exact (List.append_nil _).symm

/-! ## Every operation -/

/-- An operation that succeeds makes of the broker what its event says. -/
theorem answers_of_perform (h : before.perform operation = .ok after) : before.Answers ⟨operation, true⟩ after := by
  cases operation with
  | connect options clientId =>
    simp only [perform] at h
    cases connects : before.connect options clientId with
    | error error => simp [connects, Except.map] at h
    | ok accepted =>
      rw [connects] at h
      obtain rfl : accepted.1 = after := Except.ok.inj h
      exact answers_connect connects
  | subscribe handle filter qos => exact answers_subscribe h
  | publishOn handle message retain =>
    obtain rfl := eq_route_of_publish h
    exact before.answers_route message retain rfl rfl (fun _ ↦ rfl) nofun
  | publish message retain =>
    obtain rfl := Except.ok.inj h
    exact before.answers_route message retain rfl rfl (fun _ ↦ rfl) nofun
  | finish handle =>
    obtain rfl := Except.ok.inj h
    exact before.answers_close handle rfl (fun _ ↦ rfl) rfl nofun
  | drop handle =>
    obtain rfl := Except.ok.inj h
    exact before.answers_close handle rfl (fun _ ↦ rfl) rfl nofun
  | silenceAll =>
    obtain rfl := Except.ok.inj h
    exact before.answers_silenceAll
  | setAvailable available =>
    obtain rfl := Except.ok.inj h
    exact answers_of_clients rfl rfl rfl (fun _ ↦ rfl) rfl nofun
  | requireCredentials credentials =>
    obtain rfl := Except.ok.inj h
    exact answers_of_clients rfl rfl rfl (fun _ ↦ rfl) rfl nofun

/-- A refusal says nothing. -/
theorem answers_of_refused {error : BrokerError} (h : broker.perform operation = .error error) :
    broker.Answers ⟨operation, false⟩ broker := by
  cases operation with
  | connect options clientId => exact answers_of_clients rfl rfl rfl (fun _ ↦ rfl) rfl nofun
  | subscribe handle filter qos => exact answers_of_clients rfl rfl rfl (fun _ ↦ rfl) rfl nofun
  | publishOn handle message retain => exact answers_of_clients rfl rfl rfl (fun _ ↦ rfl) rfl nofun
  -- The other operations are not refused.
  | _ => cases h

/-! ## Retained messages -/

theorem retained?_retain (broker : Broker) (message : Message) (topic : String) :
    ({ broker with retained := retain broker.retained message } : Broker).retained? topic =
      if message.topic = topic then if message.payload.isEmpty then none else some message.payload
      else broker.retained? topic := by
  have others : (broker.retained.filter fun other ↦ other.topic != message.topic).find? (·.topic == topic) =
      if message.topic = topic then none else broker.retained.find? (·.topic == topic) := by
    rw [List.find?_filter]
    by_cases same : message.topic = topic
    · subst same
      simp
    · rw [if_neg same]
      congr 1
      funext other
      by_cases found : other.topic = topic
      · subst found
        simp [Ne.symm same]
      · simp [found]
  by_cases empty : message.payload.isEmpty
  · simp only [retained?, retain, empty, if_true, others]
    split <;> rfl
  · simp only [retained?, retain, empty, Bool.false_eq_true, if_false, List.find?_append, others]
    by_cases same : message.topic = topic
    · simp [same]
    · simp [same]

theorem mem_retained_iff (distinct : (broker.retained.map Message.topic).Nodup) (message : Message) :
    message ∈ broker.retained ↔ broker.retained? message.topic = some message.payload := by
  have unique (other : Message) (hother : other ∈ broker.retained) (hmem : message ∈ broker.retained)
      (same : other.topic = message.topic) : other = message :=
    List.inj_on_of_nodup_map distinct hother hmem same
  constructor
  · intro hmem
    obtain ⟨found, hfound⟩ : ∃ found, broker.retained.find? (·.topic == message.topic) = some found :=
      Option.isSome_iff_exists.1 (List.find?_isSome.2 ⟨message, hmem, by simp⟩)
    have same := unique found (List.mem_of_find?_eq_some hfound) hmem (by simpa using List.find?_some hfound)
    rw [retained?, hfound, same, Option.map_some]
  · intro hfound
    obtain ⟨found, hfind, payload⟩ := Option.map_eq_some_iff.1 hfound
    have topic : found.topic = message.topic := by simpa using List.find?_some hfind
    obtain rfl : found = message := by
      cases found
      cases message
      simp_all
    exact List.mem_of_find?_eq_some hfind

/-! ## What the events tell of the broker -/

/-- The state of the broker and all that was sent are what the events tell. -/
structure Account.Told (account : Account) : Prop where
  length_eq : account.broker.clients.length = accepted account.events
  isLive_iff : ∀ connection, account.broker.isLive connection ↔ LiveAfter account.events connection
  mem_heldBy_iff : ∀ connection filter,
    filter ∈ account.broker.heldBy connection ↔ HoldsAfter account.events connection filter
  distinct : (account.broker.retained.map Message.topic).Nodup
  retained : ∀ topic, account.broker.retained? topic = retainedAfter account.events topic
  sent : ∀ connection, Sent connection account.events (account.sentTo connection)

namespace Account

variable {account : Account}

theorem told_fresh : fresh.Told where
  length_eq := rfl
  isLive_iff connection := by
    refine ⟨nofun, ?_⟩
    rintro ⟨before, event, after, split, -⟩
    exact absurd split (by simp [fresh])
  mem_heldBy_iff connection filter := by simp [fresh, Broker.fresh, heldBy, HoldsAfter]
  distinct := List.nodup_nil
  retained _ := rfl
  sent _ := .start

/-- What is taken from an inbox was sent all the same. -/
theorem sentTo_take (account : Account) (connection other : ConnectionId) :
    (account.take connection).sentTo other = account.sentTo other := by
  unfold take
  cases h : account.broker.take? connection with
  | none => rfl
  | some found =>
    obtain ⟨message, after⟩ := found
    obtain ⟨-, inbox, others⟩ := inbox_of_take? h
    by_cases own : other = connection
    · subst own
      simp [sentTo, inbox]
    · simp [sentTo, own, others other (Ne.symm own)]

theorem events_turn (account : Account) (turn : Turn) :
    ∃ more, (account.turn turn).events = account.events ++ more ∧
      more.map Event.operation = turn.asked?.toList := by
  cases turn with
  | ask operation =>
    simp only [Account.turn, ask]
    cases account.broker.perform operation with
    | ok broker => exact ⟨[⟨operation, true⟩], rfl, rfl⟩
    | error error => exact ⟨[⟨operation, false⟩], rfl, rfl⟩
  | take connection =>
    refine ⟨[], ?_, rfl⟩
    simp only [Account.turn, take, List.append_nil]
    split <;> rfl

/-- The events are what was asked for, in that order. -/
theorem events_run (account : Account) (turns : List Turn) :
    ∃ more, (account.run turns).events = account.events ++ more ∧
      more.map Event.operation = turns.filterMap Turn.asked? := by
  induction turns generalizing account with
  | nil => exact ⟨[], (List.append_nil _).symm, rfl⟩
  | cons turn turns ih =>
    obtain ⟨first, hfirst, operation⟩ := account.events_turn turn
    obtain ⟨rest, hrest, operations⟩ := ih (account.turn turn)
    refine ⟨first ++ rest, ?_, ?_⟩
    · rw [← List.append_assoc, ← hfirst]
      exact hrest
    · rw [List.map_append, operation, operations, List.filterMap_cons]
      cases turn.asked? <;> rfl

namespace Told

theorem wants_iff (told : account.Told) (connection : ConnectionId) (topic : String) :
    (account.broker.isLive connection && account.broker.wants connection topic) ↔
      WantsAfter account.events connection topic := by
  rw [Bool.and_eq_true, told.isLive_iff, wants_eq_any, List.any_eq_true, WantsAfter]
  simp only [told.mem_heldBy_iff]

/-- What an event puts into an inbox is what the events before it tell. -/
theorem sends (told : account.Told) (connection : ConnectionId) (event : Event) :
    Sends account.events connection event (account.broker.chunk connection event) := by
  by_cases own : ∃ filter qos, event = ⟨.subscribe connection filter qos, true⟩
  · obtain ⟨filter, qos, rfl⟩ := own
    have chunk : account.broker.chunk connection ⟨.subscribe connection filter qos, true⟩ =
        account.broker.retained.filter fun message ↦ Filter.accepts filter message.topic := if_pos rfl
    rw [chunk]
    refine .retained ((told.distinct.of_map Message.topic).filter _) fun message ↦ ?_
    rw [List.mem_filter, mem_retained_iff told.distinct, told.retained]
  · have other (filter : String) (qos : QoS) : event ≠ ⟨.subscribe connection filter qos, true⟩ :=
      fun same ↦ own ⟨filter, qos, same⟩
    rw [account.broker.chunk_of_ne other]
    cases routed : event.routed? with
    | none => exact .nothing routed other
    | some found =>
      obtain ⟨message, retain⟩ := found
      by_cases concerned : account.broker.isLive connection && account.broker.wants connection message.topic
      · simp only [if_pos concerned]
        exact .copy routed ((told.wants_iff ..).1 concerned)
      · simp only [if_neg concerned]
        exact .pass routed fun wanted ↦ concerned ((told.wants_iff ..).2 wanted)

/-- One more event, and what it makes of the broker. -/
theorem append (told : account.Told) {event : Event} {after : Broker} (answers : account.broker.Answers event after) :
    Told { account with broker := after, events := account.events ++ [event] } where
  length_eq := by rw [answers.length_eq, accepted_append, told.length_eq]
  isLive_iff connection := by
    rw [answers.isLive_iff, liveAfter_append, told.length_eq, told.isLive_iff]
  mem_heldBy_iff connection filter := by
    rw [answers.mem_heldBy_iff, holdsAfter_append, told.mem_heldBy_iff]
  distinct := by
    simp only [answers.retained]
    split
    · exact nodup_retain told.distinct _
    · exact told.distinct
  retained topic := by
    rw [retainedAfter_append, ← told.retained]
    have same {first second : Broker} (h : first.retained = second.retained) :
        first.retained? topic = second.retained? topic := by rw [retained?, h, retained?]
    split
    · rename_i message routed
      rw [← retained?_retain]
      apply same
      simp only [answers.retained, routed]
    · apply same
      rw [answers.retained]
      split
      · simp_all
      · rfl
  sent connection := by
    rw [sentTo, answers.inbox, ← List.append_assoc]
    exact .next (told.sent connection) (told.sends connection event)

theorem ask (told : account.Told) (operation : Operation) : (account.ask operation).Told := by
  unfold Account.ask
  cases h : account.broker.perform operation with
  | ok after => exact told.append (answers_of_perform h)
  | error error => exact told.append (answers_of_refused h)

/-- Taking a message from an inbox changes neither the connections nor what was sent. -/
theorem take (told : account.Told) (connection : ConnectionId) : (account.take connection).Told := by
  have sent (other : ConnectionId) : Sent other account.events ((account.take connection).sentTo other) :=
    account.sentTo_take connection other ▸ told.sent other
  cases h : account.broker.take? connection with
  | none => simpa only [Account.take, h] using told
  | some found =>
    obtain ⟨message, after⟩ := found
    simp only [Account.take, h] at sent ⊢
    have retained : after.retained = account.broker.retained := by
      obtain ⟨rest, -, rfl⟩ := take?_eq_some h
      rfl
    refine ⟨?_, fun other ↦ ?_, fun other filter ↦ ?_, ?_, fun topic ↦ ?_, sent⟩
    · rw [← told.length_eq]
      exact (fades_of_take? h).length_eq
    · rw [← told.isLive_iff, isLive_of_take? h]
    · rw [← told.mem_heldBy_iff, heldBy_of_take? h]
    · rw [retained]
      exact told.distinct
    · rw [← told.retained, retained?, retained, retained?]

theorem turn (told : account.Told) (turn : Turn) : (account.turn turn).Told := by
  cases turn with
  | ask operation => exact told.ask operation
  | take connection => exact told.take connection

theorem run (told : account.Told) (turns : List Turn) : (account.run turns).Told := by
  induction turns generalizing account with
  | nil => exact told
  | cons turn turns ih => exact ih (told.turn turn)

end Told

end Account

end PubSub.Broker
