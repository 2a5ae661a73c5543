import PubSub.Broker.Tables
import PubSub.Proofs.Broker.History
/-!
# The tables and the history of a broker

The tables of a broker never disagree: whatever is asked of them, they do and refuse what the broker does and refuses,
so no handle is live whose client is not registered. With what the history tells of the broker this gives the law of
its runs, of what topics retain, of what each connection is sent, and of the handles that are live and those that are
not any more.
-/

namespace PubSub.Broker

variable {broker after : Broker} {connection : ConnectionId} {operation : Operation} {account : Account}

/-! ## The tables that belong to a broker -/

/-- The table entry of a client, which is gone once the broker has forgotten it. -/
def entryOf? (client : Client) : Option Entry :=
  if client.status = .closed then none else some ⟨client.clientId, client.subscriptions⟩

/-- The tables that show what the broker holds. -/
def tables (broker : Broker) : Tables where
  entries connection := broker.clients[connection]?.bind entryOf?
  live := broker.isLive
  inboxes := broker.inbox
  next := broker.clients.length
  retained := broker.retained
  credentials := broker.credentials
  available := broker.available
  published := broker.published

theorem entries_tables (broker : Broker) (connection : ConnectionId) :
    broker.tables.entries connection = broker.clients[connection]?.bind entryOf? := rfl

theorem live_tables (broker : Broker) : broker.tables.live = broker.isLive := rfl

theorem inboxes_tables (broker : Broker) : broker.tables.inboxes = broker.inbox := rfl

/-- A live handle is registered. -/
theorem entries_of_isLive (live : broker.isLive connection) :
    ∃ client, broker.clients[connection]? = some client ∧ client.status = .live ∧
      broker.tables.entries connection = some ⟨client.clientId, client.subscriptions⟩ := by
  obtain ⟨client, hclient, status⟩ := isLive_iff.1 live
  refine ⟨client, hclient, status, ?_⟩
  simp [entries_tables, hclient, entryOf?, status]

theorem put_self {α : Type} (table : ConnectionId → α) (connection : ConnectionId) :
    Tables.put table connection (table connection) = table := by
  funext other
  by_cases same : other = connection
  · rw [Tables.put, if_pos same, same]
  · rw [Tables.put, if_neg same]

/-- A record that is changed shows in its own places only. -/
theorem tables_modifyClient (broker : Broker) (connection : ConnectionId) (change : Client → Client) :
    (broker.modifyClient connection change).tables =
      let changed := broker.clients[connection]?.map change
      { broker.tables with
        entries := Tables.put broker.tables.entries connection (changed.bind entryOf?)
        live := Tables.put broker.tables.live connection (changed.any fun client ↦ client.status = .live)
        inboxes := Tables.put broker.tables.inboxes connection ((changed.map Client.inbox).getD []) } := by
  have place (other : ConnectionId) : (broker.modifyClient connection change).clients[other]? =
      if other = connection then broker.clients[connection]?.map change else broker.clients[other]? := by
    rw [clients_modifyClient]
    by_cases same : other = connection
    · rw [if_pos same.symm, if_pos same, same]
    · rw [if_neg (Ne.symm same), if_neg same]
  apply Tables.ext
  · funext other
    simp only [entries_tables, place, Tables.put]
    split <;> rfl
  · funext other
    simp only [tables, isLive, place, Tables.put]
    split <;> rfl
  · funext other
    simp only [tables, inbox, place, Tables.put]
    split <;> rfl
  · simp [tables, modifyClient]
  · rfl
  · rfl
  · rfl
  · rfl

/-! ## Operations on tables -/

theorem tables_connect (broker : Broker) (options : BrokerOptions) (clientId : ClientId) :
    broker.tables.connect options clientId =
      ((broker.connect options clientId).map fun accepted ↦ accepted.1.tables).mapError TableError.broker := by
  have accepted : ({ broker with clients := broker.clients ++ [⟨clientId, .live, [], []⟩] } : Broker).tables =
      { broker.tables with
        entries := Tables.put broker.tables.entries broker.clients.length (some ⟨clientId, []⟩)
        live := Tables.put broker.tables.live broker.clients.length true
        inboxes := Tables.put broker.tables.inboxes broker.clients.length []
        next := broker.clients.length + 1 } := by
    apply Tables.ext
    · funext other
      simp only [entries_tables, getElem?_concat, Tables.put]
      split <;> rfl
    · funext other
      simp only [tables, isLive, getElem?_concat, Tables.put]
      split <;> rfl
    · funext other
      simp only [tables, inbox, getElem?_concat, Tables.put]
      split <;> rfl
    · simp [tables]
    · rfl
    · rfl
    · rfl
    · rfl
  unfold connect Tables.connect
  by_cases away : !broker.available
  · have said : !broker.tables.available := away
    rw [if_pos away, if_pos said]
    rfl
  · have said : ¬(!broker.tables.available) = true := away
    rw [if_neg away, if_neg said]
    by_cases right : broker.credentials.all fun wanted ↦ wanted == ⟨options.username, options.password⟩
    · have said : broker.tables.credentials.all fun wanted ↦ wanted == ⟨options.username, options.password⟩ := right
      rw [if_pos right, if_pos said]
      exact congrArg Except.ok accepted.symm
    · have said : ¬(broker.tables.credentials.all fun wanted ↦
          wanted == ⟨options.username, options.password⟩) = true := right
      rw [if_neg right, if_neg said]
      rfl

theorem tables_subscribe (broker : Broker) (connection : ConnectionId) (filter : String) (qos : QoS) :
    broker.tables.subscribe connection filter qos =
      ((broker.subscribe connection filter qos).map tables).mapError TableError.broker := by
  unfold subscribe Tables.subscribe
  by_cases live : broker.isLive connection
  · obtain ⟨client, hclient, status, entry⟩ := entries_of_isLive live
    have said : broker.tables.live connection := live
    rw [if_pos live, if_pos said, entry]
    apply congrArg Except.ok
    have unmoved : broker.tables.live = Tables.put broker.tables.live connection true := by
      rw [← live, ← live_tables, put_self]
    have inbox : broker.tables.inboxes connection = client.inbox := by
      simp [inboxes_tables, Broker.inbox, hclient]
    rw [tables_modifyClient, hclient, inbox]
    have retained : broker.tables.retained = broker.retained := rfl
    simpa [entryOf?, Client.withFilter, status, retained] using unmoved
  · have said : ¬broker.tables.live connection := live
    rw [if_neg live, if_neg said]
    rfl

theorem tables_route (broker : Broker) (message : Message) (retain : Bool) :
    (broker.route message retain).tables = broker.tables.route message retain := by
  have entryOf?_offer (client : Client) : entryOf? (client.offer message) = entryOf? client := by
    unfold Client.offer
    split <;> rfl
  apply Tables.ext
  · funext connection
    simp only [entries_tables, Tables.route, route, List.getElem?_map]
    cases broker.clients[connection]? with
    | none => rfl
    | some client => exact entryOf?_offer client
  · funext connection
    exact broker.isLive_route message retain connection
  · funext connection
    rw [inboxes_tables, inbox_route]
    by_cases live : broker.isLive connection
    · obtain ⟨client, hclient, -, entry⟩ := entries_of_isLive live
      have wanted : broker.wants connection message.topic =
          Entry.wants ⟨client.clientId, client.subscriptions⟩ message.topic := by
        simp [wants, hclient, Client.wants, Entry.wants]
      simp only [Tables.route, entry, live_tables, inboxes_tables, live, Bool.true_and, wanted]
      split
      · rfl
      · exact List.append_nil _
    · have silent : broker.isLive connection = false := by simpa using live
      simp only [Tables.route, live_tables, inboxes_tables, silent, Bool.false_and, Bool.false_eq_true, if_false,
        List.append_nil]
      split <;> rfl
  · simp [tables, route, Tables.route]
  · rfl
  · rfl
  · rfl
  · rfl

theorem tables_close (broker : Broker) (connection : ConnectionId) :
    (broker.close connection).tables = broker.tables.close connection := by
  have unmoved : broker.tables.inboxes =
      Tables.put broker.tables.inboxes connection (broker.inbox connection) := by
    rw [← inboxes_tables, put_self]
  rw [close, tables_modifyClient, Tables.close]
  rw [Broker.inbox] at unmoved
  cases hclient : broker.clients[connection]? with
  | none => simpa [hclient] using unmoved.symm
  | some client => simpa [hclient, entryOf?] using unmoved.symm

theorem tables_silenceAll (broker : Broker) : broker.silenceAll.tables = broker.tables.silenceAll := by
  have answers := broker.answers_silenceAll
  apply Tables.ext
  · funext connection
    simp only [entries_tables, Tables.silenceAll, silenceAll, List.getElem?_map]
    cases broker.clients[connection]? with
    | none => rfl
    | some client =>
      by_cases live : client.status = .live
      · simp [entryOf?, live]
      · simp [live]
  · funext connection
    have silent : broker.silenceAll.isLive connection = false := by
      simpa [Event.accepts, Event.ends] using answers.isLive_iff connection
    rw [live_tables, silent, Tables.silenceAll, live_tables]
    by_cases live : broker.isLive connection
    · obtain ⟨client, -, -, entry⟩ := entries_of_isLive live
      simp [entry]
    · simp [live]
  · funext connection
    exact broker.inbox_silenceAll connection
  · simp [tables, silenceAll, Tables.silenceAll]
  all_goals rfl

/-- The tables do and refuse what the broker does and refuses. In particular none of their handles is unknown. -/
theorem tables_perform (broker : Broker) (operation : Operation) :
    broker.tables.perform operation = ((broker.perform operation).map tables).mapError TableError.broker := by
  cases operation with
  | connect options clientId =>
    simp only [Tables.perform, perform, tables_connect]
    cases broker.connect options clientId <;> rfl
  | subscribe handle filter qos => exact broker.tables_subscribe handle filter qos
  | publishOn handle message retain =>
    simp only [Tables.perform, perform, publish, ← tables_route]
    by_cases live : broker.isLive handle
    · have said : broker.tables.live handle := live
      rw [if_pos live, if_pos said]
      rfl
    · have said : ¬broker.tables.live handle := live
      rw [if_neg live, if_neg said]
      rfl
  | publish message retain => exact congrArg Except.ok (broker.tables_route message retain).symm
  | finish handle => exact congrArg Except.ok (broker.tables_close handle).symm
  | drop handle => exact congrArg Except.ok (broker.tables_close handle).symm
  | silenceAll => exact congrArg Except.ok broker.tables_silenceAll.symm
  | setAvailable available => rfl
  | requireCredentials credentials => rfl

theorem tables_ask (account : Account) (operation : Operation) :
    (account.ask operation).broker.tables = account.broker.tables.turn (.ask operation) := by
  simp only [Account.ask, Tables.turn, tables_perform]
  cases account.broker.perform operation <;> rfl

theorem tables_take (account : Account) (connection : ConnectionId) :
    (account.take connection).broker.tables = account.broker.tables.turn (.take connection) := by
  simp only [Account.take, Tables.turn, inboxes_tables]
  cases h : account.broker.take? connection with
  | none =>
    have unmoved := put_self account.broker.tables.inboxes connection
    simp only [inboxes_tables, inbox_eq_nil_of_take? h] at unmoved ⊢
    rw [List.tail_nil, unmoved]
    rfl
  | some found =>
    obtain ⟨message, after⟩ := found
    obtain ⟨rest, inbox, rfl⟩ := take?_eq_some h
    obtain ⟨client, hclient⟩ : ∃ client, account.broker.clients[connection]? = some client :=
      ⟨_, List.getElem?_eq_getElem (inbox_of_take? h).1⟩
    have entries := put_self account.broker.tables.entries connection
    have live := put_self account.broker.tables.live connection
    simp only [entries_tables, live_tables, isLive, hclient] at entries live
    simp only [tables_modifyClient, hclient, inbox]
    simp only [Option.map_some, Option.bind_some, entryOf?, Option.any_some, Option.getD_some, List.tail_cons]
      at entries live ⊢
    rw [live_tables, live, entries]
    rfl

theorem tables_turn (account : Account) (turn : Turn) :
    (account.turn turn).broker.tables = account.broker.tables.turn turn := by
  cases turn with
  | ask operation => exact tables_ask account operation
  | take connection => exact tables_take account connection

theorem tables_run (account : Account) (turns : List Turn) :
    (account.run turns).broker.tables = account.broker.tables.run turns := by
  induction turns generalizing account with
  | nil => rfl
  | cons turn turns ih =>
    have first := tables_turn account turn
    have rest := ih (account.turn turn)
    rw [first] at rest
    exact rest

/-! ## The law of runs -/

/-- A request on a handle is granted just if the handle is live. -/
theorem perform_request (broker : Broker) (requested : operation.requester? = some connection) :
    (broker.isLive connection → ∃ after, broker.perform operation = .ok after) ∧
      (¬broker.isLive connection → broker.perform operation = .error (.notLive connection)) := by
  cases operation with
  | subscribe handle filter qos =>
    obtain rfl := Option.some.inj requested
    exact ⟨fun live ↦ ⟨_, if_pos live⟩, fun dead ↦ if_neg dead⟩
  | publishOn handle message retain =>
    obtain rfl := Option.some.inj requested
    exact ⟨fun live ↦ ⟨_, if_pos live⟩, fun dead ↦ if_neg dead⟩
  | _ => cases requested

/-- What holds at any time of a run, of the broker and of its tables. -/
structure Account.Lawful (account : Account) (tables : Tables) : Prop where
  /-- The tables show what the broker holds. -/
  tables_eq : account.broker.tables = tables
  retained : ∀ topic, account.broker.retained? topic = retainedAfter account.events topic
  /-- What was taken from an inbox and what waits there is what the events sent, and nothing else. -/
  sent : ∀ connection, Sent connection account.events (account.sentTo connection)
  live_iff : ∀ connection, tables.live connection ↔ LiveAfter account.events connection
  registered : ∀ connection, tables.live connection → ∃ entry, tables.entries connection = some entry
  granted : ∀ connection operation, operation.requester? = some connection → tables.live connection →
    ∃ after, tables.perform operation = .ok after
  /-- Requests on a handle that is not live fail and have no effect. -/
  refused : ∀ connection operation, operation.requester? = some connection → ¬tables.live connection →
    tables.perform operation = .error (.broker (.notLive connection)) ∧ tables.turn (.ask operation) = tables ∧
      account.ask operation = { account with events := account.events ++ [⟨operation, false⟩] }
  /-- A connection that was accepted and is not live any more is not live at any later time. -/
  buried : ∀ connection < accepted account.events, ¬tables.live connection →
    ∀ turns, ¬(tables.run turns).live connection

theorem Account.Told.lawful (told : account.Told) : account.Lawful account.broker.tables where
  tables_eq := rfl
  retained := told.retained
  sent := told.sent
  live_iff := told.isLive_iff
  registered connection live := by
    obtain ⟨client, -, -, entry⟩ := entries_of_isLive live
    exact ⟨_, entry⟩
  granted connection operation requested live := by
    obtain ⟨after, done⟩ := (account.broker.perform_request requested).1 live
    rw [tables_perform, done]
    exact ⟨_, rfl⟩
  refused connection operation requested dead := by
    have refused := (account.broker.perform_request requested).2 dead
    have error : account.broker.tables.perform operation = .error (.broker (.notLive connection)) := by
      rw [tables_perform, refused]
      rfl
    refine ⟨error, ?_, ?_⟩
    · rw [Tables.turn, error]
    · rw [Account.ask, refused]
  buried connection known dead turns live := by
    obtain ⟨more, events, -⟩ := account.events_run turns
    rw [← tables_run] at live
    have later : LiveAfter (account.events ++ more) connection :=
      events ▸ ((told.run turns).isLive_iff connection).1 live
    exact dead ((told.isLive_iff connection).2 (liveAfter_of_append known later))

/-- Whatever is asked of a fresh broker, one thing after the other, the law holds of what comes of it. -/
theorem Account.lawful_run (turns : List Turn) :
    (Account.fresh.run turns).events.map Event.operation = turns.filterMap Turn.asked? ∧
      (Account.fresh.run turns).Lawful (Tables.fresh.run turns) := by
  obtain ⟨events, hevents, operations⟩ := Account.fresh.events_run turns
  have tables : (Account.fresh.run turns).broker.tables = Tables.fresh.run turns := tables_run Account.fresh turns
  refine ⟨?_, ?_⟩
  · rw [hevents]
    exact operations
  · rw [← tables]
    exact (Account.told_fresh.run turns).lawful

end PubSub.Broker
