import PubSub.Proofs.Agent.Standing
import PubSub.Proofs.Topic.Acceptance
/-!
# What the operations of an agent come to

The outcomes of each operation of an agent, with what is left of the agent and of the broker. From these follows what
an agent can do to others: it adds to inboxes, it changes no filters but those of the connection that it holds, it
starts no dispatcher but on a connection that is new, and a tuned agent stays tuned.
-/

namespace PubSub

namespace Agent

variable {medium : Medium} {agent : Agent}

/-! ## Outcomes -/

theorem createSender_cases {name : String} {kind : PayloadKind} {options : ChannelOptions} {after : Medium}
    {changed : Agent} {place : Nat} (h : agent.createSender medium name kind options = .ok (after, changed, place)) :
    after.broker = medium.broker ∧ ∃ senders, changed = { agent with senders } := by
  unfold createSender at h
  cases hname : validChannelName name with
  | error error => simp [hname, bind, Except.bind] at h
  | ok =>
    cases hexisting : existing name kind options
        (agent.senders.map fun sender ↦ (sender.definition.name, sender.kind)) with
    | error error => simp [hname, hexisting, bind, Except.bind] at h
    | ok found =>
      simp only [hname, hexisting, bind, Except.bind] at h
      split at h
      · obtain ⟨rfl, rfl, -⟩ := by simpa using Except.ok.inj h
        exact ⟨rfl, agent.senders, rfl⟩
      · split at h
        · cases h
        · split at h
          · cases h
          · obtain ⟨rfl, rfl, -⟩ := by simpa using Except.ok.inj h
            exact ⟨rfl, _, rfl⟩

/-- A new receiver has a pattern that was accepted, and is not subscribed. -/
theorem tuning_of_newReceiver {name : String} {kind : PayloadKind} {options : ChannelOptions} {receiver : Receiver}
    (h : agent.newReceiver name kind options = .ok receiver) :
    receiver.tuning.Parsed ∧ receiver.subscribed = false := by
  have build (topic : Except Error String) (h : (do
      let topic ← topic
      let pattern ← TopicPattern.parse topic
      pure ⟨⟨name, topic, .receiver⟩, kind, pattern, options.qos.getD agent.defaults.qos, false, []⟩) =
        Except.ok receiver) : receiver.tuning.Parsed ∧ receiver.subscribed = false := by
    cases topic with
    | error error => cases h
    | ok topic =>
      cases hparse : TopicPattern.parse topic with
      | error error => simp [hparse, bind, Except.bind] at h
      | ok pattern =>
        simp only [hparse, bind, Except.bind] at h
        rw [← Except.ok.inj h]
        refine ⟨?_, rfl⟩
        unfold Tuning.Parsed Tuning.filter Receiver.tuning
        rw [(TopicPattern.parse_eq_ok hparse).1]
        exact hparse
  unfold newReceiver at h
  split at h
  · exact build (.ok _) h
  · exact build _ h

/-- A receiver is found, or a new one is added: left to be subscribed later, or subscribed at once. -/
theorem createReceiver_cases {name : String} {kind : PayloadKind} {options : ChannelOptions} {after : Medium}
    {changed : Agent} {place : Nat} (h : agent.createReceiver medium name kind options = .ok (after, changed, place)) :
    (after.broker = medium.broker ∧ changed = agent) ∨
    ∃ receiver, receiver.tuning.Parsed ∧ receiver.subscribed = false ∧
      ((after.broker = medium.broker ∧ changed = { agent with receivers := agent.receivers ++ [receiver] }) ∨
        (after.broker = (agent.subscribe medium receiver).1.broker ∧
          changed = { agent with receivers := agent.receivers ++ [(agent.subscribe medium receiver).2.1] })) := by
  unfold createReceiver at h
  cases hname : validChannelName name with
  | error error => simp [hname, bind, Except.bind] at h
  | ok =>
    cases hexisting : existing name kind options
        (agent.receivers.map fun receiver ↦ (receiver.definition.name, receiver.kind)) with
    | error error => simp [hname, hexisting, bind, Except.bind] at h
    | ok found =>
      simp only [hname, hexisting, bind, Except.bind] at h
      split at h
      · obtain ⟨rfl, rfl, -⟩ := by simpa using Except.ok.inj h
        exact .inl ⟨rfl, rfl⟩
      · split at h
        · cases h
        · cases hnew : agent.newReceiver name kind options with
          | error error => simp [hnew] at h
          | ok receiver =>
            simp only [hnew] at h
            obtain ⟨rfl, rfl, -⟩ := by simpa using Except.ok.inj h
            obtain ⟨parsed, off⟩ := tuning_of_newReceiver hnew
            refine .inr ⟨receiver, parsed, off, ?_⟩
            split
            · refine .inr ⟨?_, rfl⟩
              split <;> rfl
            · exact .inl ⟨rfl, rfl⟩

/-- A connect that has its answer fails, or comes too late, or takes the new connection with a new dispatcher. -/
theorem completeConnect_cases (medium : Medium) (agent : Agent) (pending : Pending) :
    ((agent.completeConnect medium pending).1.broker = medium.broker ∧
      (agent.completeConnect medium pending).2.1 =
        { agent with connection := agent.connection.reject pending.generation } ∧
      (agent.completeConnect medium pending).2.2.isOk = false) ∨
    ∃ answered handle, medium.answerConnect agent.transport pending.options agent.clientId = .ok (answered, handle) ∧
      ((agent.connection.isCurrent pending.generation = false ∧
          (agent.completeConnect medium pending).1.broker = answered.broker.close handle ∧
          (agent.completeConnect medium pending).2.1 = agent ∧
          (agent.completeConnect medium pending).2.2.isOk = false) ∨
        (agent.connection.isCurrent pending.generation = true ∧
          let started : Agent := { agent with
            connection := { agent.connection with state := .connected, handle := some handle }
            dispatcher := some ⟨handle, .busy⟩ }
          agent.completeConnect medium pending = ((started.subscribeEach answered agent.receivers).1,
            { started with receivers := (started.subscribeEach answered agent.receivers).2 }, .ok ()))) := by
  unfold completeConnect
  cases hanswer : medium.answerConnect agent.transport pending.options agent.clientId with
  | error error => exact .inl ⟨rfl, rfl, rfl⟩
  | ok answer =>
    obtain ⟨answered, handle⟩ := answer
    refine .inr ⟨answered, handle, rfl, ?_⟩
    cases current : agent.connection.isCurrent pending.generation with
    | false =>
      refine .inl ⟨rfl, ?_, ?_, ?_⟩
      · simp [Connection.accept?, current]
      · simp [Connection.accept?, current]
      · simp only [Connection.accept?, current]
        rfl
    | true =>
      refine .inr ⟨rfl, ?_⟩
      simp only [Connection.accept?, current, if_true]
      rfl

/-- A connect is refused and changes nothing, or it begins and has its answer at once. -/
theorem connect_cases (medium : Medium) (agent : Agent) (overrides : BrokerOverrides) :
    ((agent.connect medium overrides).1 = medium ∧ (agent.connect medium overrides).2.1 = agent ∧
      (agent.connect medium overrides).2.2.isOk = false) ∨
    ∃ asked begun pending, agent.beginConnect medium overrides = .ok (asked, begun, pending) ∧
      agent.connect medium overrides = begun.completeConnect asked pending := by
  unfold connect
  cases agent.beginConnect medium overrides with
  | error error => exact .inl ⟨rfl, rfl, rfl⟩
  | ok found => exact .inr ⟨found.1, found.2.1, found.2.2, rfl, rfl⟩

/-- Disconnecting closes the handle that is held and leaves an agent without connection and dispatcher, and without
subscribed receivers. -/
theorem disconnect_eq (medium : Medium) (agent : Agent) :
    (agent.disconnect medium).1.broker = (agent.connection.handle.map medium.broker.close).getD medium.broker ∧
    (agent.disconnect medium).2 = { agent with
      connection := ⟨.initialised, none, agent.connection.generation + 1⟩
      dispatcher := none
      receivers := agent.receivers.map fun receiver ↦ { receiver with subscribed := false } } := by
  unfold disconnect release Connection.release
  cases agent.connection.handle with
  | none => exact ⟨rfl, rfl⟩
  | some handle =>
    refine ⟨?_, rfl⟩
    simp only
    split <;> simp

/-! ## What connecting and disconnecting leave alone -/

/-- Whether an agent has become another one only by its connection, its dispatcher and the marks of its receivers. -/
def Framed (agent later : Agent) : Prop :=
  ∃ connection dispatcher receivers, later = { agent with connection, dispatcher, receivers } ∧
    ∀ {α : Type} {seen : Receiver → α}, Receiver.IgnoresMark seen → receivers.map seen = agent.receivers.map seen

namespace Framed

variable {middle later : Agent}

theorem refl (agent : Agent) : agent.Framed agent :=
  ⟨agent.connection, agent.dispatcher, agent.receivers, rfl, fun _ ↦ rfl⟩

theorem trans (first : agent.Framed middle) (second : middle.Framed later) : agent.Framed later := by
  obtain ⟨_, _, _, rfl, marked⟩ := first
  obtain ⟨connection, dispatcher, receivers, rfl, remarked⟩ := second
  exact ⟨connection, dispatcher, receivers, rfl, fun ignores ↦ (remarked ignores).trans (marked ignores)⟩

theorem map_eq (framed : agent.Framed later) {α : Type} {seen : Receiver → α} (ignores : Receiver.IgnoresMark seen) :
    later.receivers.map seen = agent.receivers.map seen := by
  obtain ⟨connection, dispatcher, receivers, rfl, marked⟩ := framed
  exact marked ignores

theorem held_eq (framed : agent.Framed later) : later.held = agent.held := by
  obtain ⟨connection, dispatcher, receivers, rfl, -⟩ := framed
  rfl

end Framed

theorem framed_of_beginConnect {overrides : BrokerOverrides} {after : Medium} {begun : Agent} {pending : Pending}
    (h : agent.beginConnect medium overrides = .ok (after, begun, pending)) : agent.Framed begun := by
  rw [(beginConnect_eq_ok h).1]
  exact ⟨_, agent.dispatcher, agent.receivers, rfl, fun _ ↦ rfl⟩

theorem framed_completeConnect (medium : Medium) (agent : Agent) (pending : Pending) :
    agent.Framed (agent.completeConnect medium pending).2.1 := by
  rcases completeConnect_cases medium agent pending with
    ⟨-, changed, -⟩ | ⟨answered, handle, -, ⟨-, -, changed, -⟩ | ⟨-, done⟩⟩
  · exact ⟨_, agent.dispatcher, agent.receivers, changed, fun _ ↦ rfl⟩
  · rw [changed]
    exact .refl agent
  · rw [done]
    exact ⟨_, _, _, rfl, fun ignores ↦ map_seen_subscribeEach ignores _ answered agent.receivers⟩

theorem framed_connect (medium : Medium) (agent : Agent) (overrides : BrokerOverrides) :
    agent.Framed (agent.connect medium overrides).2.1 := by
  rcases connect_cases medium agent overrides with ⟨-, same, -⟩ | ⟨asked, begun, pending, began, done⟩
  · rw [same]
    exact .refl agent
  · rw [done]
    exact (framed_of_beginConnect began).trans (framed_completeConnect asked begun pending)

theorem framed_disconnect (medium : Medium) (agent : Agent) : agent.Framed (agent.disconnect medium).2 := by
  rw [(disconnect_eq medium agent).2]
  refine ⟨_, _, _, rfl, fun {α seen} ignores ↦ ?_⟩
  rw [List.map_map]
  exact List.map_congr_left fun receiver _ ↦ ignores receiver false

theorem callbacks_subscribe (medium : Medium) (agent : Agent) (receiver : Receiver) :
    (agent.subscribe medium receiver).2.1.callbacks = receiver.callbacks :=
  seen_subscribe (fun _ _ ↦ rfl) medium agent receiver

end Agent

/-! ## What an agent does to others -/

/-- From an agent on one broker to the same agent on a later one. -/
structure Standing.Advances (before : Broker) (old : Standing) (after : Broker) (new : Standing) : Prop where
  grows : before.Grows (fun connection ↦ old.connection.handle = some connection) after
  dispatcher : ∀ dispatcher, new.dispatcher = some dispatcher →
    old.dispatcher = some dispatcher ∨ before.clients.length ≤ dispatcher.source ∧ dispatcher.phase = .busy
  handle : ∀ connection, new.connection.handle = some connection →
    old.connection.handle = some connection ∨ before.clients.length ≤ connection
  held : new.held → old.held
  tuned : old.Tuned before → new.Tuned after

namespace Standing.Advances

variable {before middle after : Broker} {old between new : Standing}

theorem of_link (link : new.toLink = old.toLink) (held : new.held → old.held)
    (grows : before.Grows (fun connection ↦ old.connection.handle = some connection) after)
    (tuned : old.Tuned before → new.Tuned after) : old.Advances before after new where
  grows := grows
  dispatcher _ h := .inl ((congrArg Link.dispatcher link).symm.trans h)
  handle _ h := .inl ((congrArg (fun link ↦ link.connection.handle) link).symm.trans h)
  held := held
  tuned := tuned

theorem refl (standing : Standing) (broker : Broker) : standing.Advances broker broker standing :=
  of_link rfl (fun held ↦ held) (.refl _) fun tuned ↦ tuned

theorem trans (first : old.Advances before middle between) (second : between.Advances middle after new) :
    old.Advances before after new where
  grows := by
    refine first.grows.trans second.grows fun connection hlt held ↦ ?_
    exact (first.handle connection held).resolve_right (Nat.not_le.2 hlt)
  dispatcher dispatcher h := by
    rcases second.dispatcher dispatcher h with same | ⟨fresh, busy⟩
    · exact first.dispatcher dispatcher same
    · exact .inr ⟨Nat.le_trans first.grows.length_le fresh, busy⟩
  handle connection h := by
    rcases second.handle connection h with same | fresh
    · exact first.handle connection same
    · exact .inr (Nat.le_trans first.grows.length_le fresh)
  held held := first.held (second.held held)
  tuned tuned := second.tuned (first.tuned tuned)

/-- An agent gives its connection up, which is closed if there is one. -/
theorem of_closed (old : Standing) (broker : Broker) (free : new.connection.handle = none)
    (held : new.held → old.held) (dispatcher : new.dispatcher = old.dispatcher ∨ new.dispatcher = none)
    (patterns : new.tunings.map Tuning.pattern = old.tunings.map Tuning.pattern)
    (idle : new.held → new.connection.state = .initialised → ∀ tuning ∈ new.tunings, tuning.subscribed = false) :
    old.Advances broker ((old.connection.handle.map broker.close).getD broker) new where
  grows := by
    cases held : old.connection.handle with
    | none => exact .refl _
    | some handle => exact (broker.grows_close handle).mono fun connection same ↦ by rw [same]
  dispatcher found h := by
    rcases dispatcher with same | none
    · exact .inl (same ▸ h)
    · rw [none] at h
      cases h
  handle connection h := by simp [free] at h
  held := held
  tuned tuned := tuned_of_handle_none free _ (Tuning.parsed_of_patterns patterns tuned.parsed) idle

end Standing.Advances

namespace Agent

variable {medium : Medium} {agent : Agent} {touched : ConnectionId → Prop}

theorem grows_publish (medium : Medium) (agent : Agent) (message : Message) (options : PublishOptions) :
    medium.broker.Grows touched (agent.publish medium message options).1.broker := by
  unfold publish
  split
  · exact .refl _
  · exact medium.grows_publish agent.transport _ message options

theorem grows_subscribe (medium : Medium) (agent : Agent) (receiver : Receiver) :
    medium.broker.Grows (fun connection ↦ agent.connection.handle = some connection)
      (agent.subscribe medium receiver).1.broker := by
  rcases subscribe_cases medium agent receiver with ⟨same, -⟩ | ⟨handle, held, -, subscribed, -⟩
  · exact .of_clients (by rw [same]) (by rw [same])
  · refine (Broker.grows_of_subscribe subscribed).mono fun connection same ↦ ?_
    rw [held, same]

theorem grows_subscribeEach (agent : Agent) (medium : Medium) (receivers : List Receiver) :
    medium.broker.Grows (fun connection ↦ agent.connection.handle = some connection)
      (agent.subscribeEach medium receivers).1.broker :=
  subscribeEach_induction
    (motive := fun before after ↦
      before.broker.Grows (fun connection ↦ agent.connection.handle = some connection) after.broker)
    (fun _ ↦ .refl _) (fun first second ↦ first.trans second fun _ _ held ↦ held)
    (fun medium receiver ↦ grows_subscribe medium agent receiver) (fun _ ↦ .refl _) medium receivers

theorem standing_append (agent : Agent) (receiver : Receiver) :
    Agent.standing { agent with receivers := agent.receivers ++ [receiver] } =
      { agent.standing with tunings := agent.standing.tunings ++ [receiver.tuning] } := by
  simp [standing, link]

theorem filter_subscribe (medium : Medium) (agent : Agent) (receiver : Receiver) :
    (agent.subscribe medium receiver).2.1.tuning.filter = receiver.pattern.text :=
  congrArg TopicPattern.text (pattern_subscribe medium agent receiver)

theorem parsed_subscribe {receiver : Receiver} (parsed : receiver.tuning.Parsed) :
    (agent.subscribe medium receiver).2.1.tuning.Parsed := by
  unfold Tuning.Parsed Tuning.filter Receiver.tuning at parsed ⊢
  rw [pattern_subscribe]
  exact parsed

/-- What a receiver wants is asked of the broker for an agent that has a receiver of these wants. -/
theorem advances_of_subscribe (medium : Medium) (agent : Agent) (receiver : Receiver) {changed : Standing}
    (link : changed.toLink = agent.link) (held : changed.held = agent.held)
    (known : ∀ other ∈ changed.tunings, other ∈ agent.standing.tunings ∨
      other = (agent.subscribe medium receiver).2.1.tuning)
    (kept : ∀ other ∈ agent.standing.tunings, ∃ same ∈ changed.tunings, same.filter = other.filter)
    (new : ∃ same ∈ changed.tunings, same.filter = receiver.pattern.text)
    (parsed : agent.standing.Tuned medium.broker → receiver.tuning.Parsed) :
    agent.standing.Advances medium.broker (agent.subscribe medium receiver).1.broker changed := by
  obtain ⟨changedLink, tunings, changedHeld⟩ := changed
  obtain rfl : changedLink = agent.link := link
  obtain rfl : changedHeld = agent.held := held
  refine .of_link rfl (fun held ↦ held) (grows_subscribe medium agent receiver) fun tuned ↦ ?_
  have new' : ∃ same ∈ tunings, same.filter = (agent.subscribe medium receiver).2.1.tuning.filter := by
    rw [filter_subscribe]
    exact new
  have gains (handle : ConnectionId) (held : agent.connection.handle = some handle) :=
    gains_subscribe held medium receiver
  exact tuned.retune (parsed_subscribe (parsed tuned)) gains known kept new' connected_of_subscribe

/-- A receiver of the agent is subscribed once more. -/
theorem advances_resubscribe {receiver : Receiver} {place : Nat} (h : agent.receivers[place]? = some receiver)
    (medium : Medium) :
    agent.standing.Advances medium.broker (agent.subscribe medium receiver).1.broker
      { agent.standing with
        tunings := agent.standing.tunings.set place (agent.subscribe medium receiver).2.1.tuning } := by
  have former : agent.standing.tunings[place]? = some receiver.tuning := by simp [standing, h]
  have renewed := List.mem_set (List.getElem?_eq_some_iff.1 former).1 (agent.subscribe medium receiver).2.1.tuning
  refine advances_of_subscribe medium agent receiver rfl rfl ?_ ?_ ?_ ?_
  · exact fun other hmem ↦ List.mem_or_eq_of_mem_set hmem
  · intro other hmem
    obtain ⟨index, hindex⟩ := List.getElem?_of_mem hmem
    by_cases same : place = index
    · have hother : receiver.tuning = other := by rwa [← same, former, Option.some.injEq] at hindex
      exact ⟨_, renewed, by rw [filter_subscribe, ← hother]; rfl⟩
    · refine ⟨other, List.mem_iff_getElem?.2 ⟨index, ?_⟩, rfl⟩
      rw [List.getElem?_set_ne same]
      exact hindex
  · exact ⟨_, renewed, filter_subscribe medium agent receiver⟩
  · exact fun tuned ↦ tuned.parsed receiver.tuning (List.mem_of_getElem? former)

theorem advances_createSender {name : String} {kind : PayloadKind} {options : ChannelOptions} {after : Medium}
    {changed : Agent} {place : Nat} (h : agent.createSender medium name kind options = .ok (after, changed, place)) :
    agent.standing.Advances medium.broker after.broker changed.standing := by
  obtain ⟨same, senders, rfl⟩ := createSender_cases h
  rw [same]
  exact .refl agent.standing medium.broker

theorem advances_createReceiver {name : String} {kind : PayloadKind} {options : ChannelOptions} {after : Medium}
    {changed : Agent} {place : Nat} (h : agent.createReceiver medium name kind options = .ok (after, changed, place)) :
    agent.standing.Advances medium.broker after.broker changed.standing := by
  rcases createReceiver_cases h with ⟨same, rfl⟩ | ⟨receiver, parsed, off, ⟨same, rfl⟩ | ⟨subscribed, rfl⟩⟩
  · rw [same]
    exact .refl changed.standing medium.broker
  · rw [same, standing_append]
    exact .of_link rfl (fun held ↦ held) (.refl _) fun tuned ↦ tuned.append_unsubscribed parsed off
  · rw [subscribed, standing_append]
    refine advances_of_subscribe medium agent receiver rfl rfl (by simp) ?_ ?_ fun _ ↦ parsed
    · exact fun other hmem ↦ ⟨other, List.mem_append_left _ hmem, rfl⟩
    · exact ⟨(agent.subscribe medium receiver).2.1.tuning, by simp, filter_subscribe medium agent receiver⟩

theorem advances_of_beginConnect {overrides : BrokerOverrides} {after : Medium} {begun : Agent} {pending : Pending}
    (h : agent.beginConnect medium overrides = .ok (after, begun, pending)) :
    agent.standing.Advances medium.broker after.broker begun.standing := by
  obtain ⟨rfl, -, broker⟩ := beginConnect_eq_ok h
  rw [broker]
  exact .of_closed agent.standing medium.broker rfl (fun held ↦ held) (.inl rfl) rfl nofun

theorem advances_completeConnect (medium : Medium) (agent : Agent) (pending : Pending) :
    agent.standing.Advances medium.broker (agent.completeConnect medium pending).1.broker
      (agent.completeConnect medium pending).2.1.standing := by
  rcases completeConnect_cases medium agent pending with
    ⟨broker, changed, -⟩ | ⟨answered, handle, answer, ⟨-, broker, changed, -⟩ | ⟨-, done⟩⟩
  · rw [changed, broker]
    unfold Connection.reject
    split
    · refine ⟨.refl _, fun _ same ↦ .inl same, nofun, fun held ↦ held, fun tuned ↦ ?_⟩
      exact Standing.tuned_of_handle_none rfl _ tuned.parsed nofun
    · exact .refl agent.standing medium.broker
  · obtain ⟨grows, rfl, -⟩ := Medium.grows_of_answerConnect (fun _ ↦ False) answer
    rw [changed, broker]
    have closed : medium.broker.Grows (fun _ ↦ False) (answered.broker.close medium.broker.clients.length) :=
      grows.trans (answered.broker.grows_close _) fun connection hlt same ↦ absurd hlt (by simp [same])
    exact .of_link rfl (fun held ↦ held) (closed.mono fun _ ↦ False.elim) fun tuned ↦ tuned.grows closed fun _ _ ↦ id
  · obtain ⟨grows, rfl, new⟩ := Medium.grows_of_answerConnect (fun other ↦ agent.connection.handle = some other) answer
    rw [done]
    refine ⟨grows.trans (grows_subscribeEach _ answered agent.receivers) ?_, ?_, ?_, fun held ↦ held, fun tuned ↦ ?_⟩
    · intro connection hlt same
      have hhandle : medium.broker.clients.length = connection := Option.some.inj same
      exact absurd hlt (by simp [hhandle])
    · rintro _ ⟨⟩
      exact .inr ⟨Nat.le_refl _, rfl⟩
    · rintro _ ⟨⟩
      exact .inr (Nat.le_refl _)
    · have lt : medium.broker.clients.length < answered.broker.clients.length := by
        rw [(Medium.answerConnect_eq_ok answer).length_eq]
        exact Nat.lt_succ_self _
      refine Standing.tuned_of_gains rfl rfl lt new (gains_subscribeEach rfl answered agent.receivers) ?_
      refine Tuning.parsed_of_patterns ?_ tuned.parsed
      simp only [standing, List.map_map]
      exact map_seen_subscribeEach (fun _ _ ↦ rfl) _ answered agent.receivers

/-- A connect that fails leaves the dispatcher that there is, and one that succeeds starts a new one for the connection
that the transport has answered with, which is new. -/
theorem dispatcher_completeConnect (medium : Medium) (agent : Agent) (pending : Pending) :
    ((agent.completeConnect medium pending).2.2.isOk = false ∧
      (agent.completeConnect medium pending).2.1.dispatcher = agent.dispatcher) ∨
    ∃ answered handle, medium.answerConnect agent.transport pending.options agent.clientId = .ok (answered, handle) ∧
      medium.broker.clients.length ≤ handle ∧ (agent.completeConnect medium pending).2.2.isOk = true ∧
      (agent.completeConnect medium pending).2.1.dispatcher = some ⟨handle, .busy⟩ := by
  rcases completeConnect_cases medium agent pending with
    ⟨-, changed, failed⟩ | ⟨answered, handle, answer, ⟨-, -, changed, failed⟩ | ⟨-, done⟩⟩
  · exact .inl ⟨failed, by rw [changed]⟩
  · exact .inl ⟨failed, by rw [changed]⟩
  · obtain ⟨-, rfl, -⟩ := Medium.grows_of_answerConnect (fun _ ↦ False) answer
    refine .inr ⟨answered, medium.broker.clients.length, answer, Nat.le_refl _, ?_, ?_⟩
    · rw [done]
      rfl
    · rw [done]

theorem isSome_dispatcher_completeConnect (medium : Medium) (agent : Agent) (pending : Pending)
    (reads : agent.dispatcher.isSome) : (agent.completeConnect medium pending).2.1.dispatcher.isSome := by
  rcases dispatcher_completeConnect medium agent pending with ⟨-, same⟩ | ⟨answered, handle, -, -, -, started⟩
  · rw [same]
    exact reads
  · rw [started]
    rfl

theorem advances_connect (medium : Medium) (agent : Agent) (overrides : BrokerOverrides) :
    agent.standing.Advances medium.broker (agent.connect medium overrides).1.broker
      (agent.connect medium overrides).2.1.standing := by
  rcases connect_cases medium agent overrides with ⟨same, changed, -⟩ | ⟨asked, begun, pending, hbegin, done⟩
  · rw [same, changed]
    exact .refl agent.standing medium.broker
  · rw [done]
    exact (advances_of_beginConnect hbegin).trans (advances_completeConnect asked begun pending)

theorem dispatcher_connect (medium : Medium) (agent : Agent) (overrides : BrokerOverrides) :
    ((agent.connect medium overrides).2.2.isOk = false ∧
      (agent.connect medium overrides).2.1.dispatcher = agent.dispatcher) ∨
    ∃ handle, medium.broker.clients.length ≤ handle ∧ (agent.connect medium overrides).2.2.isOk = true ∧
      (agent.connect medium overrides).2.1.dispatcher = some ⟨handle, .busy⟩ := by
  rcases connect_cases medium agent overrides with ⟨-, changed, failed⟩ | ⟨asked, begun, pending, hbegin, done⟩
  · exact .inl ⟨failed, by rw [changed]⟩
  · have begins : begun.dispatcher = agent.dispatcher := by rw [(beginConnect_eq_ok hbegin).1]
    rw [done]
    rcases dispatcher_completeConnect asked begun pending with ⟨failed, same⟩ | ⟨answered, handle, -, le, started⟩
    · exact .inl ⟨failed, same.trans begins⟩
    · exact .inr ⟨handle, Nat.le_trans (advances_of_beginConnect hbegin).grows.length_le le, started⟩

theorem isSome_dispatcher_connect (medium : Medium) (agent : Agent) (overrides : BrokerOverrides)
    (reads : agent.dispatcher.isSome) : (agent.connect medium overrides).2.1.dispatcher.isSome := by
  rcases dispatcher_connect medium agent overrides with ⟨-, same⟩ | ⟨handle, -, -, started⟩
  · rw [same]
    exact reads
  · rw [started]
    rfl

theorem advances_disconnect (medium : Medium) (agent : Agent) :
    agent.standing.Advances medium.broker (agent.disconnect medium).1.broker (agent.disconnect medium).2.standing := by
  obtain ⟨broker, changed⟩ := disconnect_eq medium agent
  rw [broker, changed]
  have patterns : (agent.receivers.map fun receiver ↦ { receiver with subscribed := false }).map Receiver.pattern =
      agent.receivers.map Receiver.pattern := List.map_map
  refine .of_closed agent.standing medium.broker rfl (fun held ↦ held) (.inr rfl) ?_ fun _ _ tuning hmem ↦ ?_
  · simp only [standing, List.map_map] at patterns ⊢
    exact patterns
  simp only [standing, List.map_map, List.mem_map] at hmem
  obtain ⟨receiver, -, rfl⟩ := hmem
  rfl

end Agent

/-! ## Building -/

namespace AgentBuilder

variable {builder : AgentBuilder} {label : String} {serial : Nat} {agent : Agent}

/-- An agent is not built and the broker is as before, or it is built from what the builder describes, connected or
not. -/
theorem build_cases (medium : Medium) (builder : AgentBuilder) (label : String) (serial : Nat) :
    ((builder.build medium label serial).1.broker = medium.broker ∧
      (builder.build medium label serial).2.toOption = none) ∨
    ∃ described, builder.agent label serial = .ok described ∧
      (builder.build medium label serial = (medium, .ok described) ∨
        ((described.connect medium .none).2.2.isOk = true ∧
          builder.build medium label serial =
            ((described.connect medium .none).1, .ok (described.connect medium .none).2.1))) := by
  cases hresult : (builder.build medium label serial).2 with
  | error error => exact .inl ⟨broker_of_build_error (Prod.ext rfl hresult), rfl⟩
  | ok built =>
    refine .inr ?_
    unfold build at hresult ⊢
    cases hagent : builder.agent label serial with
    | error error => simp [hagent] at hresult
    | ok described =>
      refine ⟨described, rfl, ?_⟩
      simp only [hagent] at hresult ⊢
      split
      · rename_i connects
        simp only [connects, if_true] at hresult
        cases hconnect : (described.connect medium .none).2.2 with
        | error error => simp [hconnect, Except.map] at hresult
        | ok => exact .inr ⟨rfl, by simp [Except.map]⟩
      · exact .inl rfl

end AgentBuilder

end PubSub
