import PubSub.Agent.Builder
import PubSub.Proofs.Broker.Connections
import PubSub.Proofs.Connection
/-!
# The link between an agent and the broker

An agent is linked to the broker by the handle that it holds and by the connection that its dispatcher reads. In a
sound link the two are the same connection as long as it is live, so nothing that the broker sends is read by nobody.
Whatever an agent does with its connection leaves a sound link, brings at most one connection to life, the one that it
then holds, and leaves no live connection behind: it takes a `Turn`.
-/

namespace PubSub

theorem exists_of_bind_eq_ok {ε α β : Type} {first : Except ε α} {next : α → Except ε β} {result : β}
    (h : first >>= next = .ok result) : ∃ middle, first = .ok middle ∧ next middle = .ok result := by
  cases first with
  | error error => cases h
  | ok middle => exact ⟨middle, rfl, h⟩

/-- What ties an agent to the broker. -/
structure Link where
  connection : Connection
  dispatcher : Option Dispatcher

/-- The link of an agent. -/
def Agent.link (agent : Agent) : Link :=
  ⟨agent.connection, agent.dispatcher⟩

namespace Link

/-- The dispatcher reads the connection that is held, and reads no live connection but that. -/
structure Sound (broker : Broker) (link : Link) : Prop where
  connected_iff : link.connection.state = .connected ↔ link.connection.handle.isSome
  dispatched : ∀ handle, link.connection.handle = some handle → ∃ phase, link.dispatcher = some ⟨handle, phase⟩
  source_lt : ∀ dispatcher, link.dispatcher = some dispatcher → dispatcher.source < broker.clients.length
  held : ∀ dispatcher, link.dispatcher = some dispatcher → broker.isLive dispatcher.source →
    link.connection.handle = some dispatcher.source
  finished : ∀ dispatcher, link.dispatcher = some dispatcher → dispatcher.phase = .finished →
    broker.isClosed dispatcher.source

/-- From one link of an agent to the next. A live connection that is given up is among those that `left` holds of. -/
structure Turn (left : ConnectionId → Prop) (before : Broker) (old : Link) (after : Broker) (new : Link) : Prop where
  sound : new.Sound after
  length_le : before.clients.length ≤ after.clients.length
  isLive : ∀ connection, after.isLive connection →
    before.isLive connection ∨ new.connection.handle = some connection ∨ left connection
  isClosed : ∀ connection < before.clients.length, before.isClosed connection → after.isClosed connection
  lost : ∀ connection, old.connection.handle = some connection → after.isLive connection →
    new.connection.handle = some connection ∨ left connection
  source : ∀ dispatcher, new.dispatcher = some dispatcher →
    (∃ former, old.dispatcher = some former ∧ former.source = dispatcher.source) ∨
    before.clients.length ≤ dispatcher.source

variable {left : ConnectionId → Prop} {before after last : Broker} {old new link : Link} {handle : ConnectionId}

theorem Sound.fades (sound : link.Sound before) (fades : before.Fades after) : link.Sound after where
  connected_iff := sound.connected_iff
  dispatched := sound.dispatched
  source_lt dispatcher h := fades.length_eq ▸ sound.source_lt dispatcher h
  held dispatcher h live := sound.held dispatcher h (fades.isLive _ live)
  finished dispatcher h finished := fades.isClosed _ (sound.finished dispatcher h finished)

/-- The link of an agent that is not connected and dispatches nothing. -/
theorem sound_of_released {connection : Connection} (handle : connection.handle = none)
    (state : connection.state ≠ .connected) (broker : Broker) : Sound broker ⟨connection, none⟩ where
  connected_iff := iff_of_false state (by simp [handle])
  dispatched := by simp [handle]
  source_lt := nofun
  held := nofun
  finished := nofun

namespace Turn

theorem of_fades (sound : link.Sound before) (fades : before.Fades after) : Turn left before link after link where
  sound := sound.fades fades
  length_le := Nat.le_of_eq fades.length_eq.symm
  isLive connection live := .inl (fades.isLive connection live)
  isClosed connection _ closed := fades.isClosed connection closed
  lost _ held _ := .inl held
  source dispatcher h := .inl ⟨dispatcher, h, rfl⟩

theorem trans {middle : Link} (first : Turn left before old after middle) (second : Turn left after middle last new) :
    Turn left before old last new where
  sound := second.sound
  length_le := Nat.le_trans first.length_le second.length_le
  isLive := by
    intro connection live
    rcases second.isLive connection live with live' | held
    · rcases first.isLive connection live' with live'' | held | left
      · exact .inl live''
      · exact .inr (second.lost connection held live)
      · exact .inr (.inr left)
    · exact .inr held
  isClosed connection hlt closed :=
    second.isClosed connection (Nat.lt_of_lt_of_le hlt first.length_le) (first.isClosed connection hlt closed)
  lost := by
    intro connection held live
    rcases second.isLive connection live with live' | held'
    · rcases first.lost connection held live' with held' | left
      · exact second.lost connection held' live
      · exact .inr left
    · exact held'
  source := by
    intro dispatcher h
    rcases second.source dispatcher h with ⟨former, hformer, same⟩ | fresh
    · rcases first.source former hformer with ⟨former', hformer', same'⟩ | fresh
      · exact .inl ⟨former', hformer', same'.trans same⟩
      · exact .inr (same ▸ fresh)
    · exact .inr (Nat.le_trans first.length_le fresh)

end Turn

namespace Sound

/-- The link of an agent stays sound while another one takes a turn, unless the two read or leave one connection. -/
theorem beside (sound : link.Sound before) (turn : old.Turn left before after new)
    (apart : ∀ dispatcher another, link.dispatcher = some dispatcher → new.dispatcher = some another →
      dispatcher.source ≠ another.source)
    (kept : ∀ dispatcher, link.dispatcher = some dispatcher → ¬left dispatcher.source) : link.Sound after where
  connected_iff := sound.connected_iff
  dispatched := sound.dispatched
  source_lt dispatcher h := Nat.lt_of_lt_of_le (sound.source_lt dispatcher h) turn.length_le
  held := by
    intro dispatcher h live
    rcases turn.isLive dispatcher.source live with live' | held | hleft
    · exact sound.held dispatcher h live'
    · rcases turn.sound.dispatched dispatcher.source held with ⟨phase, hphase⟩
      exact absurd rfl (apart dispatcher ⟨dispatcher.source, phase⟩ h hphase)
    · exact absurd hleft (kept dispatcher h)
  finished dispatcher h finished :=
    turn.isClosed dispatcher.source (sound.source_lt dispatcher h) (sound.finished dispatcher h finished)

/-- A handle is given up. Whoever keeps it alive must stop dispatching. -/
theorem giveUp (sound : link.Sound before) (fades : before.Fades after) {connection : Connection}
    (handle : connection.handle = none) (state : connection.state ≠ .connected) {dispatcher : Option Dispatcher}
    (same : dispatcher = link.dispatcher ∨ dispatcher = none)
    (lost : ∀ handle, link.connection.handle = some handle → after.isLive handle → left handle ∧ dispatcher = none) :
    link.Turn left before after ⟨connection, dispatcher⟩ where
  sound := by
    refine ⟨iff_of_false state (by simp [handle]), by simp [handle], ?_, ?_, ?_⟩
    · rintro found rfl
      have hfound := same.resolve_right nofun
      exact fades.length_eq ▸ sound.source_lt found hfound.symm
    · rintro found rfl live
      have hfound := same.resolve_right nofun
      have held := sound.held found hfound.symm (fades.isLive _ live)
      exact absurd (lost _ held live).2 nofun
    · rintro found rfl finished
      have hfound := same.resolve_right nofun
      exact fades.isClosed _ (sound.finished found hfound.symm finished)
  length_le := Nat.le_of_eq fades.length_eq.symm
  isLive connection live := .inl (fades.isLive connection live)
  isClosed connection _ closed := fades.isClosed connection closed
  lost connection held live := .inr (lost connection held live).1
  source := by
    rintro found rfl
    exact .inl ⟨found, (same.resolve_right nofun).symm, rfl⟩

/-- A dispatcher may come to another phase, and to its end once its source is closed. -/
theorem proceed (sound : link.Sound before) {dispatcher : Dispatcher} (reads : link.dispatcher = some dispatcher)
    (phase : DispatcherPhase) (finished : phase = .finished → before.isClosed dispatcher.source) :
    link.Turn left before before ⟨link.connection, some ⟨dispatcher.source, phase⟩⟩ where
  sound := by
    refine ⟨sound.connected_iff, ?_, ?_, ?_, ?_⟩
    · intro handle held
      rcases sound.dispatched handle held with ⟨former, hformer⟩
      have same : dispatcher = ⟨handle, former⟩ := Option.some.inj (reads.symm.trans hformer)
      exact ⟨phase, by rw [same]⟩
    · rintro _ ⟨⟩
      exact sound.source_lt dispatcher reads
    · rintro _ ⟨⟩ live
      exact sound.held dispatcher reads live
    · rintro _ ⟨⟩ hphase
      exact finished hphase
  length_le := Nat.le_refl _
  isLive _ live := .inl live
  isClosed _ _ closed := closed
  lost _ held _ := .inl held
  source := by
    rintro _ ⟨⟩
    exact .inl ⟨dispatcher, reads, rfl⟩

/-- A connection that the broker has accepted is taken where none is held. -/
theorem accept (accepts : before.Accepts after handle) (free : link.connection.handle = none) (generation : Nat) :
    link.Turn left before after ⟨⟨.connected, some handle, generation⟩, some ⟨handle, .busy⟩⟩ where
  sound := by
    refine ⟨by simp, ?_, ?_, ?_, ?_⟩
    · rintro _ ⟨⟩
      exact ⟨.busy, rfl⟩
    · rintro _ ⟨⟩
      rw [accepts.length_eq, accepts.eq_length]
      exact Nat.lt_succ_self _
    · rintro _ ⟨⟩ -
      rfl
    · rintro _ ⟨⟩ ⟨⟩
  length_le := by
    rw [accepts.length_eq]
    exact Nat.le_succ _
  isLive connection live := by
    rcases (accepts.isLive_iff connection).1 live with live | rfl
    · exact .inl live
    · exact .inr (.inl rfl)
  isClosed connection hlt closed := (accepts.isClosed_iff connection hlt).2 closed
  lost connection held := by simp [free] at held
  source := by
    rintro _ ⟨⟩
    exact .inr (Nat.le_of_eq accepts.eq_length.symm)

/-- A connection that the broker has accepted too late is closed. -/
theorem abandon (sound : link.Sound before) (accepts : before.Accepts after handle) :
    link.Turn left before (after.close handle) link where
  sound := by
    refine ⟨sound.connected_iff, sound.dispatched, ?_, ?_, ?_⟩
    · intro dispatcher h
      rw [(after.fades_close handle).length_eq, accepts.length_eq]
      exact Nat.lt_succ_of_lt (sound.source_lt dispatcher h)
    · intro dispatcher h live
      obtain ⟨live, hne⟩ := Broker.isLive_close_iff.1 live
      exact sound.held dispatcher h (((accepts.isLive_iff _).1 live).resolve_right hne)
    · intro dispatcher h finished
      have closed := sound.finished dispatcher h finished
      exact (after.fades_close handle).isClosed _ ((accepts.isClosed_iff _ (sound.source_lt dispatcher h)).2 closed)
  length_le := by
    rw [(after.fades_close handle).length_eq, accepts.length_eq]
    exact Nat.le_succ _
  isLive connection live := by
    obtain ⟨live, hne⟩ := Broker.isLive_close_iff.1 live
    exact .inl (((accepts.isLive_iff connection).1 live).resolve_right hne)
  isClosed connection hlt closed :=
    (after.fades_close handle).isClosed connection ((accepts.isClosed_iff connection hlt).2 closed)
  lost _ held _ := .inl held
  source dispatcher h := .inl ⟨dispatcher, h, rfl⟩

end Sound

end Link

/-! ## Requests -/

namespace Agent

variable {medium : Medium} {agent : Agent}

theorem fades_publish (medium : Medium) (agent : Agent) (message : Message) (options : PublishOptions) :
    medium.broker.Fades (agent.publish medium message options).1.broker := by
  rw [publish]
  split
  · exact .refl _
  · exact medium.fades_publish agent.transport _ message options

theorem fades_subscribe (medium : Medium) (agent : Agent) (receiver : Receiver) :
    medium.broker.Fades (agent.subscribe medium receiver).1.broker := by
  rw [subscribe]
  split
  · exact .refl _
  · exact medium.fades_subscribe agent.transport _ receiver.pattern.text receiver.qos

/-- What holds from each medium to the one after an attempt to subscribe, and to the one with a failure noted, holds
from before the first of some attempts to after the last. -/
theorem subscribeEach_induction {agent : Agent} {motive : Medium → Medium → Prop} (refl : ∀ medium, motive medium medium)
    (trans : ∀ {before middle after}, motive before middle → motive middle after → motive before after)
    (subscribe : ∀ medium receiver, motive medium (agent.subscribe medium receiver).1)
    (fail : ∀ medium, motive medium medium.fail) (medium : Medium) (receivers : List Receiver) :
    motive medium (agent.subscribeEach medium receivers).1 := by
  induction receivers generalizing medium with
  | nil => exact refl medium
  | cons receiver rest ih =>
    have first := subscribe medium receiver
    simp only [subscribeEach]
    split
    · exact trans first (ih _)
    · exact trans (trans first (fail _)) (ih _)

theorem fades_subscribeEach (agent : Agent) (medium : Medium) (receivers : List Receiver) :
    medium.broker.Fades (agent.subscribeEach medium receivers).1.broker :=
  subscribeEach_induction (motive := fun before after ↦ before.broker.Fades after.broker) (fun _ ↦ .refl _)
    (fun first second ↦ first.trans second) (fun medium receiver ↦ fades_subscribe medium agent receiver)
    (fun _ ↦ .refl _) medium receivers

theorem createSender_eq_ok {name : String} {kind : PayloadKind} {options : ChannelOptions} {after : Medium}
    {changed : Agent} {place : Nat} (h : agent.createSender medium name kind options = .ok (after, changed, place)) :
    changed.link = agent.link ∧ medium.broker.Fades after.broker := by
  rw [createSender] at h
  cases hname : validChannelName name with
  | error error => simp [hname, bind, Except.bind] at h
  | ok =>
    cases hexisting : existing name kind options (agent.senders.map fun sender ↦ (sender.definition.name, sender.kind)) with
    | error error => simp [hname, hexisting, bind, Except.bind] at h
    | ok found =>
      simp only [hname, hexisting, bind, Except.bind] at h
      split at h
      · obtain ⟨rfl, rfl, -⟩ := by simpa using Except.ok.inj h
        exact ⟨rfl, .refl _⟩
      · split at h
        · cases h
        · split at h
          · cases h
          · obtain ⟨rfl, rfl, -⟩ := by simpa using Except.ok.inj h
            exact ⟨rfl, .refl _⟩

theorem createReceiver_eq_ok {name : String} {kind : PayloadKind} {options : ChannelOptions} {after : Medium}
    {changed : Agent} {place : Nat} (h : agent.createReceiver medium name kind options = .ok (after, changed, place)) :
    changed.link = agent.link ∧ medium.broker.Fades after.broker := by
  rw [createReceiver] at h
  cases hname : validChannelName name with
  | error error => simp [hname, bind, Except.bind] at h
  | ok =>
    cases hexisting : existing name kind options
        (agent.receivers.map fun receiver ↦ (receiver.definition.name, receiver.kind)) with
    | error error => simp [hname, hexisting, bind, Except.bind] at h
    | ok found =>
      simp only [hname, hexisting, bind, Except.bind] at h
      split at h
      · obtain ⟨rfl, rfl, -⟩ := by simpa using Except.ok.inj h
        exact ⟨rfl, .refl _⟩
      · split at h
        · cases h
        · split at h
          · cases h
          · obtain ⟨rfl, rfl, -⟩ := by simpa using Except.ok.inj h
            refine ⟨rfl, ?_⟩
            split
            · split
              · exact fades_subscribe medium agent _
              · exact fades_subscribe medium agent _
            · exact .refl _

/-! ## Connecting -/

end Agent

theorem Medium.answerConnect_eq_ok {medium after : Medium} {transport : Transport} {options : BrokerOptions}
    {clientId : ClientId} {handle : ConnectionId}
    (h : medium.answerConnect transport options clientId = .ok (after, handle)) :
    medium.broker.Accepts after.broker handle := by
  rw [answerConnect] at h
  cases hfault : Script.fault (medium.scriptOf transport).connect with
  | error error => simp [hfault, bind, Except.bind] at h
  | ok =>
    cases hconnect : medium.broker.connect options clientId with
    | error error => simp [hfault, hconnect, bind, Except.bind] at h
    | ok accepted =>
      simp only [hfault, hconnect, bind, Except.bind] at h
      obtain ⟨rfl, rfl⟩ := Prod.mk.inj (Except.ok.inj h)
      exact Broker.accepts_of_connect hconnect

namespace Agent

variable {medium : Medium} {agent : Agent}

/-- An attempt that begins closes the handle that is held, and is the current attempt from then on. -/
theorem beginConnect_eq_ok {overrides : BrokerOverrides} {after : Medium} {begun : Agent} {pending : Pending}
    (h : agent.beginConnect medium overrides = .ok (after, begun, pending)) :
    begun = { agent with connection := ⟨.connecting, none, agent.connection.generation + 1⟩ } ∧
    pending = ⟨agent.connection.generation + 1, agent.options.merged overrides⟩ ∧
    after.broker = (agent.connection.handle.map medium.broker.close).getD medium.broker := by
  unfold beginConnect at h
  cases hbegin : agent.connection.begin? (medium.isLive agent.transport) with
  | error error => simp [hbegin, bind, Except.bind] at h
  | ok found =>
    have hfound := Connection.begin?_eq_ok hbegin
    subst hfound
    simp only [hbegin, bind, Except.bind] at h
    have hparts := Except.ok.inj h
    simp only [Prod.mk.injEq] at hparts
    have hbroker : after.broker = (agent.connection.handle.map medium.broker.close).getD medium.broker := by
      rw [← hparts.1]
      cases agent.connection.handle <;> simp
    exact ⟨hparts.2.1.symm, hparts.2.2.symm, hbroker⟩

theorem turn_of_beginConnect {overrides : BrokerOverrides} {after : Medium} {begun : Agent} {pending : Pending}
    (sound : agent.link.Sound medium.broker) (h : agent.beginConnect medium overrides = .ok (after, begun, pending)) :
    agent.link.Turn (fun _ ↦ False) medium.broker after.broker begun.link := by
  have hparts := beginConnect_eq_ok h
  rw [hparts.1, hparts.2.2]
  cases held : agent.connection.handle with
  | none => exact sound.giveUp (.refl _) rfl (by simp) (.inl rfl) (by simp [link, held])
  | some handle =>
    apply sound.giveUp (medium.broker.fades_close handle) rfl (by simp) (.inl rfl)
    intro other hother live
    have same : handle = other := by simpa [link, held] using hother
    exact absurd same.symm (Broker.isLive_close_iff.1 live).2

theorem turn_completeConnect (sound : agent.link.Sound medium.broker) (pending : Pending) :
    agent.link.Turn (fun _ ↦ False) medium.broker (agent.completeConnect medium pending).1.broker
      (agent.completeConnect medium pending).2.1.link := by
  rw [completeConnect]
  by_cases current : agent.connection.isCurrent pending.generation
  · have free : agent.connection.handle = none := Connection.handle_eq_none_of_isCurrent sound.connected_iff current
    cases hanswer : medium.answerConnect agent.transport pending.options agent.clientId with
    | error error =>
      simp only [Connection.reject, if_pos current, Medium.broker_fail]
      exact sound.giveUp (.refl _) rfl (by simp) (.inl rfl) (by simp [link, free])
    | ok answer =>
      obtain ⟨after, handle⟩ := answer
      simp only [Connection.accept?, if_pos current]
      have accepted : agent.link.Turn (fun _ ↦ False) medium.broker after.broker
          ⟨⟨.connected, some handle, agent.connection.generation⟩, some ⟨handle, .busy⟩⟩ :=
        Link.Sound.accept (Medium.answerConnect_eq_ok hanswer) free _
      exact accepted.trans (.of_fades accepted.sound (fades_subscribeEach _ after agent.receivers))
  · cases hanswer : medium.answerConnect agent.transport pending.options agent.clientId with
    | error error =>
      simp only [Connection.reject, if_neg current, Medium.broker_fail]
      exact .of_fades sound (.refl _)
    | ok answer =>
      obtain ⟨after, handle⟩ := answer
      simp only [Connection.accept?, if_neg current, Medium.broker_close, Medium.broker_warn]
      exact sound.abandon (Medium.answerConnect_eq_ok hanswer)

theorem turn_connect (sound : agent.link.Sound medium.broker) (overrides : BrokerOverrides) :
    agent.link.Turn (fun _ ↦ False) medium.broker (agent.connect medium overrides).1.broker
      (agent.connect medium overrides).2.1.link := by
  rw [connect]
  cases hbegin : agent.beginConnect medium overrides with
  | error error => exact .of_fades sound (.refl _)
  | ok begun =>
    obtain ⟨after, begun, pending⟩ := begun
    have first := turn_of_beginConnect sound hbegin
    exact first.trans (turn_completeConnect first.sound pending)

/-- An agent that holds no connection and fails to connect leaves the broker as it is. -/
theorem broker_of_connect_error {overrides : BrokerOverrides} {after : Medium} {failed : Agent} {error : Error}
    (free : agent.connection.handle = none) (h : agent.connect medium overrides = (after, failed, .error error)) :
    after.broker = medium.broker := by
  unfold connect at h
  cases hbegin : agent.beginConnect medium overrides with
  | error error =>
    rw [hbegin] at h
    rw [← (Prod.mk.inj h).1]
  | ok begun =>
    obtain ⟨asked, begun, pending⟩ := begun
    have hparts := beginConnect_eq_ok hbegin
    have hbroker : asked.broker = medium.broker := by simpa [free] using hparts.2.2
    have current : begun.connection.isCurrent pending.generation := by simp [hparts.1, hparts.2.1, Connection.isCurrent]
    simp only [hbegin, completeConnect] at h
    cases hanswer : asked.answerConnect begun.transport pending.options begun.clientId with
    | error error =>
      rw [hanswer] at h
      rw [← (Prod.mk.inj h).1]
      exact hbroker
    | ok answer =>
      simp only [hanswer, Connection.accept?, if_pos current] at h
      cases h

theorem turn_disconnect (sound : agent.link.Sound medium.broker) :
    agent.link.Turn (fun _ ↦ False) medium.broker (agent.disconnect medium).1.broker
      (agent.disconnect medium).2.link := by
  rw [disconnect]
  cases held : agent.connection.handle with
  | none =>
    simp only [release, Connection.release, held]
    exact sound.giveUp (.refl _) rfl (by simp) (.inr rfl) (by simp [link, held])
  | some handle =>
    simp only [release, Connection.release, held]
    have hbroker : (if (medium.close agent.transport handle).2.isOk then (medium.close agent.transport handle).1
        else (medium.close agent.transport handle).1.warn).broker = medium.broker.close handle := by
      split <;> simp
    rw [hbroker]
    refine sound.giveUp (medium.broker.fades_close handle) rfl (by simp) (.inr rfl) fun other hother live ↦ ?_
    obtain rfl : handle = other := by simpa [link, held] using hother
    exact absurd rfl (Broker.isLive_close_iff.1 live).2

end Agent

/-! ## Building -/

namespace AgentBuilder

variable {builder : AgentBuilder} {label : String} {serial : Nat} {agent : Agent}

/-- What a builder describes is an agent of a valid identity on the transport that was chosen, with the configuration
resolved, and nothing was asked of it yet. -/
theorem agent_eq_ok (h : builder.agent label serial = .ok agent) :
    ∃ identity transport, Identity.new builder.role builder.instanceId = .ok identity ∧
      builder.transport = some transport ∧ agent = {
        label, identity, transport
        options := builder.config.broker.merged builder.overrides
        clientId := (builder.clientId.map .given).getD (.generated serial)
        defaults := builder.config.channels
        autoConnect := builder.autoConnect.getD builder.config.behavior.autoConnect
        connection := .initial
        senders := []
        receivers := []
        dispatcher := none
        held := true } := by
  obtain ⟨identity, valid, h⟩ := exists_of_bind_eq_ok h
  cases chosen : builder.transport with
  | none =>
    rw [chosen] at h
    cases h
  | some transport =>
    rw [chosen] at h
    exact ⟨identity, transport, valid, rfl, (Except.ok.inj h).symm⟩

theorem link_agent (h : builder.agent label serial = .ok agent) : agent.link = ⟨.initial, none⟩ := by
  obtain ⟨identity, transport, -, -, rfl⟩ := agent_eq_ok h
  rfl

theorem connection_agent (h : builder.agent label serial = .ok agent) : agent.connection = .initial :=
  congrArg Link.connection (link_agent h)

/-- An agent that is not built leaves the broker as it is. -/
theorem broker_of_build_error {medium after : Medium} {error : Error}
    (h : builder.build medium label serial = (after, .error error)) : after.broker = medium.broker := by
  unfold build at h
  split at h
  · rw [← (Prod.mk.inj h).1]
  · rename_i agent hagent
    split at h
    · have free : agent.connection.handle = none := congrArg Connection.handle (connection_agent hagent)
      rcases hconnect : agent.connect medium .none with ⟨connected, failed, result⟩
      rw [hconnect] at h
      have hparts := Prod.mk.inj h
      rw [← hparts.1]
      cases result with
      | error failure => exact Agent.broker_of_connect_error free hconnect
      | ok => cases hparts.2
    · cases (Prod.mk.inj h).2

/-- An agent that is built has taken a turn at most. -/
theorem turn_of_build {medium after : Medium} (h : builder.build medium label serial = (after, .ok agent)) :
    Link.Turn (fun _ ↦ False) medium.broker ⟨.initial, none⟩ after.broker agent.link := by
  have initial : Link.Sound medium.broker ⟨.initial, none⟩ :=
    Link.sound_of_released rfl (by simp [Connection.initial]) medium.broker
  unfold build at h
  split at h
  · cases (Prod.mk.inj h).2
  · rename_i built hbuilt
    rw [← link_agent hbuilt] at initial ⊢
    split at h
    · have turn := Agent.turn_connect initial .none
      rcases hconnect : built.connect medium .none with ⟨connected, changed, result⟩
      rw [hconnect] at h turn
      have hparts := Prod.mk.inj h
      cases result with
      | error failure => cases hparts.2
      | ok =>
        rw [← hparts.1, ← Except.ok.inj hparts.2]
        exact turn
    · have hparts := Prod.mk.inj h
      rw [← hparts.1, ← Except.ok.inj hparts.2]
      exact .of_fades initial (.refl _)

end AgentBuilder

end PubSub
