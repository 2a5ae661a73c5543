import PubSub.Proofs.Network.Flow
import PubSub.Proofs.Network.Settling
import PubSub.Proofs.Session.View
/-!
# Messages in order

For every connection the messages that were handed on, followed by those that wait in its inbox, are the messages that
the broker has put there. Only the inbox of a raw client is emptied in another way, and nothing is handed on from there.
So a dispatcher hands on a first part of the messages of its connection, in their order; and once there is no work left
it has handed on all of them, whatever became of the connection. Nothing is handed on from a connection that no
dispatcher reads, and no dispatcher begins to read a connection that is not new.
-/

namespace PubSub

/-! ## Inboxes -/

theorem Broker.append_arrivals {before after : Broker} {connection : ConnectionId}
    (grows : before.inbox connection <+: after.inbox connection) :
    before.inbox connection ++ before.arrivals after connection = after.inbox connection :=
  List.prefix_iff_eq_append.1 grows

theorem Network.reads_iff {network : Network} {index : Nat} {agent : Agent} {connection : ConnectionId}
    (h : network.agents[index]? = some agent) :
    network.Reads index connection ↔ ∃ phase, agent.dispatcher = some ⟨connection, phase⟩ := by
  unfold Reads
  constructor
  · rintro ⟨found, phase, hfound, reads⟩
    rw [Option.some.inj (h.symm.trans hfound)]
    exact ⟨phase, reads⟩
  · rintro ⟨phase, reads⟩
    exact ⟨agent, phase, h, reads⟩

/-- An agent reads one connection at a time. -/
theorem Network.Reads.unique {network : Network} {index : Nat} {connection other : ConnectionId}
    (reads : network.Reads index connection) (reads' : network.Reads index other) : connection = other := by
  obtain ⟨agent, phase, hagent, hdispatcher⟩ := reads
  obtain ⟨phase', hdispatcher'⟩ := (reads_iff hagent).1 reads'
  exact congrArg Dispatcher.source (Option.some.inj (hdispatcher.symm.trans hdispatcher'))

theorem Network.sourceOf_view {network : Network} {index : Nat} {connection : ConnectionId} :
    network.view.sourceOf index = some connection ↔ network.Reads index connection := by
  unfold View.sourceOf Network.view Reads
  constructor
  · intro h
    rcases Option.bind_eq_some_iff.1 h with ⟨standing, hstanding, hsource⟩
    rw [List.getElem?_map] at hstanding
    obtain ⟨agent, hagent, rfl⟩ := Option.map_eq_some_iff.1 hstanding
    obtain ⟨dispatcher, hdispatcher, rfl⟩ := Option.map_eq_some_iff.1 hsource
    exact ⟨agent, dispatcher.phase, hagent, hdispatcher⟩
  · rintro ⟨agent, phase, hagent, hdispatcher⟩
    have hdispatcher' : agent.standing.dispatcher = some ⟨connection, phase⟩ := hdispatcher
    simp [hagent, Standing.source?, hdispatcher']

instance (network : Network) (index : Nat) (connection : ConnectionId) : Decidable (network.Reads index connection) :=
  decidable_of_iff _ Network.sourceOf_view

theorem Network.isHeld_view (network : Network) (index : Nat) :
    network.view.isHeld index = network.agents[index]?.any Agent.held := by
  simp [View.isHeld, Network.view, Option.any_map, Agent.standing]

namespace View

variable {licence : Licence} {view after : View} {raw raw' : ConnectionId → Prop}
  {enqueued dispatched : ConnectionId → List Message}

/-- What was handed on and what waits in the inbox is what was put there, except where nothing was handed on and nobody
reads. -/
structure Balanced (raw : ConnectionId → Prop) (view : View) (enqueued dispatched : ConnectionId → List Message) :
    Prop where
  untouched : ∀ connection, raw connection ∨ view.broker.clients.length ≤ connection → dispatched connection = []
  balance : ∀ connection, enqueued connection = dispatched connection ++ view.broker.inbox connection ∨
    dispatched connection = [] ∧ connection < view.broker.clients.length ∧
      ∀ index, view.sourceOf index ≠ some connection

namespace Balanced

theorem of_reads (balanced : view.Balanced raw enqueued dispatched) {index : Nat} {connection : ConnectionId}
    (reads : view.sourceOf index = some connection) :
    enqueued connection = dispatched connection ++ view.broker.inbox connection :=
  (balanced.balance connection).resolve_right fun unread ↦ unread.2.2 index reads

theorem isPrefix (balanced : view.Balanced raw enqueued dispatched) (connection : ConnectionId) :
    dispatched connection <+: enqueued connection := by
  rcases balanced.balance connection with balance | ⟨none, -⟩
  · rw [balance]
    exact List.prefix_append _ _
  · rw [none]
    exact List.nil_prefix

theorem flows (balanced : view.Balanced raw enqueued dispatched) (flows : Flows licence view after)
    (foreign : licence.foreign = raw)
    (apart : ∀ connection, raw connection → connection < view.broker.clients.length ∧
      ∀ index, view.sourceOf index ≠ some connection)
    (raws : ∀ connection, raw' connection → raw connection ∨ view.broker.clients.length ≤ connection) :
    after.Balanced raw' (fun connection ↦ enqueued connection ++ view.broker.arrivals after.broker connection)
      dispatched where
  untouched connection h := by
    rcases h with new | beyond
    · exact balanced.untouched connection (raws connection new)
    · exact balanced.untouched connection (.inr (Nat.le_trans flows.length_le beyond))
  balance connection := by
    have unread (lt : connection < view.broker.clients.length) (unread : ∀ index, view.sourceOf index ≠ some connection)
        (index : Nat) : after.sourceOf index ≠ some connection := by
      intro reads
      rcases flows.reads index connection reads with earlier | fresh
      · exact unread index earlier
      · exact absurd lt (Nat.not_lt.2 fresh)
    by_cases own : raw connection
    · have apart := apart connection own
      exact .inr ⟨balanced.untouched connection (.inl own), Nat.lt_of_lt_of_le apart.1 flows.length_le,
        unread apart.1 apart.2⟩
    · rcases balanced.balance connection with balance | ⟨none, lt, idle⟩
      · have grows := Broker.append_arrivals (flows.inbox connection (foreign ▸ own))
        left
        calc enqueued connection ++ view.broker.arrivals after.broker connection
          _ = dispatched connection ++ view.broker.inbox connection ++
              view.broker.arrivals after.broker connection := by rw [balance]
          _ = dispatched connection ++ after.broker.inbox connection := by rw [List.append_assoc, grows]
      · exact .inr ⟨none, Nat.lt_of_lt_of_le lt flows.length_le, unread lt idle⟩

/-- A message is taken from an inbox that somebody reads, and handed on. -/
theorem hand {broker : Broker} {source : ConnectionId} {message : Message} {index : Nat}
    (balanced : view.Balanced raw enqueued dispatched)
    (taken : view.broker.take? source = some (message, broker)) (reads : view.sourceOf index = some source)
    (own : ¬raw source) :
    Balanced raw { view with broker } enqueued fun connection ↦
      if connection = source then dispatched connection ++ [message] else dispatched connection := by
  have length := (Broker.fades_of_take? taken).length_eq
  obtain ⟨lt, stood, others⟩ := Broker.inbox_of_take? taken
  refine ⟨fun connection h ↦ ?_, fun connection ↦ ?_⟩
  · have hne : connection ≠ source := by
      rintro rfl
      rcases h with h | beyond
      · exact own h
      · rw [length] at beyond
        exact absurd lt (Nat.not_lt.2 beyond)
    rw [if_neg hne]
    rw [length] at h
    exact balanced.untouched connection h
  · by_cases same : connection = source
    · subst same
      left
      calc enqueued connection
        _ = dispatched connection ++ view.broker.inbox connection := balanced.of_reads reads
        _ = (dispatched connection ++ [message]) ++ broker.inbox connection := by rw [stood]; simp
        _ = _ := by rw [if_pos rfl]
    · rw [if_neg same, length, others connection (Ne.symm same)]
      exact balanced.balance connection

end Balanced

/-- A dispatcher that has come to its end is not the one that takes a message. -/
theorem Exhausted.take? {broker : Broker} {source : ConnectionId} {message : Message} (exhausted : view.Exhausted)
    (taken : view.broker.take? source = some (message, broker)) : Exhausted { view with broker } := by
  intro standing hmem connection finished
  have spent := exhausted standing hmem connection finished
  obtain ⟨-, stood, others⟩ := Broker.inbox_of_take? taken
  have fades := Broker.fades_of_take? taken
  refine ⟨fades.length_eq ▸ spent.lt_length, fades.isClosed connection spent.closed, ?_⟩
  by_cases same : source = connection
  · rw [same, spent.inbox] at stood
    cases stood
  · rw [others connection same]
    exact spent.inbox

end View

namespace Traffic

variable {traffic : Traffic} {next : Session} {move : Move}

/-! ## What every move preserves -/

/-- The session is steady, and for every connection the messages are accounted for. -/
structure Sound (traffic : Traffic) : Prop where
  steady : traffic.session.Steady
  exhausted : traffic.session.network.view.Exhausted
  balanced : traffic.session.network.view.Balanced traffic.session.IsRaw traffic.enqueued traffic.dispatched

theorem Sound.apart (sound : traffic.Sound) (connection : ConnectionId) (raw : traffic.session.IsRaw connection) :
    connection < traffic.session.network.medium.broker.clients.length ∧
      ∀ index, traffic.session.network.view.sourceOf index ≠ some connection := by
  refine ⟨sound.steady.network.sound.foreign_lt connection raw, fun index reads ↦ ?_⟩
  obtain ⟨agent, phase, hagent, hdispatcher⟩ := Network.sourceOf_view.1 reads
  exact sound.steady.network.sound.foreign_ne index agent.link _ (Network.getElem?_links hagent) hdispatcher raw

theorem sound_fresh : fresh.Sound where
  steady := Session.steady_fresh
  exhausted := by simp [View.Exhausted, fresh, Session.fresh, Network.view, Network.fresh]
  balanced := by
    refine ⟨fun _ _ ↦ rfl, fun connection ↦ .inl ?_⟩
    simp [fresh, Session.fresh, Network.view, Network.fresh, Medium.fresh, Broker.fresh, Broker.inbox]

/-- Whether a move is to disconnect the agent at a place. -/
def Disconnects (traffic : Traffic) (index : Nat) : Move → Prop
  | .request request => traffic.session.Disconnects index request
  | .work => False

/-- From one traffic to the one after a move. -/
structure Passes (move : Move) (before after : Traffic) : Prop where
  sound : after.Sound
  length_le : before.session.network.medium.broker.clients.length ≤ after.session.network.medium.broker.clients.length
  reads : ∀ index connection, after.session.network.Reads index connection →
    before.session.network.Reads index connection ∨ before.session.network.medium.broker.clients.length ≤ connection
  kept : ∀ index connection, ¬before.Disconnects index move → before.session.network.Reads index connection →
    after.session.network.agents[index]?.any Agent.held → ∃ other, after.session.network.Reads index other ∧
      (other = connection ∨ before.session.network.medium.broker.clients.length ≤ other)
  dispatched : ∀ connection, (∀ index, ¬before.session.network.Reads index connection) →
    after.dispatched connection = before.dispatched connection

/-- Messages flow to the next session from where a message may have been taken and handed on. -/
theorem Sound.goOn (sound : traffic.Sound) {licence : View.Licence} {start : Broker} {handed : Traffic}
    (foreign : licence.foreign = traffic.session.IsRaw)
    (disconnects : ∀ index, licence.disconnects index → traffic.Disconnects index move)
    (length : start.clients.length = traffic.session.network.medium.broker.clients.length)
    (exhausted : View.Exhausted { traffic.session.network.view with broker := start })
    (balanced : View.Balanced traffic.session.IsRaw { traffic.session.network.view with broker := start }
      handed.enqueued handed.dispatched)
    (dispatched : ∀ connection, (∀ index, ¬traffic.session.network.Reads index connection) →
      handed.dispatched connection = traffic.dispatched connection)
    (steady : next.Steady)
    (flows : View.Flows licence { traffic.session.network.view with broker := start } next.network.view)
    (raws : ∀ connection, next.IsRaw connection → traffic.session.IsRaw connection ∨
      traffic.session.network.medium.broker.clients.length ≤ connection) :
    Passes move traffic (handed.goOn start next) where
  sound := by
    refine ⟨steady, flows.exhausted exhausted, balanced.flows flows foreign ?_ ?_⟩
    · rw [length]
      exact sound.apart
    · rw [length]
      exact raws
  length_le := length ▸ flows.length_le
  reads index connection := by
    simp only [← Network.sourceOf_view, ← length]
    exact flows.reads index connection
  kept index connection stays := by
    simp only [← Network.sourceOf_view, ← Network.isHeld_view, ← length]
    exact flows.kept index connection fun told ↦ stays (disconnects index told)
  dispatched := dispatched

theorem Sound.request (sound : traffic.Sound) (request : Request) :
    Passes (.request request) traffic (traffic.request request) := by
  have steady := sound.steady.cleared.handle request
  have proceeds := Session.Proceeds.handle traffic.session.cleared request
  exact sound.goOn rfl (fun _ told ↦ told) rfl sound.exhausted sound.balanced (fun _ _ ↦ rfl) steady
    proceeds.changes.flows proceeds.raws

theorem Sound.work (sound : traffic.Sound) : Passes .work traffic traffic.work := by
  unfold Traffic.work
  cases h : traffic.session.network.tick? with
  | none =>
    exact ⟨sound, Nat.le_refl _, fun _ _ reads ↦ .inl reads, fun _ connection _ reads _ ↦ ⟨connection, reads, .inl rfl⟩,
      fun _ _ ↦ rfl⟩
  | some network =>
    have steady : Session.Steady { traffic.session with network } :=
      sound.steady.of_network rfl (sound.steady.network.tick? h)
    let licence : View.Licence := ⟨traffic.session.IsRaw, False, fun _ ↦ False⟩
    have changes := Network.changes_tick? licence sound.steady.network.sound h
    cases handed : traffic.session.network.handed? with
    | none =>
      rw [handed] at changes
      exact sound.goOn rfl (fun _ told ↦ told) rfl sound.exhausted sound.balanced (fun _ _ ↦ rfl) steady changes.flows
        fun _ raw ↦ .inl raw
    | some found =>
      obtain ⟨source, message, broker⟩ := found
      simp only [handed] at changes
      obtain ⟨taken, index, agent, phase, hagent, hdispatcher, -⟩ := Network.handed?_eq_some handed
      have reads : traffic.session.network.Reads index source := ⟨agent, phase, hagent, hdispatcher⟩
      have own : ¬traffic.session.IsRaw source :=
        sound.steady.network.sound.foreign_ne index agent.link _ (Network.getElem?_links hagent) hdispatcher
      have flows : View.Flows licence _ network.view := changes.changes.flows
      refine sound.goOn rfl (fun _ told ↦ told) (Broker.fades_of_take? taken).length_eq (sound.exhausted.take? taken)
        (sound.balanced.hand taken (Network.sourceOf_view.2 reads) own) ?_ steady flows fun _ raw ↦ .inl raw
      intro connection unread
      have hne : connection ≠ source := fun same ↦ unread index (same ▸ reads)
      exact if_neg hne

/-- Every move keeps the messages accounted for. -/
theorem Sound.passes (sound : traffic.Sound) (move : Move) : Passes move traffic (traffic.move move) := by
  cases move with
  | request request => exact sound.request request
  | work => exact sound.work

theorem Sound.run (sound : traffic.Sound) (moves : List Move) : (traffic.run moves).Sound := by
  induction moves generalizing traffic with
  | nil => exact sound
  | cons move rest ih => exact ih (sound.passes move).sound

end Traffic

end PubSub
