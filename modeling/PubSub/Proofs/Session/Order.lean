import PubSub.Proofs.Network.Waking
import PubSub.Proofs.Session.Traffic
/-!
# The order of messages

What holds of the messages of a connection in every run: they are handed on in the order in which they came, none twice
and none left out, for as long as the dispatcher of the connection is not stopped. It is stopped when its agent
disconnects, is given up or connects anew, and by nothing else; what has not been handed on by then never is.
-/

namespace PubSub.Traffic

variable {traffic : Traffic} {index : Nat} {connection : ConnectionId}

/-! ## Settling -/

/-- Once no work is left, nothing waits for a dispatcher. -/
theorem Sound.inbox_of_settled (sound : traffic.Sound) (settled : traffic.session.network.ready = [])
    (reads : traffic.session.network.Reads index connection) :
    traffic.session.network.medium.broker.inbox connection = [] := by
  obtain ⟨agent, phase, hagent, hdispatcher⟩ := reads
  by_cases finished : phase = .finished
  · subst finished
    have standing : agent.standing ∈ traffic.session.network.view.agents :=
      List.mem_map_of_mem (List.mem_of_getElem? hagent)
    exact (sound.exhausted agent.standing standing connection hdispatcher).inbox
  · exact (sound.steady.network.resting settled hagent hdispatcher finished).2.2

theorem Sound.dispatched_of_settled (sound : traffic.Sound) (settled : traffic.session.network.ready = [])
    (reads : traffic.session.network.Reads index connection) :
    traffic.dispatched connection = traffic.enqueued connection := by
  calc traffic.dispatched connection
    _ = traffic.dispatched connection ++ traffic.session.network.medium.broker.inbox connection := by
      rw [sound.inbox_of_settled settled reads, List.append_nil]
    _ = traffic.enqueued connection := (sound.balanced.of_reads (Network.sourceOf_view.2 reads)).symm

theorem work_of_settled (settled : traffic.session.network.tick? = none) : traffic.work = traffic := by
  unfold work
  rw [settled]

theorem session_work {network : Network} (h : traffic.session.network.tick? = some network) :
    traffic.work.session = { traffic.session with network } := by
  unfold work
  rw [h]
  cases traffic.session.network.handed? <;> rfl

/-- Moves that are all background work do what settling does. -/
theorem session_run_work (traffic : Traffic) (steps : Nat) :
    (traffic.run (List.replicate steps .work)).session = traffic.session.onNetwork (Network.run steps) := by
  induction steps generalizing traffic with
  | zero => rfl
  | succ steps ih =>
    have first : traffic.run (List.replicate (steps + 1) .work) = traffic.work.run (List.replicate steps .work) := rfl
    rw [first, ih]
    cases h : traffic.session.network.tick? with
    | none =>
      rw [work_of_settled h]
      simp only [Session.onNetwork, Network.run_of_tick?_eq_none h]
    | some network =>
      rw [session_work h]
      simp only [Session.onNetwork, Network.run_of_tick? h]

/-! ## Stopping -/

/-- Who reads a connection after some moves has read it before, unless the connection is new. -/
theorem Sound.reads_of_run (sound : traffic.Sound) (moves : List Move)
    (lt : connection < traffic.session.network.medium.broker.clients.length)
    (reads : (traffic.run moves).session.network.Reads index connection) :
    traffic.session.network.Reads index connection := by
  induction moves generalizing traffic with
  | nil => exact reads
  | cons move rest ih =>
    have passes := sound.passes move
    rcases passes.reads index connection (ih passes.sound (Nat.lt_of_lt_of_le lt passes.length_le) reads) with
      earlier | fresh
    · exact earlier
    · exact absurd lt (Nat.not_lt.2 fresh)

/-- Nothing more is handed on from a connection that nobody reads. -/
theorem Sound.dispatched_of_unread (sound : traffic.Sound) (moves : List Move)
    (lt : connection < traffic.session.network.medium.broker.clients.length)
    (unread : ∀ index, ¬traffic.session.network.Reads index connection) :
    (traffic.run moves).dispatched connection = traffic.dispatched connection := by
  induction moves generalizing traffic with
  | nil => rfl
  | cons move rest ih =>
    have passes := sound.passes move
    have unread' (index : Nat) : ¬(traffic.move move).session.network.Reads index connection := by
      intro reads
      rcases passes.reads index connection reads with earlier | fresh
      · exact unread index earlier
      · exact absurd lt (Nat.not_lt.2 fresh)
    calc (traffic.run (move :: rest)).dispatched connection
      _ = (traffic.move move).dispatched connection :=
        ih passes.sound (Nat.lt_of_lt_of_le lt passes.length_le) unread'
      _ = traffic.dispatched connection := passes.dispatched connection unread

/-- A connection is read by one agent at most, and exists. -/
theorem Sound.reads_unique (sound : traffic.Sound) {other : Nat}
    (reads : traffic.session.network.Reads index connection)
    (reads' : traffic.session.network.Reads other connection) : index = other := by
  obtain ⟨agent, phase, hagent, hdispatcher⟩ := reads
  obtain ⟨another, phase', hanother, hdispatcher'⟩ := reads'
  exact sound.steady.network.sound.readers index other agent.link another.link _ _ (Network.getElem?_links hagent)
    (Network.getElem?_links hanother) hdispatcher hdispatcher' rfl

theorem Sound.lt_of_reads (sound : traffic.Sound) (reads : traffic.session.network.Reads index connection) :
    connection < traffic.session.network.medium.broker.clients.length := by
  obtain ⟨agent, phase, hagent, hdispatcher⟩ := reads
  exact (sound.steady.network.sound.sound_link hagent).source_lt _ hdispatcher

theorem Sound.length_le_run (sound : traffic.Sound) (moves : List Move) :
    traffic.session.network.medium.broker.clients.length ≤
      (traffic.run moves).session.network.medium.broker.clients.length := by
  induction moves generalizing traffic with
  | nil => exact Nat.le_refl _
  | cons move rest ih =>
    have passes := sound.passes move
    exact Nat.le_trans passes.length_le (ih passes.sound)

/-- A dispatcher that has been stopped hands nothing on, whatever comes later. -/
theorem Sound.dispatched_of_stopped (sound : traffic.Sound) (moves later : List Move)
    (reads : traffic.session.network.Reads index connection)
    (stopped : ¬(traffic.run moves).session.network.Reads index connection) :
    ((traffic.run moves).run later).dispatched connection = (traffic.run moves).dispatched connection := by
  have lt := sound.lt_of_reads reads
  have unread (other : Nat) : ¬(traffic.run moves).session.network.Reads other connection := by
    intro reads'
    have same : index = other := sound.reads_unique reads (sound.reads_of_run moves lt reads')
    exact stopped (same ▸ reads')
  exact (sound.run moves).dispatched_of_unread later (Nat.lt_of_lt_of_le lt (sound.length_le_run moves)) unread

/-! ## What stops a dispatcher -/

/-- An agent that holds a connection reads that one. -/
theorem Sound.eq_of_held (sound : traffic.Sound) {agent : Agent} {handle : ConnectionId}
    (h : traffic.session.network.agents[index]? = some agent) (held : agent.connection.handle = some handle)
    (reads : traffic.session.network.Reads index connection) : connection = handle := by
  obtain ⟨same, phase, hsame, hdispatcher⟩ := reads
  obtain rfl : agent = same := Option.some.inj (h.symm.trans hsame)
  obtain ⟨phase', dispatched⟩ := (sound.steady.network.sound.sound_link h).dispatched handle held
  have hdispatcher' : agent.dispatcher = some ⟨handle, phase'⟩ := dispatched
  rw [hdispatcher', Option.some.injEq, Dispatcher.mk.injEq] at hdispatcher
  exact hdispatcher.1.symm

/-- An agent that has done something reads what its dispatcher reads then. -/
theorem reads_onAgent_iff {session : Session} {α : Type} {agent : Agent}
    {operation : Medium → Agent → Medium × Agent × Except Error α} {answer : α → Answer}
    (h : session.network.agents[index]? = some agent) :
    (session.onAgent index agent operation answer).1.network.Reads index connection ↔
      ∃ phase, (operation session.network.medium agent).2.1.dispatcher = some ⟨connection, phase⟩ := by
  have h' : ({ session.network with medium := (operation session.network.medium agent).1 } : Network).agents[index]? =
      some agent := h
  have place : (session.onAgent index agent operation answer).1.network.agents[index]? =
      some (operation session.network.medium agent).2.1 := Network.getElem?_wake_setAgent h' _
  exact Network.reads_iff place

theorem not_reads_disconnect {label : String} {agent : Agent}
    (h : traffic.session.findAgent label = .ok (index, agent)) :
    ¬(traffic.request (.disconnect label)).session.network.Reads index connection := by
  have hfind : traffic.session.cleared.findAgent label = .ok (index, agent) := h
  have handled : traffic.session.cleared.handle (.disconnect label) = traffic.session.cleared.onAgent index agent
      (fun medium agent ↦ ((agent.disconnect medium).1, (agent.disconnect medium).2, pure ())) fun _ ↦ .done := by
    have asked : traffic.session.cleared.handle (.disconnect label) = traffic.session.cleared.attempt
        (traffic.session.cleared.findAgent label >>= _) := rfl
    rw [asked, hfind]
    rfl
  intro reads
  unfold Traffic.request goOn at reads
  rw [handled, reads_onAgent_iff (Session.findAgent_eq_ok hfind)] at reads
  obtain ⟨phase, reads⟩ := reads
  rw [(Agent.disconnect_eq _ agent).2] at reads
  cases reads

/-- A connect that fails leaves the agent with the connection that it reads; after one that succeeds it reads a new
connection. -/
theorem reads_connect {label : String} {overrides : BrokerOverrides} {agent : Agent}
    (h : traffic.session.findAgent label = .ok (index, agent))
    (lt : connection < traffic.session.network.medium.broker.clients.length) :
    (traffic.request (.connect label overrides)).session.network.Reads index connection ↔
      (traffic.session.cleared.handle (.connect label overrides)).2.isOk = false ∧
        traffic.session.network.Reads index connection := by
  have hfind : traffic.session.cleared.findAgent label = .ok (index, agent) := h
  have place := Session.findAgent_eq_ok hfind
  have handled : traffic.session.cleared.handle (.connect label overrides) = traffic.session.cleared.onAgent index agent
      (fun medium agent ↦ agent.connect medium overrides) fun _ ↦ .done := by
    have asked : traffic.session.cleared.handle (.connect label overrides) = traffic.session.cleared.attempt
        (traffic.session.cleared.findAgent label >>= _) := rfl
    rw [asked, hfind]
    rfl
  have answered : (traffic.session.cleared.handle (.connect label overrides)).2.isOk =
      (agent.connect traffic.session.cleared.network.medium overrides).2.2.isOk := by
    rw [handled]
    unfold Session.onAgent Network.onAgent
    simp only
    cases (agent.connect traffic.session.cleared.network.medium overrides).2.2 <;> rfl
  have reads_iff : traffic.session.network.Reads index connection ↔
      ∃ phase, agent.dispatcher = some ⟨connection, phase⟩ := Network.reads_iff place
  rw [answered, reads_iff]
  unfold Traffic.request goOn
  rw [handled, reads_onAgent_iff place]
  rcases Agent.dispatcher_connect traffic.session.cleared.network.medium agent overrides with
    ⟨failed, same⟩ | ⟨handle, le, done, started⟩
  · simp only [failed, same, true_and]
  · simp only [done, started, Bool.true_eq_false, false_and, iff_false]
    rintro ⟨phase, same⟩
    rw [Option.some.injEq, Dispatcher.mk.injEq] at same
    exact absurd (same.1 ▸ lt) (Nat.not_lt.2 le)

section GiveUp

variable {network : Network} {dispose : Network → Agent → ConnectionId → Network}
  (disposes : dispose = Network.closeLater ∨ dispose = Network.forget)
include disposes

theorem getElem?_giveUp {agent : Agent} (h : network.agents[index]? = some agent) :
    (network.giveUp index dispose).agents[index]? = some agent.release.1 := by
  have released : (network.setAgent index agent.release.1).agents[index]? = some agent.release.1 := by
    obtain ⟨ready, same, -⟩ := Network.setAgent_eq network index agent.release.1
    rw [same]
    exact List.getElem?_set_self (List.getElem?_eq_some_iff.1 h).1
  unfold Network.giveUp
  rw [h]
  simp only
  cases agent.release.2 with
  | none => exact released
  | some handle =>
    have same : (dispose (network.setAgent index agent.release.1) agent handle).agents =
        (network.setAgent index agent.release.1).agents := by
      rcases disposes with rfl | rfl
      · obtain ⟨ready, same, -⟩ :=
          Network.schedule_eq (network.setAgent index agent.release.1) (.close agent.transport handle)
        rw [Network.closeLater, same]
      · obtain ⟨ready, same, -⟩ := Network.wake_eq { network.setAgent index agent.release.1 with
          medium := (network.setAgent index agent.release.1).medium.onBroker fun broker ↦ broker.close handle }
        rw [Network.forget, Network.onMedium, same]
    simp only [same, released]

/-- Whoever is given up reads nothing. -/
theorem not_reads_giveUp : ¬(network.giveUp index dispose).Reads index connection := by
  cases h : network.agents[index]? with
  | none =>
    have same : network.giveUp index dispose = network := by
      unfold Network.giveUp
      rw [h]
    rw [same]
    rintro ⟨agent, phase, hagent, -⟩
    rw [h] at hagent
    cases hagent
  | some agent =>
    rw [Network.reads_iff (getElem?_giveUp disposes h)]
    rintro ⟨phase, reads⟩
    cases reads

end GiveUp

theorem not_reads_dropAgent {label : String} (background : Bool)
    (h : traffic.session.agents.get? label = some index)
    (idle : traffic.session.network.isConnecting index = false) :
    ¬(traffic.request (.dropAgent label background)).session.network.Reads index connection := by
  let dispose := if background then Network.closeLater else Network.forget
  have disposes : dispose = Network.closeLater ∨ dispose = Network.forget := by
    cases background
    · exact .inr rfl
    · exact .inl rfl
  have known : traffic.session.cleared.agents.get? label = some index := h
  have dropped : (traffic.request (.dropAgent label background)).session.network =
      traffic.session.cleared.network.letGo index dispose := by
    unfold Traffic.request goOn Session.handle
    simp only [known]
    rfl
  have idle' : (traffic.session.cleared.network.modifyAgent index fun agent ↦ { agent with held := false }).isConnecting
      index = false := idle
  rw [dropped, Network.letGo]
  simp only [idle']
  exact not_reads_giveUp disposes

/-! ## The order of messages -/

/-- What holds of the messages of all connections. A dispatcher that was started for a connection and has not been
stopped is one that reads it. -/
structure Orderly (traffic : Traffic) : Prop where
  /-- What a step of background work is noted to hand on, it dispatches to an agent that reads the connection. -/
  dispatches : ∀ connection message broker, traffic.session.network.handed? = some (connection, message, broker) →
    ∃ index agent, traffic.session.network.agents[index]? = some agent ∧
      traffic.session.network.Reads index connection ∧ traffic.session.network.tick? = some (Network.dispatch
        { traffic.session.network with medium := { traffic.session.network.medium with broker } } index agent message)
  /-- Messages are handed on in the order in which they came, none twice and none left out in between. -/
  handed : ∀ connection, traffic.dispatched connection <+: traffic.enqueued connection
  /-- When no work is left, a dispatcher that has not been stopped has handed everything on. -/
  settled : traffic.session.network.ready = [] → ∀ index connection, traffic.session.network.Reads index connection →
    traffic.dispatched connection = traffic.enqueued connection
  /-- Callbacks that leave the broker alone let the work come to an end. -/
  settles : traffic.session.network.Quiet → ∃ steps,
    (traffic.run (List.replicate steps .work)).session.network.ready = []
  /-- Once a dispatcher has been stopped, nothing is handed on from its connection. -/
  stopped : ∀ moves later index connection, traffic.session.network.Reads index connection →
    ¬(traffic.run moves).session.network.Reads index connection →
    ((traffic.run moves).run later).dispatched connection = (traffic.run moves).dispatched connection
  /-- Only a disconnect, the end of the agent and a new connection stop a dispatcher. -/
  kept : ∀ move index connection, traffic.session.network.Reads index connection →
    traffic.Disconnects index move ∨ (traffic.move move).session.network.agents[index]?.any Agent.held = false ∨
    ∃ other, (traffic.move move).session.network.Reads index other ∧
      (other = connection ∨ traffic.session.network.medium.broker.clients.length ≤ other)
  /-- An agent that holds a connection reads that one alone. -/
  held : ∀ (index : Nat) (agent : Agent) (handle connection : ConnectionId),
    traffic.session.network.agents[index]? = some agent → agent.connection.handle = some handle →
    traffic.session.network.Reads index connection → connection = handle
  /-- A connect stops the dispatcher that there was if it succeeds, and only then. -/
  connected : ∀ label overrides index agent connection, traffic.session.findAgent label = .ok (index, agent) →
    traffic.session.network.Reads index connection →
    ((traffic.request (.connect label overrides)).session.network.Reads index connection ↔
      (traffic.session.cleared.handle (.connect label overrides)).2.isOk = false)
  disconnected : ∀ label index agent connection, traffic.session.findAgent label = .ok (index, agent) →
    ¬(traffic.request (.disconnect label)).session.network.Reads index connection
  /-- An agent ends when it is dropped while no connect of it is under way. -/
  dropped : ∀ label background index connection, traffic.session.agents.get? label = some index →
    traffic.session.network.isConnecting index = false →
    ¬(traffic.request (.dropAgent label background)).session.network.Reads index connection

theorem Sound.orderly (sound : traffic.Sound) : traffic.Orderly where
  dispatches _ _ _ handed := by
    obtain ⟨-, index, agent, phase, hagent, reads, ticks⟩ := Network.handed?_eq_some handed
    exact ⟨index, agent, hagent, ⟨agent, phase, hagent, reads⟩, ticks⟩
  handed := sound.balanced.isPrefix
  settled settled _ _ reads := sound.dispatched_of_settled settled reads
  settles quiet := by
    obtain ⟨steps, settled⟩ := traffic.session.network.exists_settled quiet
    refine ⟨steps, ?_⟩
    rw [session_run_work]
    exact settled
  stopped moves later _ _ reads stopped := sound.dispatched_of_stopped moves later reads stopped
  kept move index connection reads := by
    by_cases told : traffic.Disconnects index move
    · exact .inl told
    · cases held : (traffic.move move).session.network.agents[index]?.any Agent.held with
      | false => exact .inr (.inl rfl)
      | true => exact .inr (.inr ((sound.passes move).kept index connection told reads held))
  held _ _ _ _ h held reads := sound.eq_of_held h held reads
  connected label overrides index agent connection h reads := by
    rw [reads_connect h (sound.lt_of_reads reads)]
    exact and_iff_left reads
  disconnected _ _ _ _ h := not_reads_disconnect h
  dropped _ background _ _ h idle := not_reads_dropAgent background h idle

/-- In every run the messages of each connection are handed on in order. -/
theorem hands_on_in_order (moves : List Move) : (fresh.run moves).Orderly :=
  (sound_fresh.run moves).orderly

/-- A connection is lost while two messages wait, and the connect that is to replace it fails: both messages are handed
on. A message that waits on the next connection when the agent disconnects is not. -/
theorem hands_on_in_order_lost : ∃ lost connects stops : List Move,
    (fresh.run lost).session.network.medium.broker.isLive 0 = false ∧
    (fresh.run lost).enqueued 0 = [⟨"speed", [1]⟩, ⟨"speed", [2]⟩] ∧
    (fresh.run lost).dispatched 0 = (fresh.run lost).enqueued 0 ∧
    (((fresh.run lost).run connects).run stops).enqueued 1 = [⟨"speed", [3]⟩] ∧
    ∀ later, ((((fresh.run lost).run connects).run stops).run later).dispatched 1 = [] := by
  let publish (payload : Bytes) : Move := .request (.publish "speed" (.ok payload) false 1)
  let lost : List Move := [
    .request (.build ⟨"agent", "role", none, none, none, .none, some true, none, .plain⟩), .work,
    .request (.createReceiver
      ⟨"agent", "all", .u32, "all", { ChannelOptions.none with overrideTopic := some "#" }, none⟩),
    publish [1], publish [2], .request .silenceAll, .request (.setAvailable false), .request (.connect "agent" .none),
    .work, .work, .work]
  let connects : List Move := [.request (.setAvailable true), .request (.connect "agent" .none)]
  let stops : List Move := [publish [3], .request (.disconnect "agent")]
  have orderly : (fresh.run lost).Orderly := hands_on_in_order lost
  have orderly' : (fresh.run (lost ++ connects)).Orderly := hands_on_in_order (lost ++ connects)
  rw [show fresh.run (lost ++ connects) = (fresh.run lost).run connects from List.foldl_append] at orderly'
  have settled : (fresh.run lost).session.network.ready = [] := by decide +kernel
  have unread : (((fresh.run lost).run connects).run stops).dispatched 1 = [] := by decide +kernel
  have reads : (fresh.run lost).session.network.Reads 0 0 := by decide +kernel
  have reads' : ((fresh.run lost).run connects).session.network.Reads 0 1 := by decide +kernel
  have stopped : ¬(((fresh.run lost).run connects).run stops).session.network.Reads 0 1 := by decide +kernel
  refine ⟨lost, connects, stops, by decide +kernel, by decide +kernel, ?_, by decide +kernel, fun later ↦ ?_⟩
  · exact orderly.settled settled 0 0 reads
  · exact (orderly'.stopped stops later 0 1 reads' stopped).trans unread

end PubSub.Traffic
