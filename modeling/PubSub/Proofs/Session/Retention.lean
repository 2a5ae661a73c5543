import PubSub.Proofs.Session.Connections
import PubSub.Proofs.Session.Offers
import PubSub.Proofs.Session.Resubscription
/-!
# How often retained messages are offered

The broker sends the retained messages that a filter accepts with every subscription to it, also if the client has
subscribed to the filter before, and the dispatcher offers each copy to all receivers of the agent that accept it. So
after a connect a receiver is offered a retained message as often as there are receivers of the agent whose filter
accepts the topic, and when one more is created, once more if its filter does. Of each topic there is one retained
message.
-/

namespace PubSub

variable {index place : Nat} {agent later : Agent} {connection : ConnectionId} {message : Message}
  {receiver : Receiver} {retained : List Message}

/-! ## One message for a topic -/

namespace View

variable {licence : Licence} {before after : View}

theorem Change.distinct (change : Change licence before after)
    (distinct : (before.broker.retained.map Message.topic).Nodup) :
    (after.broker.retained.map Message.topic).Nodup := by
  cases change with
  | outside grows => exact grows.distinct distinct
  | close h fewer => exact (before.broker.grows_close _).distinct distinct
  | act h advances kept => exact advances.grows.distinct distinct
  | lend lends owner link held grows => exact grows.distinct distinct
  | _ => exact distinct

theorem Changes.distinct (changes : Changes licence before after)
    (distinct : (before.broker.retained.map Message.topic).Nodup) :
    (after.broker.retained.map Message.topic).Nodup := by
  induction changes with
  | refl => exact distinct
  | tail _ change ih => exact change.distinct ih

end View

namespace Traffic

variable {traffic : Traffic} {move : Move}

theorem Sound.distinct_move (sound : traffic.Sound) (move : Move)
    (distinct : (traffic.session.network.medium.broker.retained.map Message.topic).Nodup) :
    ((traffic.move move).session.network.medium.broker.retained.map Message.topic).Nodup := by
  cases move with
  | request request => exact (Session.Proceeds.handle traffic.session.cleared request).changes.distinct distinct
  | work =>
    cases ticks : traffic.session.network.tick? with
    | none =>
      have same : traffic.move .work = traffic := work_of_settled ticks
      rwa [same]
    | some network =>
      have same : (traffic.move .work).session = { traffic.session with network } := session_work ticks
      let licence : View.Licence := ⟨fun _ ↦ False, False, fun _ ↦ False⟩
      have changes := Network.changes_tick? licence sound.steady.network.sound ticks
      rw [same]
      cases handed : traffic.session.network.handed? with
      | none =>
        rw [handed] at changes
        exact changes.distinct distinct
      | some found =>
        obtain ⟨source, taken, broker⟩ := found
        simp only [handed] at changes
        obtain ⟨rest, -, rfl⟩ := Broker.take?_eq_some (Network.handed?_eq_some handed).1
        have grown : View.Changes licence _ network.view := changes.changes
        exact grown.distinct distinct

/-- Of each topic the broker retains one message at most. -/
theorem distinct_run (moves : List Move) :
    ((fresh.run moves).session.network.medium.broker.retained.map Message.topic).Nodup := by
  induction moves using List.reverseRecOn with
  | nil => exact List.nodup_nil
  | append_singleton moves move ih =>
    rw [run_concat]
    exact (sound_fresh.run moves).distinct_move move ih

end Traffic

/-! ## Copies -/

/-- Whether a transport grants every subscription on a live connection. -/
def Medium.Faultless (medium : Medium) (transport : Transport) : Prop :=
  ∀ receiver, medium.grants transport receiver

/-- A retained message is sent once for a filter that accepts its topic. -/
theorem count_retained (distinct : (retained.map Message.topic).Nodup) (hmem : message ∈ retained) (filter : String) :
    (retained.filter fun other ↦ Filter.accepts filter other.topic).count message =
      if Filter.accepts filter message.topic then 1 else 0 := by
  split
  · rename_i accepts
    refine (List.count_filter (p := fun other : Message ↦ Filter.accepts filter other.topic) accepts).trans ?_
    exact List.count_eq_one_of_mem (.of_map _ distinct) hmem
  · rename_i refuses
    exact List.count_eq_zero.2 fun found ↦ refuses (List.mem_filter.1 found).2

/-- So it is sent once for each receiver whose filter accepts its topic. -/
theorem count_flatMap_retained (distinct : (retained.map Message.topic).Nodup) (hmem : message ∈ retained)
    (receivers : List Receiver) :
    (receivers.flatMap fun receiver ↦ retained.filter fun other ↦
      Filter.accepts receiver.pattern.text other.topic).count message =
      receivers.countP fun receiver ↦ Filter.accepts receiver.pattern.text message.topic := by
  induction receivers with
  | nil => rfl
  | cons receiver rest ih =>
    rw [List.flatMap_cons, List.count_append, count_retained distinct hmem, ih, List.countP_cons, Nat.add_comm]

namespace Agent

variable {before after medium : Medium}

/-- The inbox of a new connection holds what the subscriptions of the receivers have brought. -/
theorem Resubscribes.inbox (resubscribes : agent.Resubscribes before later after)
    (faultless : before.Faultless agent.transport) :
    after.broker.inbox before.broker.clients.length = agent.receivers.flatMap fun receiver ↦
      before.broker.retained.filter fun message ↦ Filter.accepts receiver.pattern.text message.topic := by
  obtain ⟨asked, notes, asks, -, rfl⟩ := resubscribes.observed
  have all : agent.receivers.filter (before.grants agent.transport) = agent.receivers :=
    List.filter_eq_self.2 fun receiver _ ↦ faultless receiver
  have length := asks.keeps.2.2.1
  simp only [Broker.inbox, ← length, List.getElem?_concat_length, Option.map_some, Option.getD_some, clientRecord, all]

theorem liveHandle?_eq_some (h : agent.liveHandle? medium = some connection) :
    agent.connection.state = .connected ∧ agent.connection.handle = some connection ∧
      medium.broker.isLive connection := by
  unfold liveHandle? Connection.liveHandle? at h
  obtain ⟨connected, held⟩ := Option.ite_none_right_eq_some.1 h
  rw [Connection.isConnected, held, Option.any_some, Bool.and_eq_true, decide_eq_true_eq] at connected
  exact ⟨connected.1, held, (Bool.and_eq_true_iff.1 connected.2).1⟩

/-- A receiver that is subscribed on a live connection gets what is retained for it. -/
theorem inbox_subscribe (live : agent.liveHandle? medium = some connection)
    (faultless : medium.Faultless agent.transport) (receiver : Receiver) :
    (agent.subscribe medium receiver).1.broker.inbox connection = medium.broker.inbox connection ++
      medium.broker.retained.filter fun message ↦ Filter.accepts receiver.pattern.text message.topic := by
  obtain ⟨state, held, alive⟩ := liveHandle?_eq_some live
  have broker : (agent.subscribe medium receiver).1.broker =
      (medium.attempted agent.transport connection receiver).broker := by
    rw [← (subscribe_eq state held alive receiver).1]
    split <;> rfl
  rw [broker, Medium.attempted, if_pos (faultless receiver), Broker.inbox_modifyClient, if_pos rfl]
  unfold Broker.isLive at alive
  obtain ⟨client, hclient, -⟩ := (Option.any_eq_true _ _).1 alive
  simp only [Broker.inbox, hclient, Option.map_some, Option.getD_some]
  rfl

end Agent

namespace Session

variable {session : Session} {request : ChannelRequest}

theorem handle_createReceiver {qos : Option QoS} (checked : checkQoS request.qos = .ok qos)
    (found : session.findAgent request.agent = .ok (index, agent)) : session.handle (.createReceiver request) =
      session.createReceiver index agent request { request.options with qos } := by
  have asked : session.handle (.createReceiver request) = session.attempt (checkQoS request.qos >>= _) := rfl
  rw [asked, checked]
  change session.attempt (session.findAgent request.agent >>= _) = _
  rw [found]
  rfl

/-- If the agent has more receivers after a request to create one, that is what creating it has led to. -/
theorem createReceiver_of_grown (found : session.findAgent request.agent = .ok (index, agent))
    (h : (session.handle (.createReceiver request)).1.network.agents[index]? = some later)
    (grown : agent.receivers.length < later.receivers.length) :
    ∃ options after place,
      agent.createReceiver session.network.medium request.name request.kind options = .ok (after, later, place) ∧
        (session.handle (.createReceiver request)).1.network.medium = after := by
  have place := findAgent_eq_ok found
  have unchanged {next : Session} (same : next = session) (h : next.network.agents[index]? = some later) : False := by
    rw [same, place] at h
    rw [Option.some.inj h] at grown
    exact Nat.lt_irrefl _ grown
  cases checked : checkQoS request.qos with
  | error refusal =>
    have asked : session.handle (.createReceiver request) = session.attempt (checkQoS request.qos >>= _) := rfl
    rw [asked, checked] at h
    exact (unchanged rfl h).elim
  | ok qos =>
    rw [handle_createReceiver checked found] at h ⊢
    unfold createReceiver at h ⊢
    cases created : agent.createReceiver session.network.medium request.name request.kind
        { request.options with qos } with
    | error error =>
      rw [created] at h
      exact (unchanged rfl h).elim
    | ok result =>
      obtain ⟨after, changed, place'⟩ := result
      simp only [created] at h ⊢
      have there : (Network.wake { session.network with
          medium := after, agents := session.network.agents.set index changed }).agents[index]? = some changed := by
        rw [Network.agents_wake]
        exact List.getElem?_set_self (List.getElem?_eq_some_iff.1 place).1
      refine ⟨_, after, place', created.trans ?_, ?_⟩
      · split at h <;> rw [← Option.some.inj (there.symm.trans h)]
      · split <;> exact Network.medium_wake _

end Session

/-! ## Supplies -/

namespace Traffic

variable {traffic : Traffic} {move : Move} {messages : List Message} {copies : Message → Nat}

/-- How often messages are offered to the receivers of an agent until no work is left: as often as `copies` says, and
once for each time that the message comes in meanwhile on the connection that the agent reads. A receiver that does not
accept the topic is offered nothing. -/
structure Supplies (traffic : Traffic) (index : Nat) (connection : ConnectionId) (messages : List Message)
    (copies : Message → Nat) : Prop where
  offered : ∀ steps, traffic.Settles steps index → ∀ message ∈ messages, ∀ place receiver,
    traffic.session.network.receiver? ⟨index, place⟩ = some receiver →
    traffic.offers steps ⟨index, place⟩ message =
      if receiver.pattern.accepts message.topic then
        copies message + (traffic.arrives steps connection).count message
      else 0
  /-- Where callbacks leave the broker alone and no connect is to be carried on, the work comes to an end, and nothing
  comes in. -/
  undisturbed : traffic.session.network.Undisturbed → traffic.session.network.agents[index]?.any Agent.held →
    (∃ steps, traffic.Settles steps index) ∧ ∀ steps, traffic.arrives steps connection = []

/-- An agent that holds a connection reads it. -/
theorem Sound.reads_of_handle (sound : traffic.Sound) (h : traffic.session.network.agents[index]? = some agent)
    (held : agent.connection.handle = some connection) : traffic.session.network.Reads index connection := by
  obtain ⟨phase, reads⟩ := (sound.steady.network.sound.sound_link h).dispatched connection held
  exact ⟨agent, phase, h, reads⟩

theorem Sound.supplies (sound : traffic.Sound) (h : traffic.session.network.agents[index]? = some agent)
    (reads : agent.held → traffic.session.network.Reads index connection)
    (stands : ∀ message ∈ messages,
      (traffic.session.network.medium.broker.inbox connection).count message = copies message) :
    traffic.Supplies index connection messages copies where
  offered steps settles message hmem place receiver hreceiver := by
    obtain ⟨settled, held, never⟩ := settles
    have reads := reads (held_of_run _ h held)
    rw [offers_of_settled sound reads settled (reads_settled sound reads held never) hreceiver message,
      stands message hmem]
  undisturbed undisturbed held := by
    obtain ⟨settles, nothing⟩ := settles_of_undisturbed undisturbed held
    exact ⟨settles, fun steps ↦ nothing steps connection⟩

/-- How often a message is offered if nothing comes in meanwhile. -/
theorem Supplies.offers_eq {steps : Nat} {accepts : Bool}
    (supplies : traffic.Supplies index connection messages copies) (settles : traffic.Settles steps index)
    (nothing : traffic.arrives steps connection = []) (hmem : message ∈ messages)
    (h : (traffic.session.network.receiver? ⟨index, place⟩).map (fun receiver ↦
      receiver.pattern.accepts message.topic) = some accepts) :
    traffic.offers steps ⟨index, place⟩ message = if accepts then copies message else 0 := by
  obtain ⟨receiver, hreceiver, rfl⟩ := Option.map_eq_some_iff.1 h
  rw [supplies.offered steps settles message hmem place receiver hreceiver, nothing, List.count_nil, Nat.add_zero]

/-- Whatever brings a connect to success subscribes the receivers again. -/
theorem exists_resubscribes (connects : traffic.Connects index move) : ∃ agent later,
    traffic.session.network.agents[index]? = some agent ∧
      (traffic.move move).session.network.agents[index]? = some later ∧
      agent.Resubscribes (traffic.start move).medium later (traffic.move move).session.network.medium := by
  cases move with
  | request request => exact Session.resubscribes_of_connects connects
  | work =>
    have ⟨after, _, _, ticks, _⟩ := connects
    have same : (traffic.move .work).session = { traffic.session with network := after } := session_work ticks
    rw [same]
    exact Network.resubscribes_of_completes ticks connects

theorem supplies_of_connects (moves : List Move) (connects : (fresh.run moves).Connects index move)
    (h : (fresh.run moves).session.network.agents[index]? = some agent)
    (faultless : (fresh.run moves).session.network.medium.Faultless agent.transport) :
    ((fresh.run moves).move move).Supplies index (fresh.run moves).session.network.medium.broker.clients.length
      (fresh.run moves).session.network.medium.broker.retained fun message ↦
        agent.receivers.countP fun receiver ↦ Filter.accepts receiver.pattern.text message.topic := by
  have sound := ((sound_fresh.run moves).passes move).sound
  obtain ⟨same, later, hsame, hlater, resubscribes⟩ := exists_resubscribes connects
  obtain rfl : same = agent := Option.some.inj (hsame.symm.trans h)
  obtain ⟨again, hagain, conduct⟩ := ((fresh.run moves).conducts_move move).kept index same h
  obtain rfl : again = later := Option.some.inj (hagain.symm.trans hlater)
  have faultless' : ((fresh.run moves).start move).medium.Faultless same.transport := by
    cases move <;> exact faultless
  have found : ((fresh.run moves).start move).medium.broker = (fresh.run moves).session.network.medium.broker := by
    cases move <;> rfl
  have inbox := resubscribes.inbox faultless'
  have connected := resubscribes.connected
  rw [found] at inbox connected
  refine sound.supplies hlater (fun held ↦ ?_) fun message hmem ↦ ?_
  · exact sound.reads_of_handle hlater (connected (conduct.held held)).2
  · rw [inbox]
    exact count_flatMap_retained (distinct_run moves) hmem same.receivers

theorem supplies_of_createReceiver (moves : List Move) {request : ChannelRequest}
    (found : (fresh.run moves).session.findAgent request.agent = .ok (index, agent))
    (live : agent.liveHandle? (fresh.run moves).session.network.medium = some connection)
    (faultless : (fresh.run moves).session.network.medium.Faultless agent.transport)
    (added : ((fresh.run moves).move (.request (.createReceiver request))).session.network.receiver?
      ⟨index, agent.receivers.length⟩ = some receiver) :
    ((fresh.run moves).move (.request (.createReceiver request))).Supplies index connection
      (fresh.run moves).session.network.medium.broker.retained fun message ↦
        ((fresh.run moves).session.network.medium.broker.inbox connection).count message +
          if Filter.accepts receiver.pattern.text message.topic then 1 else 0 := by
  have sound := ((sound_fresh.run moves).passes (.request (.createReceiver request))).sound
  obtain ⟨later, hlater, hplace⟩ := Network.receiver?_eq_some_iff.1 added
  let cleared := (fresh.run moves).session.cleared
  have found' : cleared.findAgent request.agent = .ok (index, agent) := found
  obtain ⟨options, after, place, created, medium⟩ :=
    Session.createReceiver_of_grown found' hlater (List.getElem?_eq_some_iff.1 hplace).1
  obtain ⟨-, ⟨-, -, rfl⟩ | ⟨described, new, -, -, same, -, rfl, broker⟩⟩ := Agent.createReceiver_outcome created
  · exact absurd (List.getElem?_eq_some_iff.1 hplace).1 (Nat.lt_irrefl _)
  obtain rfl : new = receiver := by simpa using hplace
  have pattern : described.pattern = new.pattern := (congrArg (·.pattern) same).symm
  have live' : agent.liveHandle? cleared.network.medium = some connection := live
  have connected : agent.isConnected cleared.network.medium := by
    rw [← Session.isSome_liveHandle?, live', Option.isSome_some]
  refine sound.supplies hlater (fun _ ↦ ?_) fun message hmem ↦ ?_
  · exact sound.reads_of_handle hlater (Agent.liveHandle?_eq_some live).2.1
  · have inbox := Agent.inbox_subscribe live' faultless described
    rw [← broker connected, ← medium, pattern] at inbox
    let start := (fresh.run moves).session.network.medium.broker
    calc (((fresh.run moves).move (.request (.createReceiver request))).session.network.medium.broker.inbox
          connection).count message
      _ = (start.inbox connection ++ start.retained.filter fun other ↦
          Filter.accepts new.pattern.text other.topic).count message := congrArg (List.count message) inbox
      _ = (start.inbox connection).count message + (start.retained.filter fun other ↦
          Filter.accepts new.pattern.text other.topic).count message := List.count_append
      _ = (start.inbox connection).count message + if Filter.accepts new.pattern.text message.topic then 1 else 0 := by
        rw [count_retained (distinct_run moves) hmem]

/-- Of each topic one message is retained at most. If no subscription of an agent fails, then until no work is left
after a connect each receiver of the agent that accepts the topic is offered the retained message as often as the agent
has receivers whose filter accepts it, whether or not their filters are the same; and when a receiver is created while
the agent is connected, all of them are offered it once more than it waits for them already, if the filter of the new
one accepts it. The others are not offered it. What comes in meanwhile comes on top. -/
theorem offers_retained (moves : List Move) (h : (fresh.run moves).session.network.agents[index]? = some agent)
    (faultless : (fresh.run moves).session.network.medium.Faultless agent.transport) :
    let network := (fresh.run moves).session.network
    let broker := network.medium.broker
    (broker.retained.map Message.topic).Nodup ∧
    (∀ move, (fresh.run moves).Connects index move →
      ((fresh.run moves).move move).Supplies index broker.clients.length broker.retained fun message ↦
        agent.receivers.countP fun receiver ↦ Filter.accepts receiver.pattern.text message.topic) ∧
    ∀ request connection receiver, (fresh.run moves).session.findAgent request.agent = .ok (index, agent) →
      agent.liveHandle? network.medium = some connection →
      ((fresh.run moves).move (.request (.createReceiver request))).session.network.receiver?
        ⟨index, agent.receivers.length⟩ = some receiver →
      ((fresh.run moves).move (.request (.createReceiver request))).Supplies index connection broker.retained
        fun message ↦ (broker.inbox connection).count message +
          if Filter.accepts receiver.pattern.text message.topic then 1 else 0 :=
  ⟨distinct_run moves, fun _ connects ↦ supplies_of_connects moves connects h faultless,
    fun _ _ _ found live added ↦ supplies_of_createReceiver moves found live faultless added⟩

/-- Three of four receivers accept a topic, two of them with one filter, the third with a filter that does not accept
it: after the connect each of the three is offered the retained message twice. Another one that is created later brings
it to them, and to itself, once more. -/
theorem offers_retained_overlapping :
    let receiver (label pattern : String) : ChannelRequest :=
      ⟨"agent", label, .u32, label, { ChannelOptions.none with overrideTopic := some pattern }, none⟩
    let prepared : List Move := [
      .request (.publish "car/speed/1" (.ok [7]) true 1), .request (.publish "car/engine/1" (.ok [8]) true 1),
      .request (.build ⟨"agent", "role", none, none, none, .none, some false, none, .plain⟩),
      .request (.createReceiver (receiver "first" "#")), .request (.createReceiver (receiver "second" "#")),
      .request (.createReceiver (receiver "third" "car/speed")),
      .request (.createReceiver (receiver "fourth" "car/engine/#"))]
    let message : Message := ⟨"car/speed/1", [7]⟩
    let connected := (fresh.run prepared).move (.request (.connect "agent" .none))
    let later := prepared ++ .request (.connect "agent" .none) :: List.replicate 8 .work
    let created := (fresh.run later).move (.request (.createReceiver (receiver "fifth" "+/speed/#")))
    (∃ steps, connected.Settles steps 0 ∧
      [0, 1, 2, 3].map (fun place ↦ connected.offers steps ⟨0, place⟩ message) = [2, 2, 2, 0]) ∧
    ∃ steps, created.Settles steps 0 ∧
      [0, 1, 2, 3, 4].map (fun place ↦ created.offers steps ⟨0, place⟩ message) = [1, 1, 1, 0, 1] := by
  intro receiver prepared message connected later created
  constructor
  · have described : (fresh.run prepared).session.network.agents[0]?.map (fun agent ↦ (agent.transport,
        agent.receivers.countP fun receiver ↦ Filter.accepts receiver.pattern.text message.topic)) =
          some (.plain, 2) := by decide +kernel
    obtain ⟨agent, h, described⟩ := Option.map_eq_some_iff.1 described
    rw [Prod.mk.injEq] at described
    have faultless : (fresh.run prepared).session.network.medium.Faultless agent.transport := by
      rw [described.1]
      exact Medium.grants_plain _
    have supplies := (offers_retained prepared h faultless).2.1 (.request (.connect "agent" .none))
      ⟨by decide +kernel, by decide +kernel⟩
    have undisturbed : connected.session.network.Undisturbed :=
      ⟨Network.quiet_of_receivers (by decide +kernel), by decide +kernel⟩
    obtain ⟨⟨steps, settles⟩, nothing⟩ := supplies.undisturbed undisturbed (by decide +kernel)
    have offered (place : Nat) (accepts : Bool) (h : (connected.session.network.receiver? ⟨0, place⟩).map
        (fun receiver ↦ receiver.pattern.accepts message.topic) = some accepts) :
        connected.offers steps ⟨0, place⟩ message = if accepts then 2 else 0 :=
      (supplies.offers_eq settles (nothing steps) (by decide +kernel) h).trans (by rw [described.2])
    have accepted : [0, 1, 2, 3].map (fun place ↦ (connected.session.network.receiver? ⟨0, place⟩).map fun receiver ↦
        receiver.pattern.accepts message.topic) = [some true, some true, some true, some false] := by decide +kernel
    simp only [List.map, List.cons.injEq, and_true] at accepted
    obtain ⟨first, second, third, fourth⟩ := accepted
    refine ⟨steps, settles, ?_⟩
    simp only [List.map, offered 0 true first, offered 1 true second, offered 2 true third, offered 3 false fourth]
    decide
  · have described : (fresh.run later).session.network.agents[0]?.map (fun agent ↦ (agent.transport,
        agent.receivers.length, agent.liveHandle? (fresh.run later).session.network.medium)) =
          some (.plain, 4, some 0) := by decide +kernel
    obtain ⟨agent, h, described⟩ := Option.map_eq_some_iff.1 described
    rw [Prod.mk.injEq, Prod.mk.injEq] at described
    have faultless : (fresh.run later).session.network.medium.Faultless agent.transport := by
      rw [described.1]
      exact Medium.grants_plain _
    have found : (fresh.run later).session.findAgent "agent" = .ok (0, agent) := by
      have known : (fresh.run later).session.agents.get? "agent" = some 0 := by decide +kernel
      unfold Session.findAgent
      simp only [known, h]
      rfl
    have filter : (created.session.network.receiver? ⟨0, 4⟩).map (fun receiver ↦
        Filter.accepts receiver.pattern.text message.topic) = some true := by decide +kernel
    obtain ⟨fifth, added, filter⟩ := Option.map_eq_some_iff.1 filter
    have supplies := (offers_retained later h faultless).2.2 (receiver "fifth" "+/speed/#") 0 fifth found described.2.2
      (by rw [described.2.1]; exact added)
    have undisturbed : created.session.network.Undisturbed :=
      ⟨Network.quiet_of_receivers (by decide +kernel), by decide +kernel⟩
    have empty : (fresh.run later).session.network.medium.broker.inbox 0 = [] := by decide +kernel
    obtain ⟨⟨steps, settles⟩, nothing⟩ := supplies.undisturbed undisturbed (by decide +kernel)
    have offered (place : Nat) (accepts : Bool) (h : (created.session.network.receiver? ⟨0, place⟩).map
        (fun receiver ↦ receiver.pattern.accepts message.topic) = some accepts) :
        created.offers steps ⟨0, place⟩ message = if accepts then 1 else 0 :=
      (supplies.offers_eq settles (nothing steps) (by decide +kernel) h).trans (by rw [empty, filter]; rfl)
    have accepted : [0, 1, 2, 3, 4].map (fun place ↦ (created.session.network.receiver? ⟨0, place⟩).map fun receiver ↦
        receiver.pattern.accepts message.topic) = [some true, some true, some true, some false, some true] := by
      decide +kernel
    simp only [List.map, List.cons.injEq, and_true] at accepted
    obtain ⟨first, second, third, fourth, last⟩ := accepted
    refine ⟨steps, settles, ?_⟩
    simp only [List.map, offered 0 true first, offered 1 true second, offered 2 true third, offered 3 false fourth,
      offered 4 true last]
    decide

end Traffic

end PubSub
