import PubSub.Proofs.Agent.Registry
import PubSub.Proofs.Network.Round
import PubSub.Proofs.Session.Dispatching
/-!
# How often a message is offered

While the background work is done, the dispatcher of an agent goes through the inbox that it reads. Each message that it
takes from there is offered once to every receiver of the agent that accepts it, and to no other. So once no work is
left, a receiver has been offered what stood in the inbox and what came in meanwhile, each message as often as it was
there.
-/

namespace PubSub

variable {index place : Nat} {agent : Agent} {connection : ConnectionId} {message : Message} {receiver : Receiver}

/-! ## One step -/

/-- The message that the next step of background work takes from an inbox, if it takes one from there. -/
def Network.handedFrom (network : Network) (connection : ConnectionId) : List Message :=
  match network.handed? with
  | none => []
  | some (source, message, _) => if connection = source then [message] else []

theorem Network.handed?_of_tick? {network : Network} (h : network.tick? = none) : network.handed? = none := by
  unfold handed?
  rw [tick?_eq_none_iff.1 h]

/-- A step of background work offers what it takes from an inbox, to the receivers of one agent that accept it. -/
theorem Journal.offers_tick? {journal next : Journal} (h : journal.tick? = some next) :
    match journal.network.handed? with
    | none => next.entries = journal.entries
    | some (source, message, _) => ∃ (index : Nat) (agent : Agent) (phase : DispatcherPhase),
      journal.network.agents[index]? = some agent ∧ agent.dispatcher = some ⟨source, phase⟩ ∧
      next.entries.filterMap Occurrence.offer? = journal.entries.filterMap Occurrence.offer? ++
        (agent.offered message.topic).map fun place ↦ (⟨index, place⟩, message) := by
  unfold tick? at h
  split at h
  · rename_i index source rest ready
    obtain rfl := Option.some.inj h
    cases hagent : journal.network.agents[index]? with
    | none =>
      have handed : journal.network.handed? = none := by simp [Network.handed?, ready, hagent]
      rw [handed, lookInside, hagent]
      rfl
    | some agent =>
      by_cases reads : agent.dispatcher.any fun dispatcher ↦
          dispatcher.source = source && dispatcher.phase ≠ .finished
      · cases taken : journal.network.medium.broker.take? source with
        | none =>
          have handed : journal.network.handed? = none := by simp [Network.handed?, ready, hagent, taken]
          simp only [handed, lookInside, hagent, if_pos reads, taken]
          rfl
        | some found =>
          have handed : journal.network.handed? = some (source, found) := by
            simp only [Network.handed?, ready, hagent, if_pos reads, taken, Option.map_some]
          obtain ⟨dispatcher, hdispatcher, works⟩ := (Option.any_eq_true _ _).1 reads
          simp only [handed, lookInside, hagent, if_pos reads, taken]
          refine ⟨index, agent, dispatcher.phase, hagent, ?_, ?_⟩
          · rw [hdispatcher, ← Network.eq_of_reads works]
          · exact offers_dispatch (by exact hagent) found.1
      · have handed : journal.network.handed? = none := by
          simp only [Network.handed?, ready, hagent, if_neg reads]
        simp only [handed, lookInside, hagent, if_neg reads]
        rfl
  · rename_i others
    obtain ⟨network, -, rfl⟩ := Option.map_eq_some_iff.1 h
    have handed : journal.network.handed? = none := by
      cases ready : journal.network.ready with
      | nil => simp [Network.handed?, ready]
      | cons task rest =>
        cases task with
        | dispatch index source => exact absurd ready (others index source rest)
        | close => simp [Network.handed?, ready]
        | attempt => simp [Network.handed?, ready]
    rw [handed]

/-! ## Undisturbed work -/

namespace Network

variable {network after : Network}

/-- Whether callbacks leave the broker alone, and no connect is to be carried on. -/
structure Undisturbed (network : Network) : Prop where
  quiet : network.Quiet
  idle : ∀ task ∈ network.ready, ¬task.isAttempt

/-- The broker once the next step of background work has taken its message, if it takes one. -/
def afterTaking (network : Network) : Broker :=
  (network.handed?.map fun handed ↦ handed.2.2).getD network.medium.broker

theorem Undisturbed.not_completes (undisturbed : network.Undisturbed) (index : Nat) : ¬network.Completes index := by
  rintro ⟨after, number, attempt, -, head, -⟩
  exact undisturbed.idle _ (List.mem_of_mem_head? head) rfl

/-- Nothing comes into an inbox in a step of such work, and nobody is let go of. -/
theorem Undisturbed.tick? (undisturbed : network.Undisturbed) (h : network.tick? = some after) :
    after.Undisturbed ∧ after.usage = network.usage ∧
      ∀ connection, after.medium.broker.inbox connection = network.afterTaking.inbox connection := by
  obtain ⟨quiet, lighter⟩ := undisturbed.quiet.tick? h
  -- the connects that are ready are the first of the counts that no step lets grow
  have idle : after.ready.countP Task.isAttempt = 0 := by
    have before : network.ready.countP Task.isAttempt = 0 := List.countP_eq_zero.2 undisturbed.idle
    have le : after.load.1 ≤ network.load.1 := by
      rcases Prod.lex_def.1 lighter with less | ⟨same, -⟩
      · exact Nat.le_of_lt less
      · exact Nat.le_of_eq same
    exact Nat.eq_zero_of_le_zero (before ▸ le)
  refine ⟨⟨quiet, List.countP_eq_zero.1 idle⟩, ?_⟩
  unfold afterTaking
  cases tick_of_tick? h with
  | @dispatch index source rest agent phase message broker ready hagent reads taken handed =>
    let start : Network := { network with medium := { network.medium with broker } }
    have mild := mild_dispatch (show start.Quiet from undisturbed.quiet) index agent message
    have same : (start.dispatch index agent message).medium.broker = broker :=
      congrArg (fun network ↦ network.medium.broker) mild.bare_eq
    refine ⟨(stirs_dispatch start index agent message).usage_eq, fun connection ↦ ?_⟩
    rw [handed, Option.map_some, Option.getD_some, same]
  | @rest index source rest agent former ready hagent reads empty handed =>
    rw [handed]
    exact ⟨usage_modifyAgent { network with ready := rest } index fun _ ↦ rfl, fun _ ↦ rfl⟩
  | pass ready closes handed =>
    rw [handed]
    exact ⟨rfl, fun _ ↦ rfl⟩
  | @close transport connection rest ready handed =>
    rw [handed]
    refine ⟨usage_wake _, fun other ↦ ?_⟩
    rw [medium_onMedium, Medium.broker_close, Broker.inbox_close]
    rfl
  | attempt ready => exact absurd rfl (undisturbed.idle _ (ready ▸ List.mem_cons_self))

end Network

namespace Traffic

variable {traffic : Traffic}

/-! ## Steps of background work -/

/-- The traffic once steps of background work are done. -/
def settled (traffic : Traffic) (steps : Nat) : Traffic :=
  traffic.run (List.replicate steps .work)

/-- How often a message is offered to a receiver in steps of background work. -/
def offers (traffic : Traffic) (steps : Nat) (id : ReceiverId) (message : Message) : Nat :=
  ((traffic.happenings (List.replicate steps .work)).filterMap Occurrence.offer?).count (id, message)

/-- What comes into an inbox in steps of background work. -/
def arrives (traffic : Traffic) (steps : Nat) (connection : ConnectionId) : List Message :=
  ((traffic.settled steps).enqueued connection).drop (traffic.enqueued connection).length

/-- Whether no work is left after some steps, somebody holds the agent at a place then, and no connect of it has come to
success meanwhile. -/
def Settles (traffic : Traffic) (steps : Nat) (index : Nat) : Prop :=
  (traffic.settled steps).session.network.ready = [] ∧
  (traffic.settled steps).session.network.agents[index]?.any Agent.held ∧
  ¬traffic.Ever (fun traffic ↦ traffic.Connects index) (List.replicate steps .work)

theorem offers_succ (traffic : Traffic) (steps : Nat) (id : ReceiverId) (message : Message) :
    traffic.offers (steps + 1) id message =
      ((traffic.occurrences .work).filterMap Occurrence.offer?).count (id, message) +
        traffic.work.offers steps id message := by
  unfold offers
  rw [List.replicate_succ, happenings, List.filterMap_append, List.count_append]
  rfl

theorem dispatched_work (traffic : Traffic) (connection : ConnectionId) : traffic.work.dispatched connection =
    traffic.dispatched connection ++ traffic.session.network.handedFrom connection := by
  unfold work Network.handedFrom
  cases ticks : traffic.session.network.tick? with
  | none => simp only [Network.handed?_of_tick? ticks, List.append_nil]
  | some network =>
    cases handed : traffic.session.network.handed? with
    | none => simp only [goOn, enqueue, List.append_nil]
    | some found =>
      simp only [goOn, enqueue, hand]
      split
      · rfl
      · exact (List.append_nil _).symm

/-- Among the offers of a message to some places there is one to a place, if it is one of those, and none to another
agent. -/
theorem count_offers {other : Nat} {places : List Nat} (once : places.Nodup) (handed : Message) :
    (places.map fun place ↦ ((⟨other, place⟩ : ReceiverId), handed)).count (⟨index, place⟩, message) =
      if other = index ∧ handed = message ∧ place ∈ places then 1 else 0 := by
  have single : (places.map fun place ↦ ((⟨other, place⟩ : ReceiverId), handed)).Nodup :=
    once.map fun _ _ same ↦ (ReceiverId.mk.inj (Prod.mk.inj same).1).2
  rw [single.count]
  refine if_congr ?_ rfl rfl
  simp only [List.mem_map, Prod.mk.injEq, ReceiverId.mk.injEq]
  constructor
  · rintro ⟨_, hmem, ⟨own, rfl⟩, same⟩
    exact ⟨own, same, hmem⟩
  · rintro ⟨own, same, hmem⟩
    exact ⟨place, hmem, ⟨own, rfl⟩, same⟩

/-- Each message that is taken from the inbox that an agent reads is offered to the receivers of the agent that accept
it, and to them alone. -/
theorem count_occurrences (sound : traffic.Sound) (reads : traffic.session.network.Reads index connection)
    (h : traffic.session.network.receiver? ⟨index, place⟩ = some receiver) (message : Message) :
    ((traffic.occurrences .work).filterMap Occurrence.offer?).count (⟨index, place⟩, message) =
      if receiver.pattern.accepts message.topic then (traffic.session.network.handedFrom connection).count message
      else 0 := by
  unfold occurrences Network.handedFrom
  cases ticks : (⟨traffic.session.network, []⟩ : Journal).tick? with
  | none =>
    have idle := Journal.network_tick? ⟨traffic.session.network, []⟩
    rw [ticks, Option.map_none] at idle
    simp [Network.handed?_of_tick? idle.symm]
  | some next =>
    have brought := Journal.offers_tick? ticks
    cases handed : traffic.session.network.handed? with
    | none =>
      simp only [handed] at brought
      simp [brought]
    | some found =>
      obtain ⟨source, taken, broker⟩ := found
      simp only [handed] at brought
      obtain ⟨other, owner, phase, howner, hdispatcher, offered⟩ := brought
      rw [Option.map_some, Option.getD_some, offered, List.filterMap_nil, List.nil_append,
        count_offers (Journal.nodup_offered owner taken.topic)]
      have reads' : traffic.session.network.Reads other source := ⟨owner, phase, howner, hdispatcher⟩
      by_cases own : connection = source
      · obtain rfl : other = index := sound.reads_unique reads' (own ▸ reads)
        have accepts_iff : place ∈ owner.offered taken.topic ↔ receiver.pattern.accepts taken.topic := by
          have iff : traffic.session.network.Accepts taken ⟨other, place⟩ ↔ _ := Network.accepts_iff howner
          rw [← iff, Network.Accepts, h]
          simp
        simp only [if_pos own, List.count_singleton, accepts_iff]
        by_cases same : taken = message <;> simp [same]
      · have apart : other ≠ index := by
          rintro rfl
          exact own (reads.unique reads')
        simp [own, apart]

/-- A receiver keeps its place and its pattern, whatever is done. -/
theorem receiver?_move {id : ReceiverId} (h : traffic.session.network.receiver? id = some receiver) (move : Move) :
    ∃ changed, (traffic.move move).session.network.receiver? id = some changed ∧
      changed.pattern = receiver.pattern := by
  obtain ⟨agent, hagent, hplace⟩ := Network.receiver?_eq_some_iff.1 h
  obtain ⟨later, hlater, conduct⟩ := (traffic.conducts_move move).kept id.agent agent hagent
  obtain ⟨more, grown⟩ := conduct.extends.receivers
  have lt : id.index < (agent.receivers.map Receiver.asCreated).length := by
    rw [List.length_map]
    exact (List.getElem?_eq_some_iff.1 hplace).1
  have kept : (later.receivers.map Receiver.asCreated)[id.index]? = some receiver.asCreated := by
    rw [← grown, List.getElem?_append_left lt, List.getElem?_map, hplace, Option.map_some]
  rw [List.getElem?_map] at kept
  obtain ⟨changed, hchanged, same⟩ := Option.map_eq_some_iff.1 kept
  exact ⟨changed, Network.receiver?_eq_some_iff.2 ⟨later, hlater, hchanged⟩, congrArg (·.pattern) same⟩

/-! ## What lasts -/

/-- Whoever is held after some moves was held before, if the agent was there. -/
theorem held_of_run (moves : List Move) (h : traffic.session.network.agents[index]? = some agent)
    (held : (traffic.run moves).session.network.agents[index]?.any Agent.held) : agent.held := by
  obtain ⟨later, hlater, conduct⟩ := (traffic.conducts_run moves).kept index agent h
  rw [hlater, Option.any_some] at held
  exact conduct.held held

/-- A dispatcher goes on with its connection as long as somebody holds the agent and no connect of it succeeds. -/
theorem reads_settled {steps : Nat} (sound : traffic.Sound) (reads : traffic.session.network.Reads index connection)
    (held : (traffic.settled steps).session.network.agents[index]?.any Agent.held)
    (never : ¬traffic.Ever (fun traffic ↦ traffic.Connects index) (List.replicate steps .work)) :
    (traffic.settled steps).session.network.Reads index connection := by
  induction steps generalizing traffic with
  | zero => exact reads
  | succ steps ih =>
    have passes := sound.passes .work
    have ⟨agent, _, hagent, _⟩ := reads
    obtain ⟨later, hlater, -⟩ := (traffic.conducts_move .work).kept index agent hagent
    have held' : (traffic.move .work).session.network.agents[index]?.any Agent.held := by
      rw [hlater, Option.any_some]
      exact held_of_run (List.replicate steps .work) hlater held
    obtain ⟨other, reads', -⟩ := passes.kept index connection id reads held'
    have idle : ¬traffic.Connects index .work := fun connects ↦ never ⟨[], .work, _, rfl, connects⟩
    obtain rfl := reads.unique (reads_of_move hagent idle reads')
    exact ih passes.sound reads' held fun ever ↦ never (ever.cons .work)

/-! ## Settling -/

/-- As long as an agent reads a connection, its receivers are offered what is taken from the inbox, each message as
often as it was taken. -/
theorem offers_of_reads {steps : Nat} (sound : traffic.Sound)
    (lt : connection < traffic.session.network.medium.broker.clients.length)
    (reads : (traffic.settled steps).session.network.Reads index connection)
    (h : traffic.session.network.receiver? ⟨index, place⟩ = some receiver) (message : Message) :
    ∃ taken, (traffic.settled steps).dispatched connection = traffic.dispatched connection ++ taken ∧
      traffic.offers steps ⟨index, place⟩ message =
        if receiver.pattern.accepts message.topic then taken.count message else 0 := by
  induction steps generalizing traffic receiver with
  | zero => exact ⟨[], (List.append_nil _).symm, by simp [offers, happenings]⟩
  | succ steps ih =>
    have passes := sound.passes .work
    -- no work lets anybody begin to read a connection that is there already
    have before : traffic.session.network.Reads index connection :=
      sound.reads_of_run (List.replicate (steps + 1) .work) lt reads
    obtain ⟨changed, hchanged, same⟩ := receiver?_move h .work
    obtain ⟨taken, dispatched, offered⟩ := ih passes.sound (Nat.lt_of_lt_of_le lt passes.length_le) reads hchanged
    refine ⟨traffic.session.network.handedFrom connection ++ taken, ?_, ?_⟩
    · calc (traffic.settled (steps + 1)).dispatched connection
        _ = traffic.work.dispatched connection ++ taken := dispatched
        _ = traffic.dispatched connection ++ (traffic.session.network.handedFrom connection ++ taken) := by
          rw [dispatched_work, List.append_assoc]
    · have offered' : traffic.work.offers steps ⟨index, place⟩ message = _ := offered
      rw [offers_succ, count_occurrences sound before h, offered', same, List.count_append]
      split <;> rfl

/-- The record of what comes into the inboxes is only added to. -/
theorem enqueued_prefix (traffic : Traffic) (moves : List Move) (connection : ConnectionId) :
    traffic.enqueued connection <+: (traffic.run moves).enqueued connection := by
  induction moves generalizing traffic with
  | nil => exact List.prefix_rfl
  | cons move rest ih =>
    refine List.IsPrefix.trans ?_ (ih (traffic.move move))
    cases move with
    | request request => exact List.prefix_append _ _
    | work =>
      unfold Traffic.move work
      cases traffic.session.network.tick? with
      | none => exact List.prefix_rfl
      | some network => cases traffic.session.network.handed? <;> exact List.prefix_append _ _

theorem enqueued_append_arrives (traffic : Traffic) (steps : Nat) (connection : ConnectionId) :
    traffic.enqueued connection ++ traffic.arrives steps connection = (traffic.settled steps).enqueued connection :=
  List.prefix_iff_eq_append.1 (traffic.enqueued_prefix _ connection)

/-- Once no work is left, the receivers of an agent have been offered what stood in the inbox that it reads and what
came in meanwhile. -/
theorem offers_of_settled {steps : Nat} (sound : traffic.Sound)
    (reads : traffic.session.network.Reads index connection)
    (settled : (traffic.settled steps).session.network.ready = [])
    (still : (traffic.settled steps).session.network.Reads index connection)
    (h : traffic.session.network.receiver? ⟨index, place⟩ = some receiver) (message : Message) :
    traffic.offers steps ⟨index, place⟩ message =
      if receiver.pattern.accepts message.topic then
        (traffic.session.network.medium.broker.inbox connection).count message +
          (traffic.arrives steps connection).count message
      else 0 := by
  obtain ⟨taken, dispatched, offered⟩ := offers_of_reads sound (sound.lt_of_reads reads) still h message
  have accounted : traffic.dispatched connection ++ taken = traffic.dispatched connection ++
      (traffic.session.network.medium.broker.inbox connection ++ traffic.arrives steps connection) := by
    calc traffic.dispatched connection ++ taken
      _ = (traffic.settled steps).dispatched connection := dispatched.symm
      _ = (traffic.settled steps).enqueued connection := (sound.run _).dispatched_of_settled settled still
      _ = traffic.enqueued connection ++ traffic.arrives steps connection :=
        (traffic.enqueued_append_arrives steps connection).symm
      _ = _ := by
        rw [sound.balanced.of_reads (Network.sourceOf_view.2 reads), List.append_assoc]
        rfl
  rw [offered, List.append_cancel_left accounted, List.count_append]

/-! ## Undisturbed settling -/

/-- Undisturbed work puts nothing into an inbox, and whoever is held stays so. -/
theorem undisturbed_work (undisturbed : traffic.session.network.Undisturbed) :
    traffic.work.session.network.Undisturbed ∧ traffic.work.session.network.usage = traffic.session.network.usage ∧
      traffic.work.enqueued = traffic.enqueued := by
  cases ticks : traffic.session.network.tick? with
  | none =>
    rw [work_of_settled ticks]
    exact ⟨undisturbed, rfl, rfl⟩
  | some network =>
    obtain ⟨undisturbed', usage, inbox⟩ := undisturbed.tick? ticks
    refine ⟨?_, ?_, ?_⟩
    · rw [session_work ticks]
      exact undisturbed'
    · rw [session_work ticks]
      exact usage
    · have nothing (connection : ConnectionId) :
          traffic.session.network.afterTaking.arrivals network.medium.broker connection = [] := by
        rw [Broker.arrivals, inbox, List.drop_length]
      unfold work
      rw [ticks]
      unfold Network.afterTaking at nothing
      cases handed : traffic.session.network.handed? with
      | none =>
        simp only [handed, Option.map_none, Option.getD_none] at nothing
        simp only [goOn, enqueue, nothing, List.append_nil]
      | some found =>
        simp only [handed, Option.map_some, Option.getD_some] at nothing
        simp only [goOn, enqueue, hand, nothing, List.append_nil]

/-- A run of moves has a move of a sort if the first one is, or one of the others. -/
theorem Ever.of_cons {sort : Traffic → Move → Prop} {move : Move} {rest : List Move}
    (ever : traffic.Ever sort (move :: rest)) : sort traffic move ∨ (traffic.move move).Ever sort rest := by
  obtain ⟨before, made, after, same, h⟩ := ever
  cases before with
  | nil =>
    obtain ⟨rfl, -⟩ := List.cons.inj same
    exact .inl h
  | cons first before =>
    obtain ⟨rfl, rfl⟩ := List.cons.inj same
    exact .inr ⟨before, made, after, rfl, h⟩

/-- So it comes to an end, and nothing has come in by then. -/
theorem settles_of_undisturbed (undisturbed : traffic.session.network.Undisturbed)
    (held : traffic.session.network.agents[index]?.any Agent.held) :
    (∃ steps, traffic.Settles steps index) ∧ ∀ steps connection, traffic.arrives steps connection = [] := by
  have all (steps : Nat) : (traffic.settled steps).session.network.agents[index]?.any Agent.held ∧
      (traffic.settled steps).enqueued = traffic.enqueued ∧
      ¬traffic.Ever (fun traffic ↦ traffic.Connects index) (List.replicate steps .work) := by
    induction steps generalizing traffic with
    | zero => exact ⟨held, rfl, fun ⟨before, move, after, same, _⟩ ↦ absurd same (by simp)⟩
    | succ steps ih =>
      obtain ⟨undisturbed', usage, enqueued⟩ := undisturbed_work undisturbed
      rw [Network.any_held_iff, ← usage, ← Network.any_held_iff] at held
      obtain ⟨lasts, nothing, never⟩ := ih undisturbed' held
      refine ⟨lasts, nothing.trans enqueued, fun ever ↦ ?_⟩
      rcases ever.of_cons with connects | later
      · exact undisturbed.not_completes index connects
      · exact never later
  obtain ⟨steps, done⟩ := traffic.session.network.exists_settled undisturbed.quiet
  have ready : (traffic.settled steps).session.network.ready = [] := by
    rw [settled, session_run_work]
    exact done
  refine ⟨⟨steps, ready, (all steps).1, (all steps).2.2⟩, fun steps connection ↦ ?_⟩
  rw [arrives, (all steps).2.1, List.drop_length]

end Traffic

end PubSub
