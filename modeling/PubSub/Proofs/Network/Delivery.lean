import PubSub.Proofs.Network.Journal
import PubSub.Proofs.Network.Quiet
import PubSub.Proofs.Network.Steady
import Mathlib.Data.List.Nodup
/-!
# Delivery of a waiting message

A network whose ready tasks are dispatchers, each with the same one message in its inbox, takes two steps for each of
them: the message is dispatched, and the dispatcher finds its inbox empty and rests. As long as callbacks are quiet,
every receiver of these agents whose pattern accepts the topic is offered the message once, and no other receiver is.
-/

namespace PubSub

variable {journal : Journal} {message : Message} {id : ReceiverId} {receiver : Receiver} {agent : Agent} {index : Nat}
  {source : ConnectionId} {rest : List Task}

theorem Receiver.occurrences_congr {other : Receiver} (same : receiver.bare = other.bare) (id : ReceiverId)
    (message : Message) (callbacks : List Callback) :
    receiver.occurrences id message callbacks = other.occurrences id message callbacks := by
  unfold occurrences
  rw [← receiver.read?_bare, same, other.read?_bare]

theorem Receiver.pattern_eq_of_bare {other : Receiver} (same : receiver.bare = other.bare) :
    receiver.pattern = other.pattern := by
  have patterns := congrArg Receiver.pattern same
  exact patterns

namespace Journal

theorem entriesOf_offer_of_ne {other : ReceiverId} (h : other ≠ id) :
    (journal.offer message other).entriesOf id = journal.entriesOf id := by
  cases hother : journal.network.receiver? other with
  | none =>
    unfold offer
    rw [hother]
  | some receiver => rw [entriesOf_offer hother, if_neg h]

/-! ## One message -/

/-- Offers a message to the receivers of an agent at some places. -/
def offerEach (journal : Journal) (index : Nat) (message : Message) (places : List Nat) : Journal :=
  places.foldl (fun journal place ↦ journal.offer message ⟨index, place⟩) journal

theorem mild_offerEach (quiet : journal.network.Quiet) (index : Nat) (message : Message) (places : List Nat) :
    journal.network.Mild (fun id ↦ id.agent = index) (journal.offerEach index message places).network := by
  induction places generalizing journal with
  | nil => exact .refl _
  | cons place rest ih =>
    have first : journal.network.Mild (· = ⟨index, place⟩) (journal.offer message ⟨index, place⟩).network :=
      journal.network_offer message ⟨index, place⟩ ▸ .offer quiet message ⟨index, place⟩
    have own : journal.network.Mild (fun id ↦ id.agent = index) (journal.offer message ⟨index, place⟩).network :=
      first.mono fun id same ↦ congrArg ReceiverId.agent same
    exact own.trans (ih (first.quiet quiet))

theorem entriesOf_offerEach_of_not_mem {places : List Nat} (h : id.agent = index → id.index ∉ places) :
    (journal.offerEach index message places).entriesOf id = journal.entriesOf id := by
  induction places generalizing journal with
  | nil => rfl
  | cons place rest ih =>
    have other : (⟨index, place⟩ : ReceiverId) ≠ id := by
      intro same
      subst same
      exact h rfl List.mem_cons_self
    have later : id.agent = index → id.index ∉ rest := fun own hmem ↦ h own (List.mem_cons_of_mem place hmem)
    rw [offerEach, List.foldl_cons]
    exact (ih later).trans (entriesOf_offer_of_ne other)

/-- A receiver at one of the places is offered the message once, and has gained callbacks at most until then. -/
theorem entriesOf_offerEach_of_mem {places : List Nat} (quiet : journal.network.Quiet) (once : places.Nodup)
    (own : id.agent = index) (hmem : id.index ∈ places) (h : journal.network.receiver? id = some receiver) :
    ∃ callbacks, receiver.callbacks <+: callbacks ∧ (journal.offerEach index message places).entriesOf id =
      journal.entriesOf id ++ receiver.occurrences id message callbacks := by
  induction places generalizing journal receiver with
  | nil => cases hmem
  | cons place rest ih =>
    have hnodup := List.nodup_cons.1 once
    rw [offerEach, List.foldl_cons]
    by_cases here : id.index = place
    · have same : (⟨index, place⟩ : ReceiverId) = id := by rw [ReceiverId.mk.injEq]; exact ⟨own.symm, here.symm⟩
      have later : id.agent = index → id.index ∉ rest := fun _ ↦ here ▸ hnodup.1
      refine ⟨receiver.callbacks, List.prefix_refl _, ?_⟩
      rw [same]
      exact (entriesOf_offerEach_of_not_mem later).trans (by rw [entriesOf_offer h, if_pos rfl])
    · have other : (⟨index, place⟩ : ReceiverId) ≠ id := fun same ↦ here (congrArg ReceiverId.index same).symm
      have first : journal.network.Mild (· = ⟨index, place⟩) (journal.offer message ⟨index, place⟩).network :=
        journal.network_offer message ⟨index, place⟩ ▸ .offer quiet message ⟨index, place⟩
      rcases first.receiver other.symm h with ⟨changed, hchanged, hbare, hgrown⟩
      have later := (List.mem_cons.1 hmem).resolve_left here
      rcases ih (first.quiet quiet) hnodup.2 later hchanged with ⟨callbacks, hprefix, hentries⟩
      refine ⟨callbacks, hgrown.trans hprefix, ?_⟩
      rw [Receiver.occurrences_congr hbare, entriesOf_offer_of_ne other] at hentries
      exact hentries

end Journal

/-! ## One dispatcher -/

/-- Whether an agent's dispatcher is at work on a connection whose inbox holds the one message. -/
def Network.Expects (network : Network) (message : Message) (index : Nat) (source : ConnectionId) : Prop :=
  ∃ agent phase, network.agents[index]? = some agent ∧ agent.dispatcher = some ⟨source, phase⟩ ∧ phase ≠ .finished ∧
    network.medium.broker.inbox source = [message]

namespace Journal

theorem mem_offered_iff {place : Nat} {topic : String} :
    place ∈ agent.offered topic ↔
      ∃ receiver, agent.receivers[place]? = some receiver ∧ receiver.pattern.accepts topic := by
  unfold Agent.offered
  rw [List.mem_filter, List.mem_range, Option.any_eq_true]
  constructor
  · exact fun h ↦ h.2
  · intro ⟨receiver, hreceiver, accepts⟩
    exact ⟨(List.getElem?_eq_some_iff.1 hreceiver).1, receiver, hreceiver, accepts⟩

theorem nodup_offered (agent : Agent) (topic : String) : (agent.offered topic).Nodup :=
  List.nodup_range.filter _

/-- Of an agent's receivers, a message is offered to those whose pattern accepts its topic. -/
theorem entriesOf_offerEach_offered (quiet : journal.network.Quiet)
    (hagent : journal.network.agents[index]? = some agent) (own : id.agent = index)
    (h : journal.network.receiver? id = some receiver) :
    if receiver.pattern.accepts message.topic then
      ∃ callbacks, receiver.callbacks <+: callbacks ∧
        (journal.offerEach index message (agent.offered message.topic)).entriesOf id =
          journal.entriesOf id ++ receiver.occurrences id message callbacks
    else (journal.offerEach index message (agent.offered message.topic)).entriesOf id = journal.entriesOf id := by
  rcases Network.receiver?_eq_some_iff.1 h with ⟨owner, howner, hreceiver⟩
  have hsame : owner = agent := Option.some.inj (howner.symm.trans (own ▸ hagent))
  subst hsame
  split
  · rename_i accepts
    have hmem : id.index ∈ owner.offered message.topic := mem_offered_iff.2 ⟨receiver, hreceiver, accepts⟩
    exact entriesOf_offerEach_of_mem quiet (nodup_offered owner message.topic) own hmem h
  · rename_i refuses
    apply entriesOf_offerEach_of_not_mem
    intro _ hmem
    rcases mem_offered_iff.1 hmem with ⟨other, hother, accepts⟩
    have hother' : other = receiver := Option.some.inj (hother.symm.trans hreceiver)
    exact refuses (hother' ▸ accepts)

/-- The step in which a dispatcher takes the message. -/
theorem tick?_of_message {phase : DispatcherPhase} (ready : journal.network.ready = .dispatch index source :: rest)
    (hagent : journal.network.agents[index]? = some agent) (reads : agent.dispatcher = some ⟨source, phase⟩)
    (working : phase ≠ .finished) (inbox : journal.network.medium.broker.inbox source = [message]) :
    journal.tick? = some (offerEach (journal.onNetwork fun network ↦ { network with
      medium := { network.medium with
        broker := network.medium.broker.modifyClient source fun client ↦ { client with inbox := [] } } })
      index message (agent.offered message.topic)) := by
  have taken := Broker.take?_of_inbox inbox
  have atWork : (agent.dispatcher.any fun dispatcher ↦
      dispatcher.source = source && dispatcher.phase ≠ .finished) = true := by simp [reads, working]
  unfold tick? lookInside
  simp only [ready, hagent, atWork, if_true, taken]
  rfl

/-- The step in which a dispatcher finds its inbox empty. -/
theorem tick?_of_empty {phase : DispatcherPhase} (ready : journal.network.ready = .dispatch index source :: rest)
    (hagent : journal.network.agents[index]? = some agent) (reads : agent.dispatcher = some ⟨source, phase⟩)
    (working : phase ≠ .finished) (inbox : journal.network.medium.broker.inbox source = []) :
    ∃ phase, journal.tick? = some (journal.onNetwork fun network ↦ { network with
      agents := network.agents.set index { agent with dispatcher := some ⟨source, phase⟩ }, ready := rest }) := by
  have empty := Broker.take?_of_inbox_nil inbox
  have atWork : (agent.dispatcher.any fun dispatcher ↦
      dispatcher.source = source && dispatcher.phase ≠ .finished) = true := by simp [reads, working]
  refine ⟨if journal.network.medium.broker.isClosed source then .finished else .resting, ?_⟩
  have hagent' : ({ journal.network with ready := rest } : Network).agents[index]? = some agent := hagent
  unfold tick? lookInside Network.lookInside
  simp only [ready, hagent, atWork, if_true, empty, onNetwork]
  rw [Network.modifyAgent_eq hagent']

end Journal

theorem Network.receiver?_setDispatcher {network : Network}
    (h : network.agents[index]? = some agent) (dispatcher : Option Dispatcher) (ready : List Task) (id : ReceiverId) :
    ({ network with agents := network.agents.set index { agent with dispatcher }, ready } : Network).receiver? id =
      network.receiver? id := by
  unfold receiver?
  by_cases own : index = id.agent
  · subst own
    rw [List.getElem?_set_self (List.getElem?_eq_some_iff.1 h).1, h]
    rfl
  · rw [List.getElem?_set_ne own]

namespace Journal

/-- What the two steps of one dispatcher come to: its own receivers are offered the message, and all else is as ready
for the message as before. -/
structure Serves (message : Message) (index : Nat) (source : ConnectionId) (rest : List Task) (journal next : Journal) :
    Prop where
  ready : next.network.ready = rest
  quiet : next.network.Quiet
  expects : ∀ other from', other ≠ index → from' ≠ source → journal.network.Expects message other from' →
    next.network.Expects message other from'
  receivers : ∀ (id : ReceiverId) (receiver : Receiver), id.agent ≠ index →
    journal.network.receiver? id = some receiver →
    ∃ changed, next.network.receiver? id = some changed ∧ changed.bare = receiver.bare ∧
      receiver.callbacks <+: changed.callbacks
  spared : ∀ id : ReceiverId, id.agent ≠ index → next.entriesOf id = journal.entriesOf id
  offered : ∀ (id : ReceiverId) (receiver : Receiver), id.agent = index → journal.network.receiver? id = some receiver →
    if receiver.pattern.accepts message.topic then
      ∃ callbacks, receiver.callbacks <+: callbacks ∧
        next.entriesOf id = journal.entriesOf id ++ receiver.occurrences id message callbacks
    else next.entriesOf id = journal.entriesOf id

theorem serves_of_expects (ready : journal.network.ready = .dispatch index source :: rest)
    (quiet : journal.network.Quiet) (expects : journal.network.Expects message index source) :
    ∃ first next, journal.tick? = some first ∧ first.tick? = some next ∧
      Serves message index source rest journal next := by
  rcases expects with ⟨agent, phase, hagent, reads, working, inbox⟩
  let taken := journal.onNetwork fun network ↦ { network with
    medium := { network.medium with
      broker := network.medium.broker.modifyClient source fun client ↦ { client with inbox := [] } } }
  let first := taken.offerEach index message (agent.offered message.topic)
  have htick : journal.tick? = some first := tick?_of_message ready hagent reads working inbox
  have quiet' : taken.network.Quiet := quiet
  have mild : taken.network.Mild _ first.network := mild_offerEach quiet' index message (agent.offered message.topic)
  have hbroker : first.network.medium.broker = taken.network.medium.broker :=
    congrArg (fun network ↦ network.medium.broker) mild.bare_eq
  have hready : first.network.ready = .dispatch index source :: rest :=
    (congrArg Network.ready mild.bare_eq).trans ready
  have htaken : taken.network.agents[index]? = some agent := hagent
  rcases Network.agent_of_bare mild.bare_eq htaken with ⟨changed, hchanged, hbare⟩
  have reads' : changed.dispatcher = some ⟨source, phase⟩ := (congrArg Agent.dispatcher hbare).trans reads
  have empty : first.network.medium.broker.inbox source = [] := by
    rw [hbroker]
    refine (Broker.inbox_modifyClient _ source source _).trans ?_
    rw [if_pos rfl]
    cases journal.network.medium.broker.clients[source]? <;> rfl
  rcases tick?_of_empty hready hchanged reads' working empty with ⟨last, hlast⟩
  refine ⟨first, _, htick, hlast, rfl, ?_, ?_, ?_, ?_, ?_⟩
  · intro id receiver h
    refine mild.quiet quiet' id receiver ?_
    rw [← Network.receiver?_setDispatcher hchanged (some ⟨source, last⟩) rest id]
    exact h
  · intro other from' hne hne' ⟨otherAgent, otherPhase, hother, otherReads, otherWorks, otherInbox⟩
    have htaken' : taken.network.agents[other]? = some otherAgent := hother
    rcases Network.agent_of_bare mild.bare_eq htaken' with ⟨otherChanged, hotherChanged, otherBare⟩
    refine ⟨otherChanged, otherPhase, ?_, (congrArg Agent.dispatcher otherBare).trans otherReads, otherWorks, ?_⟩
    · exact (List.getElem?_set_ne hne.symm).trans hotherChanged
    · refine (congrArg (fun broker ↦ broker.inbox from') hbroker).trans ?_
      refine (Broker.inbox_modifyClient _ source from' _).trans ?_
      rw [if_neg (Ne.symm hne'), otherInbox]
  · intro id receiver hne h
    have h' : taken.network.receiver? id = some receiver := h
    rcases mild.receiver hne h' with ⟨grown, hgrown, hsame, hprefix⟩
    refine ⟨grown, ?_, hsame, hprefix⟩
    exact (Network.receiver?_setDispatcher hchanged (some ⟨source, last⟩) rest id).trans hgrown
  · intro id hne
    exact entriesOf_offerEach_of_not_mem fun own ↦ absurd own hne
  · intro id receiver own h
    have h' : taken.network.receiver? id = some receiver := h
    exact entriesOf_offerEach_offered quiet' htaken own h'

/-! ## All dispatchers -/

theorem run_of_tick? {next : Journal} {steps : Nat} (h : journal.tick? = some next) :
    journal.run (steps + 1) = next.run steps := by
  rw [run, h]

theorem run_of_settled (settled : journal.network.ready = []) (steps : Nat) : journal.run steps = journal := by
  have idle : journal.tick? = none := by
    unfold tick? Network.tick?
    simp only [settled, Option.map_none]
  cases steps with
  | zero => rfl
  | succ steps => rw [run, idle]

/-- Dispatchers that each expect the one message serve their receivers, one dispatcher after the other. -/
theorem run_of_expects {todo : List (Nat × ConnectionId)} {steps : Nat}
    (ready : journal.network.ready = todo.map fun entry ↦ .dispatch entry.1 entry.2) (quiet : journal.network.Quiet)
    (agents : (todo.map Prod.fst).Nodup) (sources : (todo.map Prod.snd).Nodup)
    (expects : ∀ entry ∈ todo, journal.network.Expects message entry.1 entry.2) (enough : 2 * todo.length ≤ steps) :
    (journal.run steps).network.ready = [] ∧
    (∀ id : ReceiverId, id.agent ∉ todo.map Prod.fst → (journal.run steps).entriesOf id = journal.entriesOf id) ∧
    ∀ (id : ReceiverId) (receiver : Receiver), id.agent ∈ todo.map Prod.fst →
      journal.network.receiver? id = some receiver →
      if receiver.pattern.accepts message.topic then
        ∃ callbacks, receiver.callbacks <+: callbacks ∧
          (journal.run steps).entriesOf id = journal.entriesOf id ++ receiver.occurrences id message callbacks
      else (journal.run steps).entriesOf id = journal.entriesOf id := by
  induction todo generalizing journal steps with
  | nil =>
    rw [run_of_settled ready]
    exact ⟨ready, fun _ _ ↦ rfl, fun _ _ hmem ↦ absurd hmem List.not_mem_nil⟩
  | cons entry rest ih =>
    have hagents := List.nodup_cons.1 agents
    have hsources := List.nodup_cons.1 sources
    rcases serves_of_expects ready quiet (expects entry List.mem_cons_self) with ⟨first, next, hfirst, hnext, serves⟩
    obtain ⟨later, rfl⟩ : ∃ later, steps = later + 1 + 1 := ⟨steps - 2, by simp at enough; omega⟩
    rw [run_of_tick? hfirst, run_of_tick? hnext]
    have expects' : ∀ other ∈ rest, next.network.Expects message other.1 other.2 := by
      intro other hother
      refine serves.expects other.1 other.2 ?_ ?_ (expects other (List.mem_cons_of_mem entry hother))
      · exact fun same ↦ hagents.1 (same ▸ List.mem_map_of_mem hother)
      · exact fun same ↦ hsources.1 (same ▸ List.mem_map_of_mem hother)
    have enough' : 2 * rest.length ≤ later := by simp at enough; omega
    rcases ih serves.ready serves.quiet hagents.2 hsources.2 expects' enough' with ⟨settled, spared, offered⟩
    refine ⟨settled, ?_, ?_⟩
    · intro id hmem
      rw [List.map_cons, List.mem_cons, not_or] at hmem
      rw [spared id hmem.2, serves.spared id hmem.1]
    · intro id receiver hmem h
      by_cases own : id.agent = entry.1
      · have hspared := spared id (own ▸ hagents.1)
        rw [hspared]
        exact serves.offered id receiver own h
      · rcases serves.receivers id receiver own h with ⟨changed, hchanged, hbare, hgrown⟩
        have hmem' := (List.mem_cons.1 hmem).resolve_left own
        have hpattern : changed.pattern = receiver.pattern := Receiver.pattern_eq_of_bare hbare
        have hlater := offered id changed hmem' hchanged
        rw [hpattern, serves.spared id own] at hlater
        split
        · rename_i accepts
          rw [if_pos accepts] at hlater
          rcases hlater with ⟨callbacks, hprefix, hentries⟩
          exact ⟨callbacks, hgrown.trans hprefix, by rw [hentries, Receiver.occurrences_congr hbare]⟩
        · rename_i refuses
          rwa [if_neg refuses] at hlater

end Journal

end PubSub
