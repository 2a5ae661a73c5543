import PubSub.Proofs.Session.Delivery
import PubSub.Proofs.Session.Subscriptions
import PubSub.Proofs.Topic.Coverage
/-!
# What a receiver is offered

A receiver that is the only one of its agent, and is subscribed on the agent's live connection, is offered the messages
that the broker sends for its filter and that the dispatcher takes for its pattern. So the pattern tells what the
receiver is offered if it is faithful; if it is not, it accepts topics of which nothing comes.
-/

namespace PubSub

variable {session : Session} {agent : Agent} {receiver : Receiver} {message : Message} {published : Step}

/-- An agent with a single receiver, which is subscribed on the live connection of the agent. -/
structure Agent.ListensOnly (agent : Agent) (medium : Medium) (receiver : Receiver) : Prop where
  receivers : agent.receivers = [receiver]
  subscribed : receiver.subscribed
  connected : agent.isConnected medium

namespace Session

/-- What happens to receivers while the work is done that a step leaves. -/
def journal (session : Session) (published : Step) (steps : Nat) : Journal :=
  (⟨(session.step published).1.network, []⟩ : Journal).run steps

/-- The step that publishes a message from outside all agents and leaves the work to be done. -/
def publication (topic : String) (payload : Bytes) : Step :=
  ⟨.publish topic (.ok payload) false 1, none, false, false⟩

/-- A step that publishes and succeeds has its message routed. -/
theorem routes_of_step {message : Message} (publishes : session.message? published.request = some message)
    (unsettled : published.settles = false) (done : (session.step published).2.answer = .ok .done) :
    session.cleared.Routes message (session.step published).1 := by
  have stepped : (session.step published).1 = (session.cleared.handle published.request).1 := by
    unfold step
    rw [unsettled]
    rfl
  have handled : session.cleared.handle published.request = ((session.step published).1, .ok .done) := by
    rw [stepped, ← done]
    rfl
  have publishes' : session.cleared.message? published.request = some message := publishes
  exact routes_of_handle publishes' handled

/-- The filters of the agent's connection are the one of the receiver. -/
theorem Separate.isConcerned_iff (separate : session.Separate) (truthful : session.network.Truthful)
    (h : agent ∈ session.network.agents) (listens : agent.ListensOnly session.network.medium receiver)
    (topic : String) :
    agent.isConcerned session.network.medium topic ↔ Filter.accepts receiver.pattern.text topic := by
  have tuned := separate.tuned h
  have tunings : agent.standing.tunings = [receiver.tuning] := by simp [Agent.standing, listens.receivers]
  obtain ⟨handle, live⟩ := Option.isSome_iff_exists.1
    ((isSome_liveHandle? session.network.medium agent).trans listens.connected)
  obtain ⟨held, live⟩ := (liveHandle?_eq_some_iff truthful separate.steady h).1 live
  have filters (filter : String) :
      filter ∈ session.network.medium.broker.filtersOf handle ↔ filter = receiver.pattern.text := by
    constructor
    · intro hmem
      obtain ⟨tuning, wanted, rfl⟩ := tuned.wanted handle held filter hmem
      rw [tunings, List.mem_singleton] at wanted
      rw [wanted]
      rfl
    · rintro rfl
      exact tuned.listed handle held receiver.tuning (by simp [tunings]) listens.subscribed
  unfold Agent.isConcerned Broker.wants
  rw [listens.connected, Bool.true_and, held, Option.any_some, ← Broker.any_filtersOf_of_isLive live, List.any_eq_true]
  simp only [filters, exists_eq_left]

/-- What the receiver is offered of a message that a step publishes. -/
theorem Separate.offered_iff {index steps : Nat} (separate : session.Separate) (settled : session.network.ready = [])
    (truthful : session.network.Truthful) (quiet : session.network.Quiet)
    (h : session.network.agents[index]? = some agent) (listens : agent.ListensOnly session.network.medium receiver)
    (publishes : session.message? published.request = some message) (unsettled : published.settles = false)
    (done : (session.step published).2.answer = .ok .done) (enough : 2 * session.network.agents.length ≤ steps) :
    (session.journal published steps).network.ready = [] ∧
      ((session.journal published steps).entriesOf ⟨index, 0⟩ ≠ [] ↔
        Filter.accepts receiver.pattern.text message.topic ∧ receiver.pattern.accepts message.topic) := by
  have routes := routes_of_step publishes unsettled done
  have delivered := separate.steady.cleared.delivers truthful quiet settled routes enough
  have known := List.mem_of_getElem? h
  have concerned : agent.isConcerned session.cleared.network.medium message.topic ↔
      Filter.accepts receiver.pattern.text message.topic :=
    separate.isConcerned_iff truthful known listens message.topic
  refine ⟨delivered.1, ?_⟩
  have offered := delivered.2 ⟨index, 0⟩ agent receiver h (by simp [listens.receivers])
  simp only [concerned] at offered
  by_cases both : Filter.accepts receiver.pattern.text message.topic ∧ receiver.pattern.accepts message.topic
  · rw [if_pos both] at offered
    obtain ⟨callbacks, -, entries⟩ := offered
    unfold journal
    simp [entries, both, Receiver.occurrences]
  · rw [if_neg both] at offered
    unfold journal
    simp [offered, both]

/-- The receiver is offered a message exactly if the broker's filter and the pattern accept its topic. So the pattern
alone tells what is offered exactly if it is faithful. -/
theorem offers_what_is_sent {index : Nat} (separate : session.Separate) (settled : session.network.ready = [])
    (truthful : session.network.Truthful) (quiet : session.network.Quiet)
    (h : session.network.agents[index]? = some agent) (listens : agent.ListensOnly session.network.medium receiver) :
    (∀ (published : Step) (message : Message) (steps : Nat), session.message? published.request = some message →
      published.settles = false → (session.step published).2.answer = .ok .done →
      2 * session.network.agents.length ≤ steps →
      (session.journal published steps).network.ready = [] ∧
        ((session.journal published steps).entriesOf ⟨index, 0⟩ ≠ [] ↔
          Filter.accepts receiver.pattern.text message.topic ∧ receiver.pattern.accepts message.topic)) ∧
    (receiver.pattern.isFaithful ↔ ∀ topic payload, receiver.pattern.accepts topic ↔
      (session.journal (publication topic payload) (2 * session.network.agents.length)).entriesOf ⟨index, 0⟩ ≠ []) := by
  have offered (published : Step) (message : Message) (steps : Nat)
      (publishes : session.message? published.request = some message) (unsettled : published.settles = false)
      (done : (session.step published).2.answer = .ok .done) (enough : 2 * session.network.agents.length ≤ steps) :=
    separate.offered_iff settled truthful quiet h listens publishes unsettled done enough
  refine ⟨offered, ?_⟩
  have registered : receiver.tuning ∈ agent.standing.tunings := by simp [Agent.standing, listens.receivers]
  have parsed : TopicPattern.parse receiver.pattern.text = .ok receiver.pattern :=
    (separate.tuned (List.mem_of_getElem? h)).parsed receiver.tuning registered
  have both (topic : String) (payload : Bytes) :=
    (offered (publication topic payload) ⟨topic, payload⟩ _ rfl rfl rfl (Nat.le_refl _)).2
  rw [TopicPattern.isFaithful_iff parsed]
  constructor
  · intro sent topic payload
    rw [both]
    exact ⟨fun accepted ↦ ⟨sent topic accepted, accepted⟩, And.right⟩
  · intro tells topic accepted
    exact ((both topic []).1 ((tells topic []).1 accepted)).1

/-- A pattern that wants exactly three levels also accepts a topic with two, and nothing comes of that topic. -/
theorem offers_what_is_sent_short : ∃ session : Session, session.Separate ∧ ∃ agent receiver,
    session.network.agents[0]? = some agent ∧ agent.ListensOnly session.network.medium receiver ∧
    receiver.pattern.isFaithful = false ∧ receiver.pattern.accepts "car/speed" ∧
    (session.journal (publication "car/speed" [7]) 2).entriesOf ⟨0, 0⟩ = [] ∧
    (session.journal (publication "car/speed/front" [7]) 2).entriesOf ⟨0, 0⟩ ≠ [] := by
  let step (request : Request) : Step := ⟨request, none, true, false⟩
  let session := Session.fresh.after [
    step (.build ⟨"agent", "role", none, none, none, .none, some true, none, .plain⟩),
    step (.createReceiver ⟨"agent", "speed", .u32, "speed", { ChannelOptions.none with instanceId := some "+" }, none⟩)]
  have separate : session.Separate := Separate.fresh.after _ (by simp [step, Lends])
  have settled : session.network.ready = [] := by decide +kernel
  have truthful : session.network.Truthful := Network.truthful_of_plain (by decide +kernel)
  have quiet : session.network.Quiet := Network.quiet_of_receivers (by decide +kernel)
  have enough : 2 * session.network.agents.length ≤ 2 := by decide +kernel
  have listening : session.network.agents[0]?.any fun agent ↦
      agent.isConnected session.network.medium && agent.receivers[0]?.any fun receiver ↦
        decide (agent.receivers.length = 1) && receiver.subscribed &&
          decide (receiver.pattern = ⟨"+/speed/+", .channel .any "speed" .any⟩) := by
    decide +kernel
  obtain ⟨agent, hagent, h⟩ := (Option.any_eq_true _ _).1 listening
  rw [Bool.and_eq_true] at h
  obtain ⟨receiver, hreceiver, h'⟩ := (Option.any_eq_true _ _).1 h.2
  simp only [Bool.and_eq_true, decide_eq_true_eq] at h'
  obtain ⟨⟨single, subscribed⟩, pattern⟩ := h'
  have receivers : agent.receivers = [receiver] := by
    obtain ⟨found, hfound⟩ := List.length_eq_one_iff.1 single
    rw [hfound, List.getElem?_cons_zero, Option.some.injEq] at hreceiver
    rw [hfound, hreceiver]
  have listens : agent.ListensOnly session.network.medium receiver := ⟨receivers, subscribed, h.1⟩
  have offered (topic : String) :=
    ((offers_what_is_sent separate settled truthful quiet hagent listens).1 (publication topic [7]) ⟨topic, [7]⟩ 2
      rfl rfl rfl enough).2
  refine ⟨session, separate, agent, receiver, hagent, listens, by rw [pattern]; rfl, by rw [pattern]; rfl, ?_, ?_⟩
  · have unsent := (offered "car/speed").not
    rw [pattern] at unsent
    simpa using unsent.2 (by decide)
  · rw [offered, pattern]
    decide

end Session

end PubSub
