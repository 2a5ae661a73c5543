import PubSub.Proofs.Network.Delivery
import PubSub.Proofs.Network.Waking
import PubSub.Proofs.Session.Connections
/-!
# A message reaches whom it concerns, once

A message that is published in a settled session puts exactly the dispatchers to work whose agents are connected and
hold a filter for its topic. While they work, every receiver of these agents whose pattern accepts the topic is offered
the message once, and runs each of its callbacks once if it can read it; no other receiver notices anything.
-/

namespace PubSub

variable {session next : Session} {agent : Agent} {message : Message} {source : ConnectionId} {index : Nat}

/-- Whether a topic concerns an agent: it is connected, and the broker holds a filter for the topic for it. -/
def Agent.isConcerned (medium : Medium) (agent : Agent) (topic : String) : Bool :=
  agent.isConnected medium && agent.connection.handle.any fun handle ↦ medium.broker.wants handle topic

namespace Session

/-! ## Publishing -/

/-- The message that a request publishes, if it is one to publish once. -/
def message? (session : Session) : Request → Option Message
  | .send sender value =>
    match session.findSender sender with
    | .error _ => none
    | .ok (_, sender) =>
      (sender.kind.encode (value sender.kind)).toOption.map fun payload ↦ ⟨sender.definition.topic, payload⟩
  | .sendRaw sender payload =>
    match session.findSender sender with
    | .error _ => none
    | .ok (_, sender) => some ⟨sender.definition.topic, payload⟩
  | .publishRaw _ message _ _ => some message
  | .publish topic payload _ times => if times = 1 then payload.toOption.map fun payload ↦ ⟨topic, payload⟩ else none
  | .rawPublish _ message _ => some message
  | _ => none

/-- Whether the next session is the one after the message was routed, with the dispatchers woken. -/
def Routes (session : Session) (message : Message) (next : Session) : Prop :=
  ∃ medium retain, next.network = Network.wake { session.network with medium } ∧
    medium.broker = session.network.medium.broker.route message retain

theorem routes_of_publishAs {options : PublishOptions}
    (h : session.publishAs agent message options = (next, .ok .done)) : session.Routes message next := by
  unfold publishAs Agent.publish at h
  cases held : agent.liveHandle? session.network.medium with
  | none =>
    rw [held] at h
    cases h
  | some handle =>
    rw [held] at h
    simp only at h
    have hnext := (Prod.mk.inj h).1
    have hanswer := (Prod.mk.inj h).2
    rcases session.network.medium.publish_cases agent.transport handle message options with ⟨error, failed, -⟩ | routed
    · rw [failed] at hanswer
      cases hanswer
    · rw [← hnext, routed]
      exact ⟨_, options.retain, rfl, rfl⟩

theorem attempt_bind_eq_ok {α : Type} {found : Except Refusal α}
    {work : α → Except Refusal (Session × Except Refusal Answer)} {answer : Answer}
    (h : session.attempt (found >>= work) = (next, .ok answer)) :
    ∃ thing, found = .ok thing ∧ session.attempt (work thing) = (next, .ok answer) := by
  cases found with
  | error refusal => cases h
  | ok thing => exact ⟨thing, rfl, h⟩

theorem eq_ok_of_failing {α : Type} {result : Except Error α} {thing : α} (h : failing result = .ok thing) :
    result = .ok thing := by
  cases result with
  | error error => cases h
  | ok found => exact congrArg Except.ok (Except.ok.inj h)

/-- A request that publishes and succeeds has its message routed. -/
theorem routes_of_handle {request : Request} (publishes : session.message? request = some message)
    (done : session.handle request = (next, .ok .done)) : session.Routes message next := by
  cases request with
  | send sender value =>
    rcases attempt_bind_eq_ok done with ⟨⟨agent, found⟩, hfound, done⟩
    rcases attempt_bind_eq_ok done with ⟨payload, hpayload, done⟩
    simp only [message?, hfound, eq_ok_of_failing hpayload, Except.toOption, Option.map_some,
      Option.some.injEq] at publishes
    rw [← publishes]
    exact routes_of_publishAs done
  | sendRaw sender payload =>
    rcases attempt_bind_eq_ok done with ⟨⟨agent, found⟩, hfound, done⟩
    simp only [message?, hfound, Option.some.injEq] at publishes
    rw [← publishes]
    exact routes_of_publishAs done
  | publishRaw agent published qos retain =>
    rcases attempt_bind_eq_ok done with ⟨⟨_, agent⟩, -, done⟩
    rcases attempt_bind_eq_ok done with ⟨qos, -, done⟩
    have same : published = message := Option.some.inj publishes
    rw [← same]
    exact routes_of_publishAs done
  | publish topic payload retain times =>
    rcases attempt_bind_eq_ok done with ⟨found, hfound, done⟩
    rcases (Option.ite_none_right_eq_some.1 publishes) with ⟨rfl, single⟩
    rw [eq_ok_of_failing hfound, Except.toOption, Option.map_some] at single
    rw [← (Prod.mk.inj done).1, ← Option.some.inj single]
    exact ⟨_, retain, rfl, rfl⟩
  | rawPublish label published retain =>
    rcases attempt_bind_eq_ok done with ⟨connection, -, done⟩
    have same : published = message := Option.some.inj publishes
    cases hpublish : session.network.medium.broker.publish connection published retain with
    | error error =>
      rw [hpublish] at done
      cases done
    | ok broker =>
      rw [hpublish] at done
      rw [← (Prod.mk.inj done).1, Broker.eq_route_of_publish hpublish, same]
      exact ⟨_, retain, rfl, rfl⟩
  | _ => cases publishes

/-! ## Settling -/

namespace Steady

/-- A message puts the dispatcher of an agent to work if it concerns the agent. -/
theorem isConcerned_iff (steady : session.Steady) (truthful : session.network.Truthful)
    (settled : session.network.ready = []) (h : session.network.agents[index]? = some agent) (retain : Bool) :
    agent.isConcerned session.network.medium message.topic ↔
      ∃ source, Network.summoned? (session.network.medium.broker.route message retain) agent = some source := by
  have hmem : agent ∈ session.network.agents := List.mem_of_getElem? h
  have hlive (source : ConnectionId) : agent.liveHandle? session.network.medium = some source ↔
      agent.connection.handle = some source ∧ session.network.medium.broker.isLive source :=
    liveHandle?_eq_some_iff truthful steady hmem
  unfold Agent.isConcerned
  rw [Bool.and_eq_true, ← isSome_liveHandle?, Option.isSome_iff_exists, Option.any_eq_true]
  constructor
  · intro ⟨⟨source, live⟩, handle, held, wants⟩
    rw [hlive] at live
    have same : source = handle := Option.some.inj (live.1.symm.trans held)
    subst same
    exact ⟨source, (steady.network.summoned?_route_iff settled h).2 ⟨held, live.2, wants⟩⟩
  · intro ⟨source, summoned⟩
    have concerned := (steady.network.summoned?_route_iff settled h).1 summoned
    exact ⟨⟨source, (hlive source).2 ⟨concerned.1, concerned.2.1⟩⟩, source, concerned.1, concerned.2.2⟩

/-- A message that has been routed reaches the receivers that it concerns, once each, until no work is left. -/
theorem delivers {steps : Nat} (steady : session.Steady) (truthful : session.network.Truthful)
    (quiet : session.network.Quiet) (settled : session.network.ready = []) (routes : session.Routes message next)
    (enough : 2 * session.network.agents.length ≤ steps) :
    ((⟨next.network, []⟩ : Journal).run steps).network.ready = [] ∧
    ∀ (id : ReceiverId) (agent : Agent) (receiver : Receiver), session.network.agents[id.agent]? = some agent →
      agent.receivers[id.index]? = some receiver →
      if agent.isConcerned session.network.medium message.topic ∧ receiver.pattern.accepts message.topic then
        ∃ callbacks, receiver.callbacks <+: callbacks ∧
          ((⟨next.network, []⟩ : Journal).run steps).entriesOf id = receiver.occurrences id message callbacks
      else ((⟨next.network, []⟩ : Journal).run steps).entriesOf id = [] := by
  rcases routes with ⟨medium, retain, hnext, routed⟩
  let network : Network := { session.network with medium }
  have hwake : next.network = { network with ready := network.summons.map fun entry ↦ .dispatch entry.1 entry.2 } :=
    hnext.trans (Network.wake_of_settled settled)
  have fades : session.network.medium.broker.Fades network.medium.broker :=
    routed ▸ session.network.medium.broker.fades_route message retain
  have sound : network.Sound session.IsRaw := steady.network.sound.fades rfl fades fun _ _ closes ↦ closes
  have expects : ∀ entry ∈ network.summons, next.network.Expects message entry.1 entry.2 := by
    intro ⟨index, source⟩ hmem
    rcases steady.network.expects_of_mem_summons settled routed hmem with ⟨agent, hagent, reads, inbox⟩
    rw [hwake]
    exact ⟨agent, .resting, hagent, reads, nofun, inbox⟩
  have enough' : 2 * network.summons.length ≤ steps :=
    Nat.le_trans (Nat.mul_le_mul_left 2 network.length_summons_le) enough
  have quiet' : next.network.Quiet := hwake ▸ quiet
  have ready : (⟨next.network, []⟩ : Journal).network.ready =
      network.summons.map fun entry ↦ .dispatch entry.1 entry.2 := congrArg Network.ready hwake
  rcases Journal.run_of_expects ready quiet' network.nodup_agents_summons sound.nodup_sources_summons expects enough'
    with ⟨done, spared, offered⟩
  refine ⟨done, ?_⟩
  intro id agent receiver hagent hreceiver
  have hsame : next.network.receiver? id = some receiver := by
    rw [hwake]
    exact Network.receiver?_eq_some_iff.2 ⟨agent, hagent, hreceiver⟩
  have concerns : agent.isConcerned session.network.medium message.topic ↔
      id.agent ∈ network.summons.map Prod.fst := by
    have hnetwork : network.agents[id.agent]? = some agent := hagent
    rw [steady.isConcerned_iff truthful settled hagent retain, Network.mem_agents_summons_iff hnetwork, ← routed]
  by_cases concerned : id.agent ∈ network.summons.map Prod.fst
  · have h := offered id receiver concerned hsame
    simpa [concerns, concerned, Journal.entriesOf] using h
  · have h := spared id concerned
    simpa [concerns, concerned, Journal.entriesOf] using h

end Steady

/-- A message that a step publishes in a settled session is offered once to every receiver that it concerns, and to no
other. If the receiver can read it, every callback that the receiver has then runs on it once. Here callbacks may fail
and register others, but leave the broker alone; and enough steps are done for two to fall to each agent. -/
theorem delivers_once {published : Step} {steps : Nat} (reachable : session.Reachable)
    (settled : session.network.ready = []) (truthful : session.network.Truthful) (quiet : session.network.Quiet)
    (publishes : session.message? published.request = some message) (unsettled : published.settles = false)
    (done : (session.step published).2.answer = .ok .done) (enough : 2 * session.network.agents.length ≤ steps) :
    let next := (session.step published).1.network
    let journal := (⟨next, []⟩ : Journal).run steps
    journal.network = next.run steps ∧ journal.network.ready = [] ∧
    ∀ (id : ReceiverId) (agent : Agent) (receiver : Receiver), session.network.agents[id.agent]? = some agent →
      agent.receivers[id.index]? = some receiver →
      if agent.isConcerned session.network.medium message.topic ∧ receiver.pattern.accepts message.topic then
        ∃ callbacks, receiver.callbacks <+: callbacks ∧
          journal.entriesOf id = receiver.occurrences id message callbacks
      else journal.entriesOf id = [] := by
  intro next journal
  let cleared := session.onNetwork fun network ↦
    { network with medium := { network.medium with observations := [] } }
  have steady : cleared.Steady :=
    reachable.steady.of_network rfl (reachable.steady.network.still rfl rfl fun _ h ↦ h)
  have stepped : (session.step published).1 = (cleared.handle published.request).1 := by
    unfold step
    rw [unsettled]
    rfl
  have handled : cleared.handle published.request = ((session.step published).1, .ok .done) := by
    rw [stepped, ← done]
    rfl
  have routes : cleared.Routes message (session.step published).1 := routes_of_handle publishes handled
  have delivered := steady.delivers truthful quiet settled routes enough
  exact ⟨Journal.network_run _ steps, delivered⟩

/-- Two receivers of an agent overlap, and the callback of the first one registers another at the second one before it
fails. An agent that has disconnected gets nothing. -/
theorem delivers_once_overlapping : ∃ session : Session, session.Reachable ∧ session.network.ready = [] ∧
    let message : Message := ⟨"car/speed/1", [7]⟩
    let published : Step := ⟨.publish "car/speed/1" (.ok [7]) false 1, none, false, false⟩
    let journal := (⟨(session.step published).1.network, []⟩ : Journal).run 4
    (∀ index < 2, ∃ callbacks, callbacks ≠ [] ∧ journal.entriesOf ⟨0, index⟩ = .offered ⟨0, index⟩ message callbacks ::
      callbacks.map fun callback ↦ .ran ⟨0, index⟩ callback ⟨message.topic, some ⟨.u32, (7 : UInt32)⟩⟩) ∧
    journal.entriesOf ⟨1, 0⟩ = [] := by
  let step (request : Request) : Step := ⟨request, none, true, false⟩
  let build (label : String) : Step := step (.build ⟨label, "role", none, none, none, .none, some true, none, .plain⟩)
  let receive (agent label : String) (pattern : Option String) : Step :=
    step (.createReceiver ⟨agent, label, .u32, label, { ChannelOptions.none with overrideTopic := pattern }, none⟩)
  let register (label : String) (actions : List Action) : Step :=
    step (.register label ⟨false, .scripted label actions⟩)
  let session := Session.fresh.after [build "one", build "two",
    receive "one" "speed" none, receive "one" "all" (some "#"), receive "two" "all two" (some "#"),
    register "speed" [.register (some ⟨0, 1⟩) true (.scripted "late" []), .fail], register "all" [.count],
    register "all two" [], step (.disconnect "two")]
  have reachable : session.Reachable := Reachable.fresh.after _
  have settled : session.network.ready = [] := by decide +kernel
  have truthful : session.network.Truthful := Network.truthful_of_plain (by decide +kernel)
  have quiet : session.network.Quiet := Network.quiet_of_receivers (by decide +kernel)
  let message : Message := ⟨"car/speed/1", [7]⟩
  let published : Step := ⟨.publish "car/speed/1" (.ok [7]) false 1, none, false, false⟩
  have done : (session.step published).2.answer = .ok .done := rfl
  have enough : 2 * session.network.agents.length ≤ 4 := by decide +kernel
  have publishes : session.message? published.request = some message := rfl
  have delivered := (delivers_once reachable settled truthful quiet publishes rfl done enough).2.2
  have concerned : ∀ index < 2, session.network.agents[0]?.any fun agent ↦
      agent.isConcerned session.network.medium message.topic && agent.receivers[index]?.any fun receiver ↦
        receiver.pattern.accepts message.topic && !receiver.callbacks.isEmpty &&
        decide (receiver.read? message = some ⟨message.topic, some ⟨.u32, (7 : UInt32)⟩⟩) := by
    decide +kernel
  have unconcerned : session.network.agents[1]?.any fun agent ↦
      !agent.isConcerned session.network.medium message.topic && agent.receivers[0]?.any fun receiver ↦
        receiver.pattern.accepts message.topic := by
    decide +kernel
  refine ⟨session, reachable, settled, ?_, ?_⟩
  · intro index hlt
    rcases (Option.any_eq_true _ _).1 (concerned index hlt) with ⟨agent, hagent, h⟩
    rw [Bool.and_eq_true] at h
    rcases (Option.any_eq_true _ _).1 h.2 with ⟨receiver, hreceiver, h'⟩
    simp only [Bool.and_eq_true, decide_eq_true_eq, Bool.not_eq_true', List.isEmpty_eq_false_iff] at h'
    have offered := delivered ⟨0, index⟩ agent receiver hagent hreceiver
    rw [if_pos ⟨h.1, h'.1.1⟩] at offered
    rcases offered with ⟨callbacks, hprefix, hentries⟩
    refine ⟨callbacks, ?_, ?_⟩
    · exact hprefix.ne_nil h'.1.2
    · rw [hentries, Receiver.occurrences, h'.2]
  · rcases (Option.any_eq_true _ _).1 unconcerned with ⟨agent, hagent, h⟩
    rw [Bool.and_eq_true] at h
    rcases (Option.any_eq_true _ _).1 h.2 with ⟨receiver, hreceiver, -⟩
    have spared := delivered ⟨1, 0⟩ agent receiver hagent hreceiver
    rwa [if_neg fun concerned ↦ by simp [concerned.1] at h] at spared

end Session

end PubSub
