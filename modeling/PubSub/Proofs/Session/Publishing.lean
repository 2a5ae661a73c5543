import PubSub.Proofs.Session.Payloads
import PubSub.Proofs.Session.Refusals
import PubSub.Proofs.Session.Registry
import PubSub.Proofs.Session.Retention
import PubSub.Proofs.Topic.Address
/-!
# A message goes out as a whole or not at all

Publishing looks for the connection at the moment of the call. If there is a live one, the message is handed to the
transport once and routed; if not, nothing happens but that the call is refused. A payload that cannot be written is
refused before anybody looks for a connection. What a sender publishes with was settled when it was created: neither a
reconnect nor the end of its agent changes it, and asking for the sender once more with other options does not either.
-/

namespace PubSub

/-! ## Senders -/

/-- What a sender is when it has been created for an agent. -/
structure Sender.IsMadeFor (sender : Sender) (agent : Agent) (name : String) (kind : PayloadKind)
    (options : ChannelOptions) : Prop where
  entry : sender.entry = (name, kind)
  given : ∀ topic ∈ options.overrideTopic, sender.definition.topic = topic
  built : options.overrideTopic = none → ∃ address,
    TopicAddress.forSender name agent.identity options.role options.instanceId = .ok address ∧
      sender.definition.topic = address.text
  qos : sender.options.qos = options.qos.getD agent.defaults.qos
  retain : sender.options.retain = options.retain.getD agent.defaults.retain

theorem Sender.IsMadeFor.options_eq {sender : Sender} {agent : Agent} {name : String} {kind : PayloadKind}
    {options : ChannelOptions} (made : sender.IsMadeFor agent name kind options) :
    sender.options = ⟨options.qos.getD agent.defaults.qos, options.retain.getD agent.defaults.retain⟩ := by
  rw [← made.qos, ← made.retain]

theorem Agent.isMadeFor_of_newSender {agent : Agent} {name : String} {kind : PayloadKind} {options : ChannelOptions}
    {sender : Sender} (h : agent.newSender name kind options = .ok sender) :
    sender.IsMadeFor agent name kind options := by
  unfold newSender at h
  split at h
  · rename_i topic given
    rw [← Except.ok.inj h]
    exact ⟨rfl, fun other same ↦ Option.some.inj (given.symm.trans same), by simp [given], rfl, rfl⟩
  · rename_i given
    cases built : TopicAddress.forSender name agent.identity options.role options.instanceId with
    | error error =>
      rw [built] at h
      cases h
    | ok address =>
      rw [built] at h
      rw [← Except.ok.inj h]
      exact ⟨rfl, by simp [given], fun _ ↦ ⟨address, built, rfl⟩, rfl, rfl⟩

/-- A payload that cannot be written is refused as such. -/
theorem PayloadKind.error_of_encode {kind : PayloadKind} {value : kind.Value} {error : Error}
    (h : kind.encode value = .error error) : ∃ reason, error = .encode reason := by
  unfold encode at h
  split at h
  · exact ⟨_, (Except.error.inj h).symm⟩
  · cases h

namespace Session

variable {session : Session} {agent : Agent} {sender : Sender} {label : String}

/-! ## Publishing -/

/-- What publishing a message comes to: it goes out once and is routed, or nothing happens. -/
structure AllOrNothing (session : Session) (agent : Agent) (message : Message) (options : PublishOptions)
    (outcome : Session × Except Refusal Answer) : Prop where
  ok_iff : outcome.2 = .ok .done ↔ agent.connection.state = .connected ∧
    ∃ handle ∈ agent.connection.handle, session.network.medium.isLive agent.transport handle
  /-- The transport records the call, and the broker routes the message. Nothing else changes, except that dispatchers
  wake up. -/
  all : outcome.2 = .ok .done → outcome.1 = session.onNetwork fun network ↦ network.onMedium fun medium ↦
    { medium.record agent.transport (.publish message options) with
      broker := medium.broker.route message options.retain }
  nothing : outcome.2 ≠ .ok .done →
    outcome = (session, .error (.failed (.publishWithoutConnection message.topic)))

theorem allOrNothing_publishAs (awake : session.network.Awake)
    (healthy : (session.network.medium.scriptOf agent.transport).publish = []) (message : Message)
    (options : PublishOptions) :
    session.AllOrNothing agent message options (session.publishAs agent message options) := by
  cases live : agent.liveHandle? session.network.medium with
  | none =>
    have refused : session.publishAs agent message options =
        (session, .error (.failed (.publishWithoutConnection message.topic))) := by
      have woken : (session.network.onMedium fun _ ↦ session.network.medium) = session.network := awake.wake
      simp only [publishAs, Agent.publish, live, onNetwork, woken]
      rfl
    rw [refused]
    refine ⟨⟨by simp, ?_⟩, by simp, fun _ ↦ rfl⟩
    rintro ⟨connected, handle, held, reported⟩
    have there : agent.liveHandle? session.network.medium = some handle := by
      rw [Agent.liveHandle?, Connection.liveHandle?, Connection.isConnected, connected, Option.mem_def.1 held,
        Option.any_some, reported]
      rfl
    rw [live] at there
    cases there
  | some handle =>
    obtain ⟨connected, held, carries⟩ := Agent.liveHandle?_eq_some live
    have reported := Connection.live_of_liveHandle? live
    have routed : session.network.medium.publish agent.transport handle message options =
        ({ session.network.medium.record agent.transport (.publish message options) with
          broker := session.network.medium.broker.route message options.retain }, .ok ()) := by
      have script (call : Call) : (session.network.medium.record agent.transport call).scriptOf agent.transport =
          session.network.medium.scriptOf agent.transport := by
        cases agent.transport <;> rfl
      have accepted : session.network.medium.broker.publish handle message options.retain =
          .ok (session.network.medium.broker.route message options.retain) := if_pos carries
      rw [Medium.publish, script, healthy, Medium.broker_record, accepted]
      rfl
    have published : session.publishAs agent message options = (session.onNetwork fun network ↦
        network.onMedium fun medium ↦ { medium.record agent.transport (.publish message options) with
          broker := medium.broker.route message options.retain }, .ok .done) := by
      simp only [publishAs, Agent.publish, live, routed]
      rfl
    rw [published]
    exact ⟨⟨fun _ ↦ ⟨connected, handle, held, reported⟩, fun _ ↦ rfl⟩, fun _ ↦ rfl, fun failed ↦ absurd rfl failed⟩

/-- What sending on a sender comes to. An empty payload is one of those that are sent as they are. -/
structure SendsAllOrNothing (session : Session) (label : String) (agent : Agent) (sender : Sender) : Prop where
  /-- Whether there is a connection does not matter. -/
  unencodable : ∀ values error, sender.kind.encode (values sender.kind) = .error error →
    (∃ reason, error = .encode reason) ∧ session.handle (.send label values) = (session, .error (.failed error))
  send : ∀ values payload, sender.kind.encode (values sender.kind) = .ok payload →
    session.AllOrNothing agent ⟨sender.definition.topic, payload⟩ sender.options (session.handle (.send label values))
  sendRaw : ∀ payload,
    session.AllOrNothing agent ⟨sender.definition.topic, payload⟩ sender.options
      (session.handle (.sendRaw label payload))

theorem sendsAllOrNothing (awake : session.network.Awake) (found : session.findSender label = .ok (agent, sender))
    (healthy : (session.network.medium.scriptOf agent.transport).publish = []) :
    session.SendsAllOrNothing label agent sender where
  unencodable values error refused := by
    refine ⟨PayloadKind.error_of_encode refused, ?_⟩
    simp only [handle, found, bind, Except.bind, refused, failing, Except.mapError]
    rfl
  send values payload written := by
    rw [handle_send found written]
    exact allOrNothing_publishAs awake healthy _ _
  sendRaw payload := by
    have asked : session.handle (.sendRaw label payload) =
        session.publishAs agent ⟨sender.definition.topic, payload⟩ sender.options := by
      simp only [handle, found, bind, Except.bind]
      rfl
    rw [asked]
    exact allOrNothing_publishAs awake healthy _ _

/-! ## Creating senders -/

/-- If the agent has more senders after a request to create one, the request has created the one at the end. -/
theorem createSender_of_grown {request : ChannelRequest} {index : Nat} {later : Agent}
    (found : session.findAgent request.agent = .ok (index, agent))
    (h : (session.handle (.createSender request)).1.network.agents[index]? = some later)
    (grown : agent.senders.length < later.senders.length) :
    ∃ qos sender, checkQoS request.qos = .ok qos ∧ later.senders = agent.senders ++ [sender] ∧
      sender.IsMadeFor agent request.name request.kind { request.options with qos } := by
  have place := findAgent_eq_ok found
  have unchanged {next : Session} (same : next = session) (h : next.network.agents[index]? = some later) : False := by
    rw [same, place] at h
    rw [Option.some.inj h] at grown
    exact Nat.lt_irrefl _ grown
  cases checked : checkQoS request.qos with
  | error refusal =>
    have asked : session.handle (.createSender request) = session.attempt (checkQoS request.qos >>= _) := rfl
    rw [asked, checked] at h
    exact (unchanged rfl h).elim
  | ok qos =>
    have asked : session.handle (.createSender request) =
        session.createSender index agent request { request.options with qos } := by
      simp only [handle, checked, found, bind, Except.bind]
      rfl
    rw [asked, createSender] at h
    cases created : agent.createSender session.network.medium request.name request.kind
        { request.options with qos } with
    | error error =>
      rw [created] at h
      exact (unchanged rfl h).elim
    | ok result =>
      obtain ⟨after, changed, place'⟩ := result
      simp only [created] at h
      have there : (Network.wake { session.network with
          medium := after, agents := session.network.agents.set index changed }).agents[index]? = some changed := by
        rw [Network.agents_wake]
        exact List.getElem?_set_self (List.getElem?_eq_some_iff.1 place).1
      obtain rfl : changed = later := by
        split at h <;> exact Option.some.inj (there.symm.trans h)
      obtain ⟨-, ⟨-, -, rfl⟩ | ⟨sender, -, made, -, -, rfl⟩⟩ := Agent.createSender_outcome created
      · exact absurd grown (Nat.lt_irrefl _)
      · exact ⟨qos, sender, rfl, rfl, Agent.isMadeFor_of_newSender made⟩

end Session

/-! ## Over time -/

namespace Traffic

/-- In every session: what is sent goes out as a whole or not at all, whether the agent is still held or not, and so
does what an agent publishes without a sender. A sender has for ever what the request that created it has asked for. -/
theorem publishes_all_or_nothing (moves : List Move) :
    let session := (fresh.run moves).session
    (∀ label agent sender, session.findSender label = .ok (agent, sender) →
      (session.network.medium.scriptOf agent.transport).publish = [] → session.SendsAllOrNothing label agent sender) ∧
    (∀ label index agent, session.findAgent label = .ok (index, agent) →
      (session.network.medium.scriptOf agent.transport).publish = [] →
      ∀ message level qos retain, Session.checkQoS level = .ok qos →
        session.AllOrNothing agent message ⟨qos.getD .atLeastOnce, retain⟩
          (session.handle (.publishRaw label message level retain))) ∧
    ∀ before request after index creator grown, moves = before ++ .request (.createSender request) :: after →
      (fresh.run before).session.findAgent request.agent = .ok (index, creator) →
      (fresh.run (before ++ [.request (.createSender request)])).session.network.agents[index]? = some grown →
      creator.senders.length < grown.senders.length →
      ∃ qos agent sender, Session.checkQoS request.qos = .ok qos ∧
        sender.IsMadeFor creator request.name request.kind { request.options with qos } ∧
        session.network.agents[index]? = some agent ∧ agent.senders[creator.senders.length]? = some sender ∧
        ∀ label, session.senders.get? label = some ⟨index, creator.senders.length⟩ →
          session.findSender label = .ok (agent, sender) := by
  intro session
  have awake : session.network.Awake := (sound_fresh.run moves).steady.network.awake
  refine ⟨fun label agent sender found healthy ↦ Session.sendsAllOrNothing awake found healthy, ?_, ?_⟩
  · intro label index agent found healthy message level qos retain checked
    have asked : session.handle (.publishRaw label message level retain) =
        session.publishAs agent message ⟨qos.getD .atLeastOnce, retain⟩ := by
      simp only [Session.handle, found, checked, bind, Except.bind]
      rfl
    rw [asked]
    exact Session.allOrNothing_publishAs awake healthy message _
  · intro before request after index creator grown split found h grows
    have cleared : (fresh.run before).session.cleared.findAgent request.agent = .ok (index, creator) := found
    have added : fresh.run (before ++ [.request (.createSender request)]) =
        (fresh.run before).request (.createSender request) := by
      rw [run, List.foldl_concat]
      rfl
    have later : fresh.run moves = (fresh.run (before ++ [.request (.createSender request)])).run after := by
      rw [split, List.append_cons]
      exact List.foldl_append
    rw [added] at h
    obtain ⟨qos, sender, checked, senders, made⟩ := Session.createSender_of_grown cleared h grows
    rw [← added] at h
    obtain ⟨agent, hagent, -, kept⟩ := kept_run _ after h
    rw [← later] at hagent
    have stands : agent.senders[creator.senders.length]? = some sender := by
      obtain ⟨further, hfurther⟩ := kept
      rw [← hfurther, senders, List.append_assoc, List.getElem?_append_right (Nat.le_refl _), Nat.sub_self]
      rfl
    refine ⟨qos, agent, sender, checked, made, hagent, stands, fun label known ↦ ?_⟩
    simp only [session, Session.findSender, known, hagent, stands]
    rfl

/-- A sender was asked for a second time, with other options. What is sent on it goes out with the options of the first
time, and is retained. Then its agent is dropped: a payload that cannot be written is refused as such, and every other
one for want of a connection. -/
theorem publishes_all_or_nothing_dropped :
    let create (label : String) (level : Nat) (retain : Bool) : ChannelRequest :=
      ⟨"agent", label, .unencodable, "speed", { ChannelOptions.none with retain := some retain }, some level⟩
    let moves : List Move := [
      .request (.build ⟨"agent", "car", none, none, none, .none, some true, none, .scripted⟩),
      .request (.createSender (create "out" 0 true)), .request (.createSender (create "again" 2 false))]
    let used := (fresh.run moves).session
    let dropped := (fresh.run (moves ++ [.request (.dropAgent "agent" false)])).session
    (∃ agent sender, used.findSender "again" = .ok (agent, sender) ∧ sender.options = ⟨.atMostOnce, true⟩) ∧
    (∀ payload, used.handle (.sendRaw "again" payload) = (used.onNetwork fun network ↦ network.onMedium fun medium ↦
      { medium.record (.scripted "agent") (.publish ⟨"car/speed", payload⟩ ⟨.atMostOnce, true⟩) with
        broker := medium.broker.route ⟨"car/speed", payload⟩ true }, .ok .done)) ∧
    (∃ agent sender, dropped.findSender "again" = .ok (agent, sender) ∧ agent.held = false ∧
      sender.options = ⟨.atMostOnce, true⟩) ∧
    (∀ values, ∃ reason, dropped.handle (.send "again" values) = (dropped, .error (.failed (.encode reason)))) ∧
    ∀ payload, dropped.handle (.sendRaw "again" payload) =
      (dropped, .error (.failed (.publishWithoutConnection "car/speed"))) := by
  intro create moves used dropped
  let before : List Move :=
    [.request (.build ⟨"agent", "car", none, none, none, .none, some true, none, .scripted⟩)]
  obtain ⟨creator, hcreator⟩ : ∃ creator, (fresh.run before).session.network.agents[0]? = some creator :=
    Option.isSome_iff_exists.1 (by decide +kernel)
  obtain ⟨grown, hgrown⟩ : ∃ grown, (fresh.run (before ++ [.request (.createSender (create "out" 0 true))])).session
      |>.network.agents[0]? = some grown :=
    Option.isSome_iff_exists.1 (by decide +kernel)
  have found : (fresh.run before).session.findAgent "agent" = .ok (0, creator) := by
    have known : (fresh.run before).session.agents.get? "agent" = some 0 := by decide +kernel
    simp only [Session.findAgent, known, hcreator]
    rfl
  have none : creator.senders.length = 0 :=
    Session.view_of_seen hcreator (fun agent ↦ agent.senders.length) 0 (by decide +kernel)
  have one : grown.senders.length = 1 :=
    Session.view_of_seen hgrown (fun agent ↦ agent.senders.length) 1 (by decide +kernel)
  -- whatever has happened since, the sender is the one that was created first
  have settled (rest : List Move)
      (known : (fresh.run (moves ++ rest)).session.senders.get? "again" = some ⟨0, 0⟩)
      (healthy : ((fresh.run (moves ++ rest)).session.network.medium.scriptOf (.scripted "agent")).publish = [])
      (scripted : (fresh.run (moves ++ rest)).session.network.agents[0]?.map Agent.transport =
        some (.scripted "agent")) :
      ∃ agent sender, (fresh.run (moves ++ rest)).session.network.agents[0]? = some agent ∧
        agent.transport = .scripted "agent" ∧
        (fresh.run (moves ++ rest)).session.findSender "again" = .ok (agent, sender) ∧
        sender.kind = .unencodable ∧ sender.options = ⟨.atMostOnce, true⟩ ∧ sender.definition.topic = "car/speed" ∧
        (fresh.run (moves ++ rest)).session.SendsAllOrNothing "again" agent sender := by
    obtain ⟨sends, -, makes⟩ := publishes_all_or_nothing (moves ++ rest)
    obtain ⟨qos, agent, sender, checked, made, hagent, stands, labelled⟩ :=
      makes before (create "out" 0 true) _ 0 creator grown rfl found hgrown (by omega)
    obtain rfl : qos = some .atMostOnce := (Except.ok.inj checked).symm
    have found := labelled "again" (by rw [none]; exact known)
    have transport : agent.transport = .scripted "agent" := Session.view_of_seen hagent Agent.transport _ scripted
    refine ⟨agent, sender, hagent, transport, found, congrArg Prod.snd made.entry, made.options_eq, ?_,
      sends "again" agent sender found (by rw [transport]; exact healthy)⟩
    obtain ⟨address, built, text⟩ := made.built rfl
    have identity : creator.identity = ⟨"car", .none⟩ :=
      Session.view_of_seen hcreator Agent.identity _ (by decide +kernel)
    rw [identity] at built
    obtain ⟨-, -, -, rfl⟩ := TopicAddress.forSender_eq_ok_iff.1 built
    exact text
  have refuses {kind : PayloadKind} (unwritable : kind = .unencodable) (values : (kind : PayloadKind) → kind.Value) :
      ∃ error, kind.encode (values kind) = .error error := by
    subst unwritable
    exact ⟨_, rfl⟩
  obtain ⟨agent, sender, hagent, transport, known, -, options, topic, sends⟩ :=
    settled [] (by decide +kernel) (by decide +kernel) (by decide +kernel)
  obtain ⟨last, still, hlast, -, known', kind', options', topic', sends'⟩ :=
    settled [.request (.dropAgent "agent" false)] (by decide +kernel) (by decide +kernel) (by decide +kernel)
  refine ⟨⟨agent, sender, known, options⟩, fun payload ↦ ?_,
    ⟨last, still, known', Session.view_of_seen hlast Agent.held _ (by decide +kernel), options'⟩, fun values ↦ ?_,
    fun payload ↦ ?_⟩
  · have connected : agent.connection.state = .connected :=
      Session.view_of_seen hagent (fun agent ↦ agent.connection.state) _ (by decide +kernel)
    have held : agent.connection.handle = some 0 :=
      Session.view_of_seen hagent (fun agent ↦ agent.connection.handle) _ (by decide +kernel)
    have live : used.network.medium.isLive agent.transport 0 := by
      rw [transport]
      decide +kernel
    have done := (sends.sendRaw payload).ok_iff.2 ⟨connected, 0, held, live⟩
    have routed := (sends.sendRaw payload).all done
    rw [transport, options, topic] at routed
    exact Prod.ext routed done
  · obtain ⟨error, refused⟩ := refuses kind' values
    obtain ⟨⟨reason, rfl⟩, failed⟩ := sends'.unencodable values error refused
    exact ⟨reason, failed⟩
  · rw [← topic']
    refine (sends'.sendRaw payload).nothing fun sent ↦ ?_
    have idle : last.connection.state = .initialised :=
      Session.view_of_seen hlast (fun agent ↦ agent.connection.state) _ (by decide +kernel)
    have connected := ((sends'.sendRaw payload).ok_iff.1 sent).1
    rw [idle] at connected
    cases connected

end Traffic

end PubSub
