import PubSub.Proofs.Isolation.Requests
import PubSub.Proofs.Network.Conduct
import PubSub.Proofs.Session.View
/-!
# Handling requests while a party is left out

All requests, with those of the party left out and the others kept.
-/

namespace PubSub

/-- The text of an agent does not show the numbers of its connections. -/
theorem Agent.inspect_reduced (selection : Selection) (agent : Agent) (medium : Medium) :
    (agent.reduced selection).inspect medium = agent.inspect medium := by
  have name : (agent.clientId.reduced selection).text = agent.clientId.text := by cases agent.clientId <;> rfl
  have phase : (agent.dispatcher.map (Dispatcher.reduced selection)).any (fun reduced ↦ reduced.phase ≠ .finished) =
      agent.dispatcher.any fun dispatcher ↦ dispatcher.phase ≠ .finished := by
    cases agent.dispatcher <;> rfl
  simp only [inspect, reduced, Connection.reduced, name, phase, List.length_map, Option.isSome_map]

namespace Session

variable {party : Party} {selection : Selection} {session rest : Session} {index : Nat} {agent : Agent}
  {id : ReceiverId} {receiver : Receiver} {label : String} {kept : Bool}

theorem Brings.attempt_bind {α : Type} {found : Except Refusal α} {thing : α}
    {next : α → Except Refusal (Session × Except Refusal Answer)}
    (brings : Brings selection kept session (session.attempt (found >>= next)).1) (h : found = .ok thing) :
    Brings selection kept session (session.attempt (next thing)).1 := by
  rw [h] at brings
  exact brings

theorem Brings.onAgent {α : Type} {operation : Medium → Agent → Medium × Agent × Except Error α} {answer : α → Answer}
    (brings : Brings selection kept session (session.onAgent index agent operation answer).1) :
    Agent.Adds selection kept session.network.medium.broker (operation session.network.medium agent).1.broker := by
  intro connection le lt
  refine brings.connections connection le ?_
  simp only [Session.onAgent, Network.medium_onAgent]
  exact lt

theorem handle_connect_eq (h : session.findAgent label = .ok (index, agent)) (overrides : BrokerOverrides) :
    session.handle (.connect label overrides) =
      session.onAgent index agent (fun medium agent ↦ agent.connect medium overrides) fun _ ↦ .done := by
  simp only [handle, h]
  rfl

theorem handle_next_eq {wait : String} (h : session.findReceiver label = .ok (id, receiver)) :
    session.handle (.next label wait) = (session.awaiting id receiver wait, .ok .done) := by
  simp only [handle, h]
  rfl

/-- The session with a new raw client. It closes the connection of the one that had the label. -/
def withRaw (session : Session) (label : String) (broker : Broker) (connection : ConnectionId) : Session :=
  let accepted := session.onBroker fun _ ↦ broker
  let freed := match session.raws.get? label with
    | none => accepted
    | some old => accepted.onBroker fun broker ↦ broker.close old
  { freed with raws := session.raws.put label connection }

theorem handle_rawConnect_eq {clientId : String} {options : BrokerOptions} {broker : Broker}
    {connection : ConnectionId}
    (accepted : session.network.medium.broker.connect options (.given clientId) = .ok (broker, connection))
    (label : String) :
    (session.handle (.rawConnect label clientId options)).1 = session.withRaw label broker connection := by
  unfold withRaw
  simp only [handle, accepted]
  cases h : session.raws.get? label with
  | none =>
    have h' : (session.onBroker fun _ ↦ broker).raws.get? label = none := h
    simp only [refusing, Except.mapError, attempt, bind, Except.bind, pure, Except.pure, h']
    rfl
  | some old =>
    have h' : (session.onBroker fun _ ↦ broker).raws.get? label = some old := h
    simp only [refusing, Except.mapError, attempt, bind, Except.bind, pure, Except.pure, h']
    rfl

theorem Brings.withRaw {broker : Broker} {connection : ConnectionId} {options : BrokerOptions} {clientId : ClientId}
    (brings : Brings selection kept session (session.withRaw label broker connection))
    (accepted : session.network.medium.broker.connect options clientId = .ok (broker, connection)) :
    selection.connections connection = kept := by
  have accepts := Broker.accepts_of_connect accepted
  have grown : (session.withRaw label broker connection).network.medium.broker.clients.length =
      broker.clients.length := by
    unfold Session.withRaw
    cases session.raws.get? label with
    | none => simp
    | some old => simp [Broker.close, Broker.modifyClient]
  refine brings.connections connection (Nat.le_of_eq accepts.eq_length.symm) ?_
  rw [grown, accepts.length_eq, accepts.eq_length]
  exact Nat.lt_succ_self _

theorem Brings.awaiting {wait : String} (brings : Brings selection kept session (session.awaiting id receiver wait)) :
    selection.waits session.network.replies.length = kept := by
  have replies : (session.awaiting id receiver wait).network.replies = session.network.replies ++ [.waiting id] := rfl
  exact brings.waits _ (Nat.le_refl _) (by simp [replies])

theorem releaseConnect_of_alone {network : Network} (alone : network.attempts = []) (transport : String)
    (number : Nat) : network.releaseConnect transport number = (network, false) := by
  simp [Network.releaseConnect, alone]

/-- The builder of a request is made of the configuration, if that can be read. -/
theorem builderOf_eq (request : AgentRequest) : ∃ config : Except Error Config, ∃ build : Config → AgentBuilder,
    builderOf request = failing (config.map build) ∧ ∀ config, (build config).transport =
      match request.transport with
      | .scripted => some (.scripted request.agent)
      | .plain => some .plain
      | .missing => none := by
  let build (config : Config) : AgentBuilder := {
    role := request.role
    instanceId := request.instanceId
    config := { config with broker := request.broker.getD config.broker }
    overrides := request.overrides
    autoConnect := request.autoConnect
    transport := match request.transport with
      | .scripted => some (.scripted request.agent)
      | .plain => some .plain
      | .missing => none
    clientId := request.clientId }
  cases document : request.document with
  | none =>
    refine ⟨pure Config.standard, build, ?_, fun _ ↦ rfl⟩
    simp only [builderOf, document]
    rfl
  | some text =>
    refine ⟨(Config.parse text).mapError .config, build, ?_, fun _ ↦ rfl⟩
    simp only [builderOf, document]
    cases Config.parse text <;> rfl

theorem plain_of_builderOf {request : AgentRequest} {builder : AgentBuilder}
    (unscripted : request.transport ≠ .scripted) (h : builderOf request = .ok builder) {transport : Transport}
    (used : builder.transport = some transport) :
    transport = .plain := by
  obtain ⟨config, build, same, reaches⟩ := builderOf_eq request
  rw [same] at h
  cases config with
  | error error => cases h
  | ok config =>
    obtain rfl : build config = builder := Except.ok.inj h
    rw [reaches] at used
    cases choice : request.transport with
    | scripted => exact absurd choice unscripted
    | plain => simpa [choice] using used.symm
    | missing => simp [choice] at used

theorem reduced_of_builderOf {request : AgentRequest} {refusal : Refusal} (h : builderOf request = .error refusal) :
    refusal.reduced selection = refusal := by
  obtain ⟨config, build, same, -⟩ := builderOf_eq request
  exact reduced_of_failing (same.symm.trans h)

theorem reduced_of_findAgent {refusal : Refusal} (h : session.findAgent label = .error refusal) :
    refusal.reduced selection = refusal := by
  unfold findAgent at h
  split at h
  · cases h
    rfl
  · split at h <;> cases h
    rfl

namespace Reduces

variable (reduces : session.Reduces party selection rest)

include reduces

theorem belongs_of_findAgent (kept : Bool) (side : party.agents label = !kept)
    (h : session.findAgent label = .ok (index, agent)) :
    selection.agents index = kept ∧ agent.Belongs selection kept := by
  have own : selection.agents index = kept := by
    rw [reduces.agents.mark_of_get? (get?_of_findAgent h), side, Bool.not_not]
  exact ⟨own, own ▸ reduces.network.belongs index agent (findAgent_eq_ok h)⟩

theorem belongs_of_findReceiver (kept : Bool) (side : party.receivers label = !kept)
    (h : session.findReceiver label = .ok (id, receiver)) :
    selection.agents id.agent = kept ∧ session.network.receiver? id = some receiver := by
  refine ⟨?_, (findReceiver_eq_ok h).2⟩
  have own := reduces.receivers.mark_of_get? (findReceiver_eq_ok h).1
  rw [own, side, Bool.not_not]

theorem belongs_of_findSender {sender : Sender} (kept : party.senders label = false)
    (h : session.findSender label = .ok (agent, sender)) : agent.Belongs selection true := by
  unfold Session.findSender at h
  split at h
  · cases h
  · rename_i id hget
    split at h
    · cases h
    · rename_i found hfound
      split at h
      · cases h
      · obtain ⟨rfl, -⟩ := Prod.mk.inj (Except.ok.inj h)
        have own : selection.agents id.agent = true := by rw [reduces.senders.mark_of_get? hget, kept]; rfl
        exact own ▸ reduces.network.belongs id.agent found hfound

theorem kept_of_findRaw {connection : ConnectionId} (h : session.findRaw label = .ok connection) :
    selection.connections connection := by
  unfold Session.findRaw at h
  split at h
  · cases h
  · rename_i hget
    obtain rfl := Except.ok.inj h
    exact reduces.raws.mark_of_get? hget

/-! ## Requests that are kept -/

theorem handle_connect (kept : party.agents label = false) {overrides : BrokerOverrides}
    (brings : Brings selection true session (session.handle (.connect label overrides)).1) :
    Agrees party selection (session.handle (.connect label overrides)) (rest.handle (.connect label overrides)) := by
  refine reduces.attempt ?_
  rw [reduces.findAgent kept]
  refine .bind _ fun found h ↦ ?_
  obtain ⟨index, agent⟩ := found
  obtain ⟨own, belongs⟩ := reduces.belongs_of_findAgent true kept h
  rw [handle_connect_eq h] at brings
  obtain ⟨broker, answer⟩ := Agent.connect_reduced belongs reduces.network.broker overrides brings.onAgent
  exact reduces.onAgent own broker answer (belongs.connect session.network.medium overrides brings.onAgent)

theorem handle_dropAgent (kept : party.agents label = false) (background : Bool) :
    Agrees party selection (session.handle (.dropAgent label background))
      (rest.handle (.dropAgent label background)) := by
  simp only [Session.handle, reduces.agents.get? kept]
  cases h : session.agents.get? label with
  | none => exact ⟨reduces, rfl⟩
  | some index =>
    have own : selection.agents index := by rw [reduces.agents.mark_of_get? h, kept]; rfl
    refine ⟨{ reduces with network := reduces.network.letGo own ?_, agents := reduces.agents.remove label }, rfl⟩
    cases background
    · exact .inr rfl
    · exact .inl rfl

theorem handle_script (transport : String) (change : ScriptChange) :
    Agrees party selection (session.handle (.script transport change)) (rest.handle (.script transport change)) := by
  refine ⟨{ reduces with network := ?_ }, rfl⟩
  simp only [Session.handle, Session.onNetwork]
  apply reduces.network.onMedium
  exact reduces.network.broker

theorem handle_register (kept : party.receivers label = false) {callback : Callback}
    (belongs : callback.Belongs selection true) :
    Agrees party selection (session.handle (.register label callback))
      (rest.handle (.register label (callback.reduced selection))) := by
  refine reduces.attempt ?_
  rw [reduces.findReceiver kept]
  refine .bind _ fun found h ↦ ?_
  obtain ⟨own, has⟩ := reduces.belongs_of_findReceiver true kept h
  obtain ⟨registers, counts⟩ := reduces.register own has belongs
  refine ⟨registers, congrArg Except.ok (counts.trans ?_)⟩
  rfl

theorem handle_next (kept : party.receivers label = false) {wait : String} (kept' : party.waits wait = false)
    (brings : Brings selection true session (session.handle (.next label wait)).1) :
    Agrees party selection (session.handle (.next label wait)) (rest.handle (.next label wait)) := by
  refine reduces.attempt ?_
  rw [reduces.findReceiver kept]
  refine .bind _ fun found h ↦ ?_
  obtain ⟨id, receiver⟩ := found
  obtain ⟨own, has⟩ := reduces.belongs_of_findReceiver true kept h
  rw [handle_next_eq h] at brings
  exact ⟨reduces.awaiting own has kept' brings.awaiting, rfl⟩

theorem handle_poll (kept : party.waits label = false) :
    Agrees party selection (session.handle (.poll label)) (rest.handle (.poll label)) := by
  have removed : Reduces party selection { session with nexts := session.nexts.remove label }
      { rest with nexts := rest.nexts.remove label } := { reduces with nexts := reduces.nexts.remove label }
  simp only [Session.handle, reduces.nexts.get? kept]
  cases h : session.nexts.get? label with
  | none => exact ⟨reduces, rfl⟩
  | some ticket =>
    have own : selection.waits ticket := by rw [reduces.nexts.mark_of_get? h, kept]; rfl
    simp only [Option.map_some, reduces.poll own]
    cases session.poll ticket with
    | pending => exact ⟨reduces, rfl⟩
    | ready delivery => exact ⟨removed, rfl⟩
    | gone => exact ⟨removed, rfl⟩

theorem handle_publish (topic : String) (payload : Except Error Bytes) (retain : Bool) (times : Nat) :
    Agrees party selection (session.handle (.publish topic payload retain times))
      (rest.handle (.publish topic payload retain times)) := by
  refine reduces.attempt (.bind_same _ (fun _ ↦ reduced_of_failing) fun payload _ ↦ ?_)
  refine ⟨{ reduces with network := ?_ }, rfl⟩
  dsimp only
  induction times with
  | zero => exact reduces.network
  | succ times ih => exact ih.publish ⟨topic, payload⟩ retain

theorem handle_rawReceive (label : String) (sorted : Bool) :
    Agrees party selection (session.handle (.rawReceive label sorted)) (rest.handle (.rawReceive label sorted)) := by
  refine reduces.attempt ?_
  rw [reduces.findRaw]
  refine .bind _ fun connection h ↦ ?_
  have kept := reduces.kept_of_findRaw h
  have inbox : (session.network.medium.broker.reduced selection).inbox _ = _ := Broker.inbox_reduced kept
  have closed : (session.network.medium.broker.reduced selection).isClosed _ = _ := Broker.isClosed_reduced kept
  refine ⟨reduces.onBroker (Broker.reduced_emptyInbox kept).symm, ?_⟩
  simp only [reduces.network.broker, inbox, closed]
  rfl

theorem handle_rawDrop (label : String) :
    Agrees party selection (session.handle (.rawDrop label)) (rest.handle (.rawDrop label)) := by
  simp only [Session.handle, reduces.raws.get? rfl]
  cases h : session.raws.get? label with
  | none => exact ⟨reduces, rfl⟩
  | some connection =>
    have kept : selection.connections connection := reduces.raws.mark_of_get? h
    exact ⟨{ reduces.close kept with raws := reduces.raws.remove label }, rfl⟩

theorem handle {request : Request} (kept : party.owns request = false) (respects : party.Respects selection request)
    (brings : Brings selection true session (session.handle request).1) (shows : request.showsBroker = false)
    (raw : request.showsConnection = false) :
    Agrees party selection (session.handle request) (rest.handle (request.reduced selection)) := by
  cases request with
  | build request =>
    refine reduces.attempt (.bind_same _ (fun _ ↦ reduced_of_builderOf) fun builder h ↦ ?_)
    exact reduces.build kept (fun _ ↦ plain_of_builderOf respects h) (brings.attempt_bind h)
  | inspectBuilder request => cases shows
  | describe label =>
    refine reduces.question ?_
    rw [reduces.findAgent kept]
    exact .bind _ fun found h ↦ rfl
  | inspectAgent label => cases shows
  | connect label overrides => exact reduces.handle_connect kept brings
  | startConnect label ticket overrides => exact respects.elim
  | disconnect label =>
    refine reduces.attempt ?_
    rw [reduces.findAgent kept]
    refine .bind _ fun found h ↦ ?_
    obtain ⟨index, agent⟩ := found
    obtain ⟨own, belongs⟩ := reduces.belongs_of_findAgent true kept h
    obtain ⟨broker, answer⟩ := Agent.disconnect_reduced belongs reduces.network.broker
    exact reduces.onAgent own broker (congrArg (fun agent ↦ (agent, _)) answer) (belongs.disconnect _)
  | dropAgent label background => exact reduces.handle_dropAgent kept background
  | publishRaw label message qos retain =>
    refine reduces.attempt ?_
    rw [reduces.findAgent kept]
    refine .bind _ fun found h ↦ .bind_same _ (fun _ ↦ reduced_of_checkQoS) fun qos _ ↦ ?_
    exact reduces.publishAs (reduces.belongs_of_findAgent true kept h).2 message _
  | script label change => exact reduces.handle_script label change
  | release transport number =>
    simp only [Session.handle, Request.reduced, releaseConnect_of_alone reduces.network.alone.1,
      releaseConnect_of_alone reduces.network.alone.2]
    exact ⟨reduces, rfl⟩
  | createSender request =>
    refine reduces.attempt (.bind_same _ (fun _ ↦ reduced_of_checkQoS) fun qos _ ↦ ?_)
    rw [reduces.findAgent kept]
    refine .bind _ fun found h ↦ ?_
    obtain ⟨own, belongs⟩ := reduces.belongs_of_findAgent true kept h
    exact reduces.createSender own belongs (respects.trans kept) _
  | describeSender label =>
    refine reduces.question ?_
    rw [reduces.findSender kept]
    exact .bind _ fun found h ↦ rfl
  | inspectSender label =>
    refine reduces.question ?_
    rw [reduces.findSender kept]
    exact .bind _ fun found h ↦ rfl
  | send label value =>
    refine reduces.attempt ?_
    rw [reduces.findSender kept]
    refine .bind _ fun found h ↦ .bind_same _ (fun _ ↦ reduced_of_failing) fun payload _ ↦ ?_
    exact reduces.publishAs (reduces.belongs_of_findSender kept h) _ _
  | sendRaw label payload =>
    refine reduces.attempt ?_
    rw [reduces.findSender kept]
    exact .bind _ fun found h ↦ reduces.publishAs (reduces.belongs_of_findSender kept h) _ _
  | createReceiver request =>
    refine reduces.attempt (.bind_same _ (fun _ ↦ reduced_of_checkQoS) fun qos _ ↦ ?_)
    rw [reduces.findAgent kept]
    refine .bind _ fun found h ↦ ?_
    obtain ⟨own, belongs⟩ := reduces.belongs_of_findAgent true kept h
    exact reduces.createReceiver own belongs (respects.trans kept) _
  | subscribe label receiver =>
    have kept' : party.receivers receiver = false := respects.trans kept
    refine reduces.attempt ?_
    rw [reduces.findReceiver kept', reduces.findAgent kept]
    refine .bind _ fun found h ↦ .bind _ fun found' h' ↦ ?_
    obtain ⟨own, has⟩ := reduces.belongs_of_findReceiver true kept' h
    exact reduces.subscribeAs own (reduces.belongs_of_findAgent true kept h').2 has
  | describeReceiver label =>
    refine reduces.question ?_
    rw [reduces.findReceiver kept]
    exact .bind _ fun found h ↦ rfl
  | inspectReceiver label =>
    refine reduces.question ?_
    rw [reduces.findReceiver kept]
    refine .bind _ fun found h ↦ ?_
    simp [Corresponds, pure, Except.pure, Receiver.inspect, Receiver.reduced, Answer.reduced]
  | accepts label topics =>
    refine reduces.question ?_
    rw [reduces.findReceiver kept]
    exact .bind _ fun found h ↦ rfl
  | register label callback =>
    have belongs : callback.Belongs selection (!party.receivers label) := respects
    rw [show party.receivers label = false from kept] at belongs
    exact reduces.handle_register kept belongs
  | dropReceiver label =>
    refine ⟨{ reduces with receivers := reduces.receivers.remove label }, ?_⟩
    simp only [Session.handle, Request.reduced, reduces.receivers.get? kept, Option.isSome_map]
    rfl
  | next label wait => exact reduces.handle_next kept (respects.trans kept) brings
  | poll label => exact reduces.handle_poll kept
  | dropNext label =>
    refine ⟨{ reduces with nexts := reduces.nexts.remove label }, ?_⟩
    simp only [Session.handle, Request.reduced, reduces.nexts.get? kept, Option.isSome_map]
    rfl
  | publish topic payload retain times => exact reduces.handle_publish topic payload retain times
  | setAvailable available =>
    refine ⟨reduces.onBroker ?_, rfl⟩
    rfl
  | requireCredentials credentials =>
    refine ⟨reduces.onBroker ?_, rfl⟩
    rfl
  | silenceAll => exact ⟨reduces.onBroker Broker.reduced_silenceAll.symm, rfl⟩
  | report clients topics => cases shows
  | inspectBroker => cases shows
  | rawConnect label clientId options => cases raw
  | rawSubscribe label pattern qos =>
    refine reduces.attempt (.bind_same _ (fun _ ↦ reduced_of_checkQoS) fun qos _ ↦ ?_)
    rw [reduces.findRaw]
    refine .bind _ fun connection h ↦ reduces.request ?_
    rw [reduces.network.broker, Broker.subscribe_reduced (reduces.kept_of_findRaw h)]
  | rawPublish label message retain =>
    refine reduces.attempt ?_
    rw [reduces.findRaw]
    refine .bind _ fun connection h ↦ reduces.request ?_
    rw [reduces.network.broker, Broker.publish_reduced (reduces.kept_of_findRaw h)]
  | rawClose label =>
    refine reduces.attempt ?_
    rw [reduces.findRaw]
    exact .bind _ fun connection h ↦ ⟨reduces.close (reduces.kept_of_findRaw h), rfl⟩
  | rawLive label => cases raw
  | rawReceive label sorted => exact reduces.handle_rawReceive label sorted
  | rawDrop label => exact reduces.handle_rawDrop label

theorem withRaw {broker : Broker} {connection : ConnectionId} (label : String)
    (own : selection.connections connection) :
    (session.withRaw label broker connection).Reduces party selection
      (rest.withRaw label (broker.reduced selection) (selection.connections.place connection)) := by
  have changed : (session.onBroker fun _ ↦ broker).Reduces party selection
      (rest.onBroker fun _ ↦ broker.reduced selection) := by
    apply reduces.onBroker
    rfl
  have raws : (session.raws.put label connection).Reduces (fun _ ↦ false) selection.connections
      selection.connections.place (rest.raws.put label (selection.connections.place connection)) :=
    reduces.raws.put rfl connection own
  unfold Session.withRaw
  rw [reduces.raws.get? rfl]
  cases h : session.raws.get? label with
  | none => exact { changed with raws }
  | some old => exact { changed.close (reduces.raws.mark_of_get? h) with raws }

theorem handle_rawConnect (label clientId : String) (options : BrokerOptions)
    (brings : Brings selection true session (session.handle (.rawConnect label clientId options)).1) :
    (session.handle (.rawConnect label clientId options)).1.Reduces party selection
      (rest.handle (.rawConnect label clientId options)).1 := by
  have kept (broker : Broker) (connection : ConnectionId)
      (accepted : session.network.medium.broker.connect options (.given clientId) = .ok (broker, connection)) :
      selection.connections connection :=
    Brings.withRaw (handle_rawConnect_eq accepted label ▸ brings) accepted
  have same : (session.network.medium.broker.reduced selection).connect options (.given clientId) = _ :=
    Broker.connect_reduced kept
  rw [← reduces.network.broker] at same
  cases accepted : session.network.medium.broker.connect options (.given clientId) with
  | error error =>
    rw [accepted] at same
    simp only [Session.handle, accepted, same]
    exact reduces
  | ok answer =>
    obtain ⟨broker, connection⟩ := answer
    rw [accepted] at same
    rw [handle_rawConnect_eq accepted, handle_rawConnect_eq same]
    exact reduces.withRaw label (kept broker connection accepted)

/-- What the answer shows of the broker is what there is of it without the connections that are left out. -/
theorem handle_of_showsBroker {request : Request} (kept : party.owns request = false) (shows : request.showsBroker) :
    (session.handle request).1.Reduces party selection (rest.handle (request.reduced selection)).1 ∧
      (rest.handle (request.reduced selection)).2 = ((session.shown selection).handle request).2 := by
  have transports : rest.network.medium.inspectTransport =
      (session.shown selection).network.medium.inspectTransport := by
    funext transport
    cases transport with
    | plain => exact congrArg Broker.inspect reduces.network.broker
    | scripted label => rfl
  cases request with
  | inspectBuilder request =>
    refine ⟨reduces, ?_⟩
    simp only [Request.reduced, Session.handle, Session.question, AgentBuilder.inspect, transports]
  | inspectAgent label =>
    refine ⟨reduces, ?_⟩
    have texts (agent : Agent) : (agent.reduced selection).inspect rest.network.medium =
        agent.inspect (session.shown selection).network.medium := by
      rw [Agent.inspect_reduced, Agent.inspect, Agent.inspect, transports]
    have whole : (session.shown selection).findAgent label = session.findAgent label := rfl
    simp only [Request.reduced, Session.handle, Session.question, reduces.findAgent kept, whole]
    cases h : session.findAgent label with
    | error refusal => exact congrArg Except.error (reduced_of_findAgent h)
    | ok found => exact congrArg (fun text ↦ Except.ok (Answer.text text)) (texts found.2)
  | report clients topics =>
    refine ⟨reduces, ?_⟩
    simp only [Request.reduced, Session.handle, Session.question, reduces.network.broker, shown]
  | inspectBroker =>
    refine ⟨reduces, ?_⟩
    simp only [Request.reduced, Session.handle, Session.question, reduces.network.broker, shown]
  | _ => cases shows

theorem handle_of_showsConnection {request : Request} (shows : request.showsConnection)
    (brings : Brings selection true session (session.handle request).1) :
    (session.handle request).1.Reduces party selection (rest.handle (request.reduced selection)).1 := by
  cases request with
  | rawConnect label clientId options => exact reduces.handle_rawConnect label clientId options brings
  | rawLive label => exact reduces
  | _ => cases shows

/-! ## Requests that are left out -/

theorem handle_left_out {request : Request} (left : party.owns request) (respects : party.Respects selection request)
    (awake : rest.network.Awake) (brings : Brings selection false session (session.handle request).1) :
    (session.handle request).1.Reduces party selection rest := by
  cases request with
  | build request =>
    refine reduces.attempt_bind_left_out fun builder h ↦ ?_
    exact reduces.build_left_out awake left (fun _ ↦ plain_of_builderOf respects h) (brings.attempt_bind h)
  | inspectBuilder request => exact reduces
  | describe label => exact reduces
  | inspectAgent label => exact reduces
  | connect label overrides =>
    refine reduces.attempt_bind_left_out fun found h ↦ ?_
    obtain ⟨index, agent⟩ := found
    obtain ⟨own, belongs⟩ := reduces.belongs_of_findAgent false left h
    rw [handle_connect_eq h] at brings
    show (session.onAgent index agent (fun medium agent ↦ agent.connect medium overrides) fun _ ↦ .done).1.Reduces
      party selection rest
    exact reduces.onAgent_left_out awake own
      (Agent.connect_left_out belongs session.network.medium overrides brings.onAgent)
      (belongs.connect session.network.medium overrides brings.onAgent) _
  | startConnect label ticket overrides => exact respects.elim
  | disconnect label =>
    refine reduces.attempt_bind_left_out fun found h ↦ ?_
    obtain ⟨index, agent⟩ := found
    obtain ⟨own, belongs⟩ := reduces.belongs_of_findAgent false left h
    let operation (medium : Medium) (agent : Agent) : Medium × Agent × Except Error Unit :=
      ((agent.disconnect medium).1, (agent.disconnect medium).2, pure ())
    show (session.onAgent index agent operation fun _ ↦ .done).1.Reduces party selection rest
    exact reduces.onAgent_left_out awake own (Agent.disconnect_left_out belongs session.network.medium)
      (belongs.disconnect session.network.medium) _
  | dropAgent label background =>
    unfold Session.handle
    dsimp only
    cases h : session.agents.get? label with
    | none => exact reduces
    | some index =>
      have own : selection.agents index = false := by
        rw [reduces.agents.mark_of_get? h, show party.agents label = true from left]
        rfl
      refine { reduces with
        network := reduces.network.letGo_left_out awake own ?_
        agents := reduces.agents.remove_left_out left }
      cases background
      · exact .inr rfl
      · exact .inl rfl
  | publishRaw label message qos retain => exact absurd left (by rw [Party.owns, respects]; exact Bool.false_ne_true)
  | createSender request =>
    refine reduces.attempt_bind_left_out fun qos _ ↦ reduces.attempt_bind_left_out fun found h ↦ ?_
    obtain ⟨own, belongs⟩ := reduces.belongs_of_findAgent false left h
    exact reduces.createSender_left_out awake own belongs (respects.trans left) _
  | describeSender label => exact reduces
  | inspectSender label => exact reduces
  | send label value => exact absurd left (by rw [Party.owns, respects]; exact Bool.false_ne_true)
  | sendRaw label payload => exact absurd left (by rw [Party.owns, respects]; exact Bool.false_ne_true)
  | createReceiver request =>
    refine reduces.attempt_bind_left_out fun qos _ ↦ reduces.attempt_bind_left_out fun found h ↦ ?_
    obtain ⟨own, belongs⟩ := reduces.belongs_of_findAgent false left h
    exact reduces.createReceiver_left_out awake own belongs (respects.trans left) _
  | subscribe label receiver =>
    refine reduces.attempt_bind_left_out fun found h ↦ reduces.attempt_bind_left_out fun found' h' ↦ ?_
    obtain ⟨own, has⟩ := reduces.belongs_of_findReceiver false (respects.trans left) h
    exact reduces.subscribeAs_left_out awake own (reduces.belongs_of_findAgent false left h').2 has
  | describeReceiver label => exact reduces
  | inspectReceiver label => exact reduces
  | accepts label topics => exact reduces
  | register label callback =>
    have belongs : callback.Belongs selection (!party.receivers label) := respects
    rw [show party.receivers label = true from left] at belongs
    refine reduces.attempt_bind_left_out fun found h ↦ ?_
    obtain ⟨own, has⟩ := reduces.belongs_of_findReceiver false left h
    exact reduces.register_left_out own has belongs
  | dropReceiver label => exact { reduces with receivers := reduces.receivers.remove_left_out left }
  | next label wait =>
    refine reduces.attempt_bind_left_out fun found h ↦ ?_
    obtain ⟨id, receiver⟩ := found
    obtain ⟨own, has⟩ := reduces.belongs_of_findReceiver false left h
    rw [handle_next_eq h] at brings
    exact reduces.awaiting_left_out own has (respects.trans left) brings.awaiting
  | poll label =>
    have removed : Reduces party selection { session with nexts := session.nexts.remove label } rest :=
      { reduces with nexts := reduces.nexts.remove_left_out left }
    unfold Session.handle
    dsimp only
    split
    · exact reduces
    · split
      · exact reduces
      · exact removed
  | dropNext label => exact { reduces with nexts := reduces.nexts.remove_left_out left }
  | _ => cases left

end Reduces

end Session

end PubSub
