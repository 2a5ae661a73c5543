import PubSub.Proofs.Agent.Procedure
import PubSub.Proofs.Agent.Registry
import PubSub.Proofs.Isolation.Network
import PubSub.Proofs.Session.Traffic
/-!
# Refused operations

In every moment of every session, an operation that an agent refuses leaves the session as it was: channels, callbacks
and marks of subscriptions, the connection, the broker, the background work, and the record that scripted transports
keep of the calls on them. Only a transport that lets publishes fail is left out, since it is asked before it fails.
-/

namespace PubSub

namespace Network

variable {network : Network} {index : Nat} {agent : Agent}

/-- An agent that is what it was takes its own place. -/
theorem setAgent_self (h : network.agents[index]? = some agent) : network.setAgent index agent = network := by
  have same : network.agents.set index agent = network.agents := by
    rw [List.getElem?_eq_some_iff] at h
    obtain ⟨lt, rfl⟩ := h
    exact List.set_getElem_self lt
  have running : (agent.dispatcher.filter fun dispatcher ↦
      dispatcher.phase ≠ .finished && agent.dispatcher.all fun other ↦ other.source ≠ dispatcher.source) = none := by
    cases agent.dispatcher <;> simp
  simp only [setAgent, h, Option.bind_some, bind, running, same]

/-- An operation that changes nothing leaves the network as it was, if nothing was left to wake up. -/
theorem onAgent_of_unchanged {α : Type} (awake : network.Awake) (h : network.agents[index]? = some agent)
    {operation : Medium → Agent → Medium × Agent × α} {result : α}
    (unchanged : operation network.medium agent = (network.medium, agent, result)) :
    network.onAgent index agent operation = (network, result) := by
  have same : wake (setAgent network index agent) = network := by rw [setAgent_self h, awake.wake]
  rw [onAgent, unchanged]
  exact congrArg (·, result) same

end Network

namespace Session

variable {session : Session} {agent : Agent} {operation : Operation} {request : Request} {error : Error}

/-- The operation that a request asks an agent for. -/
def asked (session : Session) : Request → Except Refusal (Option (Agent × Operation))
  | .connect label overrides => do
    let (_, agent) ← session.findAgent label
    pure (some (agent, .connect overrides))
  | .createSender request => do
    let qos ← checkQoS request.qos
    let (_, agent) ← session.findAgent request.agent
    pure (some (agent, .createSender request.name request.kind { request.options with qos }))
  | .createReceiver request => do
    let qos ← checkQoS request.qos
    let (_, agent) ← session.findAgent request.agent
    pure (some (agent, .createReceiver request.name request.kind { request.options with qos }))
  | .publishRaw label message qos retain => do
    let (_, agent) ← session.findAgent label
    let qos ← checkQoS qos
    pure (some (agent, .publish message ⟨qos.getD .atLeastOnce, retain⟩))
  | .send label value => do
    let (agent, sender) ← session.findSender label
    pure (some (agent, .send sender (sender.kind.encode (value sender.kind))))
  | .sendRaw label payload => do
    let (agent, sender) ← session.findSender label
    pure (some (agent, .send sender (.ok payload)))
  | _ => pure none

/-- The outcome of a request fails as the operation does that it asks for, and if the operation has left no trace,
neither has the request. -/
def Follows (session : Session) (agent : Agent) (operation : Operation) (outcome : Session × Except Refusal Answer) :
    Prop :=
  ∀ error, outcome.2 = .error (.failed error) →
    (operation.procedure session.network.medium agent).2.2 = .error error ∧
    (operation.procedure session.network.medium agent = (session.network.medium, agent, .error error) →
      outcome = (session, .error (.failed error)))

theorem eq_of_map {α β : Type} {result : Except Error α} {answer : α → β} (h : result.map answer = .error error) :
    result = .error error := by
  cases result with
  | error found => exact congrArg Except.error (Except.error.inj h)
  | ok value => cases h

theorem eq_of_failing {β : Type} {result : Except Error β} (h : failing result = .error (.failed error)) :
    result = .error error := by
  cases result with
  | error found =>
    cases h
    rfl
  | ok value => cases h

theorem follows_connect (awake : session.network.Awake) {index : Nat}
    (h : session.network.agents[index]? = some agent) (overrides : BrokerOverrides) :
    session.Follows agent (.connect overrides)
      (session.onAgent index agent (fun medium agent ↦ agent.connect medium overrides) fun _ ↦ .done) := by
  intro error failed
  have result : (agent.connect session.network.medium overrides).2.2 = .error error := eq_of_map (eq_of_failing failed)
  rw [Operation.procedure, Procedure.connect_eq]
  refine ⟨result, fun unchanged ↦ ?_⟩
  rw [onAgent, Network.onAgent_of_unchanged awake h unchanged]
  rfl

theorem follows_publishAs (awake : session.network.Awake) (message : Message) (options : PublishOptions) :
    session.Follows agent (.publish message options) (session.publishAs agent message options) := by
  intro error failed
  have result : (agent.publish session.network.medium message options).2 = .error error :=
    eq_of_map (eq_of_failing failed)
  rw [Operation.procedure, Procedure.publish_eq]
  refine ⟨result, fun unchanged ↦ ?_⟩
  have medium : (agent.publish session.network.medium message options).1 = session.network.medium :=
    congrArg Prod.fst unchanged
  have woken : (session.network.onMedium fun _ ↦ session.network.medium) = session.network := awake.wake
  simp only [publishAs, medium, result, onNetwork, woken]
  rfl

theorem follows_send (awake : session.network.Awake) (sender : Sender) (payload : Except Error Bytes) :
    session.Follows agent (.send sender payload) (session.attempt do
      let payload ← failing payload
      pure (session.publishAs agent ⟨sender.definition.topic, payload⟩ sender.options)) := by
  cases payload with
  | error found =>
    intro error failed
    obtain rfl : found = error := by cases failed; rfl
    exact ⟨rfl, fun _ ↦ rfl⟩
  | ok payload => exact follows_publishAs awake _ _

theorem follows_createSender (index : Nat) (request : ChannelRequest) (options : ChannelOptions) :
    session.Follows agent (.createSender request.name request.kind options)
      (session.createSender index agent request options) := by
  intro error failed
  rw [Operation.procedure, Procedure.createSender_eq]
  unfold createSender at failed ⊢
  cases created : agent.createSender session.network.medium request.name request.kind options with
  | error found =>
    rw [created] at failed
    obtain rfl : found = error := by cases failed; rfl
    exact ⟨rfl, fun _ ↦ rfl⟩
  | ok found =>
    obtain ⟨medium, changed, place⟩ := found
    simp only [created] at failed
    split at failed <;> cases failed

theorem follows_createReceiver (index : Nat) (request : ChannelRequest) (options : ChannelOptions) :
    session.Follows agent (.createReceiver request.name request.kind options)
      (session.createReceiver index agent request options) := by
  intro error failed
  rw [Operation.procedure, Procedure.createReceiver_eq]
  unfold createReceiver at failed ⊢
  cases created : agent.createReceiver session.network.medium request.name request.kind options with
  | error found =>
    rw [created] at failed
    obtain rfl : found = error := by cases failed; rfl
    exact ⟨rfl, fun _ ↦ rfl⟩
  | ok found =>
    obtain ⟨medium, changed, place⟩ := found
    simp only [created] at failed
    split at failed <;> cases failed

/-- A request fails as the operation does that it asks for. -/
theorem follows_of_asked (awake : session.network.Awake)
    (asked : session.asked request = .ok (some (agent, operation))) :
    session.Follows agent operation (session.handle request) := by
  cases request with
  | connect label overrides =>
    obtain ⟨⟨index, other⟩, found, told⟩ := exists_of_bind_eq_ok asked
    cases told
    rw [handle, found]
    exact follows_connect awake (findAgent_eq_ok found) overrides
  | createSender request =>
    obtain ⟨qos, checked, asked⟩ := exists_of_bind_eq_ok asked
    obtain ⟨⟨index, other⟩, found, told⟩ := exists_of_bind_eq_ok asked
    cases told
    rw [handle, checked, found]
    exact follows_createSender index request _
  | createReceiver request =>
    obtain ⟨qos, checked, asked⟩ := exists_of_bind_eq_ok asked
    obtain ⟨⟨index, other⟩, found, told⟩ := exists_of_bind_eq_ok asked
    cases told
    rw [handle, checked, found]
    exact follows_createReceiver index request _
  | publishRaw label message qos retain =>
    obtain ⟨⟨index, other⟩, found, asked⟩ := exists_of_bind_eq_ok asked
    obtain ⟨qos, checked, told⟩ := exists_of_bind_eq_ok asked
    cases told
    rw [handle, found, checked]
    exact follows_publishAs awake message _
  | send label value =>
    obtain ⟨⟨other, sender⟩, found, told⟩ := exists_of_bind_eq_ok asked
    cases told
    rw [handle, found]
    exact follows_send awake sender _
  | sendRaw label payload =>
    obtain ⟨⟨other, sender⟩, found, told⟩ := exists_of_bind_eq_ok asked
    cases told
    rw [handle, found]
    exact follows_send awake sender (.ok payload)
  | _ => cases asked

end Session

/-- What an agent refuses leaves no trace, at any moment of any session: not in what the agent keeps and shares, nor in
the session that has asked for it. -/
theorem fails_without_trace (moves : List Move) (agent : Agent) (operation : Operation) {error : Error}
    (refuses : operation.Refuses error)
    (healthy : ((Traffic.fresh.run moves).session.network.medium.scriptOf agent.transport).publish = []) :
    let session := (Traffic.fresh.run moves).session
    ((operation.procedure session.network.medium agent).2.2 = .error error →
      operation.procedure session.network.medium agent = (session.network.medium, agent, .error error)) ∧
    ∀ request, session.asked request = .ok (some (agent, operation)) →
      (session.handle request).2 = .error (.failed error) →
      session.handle request = (session, .error (.failed error)) := by
  intro session
  have first := operation.failsFirst healthy
  refine ⟨first error refuses, fun request asked failed ↦ ?_⟩
  have awake : session.network.Awake := (Traffic.sound_fresh.run moves).steady.network.awake
  obtain ⟨same, leaves⟩ := session.follows_of_asked awake asked error failed
  exact leaves (first error refuses same)

/-- The connection of an agent was cut while nobody looked: its state says connected, and both a channel and a message
are refused. -/
theorem fails_without_trace_cut : ∃ (moves : List Move) (agent : Agent),
    let session := (Traffic.fresh.run moves).session
    session.network.agents[0]? = some agent ∧ agent.connection.state = .connected ∧
    session.handle (.createSender ⟨"agent", "out", .u32, "speed", .none, none⟩) =
      (session, .error (.failed (.notConnected "create sender \"speed\""))) ∧
    session.handle (.publishRaw "agent" ⟨"speed", [1]⟩ none true) =
      (session, .error (.failed (.publishWithoutConnection "speed"))) := by
  let moves : List Move := [
    .request (.build ⟨"agent", "car", none, none, none, .none, some true, none, .scripted⟩), .request .silenceAll]
  let session := (Traffic.fresh.run moves).session
  obtain ⟨agent, h⟩ : ∃ agent, session.network.agents[0]? = some agent :=
    Option.isSome_iff_exists.1 (by decide +kernel)
  have found : session.findAgent "agent" = .ok (0, agent) := by
    have known : session.agents.get? "agent" = some 0 := by decide +kernel
    simp only [Session.findAgent, known, h]
    rfl
  have healthy : (session.network.medium.scriptOf agent.transport).publish = [] := by
    rw [Session.view_of_seen h Agent.transport (.scripted "agent") (by decide +kernel)]
    decide +kernel
  have unpublished : (agent.publish session.network.medium ⟨"speed", [1]⟩ ⟨.atLeastOnce, true⟩).2 =
      .error (.publishWithoutConnection "speed") :=
    Session.view_of_seen h (fun agent ↦ (agent.publish session.network.medium ⟨"speed", [1]⟩ ⟨.atLeastOnce, true⟩).2)
      (.error (.publishWithoutConnection "speed")) (by decide +kernel)
  have uncreated : agent.createSender session.network.medium "speed" .u32 .none =
      .error (.notConnected "create sender \"speed\"") :=
    Session.eq_of_map (Session.view_of_seen h
      (fun agent ↦ (agent.createSender session.network.medium "speed" .u32 .none).map fun _ ↦ ())
      (.error (.notConnected "create sender \"speed\"")) (by decide +kernel))
  refine ⟨moves, agent, h,
    Session.view_of_seen h (fun agent ↦ agent.connection.state) .connected (by decide +kernel), ?_, ?_⟩
  · refine (fails_without_trace moves agent (.createSender "speed" .u32 .none) trivial healthy).2 _ ?_ ?_
    · change session.asked _ = _
      rw [Session.asked, found]
      rfl
    · change (session.handle _).2 = _
      rw [Session.handle, found]
      change (session.createSender 0 agent _ .none).2 = _
      rw [Session.createSender, uncreated]
      rfl
  · refine (fails_without_trace moves agent (.publish ⟨"speed", [1]⟩ ⟨.atLeastOnce, true⟩) trivial healthy).2 _ ?_ ?_
    · change session.asked _ = _
      rw [Session.asked, found]
      rfl
    · change (session.handle _).2 = _
      rw [Session.handle, found]
      exact congrArg (fun result ↦ Session.failing (result.map fun _ ↦ Answer.done)) unpublished

end PubSub
