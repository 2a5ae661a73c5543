import PubSub.Proofs.Secrecy.Network
/-!
# Requests without passwords

A session answers a request when both are redacted as it does otherwise. A request compares credentials at most once.
-/

namespace PubSub

/-- Procedures that go on alike after first parts that come alike to their results do so too. -/
theorem map_bind_eq_map_bind {ε α β γ δ : Type} {first : Except ε α} {view : α → β} {next : β → Except ε γ}
    {other : α → Except ε δ} {change : δ → γ} (h : ∀ middle, next (view middle) = (other middle).map change) :
    first.map view >>= next = (first >>= other).map change := by
  cases first with
  | error error => rfl
  | ok middle => exact h middle

namespace Session

variable {passes : Bool} {session : Session}

/-- A session and an answer, both redacted. -/
abbrev told (passes : Bool) : Session × Except Refusal Answer → Session × Except Refusal Answer :=
  Prod.map (redacted passes) (Except.map Answer.redacted)

/-! ## Finding what labels stand for -/

theorem findAgent_redacted (label : String) :
    (session.redacted passes).findAgent label = (session.findAgent label).map (Prod.map id Agent.redacted) := by
  unfold findAgent
  rw [agents_redacted, network_redacted]
  cases session.agents.get? label with
  | none => rfl
  | some index =>
    simp only [Network.getElem?_agents_redacted]
    cases session.network.agents[index]? <;> rfl

theorem findSender_redacted (label : String) :
    (session.redacted passes).findSender label = (session.findSender label).map (Prod.map Agent.redacted id) := by
  unfold findSender
  rw [senders_redacted, network_redacted]
  cases session.senders.get? label with
  | none => rfl
  | some sender =>
    simp only [Network.getElem?_agents_redacted]
    rcases session.network.agents[sender.agent]? with _ | agent
    · rfl
    · simp only [Option.map_some, Agent.senders_redacted]
      cases agent.senders[sender.index]? <;> rfl

theorem findReceiver_redacted (label : String) :
    (session.redacted passes).findReceiver label = session.findReceiver label := by
  unfold findReceiver
  rw [receivers_redacted, network_redacted]
  cases session.receivers.get? label with
  | none => rfl
  | some receiver => simp only [Network.receiver?_redacted]

/-- The password in a configuration file stays where it is, but it does not get any further. -/
theorem builderOf_redacted (request : AgentRequest) :
    (builderOf request.redacted).map AgentBuilder.redacted = (builderOf request).map AgentBuilder.redacted := by
  rcases request with ⟨agent, role, instanceId, document, broker, overrides, autoConnect, clientId, transport⟩
  cases document with
  | none => cases broker <;> rfl
  | some document =>
    simp only [builderOf, AgentRequest.redacted]
    cases failing ((Config.parse document).mapError .config) with
    | error error => rfl
    | ok config => cases broker <;> rfl

/-- Builders that are told apart by passwords alone are refused alike or built alike. -/
theorem builders_eq {first second : Except Refusal AgentBuilder}
    (alike : first.map AgentBuilder.redacted = second.map AgentBuilder.redacted) :
    (∃ refusal, first = .error refusal ∧ second = .error refusal) ∨
      ∃ builder other, first = .ok builder ∧ second = .ok other ∧ builder.redacted = other.redacted := by
  rcases first with refusal | builder <;> rcases second with refusal' | other
  · exact .inl ⟨refusal, rfl, congrArg Except.error (Except.error.inj alike).symm⟩
  · cases alike
  · cases alike
  · exact .inr ⟨builder, other, rfl, rfl, Except.ok.inj alike⟩

/-! ## Parts of requests -/

theorem onNetwork_redacted {operation other : Network → Network}
    (comm : other (session.network.redacted passes) = (operation session.network).redacted passes) :
    (session.redacted passes).onNetwork other = (session.onNetwork operation).redacted passes :=
  congrArg (fun network ↦ { session with network }) comm

theorem onBroker_redacted {operation other : Broker → Broker}
    (comm : ∀ broker, other (broker.redacted passes) = (operation broker).redacted passes) :
    (session.redacted passes).onBroker other = (session.onBroker operation).redacted passes :=
  onNetwork_redacted (Network.onMedium_redacted fun medium ↦
    congrArg (fun broker ↦ { medium.redacted passes with broker }) (comm medium.broker))

theorem setBroker_redacted (broker : Broker) :
    (session.redacted passes).onBroker (fun _ ↦ broker.redacted passes) =
      (session.onBroker fun _ ↦ broker).redacted passes :=
  onBroker_redacted fun _ ↦ rfl

theorem closeRaw_redacted (connection : ConnectionId) :
    (session.redacted passes).onBroker (fun broker ↦ broker.close connection) =
      (session.onBroker fun broker ↦ broker.close connection).redacted passes :=
  onBroker_redacted fun _ ↦ rfl

theorem refusing_map {α β : Type} (result : Except BrokerError α) (change : α → β) :
    refusing (result.map change) = (refusing result).map change := by
  cases result <;> rfl

theorem request_redacted (result : Except BrokerError Broker) :
    (session.redacted passes).request (result.map (Broker.redacted passes)) = told passes (session.request result) := by
  cases result with
  | error error => rfl
  | ok broker =>
    simp only [request, Except.map, setBroker_redacted]
    rfl

theorem labelAgent_redacted (label : String) (agent : Agent) :
    (session.redacted passes).labelAgent label agent.redacted = (session.labelAgent label agent).redacted passes := by
  have added : Network.wake { session.network.redacted passes with
        agents := (session.network.redacted passes).agents ++ [agent.redacted] } =
      (Network.wake { session.network with agents := session.network.agents ++ [agent] }).redacted passes := by
    rw [← Network.wake_redacted]
    simp only [Network.redacted, List.map_append]
    rfl
  simp only [labelAgent, network_redacted, agents_redacted, added, Network.length_agents_redacted]
  cases session.agents.get? label with
  | none => rfl
  | some old =>
    simp only [Network.letGo_redacted Network.closeLater_redacted]
    rfl

theorem build_redacted {label : String} {builder : AgentBuilder}
    (outcome : ∀ same ∈ builder.compared? session.network.medium label session.network.agents.length, same = passes) :
    (session.redacted passes).build label builder.redacted = told passes (session.build label builder) := by
  simp only [build, network_redacted, Network.medium_redacted, Network.length_agents_redacted,
    AgentBuilder.build_redacted outcome]
  rcases builder.build session.network.medium label session.network.agents.length with ⟨medium, error | agent⟩
  · rfl
  · let built := session.onNetwork fun network ↦ { network with medium }
    exact Prod.ext (@labelAgent_redacted passes built label agent) rfl

theorem onAgent_redacted {α : Type} (index : Nat) {agent : Agent}
    {operation other : Medium → Agent → Medium × Agent × Except Error α}
    (comm : other (session.network.medium.redacted passes) agent.redacted =
      Prod.map (Medium.redacted passes) (Prod.map Agent.redacted id) (operation session.network.medium agent))
    {answer : α → Answer} (plain : ∀ value, (answer value).redacted = answer value) :
    (session.redacted passes).onAgent index agent.redacted other answer =
      told passes (session.onAgent index agent operation answer) := by
  unfold onAgent
  have ran : (session.redacted passes).network.onAgent index agent.redacted other = _ :=
    Network.onAgent_redacted index comm
  rw [ran]
  rcases session.network.onAgent index agent operation with ⟨network, error | value⟩
  · rfl
  · exact congrArg (_, ·) (congrArg Except.ok (plain value).symm)

theorem publishAs_redacted (agent : Agent) (message : Message) (options : PublishOptions) :
    (session.redacted passes).publishAs agent.redacted message options =
      told passes (session.publishAs agent message options) := by
  simp only [publishAs, network_redacted, Network.medium_redacted, Agent.publish_redacted]
  rcases agent.publish session.network.medium message options with ⟨medium, error | _⟩ <;>
    exact congrArg (·, _) (onNetwork_redacted (Network.onMedium_redacted fun _ ↦ rfl))

theorem subscribeAs_redacted (agent : Agent) (id : ReceiverId) (receiver : Receiver) :
    (session.redacted passes).subscribeAs agent.redacted id receiver =
      told passes (session.subscribeAs agent id receiver) := by
  simp only [subscribeAs, network_redacted, Network.medium_redacted, Agent.subscribe_redacted]
  rcases agent.subscribe session.network.medium receiver with ⟨medium, marked, result⟩
  have settled : ((session.network.redacted passes).modifyReceiver id fun _ ↦ marked).onMedium
      (fun _ ↦ medium.redacted passes) =
      ((session.network.modifyReceiver id fun _ ↦ marked).onMedium fun _ ↦ medium).redacted passes := by
    rw [Network.modifyReceiver_redacted]
    exact Network.onMedium_redacted fun _ ↦ rfl
  have shown : failing (result.map fun _ ↦ Answer.done) =
      (failing (result.map fun _ ↦ Answer.done)).map Answer.redacted := by
    cases result <;> rfl
  exact Prod.ext (congrArg (fun network ↦ { session with network }) settled) shown

/-- An agent in the place of its earlier self, beside another medium. -/
theorem replaced_redacted (medium : Medium) (index : Nat) (agent : Agent) :
    Network.wake { session.network.redacted passes with
        medium := medium.redacted passes
        agents := (session.network.redacted passes).agents.set index agent.redacted } =
      (Network.wake { session.network with
        medium, agents := session.network.agents.set index agent }).redacted passes := by
  rw [← Network.wake_redacted]
  simp only [Network.redacted, List.map_set]

theorem createSender_redacted (index : Nat) (agent : Agent) (request : ChannelRequest) (options : ChannelOptions) :
    (session.redacted passes).createSender index agent.redacted request options =
      told passes (session.createSender index agent request options) := by
  simp only [createSender, network_redacted, Network.medium_redacted, Agent.createSender_redacted]
  rcases agent.createSender session.network.medium request.name request.kind options with
    error | ⟨medium, changed, place⟩
  · rfl
  · simp only [Except.map, Prod.map, id, Agent.senders_redacted, replaced_redacted]
    cases changed.senders[place]? <;> rfl

theorem createReceiver_redacted (index : Nat) (agent : Agent) (request : ChannelRequest) (options : ChannelOptions) :
    (session.redacted passes).createReceiver index agent.redacted request options =
      told passes (session.createReceiver index agent request options) := by
  simp only [createReceiver, network_redacted, Network.medium_redacted, Agent.createReceiver_redacted]
  rcases agent.createReceiver session.network.medium request.name request.kind options with
    error | ⟨medium, changed, place⟩
  · rfl
  · simp only [Except.map, Prod.map, id, Agent.receivers_redacted, replaced_redacted]
    cases changed.receivers[place]? <;> rfl

theorem register_redacted (place : ReceiverId) (receiver : Receiver) (callback : Callback) :
    (session.redacted passes).register place receiver callback =
      Prod.map (redacted passes) id (session.register place receiver callback) :=
  congrArg (·, _) (onNetwork_redacted (Network.modifyReceiver_redacted place _))

theorem poll_redacted (ticket : Nat) : (session.redacted passes).poll ticket = session.poll ticket := by
  have holds (id : ReceiverId) : (session.redacted passes).holds id = session.holds id := by
    simp only [Session.holds, network_redacted, receivers_redacted, Network.holdsReceivers_redacted,
      Network.holdsItself_redacted]
  have replies : (session.redacted passes).network.replies = session.network.replies := rfl
  simp only [poll, replies, holds]

/-! ## Requests -/

/-- What the comparison that a request leads to comes to, if it leads to one at once. -/
def compared? (session : Session) : Request → Option Bool
  | .build request =>
    match builderOf request with
    | .error _ => none
    | .ok builder => builder.compared? session.network.medium request.agent session.network.agents.length
  | .connect label overrides =>
    match session.findAgent label with
    | .error _ => none
    | .ok (_, agent) => agent.compared? session.network.medium overrides
  | .rawConnect _ _ options => session.network.medium.broker.compared? options
  | _ => none

theorem attempt_redacted {work other : Except Refusal (Session × Except Refusal Answer)}
    (comm : other = work.map (told passes)) :
    (session.redacted passes).attempt other = told passes (session.attempt work) := by
  subst comm
  cases work <;> rfl

theorem question_redacted {answer other : Except Refusal Answer} (comm : other = answer.map Answer.redacted) :
    (session.redacted passes).question other = told passes (session.question answer) := by
  subst comm
  rfl

theorem onNetwork_told {operation other : Network → Network} {answer : Except Refusal Answer}
    (comm : other (session.network.redacted passes) = (operation session.network).redacted passes)
    (plain : answer = answer.map Answer.redacted) :
    ((session.redacted passes).onNetwork other, answer) = told passes (session.onNetwork operation, answer) :=
  Prod.ext (onNetwork_redacted comm) plain

theorem onBroker_told {operation other : Broker → Broker} {answer : Except Refusal Answer}
    (comm : ∀ broker, other (broker.redacted passes) = (operation broker).redacted passes)
    (plain : answer = answer.map Answer.redacted) :
    ((session.redacted passes).onBroker other, answer) = told passes (session.onBroker operation, answer) :=
  Prod.ext (onBroker_redacted comm) plain

/-- Every request but the building of an agent. -/
theorem handle_redacted {request : Request} (outcome : ∀ same ∈ session.compared? request, same = passes)
    (other : ∀ description, request ≠ .build description) :
    (session.redacted passes).handle (request.redacted passes) = told passes (session.handle request) := by
  cases request with
  | build request => exact absurd rfl (other request)
  | inspectBuilder request =>
    refine question_redacted ?_
    rcases builders_eq (builderOf_redacted request) with ⟨refusal, left, right⟩ | ⟨builder, other, left, right, same⟩
    · rw [left, right]
      rfl
    · rw [left, right]
      refine congrArg (fun text ↦ Except.ok (Answer.text text)) ?_
      calc
        builder.inspect (session.network.medium.redacted passes)
          = builder.redacted.inspect (session.network.medium.redacted passes) := by
            rw [← AgentBuilder.inspect_redacted passes, Medium.redacted_redacted]
        _ = other.inspect session.network.medium := by rw [same, AgentBuilder.inspect_redacted]
  | describe label =>
    refine question_redacted ?_
    rw [findAgent_redacted]
    exact map_bind_eq_map_bind fun _ ↦ rfl
  | inspectAgent label =>
    refine question_redacted ?_
    rw [findAgent_redacted]
    exact map_bind_eq_map_bind fun found ↦
      congrArg (fun text ↦ Except.ok (Answer.text text)) (Agent.inspect_redacted passes _ found.2)
  | connect label overrides =>
    refine attempt_redacted ?_
    rw [findAgent_redacted]
    simp only [compared?] at outcome
    revert outcome
    rcases session.findAgent label with error | ⟨index, agent⟩
    · exact fun _ ↦ rfl
    · exact fun outcome ↦ congrArg Except.ok (onAgent_redacted index (Agent.connect_redacted outcome) fun _ ↦ rfl)
  | startConnect label ticket overrides =>
    refine attempt_redacted ?_
    rw [findAgent_redacted]
    refine map_bind_eq_map_bind fun found ↦ ?_
    exact congrArg Except.ok (onNetwork_told (Network.startConnect_redacted found.1 ticket overrides) rfl)
  | disconnect label =>
    refine attempt_redacted ?_
    rw [findAgent_redacted]
    refine map_bind_eq_map_bind fun found ↦ ?_
    refine congrArg Except.ok (onAgent_redacted found.1 ?_ fun _ ↦ rfl)
    simp only [Agent.disconnect_redacted]
    rfl
  | dropAgent label background =>
    simp only [Request.redacted, handle, agents_redacted]
    cases session.agents.get? label with
    | none => rfl
    | some index =>
      refine @onNetwork_told passes { session with agents := session.agents.remove label } _ _ _ ?_ rfl
      cases background with
      | false => exact Network.letGo_redacted Network.forget_redacted index
      | true => exact Network.letGo_redacted Network.closeLater_redacted index
  | publishRaw label message qos retain =>
    refine attempt_redacted ?_
    rw [findAgent_redacted]
    refine map_bind_eq_map_bind fun found ↦ bind_eq_map_bind fun qos ↦ ?_
    exact congrArg Except.ok (publishAs_redacted found.2 message _)
  | script label change =>
    exact onNetwork_told (Network.onMedium_redacted fun _ ↦ rfl) rfl
  | release transport number =>
    have released : (session.redacted passes).network.releaseConnect transport number = _ :=
      Network.releaseConnect_redacted transport number
    simp only [Request.redacted, handle, released]
    rfl
  | createSender request =>
    refine attempt_redacted (bind_eq_map_bind fun qos ↦ ?_)
    rw [findAgent_redacted]
    exact map_bind_eq_map_bind fun found ↦ congrArg Except.ok (createSender_redacted found.1 found.2 request _)
  | describeSender label | inspectSender label =>
    refine question_redacted ?_
    rw [findSender_redacted]
    exact map_bind_eq_map_bind fun _ ↦ rfl
  | send label value =>
    refine attempt_redacted ?_
    rw [findSender_redacted]
    refine map_bind_eq_map_bind fun found ↦ bind_eq_map_bind fun payload ↦ ?_
    exact congrArg Except.ok (publishAs_redacted found.1 _ _)
  | sendRaw label payload =>
    refine attempt_redacted ?_
    rw [findSender_redacted]
    exact map_bind_eq_map_bind fun found ↦ congrArg Except.ok (publishAs_redacted found.1 _ _)
  | createReceiver request =>
    refine attempt_redacted (bind_eq_map_bind fun qos ↦ ?_)
    rw [findAgent_redacted]
    exact map_bind_eq_map_bind fun found ↦ congrArg Except.ok (createReceiver_redacted found.1 found.2 request _)
  | subscribe label receiver =>
    refine attempt_redacted ?_
    rw [findReceiver_redacted]
    refine bind_eq_map_bind fun place ↦ ?_
    rw [findAgent_redacted]
    exact map_bind_eq_map_bind fun found ↦ congrArg Except.ok (subscribeAs_redacted found.2 place.1 place.2)
  | describeReceiver label | inspectReceiver label | accepts label topics =>
    refine question_redacted ?_
    rw [findReceiver_redacted]
    exact bind_eq_map_bind fun _ ↦ rfl
  | register label callback =>
    refine attempt_redacted ?_
    rw [findReceiver_redacted]
    refine bind_eq_map_bind fun found ↦ ?_
    simp only [register_redacted]
    rfl
  | dropReceiver label => rfl
  | next receiver label =>
    refine attempt_redacted ?_
    rw [findReceiver_redacted]
    refine bind_eq_map_bind fun found ↦ ?_
    simp only [register_redacted]
    rfl
  | poll label =>
    simp only [Request.redacted, handle, nexts_redacted]
    rcases session.nexts.get? label with _ | ticket
    · rfl
    · simp only [poll_redacted]
      cases session.poll ticket <;> rfl
  | dropNext label => rfl
  | publish topic payload retain times =>
    refine attempt_redacted (bind_eq_map_bind fun payload ↦ congrArg Except.ok (onNetwork_told ?_ rfl))
    exact Network.repeat_publish_redacted ⟨topic, payload⟩ retain times
  | setAvailable available => exact onBroker_told (fun _ ↦ rfl) rfl
  | requireCredentials credentials => exact onBroker_told (fun _ ↦ rfl) rfl
  | silenceAll => exact onBroker_told (fun _ ↦ rfl) rfl
  | report clients topics => rfl
  | inspectBroker => rfl
  | rawConnect label clientId options =>
    refine attempt_redacted ?_
    have connected : (session.redacted passes).network.medium.broker.connect options.redacted (.given clientId) = _ :=
      Broker.connect_redacted outcome (.given clientId)
    rw [connected, refusing_map]
    refine map_bind_eq_map_bind ?_
    rintro ⟨broker, connection⟩
    simp only [Prod.map, id, setBroker_redacted, raws_redacted]
    generalize session.onBroker (fun _ ↦ broker) = session
    cases session.raws.get? label with
    | none => rfl
    | some old =>
      simp only [closeRaw_redacted]
      rfl
  | rawSubscribe label pattern qos =>
    refine attempt_redacted (bind_eq_map_bind fun qos ↦ bind_eq_map_bind fun connection ↦ congrArg Except.ok ?_)
    have subscribed : (session.redacted passes).network.medium.broker.subscribe connection pattern
        (qos.getD .atLeastOnce) = _ := Broker.subscribe_redacted connection pattern (qos.getD .atLeastOnce)
    rw [subscribed]
    exact request_redacted _
  | rawPublish label message retain =>
    refine attempt_redacted (bind_eq_map_bind fun connection ↦ congrArg Except.ok ?_)
    have published : (session.redacted passes).network.medium.broker.publish connection message retain = _ :=
      Broker.publish_redacted connection message retain
    rw [published]
    exact request_redacted _
  | rawClose label =>
    exact attempt_redacted (bind_eq_map_bind fun _ ↦ congrArg Except.ok (onBroker_told (fun _ ↦ rfl) rfl))
  | rawLive label => exact question_redacted (bind_eq_map_bind fun _ ↦ rfl)
  | rawReceive label sorted =>
    exact attempt_redacted (bind_eq_map_bind fun _ ↦ congrArg Except.ok (onBroker_told (fun _ ↦ rfl) rfl))
  | rawDrop label =>
    simp only [Request.redacted, handle, raws_redacted]
    rcases session.raws.get? label with _ | connection
    · rfl
    · simp only [closeRaw_redacted]
      rfl

end Session

end PubSub
