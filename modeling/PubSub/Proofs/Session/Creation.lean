import PubSub.Proofs.Agent.Creation
import PubSub.Proofs.Session.Retention
/-!
# Receivers that a session creates

A session that is asked for a receiver asks the agent, and gives the receiver that it gets a label. What the agent has
decided is answered as it is: a refusal leaves the session as it was, and a receiver is reported as it is kept then.
-/

namespace PubSub

/-- What a session makes of what an agent decides about a receiver. -/
def Session.Concludes (session : Session) (index : Nat) (label : String)
    (result : Except Error (Medium × Agent × Nat)) (outcome : Session × Except Refusal Answer) : Prop :=
  match result with
  | .error error => outcome = (session, .error (.failed error))
  | .ok (medium, agent, place) => ∃ receiver, agent.receivers[place]? = some receiver ∧
    outcome = ({ session with
      network := Network.wake { session.network with medium, agents := session.network.agents.set index agent }
      receivers := session.receivers.put label ⟨index, place⟩ },
      .ok (.createdReceiver (session.receivers.labelsOf ⟨index, place⟩) receiver))

/-- A receiver that was found or created stands at the place that is told. -/
theorem Agent.DecidesReceiver.stands {medium after : Medium} {agent changed : Agent} {name : String}
    {kind : PayloadKind} {options : ChannelOptions} {place : Nat}
    (decides : agent.DecidesReceiver medium name kind options (.ok (after, changed, place))) :
    ∃ receiver, changed.receivers[place]? = some receiver := by
  by_cases named : Topic.IsLiteral name
  · by_cases opens : agent.Opens name options
    · have allowed : ¬agent.LacksConnection medium := fun lacks ↦ by
        obtain ⟨operation, refused⟩ := (decides.notConnected named opens).2 lacks
        cases refused
      have listenable : options.Listenable := by
        by_contra unlistenable
        exact not_isMalformed_ok _ ((decides.malformed named opens allowed).2 unlistenable)
      obtain ⟨pattern, subscribed, after, -, created, -⟩ := decides.created named opens allowed listenable
      cases created
      exact ⟨_, List.getElem?_concat_length⟩
    · obtain ⟨known, receiver, stands, -, -, found⟩ := decides.known named opens
      split at found
      · cases found
        exact ⟨receiver, stands⟩
      · cases found
  · obtain ⟨fault, refused⟩ := decides.invalid named
    cases refused

/-- In every session, a request for a receiver is decided by the agent in the order of `Agent.DecidesReceiver`, and the
session answers what the agent has decided. -/
theorem Session.decides_receiver (session : Session) {request : ChannelRequest} {qos : Option QoS} {index : Nat}
    {agent : Agent} (checked : checkQoS request.qos = .ok qos)
    (found : session.findAgent request.agent = .ok (index, agent)) :
    let medium := session.network.medium
    let options := { request.options with qos }
    let result := agent.createReceiver medium request.name request.kind options
    agent.DecidesReceiver medium request.name request.kind options result ∧
      session.Concludes index request.label result (session.handle (.createReceiver request)) := by
  intro medium options result
  have decides := agent.decidesReceiver_createReceiver medium request.name request.kind options
  refine ⟨decides, ?_⟩
  rw [handle_createReceiver checked found, Session.createReceiver]
  simp only [result]
  cases created : agent.createReceiver medium request.name request.kind options with
  | error error => rfl
  | ok decided =>
    obtain ⟨after, changed, place⟩ := decided
    obtain ⟨receiver, stands⟩ := Agent.DecidesReceiver.stands (created ▸ decides)
    refine ⟨receiver, stands, ?_⟩
    simp only [stands]
    rfl

/-- The broker refuses the subscription of a new receiver. The receiver is there all the same, and it was tried once. -/
theorem Session.decides_receiver_unsubscribed : ∃ (moves : List Move) (request : ChannelRequest) (agent : Agent),
    let session := (Traffic.fresh.run moves).session
    let outcome := session.handle (.createReceiver request)
    session.network.agents[0]? = some agent ∧ agent.receivers.length = 0 ∧
    agent.isConnected session.network.medium ∧ ∃ receiver, outcome.2 = .ok (.createdReceiver [] receiver) ∧
    receiver.definition = ⟨"speed", "+/speed/left", .receiver⟩ ∧ receiver.subscribed = false ∧
    outcome.1.network.medium.calls =
      session.network.medium.calls ++ [("agent", .subscribe "+/speed/left" .exactlyOnce)] := by
  let moves : List Move := [
    .request (.build ⟨"agent", "car", none, none, none, .none, some true, none, .scripted⟩),
    .request (.script "agent" ⟨none, some ["refused"], none, none, none, none, none⟩)]
  let request : ChannelRequest :=
    ⟨"agent", "in", .u32, "speed", { ChannelOptions.none with instanceId := some "left" }, some 2⟩
  let session := (Traffic.fresh.run moves).session
  obtain ⟨agent, h⟩ : ∃ agent, session.network.agents[0]? = some agent :=
    Option.isSome_iff_exists.1 (by decide +kernel)
  have found : session.findAgent "agent" = .ok (0, agent) := by
    have known : session.agents.get? "agent" = some 0 := by decide +kernel
    simp only [Session.findAgent, known, h]
    rfl
  have connected : agent.isConnected session.network.medium :=
    Session.view_of_seen h (fun agent ↦ agent.isConnected session.network.medium) true (by decide +kernel)
  have unheard : agent.receivers.length = 0 :=
    Session.view_of_seen h (fun agent ↦ agent.receivers.length) 0 (by decide +kernel)
  have unlacking : ¬agent.LacksConnection session.network.medium := fun lacks ↦ by simp [lacks.2] at connected
  have named : Topic.IsLiteral "speed" := Topic.literalLevel_eq_ok_iff.1 (by rfl : literalLevel .channelName _ = .ok ())
  have left : Topic.IsLiteral "left" := Topic.literalLevel_eq_ok_iff.1 (by rfl : literalLevel .instanceId _ = .ok ())
  have absent : agent.Opens "speed" request.options := by
    simp [Agent.Opens, Agent.receiverNames, List.eq_nil_of_length_eq_zero unheard]
  have checked : checkQoS request.qos = .ok (some .exactlyOnce) := by rfl
  obtain ⟨decides, concludes⟩ := Session.decides_receiver session checked found
  have listenable : ChannelOptions.Listenable { request.options with qos := some .exactlyOnce } := by
    refine ⟨nofun, fun _ ↦ nofun, fun _ level wanted ↦ ?_⟩
    obtain rfl : "left" = level := Option.some.inj wanted
    exact .inr (.inr left)
  obtain ⟨pattern, subscribed, after, parsed, created, once⟩ := decides.created named absent unlacking listenable
  rw [created] at concludes
  obtain ⟨receiver, stands, concluded⟩ := concludes
  obtain ⟨handle, held, answered, -⟩ := once.connected connected
  have transport := Session.view_of_seen h Agent.transport (.scripted "agent") (by decide +kernel)
  have scripted : session.network.medium.scriptOf (.scripted "agent") =
      ⟨[], ["refused"], none, [], [], false, false, 1⟩ := by decide +kernel
  have refused : subscribed = false := by
    rw [answered, transport]
    have script (call : Call) : (session.network.medium.record (.scripted "agent") call).scriptOf (.scripted "agent") =
        ⟨[], ["refused"], none, [], [], false, false, 1⟩ := scripted
    simp only [Medium.subscribe, Medium.subscribeFault, script]
    rfl
  have same := Option.some.inj (List.getElem?_concat_length.symm.trans stands)
  have unlabelled : session.receivers.labelsOf ⟨0, 0⟩ = [] := by decide +kernel
  refine ⟨moves, request, agent, h, unheard, connected, receiver, ?_, ?_, ?_, ?_⟩
  · rw [concluded, unheard, unlabelled]
  · rw [← same]
    rfl
  · rw [← same]
    exact refused
  · rw [concluded]
    simp only [Network.medium_wake, once.calls, connected, if_true, transport]
    rfl

end PubSub
