import PubSub.Proofs.Session.Use
/-!
# Requests are silent

No request runs a callback, whatever is asked: nothing is observed but calls and notes, and no wait for a message is
answered. Callbacks are left to the background work. An agent that falls out of use by a request reads nothing then.
-/

namespace PubSub

namespace Network

variable {before middle after network : Network} {agent changed : Agent} {index : Nat}

/-- From one network to a later one without a callback: only calls and notes are observed, and no wait is answered. Who
is in use, and who is not, stays so. -/
structure Calm (before after : Network) : Prop where
  logs : before.medium.Logs (fun _ ↦ True) after.medium
  replies : before.replies <+: after.replies
  usage : after.usage = before.usage

/-- From one network to a later one without a callback. Who falls out of use reads nothing. -/
structure Hushed (before after : Network) : Prop where
  logs : before.medium.Logs (fun _ ↦ True) after.medium
  replies : before.replies <+: after.replies
  frees : before.Frees after

namespace Calm

theorem refl (network : Network) : network.Calm network :=
  ⟨.refl _, List.prefix_rfl, rfl⟩

theorem trans (first : before.Calm middle) (second : middle.Calm after) : before.Calm after :=
  ⟨first.logs.trans second.logs, first.replies.trans second.replies, second.usage.trans first.usage⟩

theorem hushed (calm : before.Calm after) : before.Hushed after :=
  ⟨calm.logs, calm.replies, .of_usage calm.usage⟩

end Calm

theorem calm_wake (network : Network) : network.Calm network.wake := by
  have usage := usage_wake network
  obtain ⟨ready, same, -⟩ := wake_eq network
  rw [same] at usage ⊢
  exact ⟨.refl _, List.prefix_rfl, usage⟩

theorem calm_schedule (network : Network) (task : Task) : network.Calm (network.schedule task) := by
  have usage := usage_schedule network task
  obtain ⟨ready, same, -⟩ := schedule_eq network task
  rw [same] at usage ⊢
  exact ⟨.refl _, List.prefix_rfl, usage⟩

theorem calm_setAgent (h : network.agents[index]? = some agent) (held : changed.held = agent.held) :
    network.Calm (network.setAgent index changed) := by
  have usage := usage_setAgent h held
  obtain ⟨ready, same, -⟩ := setAgent_eq network index changed
  rw [same] at usage ⊢
  exact ⟨.refl _, List.prefix_rfl, usage⟩

theorem calm_modifyAgent (network : Network) (index : Nat) {change : Agent → Agent}
    (held : ∀ agent, (change agent).held = agent.held) : network.Calm (network.modifyAgent index change) :=
  ⟨.refl _, List.prefix_rfl, usage_modifyAgent network index held⟩

theorem calm_of_medium {medium : Medium} (logs : network.medium.Logs (fun _ ↦ True) medium) :
    network.Calm { network with medium } :=
  ⟨logs, List.prefix_rfl, rfl⟩

theorem calm_onMedium (network : Network) (operation : Medium → Medium)
    (logs : network.medium.Logs (fun _ ↦ True) (operation network.medium)) :
    network.Calm (network.onMedium operation) :=
  (calm_of_medium logs).trans (calm_wake _)

theorem calm_onBroker (network : Network) (operation : Broker → Broker) :
    network.Calm (network.onMedium fun medium ↦ medium.onBroker operation) :=
  calm_onMedium network _ (.of_observations rfl)

/-- An agent does something, and is held after it if it was. -/
theorem calm_onAgent {α : Type} (h : network.agents[index]? = some agent)
    (operation : Medium → Agent → Medium × Agent × α)
    (logs : network.medium.Logs (fun _ ↦ True) (operation network.medium agent).1)
    (held : (operation network.medium agent).2.1.held = agent.held) :
    network.Calm (network.onAgent index agent operation).1 := by
  have h' : ({ network with medium := (operation network.medium agent).1 } : Network).agents[index]? = some agent := h
  exact ((calm_of_medium logs).trans (calm_setAgent h' held)).trans (calm_wake _)

/-! ## Letting go -/

section LetGo

variable {dispose : Network → Agent → ConnectionId → Network} (disposes : dispose = closeLater ∨ dispose = forget)
include disposes

theorem calm_giveUp (network : Network) (index : Nat) : network.Calm (network.giveUp index dispose) := by
  unfold giveUp
  split
  · exact .refl network
  · rename_i agent h
    have released : network.Calm (network.setAgent index agent.release.1) := calm_setAgent h rfl
    simp only
    split
    · exact released
    · rcases disposes with rfl | rfl
      · exact released.trans (calm_schedule _ _)
      · exact released.trans (calm_onBroker _ _)

/-- Whoever is let go of is given up unless a connect is under way, and nobody else is touched. -/
theorem hushed_letGo (network : Network) (index : Nat) : network.Hushed (network.letGo index dispose) := by
  let dropped := network.modifyAgent index fun agent ↦ { agent with held := false }
  have others (place : Nat) (apart : index ≠ place) (used : network.InUse place) : dropped.InUse place := by
    have same : dropped.agents[place]? = network.agents[place]? := List.getElem?_modify_ne _ _ apart
    unfold InUse
    rw [same]
    exact used
  have lets : network.letGo index dispose =
      if dropped.isConnecting index then dropped else dropped.giveUp index dispose := rfl
  rw [lets]
  by_cases connecting : dropped.isConnecting index
  · rw [if_pos connecting]
    refine ⟨.refl _, List.prefix_rfl, fun place used ↦ .inl ?_⟩
    by_cases own : index = place
    · exact .inr (own ▸ connecting)
    · exact others place own used
  · rw [if_neg connecting]
    have given := calm_giveUp disposes dropped index
    refine ⟨given.logs, given.replies, fun place used ↦ ?_⟩
    by_cases own : index = place
    · subst own
      exact .inr fun connection ↦ Traffic.not_reads_giveUp disposes
    · exact .inl ((inUse_congr given.usage).2 (others place own used))

end LetGo

/-! ## Connects in the background -/

/-- The list of connects is exchanged for one in which those that are under way still are. -/
theorem hushed_schedule {attempts : List Attempt} (task : Task)
    (retains : ∀ index, network.isConnecting index → isConnecting { network with attempts } index) :
    network.Hushed (schedule { network with attempts } task) := by
  have scheduled := calm_schedule { network with attempts } task
  refine ⟨scheduled.logs, scheduled.replies, fun index used ↦ .inl ((inUse_congr scheduled.usage).2 ?_)⟩
  exact used.imp_right (retains index)

theorem hushed_startConnect (network : Network) (index : Nat) (ticket : String) (overrides : BrokerOverrides) :
    network.Hushed (network.startConnect index ticket overrides) := by
  refine hushed_schedule _ fun place connecting ↦ ?_
  rw [isConnecting, List.any_append]
  exact Bool.or_eq_true_iff.2 (.inl connecting)

theorem hushed_releaseConnect (network : Network) (transport : String) (number : Nat) :
    network.Hushed (network.releaseConnect transport number).1 := by
  unfold releaseConnect
  simp only
  split
  · exact Calm.hushed (.refl network)
  · refine hushed_schedule _ fun place connecting ↦ isConnecting_modify (fun attempt _ own running ↦ ?_) connecting
    split
    · exact ⟨own, by simp⟩
    · exact ⟨own, running⟩

end Network

namespace Session

variable {session next : Session} {agent : Agent} {index : Nat}

/-! ## Parts of requests -/

theorem hushed_attempt_bind {α : Type} {found : Except Refusal α}
    {next : α → Except Refusal (Session × Except Refusal Answer)}
    (h : ∀ thing, found = .ok thing → session.network.Hushed (session.attempt (next thing)).1.network) :
    session.network.Hushed (session.attempt (found >>= next)).1.network := by
  cases found with
  | error refusal => exact Network.Calm.hushed (.refl session.network)
  | ok thing => exact h thing rfl

theorem calm_onBroker (session : Session) (operation : Broker → Broker) :
    session.network.Calm (session.onBroker operation).network :=
  Network.calm_onBroker session.network operation

theorem calm_request (session : Session) (result : Except BrokerError Broker) :
    session.network.Calm (session.request result).1.network := by
  cases result with
  | error error => exact .refl session.network
  | ok broker => exact calm_onBroker session _

theorem calm_publishAs (session : Session) (agent : Agent) (message : Message) (options : PublishOptions) :
    session.network.Calm (session.publishAs agent message options).1.network :=
  Network.calm_onMedium session.network (fun _ ↦ (agent.publish session.network.medium message options).1)
    (Agent.logs_publish session.network.medium agent message options trivial)

/-- An agent is exchanged for what creating a channel has made of it. -/
theorem calm_replaceAgent {changed : Agent} {medium : Medium} (h : session.network.agents[index]? = some agent)
    (logs : session.network.medium.Logs (fun _ ↦ True) medium) (held : changed.held = agent.held) :
    session.network.Calm
      (Network.wake { session.network with medium, agents := session.network.agents.set index changed }) := by
  have set : session.network.Calm { session.network with medium, agents := session.network.agents.set index changed } :=
    ⟨logs, List.prefix_rfl, Network.usage_set h held rfl rfl⟩
  exact set.trans (Network.calm_wake _)

theorem calm_createSender (h : session.network.agents[index]? = some agent) (request : ChannelRequest)
    (options : ChannelOptions) :
    session.network.Calm (session.createSender index agent request options).1.network := by
  unfold Session.createSender
  split
  · exact .refl session.network
  · rename_i medium changed place hcreate
    have held : changed.held = agent.held := by
      obtain ⟨-, senders, rfl⟩ := Agent.createSender_cases hcreate
      rfl
    have created := calm_replaceAgent h (Agent.logs_of_createSender hcreate) held
    simp only
    split <;> exact created

theorem calm_createReceiver (h : session.network.agents[index]? = some agent) (request : ChannelRequest)
    (options : ChannelOptions) :
    session.network.Calm (session.createReceiver index agent request options).1.network := by
  unfold Session.createReceiver
  split
  · exact .refl session.network
  · rename_i medium changed place hcreate
    have held : changed.held = agent.held := by
      rcases Agent.createReceiver_cases hcreate with ⟨-, rfl⟩ | ⟨receiver, -, -, ⟨-, rfl⟩ | ⟨-, rfl⟩⟩ <;> rfl
    have created := calm_replaceAgent h (Agent.logs_of_createReceiver (fun _ _ ↦ trivial) hcreate) held
    simp only
    split <;> exact created

theorem calm_register (session : Session) (id : ReceiverId) (receiver : Receiver) (callback : Callback) :
    session.network.Calm (session.register id receiver callback).1.network :=
  Network.calm_modifyAgent session.network id.agent fun _ ↦ rfl

theorem calm_subscribeAs (session : Session) (agent : Agent) (id : ReceiverId) (receiver : Receiver) :
    session.network.Calm (session.subscribeAs agent id receiver).1.network := by
  have marked : session.network.Calm (session.network.modifyReceiver id fun _ ↦
      (agent.subscribe session.network.medium receiver).2.1) :=
    Network.calm_modifyAgent session.network id.agent fun _ ↦ rfl
  have logs : session.network.medium.Logs (fun _ ↦ True) (agent.subscribe session.network.medium receiver).1 :=
    Agent.logs_subscribe session.network.medium agent receiver trivial
  exact marked.trans (Network.calm_onMedium _ (fun _ ↦ (agent.subscribe session.network.medium receiver).1) logs)

theorem calm_publish (network : Network) (message : Message) (retain : Bool) (times : Nat) :
    network.Calm (Nat.repeat (fun network ↦ network.publish message retain) times network) := by
  induction times with
  | zero => exact .refl network
  | succ times ih => exact ih.trans (Network.calm_onBroker _ _)

/-- A new agent takes its place behind the others, and the agent that had its label is let go of. -/
theorem hushed_labelAgent {medium : Medium} (label : String) (agent : Agent)
    (logs : session.network.medium.Logs (fun _ ↦ True) medium) :
    session.network.Hushed ((session.onNetwork fun network ↦ { network with medium }).labelAgent label agent).network := by
  let joined := Network.wake { session.network with medium, agents := session.network.agents ++ [agent] }
  have woken := Network.calm_wake { session.network with medium, agents := session.network.agents ++ [agent] }
  have retains (index : Nat) (used : session.network.InUse index) : joined.InUse index := by
    refine (Network.inUse_congr woken.usage).2 (used.imp_left fun held ↦ ?_)
    obtain ⟨found, hfound, holds⟩ := (Option.any_eq_true _ _).1 held
    rw [List.getElem?_append_left (List.getElem?_eq_some_iff.1 hfound).1, hfound]
    exact holds
  have joins : session.network.Hushed joined :=
    ⟨logs.trans woken.logs, woken.replies, fun index used ↦ .inl (retains index used)⟩
  unfold Session.labelAgent
  simp only
  split
  · exact joins
  · rename_i old _
    have lets := Network.hushed_letGo (.inl rfl) joined old
    exact ⟨joins.logs.trans lets.logs, joins.replies.trans lets.replies, fun index used ↦
      lets.frees index (retains index used)⟩

theorem hushed_build (session : Session) (label : String) (builder : AgentBuilder) :
    session.network.Hushed (session.build label builder).1.network := by
  have logs : session.network.medium.Logs (fun _ ↦ True)
      (builder.build session.network.medium label session.network.agents.length).1 := by
    unfold AgentBuilder.build
    split
    · exact .refl _
    · split
      · exact Agent.logs_connect _ _ _ trivial (fun _ _ ↦ trivial) fun _ _ _ ↦ trivial
      · exact .refl _
  unfold Session.build
  simp only
  split
  · exact (Network.calm_of_medium logs).hushed
  · exact hushed_labelAgent label _ logs

/-! ## Requests -/

/-- No request runs a callback. -/
theorem hushed_handle (session : Session) (request : Request) :
    session.network.Hushed (session.handle request).1.network := by
  cases request with
  | build request => exact hushed_attempt_bind fun builder _ ↦ hushed_build session request.agent builder
  | connect agent overrides =>
    apply hushed_attempt_bind
    rintro ⟨index, found⟩ hfind
    exact (Network.calm_onAgent (findAgent_eq_ok hfind) (fun medium agent ↦ agent.connect medium overrides)
      (Agent.logs_connect _ _ _ trivial (fun _ _ ↦ trivial) fun _ _ _ ↦ trivial) (Agent.framed_connect _ _ _).held_eq).hushed
  | startConnect agent ticket overrides =>
    apply hushed_attempt_bind
    rintro ⟨index, agent⟩ _
    exact Network.hushed_startConnect session.network index ticket overrides
  | disconnect agent =>
    apply hushed_attempt_bind
    rintro ⟨index, agent⟩ hfind
    exact (Network.calm_onAgent (findAgent_eq_ok hfind)
      (fun medium agent ↦ ((agent.disconnect medium).1, (agent.disconnect medium).2, (.ok () : Except Error Unit)))
      (Agent.logs_disconnect _ _ trivial) (by rw [(Agent.disconnect_eq _ _).2])).hushed
  | dropAgent label background =>
    unfold Session.handle
    simp only
    split
    · exact Network.Calm.hushed (.refl session.network)
    · rename_i index _
      refine Network.hushed_letGo ?_ session.network index
      cases background
      · exact .inr rfl
      · exact .inl rfl
  | publishRaw agent message qos retain =>
    apply hushed_attempt_bind
    intro found _
    apply hushed_attempt_bind
    intro qos _
    exact (calm_publishAs session _ _ _).hushed
  | script label change =>
    let changed (medium : Medium) := medium.setScript label ((medium.script label).changed change)
    exact (Network.calm_onMedium session.network changed (.of_observations rfl)).hushed
  | release transport number => exact Network.hushed_releaseConnect session.network transport number
  | createSender request =>
    apply hushed_attempt_bind
    intro qos _
    apply hushed_attempt_bind
    intro found hfind
    exact (calm_createSender (findAgent_eq_ok hfind) _ _).hushed
  | send sender value =>
    apply hushed_attempt_bind
    intro found _
    apply hushed_attempt_bind
    intro payload _
    exact (calm_publishAs session _ _ _).hushed
  | sendRaw sender payload =>
    apply hushed_attempt_bind
    intro found _
    exact (calm_publishAs session _ _ _).hushed
  | createReceiver request =>
    apply hushed_attempt_bind
    intro qos _
    apply hushed_attempt_bind
    intro found hfind
    exact (calm_createReceiver (findAgent_eq_ok hfind) _ _).hushed
  | subscribe agent receiver =>
    apply hushed_attempt_bind
    rintro ⟨id, receiver⟩ _
    apply hushed_attempt_bind
    rintro ⟨index, agent⟩ _
    exact (calm_subscribeAs session agent id receiver).hushed
  | register receiver callback =>
    apply hushed_attempt_bind
    rintro ⟨id, receiver⟩ _
    exact (calm_register session id receiver callback).hushed
  | next receiver label =>
    apply hushed_attempt_bind
    rintro ⟨id, receiver⟩ _
    let callback : Callback := ⟨true, .reply session.network.replies.length⟩
    let registered := (session.register id receiver callback).1.network
    have waits : registered.Calm { registered with replies := registered.replies ++ [.waiting id] } :=
      ⟨.refl _, List.prefix_append _ _, rfl⟩
    exact ((calm_register session id receiver callback).trans waits).hushed
  | poll label =>
    unfold Session.handle
    simp only
    split
    · exact Network.Calm.hushed (.refl session.network)
    · split <;> exact Network.Calm.hushed (.refl session.network)
  | publish topic payload retain times =>
    apply hushed_attempt_bind
    intro payload _
    exact (calm_publish session.network ⟨topic, payload⟩ retain times).hushed
  | setAvailable available => exact (calm_onBroker session _).hushed
  | requireCredentials credentials => exact (calm_onBroker session _).hushed
  | silenceAll => exact (calm_onBroker session _).hushed
  | rawConnect label clientId options =>
    apply hushed_attempt_bind
    rintro ⟨broker, connection⟩ _
    have connects := calm_onBroker session fun _ ↦ broker
    simp only
    split
    · exact connects.hushed
    · exact (connects.trans (calm_onBroker _ _)).hushed
  | rawSubscribe label pattern qos =>
    apply hushed_attempt_bind
    intro qos _
    apply hushed_attempt_bind
    intro connection _
    exact (calm_request session _).hushed
  | rawPublish label message retain =>
    apply hushed_attempt_bind
    intro connection _
    exact (calm_request session _).hushed
  | rawClose label =>
    apply hushed_attempt_bind
    intro connection _
    exact (calm_onBroker session _).hushed
  | rawReceive label sorted =>
    apply hushed_attempt_bind
    intro connection _
    exact (calm_onBroker session _).hushed
  | rawDrop label =>
    unfold Session.handle
    simp only
    split
    · exact Network.Calm.hushed (.refl session.network)
    · exact (calm_onBroker session _).hushed
  | _ => exact Network.Calm.hushed (.refl session.network)

end Session

end PubSub
