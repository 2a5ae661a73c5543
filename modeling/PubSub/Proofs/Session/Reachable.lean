import PubSub.Proofs.Network.Steady
import PubSub.Session.Basic
import Mathlib.Data.List.Nodup
/-!
# Reachable sessions

The network of a session that steps have led to is steady. The connections that are foreign to it are those of the raw
clients: a raw client is dropped, or its label given to another, only together with its connection.
-/

namespace PubSub.Session

variable {session next : Session} {label : String}

/-- The sessions that steps lead to. -/
inductive Reachable : Session → Prop
  | fresh : Reachable .fresh
  | step {session : Session} (reachable : Reachable session) (next : Step) : Reachable (session.step next).1

/-- The session after steps, one after the other. -/
def after (session : Session) (steps : List Step) : Session :=
  steps.foldl (fun session next ↦ (session.step next).1) session

theorem Reachable.after (reachable : session.Reachable) (steps : List Step) : (session.after steps).Reachable := by
  induction steps generalizing session with
  | nil => exact reachable
  | cons next rest ih => exact ih (reachable.step next)

/-- Whether the connection belongs to a raw client. -/
def IsRaw (session : Session) (connection : ConnectionId) : Prop :=
  ∃ label, (label, connection) ∈ session.raws

/-- The network is steady, with the raw clients beside its agents. -/
structure Steady (session : Session) : Prop where
  network : session.network.Steady session.IsRaw
  labels : (session.raws.map Prod.fst).Nodup

/-! ## Labels -/

theorem mem_of_get? {α : Type} {labels : Labels α} {thing : α} (h : labels.get? label = some thing) :
    (label, thing) ∈ labels := by
  unfold Labels.get? at h
  rcases Option.map_eq_some_iff.1 h with ⟨entry, hfind, rfl⟩
  have hlabel : entry.1 = label := by simpa using List.find?_some hfind
  exact hlabel ▸ List.mem_of_find?_eq_some hfind

/-- A label that is given once stands for one thing. -/
theorem get?_of_mem {α : Type} {labels : Labels α} {thing : α} (once : (labels.map Prod.fst).Nodup)
    (h : (label, thing) ∈ labels) : labels.get? label = some thing := by
  cases hget : labels.get? label with
  | none =>
    unfold Labels.get? at hget
    have hnone := List.find?_eq_none.1 (Option.map_eq_none_iff.1 hget) (label, thing) h
    simp at hnone
  | some other =>
    have same := List.inj_on_of_nodup_map once (mem_of_get? hget) h rfl
    rw [(Prod.mk.inj same).2]

theorem mem_remove_iff {α : Type} {labels : Labels α} {entry : String × α} :
    entry ∈ labels.remove label ↔ entry ∈ labels ∧ entry.1 ≠ label := by
  simp [Labels.remove]

theorem nodup_remove {α : Type} {labels : Labels α} (once : (labels.map Prod.fst).Nodup) (label : String) :
    ((labels.remove label).map Prod.fst).Nodup :=
  once.sublist (List.filter_sublist.map Prod.fst)

theorem nodup_put {α : Type} {labels : Labels α} (once : (labels.map Prod.fst).Nodup) (label : String) (thing : α) :
    ((labels.put label thing).map Prod.fst).Nodup := by
  have hnew : label ∉ (labels.remove label).map Prod.fst := by simp [Labels.remove]
  unfold Labels.put
  rw [List.map_append, List.map_singleton]
  exact (nodup_remove once label).append (List.nodup_singleton label) (by simpa using hnew)

/-- An agent has what is seen of it in its place. -/
theorem view_of_seen {index : Nat} {agent : Agent} (h : session.network.agents[index]? = some agent) {α : Type}
    (view : Agent → α) (value : α) (seen : session.network.agents[index]?.map view = some value) :
    view agent = value := by
  rw [h] at seen
  exact Option.some.inj seen

theorem findAgent_eq_ok {index : Nat} {agent : Agent} (h : session.findAgent label = .ok (index, agent)) :
    session.network.agents[index]? = some agent := by
  unfold findAgent at h
  split at h
  · cases h
  · split at h
    · cases h
    · rename_i place _ found hfound
      have same := Except.ok.inj h
      rw [Prod.mk.injEq] at same
      rw [← same.1, ← same.2, hfound]

@[simp]
theorem broker_onBroker (session : Session) (operation : Broker → Broker) :
    (session.onBroker operation).network.medium.broker = operation session.network.medium.broker :=
  congrArg Medium.broker (Network.medium_onMedium session.network _)

/-! ## Requests -/

namespace Steady

/-- What leaves the raw clients alone needs only keep the network steady. -/
theorem of_network (steady : session.Steady) (raws : next.raws = session.raws)
    (network : next.network.Steady session.IsRaw) : next.Steady where
  network := by
    have same : next.IsRaw = session.IsRaw := by
      funext connection
      unfold IsRaw
      rw [raws]
    exact same ▸ network
  labels := raws ▸ steady.labels

theorem onNetwork (steady : session.Steady) {operation : Network → Network}
    (network : (operation session.network).Steady session.IsRaw) : (session.onNetwork operation).Steady :=
  steady.of_network rfl network

theorem onBroker (steady : session.Steady) {operation : Broker → Broker}
    (fades : session.network.medium.broker.Fades (operation session.network.medium.broker)) :
    (session.onBroker operation).Steady :=
  steady.onNetwork (steady.network.onBroker fades)

theorem attempt_bind {α : Type} (steady : session.Steady) {found : Except Refusal α}
    {next : α → Except Refusal (Session × Except Refusal Answer)}
    (h : ∀ thing, found = .ok thing → (session.attempt (next thing)).1.Steady) :
    (session.attempt (found >>= next)).1.Steady := by
  cases found with
  | error refusal => exact steady
  | ok thing => exact h thing rfl

/-- The medium may be exchanged for one where connections have faded. -/
theorem onMedium (steady : session.Steady) (medium : Medium)
    (fades : session.network.medium.broker.Fades medium.broker) :
    (session.onNetwork fun network ↦ network.onMedium fun _ ↦ medium).Steady := by
  have network : (session.network.onMedium fun _ ↦ medium).Steady session.IsRaw := by
    apply steady.network.onMedium
    exact fades
  exact steady.of_network rfl network

theorem publishAs (steady : session.Steady) (agent : Agent) (message : Message) (options : PublishOptions) :
    (session.publishAs agent message options).1.Steady :=
  steady.onMedium (agent.publish session.network.medium message options).1
    (Agent.fades_publish session.network.medium agent message options)

theorem modifyReceiver (steady : session.Steady) (id : ReceiverId) (change : Receiver → Receiver) :
    (session.onNetwork fun network ↦ network.modifyReceiver id change).Steady :=
  steady.of_network rfl (steady.network.modifyReceiver id change)

theorem subscribeAs (steady : session.Steady) (agent : Agent) (id : ReceiverId) (receiver : Receiver) :
    (session.subscribeAs agent id receiver).1.Steady :=
  (steady.modifyReceiver id fun _ ↦ (agent.subscribe session.network.medium receiver).2.1).onMedium
    (agent.subscribe session.network.medium receiver).1
    (Agent.fades_subscribe session.network.medium agent receiver)

theorem onAgent {α : Type} {index : Nat} {agent : Agent} (steady : session.Steady)
    (h : session.network.agents[index]? = some agent)
    (operation : Medium → Agent → Medium × Agent × Except Error α) (answer : α → Answer)
    (turn : agent.link.Turn (fun _ ↦ False) session.network.medium.broker
      (operation session.network.medium agent).1.broker (operation session.network.medium agent).2.1.link) :
    (session.onAgent index agent operation answer).1.Steady :=
  steady.of_network rfl (steady.network.sound.onAgent h turn)

theorem request (steady : session.Steady) {result : Except BrokerError Broker}
    (fades : ∀ broker, result = .ok broker → session.network.medium.broker.Fades broker) :
    (session.request result).1.Steady := by
  cases result with
  | error error => exact steady
  | ok broker => exact steady.onBroker (fades broker rfl)

theorem register (steady : session.Steady) (id : ReceiverId) (receiver : Receiver) (callback : Callback) :
    (session.register id receiver callback).1.Steady :=
  steady.modifyReceiver id fun _ ↦ receiver.register callback

/-- An agent may be exchanged for one with the same link while connections fade. -/
theorem replaceAgent {index : Nat} {agent changed : Agent} {medium : Medium} (steady : session.Steady)
    (h : session.network.agents[index]? = some agent) (link : changed.link = agent.link)
    (fades : session.network.medium.broker.Fades medium.broker) :
    (Network.wake { session.network with
      medium, agents := session.network.agents.set index changed }).Steady session.IsRaw := by
  have links : ({ session.network with
      medium, agents := session.network.agents.set index changed } : Network).links = session.network.links := by
    rw [← Network.links_set_same h link]
    exact Network.links_setAt session.network index changed
  exact (steady.network.sound.fades links fades fun _ _ closes ↦ closes).wake

theorem createSender {index : Nat} {agent : Agent} (steady : session.Steady)
    (h : session.network.agents[index]? = some agent) (request : ChannelRequest) (options : ChannelOptions) :
    (session.createSender index agent request options).1.Steady := by
  unfold Session.createSender
  split
  · exact steady
  · rename_i medium changed place hcreate
    have hparts := Agent.createSender_eq_ok hcreate
    have network := steady.replaceAgent h hparts.1 hparts.2
    simp only
    split <;> exact steady.of_network rfl network

theorem createReceiver {index : Nat} {agent : Agent} (steady : session.Steady)
    (h : session.network.agents[index]? = some agent) (request : ChannelRequest) (options : ChannelOptions) :
    (session.createReceiver index agent request options).1.Steady := by
  unfold Session.createReceiver
  split
  · exact steady
  · rename_i medium changed place hcreate
    have hparts := Agent.createReceiver_eq_ok hcreate
    have network := steady.replaceAgent h hparts.1 hparts.2
    simp only
    split <;> exact steady.of_network rfl network

theorem dropAgent (steady : session.Steady) (index : Nat) (background : Bool) :
    (session.network.letGo index (if background then Network.closeLater else Network.forget)).Steady session.IsRaw := by
  apply steady.network.letGo
  cases background
  · exact .inr rfl
  · exact .inl rfl

/-- A new agent takes its place behind the others, and the agent that had its label is let go. -/
theorem labelAgent {agent : Agent} {medium : Medium} (steady : session.Steady) (label : String)
    (turn : Link.Turn (fun _ ↦ False) session.network.medium.broker ⟨.initial, none⟩ medium.broker agent.link) :
    ((session.onNetwork fun network ↦ { network with medium }).labelAgent label agent).Steady := by
  have joined := (steady.network.sound.join turn).wake
  refine steady.of_network rfl ?_
  unfold Session.labelAgent
  simp only
  split
  · exact joined
  · rename_i old _
    exact joined.letGo old (.inl rfl)

theorem build (steady : session.Steady) (label : String) (builder : AgentBuilder) :
    (session.build label builder).1.Steady := by
  unfold Session.build
  simp only
  split
  · rename_i error hresult
    have hbroker := AgentBuilder.broker_of_build_error (Prod.ext rfl hresult)
    exact steady.of_network rfl (steady.network.still rfl hbroker fun _ h ↦ h)
  · rename_i agent hresult
    exact steady.labelAgent label (AgentBuilder.turn_of_build (Prod.ext rfl hresult))

theorem publish (steady : session.Steady) (message : Message) (retain : Bool) (times : Nat) :
    (session.onNetwork fun network ↦
      Nat.repeat (fun network ↦ network.publish message retain) times network).Steady := by
  refine steady.of_network rfl ?_
  induction times with
  | zero => exact steady.network
  | succ times ih => exact ih.onBroker (Broker.fades_route _ message retain)

/-! ## Raw clients -/

/-- The connection of a raw client is closed when its label is given up. -/
theorem isRaw_remove (steady : session.Steady) {connection : ConnectionId} (raw : session.IsRaw connection)
    (other : session.raws.get? label ≠ some connection) : ∃ name, (name, connection) ∈ session.raws.remove label := by
  rcases raw with ⟨name, hmem⟩
  refine ⟨name, mem_remove_iff.2 ⟨hmem, ?_⟩⟩
  intro same
  exact other (get?_of_mem steady.labels (same ▸ hmem))

theorem rawDrop (steady : session.Steady) {connection : ConnectionId} (h : session.raws.get? label = some connection) :
    Steady { session.onBroker fun broker ↦ broker.close connection with raws := session.raws.remove label } where
  network := by
    have closed : (session.onBroker fun broker ↦ broker.close connection).Steady :=
      steady.onBroker (Broker.fades_close _ connection)
    apply closed.network.narrow
    · intro other ⟨name, hmem⟩
      exact ⟨name, (mem_remove_iff.1 hmem).1⟩
    · intro other raw live
      apply steady.isRaw_remove raw
      intro same
      rw [h, Option.some.injEq] at same
      rw [broker_onBroker, same] at live
      exact absurd rfl (Broker.isLive_close_iff.1 live).2
  labels := nodup_remove steady.labels label

/-- A raw client takes its place once the one that had its label is closed. -/
theorem putRaw {connection : ConnectionId} (steady : session.Steady)
    (network : next.network.Steady fun other ↦ session.IsRaw other ∨ other = connection)
    (raws : next.raws = session.raws.put label connection)
    (closed : ∀ old, session.raws.get? label = some old → ¬next.network.medium.broker.isLive old) :
    next.Steady where
  network := by
    apply network.narrow
    · intro other ⟨name, hmem⟩
      rw [raws] at hmem
      rcases List.mem_append.1 hmem with hmem | hmem
      · exact .inl ⟨name, (mem_remove_iff.1 hmem).1⟩
      · exact .inr (Prod.mk.inj (List.mem_singleton.1 hmem)).2
    · rintro other (raw | rfl) live
      · rcases steady.isRaw_remove raw fun h ↦ closed other h live with ⟨name, hmem⟩
        exact ⟨name, raws ▸ List.mem_append_left _ hmem⟩
      · exact ⟨label, raws ▸ List.mem_append_right _ (List.mem_singleton_self _)⟩
  labels := raws ▸ nodup_put steady.labels label connection

theorem rawConnect (steady : session.Steady) (label clientId : String) (options : BrokerOptions) :
    (session.handle (.rawConnect label clientId options)).1.Steady := by
  apply steady.attempt_bind
  intro ⟨broker, connection⟩ h
  have accepts : session.network.medium.broker.Accepts broker connection := by
    cases hconnect : session.network.medium.broker.connect options (.given clientId) with
    | error error =>
      rw [hconnect] at h
      cases h
    | ok found =>
      rw [hconnect] at h
      exact Broker.accepts_of_connect (hconnect.trans (congrArg Except.ok (Except.ok.inj h)))
  have accepted : Network.Steady (fun other ↦ session.IsRaw other ∨ other = connection)
      (session.onBroker fun _ ↦ broker).network := by
    have sound : Network.Sound (fun other ↦ session.IsRaw other ∨ other = connection)
        { session.network with medium := session.network.medium.onBroker fun _ ↦ broker } :=
      steady.network.sound.accept accepts rfl fun _ closes ↦ closes
    exact sound.wake
  cases hget : session.raws.get? label with
  | none =>
    have hget' : (session.onBroker fun _ ↦ broker).raws.get? label = none := hget
    simp only [hget']
    exact steady.putRaw accepted rfl (by simp [hget])
  | some old =>
    have hget' : (session.onBroker fun _ ↦ broker).raws.get? label = some old := hget
    simp only [hget']
    have closed : Network.Steady (fun other ↦ session.IsRaw other ∨ other = connection)
        ((session.onBroker fun _ ↦ broker).onBroker fun broker ↦ broker.close old).network := by
      apply accepted.onBroker
      exact Broker.fades_close _ old
    refine steady.putRaw closed rfl ?_
    intro other hother live
    have same : old = other := Option.some.inj (hget.symm.trans hother)
    have live' : (((session.onBroker fun _ ↦ broker).onBroker fun broker ↦ broker.close old).network.medium.broker).isLive
        other := live
    rw [broker_onBroker, same] at live'
    exact absurd rfl (Broker.isLive_close_iff.1 live').2

theorem handle (steady : session.Steady) (request : Request) : (session.handle request).1.Steady := by
  cases request with
  | build request => exact steady.attempt_bind fun builder _ ↦ steady.build request.agent builder
  | connect agent overrides =>
    apply steady.attempt_bind
    intro ⟨index, agent⟩ hfind
    have turn := Agent.turn_connect (steady.network.sound.sound_link (findAgent_eq_ok hfind)) overrides
    exact steady.onAgent (findAgent_eq_ok hfind) (fun medium agent ↦ agent.connect medium overrides) (fun _ ↦ .done) turn
  | startConnect agent ticket overrides =>
    apply steady.attempt_bind
    intro ⟨index, agent⟩ _
    exact steady.of_network rfl (steady.network.startConnect index ticket overrides)
  | disconnect agent =>
    apply steady.attempt_bind
    intro ⟨index, agent⟩ hfind
    have turn := Agent.turn_disconnect (steady.network.sound.sound_link (findAgent_eq_ok hfind))
    exact steady.onAgent (findAgent_eq_ok hfind)
      (fun medium agent ↦ ((agent.disconnect medium).1, (agent.disconnect medium).2, pure ())) (fun _ ↦ .done) turn
  | dropAgent label background =>
    unfold Session.handle
    simp only
    split
    · exact steady
    · rename_i index _
      exact steady.of_network rfl (steady.dropAgent index background)
  | publishRaw agent message qos retain =>
    apply steady.attempt_bind
    intro found _
    apply steady.attempt_bind
    intro qos _
    exact steady.publishAs _ _ _
  | script label change =>
    let changed := (session.network.medium.script label).changed change
    exact steady.onMedium (session.network.medium.setScript label changed) (.refl _)
  | release transport number => exact steady.of_network rfl (steady.network.releaseConnect transport number)
  | createSender request =>
    apply steady.attempt_bind
    intro qos _
    apply steady.attempt_bind
    intro found hfind
    exact steady.createSender (findAgent_eq_ok hfind) _ _
  | send sender value =>
    apply steady.attempt_bind
    intro found _
    apply steady.attempt_bind
    intro payload _
    exact steady.publishAs _ _ _
  | sendRaw sender payload =>
    apply steady.attempt_bind
    intro found _
    exact steady.publishAs _ _ _
  | createReceiver request =>
    apply steady.attempt_bind
    intro qos _
    apply steady.attempt_bind
    intro found hfind
    exact steady.createReceiver (findAgent_eq_ok hfind) _ _
  | subscribe agent receiver =>
    apply steady.attempt_bind
    intro found _
    apply steady.attempt_bind
    intro agent _
    exact steady.subscribeAs _ _ _
  | register receiver callback =>
    apply steady.attempt_bind
    intro found _
    exact steady.register _ _ _
  | dropReceiver receiver => exact steady.of_network rfl steady.network
  | next receiver label =>
    apply steady.attempt_bind
    intro found _
    have registered := steady.register found.1 found.2 ⟨true, .reply session.network.replies.length⟩
    exact registered.of_network rfl (registered.network.still rfl rfl fun _ h ↦ h)
  | poll label =>
    unfold Session.handle
    simp only
    split
    · exact steady
    · split
      · exact steady
      · exact steady.of_network rfl steady.network
  | dropNext label => exact steady.of_network rfl steady.network
  | publish topic payload retain times =>
    apply steady.attempt_bind
    intro payload _
    exact steady.publish ⟨topic, payload⟩ retain times
  | setAvailable available => exact steady.onBroker (.of_clients rfl)
  | requireCredentials credentials => exact steady.onBroker (.of_clients rfl)
  | silenceAll => exact steady.onBroker session.network.medium.broker.fades_silenceAll
  | rawConnect label clientId options => exact steady.rawConnect label clientId options
  | rawSubscribe label pattern qos =>
    apply steady.attempt_bind
    intro qos _
    apply steady.attempt_bind
    intro connection _
    exact steady.request fun _ ↦ Broker.fades_of_subscribe
  | rawPublish label message retain =>
    apply steady.attempt_bind
    intro connection _
    exact steady.request fun _ ↦ Broker.fades_of_publish
  | rawClose label =>
    apply steady.attempt_bind
    intro connection _
    exact steady.onBroker (Broker.fades_close _ _)
  | rawReceive label sorted =>
    apply steady.attempt_bind
    intro connection _
    exact steady.onBroker (Broker.fades_emptyInbox _ _)
  | rawDrop label =>
    unfold Session.handle
    simp only
    split
    · exact steady
    · rename_i connection hget
      exact steady.rawDrop hget
  | _ => exact steady

theorem step (steady : session.Steady) (next : Step) : (session.step next).1.Steady := by
  have cleared : Steady (session.onNetwork fun network ↦
      { network with medium := { network.medium with observations := [] } }) :=
    steady.of_network rfl (steady.network.still rfl rfl fun _ h ↦ h)
  have handled := cleared.handle next.request
  unfold Session.step
  simp only
  split
  · exact handled.of_network rfl (handled.network.run settleLimit)
  · exact handled

end Steady

theorem steady_fresh : fresh.Steady where
  network := Network.steady_fresh.narrow (by simp [IsRaw, fresh]) (by simp)
  labels := List.nodup_nil

theorem Reachable.steady (reachable : session.Reachable) : session.Steady := by
  induction reachable with
  | fresh => exact steady_fresh
  | step _ next ih => exact ih.step next

end PubSub.Session
