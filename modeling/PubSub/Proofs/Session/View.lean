import PubSub.Proofs.Network.View
import PubSub.Proofs.Session.Reachable
import PubSub.Session.Traffic
/-!
# The view of a session

Every request that a session carries out brings changes to the view of its network. The connections that no agent has
opened are those of the raw clients, of which there is a new one at most.
-/

namespace PubSub.Session

open View (Change Changes Licence)

variable {session next : Session} {licence : Licence} {agent : Agent} {index : Nat}

/-- Whether a request is to subscribe a receiver on the connection of an agent that is not the receiver's own. -/
def Lends (session : Session) : Request → Prop
  | .subscribe agent receiver => ∃ index id, session.agents.get? agent = some index ∧
      session.receivers.get? receiver = some id ∧ id.agent ≠ index
  | _ => False

/-- Whether a request is to disconnect the agent at a place. -/
def Disconnects (session : Session) (index : Nat) : Request → Prop
  | .disconnect agent => session.agents.get? agent = some index
  | _ => False

/-- What a request may bring about. -/
def licenceFor (session : Session) (request : Request) : Licence where
  foreign := session.IsRaw
  lends := session.Lends request
  disconnects index := session.Disconnects index request

/-- From one session to the next: the view changes, and raw clients come with new connections only. -/
structure Proceeds (licence : Licence) (before after : Session) : Prop where
  changes : Changes licence before.network.view after.network.view
  raws : ∀ connection, after.IsRaw connection →
    before.IsRaw connection ∨ before.network.medium.broker.clients.length ≤ connection

theorem Steady.cleared (steady : session.Steady) : session.cleared.Steady :=
  steady.of_network rfl (steady.network.still rfl rfl fun _ h ↦ h)

theorem get?_of_findAgent {label : String} (h : session.findAgent label = .ok (index, agent)) :
    session.agents.get? label = some index := by
  unfold findAgent at h
  split at h
  · cases h
  · rename_i place hget
    split at h
    · cases h
    · rw [hget, (Prod.mk.inj (Except.ok.inj h)).1]

theorem findReceiver_eq_ok {label : String} {id : ReceiverId} {receiver : Receiver}
    (h : session.findReceiver label = .ok (id, receiver)) :
    session.receivers.get? label = some id ∧ session.network.receiver? id = some receiver := by
  unfold findReceiver at h
  split at h
  · cases h
  · rename_i place hget
    split at h
    · cases h
    · rename_i found hfound
      obtain ⟨rfl, rfl⟩ := Prod.mk.inj (Except.ok.inj h)
      exact ⟨hget, hfound⟩

namespace Proceeds

/-! ## Parts of requests -/

theorem of_network (raws : next.raws = session.raws)
    (changes : Changes licence session.network.view next.network.view) : session.Proceeds licence next where
  changes := changes
  raws connection raw := .inl (by unfold IsRaw; rw [← raws]; exact raw)

theorem refl (session : Session) : session.Proceeds licence session :=
  of_network rfl .refl

theorem attempt_bind {α : Type} {found : Except Refusal α}
    {next : α → Except Refusal (Session × Except Refusal Answer)}
    (h : ∀ thing, found = .ok thing → session.Proceeds licence (session.attempt (next thing)).1) :
    session.Proceeds licence (session.attempt (found >>= next)).1 := by
  cases found with
  | error refusal => exact refl session
  | ok thing => exact h thing rfl

theorem onBroker {operation : Broker → Broker}
    (grows : session.network.medium.broker.Grows licence.foreign (operation session.network.medium.broker)) :
    session.Proceeds licence (session.onBroker operation) := by
  refine of_network rfl ?_
  have view := session.network.view_onMedium fun medium ↦ medium.onBroker operation
  exact view ▸ .single (.outside grows)

theorem onMedium {medium : Medium} (grows : session.network.medium.broker.Grows licence.foreign medium.broker) :
    session.Proceeds licence (session.onNetwork fun network ↦ network.onMedium fun _ ↦ medium) := by
  refine of_network rfl ?_
  have view := session.network.view_onMedium fun _ ↦ medium
  exact view ▸ .single (.outside grows)

theorem publishAs (session : Session) (agent : Agent) (message : Message) (options : PublishOptions) :
    session.Proceeds licence (session.publishAs agent message options).1 :=
  onMedium (Agent.grows_publish session.network.medium agent message options)

theorem request {result : Except BrokerError Broker}
    (grows : ∀ broker, result = .ok broker → session.network.medium.broker.Grows licence.foreign broker) :
    session.Proceeds licence (session.request result).1 := by
  cases result with
  | error error => exact refl session
  | ok broker => exact onBroker (grows broker rfl)

theorem onAgent {α : Type} (h : session.network.agents[index]? = some agent)
    (operation : Medium → Agent → Medium × Agent × Except Error α) (answer : α → Answer)
    (advances : agent.standing.Advances session.network.medium.broker
      (operation session.network.medium agent).1.broker (operation session.network.medium agent).2.1.standing)
    (kept : ¬licence.disconnects index → agent.dispatcher.isSome →
      (operation session.network.medium agent).2.1.dispatcher.isSome) :
    session.Proceeds licence (session.onAgent index agent operation answer).1 :=
  of_network rfl (Network.changes_setAgent h advances kept)

/-- An agent may be exchanged for one with the same link. -/
theorem replaceAgent {changed : Agent} {medium : Medium} (h : session.network.agents[index]? = some agent)
    (advances : agent.standing.Advances session.network.medium.broker medium.broker changed.standing)
    (link : changed.link = agent.link) :
    Changes licence session.network.view
      (Network.wake { session.network with medium, agents := session.network.agents.set index changed }).view := by
  have standing : session.network.view.agents[index]? = some agent.standing := by simp [Network.view, h]
  have view : Network.view { session.network with medium, agents := session.network.agents.set index changed } =
      { session.network.view with
        broker := medium.broker, agents := session.network.view.agents.set index changed.standing } := by
    simp [Network.view, List.map_set]
  rw [Network.view_wake, view]
  refine .single (.act standing advances fun _ reads ↦ ?_)
  rw [show changed.standing.dispatcher = agent.standing.dispatcher from congrArg Link.dispatcher link]
  exact reads

theorem createSender (h : session.network.agents[index]? = some agent) (request : ChannelRequest)
    (options : ChannelOptions) : session.Proceeds licence (session.createSender index agent request options).1 := by
  unfold Session.createSender
  split
  · exact refl session
  · rename_i medium changed place hcreate
    have changes : Changes licence session.network.view _ :=
      replaceAgent h (Agent.advances_createSender hcreate) (Agent.createSender_eq_ok hcreate).1
    simp only
    split <;> exact of_network rfl changes

theorem createReceiver (h : session.network.agents[index]? = some agent) (request : ChannelRequest)
    (options : ChannelOptions) : session.Proceeds licence (session.createReceiver index agent request options).1 := by
  unfold Session.createReceiver
  split
  · exact refl session
  · rename_i medium changed place hcreate
    have changes : Changes licence session.network.view _ :=
      replaceAgent h (Agent.advances_createReceiver hcreate) (Agent.createReceiver_eq_ok hcreate).1
    simp only
    split <;> exact of_network rfl changes

/-- A receiver is exchanged for one with another mark, after the broker was asked for what it wants. -/
theorem subscribeAs {id : ReceiverId} {receiver : Receiver} (h : session.network.agents[index]? = some agent)
    (hreceiver : session.network.receiver? id = some receiver) (lends : id.agent ≠ index → licence.lends) :
    session.Proceeds licence (session.subscribeAs agent id receiver).1 := by
  refine of_network rfl ?_
  obtain ⟨owner, howner, hplace⟩ := Network.receiver?_eq_some_iff.1 hreceiver
  let medium := (agent.subscribe session.network.medium receiver).1
  let changed := (agent.subscribe session.network.medium receiver).2.1
  let tunings := owner.standing.tunings.set id.index changed.tuning
  have view : ((session.network.modifyReceiver id fun _ ↦ changed).onMedium fun _ ↦ medium).view =
      { session.network.view with
        broker := medium.broker
        agents := session.network.view.agents.set id.agent { owner.standing with tunings } } := by
    have receivers : (owner.receivers.modify id.index fun _ ↦ changed).map Receiver.tuning = tunings := by
      rw [← List.set_eq_modify, List.map_set]
      rfl
    rw [Network.view_onMedium, Network.modifyReceiver, Network.modifyAgent_eq howner]
    simp only [Network.view, List.map_set, Agent.standing, Agent.link, receivers]
  have standing : session.network.view.agents[id.agent]? = some owner.standing := by simp [Network.view, howner]
  have grows := Agent.grows_subscribe session.network.medium agent receiver
  change Changes licence session.network.view _
  unfold Session.subscribeAs
  simp only
  rw [view]
  by_cases own : id.agent = index
  · obtain rfl : owner = agent := by
      rw [own, h] at howner
      exact (Option.some.inj howner).symm
    exact .single (.act standing (Agent.advances_resubscribe hplace session.network.medium) fun _ reads ↦ reads)
  · exact .single (.lend (lends own) standing rfl rfl (grows.mono fun _ _ ↦ trivial))

theorem register {id : ReceiverId} {receiver : Receiver} (h : session.network.receiver? id = some receiver)
    (callback : Callback) : session.Proceeds licence (session.register id receiver callback).1 := by
  refine of_network rfl (.of_eq (Network.view_modifyReceiver ?_))
  intro former hformer
  have same : receiver = former := Option.some.inj (h.symm.trans hformer)
  rw [← same]
  rfl

/-- A new agent takes its place behind the others, and the agent that had its label is let go. -/
theorem labelAgent {described : Agent} {medium : Medium} (label : String) (link : described.link = ⟨.initial, none⟩)
    (off : described.receivers = [])
    (advances : described.standing.Advances session.network.medium.broker medium.broker agent.standing) :
    session.Proceeds licence
      ((session.onNetwork fun network ↦ { network with medium }).labelAgent label agent) := by
  let joined := Network.wake { session.network with medium, agents := session.network.agents ++ [agent] }
  have joins : Changes licence session.network.view joined.view := by
    have off' : described.standing.tunings = [] := by simp [Agent.standing, off]
    have first : Change licence session.network.view _ := .join link off'
    have view : joined.view = { session.network.view with
        broker := medium.broker
        agents := (session.network.view.agents ++ [described.standing]).set session.network.view.agents.length
          agent.standing } := by
      rw [Network.view_wake]
      simp [Network.view]
    rw [view]
    refine .tail (.single first) (.act (by simp) advances ?_)
    simp [Agent.standing, link]
  refine of_network rfl ?_
  unfold Session.labelAgent
  simp only
  split
  · exact joins
  · rename_i old _
    exact joins.trans (Network.changes_letGo joined old (.inl rfl))

theorem build (session : Session) (label : String) (builder : AgentBuilder) :
    session.Proceeds licence (session.build label builder).1 := by
  unfold Session.build
  simp only
  rcases builder.build_cases session.network.medium label session.network.agents.length with
    ⟨broker, failed⟩ | ⟨described, hdescribed, built⟩
  · cases hresult : (builder.build session.network.medium label session.network.agents.length).2 with
    | error error => exact of_network rfl (.of_eq (congrArg (fun broker ↦ View.mk broker _ _) broker))
    | ok built =>
      rw [hresult] at failed
      cases failed
  · have link := AgentBuilder.link_agent hdescribed
    have receivers : described.receivers = [] := by
      obtain ⟨identity, transport, -, -, rfl⟩ := AgentBuilder.agent_eq_ok hdescribed
      rfl
    rcases built with built | ⟨-, built⟩
    · rw [built]
      exact labelAgent label link receivers (.refl _ _)
    · rw [built]
      exact labelAgent label link receivers (Agent.advances_connect _ _ _)

theorem publish (session : Session) (message : Message) (retain : Bool) (times : Nat) :
    session.Proceeds licence (session.onNetwork fun network ↦
      Nat.repeat (fun network ↦ network.publish message retain) times network) := by
  refine of_network rfl ?_
  induction times with
  | zero => exact .refl
  | succ times ih =>
    have routes := Network.grows_publish
      (Nat.repeat (fun network ↦ network.publish message retain) times session.network) message retain
    exact ih.trans routes.changes

/-! ## Raw clients -/

theorem isRaw_of_remove {label : String} {connection : ConnectionId}
    (raw : ∃ name, (name, connection) ∈ session.raws.remove label) : session.IsRaw connection :=
  raw.imp fun _ h ↦ (mem_remove_iff.1 h).1

theorem rawConnect (session : Session) (label clientId : String) (options : BrokerOptions)
    (foreign : licence.foreign = session.IsRaw) :
    session.Proceeds licence (session.handle (.rawConnect label clientId options)).1 := by
  apply attempt_bind
  intro ⟨broker, connection⟩ h
  have accepted : session.network.medium.broker.connect options (.given clientId) = .ok (broker, connection) := by
    cases hconnect : session.network.medium.broker.connect options (.given clientId) with
    | error error =>
      rw [hconnect] at h
      cases h
    | ok found =>
      rw [hconnect] at h
      exact congrArg Except.ok (Except.ok.inj h)
  obtain ⟨grows, rfl, -⟩ := Broker.grows_of_connect accepted
  have connects : session.Proceeds licence (session.onBroker fun _ ↦ broker) := onBroker grows
  refine ⟨?_, ?_⟩
  · cases hget : session.raws.get? label with
    | none =>
      have hget' : (session.onBroker fun _ ↦ broker).raws.get? label = none := hget
      simp only [hget']
      exact connects.changes
    | some old =>
      have hget' : (session.onBroker fun _ ↦ broker).raws.get? label = some old := hget
      simp only [hget']
      have closes : (session.onBroker fun _ ↦ broker).Proceeds licence
          ((session.onBroker fun _ ↦ broker).onBroker fun broker ↦ broker.close old) := by
        refine onBroker ((Broker.grows_close _ old).mono ?_)
        rintro _ rfl
        rw [foreign]
        exact ⟨label, mem_of_get? hget⟩
      exact connects.changes.trans closes.changes
  · intro connection ⟨name, hmem⟩
    have raws : (name, connection) ∈ session.raws.put label session.network.medium.broker.clients.length := by
      cases hget : session.raws.get? label with
      | none =>
        have hget' : (session.onBroker fun _ ↦ broker).raws.get? label = none := hget
        simp only [hget'] at hmem
        exact hmem
      | some old =>
        have hget' : (session.onBroker fun _ ↦ broker).raws.get? label = some old := hget
        simp only [hget'] at hmem
        exact hmem
    rcases List.mem_append.1 raws with hmem | hmem
    · exact .inl (isRaw_of_remove ⟨name, hmem⟩)
    · exact .inr (Nat.le_of_eq (Prod.mk.inj (List.mem_singleton.1 hmem)).2.symm)

theorem handle (session : Session) (request : Request) :
    session.Proceeds (session.licenceFor request) (session.handle request).1 := by
  have raw {label : String} {connection : ConnectionId} (h : session.findRaw label = .ok connection) :
      session.IsRaw connection := by
    unfold findRaw at h
    split at h
    · cases h
    · rename_i hget
      exact ⟨label, Except.ok.inj h ▸ mem_of_get? hget⟩
  cases request with
  | build request => exact attempt_bind fun builder _ ↦ build session request.agent builder
  | connect agent overrides =>
    apply attempt_bind
    intro ⟨index, agent⟩ hfind
    exact onAgent (findAgent_eq_ok hfind) (fun medium agent ↦ agent.connect medium overrides) (fun _ ↦ .done)
      (Agent.advances_connect session.network.medium agent overrides)
      fun _ ↦ Agent.isSome_dispatcher_connect session.network.medium agent overrides
  | startConnect agent ticket overrides =>
    apply attempt_bind
    intro ⟨index, agent⟩ _
    exact of_network rfl (.of_eq (Network.view_schedule rfl _))
  | disconnect agent =>
    apply attempt_bind
    intro ⟨index, agent⟩ hfind
    exact onAgent (findAgent_eq_ok hfind)
      (fun medium agent ↦ ((agent.disconnect medium).1, (agent.disconnect medium).2, pure ())) (fun _ ↦ .done)
      (Agent.advances_disconnect session.network.medium agent) fun other ↦ absurd (get?_of_findAgent hfind) other
  | dropAgent label background =>
    unfold Session.handle
    simp only
    split
    · exact refl session
    · rename_i index _
      refine of_network rfl (Network.changes_letGo session.network index ?_)
      cases background
      · exact .inr rfl
      · exact .inl rfl
  | publishRaw agent message qos retain =>
    apply attempt_bind
    intro found _
    apply attempt_bind
    intro qos _
    exact publishAs session _ _ _
  | script label change => exact onMedium (.refl _)
  | release transport number =>
    exact of_network rfl (.of_eq (session.network.view_releaseConnect transport number))
  | createSender request =>
    apply attempt_bind
    intro qos _
    apply attempt_bind
    intro found hfind
    exact createSender (findAgent_eq_ok hfind) _ _
  | send sender value =>
    apply attempt_bind
    intro found _
    apply attempt_bind
    intro payload _
    exact publishAs session _ _ _
  | sendRaw sender payload =>
    apply attempt_bind
    intro found _
    exact publishAs session _ _ _
  | createReceiver request =>
    apply attempt_bind
    intro qos _
    apply attempt_bind
    intro found hfind
    exact createReceiver (findAgent_eq_ok hfind) _ _
  | subscribe agent receiver =>
    apply attempt_bind
    intro ⟨id, receiver⟩ hreceiver
    apply attempt_bind
    intro ⟨index, agent⟩ hagent
    have found := findReceiver_eq_ok hreceiver
    exact subscribeAs (findAgent_eq_ok hagent) found.2 fun foreign ↦
      ⟨index, id, get?_of_findAgent hagent, found.1, foreign⟩
  | register receiver callback =>
    apply attempt_bind
    intro ⟨id, receiver⟩ hreceiver
    exact register (findReceiver_eq_ok hreceiver).2 callback
  | dropReceiver receiver => exact of_network rfl .refl
  | next receiver label =>
    apply attempt_bind
    intro ⟨id, receiver⟩ hreceiver
    exact of_network rfl (register (findReceiver_eq_ok hreceiver).2 _).changes
  | poll label =>
    unfold Session.handle
    simp only
    split
    · exact refl session
    · split
      · exact refl session
      · exact of_network rfl .refl
  | dropNext label => exact of_network rfl .refl
  | publish topic payload retain times =>
    apply attempt_bind
    intro payload _
    exact publish session ⟨topic, payload⟩ retain times
  | setAvailable available => exact onBroker (.of_clients rfl rfl)
  | requireCredentials credentials => exact onBroker (.of_clients rfl rfl)
  | silenceAll => exact onBroker (Broker.grows_silenceAll _)
  | rawConnect label clientId options => exact rawConnect session label clientId options rfl
  | rawSubscribe label pattern qos =>
    apply attempt_bind
    intro qos _
    apply attempt_bind
    intro connection hraw
    exact request fun broker h ↦ (Broker.grows_of_subscribe h).mono fun _ same ↦ same ▸ raw hraw
  | rawPublish label message retain =>
    apply attempt_bind
    intro connection _
    exact request fun broker h ↦ Broker.eq_route_of_publish h ▸ Broker.grows_route _ message retain
  | rawClose label =>
    apply attempt_bind
    intro connection hraw
    exact onBroker ((Broker.grows_close _ connection).mono fun _ same ↦ same ▸ raw hraw)
  | rawReceive label sorted =>
    apply attempt_bind
    intro connection hraw
    have view := session.network.view_onMedium fun medium ↦ medium.onBroker fun broker ↦ broker.emptyInbox connection
    exact of_network rfl (view ▸ .single (.empty (raw hraw)))
  | rawDrop label =>
    unfold Session.handle
    simp only
    split
    · exact refl session
    · rename_i connection hget
      have closes : session.Proceeds (session.licenceFor (.rawDrop label))
          (session.onBroker fun broker ↦ broker.close connection) := by
        refine onBroker ((Broker.grows_close _ connection).mono ?_)
        rintro _ rfl
        exact ⟨label, mem_of_get? hget⟩
      exact ⟨closes.changes, fun _ raw ↦ .inl (isRaw_of_remove raw)⟩
  | _ => exact refl session

end Proceeds

end PubSub.Session
