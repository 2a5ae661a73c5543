import PubSub.Proofs.Network.Conduct
import PubSub.Proofs.Session.Order
/-!
# What requests do with agents

Every request does with each agent what agents are known to do. A connect succeeds only where one was requested and is
answered with success, and a channel repeats a name only where a request insists on it.
-/

namespace PubSub

namespace Session

variable {session next : Session} {allowed : Nat → Allowance} {agent : Agent} {index : Nat}

/-- Whether a request is to connect the agent at a place, and is answered with success. -/
def Connects (session : Session) (index : Nat) : Request → Prop
  | .connect agent overrides =>
    session.agents.get? agent = some index ∧ (session.handle (.connect agent overrides)).2.isOk
  | _ => False

/-- Whether a request is to create a channel of the agent at a place even if there is one of the name. -/
def Insists (session : Session) (index : Nat) : Request → Prop
  | .createSender request | .createReceiver request =>
    session.agents.get? request.agent = some index ∧ request.options.ignoreExisting
  | _ => False

/-- What a request may bring about for agents. -/
def allowanceFor (session : Session) (request : Request) (index : Nat) : Allowance :=
  ⟨session.Connects index request, session.Insists index request⟩

/-- From one session to the next, agents do nothing but deeds. -/
abbrev Conducts (allowed : Nat → Allowance) (before after : Session) : Prop :=
  before.network.Conducts allowed after.network

/-! ## Parts of requests -/

theorem conducts_attempt_bind {α : Type} {found : Except Refusal α}
    {next : α → Except Refusal (Session × Except Refusal Answer)}
    (h : ∀ thing, found = .ok thing → session.Conducts allowed (session.attempt (next thing)).1) :
    session.Conducts allowed (session.attempt (found >>= next)).1 := by
  cases found with
  | error refusal => exact .refl session.network
  | ok thing => exact h thing rfl

theorem conducts_onBroker (session : Session) (operation : Broker → Broker) :
    session.Conducts allowed (session.onBroker operation) :=
  .of_agents (Network.agents_wake _)

theorem conducts_onMedium (session : Session) (operation : Medium → Medium) :
    session.Conducts allowed (session.onNetwork fun network ↦ network.onMedium operation) :=
  .of_agents (Network.agents_wake _)

theorem conducts_request (session : Session) (result : Except BrokerError Broker) :
    session.Conducts allowed (session.request result).1 := by
  cases result with
  | error error => exact .refl session.network
  | ok broker => exact conducts_onBroker session _

/-- An agent is exchanged for what creating a channel has made of it. -/
theorem conducts_replaceAgent {changed : Agent} (medium : Medium) (h : session.network.agents[index]? = some agent)
    (deed : Agent.Deed (allowed index) agent changed) : session.network.Conducts allowed
      (Network.wake { session.network with medium, agents := session.network.agents.set index changed }) :=
  .set h (Network.agents_wake _) (.single deed)

theorem conducts_createSender (h : session.network.agents[index]? = some agent) (request : ChannelRequest)
    (options : ChannelOptions) (permitted : options.ignoreExisting → (allowed index).duplicates) :
    session.Conducts allowed (session.createSender index agent request options).1 := by
  unfold Session.createSender
  split
  · exact .refl session.network
  · rename_i medium changed place hcreate
    have created := conducts_replaceAgent medium h (.createSender hcreate permitted)
    simp only
    split <;> exact created

theorem conducts_createReceiver (h : session.network.agents[index]? = some agent) (request : ChannelRequest)
    (options : ChannelOptions) (permitted : options.ignoreExisting → (allowed index).duplicates) :
    session.Conducts allowed (session.createReceiver index agent request options).1 := by
  unfold Session.createReceiver
  split
  · exact .refl session.network
  · rename_i medium changed place hcreate
    have created := conducts_replaceAgent medium h (.createReceiver hcreate permitted)
    simp only
    split <;> exact created

theorem conducts_subscribeAs (session : Session) (agent : Agent) {id : ReceiverId} {receiver : Receiver}
    (h : session.network.receiver? id = some receiver) :
    session.Conducts allowed (session.subscribeAs agent id receiver).1 := by
  have marked : session.network.Conducts allowed (session.network.modifyReceiver id fun _ ↦
      (agent.subscribe session.network.medium receiver).2.1) := by
    apply Network.conducts_modifyReceiver
    intro former hformer
    rw [Option.some.inj (hformer.symm.trans h)]
    exact Agent.asCreated_subscribe session.network.medium agent receiver
  exact marked.trans (.of_agents (Network.agents_wake _))

theorem conducts_register {id : ReceiverId} {receiver : Receiver} (h : session.network.receiver? id = some receiver)
    (callback : Callback) : session.Conducts allowed (session.register id receiver callback).1 := by
  apply Network.conducts_modifyReceiver
  intro former hformer
  rw [Option.some.inj (hformer.symm.trans h)]
  rfl

/-- A new agent takes its place behind the others, and the agent that had its label is let go. -/
theorem conducts_labelAgent {described : Agent} {medium : Medium} (label : String) (blank : described.IsBlank)
    (conduct : ∀ duplicates, Agent.Conduct ⟨True, duplicates⟩ described agent) :
    session.Conducts allowed ((session.onNetwork fun network ↦ { network with medium }).labelAgent label agent) := by
  let joined := Network.wake { session.network with medium, agents := session.network.agents ++ [agent] }
  have agents : joined.agents = session.network.agents ++ [agent] := Network.agents_wake _
  have joins : session.network.Conducts allowed joined := by
    refine ⟨fun place other h ↦ ⟨other, ?_, .refl⟩, fun place later none h ↦ ⟨described, blank, ?_⟩⟩
    · rw [agents, List.getElem?_append_left (List.getElem?_eq_some_iff.1 h).1]
      exact h
    · have le := List.getElem?_eq_none_iff.1 none
      rw [agents, List.getElem?_append_right le] at h
      rw [← List.mem_singleton.1 (List.mem_of_getElem? h)] at conduct
      exact conduct _
  change session.network.Conducts allowed _
  unfold Session.labelAgent
  simp only
  split
  · exact joins
  · exact joins.trans (Network.conducts_letGo joined _ (.inl rfl))

theorem conducts_build (session : Session) (label : String) (builder : AgentBuilder) :
    session.Conducts allowed (session.build label builder).1 := by
  unfold Session.build
  simp only
  rcases builder.build_cases session.network.medium label session.network.agents.length with
    ⟨-, failed⟩ | ⟨described, hdescribed, built⟩
  · cases hresult : (builder.build session.network.medium label session.network.agents.length).2 with
    | error error => exact .of_agents rfl
    | ok built =>
      rw [hresult] at failed
      cases failed
  · have blank := AgentBuilder.isBlank_agent hdescribed
    rcases built with built | ⟨-, built⟩
    · rw [built]
      exact conducts_labelAgent label blank fun _ ↦ .refl
    · rw [built]
      exact conducts_labelAgent label blank fun _ ↦ Agent.conduct_connect _ _ _ fun _ ↦ trivial

theorem conducts_publish (session : Session) (message : Message) (retain : Bool) (times : Nat) :
    session.Conducts allowed (session.onNetwork fun network ↦
      Nat.repeat (fun network ↦ network.publish message retain) times network) := by
  induction times with
  | zero => exact .refl session.network
  | succ times ih => exact ih.trans (.of_agents (Network.agents_wake _))

/-! ## Requests -/

theorem handle_connect {label : String} (h : session.findAgent label = .ok (index, agent))
    (overrides : BrokerOverrides) : session.handle (.connect label overrides) =
      session.onAgent index agent (fun medium agent ↦ agent.connect medium overrides) fun _ ↦ .done := by
  have asked : session.handle (.connect label overrides) =
      session.attempt (session.findAgent label >>= _) := rfl
  rw [asked, h]
  rfl

theorem isOk_onAgent {α : Type} (session : Session) (index : Nat) (agent : Agent)
    (operation : Medium → Agent → Medium × Agent × Except Error α) (answer : α → Answer) :
    (session.onAgent index agent operation answer).2.isOk = (operation session.network.medium agent).2.2.isOk := by
  unfold onAgent Network.onAgent
  simp only
  cases (operation session.network.medium agent).2.2 <;> rfl

theorem conducts_handle (session : Session) (request : Request) :
    session.Conducts (session.allowanceFor request) (session.handle request).1 := by
  cases request with
  | build request => exact conducts_attempt_bind fun builder _ ↦ conducts_build session request.agent builder
  | connect agent overrides =>
    apply conducts_attempt_bind
    rintro ⟨index, found⟩ hfind
    refine Network.conducts_onAgent (findAgent_eq_ok hfind) (fun medium agent ↦ agent.connect medium overrides)
      (Agent.conduct_connect _ _ _ fun done ↦ ⟨get?_of_findAgent hfind, ?_⟩)
    rw [handle_connect hfind, isOk_onAgent]
    exact done
  | startConnect agent ticket overrides =>
    apply conducts_attempt_bind
    rintro ⟨index, agent⟩ _
    exact .of_agents (Network.agents_schedule _ _)
  | disconnect agent =>
    apply conducts_attempt_bind
    rintro ⟨index, agent⟩ hfind
    exact Network.conducts_onAgent (findAgent_eq_ok hfind)
      (fun medium agent ↦ ((agent.disconnect medium).1, (agent.disconnect medium).2, (.ok () : Except Error Unit)))
      (.single (.disconnect session.network.medium))
  | dropAgent label background =>
    unfold Session.handle
    simp only
    split
    · exact .refl session.network
    · rename_i index _
      refine Network.conducts_letGo session.network index ?_
      cases background
      · exact .inr rfl
      · exact .inl rfl
  | publishRaw agent message qos retain =>
    apply conducts_attempt_bind
    intro found _
    apply conducts_attempt_bind
    intro qos _
    exact conducts_onMedium session _
  | script label change => exact conducts_onMedium session _
  | release transport number =>
    refine .of_agents ?_
    simp only [Session.handle, Network.releaseConnect]
    split
    · rfl
    · exact Network.agents_schedule _ _
  | createSender request =>
    apply conducts_attempt_bind
    intro qos _
    apply conducts_attempt_bind
    intro found hfind
    exact conducts_createSender (findAgent_eq_ok hfind) _ _ fun forced ↦ ⟨get?_of_findAgent hfind, forced⟩
  | send sender value =>
    apply conducts_attempt_bind
    intro found _
    apply conducts_attempt_bind
    intro payload _
    exact conducts_onMedium session _
  | sendRaw sender payload =>
    apply conducts_attempt_bind
    intro found _
    exact conducts_onMedium session _
  | createReceiver request =>
    apply conducts_attempt_bind
    intro qos _
    apply conducts_attempt_bind
    intro found hfind
    exact conducts_createReceiver (findAgent_eq_ok hfind) _ _ fun forced ↦ ⟨get?_of_findAgent hfind, forced⟩
  | subscribe agent receiver =>
    apply conducts_attempt_bind
    rintro ⟨id, receiver⟩ hreceiver
    apply conducts_attempt_bind
    rintro ⟨index, agent⟩ hagent
    exact conducts_subscribeAs session agent (findReceiver_eq_ok hreceiver).2
  | register receiver callback =>
    apply conducts_attempt_bind
    rintro ⟨id, receiver⟩ hreceiver
    exact conducts_register (findReceiver_eq_ok hreceiver).2 callback
  | next receiver label =>
    apply conducts_attempt_bind
    rintro ⟨id, receiver⟩ hreceiver
    exact (conducts_register (findReceiver_eq_ok hreceiver).2 _).trans (.of_agents rfl)
  | poll label =>
    unfold Session.handle
    simp only
    split
    · exact .refl session.network
    · split <;> exact .refl session.network
  | publish topic payload retain times =>
    apply conducts_attempt_bind
    intro payload _
    exact conducts_publish session ⟨topic, payload⟩ retain times
  | setAvailable available => exact conducts_onBroker session _
  | requireCredentials credentials => exact conducts_onBroker session _
  | silenceAll => exact conducts_onBroker session _
  | rawConnect label clientId options =>
    apply conducts_attempt_bind
    rintro ⟨broker, connection⟩ _
    have connects : session.Conducts (session.allowanceFor (.rawConnect label clientId options))
        (session.onBroker fun _ ↦ broker) := conducts_onBroker session _
    simp only
    split
    · exact connects
    · exact connects.trans (conducts_onBroker _ _)
  | rawSubscribe label pattern qos =>
    apply conducts_attempt_bind
    intro qos _
    apply conducts_attempt_bind
    intro connection _
    exact conducts_request session _
  | rawPublish label message retain =>
    apply conducts_attempt_bind
    intro connection _
    exact conducts_request session _
  | rawClose label =>
    apply conducts_attempt_bind
    intro connection _
    exact conducts_onBroker session _
  | rawReceive label sorted =>
    apply conducts_attempt_bind
    intro connection _
    exact conducts_onBroker session _
  | rawDrop label =>
    unfold Session.handle
    simp only
    split
    · exact .refl session.network
    · exact conducts_onBroker session _
  | _ => exact .refl session.network

end Session

/-! ## Moves -/

namespace Traffic

/-- Whether a move brings a connect of the agent at a place to success. -/
def Connects (traffic : Traffic) (index : Nat) : Move → Prop
  | .request request => traffic.session.cleared.Connects index request
  | .work => traffic.session.network.Completes index

/-- Whether a move is to create a channel of the agent at a place even if there is one of the name. -/
def Insists (traffic : Traffic) (index : Nat) : Move → Prop
  | .request request => traffic.session.Insists index request
  | .work => False

/-- Whatever move is made, agents do nothing but deeds. -/
theorem conducts_move (traffic : Traffic) (move : Move) : traffic.session.network.Conducts
    (fun index ↦ ⟨traffic.Connects index move, traffic.Insists index move⟩) (traffic.move move).session.network := by
  cases move with
  | request request =>
    have cleared : traffic.session.network.Conducts
        (fun index ↦ ⟨traffic.Connects index (.request request), traffic.Insists index (.request request)⟩)
        traffic.session.cleared.network := .of_agents rfl
    exact cleared.trans (Session.conducts_handle traffic.session.cleared request)
  | work =>
    cases h : traffic.session.network.tick? with
    | none =>
      have same : traffic.move .work = traffic := work_of_settled h
      rw [same]
      exact .refl traffic.session.network
    | some network =>
      have same : (traffic.move .work).session = { traffic.session with network } := session_work h
      rw [same]
      exact Network.conducts_tick? h

/-- Whether a move of a sort is made in a run of moves. -/
def Ever (sort : Traffic → Move → Prop) (traffic : Traffic) (moves : List Move) : Prop :=
  ∃ before move after, moves = before ++ move :: after ∧ sort (traffic.run before) move

theorem Ever.cons {sort : Traffic → Move → Prop} {traffic : Traffic} {moves : List Move} (move : Move)
    (ever : (traffic.move move).Ever sort moves) : traffic.Ever sort (move :: moves) := by
  obtain ⟨before, other, after, rfl, h⟩ := ever
  exact ⟨move :: before, other, after, rfl, h⟩

/-- In every run agents do nothing but deeds. -/
theorem conducts_run (traffic : Traffic) (moves : List Move) : traffic.session.network.Conducts
    (fun index ↦ ⟨traffic.Ever (fun traffic ↦ traffic.Connects index) moves,
      traffic.Ever (fun traffic ↦ traffic.Insists index) moves⟩) (traffic.run moves).session.network := by
  induction moves generalizing traffic with
  | nil => exact .refl traffic.session.network
  | cons move rest ih =>
    have first := traffic.conducts_move move
    have others := ih (traffic.move move)
    refine .trans (first.mono ?_ ?_) (others.mono ?_ ?_)
    · exact fun index connects ↦ ⟨[], move, rest, rfl, connects⟩
    · exact fun index insists ↦ ⟨[], move, rest, rfl, insists⟩
    · intro index (ever : Ever (fun traffic ↦ traffic.Connects index) (traffic.move move) rest)
      exact ever.cons move
    · intro index (ever : Ever (fun traffic ↦ traffic.Insists index) (traffic.move move) rest)
      exact ever.cons move

end Traffic

end PubSub
