import PubSub.Agent.Procedure
import PubSub.Proofs.Broker.Connections
import PubSub.Proofs.Connection
/-!
# What a failure leaves behind

The procedures do what the operations of an agent do. All that can refuse one of them comes before the first thing that
it writes, so that a refusal leaves the agent and what it shares with others as they were. A connect may also fail
later, but is then not refused for its state; and a message that a live connection is there for goes out.
-/

namespace PubSub

namespace Procedure

variable {α β : Type} {medium : Medium} {agent : Agent} {covered : Error → Prop}

/-! ## Procedures and operations -/

/-- What is there after an operation that tells what it has written only if it succeeds. -/
def kept (medium : Medium) (agent : Agent) : Except Error (Medium × Agent × α) → Medium × Agent × Except Error α
  | .ok (medium, agent, value) => (medium, agent, .ok value)
  | .error error => (medium, agent, .error error)

theorem bind_of_ok {procedure : Procedure α} {next : α → Procedure β} {later : Medium} {changed : Agent} {value : α}
    (h : procedure medium agent = (later, changed, .ok value)) :
    (procedure >>= next) medium agent = next value later changed := by
  simp only [bind, h]

theorem bind_of_error {procedure : Procedure α} {next : α → Procedure β} {later : Medium} {changed : Agent}
    {error : Error} (h : procedure medium agent = (later, changed, .error error)) :
    (procedure >>= next) medium agent = (later, changed, .error error) := by
  simp only [bind, h]

theorem bind_assoc {γ : Type} (procedure : Procedure α) (next : α → Procedure β) (further : β → Procedure γ) :
    (procedure >>= next) >>= further = procedure >>= fun value ↦ next value >>= further := by
  funext medium agent
  simp only [bind]
  rcases procedure medium agent with ⟨later, changed, error | value⟩ <;> rfl

@[simp] theorem look_bind (view : Medium → Agent → α) (next : α → Procedure β) :
    (look view >>= next) medium agent = next (view medium agent) medium agent :=
  rfl

theorem demand_bind_eq_kept {result : Except Error α} {next : α → Procedure β}
    {follow : α → Except Error (Medium × Agent × β)}
    (h : ∀ value, next value medium agent = kept medium agent (follow value)) :
    (demand result >>= next) medium agent = kept medium agent (result >>= follow) := by
  cases result with
  | error error => rfl
  | ok value => exact h value

theorem refuseIf_false_bind (error : Error) (next : Unit → Procedure β) :
    (refuseIf false error >>= next) medium agent = next () medium agent :=
  rfl

@[simp] theorem write_bind (change : Agent → Agent) (next : Unit → Procedure β) :
    (write change >>= next) medium agent = next () medium (change agent) :=
  rfl

theorem beginConnect_eq (overrides : BrokerOverrides) :
    beginConnect overrides medium agent = kept medium agent (agent.beginConnect medium overrides) := by
  by_cases busy : agent.connection.state = .connecting ∨ agent.connection.isConnected (medium.isLive agent.transport)
  · have refused : agent.beginConnect medium overrides = .error (.invalidState agent.connection.state "connect") := by
      rw [Agent.beginConnect, Connection.begin?_of_busy busy]
      rfl
    rw [refused, beginConnect, look_bind, look_bind]
    cases connecting : decide (agent.connection.state = .connecting) with
    | true => rfl
    | false =>
      have live : (agent.connection.state = .connected &&
          agent.connection.handle.any (medium.isLive agent.transport)) = true :=
        busy.resolve_left (of_decide_eq_false connecting)
      rw [live]
      rfl
  · have connecting : decide (agent.connection.state = .connecting) = false :=
      decide_eq_false fun h ↦ busy (.inl h)
    have dead : (agent.connection.state = .connected &&
        agent.connection.handle.any (medium.isLive agent.transport)) = false :=
      Bool.eq_false_iff.2 fun live ↦ busy (.inr live)
    rw [Agent.beginConnect, Connection.begin?_of_idle busy, beginConnect, look_bind, look_bind, connecting, dead,
      refuseIf_false_bind, refuseIf_false_bind]
    simp only [writeConnection, write_bind, look_bind]
    cases agent.connection.handle <;> rfl

theorem connect_eq (overrides : BrokerOverrides) :
    connect overrides medium agent = agent.connect medium overrides := by
  unfold Agent.connect
  cases begun : agent.beginConnect medium overrides with
  | error error => exact bind_of_error (by rw [beginConnect_eq, begun]; rfl)
  | ok found =>
    obtain ⟨later, changed, pending⟩ := found
    exact bind_of_ok (by rw [beginConnect_eq, begun]; rfl)

theorem publish_eq (message : Message) (options : PublishOptions) :
    publish message options medium agent =
      ((agent.publish medium message options).1, agent, (agent.publish medium message options).2) := by
  rw [publish, look_bind, Agent.publish]
  cases agent.liveHandle? medium <;> rfl

theorem createSender_eq (name : String) (kind : PayloadKind) (options : ChannelOptions) :
    createSender name kind options medium agent = kept medium agent (agent.createSender medium name kind options) := by
  rw [createSender, Agent.createSender]
  refine demand_bind_eq_kept fun _ ↦ ?_
  rw [getOrInsert, bind_assoc, look_bind, bind_assoc]
  refine demand_bind_eq_kept fun found ↦ ?_
  cases found with
  | some place => rfl
  | none =>
    simp only [bind_assoc, requireConnection, look_bind]
    refine demand_bind_eq_kept fun _ ↦ ?_
    refine demand_bind_eq_kept fun sender ↦ ?_
    rfl

/-- A receiver at the end of the list is marked there as it would be marked before it is entered. -/
theorem subscribeOrDefer_eq (receiver : Receiver) :
    subscribeOrDefer agent.receivers.length receiver medium
        { agent with receivers := agent.receivers ++ [receiver] } =
      let (medium, receiver) :=
        if agent.isConnected medium then
          let (medium, receiver, result) := agent.subscribe medium receiver
          (if result.isOk then medium else medium.fail, receiver)
        else (medium.warn, receiver)
      (medium, { agent with receivers := agent.receivers ++ [receiver] }, .ok ()) := by
  have inPlace (marked : Receiver) :
      (agent.receivers ++ [receiver]).set agent.receivers.length marked = agent.receivers ++ [marked] := by
    rw [List.set_append_right _ _ (Nat.le_refl _), Nat.sub_self]
    rfl
  rw [subscribeOrDefer, look_bind]
  change (if agent.isConnected medium then _ else _ : Procedure Unit) medium _ = _
  cases agent.isConnected medium with
  | false => rfl
  | true =>
    rcases asked : agent.subscribe medium receiver with ⟨later, marked, result⟩
    have subscribed : subscribe agent.receivers.length receiver medium
        { agent with receivers := agent.receivers ++ [receiver] } =
        (later, { agent with receivers := agent.receivers ++ [marked] }, .ok result.isOk) := by
      have asked : Agent.subscribe medium { agent with receivers := agent.receivers ++ [receiver] } receiver =
          (later, marked, result) := asked
      rw [subscribe, asked]
      simp only [inPlace]
    refine (bind_of_ok subscribed).trans ?_
    cases result <;> rfl

theorem createReceiver_eq (name : String) (kind : PayloadKind) (options : ChannelOptions) :
    createReceiver name kind options medium agent =
      kept medium agent (agent.createReceiver medium name kind options) := by
  rw [createReceiver, Agent.createReceiver]
  refine demand_bind_eq_kept fun _ ↦ ?_
  rw [getOrInsert, bind_assoc, look_bind, bind_assoc]
  refine demand_bind_eq_kept fun found ↦ ?_
  cases found with
  | some place => rfl
  | none =>
    simp only [bind_assoc, requireConnection, look_bind]
    refine demand_bind_eq_kept fun _ ↦ ?_
    refine demand_bind_eq_kept fun receiver ↦ ?_
    exact bind_of_ok (subscribeOrDefer_eq receiver)

/-! ## Where procedures fail -/

/-- A failure that is covered comes before anything is written. -/
def FailsFirst (covered : Error → Prop) (procedure : Procedure α) (medium : Medium) (agent : Agent) : Prop :=
  ∀ error, covered error → (procedure medium agent).2.2 = .error error →
    procedure medium agent = (medium, agent, .error error)

/-- No failure is covered, whatever is there before. -/
def NeverFails (covered : Error → Prop) (procedure : Procedure α) : Prop :=
  ∀ medium agent error, covered error → (procedure medium agent).2.2 ≠ .error error

theorem neverFails_look (view : Medium → Agent → α) : NeverFails covered (look view) := by
  rintro _ _ _ - h
  cases h

theorem neverFails_pure (value : α) : NeverFails covered (pure value : Procedure α) := by
  rintro _ _ _ - h
  cases h

theorem neverFails_share (change : Medium → Medium) : NeverFails covered (share change) := by
  rintro _ _ _ - h
  cases h

theorem neverFails_write (change : Agent → Agent) : NeverFails covered (write change) := by
  rintro _ _ _ - h
  cases h

theorem neverFails_subscribe (place : Nat) (receiver : Receiver) : NeverFails covered (subscribe place receiver) := by
  rintro _ _ _ - h
  cases h

theorem NeverFails.bind {procedure : Procedure α} {next : α → Procedure β} (first : NeverFails covered procedure)
    (rest : ∀ value, NeverFails covered (next value)) : NeverFails covered (procedure >>= next) := by
  intro medium agent error hcovered h
  rcases ran : procedure medium agent with ⟨later, changed, found | value⟩
  · rw [bind_of_error ran] at h
    obtain rfl := Except.error.inj h
    exact first medium agent found hcovered (by rw [ran])
  · rw [bind_of_ok ran] at h
    exact rest value later changed error hcovered h

theorem NeverFails.failsFirst {procedure : Procedure α} (never : NeverFails covered procedure) :
    FailsFirst covered procedure medium agent :=
  fun error hcovered h ↦ absurd h (never medium agent error hcovered)

/-- What a demand lets pass has written nothing yet. -/
theorem failsFirst_demand_bind {result : Except Error α} {next : α → Procedure β}
    (rest : ∀ value, result = .ok value → FailsFirst covered (next value) medium agent) :
    FailsFirst covered (demand result >>= next) medium agent := by
  cases result with
  | error error =>
    rintro _ - h
    obtain rfl := Except.error.inj h
    rfl
  | ok value => exact rest value rfl

theorem failsFirst_demand (result : Except Error α) : FailsFirst covered (demand result) medium agent := by
  rintro _ - h
  exact congrArg (medium, agent, ·) h

theorem failsFirst_refuseIf_bind {reason : Bool} {error : Error} {next : Unit → Procedure β}
    (rest : FailsFirst covered (next ()) medium agent) :
    FailsFirst covered (refuseIf reason error >>= next) medium agent :=
  failsFirst_demand_bind fun _ _ ↦ rest

/-- What comes after the last failure that is covered may write. -/
theorem FailsFirst.bind_neverFails {procedure : Procedure α} {next : α → Procedure β}
    (first : FailsFirst covered procedure medium agent) (rest : ∀ value, NeverFails covered (next value)) :
    FailsFirst covered (procedure >>= next) medium agent := by
  intro error hcovered h
  rcases ran : procedure medium agent with ⟨later, changed, found | value⟩
  · rw [bind_of_error ran] at h ⊢
    obtain rfl := Except.error.inj h
    have unchanged := first found hcovered (by rw [ran])
    rw [ran] at unchanged
    cases unchanged
    rfl
  · rw [bind_of_ok ran] at h
    exact absurd h (rest value later changed error hcovered)

/-! ## Where operations fail -/

/-- Both states that refuse a connect are looked for before the attempt is entered. -/
theorem failsFirst_beginConnect (overrides : BrokerOverrides) :
    FailsFirst covered (beginConnect overrides) medium agent := by
  have writes (change : Connection → Connection) : NeverFails covered (writeConnection change) := neverFails_write _
  rw [beginConnect, FailsFirst, look_bind, look_bind]
  refine failsFirst_refuseIf_bind (failsFirst_refuseIf_bind ?_)
  refine NeverFails.failsFirst ?_
  refine (writes _).bind fun _ ↦ (writes _).bind fun _ ↦ ?_
  refine (neverFails_look _).bind fun attempt ↦ (neverFails_look _).bind fun stale ↦ ?_
  refine (writes _).bind fun _ ↦ (neverFails_look _).bind fun transport ↦ ?_
  have request : NeverFails covered (do
      let options ← look fun _ agent ↦ agent.options.merged overrides
      let clientId ← look fun _ agent ↦ agent.clientId
      share fun medium ↦ medium.requestConnect transport options clientId
      return (⟨attempt, options⟩ : Pending)) :=
    (neverFails_look _).bind fun _ ↦ (neverFails_look _).bind fun _ ↦
      (neverFails_share _).bind fun _ ↦ neverFails_pure _
  cases stale with
  | none => exact request
  | some handle => exact (neverFails_share _).bind fun _ ↦ (neverFails_share _).bind fun _ ↦ request

/-- The transport's answer can make a connect fail, but not for the state of the connection. -/
theorem ne_of_completeConnect (medium : Medium) (agent : Agent) (pending : Pending) (state : ConnectionState)
    (operation : String) : (agent.completeConnect medium pending).2.2 ≠ .error (.invalidState state operation) := by
  unfold Agent.completeConnect
  rcases medium.answerConnect agent.transport pending.options agent.clientId with error | ⟨answered, handle⟩
  · intro h
    cases h
  · dsimp only
    cases agent.connection.accept? pending.generation handle <;> intro h <;> cases h

theorem failsFirst_connect (overrides : BrokerOverrides) :
    FailsFirst (Operation.Refuses · (.connect overrides)) (connect overrides) medium agent := by
  refine (failsFirst_beginConnect overrides).bind_neverFails fun pending ↦ ?_
  rintro medium agent _ ⟨state, rfl⟩
  exact ne_of_completeConnect medium agent pending state "connect"

theorem publish_of_isLive {handle : ConnectionId} (live : medium.broker.isLive handle) {transport : Transport}
    (healthy : (medium.scriptOf transport).publish = []) (message : Message) (options : PublishOptions) :
    (medium.publish transport handle message options).2 = .ok () := by
  have script (call : Call) : (medium.record transport call).scriptOf transport = medium.scriptOf transport := by
    cases transport <;> rfl
  have routed : medium.broker.publish handle message options.retain =
      .ok (medium.broker.route message options.retain) :=
    if_pos live
  rw [Medium.publish, script, healthy, Medium.broker_record, routed]
  rfl

/-- A message for which a live connection is there goes out, unless the transport itself lets it fail. -/
theorem failsFirst_publish (healthy : (medium.scriptOf agent.transport).publish = []) (message : Message)
    (options : PublishOptions) : FailsFirst covered (publish message options) medium agent := by
  rw [publish, FailsFirst, look_bind]
  cases found : agent.liveHandle? medium with
  | none => exact failsFirst_demand _
  | some handle =>
    have live := Connection.live_of_liveHandle? found
    rw [Medium.isLive, Bool.and_eq_true] at live
    intro error _ h
    change (medium.publish agent.transport handle message options).2.mapError _ = _ at h
    rw [publish_of_isLive live.1 healthy] at h
    cases h

theorem failsFirst_send (healthy : (medium.scriptOf agent.transport).publish = []) (sender : Sender)
    (payload : Except Error Bytes) : FailsFirst covered (send sender payload) medium agent :=
  failsFirst_demand_bind fun _ _ ↦ failsFirst_publish healthy _ _

/-- Finding or creating a channel fails before the channel is entered, if its creation does. -/
theorem failsFirst_getOrInsert {γ : Type} (register : Register γ) (name : String) (kind : PayloadKind)
    (ignoreExisting : Bool) {create : Procedure γ} (h : FailsFirst covered create medium agent) :
    FailsFirst covered (getOrInsert register name kind ignoreExisting create) medium agent := by
  rw [getOrInsert, FailsFirst, look_bind]
  refine failsFirst_demand_bind fun found _ ↦ ?_
  cases found with
  | some place => exact ((neverFails_share _).bind fun _ ↦ neverFails_pure _).failsFirst
  | none =>
    refine h.bind_neverFails fun channel ↦ ?_
    exact (neverFails_look _).bind fun _ ↦ (neverFails_write _).bind fun _ ↦ neverFails_pure _

theorem failsFirst_create {γ : Type} (name : String) (direction : Direction) (make : Agent → Except Error γ) :
    FailsFirst covered (do
      requireConnection name direction
      let channel ← look fun _ agent ↦ make agent
      demand channel : Procedure γ) medium agent := by
  rw [requireConnection, FailsFirst, bind_assoc, look_bind]
  refine failsFirst_demand_bind fun _ _ ↦ ?_
  rw [FailsFirst, look_bind]
  exact failsFirst_demand _

theorem failsFirst_createSender (name : String) (kind : PayloadKind) (options : ChannelOptions) :
    FailsFirst covered (createSender name kind options) medium agent := by
  refine failsFirst_demand_bind fun _ _ ↦ ?_
  refine (failsFirst_getOrInsert _ _ _ _ (failsFirst_create _ _ _)).bind_neverFails fun registration ↦ ?_
  cases registration <;> exact neverFails_pure _

/-- A new receiver that cannot be subscribed is no failure. -/
theorem neverFails_subscribeOrDefer (place : Nat) (receiver : Receiver) :
    NeverFails covered (subscribeOrDefer place receiver) := by
  refine (neverFails_look _).bind fun connected ↦ ?_
  cases connected with
  | false => exact neverFails_share _
  | true =>
    refine (neverFails_subscribe place receiver).bind fun subscribed ↦ ?_
    cases subscribed with
    | false => exact neverFails_share _
    | true => exact neverFails_pure _

theorem failsFirst_createReceiver (name : String) (kind : PayloadKind) (options : ChannelOptions) :
    FailsFirst covered (createReceiver name kind options) medium agent := by
  refine failsFirst_demand_bind fun _ _ ↦ ?_
  refine (failsFirst_getOrInsert _ _ _ _ (failsFirst_create _ _ _)).bind_neverFails fun registration ↦ ?_
  cases registration with
  | existing place => exact neverFails_pure _
  | created place receiver => exact (neverFails_subscribeOrDefer _ _).bind fun _ ↦ neverFails_pure _

end Procedure

/-- Every refusal of an operation comes before anything is written. -/
theorem Operation.failsFirst (operation : Operation) {medium : Medium} {agent : Agent}
    (healthy : (medium.scriptOf agent.transport).publish = []) :
    operation.procedure.FailsFirst (Refuses · operation) medium agent := by
  cases operation with
  | connect overrides => exact Procedure.failsFirst_connect overrides
  | createSender name kind options => exact Procedure.failsFirst_createSender name kind options
  | createReceiver name kind options => exact Procedure.failsFirst_createReceiver name kind options
  | publish message options => exact Procedure.failsFirst_publish healthy message options
  | send sender payload => exact Procedure.failsFirst_send healthy sender payload

end PubSub
