import PubSub.Proofs.Agent.Resubscription
import PubSub.Proofs.Agent.Terms
import PubSub.Proofs.Transport.Calls
/-!
# What a connect comes to

A connect is refused while an attempt is under way or a live connection is held. Otherwise a handle that is held is a
dead one: it is closed, and then the transport is asked once, with the options of the agent and the overrides of this
attempt. Whether the broker takes the connection depends on these options only, and so does the error if it does not.
-/

namespace PubSub

/-- Whether a broker takes a connection with the options. -/
def Broker.Admits (broker : Broker) (options : BrokerOptions) : Prop :=
  broker.available ∧ ∀ wanted ∈ broker.credentials, wanted = ⟨options.username, options.password⟩

theorem Broker.connect_cases (broker : Broker) (options : BrokerOptions) (clientId : ClientId) :
    (broker.Admits options ∧ broker.connect options clientId =
      .ok ({ broker with clients := broker.clients ++ [⟨clientId, .live, [], []⟩] }, broker.clients.length)) ∨
    ¬broker.Admits options ∧ ∃ error, broker.connect options clientId = .error error := by
  unfold connect Admits
  cases available : broker.available with
  | false => exact .inr ⟨by simp, _, rfl⟩
  | true =>
    by_cases known : broker.credentials.all fun wanted ↦ wanted == ⟨options.username, options.password⟩
    · refine .inl ⟨⟨rfl, fun wanted wants ↦ ?_⟩, by simp only [known]; rfl⟩
      rw [Option.mem_def.1 wants] at known
      simpa using known
    · refine .inr ⟨fun ⟨_, same⟩ ↦ known ?_, _, by simp only [known]; rfl⟩
      cases wants : broker.credentials with
      | none => rfl
      | some wanted => simp [same wanted wants]

/-- Without a fault of the transport, it is the broker that answers. -/
theorem Medium.answerConnect_of_faultless {medium : Medium} {transport : Transport}
    (faultless : (medium.scriptOf transport).connect = []) (options : BrokerOptions) (clientId : ClientId) :
    medium.answerConnect transport options clientId =
      ((medium.broker.connect options clientId).mapError .broker).map fun (broker, handle) ↦
        ({ medium with broker }, handle) := by
  rw [answerConnect, faultless]
  cases medium.broker.connect options clientId <;> rfl

namespace Agent

variable {medium after : Medium} {agent later : Agent} {overrides : BrokerOverrides} {result : Except Error Unit}

/-- Whether an attempt is under way or a live connection is held. -/
def IsBusy (medium : Medium) (agent : Agent) : Prop :=
  agent.connection.state = .connecting ∨
    agent.connection.state = .connected ∧ ∃ handle ∈ agent.connection.handle, medium.isLive agent.transport handle

/-- From an agent that is asked to connect to what has become of it, and what is answered. -/
structure ConnectsAs (medium : Medium) (agent : Agent) (options : BrokerOptions) (after : Medium) (later : Agent)
    (result : Except Error Unit) : Prop where
  refused_iff : (∃ state operation, result = .error (.invalidState state operation)) ↔ agent.IsBusy medium
  refused : agent.IsBusy medium →
    after = medium ∧ later = agent ∧ result = .error (.invalidState agent.connection.state "connect")
  /-- A handle that is held was dead, and the broker forgets it. -/
  ended : ¬agent.IsBusy medium → ∀ handle ∈ agent.connection.handle,
    medium.isLive agent.transport handle = false ∧ (later.connection.handle ≠ some handle) ∧
      ∃ client, after.broker.clients[handle]? = some client ∧ client.status = .closed
  /-- The transport is asked to close the handle that is held, and then to connect. Subscriptions follow a success. -/
  offered : ¬agent.IsBusy medium → ∃ subscriptions,
    after.calls = medium.calls ++ (if agent.connection.handle.isSome then agent.transport.recorded .close else []) ++
      agent.transport.recorded (.connect options agent.clientId) ++ subscriptions ∧
    (∀ entry ∈ subscriptions, ∃ pattern qos, entry ∈ agent.transport.recorded (.subscribe pattern qos)) ∧
    (result ≠ .ok () → subscriptions = [])
  ok_iff : ¬agent.IsBusy medium → (result = .ok () ↔ medium.broker.Admits options)
  connected : result = .ok () → later.connection.state = .connected ∧ ∃ handle ∈ later.connection.handle,
    medium.broker.clients.length ≤ handle ∧ ∃ client, after.broker.clients[handle]? = some client ∧
      client.status = .live ∧ client.clientId = agent.clientId
  errored : ¬agent.IsBusy medium → result ≠ .ok () → later.connection.state = .errored ∧
    later.connection.handle = none ∧ ∃ error, medium.broker.connect options agent.clientId = .error error ∧
      result = .error (.connection (options.uri ++ ": " ++ error.message))
  kept : later.terms = agent.terms

theorem isBusy_iff : agent.IsBusy medium ↔ agent.connection.state = .connecting ∨
    agent.connection.isConnected (medium.isLive agent.transport) := by
  unfold IsBusy Connection.isConnected
  simp [Option.any_eq_true]

/-- An attempt that begins asks the transport, after it has closed the handle that is held. -/
theorem beginConnect_of_idle (idle : ¬agent.IsBusy medium) (overrides : BrokerOverrides) :
    agent.beginConnect medium overrides = .ok
      ((match agent.connection.handle with
        | none => medium
        | some handle => (medium.warn.close agent.transport handle).1).requestConnect agent.transport
          (agent.options.merged overrides) agent.clientId,
        { agent with connection := ⟨.connecting, none, agent.connection.generation + 1⟩ },
        ⟨agent.connection.generation + 1, agent.options.merged overrides⟩) := by
  rw [beginConnect, Connection.begin?_of_idle (isBusy_iff.not.1 idle)]
  rfl

/-- What an attempt that begins leaves of the medium. -/
structure Freed (medium : Medium) (agent : Agent) (options : BrokerOptions) (asked : Medium) : Prop where
  faultless : (medium.scriptOf agent.transport).connect = [] → (asked.scriptOf agent.transport).connect = []
  calls : asked.calls = medium.calls ++
    (if agent.connection.handle.isSome then agent.transport.recorded .close else []) ++
      agent.transport.recorded (.connect options agent.clientId)
  length : asked.broker.clients.length = medium.broker.clients.length
  available : asked.broker.available = medium.broker.available
  credentials : asked.broker.credentials = medium.broker.credentials
  closed : ∀ handle ∈ agent.connection.handle, handle < medium.broker.clients.length →
    ∃ client, asked.broker.clients[handle]? = some client ∧ client.status = .closed

theorem freed_of_beginConnect {asked : Medium} {begun : Agent} {pending : Pending}
    (began : agent.beginConnect medium overrides = .ok (asked, begun, pending)) :
    agent.Freed medium (agent.options.merged overrides) asked := by
  have idle : ¬agent.IsBusy medium := fun busy ↦ by
    rw [beginConnect, Connection.begin?_of_busy (isBusy_iff.1 busy)] at began
    cases began
  obtain ⟨attempts, script⟩ := scriptOf_beginConnect began
  have broker := (beginConnect_eq_ok began).2.2
  rw [beginConnect_of_idle idle] at began
  obtain rfl := (Prod.mk.inj (Except.ok.inj began)).1
  refine ⟨fun faultless ↦ by rw [script]; exact faultless, ?_, ?_, ?_, ?_, ?_⟩
  · cases agent.connection.handle <;> simp
  all_goals rw [broker]
  · cases agent.connection.handle <;> simp [Broker.close, Broker.modifyClient]
  · cases agent.connection.handle <;> rfl
  · cases agent.connection.handle <;> rfl
  · intro handle held lt
    rw [Option.mem_def.1 held]
    refine ⟨{ medium.broker.clients[handle] with status := .closed }, ?_, rfl⟩
    simp [Broker.close, Broker.modifyClient, List.getElem?_eq_getElem lt]

theorem Freed.admits_iff {asked : Medium} {options wanted : BrokerOptions} (freed : agent.Freed medium options asked) :
    asked.broker.Admits wanted ↔ medium.broker.Admits wanted := by
  unfold Broker.Admits
  rw [freed.available, freed.credentials]

theorem Freed.connect_eq_error_iff {asked : Medium} {options wanted : BrokerOptions} {clientId : ClientId}
    {error : BrokerError} (freed : agent.Freed medium options asked) :
    asked.broker.connect wanted clientId = .error error ↔ medium.broker.connect wanted clientId = .error error := by
  unfold Broker.connect
  rw [freed.available, freed.credentials]
  split
  · rfl
  · split
    · exact ⟨nofun, nofun⟩
    · rfl

/-- The calls of the subscriptions that follow a connect. -/
theorem subscribes_of_tried {entry : String × Call} {transport : Transport} {receiver : Receiver}
    (h : entry ∈ (medium.tried transport receiver).filterMap Report.call?) :
    ∃ pattern qos, entry ∈ transport.recorded (.subscribe pattern qos) := by
  refine ⟨receiver.pattern.text, receiver.qos, ?_⟩
  unfold Medium.tried at h
  have silent :
      (if medium.grants transport receiver then [] else [Observation.failure]).filterMap Report.call? = [] := by
    split <;> rfl
  rw [List.filterMap_append, silent, List.append_nil] at h
  split at h
  · cases h
  · cases transport with
    | plain => cases h
    | scripted label => exact h

/-- An attempt that has begun ends as the broker decides. -/
theorem connectsAs_completeConnect {asked : Medium} {begun : Agent} {pending : Pending}
    (sound : agent.link.Sound medium.broker) (faultless : (medium.scriptOf agent.transport).connect = [])
    (began : agent.beginConnect medium overrides = .ok (asked, begun, pending)) :
    agent.ConnectsAs medium (agent.options.merged overrides) (begun.completeConnect asked pending).1
      (begun.completeConnect asked pending).2.1 (begun.completeConnect asked pending).2.2 := by
  have idle : ¬agent.IsBusy medium := fun busy ↦ by
    rw [beginConnect, Connection.begin?_of_busy (isBusy_iff.1 busy)] at began
    cases began
  have freed := freed_of_beginConnect began
  obtain ⟨rfl, rfl, -⟩ := beginConnect_eq_ok began
  -- A handle is held in the state `connected` only, so one that is held by an idle agent is dead.
  have dead (handle : ConnectionId) (held : handle ∈ agent.connection.handle) :
      medium.isLive agent.transport handle = false ∧ handle < medium.broker.clients.length := by
    have connected : agent.connection.state = .connected := sound.connected_iff.2 (Option.isSome_iff_exists.2 ⟨_, held⟩)
    obtain ⟨phase, reads⟩ := sound.dispatched handle held
    refine ⟨?_, sound.source_lt _ reads⟩
    by_contra live
    exact idle (.inr ⟨connected, handle, held, by simpa using live⟩)
  have answer := Medium.answerConnect_of_faultless (freed.faultless faultless) (agent.options.merged overrides)
    agent.clientId
  let connecting : Connection := ⟨.connecting, none, agent.connection.generation + 1⟩
  have current : connecting.isCurrent (agent.connection.generation + 1) := by simp [connecting, Connection.isCurrent]
  rcases asked.broker.connect_cases (agent.options.merged overrides) agent.clientId with
    ⟨admits, accepted⟩ | ⟨refuses, error, refused⟩
  · rw [accepted] at answer
    have done : (Agent.completeConnect asked { agent with connection := connecting }
        ⟨agent.connection.generation + 1, agent.options.merged overrides⟩).2.2 = .ok () := by
      simp only [completeConnect, answer, Except.map, Except.mapError, Connection.accept?, current, if_true]
      rfl
    rcases completes : Agent.completeConnect asked { agent with connection := connecting }
        ⟨agent.connection.generation + 1, agent.options.merged overrides⟩ with ⟨after, later, result⟩
    rw [completes] at done
    obtain rfl : result = .ok () := done
    obtain ⟨hlater, hafter⟩ := completeConnect_eq_ok completes
    have connection : later.connection =
        ⟨.connected, some asked.broker.clients.length, agent.connection.generation + 1⟩ :=
      congrArg Agent.connection hlater
    have clients : after.broker.clients =
        asked.broker.clients ++ [Agent.clientRecord { agent with connection := connecting } asked] :=
      congrArg (fun medium ↦ medium.broker.clients) hafter
    have calls : after.calls = asked.calls ++
        (agent.receivers.flatMap (asked.tried agent.transport)).filterMap Report.call? := by
      rw [hafter]
      exact List.filterMap_append
    refine ⟨⟨by simp, fun busy ↦ absurd busy idle⟩, fun busy ↦ absurd busy idle, fun _ handle held ↦ ?_,
      fun _ ↦ ⟨_, by rw [calls, freed.calls], fun entry mem ↦ ?_, fun failed ↦ absurd rfl failed⟩,
      fun _ ↦ ⟨fun _ ↦ freed.admits_iff.1 admits, fun _ ↦ rfl⟩,
      fun _ ↦ ?_, fun _ failed ↦ absurd rfl failed, by rw [hlater]; rfl⟩
    · obtain ⟨gone, lt⟩ := dead handle held
      obtain ⟨client, stands, closed⟩ := freed.closed handle held lt
      refine ⟨gone, ?_, client, ?_, closed⟩
      · rw [connection, freed.length]
        exact fun same ↦ Nat.ne_of_gt lt (Option.some.inj same)
      · rw [clients, List.getElem?_append_left (List.getElem?_eq_some_iff.1 stands).1]
        exact stands
    · obtain ⟨observation, hobservation, shown⟩ := List.mem_filterMap.1 mem
      obtain ⟨receiver, -, hreceiver⟩ := List.mem_flatMap.1 hobservation
      exact subscribes_of_tried (List.mem_filterMap.2 ⟨observation, hreceiver, shown⟩)
    · rw [connection, clients]
      refine ⟨rfl, _, rfl, Nat.le_of_eq freed.length.symm, _, List.getElem?_concat_length, rfl, rfl⟩
  · have done : Agent.completeConnect asked { agent with connection := connecting }
        ⟨agent.connection.generation + 1, agent.options.merged overrides⟩ = (asked.fail,
        { agent with connection := ⟨.errored, none, agent.connection.generation + 1⟩ },
        .error (.connection ((agent.options.merged overrides).uri ++ ": " ++ error.message))) := by
      rw [refused] at answer
      simp only [completeConnect, answer, Except.map, Except.mapError, Connection.reject, current, if_true]
      rfl
    rw [done]
    have unasked := freed.admits_iff.not.1 refuses
    refine ⟨⟨by simp, fun busy ↦ absurd busy idle⟩, fun busy ↦ absurd busy idle,
      fun _ handle held ↦ ⟨(dead handle held).1, by simp, freed.closed handle held (dead handle held).2⟩,
      fun _ ↦ ⟨[], by simp [freed.calls], by simp, fun _ ↦ rfl⟩,
      fun _ ↦ ⟨by simp, fun admits ↦ absurd admits unasked⟩, by simp,
      fun _ _ ↦ ⟨rfl, rfl, error, freed.connect_eq_error_iff.1 refused, rfl⟩, rfl⟩

/-- Every connect comes to this. -/
theorem connectsAs_connect (sound : agent.link.Sound medium.broker)
    (faultless : (medium.scriptOf agent.transport).connect = []) (overrides : BrokerOverrides) :
    agent.ConnectsAs medium (agent.options.merged overrides) (agent.connect medium overrides).1
      (agent.connect medium overrides).2.1 (agent.connect medium overrides).2.2 := by
  by_cases busy : agent.IsBusy medium
  · have refused : agent.connect medium overrides =
        (medium, agent, .error (.invalidState agent.connection.state "connect")) := by
      rw [connect, beginConnect, Connection.begin?_of_busy (isBusy_iff.1 busy)]
      rfl
    rw [refused]
    exact ⟨⟨fun _ ↦ busy, fun _ ↦ ⟨_, _, rfl⟩⟩, fun _ ↦ ⟨rfl, rfl, rfl⟩, fun idle ↦ absurd busy idle,
      fun idle ↦ absurd busy idle, fun idle ↦ absurd busy idle, by simp, fun idle ↦ absurd busy idle, rfl⟩
  · have began := beginConnect_of_idle busy overrides
    simp only [connect, began]
    exact connectsAs_completeConnect sound faultless began

end Agent

end PubSub
