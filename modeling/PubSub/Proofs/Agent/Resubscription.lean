import PubSub.Proofs.Agent.Operations
import PubSub.Proofs.Broker.Subscriptions
/-!
# Subscribing again

What an agent does with its receivers once a connect has its connection. Each receiver is tried once, in the order of
registration, whatever becomes of the others, and is marked with what came of it. Of several receivers with one pattern
the broker lists the last.
-/

namespace PubSub

/-! ## One attempt -/

namespace Medium

/-- What a transport that keeps a record shows of a call. -/
def recorded (transport : Transport) (call : Call) : List Observation :=
  match transport with
  | .plain => []
  | .scripted label => [.call label call]

/-- Whether a subscription of the receiver is granted on a live connection: the transport does not take the connection
for dead, and no fault strikes. -/
def grants (medium : Medium) (transport : Transport) (receiver : Receiver) : Bool :=
  !(medium.scriptOf transport).dead && (medium.subscribeFault transport receiver.pattern.text).isOk

/-- What is observed of an attempt to subscribe the receiver on a live connection: the call, unless the transport takes
the connection for dead, and then a failure unless it is granted. -/
def tried (medium : Medium) (transport : Transport) (receiver : Receiver) : List Observation :=
  (if (medium.scriptOf transport).dead then [] else recorded transport (.subscribe receiver.pattern.text receiver.qos)) ++
    if medium.grants transport receiver then [] else [.failure]

theorem record_eq (medium : Medium) (transport : Transport) (call : Call) :
    medium.record transport call =
      { medium with observations := medium.observations ++ recorded transport call } := by
  cases transport with
  | plain => simp [record, recorded]
  | scripted label => rfl

theorem grants_plain (medium : Medium) (receiver : Receiver) : medium.grants .plain receiver = true :=
  rfl

end Medium

/-- The client once it has subscribed the pattern of a receiver, with the messages retained for it. -/
def Client.joined (retained : List Message) (client : Client) (receiver : Receiver) : Client :=
  let listed := client.withFilter receiver.pattern.text receiver.qos
  { listed with
    inbox := listed.inbox ++ retained.filter fun message ↦ Filter.accepts receiver.pattern.text message.topic }

/-- The medium after an attempt to subscribe a receiver on a live connection. -/
def Medium.attempted (transport : Transport) (handle : ConnectionId) (medium : Medium) (receiver : Receiver) :
    Medium where
  broker :=
    if medium.grants transport receiver then
      medium.broker.modifyClient handle fun client ↦ client.joined medium.broker.retained receiver
    else medium.broker
  scripts := medium.scripts
  observations := medium.observations ++ medium.tried transport receiver

namespace Agent

variable {agent : Agent} {medium : Medium} {handle : ConnectionId}

theorem liveHandle?_of_connected (state : agent.connection.state = .connected)
    (held : agent.connection.handle = some handle) (live : medium.broker.isLive handle) :
    agent.liveHandle? medium = if (medium.scriptOf agent.transport).dead then none else some handle := by
  have reported : medium.isLive agent.transport handle = !(medium.scriptOf agent.transport).dead := by
    rw [Medium.isLive, live, Bool.true_and]
  simp only [liveHandle?, Connection.liveHandle?, Connection.isConnected, state, held, Option.any_some, reported,
    decide_true, Bool.true_and]
  cases (medium.scriptOf agent.transport).dead <;> rfl

/-- An attempt on a live connection is noted, and marks the receiver with what came of it. -/
theorem subscribe_eq (state : agent.connection.state = .connected) (held : agent.connection.handle = some handle)
    (live : medium.broker.isLive handle) (receiver : Receiver) :
    (if (agent.subscribe medium receiver).2.2.isOk then (agent.subscribe medium receiver).1
      else (agent.subscribe medium receiver).1.fail) = medium.attempted agent.transport handle receiver ∧
    (agent.subscribe medium receiver).2.1 =
      { receiver with subscribed := medium.grants agent.transport receiver } := by
  have current := liveHandle?_of_connected state held live
  cases dead : (medium.scriptOf agent.transport).dead with
  | true =>
    rw [dead, if_pos rfl] at current
    have denied : medium.grants agent.transport receiver = false := by rw [Medium.grants, dead]; rfl
    simp only [subscribe, current, Medium.attempted, Medium.tried, dead, denied]
    exact ⟨rfl, trivial⟩
  | false =>
    rw [dead, if_neg (by decide)] at current
    have script (observations : List Observation) :
        ({ medium with observations } : Medium).subscribeFault agent.transport receiver.pattern.text =
          medium.subscribeFault agent.transport receiver.pattern.text := by
      cases agent.transport <;> rfl
    have granted : medium.grants agent.transport receiver =
        (medium.subscribeFault agent.transport receiver.pattern.text).isOk := by rw [Medium.grants, dead]; rfl
    simp only [subscribe, current, Medium.attempted, Medium.tried, dead, granted, Medium.subscribe, Medium.record_eq,
      script]
    cases fault : medium.subscribeFault agent.transport receiver.pattern.text with
    | error error =>
      refine ⟨?_, rfl⟩
      simp [bind, Except.bind, Medium.settleRequest, Except.mapError, Medium.fail, Medium.observe, Except.isOk,
        Except.toBool]
    | ok =>
      have joins : medium.broker.subscribe handle receiver.pattern.text receiver.qos =
          .ok (medium.broker.modifyClient handle fun client ↦ client.joined medium.broker.retained receiver) := by
        rw [Broker.subscribe, if_pos live]
        rfl
      simp only [joins, bind, Except.bind, Medium.settleRequest, Except.mapError]
      refine ⟨?_, rfl⟩
      simp [Except.isOk, Except.toBool, pure, Except.pure]

/-- What an attempt changes is only the record of the connection that it is made on. -/
theorem isLive_attempted (transport : Transport) (medium : Medium) (receiver : Receiver) :
    (medium.attempted transport handle receiver).broker.isLive handle = medium.broker.isLive handle := by
  unfold Medium.attempted
  dsimp only
  split
  · rw [Broker.isLive_modifyClient]
    exact fun client ↦ rfl
  · rfl

/-- Subscribing each receiver is one attempt after the other. What is granted does not depend on what was tried
before. -/
theorem subscribeEach_eq (state : agent.connection.state = .connected) (held : agent.connection.handle = some handle)
    (live : medium.broker.isLive handle) (receivers : List Receiver) :
    agent.subscribeEach medium receivers = (receivers.foldl (Medium.attempted agent.transport handle) medium,
      receivers.map fun receiver ↦ { receiver with subscribed := medium.grants agent.transport receiver }) := by
  induction receivers generalizing medium with
  | nil => rfl
  | cons receiver rest ih =>
    have one := subscribe_eq state held live receiver
    have same : (medium.attempted agent.transport handle receiver).grants agent.transport =
        medium.grants agent.transport := by
      cases agent.transport <;> rfl
    have others : agent.subscribeEach (medium.attempted agent.transport handle receiver) rest = _ :=
      ih (by rwa [isLive_attempted])
    rw [same] at others
    simp only [subscribeEach, one.1, one.2, others, List.foldl_cons, List.map_cons]

end Agent

namespace Medium

variable {medium : Medium} {transport : Transport} {handle : ConnectionId}

/-- What attempts come to, one after the other: each is observed, and the record of the connection gets what is
granted. -/
theorem foldl_attempted (receivers : List Receiver) :
    receivers.foldl (attempted transport handle) medium =
      { broker := medium.broker.modifyClient handle fun client ↦
          (receivers.filter (medium.grants transport)).foldl (Client.joined medium.broker.retained) client
        scripts := medium.scripts
        observations := medium.observations ++ receivers.flatMap (medium.tried transport) } := by
  induction receivers generalizing medium with
  | nil =>
    have same : (fun client : Client ↦ client) = id := rfl
    simp [Broker.modifyClient, same]
  | cons receiver rest ih =>
    have grants : (medium.attempted transport handle receiver).grants transport = medium.grants transport := by
      cases transport <;> rfl
    have tried : (medium.attempted transport handle receiver).tried transport = medium.tried transport := by
      cases transport <;> rfl
    have retained : (medium.attempted transport handle receiver).broker.retained = medium.broker.retained := by
      unfold attempted
      dsimp only
      split <;> rfl
    rw [List.foldl_cons, ih, grants, tried, retained]
    cases granted : medium.grants transport receiver with
    | true =>
      simp [attempted, granted, Broker.modifyClient, List.modify_modify_eq, Function.comp_def]
    | false => simp [attempted, granted]

end Medium

/-! ## What the broker lists -/

/-- The subscription of a receiver. -/
def Receiver.subscription (receiver : Receiver) : Subscription :=
  ⟨receiver.pattern.text, receiver.qos⟩

theorem Client.foldl_joined (retained : List Message) (client : Client) (receivers : List Receiver)
    {former : List Subscription} (listed : client.subscriptions = Broker.lastOfEach former) :
    receivers.foldl (joined retained) client =
      { client with
        subscriptions := Broker.lastOfEach (former ++ receivers.map Receiver.subscription)
        inbox := client.inbox ++ receivers.flatMap fun receiver ↦
          retained.filter fun message ↦ Filter.accepts receiver.pattern.text message.topic } := by
  induction receivers generalizing client former with
  | nil => simp [listed.symm]
  | cons receiver rest ih =>
    have grown : (client.joined retained receiver).subscriptions =
        Broker.lastOfEach (former ++ [receiver.subscription]) := by
      rw [Broker.lastOfEach_concat, ← listed]
      rfl
    rw [List.foldl_cons, ih _ grown]
    simp [joined, withFilter, List.append_assoc]

/-! ## Asking for a connection -/

namespace Medium

theorem script_setScript (medium : Medium) (label : String) (script : Script) :
    (medium.setScript label script).script label = script := by
  have others : (medium.scripts.filter fun entry ↦ entry.1 != label).find? (fun entry ↦ entry.1 == label) = none := by
    simp [List.find?_eq_none]
  simp [Medium.script, setScript, List.find?_append, others]

/-- Asking a transport to connect counts the connect and changes no fault. -/
theorem scriptOf_requestConnect (medium : Medium) (transport : Transport) (options : BrokerOptions)
    (clientId : ClientId) : ∃ attempts,
      (medium.requestConnect transport options clientId).scriptOf transport =
        { medium.scriptOf transport with attempts } := by
  cases transport with
  | plain => exact ⟨_, rfl⟩
  | scripted label => exact ⟨_, script_setScript _ label _⟩

theorem grants_of_attempts {before after : Medium} {transport : Transport} {attempts : Nat}
    (same : after.scriptOf transport = { before.scriptOf transport with attempts }) :
    after.grants transport = before.grants transport ∧ after.tried transport = before.tried transport := by
  have grants : after.grants transport = before.grants transport := by
    funext receiver
    simp only [Medium.grants, subscribeFault, same]
  refine ⟨grants, ?_⟩
  funext receiver
  simp only [tried, grants, same]

end Medium

namespace Agent

variable {agent begun later : Agent} {medium before asked after : Medium} {pending : Pending}

/-- Whether a transport has been asked to connect the agent: already, or now that the agent has given up the handle that
it held. -/
def Asked (agent : Agent) (before asked : Medium) : Prop :=
  asked = before ∨ ∃ overrides begun pending, agent.beginConnect before overrides = .ok (asked, begun, pending)

theorem scriptOf_beginConnect {overrides : BrokerOverrides}
    (began : agent.beginConnect before overrides = .ok (asked, begun, pending)) :
    ∃ attempts, asked.scriptOf agent.transport = { before.scriptOf agent.transport with attempts } := by
  unfold beginConnect at began
  cases hbegin : agent.connection.begin? (before.isLive agent.transport) with
  | error error => simp [hbegin, bind, Except.bind] at began
  | ok found =>
    simp only [hbegin, bind, Except.bind] at began
    rw [← (Prod.mk.inj (Except.ok.inj began)).1]
    split
    · exact before.scriptOf_requestConnect _ _ _
    · rename_i handle _
      obtain ⟨attempts, same⟩ := ((before.warn.close agent.transport handle).1).scriptOf_requestConnect
        agent.transport (agent.options.merged overrides) agent.clientId
      have closed : (before.warn.close agent.transport handle).1.scriptOf agent.transport =
          before.scriptOf agent.transport := by
        cases agent.transport <;> rfl
      exact ⟨attempts, by rw [same, closed]⟩

/-- What asking leaves as it is. -/
theorem Asked.keeps (asks : agent.Asked before asked) :
    asked.grants agent.transport = before.grants agent.transport ∧
    asked.tried agent.transport = before.tried agent.transport ∧
    asked.broker.clients.length = before.broker.clients.length ∧ asked.broker.retained = before.broker.retained := by
  rcases asks with rfl | ⟨overrides, begun, pending, began⟩
  · exact ⟨rfl, rfl, rfl, rfl⟩
  · obtain ⟨attempts, same⟩ := scriptOf_beginConnect began
    have kept := Medium.grants_of_attempts same
    refine ⟨kept.1, kept.2, ?_⟩
    rw [(beginConnect_eq_ok began).2.2]
    cases agent.connection.handle with
    | none => exact ⟨rfl, rfl⟩
    | some handle => exact ⟨by simp [Broker.close, Broker.modifyClient], rfl⟩

/-! ## Connecting -/

/-- What the broker records of the connection of an agent that has just connected. -/
def clientRecord (agent : Agent) (medium : Medium) : Client :=
  let granted := agent.receivers.filter (medium.grants agent.transport)
  { clientId := agent.clientId
    status := .live
    subscriptions := Broker.lastOfEach (granted.map Receiver.subscription)
    inbox := granted.flatMap fun receiver ↦
      medium.broker.retained.filter fun message ↦ Filter.accepts receiver.pattern.text message.topic }

/-- A connect that has its answer succeeds if the answer is a connection and comes in time, whatever becomes of the
receivers. -/
theorem isOk_completeConnect (medium : Medium) (agent : Agent) (pending : Pending) :
    (agent.completeConnect medium pending).2.2.isOk =
      ((medium.answerConnect agent.transport pending.options agent.clientId).isOk &&
        agent.connection.isCurrent pending.generation) := by
  unfold completeConnect
  cases medium.answerConnect agent.transport pending.options agent.clientId with
  | error error => rfl
  | ok answer =>
    cases current : agent.connection.isCurrent pending.generation with
    | true => simp only [Connection.accept?, current, if_true]; rfl
    | false => simp only [Connection.accept?, current]; rfl

/-- A transport that answers with a connection has had the broker accept it. -/
theorem answerConnect_eq_ok {transport : Transport} {options : BrokerOptions} {clientId : ClientId}
    {handle : ConnectionId} (h : medium.answerConnect transport options clientId = .ok (after, handle)) :
    handle = medium.broker.clients.length ∧
      after = { medium with
        broker := { medium.broker with clients := medium.broker.clients ++ [⟨clientId, .live, [], []⟩] } } := by
  unfold Medium.answerConnect at h
  cases hfault : Script.fault (medium.scriptOf transport).connect with
  | error error => simp [hfault, bind, Except.bind] at h
  | ok =>
    simp only [hfault, bind, Except.bind, Broker.connect] at h
    split at h
    · rename_i broker connection connects
      obtain ⟨rfl, rfl⟩ := Prod.mk.inj (Except.ok.inj h)
      split at connects
      · cases connects
      · split at connects
        · obtain ⟨rfl, rfl⟩ := Prod.mk.inj (Except.ok.inj connects)
          exact ⟨rfl, rfl⟩
        · cases connects
    · cases h

/-- What a connect that succeeds leaves of an agent and of the medium. -/
theorem completeConnect_eq_ok (done : agent.completeConnect medium pending = (after, later, .ok ())) :
    later = { agent with
      connection := { agent.connection with state := .connected, handle := some medium.broker.clients.length }
      dispatcher := some ⟨medium.broker.clients.length, .busy⟩
      receivers := agent.receivers.map fun receiver ↦
        { receiver with subscribed := medium.grants agent.transport receiver } } ∧
    after =
      { broker := { medium.broker with clients := medium.broker.clients ++ [agent.clientRecord medium] }
        scripts := medium.scripts
        observations := medium.observations ++ agent.receivers.flatMap (medium.tried agent.transport) } := by
  rcases completeConnect_cases medium agent pending with
    ⟨-, -, failed⟩ | ⟨answered, handle, answer, ⟨-, -, -, late⟩ | ⟨-, taken⟩⟩
  · rw [done] at failed
    cases failed
  · rw [done] at late
    cases late
  · obtain ⟨place, accepted⟩ := answerConnect_eq_ok answer
    have live : answered.broker.isLive handle := by rw [accepted, place]; simp [Broker.isLive]
    let started : Agent := { agent with
      connection := { agent.connection with state := .connected, handle := some handle }
      dispatcher := some ⟨handle, .busy⟩ }
    have grants : answered.grants agent.transport = medium.grants agent.transport := by
      rw [accepted]; cases agent.transport <;> rfl
    have tried : answered.tried agent.transport = medium.tried agent.transport := by
      rw [accepted]; cases agent.transport <;> rfl
    have each : started.subscribeEach answered agent.receivers = (_, _) :=
      subscribeEach_eq rfl rfl live agent.receivers
    have result := done.symm.trans taken
    rw [each, Medium.foldl_attempted, tried, grants] at result
    obtain ⟨rfl, rest⟩ := Prod.mk.inj result
    refine ⟨?_, ?_⟩
    · rw [(Prod.mk.inj rest).1, ← place]
    · have added (change : Client → Client) (client : Client) :
          (medium.broker.clients ++ [client]).modify medium.broker.clients.length change =
            medium.broker.clients ++ [change client] := by
        rw [List.modify_eq_set_getElem?]
        simp
      have joined := Client.foldl_joined medium.broker.retained ⟨agent.clientId, .live, [], []⟩
        (agent.receivers.filter (medium.grants agent.transport)) (show [] = Broker.lastOfEach [] from rfl)
      rw [place, accepted]
      simp only [Broker.modifyClient, added, joined]
      rfl

/-- From an agent that connects to what has become of it: each receiver is tried once after the transport was asked, and
nothing else happens but that the end of the connect may be noted. -/
structure Resubscribes (agent : Agent) (before : Medium) (later : Agent) (after : Medium) : Prop where
  marks : later.receivers = agent.receivers.map fun receiver ↦
    { receiver with subscribed := before.grants agent.transport receiver }
  observed : ∃ asked notes, agent.Asked before asked ∧
    (∀ note ∈ notes, ∃ ticket, note = .completed ticket (.ok ())) ∧
    after =
      { broker := { asked.broker with clients := asked.broker.clients ++ [agent.clientRecord before] }
        scripts := asked.scripts
        observations := asked.observations ++ agent.receivers.flatMap (before.tried agent.transport) ++ notes }
  connected : agent.held →
    later.connection.state = .connected ∧ later.connection.handle = some before.broker.clients.length
  /-- Where no attempt fails, the new connection has the patterns of all receivers, of equal ones the last. -/
  filters : (∀ receiver ∈ agent.receivers, before.grants agent.transport receiver) →
    after.broker.filtersOf before.broker.clients.length =
      (agent.receivers.map fun receiver ↦ receiver.pattern.text).dedup

theorem filters_clientRecord (granted : ∀ receiver ∈ agent.receivers, medium.grants agent.transport receiver) :
    (agent.clientRecord medium).filters = (agent.receivers.map fun receiver ↦ receiver.pattern.text).dedup := by
  have all : agent.receivers.filter (medium.grants agent.transport) = agent.receivers :=
    List.filter_eq_self.2 granted
  calc
    (agent.clientRecord medium).filters
      = (Broker.lastOfEach (agent.receivers.map Receiver.subscription)).map Subscription.filter := by
        rw [clientRecord, all]
        rfl
    _ = (agent.receivers.map fun receiver ↦ receiver.pattern.text).dedup := by
        rw [Broker.map_filter_lastOfEach, List.map_map]
        rfl

/-- A connect that has been asked for and succeeds subscribes again, whatever is noted of it and whatever becomes of an
agent that nobody holds. -/
theorem resubscribes_of_completeConnect {last : Agent} {notes : List Observation} (asks : agent.Asked before asked)
    (begins : begun = { agent with connection := begun.connection })
    (done : begun.completeConnect asked pending = (after, later, .ok ()))
    (noted : ∀ note ∈ notes, ∃ ticket, note = .completed ticket (.ok ())) (receivers : last.receivers = later.receivers)
    (held : later.held → last = later) :
    agent.Resubscribes before last { after with observations := after.observations ++ notes } := by
  obtain ⟨rfl, rfl⟩ := completeConnect_eq_ok done
  obtain ⟨grants, tried, length, retained⟩ := asks.keeps
  have transport : begun.transport = agent.transport := by rw [begins]
  have own : begun.receivers = agent.receivers := by rw [begins]
  have record : begun.clientRecord asked = agent.clientRecord before := by
    rw [begins]
    simp only [clientRecord, grants, retained]
  rw [transport, grants, own] at receivers
  refine ⟨receivers, ⟨asked, notes, asks, noted, ?_⟩, fun wanted ↦ ?_, fun granted ↦ ?_⟩
  · rw [record, transport, tried, own]
  · rw [held (by rw [begins]; exact wanted), length]
    exact ⟨rfl, rfl⟩
  · rw [record, Broker.filtersOf, ← length, List.getElem?_concat_length]
    exact filters_clientRecord granted

theorem resubscribes_connect {overrides : BrokerOverrides}
    (done : agent.connect before overrides = (after, later, .ok ())) :
    agent.Resubscribes before later after := by
  rcases connect_cases before agent overrides with ⟨-, -, failed⟩ | ⟨asked, begun, pending, began, answered⟩
  · rw [done] at failed
    cases failed
  · have resubscribes : agent.Resubscribes before later { after with observations := after.observations ++ [] } :=
      resubscribes_of_completeConnect (.inr ⟨overrides, begun, pending, began⟩)
        (by rw [(beginConnect_eq_ok began).1]) (answered.symm.trans done) (by simp) rfl fun _ ↦ rfl
    rwa [List.append_nil] at resubscribes

end Agent

end PubSub
