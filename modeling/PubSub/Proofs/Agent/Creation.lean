import PubSub.Proofs.Agent.Registry
import PubSub.Proofs.Topic.Address
import PubSub.Proofs.Transport.Calls
/-!
# How the creation of a receiver is decided

Who asks an agent for a receiver is answered by the first of these that says something: the name, the receivers that
there are, the connection that the agent should have, and the pattern that the options describe. If none of them says
no, there is one receiver more, and it is subscribed once if the agent is connected. A pattern that is not given as it
is, but is built of role, name and instance, is always an accepted one, so that only its levels can be refused.
-/

namespace PubSub

/-- Whether a result is the refusal of some text as an address. -/
def IsMalformed {α : Type} (result : Except Error α) : Prop :=
  ∃ address fault, result = .error (.malformedAddress address fault)

theorem IsMalformed.bind {α β : Type} {result : Except Error α} (malformed : IsMalformed result)
    (next : α → Except Error β) : IsMalformed (result >>= next) := by
  obtain ⟨address, fault, rfl⟩ := malformed
  exact ⟨address, fault, rfl⟩

theorem IsMalformed.map {α β : Type} {result : Except Error α} (malformed : IsMalformed result) (change : α → β) :
    IsMalformed (change <$> result) := by
  obtain ⟨address, fault, rfl⟩ := malformed
  exact ⟨address, fault, rfl⟩

theorem not_isMalformed_ok {α : Type} (value : α) : ¬IsMalformed (.ok value) := by
  rintro ⟨address, fault, h⟩
  cases h

/-! ## Patterns -/

/-- What is not a literal level is refused with its text. -/
theorem Topic.literalLevel_of_not {part : AddressPart} {level : String} (other : ¬IsLiteral level) :
    ∃ fault, literalLevel part level = .error (.malformedAddress level fault) := by
  have refused : literalLevel part level ≠ .ok () := mt literalLevel_eq_ok_iff.1 other
  unfold literalLevel at refused ⊢
  split
  · exact ⟨_, rfl⟩
  split
  · exact ⟨_, rfl⟩
  split
  · exact ⟨_, rfl⟩
  · simp_all [pure, Except.pure]

theorem TopicPattern.parse_cases (text : String) :
    (∃ pattern, parse text = .ok pattern) ∨ IsMalformed (parse text) := by
  unfold parse
  cases shapeOf text with
  | ok shape => exact .inl ⟨_, rfl⟩
  | error fault => exact .inr ⟨text, fault, rfl⟩

/-- A receiver's address is there, or one of its levels is refused. -/
theorem TopicAddress.forReceiver_cases (name : String) (role instanceId : Option String) :
    (∃ address, forReceiver name role instanceId = .ok address) ∨ IsMalformed (forReceiver name role instanceId) := by
  have literal (part : AddressPart) (level : String) :
      literalLevel part level = .ok () ∨ IsMalformed (literalLevel part level) := by
    by_cases accepted : Topic.IsLiteral level
    · exact .inl (Topic.literalLevel_eq_ok_iff.2 accepted)
    · exact .inr ⟨level, Topic.literalLevel_of_not accepted⟩
  have checked {α : Type} {guard : Except Error Unit} {exempt : Bool} {next : Except Error α}
      (guards : guard = .ok () ∨ IsMalformed guard) (goesOn : (∃ value, next = .ok value) ∨ IsMalformed next) :
      (∃ value, (if exempt = true then next else guard >>= fun _ ↦ next) = .ok value) ∨
        IsMalformed (if exempt = true then next else guard >>= fun _ ↦ next) := by
    cases exempt with
    | true => exact goesOn
    | false =>
      rcases guards with passed | refused
      · rw [passed]
        exact goesOn
      · exact .inr (refused.bind _)
  unfold forReceiver validChannelName
  rcases literal .channelName name with named | refused
  · rw [named]
    exact checked (literal _ _) (checked (literal _ _) (.inl ⟨_, rfl⟩))
  · exact .inr (refused.bind _)

namespace ChannelOptions

variable {options : ChannelOptions} {name : String}

/-- Whether options say what a receiver listens to: by a text that is an accepted pattern as it is, or else by a role
and an instance, where they are given, that can stand in a pattern. -/
structure Listenable (options : ChannelOptions) : Prop where
  text : ∀ text ∈ options.overrideTopic, ∃ pattern, TopicPattern.parse text = .ok pattern
  role : options.overrideTopic = .none → ∀ role ∈ options.role, Topic.IsChoice role
  instanceId : options.overrideTopic = .none →
    ∀ level ∈ options.instanceId, level = Topic.multiLevel ∨ Topic.IsChoice level

/-- The text that a receiver of a name listens to. -/
def filter (options : ChannelOptions) (name : String) : String :=
  options.overrideTopic.getD
    (Topic.join [options.role.getD Topic.singleLevel, name, options.instanceId.getD Topic.multiLevel])

/-- The text that a receiver of a name listens to, if its levels are accepted. -/
def filter? (options : ChannelOptions) (name : String) : Except Error String :=
  match options.overrideTopic with
  | some text => pure text
  | .none => TopicAddress.text <$> TopicAddress.forReceiver name options.role options.instanceId

/-- A text that is given is taken as it is, so that it may still be no pattern; one that is built of levels is a pattern
if the levels are accepted. -/
theorem filter?_eq_ok_iff (named : Topic.IsLiteral name) :
    (∃ pattern, options.filter? name >>= TopicPattern.parse = .ok pattern) ↔ options.Listenable := by
  unfold filter?
  cases given : options.overrideTopic with
  | some text =>
    constructor
    · rintro ⟨pattern, parsed⟩
      refine ⟨fun other same ↦ ⟨pattern, ?_⟩, by simp [given], by simp [given]⟩
      rwa [Option.some.inj (given.symm.trans same)] at parsed
    · exact fun listenable ↦ listenable.text text given
  | none =>
    constructor
    · rintro ⟨pattern, parsed⟩
      cases listens : TopicAddress.forReceiver name options.role options.instanceId with
      | error error =>
        rw [listens] at parsed
        cases parsed
      | ok address =>
        obtain ⟨-, roleChoice, instanceChoice, -⟩ := TopicAddress.forReceiver_eq_ok_iff.1 listens
        refine ⟨by simp [given], fun _ role wanted ↦ ?_, fun _ level wanted ↦ ?_⟩
        · simpa [Option.mem_def.1 wanted] using roleChoice
        · simpa [Option.mem_def.1 wanted] using instanceChoice
    · intro listenable
      have roleChoice : Topic.IsChoice (options.role.getD Topic.singleLevel) := by
        cases wanted : options.role with
        | none => exact .inl rfl
        | some role => exact listenable.role given role wanted
      have instanceChoice : options.instanceId.getD Topic.multiLevel = Topic.multiLevel ∨
          Topic.IsChoice (options.instanceId.getD Topic.multiLevel) := by
        cases wanted : options.instanceId with
        | none => exact .inl rfl
        | some level => exact listenable.instanceId given level wanted
      have listens := TopicAddress.forReceiver_eq_ok_iff.2 ⟨named, roleChoice, instanceChoice, rfl⟩
      rw [listens]
      exact ⟨_, TopicAddress.parse_of_levels (TopicAddress.levels_of_forReceiver listens) roleChoice named
        instanceChoice⟩

theorem filter?_cases (options : ChannelOptions) (name : String) :
    options.filter? name = .ok (options.filter name) ∨ IsMalformed (options.filter? name) := by
  unfold filter? filter
  cases options.overrideTopic with
  | some text => exact .inl rfl
  | none =>
    rcases TopicAddress.forReceiver_cases name options.role options.instanceId with ⟨address, listens⟩ | refused
    · obtain ⟨-, -, -, rfl⟩ := TopicAddress.forReceiver_eq_ok_iff.1 listens
      rw [listens]
      exact .inl rfl
    · exact .inr (refused.map _)

end ChannelOptions

namespace Agent

variable {medium after : Medium} {agent changed : Agent} {name : String} {kind : PayloadKind}
  {options : ChannelOptions} {place : Nat}

/-- A receiver that is new and listens to a pattern. -/
def listener (agent : Agent) (name : String) (kind : PayloadKind) (options : ChannelOptions)
    (pattern : TopicPattern) : Receiver :=
  ⟨⟨name, options.filter name, .receiver⟩, kind, pattern, options.qos.getD agent.defaults.qos, false, []⟩

/-- A new receiver listens to what its options say, and all that can be wrong with it is a text that is no address. -/
theorem newReceiver_cases (agent : Agent) (kind : PayloadKind) (options : ChannelOptions)
    (named : Topic.IsLiteral name) :
    (options.Listenable ∧ ∃ pattern, TopicPattern.parse (options.filter name) = .ok pattern ∧
      agent.newReceiver name kind options = .ok (agent.listener name kind options pattern)) ∨
    (¬options.Listenable ∧ IsMalformed (agent.newReceiver name kind options)) := by
  have parts : agent.newReceiver name kind options = (do
      let text ← options.filter? name
      let pattern ← TopicPattern.parse text
      pure ⟨⟨name, text, .receiver⟩, kind, pattern, options.qos.getD agent.defaults.qos, false, []⟩) := by
    unfold newReceiver ChannelOptions.filter?
    cases options.overrideTopic <;> rfl
  rw [parts, ← ChannelOptions.filter?_eq_ok_iff named]
  rcases options.filter?_cases name with listens | refused
  · rw [listens]
    change ((∃ pattern, TopicPattern.parse (options.filter name) = .ok pattern) ∧ _) ∨
      (¬(∃ pattern, TopicPattern.parse (options.filter name) = .ok pattern) ∧ _)
    rcases TopicPattern.parse_cases (options.filter name) with ⟨pattern, parsed⟩ | refused
    · refine .inl ⟨⟨pattern, parsed⟩, pattern, parsed, ?_⟩
      change (TopicPattern.parse (options.filter name) >>= _) = _
      rw [parsed]
      rfl
    · refine .inr ⟨?_, refused.bind _⟩
      rintro ⟨pattern, parsed⟩
      exact not_isMalformed_ok pattern (parsed ▸ refused)
  · refine .inr ⟨?_, refused.bind _⟩
    rintro ⟨pattern, parsed⟩
    exact not_isMalformed_ok pattern (parsed ▸ refused.bind TopicPattern.parse)

/-! ## Subscribing a new receiver -/

/-- What a subscription that a new receiver asks for, or puts off, leaves: the transport is asked once if the agent is
connected, and not at all if it is not. -/
structure SubscribesOnce (medium : Medium) (agent : Agent) (pattern : String) (qos : QoS) (subscribed : Bool)
    (after : Medium) : Prop where
  connected : agent.isConnected medium → ∃ handle, agent.connection.handle = some handle ∧
    let attempt := medium.subscribe agent.transport handle pattern qos
    subscribed = attempt.2.isOk ∧ after = if subscribed then attempt.1 else attempt.1.fail
  unconnected : agent.isConnected medium = false → subscribed = false ∧ after = medium.warn
  calls : after.calls = medium.calls ++
    if agent.isConnected medium then agent.transport.recorded (.subscribe pattern qos) else []

theorem liveHandle?_of_isConnected (connected : agent.isConnected medium) :
    ∃ handle, agent.connection.handle = some handle ∧ agent.liveHandle? medium = some handle := by
  have held := (Bool.and_eq_true_iff.1 connected).2
  obtain ⟨handle, hhandle⟩ : ∃ handle, agent.connection.handle = some handle := by
    cases hhandle : agent.connection.handle with
    | none => simp [hhandle] at held
    | some handle => exact ⟨handle, rfl⟩
  refine ⟨handle, hhandle, ?_⟩
  unfold liveHandle? Connection.liveHandle?
  rw [← hhandle]
  exact if_pos connected

/-! ## The decision -/

/-- The names of the receivers of an agent. -/
def receiverNames (agent : Agent) : List String :=
  agent.receivers.map fun receiver ↦ receiver.definition.name

/-- Whether an agent creates a receiver of a name, and does not look for one that there is. -/
def Opens (agent : Agent) (name : String) (options : ChannelOptions) : Prop :=
  options.ignoreExisting ∨ name ∉ agent.receiverNames

/-- Whether an agent should be connected and is not. -/
def LacksConnection (medium : Medium) (agent : Agent) : Prop :=
  agent.autoConnect ∧ agent.isConnected medium = false

/-- What asking an agent for a receiver comes to, in the order in which it is decided. -/
structure DecidesReceiver (medium : Medium) (agent : Agent) (name : String) (kind : PayloadKind)
    (options : ChannelOptions) (result : Except Error (Medium × Agent × Nat)) : Prop where
  invalid : ¬Topic.IsLiteral name → ∃ fault, result = .error (.malformedAddress name fault)
  /-- The earliest receiver of the name decides, and neither the other options nor the connection. -/
  known : Topic.IsLiteral name → ¬agent.Opens name options → ∃ place receiver,
    agent.receivers[place]? = some receiver ∧ receiver.definition.name = name ∧
    (∀ earlier ∈ agent.receivers.take place, earlier.definition.name ≠ name) ∧
    result = if receiver.kind = kind then .ok (medium.warn, agent, place) else .error (.channelTypeMismatch name)
  notConnected : Topic.IsLiteral name → agent.Opens name options →
    ((∃ operation, result = .error (.notConnected operation)) ↔ agent.LacksConnection medium)
  malformed : Topic.IsLiteral name → agent.Opens name options → ¬agent.LacksConnection medium →
    (IsMalformed result ↔ ¬options.Listenable)
  created : Topic.IsLiteral name → agent.Opens name options → ¬agent.LacksConnection medium → options.Listenable →
    ∃ pattern subscribed after, TopicPattern.parse (options.filter name) = .ok pattern ∧
      result = .ok (after, { agent with receivers := agent.receivers ++ [⟨⟨name, options.filter name, .receiver⟩, kind,
        pattern, options.qos.getD agent.defaults.qos, subscribed, []⟩] }, agent.receivers.length) ∧
      agent.SubscribesOnce medium (options.filter name) (options.qos.getD agent.defaults.qos) subscribed after

theorem existing_of_opens (opens : agent.Opens name options) :
    existing name kind options (agent.receivers.map Receiver.entry) = .ok none := by
  rcases opens with forced | absent
  · rw [existing, if_pos forced]
    rfl
  · have unknown : (agent.receivers.map Receiver.entry).findIdx? (fun channel ↦ channel.1 == name) = none := by
      rw [List.findIdx?_eq_none_iff]
      intro channel hmem
      obtain ⟨receiver, hreceiver, rfl⟩ := List.mem_map.1 hmem
      exact beq_false_of_ne fun same ↦ absent (List.mem_map.2 ⟨receiver, hreceiver, same⟩)
    unfold existing findChannel
    rw [unknown]
    split <;> rfl

/-- Without a receiver to find, the connection and then the pattern decide. -/
theorem createReceiver_of_opens (named : Topic.IsLiteral name) (opens : agent.Opens name options) :
    agent.createReceiver medium name kind options = (do
      agent.requireConnection medium name .receiver
      let receiver ← agent.newReceiver name kind options
      let (medium, receiver) :=
        if agent.isConnected medium then
          let (medium, receiver, result) := agent.subscribe medium receiver
          (if result.isOk then medium else medium.fail, receiver)
        else (medium.warn, receiver)
      pure (medium, { agent with receivers := agent.receivers ++ [receiver] }, agent.receivers.length)) := by
  have asked : agent.createReceiver medium name kind options = (validChannelName name >>= fun _ ↦
      existing name kind options (agent.receivers.map Receiver.entry) >>= _) := rfl
  rw [asked, show validChannelName name = .ok () from Topic.literalLevel_eq_ok_iff.2 named, existing_of_opens opens]
  rfl

theorem requireConnection_of_lacksConnection (lacks : agent.LacksConnection medium) (direction : Direction) :
    agent.requireConnection medium name direction =
      .error (.notConnected ("create " ++ direction.text ++ " \"" ++ name ++ "\"")) := by
  rw [requireConnection, lacks.1, lacks.2]
  rfl

theorem requireConnection_of_not (allowed : ¬agent.LacksConnection medium) (direction : Direction) :
    agent.requireConnection medium name direction = .ok () := by
  have apart : (agent.autoConnect && !agent.isConnected medium) = false := by
    rw [Bool.and_eq_false_iff]
    by_cases should : agent.autoConnect
    · exact .inr (by simpa [LacksConnection, should] using allowed)
    · exact .inl (by simpa using should)
  rw [requireConnection, apart]
  rfl

/-- A receiver that is created is subscribed once, or not at all. -/
theorem createReceiver_created (named : Topic.IsLiteral name) (opens : agent.Opens name options)
    (allowed : ¬agent.LacksConnection medium) {pattern : TopicPattern}
    (parsed : TopicPattern.parse (options.filter name) = .ok pattern)
    (new : agent.newReceiver name kind options = .ok (agent.listener name kind options pattern)) :
    ∃ subscribed after,
      agent.createReceiver medium name kind options = .ok (after, { agent with receivers := agent.receivers ++
        [{ agent.listener name kind options pattern with subscribed }] }, agent.receivers.length) ∧
      agent.SubscribesOnce medium (options.filter name) (options.qos.getD agent.defaults.qos) subscribed after := by
  have text : pattern.text = options.filter name := (TopicPattern.parse_eq_ok parsed).1
  rw [createReceiver_of_opens named opens, requireConnection_of_not allowed, new]
  cases connected : agent.isConnected medium with
  | false => exact ⟨false, medium.warn, rfl, by simp [connected], fun _ ↦ ⟨rfl, rfl⟩, by simp [connected]⟩
  | true =>
    obtain ⟨handle, held, live⟩ := liveHandle?_of_isConnected connected
    let attempt := medium.subscribe agent.transport handle (options.filter name) (options.qos.getD agent.defaults.qos)
    have asked : agent.subscribe medium (agent.listener name kind options pattern) =
        (attempt.1, { agent.listener name kind options pattern with subscribed := attempt.2.isOk },
          attempt.2.mapError fun error ↦ .subscription (options.filter name) error.message) := by
      rw [subscribe, live, ← text]
      simp only [attempt, ← text]
      rfl
    have answered : (attempt.2.mapError fun error ↦ Error.subscription (options.filter name) error.message).isOk =
        attempt.2.isOk := by
      cases attempt.2 <;> rfl
    refine ⟨attempt.2.isOk, if attempt.2.isOk then attempt.1 else attempt.1.fail, ?_, ?_, by simp [connected], ?_⟩
    · simp only [if_true, bind, Except.bind, asked, answered]
      rfl
    · exact fun _ ↦ ⟨handle, held, rfl, rfl⟩
    · split <;> simp [attempt]

/-- Every request for a receiver is decided in this order. -/
theorem decidesReceiver_createReceiver (medium : Medium) (agent : Agent) (name : String) (kind : PayloadKind)
    (options : ChannelOptions) :
    agent.DecidesReceiver medium name kind options (agent.createReceiver medium name kind options) where
  invalid unnamed := by
    obtain ⟨fault, refused⟩ : ∃ fault, literalLevel .channelName name = .error (.malformedAddress name fault) :=
      Topic.literalLevel_of_not unnamed
    refine ⟨fault, ?_⟩
    have asked : agent.createReceiver medium name kind options = (validChannelName name >>= _) := rfl
    rw [asked, validChannelName, refused]
    rfl
  known named closed := by
    obtain ⟨insists, there⟩ := not_or.1 closed
    have reuses : options.ignoreExisting = false := by simpa using insists
    obtain ⟨place, receiver, stands, hname, before, first⟩ :=
      Listing.exists_first Receiver.entry (not_not.1 there)
    refine ⟨place, receiver, stands, hname, before, ?_⟩
    have asked : agent.createReceiver medium name kind options = (validChannelName name >>= fun _ ↦
        existing name kind options (agent.receivers.map Receiver.entry) >>= _) := rfl
    rw [asked, show validChannelName name = .ok () from Topic.literalLevel_eq_ok_iff.2 named,
      first.existing reuses kind]
    change (if receiver.kind = kind then Except.ok (some place) else _) >>= _ = _
    by_cases same : receiver.kind = kind
    · simp only [same, if_true]
      rfl
    · simp only [same, if_false]
      rfl
  notConnected named opens := by
    rw [createReceiver_of_opens named opens]
    by_cases lacks : agent.LacksConnection medium
    · rw [requireConnection_of_lacksConnection lacks]
      exact ⟨fun _ ↦ lacks, fun _ ↦ ⟨_, rfl⟩⟩
    · rw [requireConnection_of_not lacks]
      refine ⟨?_, fun h ↦ absurd h lacks⟩
      rintro ⟨operation, refused⟩
      rcases agent.newReceiver_cases kind options named with ⟨-, pattern, -, new⟩ | ⟨-, address, fault, new⟩
      · rw [new] at refused
        cases refused
      · rw [new] at refused
        cases refused
  malformed named opens allowed := by
    rcases agent.newReceiver_cases kind options named with ⟨listenable, pattern, parsed, new⟩ | ⟨unlistenable, refused⟩
    · obtain ⟨subscribed, after, created, -⟩ := createReceiver_created named opens allowed parsed new
      rw [created]
      exact ⟨fun malformed ↦ absurd malformed (not_isMalformed_ok _), fun unlistenable ↦ absurd listenable unlistenable⟩
    · rw [createReceiver_of_opens named opens, requireConnection_of_not allowed]
      exact ⟨fun _ ↦ unlistenable, fun _ ↦ refused.bind _⟩
  created named opens allowed listenable := by
    rcases agent.newReceiver_cases kind options named with ⟨-, pattern, parsed, new⟩ | ⟨unlistenable, -⟩
    · obtain ⟨subscribed, after, created, subscribes⟩ := createReceiver_created named opens allowed parsed new
      exact ⟨pattern, subscribed, after, parsed, created, subscribes⟩
    · exact absurd listenable unlistenable

end Agent

end PubSub
