import PubSub.Proofs.Agent.Conduct
/-!
# The channels of an agent

Senders and receivers are kept in two lists that only grow at their ends. Whoever asks for a channel by name and does
not insist on a new one is given the earliest of the name, or is refused if that one carries another kind of payload;
neither the other options nor the connection matter. So names repeat only where somebody insisted.
-/

namespace PubSub

/-! ## Finding channels -/

/-- Names and payload kinds of channels, in the order of their creation. -/
abbrev Listing := List (String × PayloadKind)

def Sender.entry (sender : Sender) : String × PayloadKind :=
  (sender.definition.name, sender.kind)

def Receiver.entry (receiver : Receiver) : String × PayloadKind :=
  (receiver.definition.name, receiver.kind)

namespace Listing

variable {name : String} {kind actual : PayloadKind} {channels more : Listing} {place : Nat}
  {options : ChannelOptions}

/-- Whether the earliest channel of a name is the one at a place, and of that kind. -/
def First (channels : Listing) (name : String) (kind : PayloadKind) (place : Nat) : Prop :=
  channels[place]? = some (name, kind) ∧ ∀ earlier ∈ channels.take place, earlier.1 ≠ name

/-- Where there is a channel of a name, one of them is the earliest. -/
theorem exists_first {α : Type} {channels : List α} {name : String} (entry : α → String × PayloadKind)
    (h : name ∈ channels.map fun channel ↦ (entry channel).1) : ∃ place channel, channels[place]? = some channel ∧
      (entry channel).1 = name ∧ (∀ other ∈ channels.take place, (entry other).1 ≠ name) ∧
      First (channels.map entry) name (entry channel).2 place := by
  obtain ⟨known, hknown, hname⟩ := List.mem_map.1 h
  have exists_named : ∃ channel ∈ channels, ((entry channel).1 == name) = true := ⟨known, hknown, by simp [hname]⟩
  let place := channels.findIdx fun channel ↦ (entry channel).1 == name
  have lt : place < channels.length := List.findIdx_lt_length_of_exists exists_named
  have named : (entry channels[place]).1 = name := by simpa using List.findIdx_getElem (w := lt)
  have before (other : α) (hmem : other ∈ channels.take place) : (entry other).1 ≠ name := by
    obtain ⟨earlier, hlt, rfl⟩ := List.mem_take_iff_getElem.1 hmem
    simpa using List.not_of_lt_findIdx (show earlier < place by omega)
  refine ⟨place, channels[place], List.getElem?_eq_getElem lt, named, before, ?_, ?_⟩
  · rw [List.getElem?_map, List.getElem?_eq_getElem lt, Option.map_some, ← named]
  · intro earlier hmem
    rw [← List.map_take] at hmem
    obtain ⟨other, hother, rfl⟩ := List.mem_map.1 hmem
    exact before other hother

/-- Channels that are added at the end are later ones. -/
theorem First.of_prefix (first : channels.First name kind place) (grows : channels <+: more) :
    more.First name kind place := by
  obtain ⟨further, rfl⟩ := grows
  have lt := (List.getElem?_eq_some_iff.1 first.1).1
  refine ⟨(List.getElem?_append_left lt).trans first.1, ?_⟩
  rw [List.take_append_of_le_length (Nat.le_of_lt lt)]
  exact first.2

theorem First.findIdx? (first : channels.First name actual place) :
    channels.findIdx? (fun channel ↦ channel.1 == name) = some place := by
  obtain ⟨lt, stands⟩ := List.getElem?_eq_some_iff.1 first.1
  rw [List.findIdx?_eq_some_iff_getElem]
  refine ⟨lt, by simp [stands], fun earlier hlt ↦ ?_⟩
  have mem : channels[earlier] ∈ channels.take place := List.mem_take_iff_getElem.2 ⟨earlier, by omega, rfl⟩
  simpa using first.2 _ mem

/-- Who does not insist on a new channel is given the earliest of the name, or is refused. -/
theorem First.existing (first : channels.First name actual place) (reuses : options.ignoreExisting = false)
    (kind : PayloadKind) :
    Agent.existing name kind options channels =
      if actual = kind then .ok (some place) else .error (.channelTypeMismatch name) := by
  rw [Agent.existing, reuses, findChannel, first.findIdx?]
  simp only [Bool.false_eq_true, if_false, first.1, Option.any_some, decide_eq_true_eq]
  rfl

/-- There is no place for a name only if no channel has the name. -/
theorem ne_of_existing (h : Agent.existing name kind options channels = .ok none)
    (reuses : options.ignoreExisting = false) : name ∉ channels.map Prod.fst := by
  rw [Agent.existing, reuses, findChannel] at h
  simp only [Bool.false_eq_true, if_false] at h
  split at h
  · rename_i absent
    rw [List.findIdx?_eq_none_iff] at absent
    rw [List.mem_map]
    rintro ⟨channel, hmem, rfl⟩
    simpa using absent channel hmem
  · split at h <;> cases h

end Listing

namespace Agent

variable {allowed : Allowance} {medium after : Medium} {agent earlier middle later changed : Agent} {name : String}
  {kind actual : PayloadKind} {options : ChannelOptions} {place : Nat}

/-! ## Creating channels -/

/-- A new sender has the name and the kind that were asked for. -/
theorem entry_newSender {sender : Sender} (h : agent.newSender name kind options = .ok sender) :
    sender.entry = (name, kind) := by
  unfold newSender at h
  split at h
  · rw [← Except.ok.inj h]
    rfl
  · obtain ⟨topic, -, h⟩ := exists_of_bind_eq_ok h
    rw [← Except.ok.inj h]
    rfl

/-- A new receiver has the name and the kind that were asked for, and is as it was created. -/
theorem entry_newReceiver {receiver : Receiver} (h : agent.newReceiver name kind options = .ok receiver) :
    receiver.entry = (name, kind) ∧ receiver.asCreated = receiver := by
  have build (topic : String) (h : (do
      let pattern ← TopicPattern.parse topic
      pure ⟨⟨name, topic, .receiver⟩, kind, pattern, options.qos.getD agent.defaults.qos, false, []⟩) =
        Except.ok receiver) : receiver.entry = (name, kind) ∧ receiver.asCreated = receiver := by
    obtain ⟨pattern, -, h⟩ := exists_of_bind_eq_ok h
    rw [← Except.ok.inj h]
    exact ⟨rfl, rfl⟩
  unfold newReceiver at h
  split at h
  · exact build _ h
  · obtain ⟨topic, -, h⟩ := exists_of_bind_eq_ok h
    exact build topic h

/-- A sender is found where it is, or a new one is added at the end. -/
theorem createSender_outcome (h : agent.createSender medium name kind options = .ok (after, changed, place)) :
    validChannelName name = .ok () ∧
      ((existing name kind options (agent.senders.map Sender.entry) = .ok (some place) ∧ after = medium.warn ∧
          changed = agent) ∨
        ∃ sender, existing name kind options (agent.senders.map Sender.entry) = .ok none ∧
          agent.newSender name kind options = .ok sender ∧ after = medium ∧ place = agent.senders.length ∧
          changed = { agent with senders := agent.senders ++ [sender] }) := by
  obtain ⟨_, valid, h⟩ := exists_of_bind_eq_ok h
  obtain ⟨found, hfound, h⟩ := exists_of_bind_eq_ok h
  refine ⟨valid, ?_⟩
  cases found with
  | some index =>
    obtain ⟨rfl, rfl, rfl⟩ := by simpa using Except.ok.inj h
    exact .inl ⟨hfound, rfl, rfl⟩
  | none =>
    obtain ⟨_, -, h⟩ := exists_of_bind_eq_ok h
    obtain ⟨sender, hsender, h⟩ := exists_of_bind_eq_ok h
    obtain ⟨rfl, rfl, rfl⟩ := by simpa using Except.ok.inj h
    exact .inr ⟨sender, hfound, hsender, rfl, rfl, rfl⟩

/-- A receiver is found where it is, or a new one is added at the end and subscribed if the agent is connected. -/
theorem createReceiver_outcome (h : agent.createReceiver medium name kind options = .ok (after, changed, place)) :
    validChannelName name = .ok () ∧
      ((existing name kind options (agent.receivers.map Receiver.entry) = .ok (some place) ∧ after = medium.warn ∧
          changed = agent) ∨
        ∃ receiver added, existing name kind options (agent.receivers.map Receiver.entry) = .ok none ∧
          agent.newReceiver name kind options = .ok receiver ∧ added.asCreated = receiver ∧
          place = agent.receivers.length ∧ changed = { agent with receivers := agent.receivers ++ [added] } ∧
          (agent.isConnected medium → after.broker = (agent.subscribe medium receiver).1.broker)) := by
  obtain ⟨_, valid, h⟩ := exists_of_bind_eq_ok h
  obtain ⟨found, hfound, h⟩ := exists_of_bind_eq_ok h
  refine ⟨valid, ?_⟩
  cases found with
  | some index =>
    obtain ⟨rfl, rfl, rfl⟩ := by simpa using Except.ok.inj h
    exact .inl ⟨hfound, rfl, rfl⟩
  | none =>
    obtain ⟨_, -, h⟩ := exists_of_bind_eq_ok h
    obtain ⟨receiver, hreceiver, h⟩ := exists_of_bind_eq_ok h
    have created := (entry_newReceiver hreceiver).2
    refine .inr ⟨receiver, ?_⟩
    by_cases connected : agent.isConnected medium
    · simp only [connected, if_true] at h
      obtain ⟨rfl, rfl, rfl⟩ := by simpa using Except.ok.inj h
      refine ⟨_, hfound, hreceiver, (asCreated_subscribe medium agent receiver).trans created, rfl, rfl, fun _ ↦ ?_⟩
      split <;> rfl
    · simp only [connected] at h
      obtain ⟨-, rfl, rfl⟩ := by simpa using Except.ok.inj h
      exact ⟨receiver, hfound, hreceiver, created, rfl, rfl, fun live ↦ absurd live connected⟩

/-! ## The two directions -/

theorem map_bind {α β γ : Type} (first : Except Error α) (next : α → Except Error β) (change : β → γ) :
    (first >>= next).map change = first >>= fun middle ↦ (next middle).map change := by
  cases first <;> rfl

/-- Senders are created without regard to the receivers, which stay as they are. -/
theorem createSender_receivers (medium : Medium) (agent : Agent) (name : String) (kind : PayloadKind)
    (options : ChannelOptions) (receivers : List Receiver) :
    Agent.createSender medium { agent with receivers } name kind options =
      (agent.createSender medium name kind options).map fun (after, changed, place) ↦
        (after, { changed with receivers }, place) := by
  unfold createSender
  simp only [map_bind]
  refine bind_congr fun _ ↦ bind_congr fun found ↦ ?_
  cases found with
  | some index => rfl
  | none =>
    simp only [map_bind]
    exact bind_congr fun _ ↦ bind_congr fun sender ↦ rfl

/-- Receivers are created without regard to the senders, which stay as they are. -/
theorem createReceiver_senders (medium : Medium) (agent : Agent) (name : String) (kind : PayloadKind)
    (options : ChannelOptions) (senders : List Sender) :
    Agent.createReceiver medium { agent with senders } name kind options =
      (agent.createReceiver medium name kind options).map fun (after, changed, place) ↦
        (after, { changed with senders }, place) := by
  unfold createReceiver
  simp only [map_bind]
  refine bind_congr fun _ ↦ bind_congr fun found ↦ ?_
  cases found with
  | some index => rfl
  | none =>
    simp only [map_bind]
    exact bind_congr fun _ ↦ bind_congr fun receiver ↦ rfl

/-! ## What is kept -/

/-- From one moment of an agent to a later one: channels come at the end, and none is ever changed. Of a receiver only
its mark and its callbacks may be other ones later. -/
structure Extends (earlier later : Agent) : Prop where
  senders : earlier.senders <+: later.senders
  receivers : earlier.receivers.map Receiver.asCreated <+: later.receivers.map Receiver.asCreated

theorem Extends.refl (agent : Agent) : agent.Extends agent :=
  ⟨List.prefix_rfl, List.prefix_rfl⟩

theorem Extends.trans (first : earlier.Extends middle) (second : middle.Extends later) : earlier.Extends later :=
  ⟨first.senders.trans second.senders, first.receivers.trans second.receivers⟩

/-- What holds of the names of an agent's channels: they are valid, and they are distinct where `distinct` says so. -/
structure Named (distinct : Prop) (agent : Agent) : Prop where
  senders : ∀ entry ∈ agent.senders.map Sender.entry, validChannelName entry.1 = .ok ()
  receivers : ∀ entry ∈ agent.receivers.map Receiver.entry, validChannelName entry.1 = .ok ()
  nodup : distinct → ((agent.senders.map Sender.entry).map Prod.fst).Nodup ∧
    ((agent.receivers.map Receiver.entry).map Prod.fst).Nodup

theorem entry_asCreated (receivers : List Receiver) :
    (receivers.map Receiver.asCreated).map Receiver.entry = receivers.map Receiver.entry := by
  rw [List.map_map]
  rfl

theorem Framed.channels (framed : agent.Framed later) :
    later.senders = agent.senders ∧
      later.receivers.map Receiver.asCreated = agent.receivers.map Receiver.asCreated := by
  obtain ⟨connection, dispatcher, receivers, rfl, marked⟩ := framed
  exact ⟨rfl, marked fun _ _ ↦ rfl⟩

/-- A deed leaves the channels as they are, or it adds one: a sender or a receiver of a valid name, which is new unless
duplicates are allowed. -/
theorem Deed.channels (deed : Deed allowed agent later) :
    (later.senders = agent.senders ∧
      later.receivers.map Receiver.asCreated = agent.receivers.map Receiver.asCreated) ∨
    (∃ sender, later.senders = agent.senders ++ [sender] ∧ later.receivers = agent.receivers ∧
      validChannelName sender.entry.1 = .ok () ∧
      (¬allowed.duplicates → sender.entry.1 ∉ (agent.senders.map Sender.entry).map Prod.fst)) ∨
    ∃ receiver, later.receivers = agent.receivers ++ [receiver] ∧ later.senders = agent.senders ∧
      validChannelName receiver.entry.1 = .ok () ∧
      (¬allowed.duplicates → receiver.entry.1 ∉ (agent.receivers.map Receiver.entry).map Prod.fst) := by
  have reuses {options : ChannelOptions} (permitted : options.ignoreExisting → allowed.duplicates)
      (single : ¬allowed.duplicates) : options.ignoreExisting = false := by
    cases forced : options.ignoreExisting with
    | false => rfl
    | true => exact absurd (permitted forced) single
  cases deed with
  | ask h => exact .inl (framed_of_beginConnect h).channels
  | complete medium pending permitted => exact .inl (framed_completeConnect medium agent pending).channels
  | disconnect medium => exact .inl (framed_disconnect medium agent).channels
  | release => exact .inl ⟨rfl, rfl⟩
  | letGo => exact .inl ⟨rfl, rfl⟩
  | createSender h permitted =>
    obtain ⟨valid, ⟨-, -, rfl⟩ | ⟨sender, absent, hnew, -, -, rfl⟩⟩ := createSender_outcome h
    · exact .inl ⟨rfl, rfl⟩
    · have entry := congrArg Prod.fst (entry_newSender hnew)
      refine .inr (.inl ⟨sender, rfl, rfl, ?_, fun single ↦ ?_⟩)
      · rw [entry]
        exact valid
      · rw [entry]
        exact Listing.ne_of_existing absent (reuses permitted single)
  | createReceiver h permitted =>
    obtain ⟨valid, ⟨-, -, rfl⟩ | ⟨receiver, added, absent, hnew, created, -, rfl, -⟩⟩ := createReceiver_outcome h
    · exact .inl ⟨rfl, rfl⟩
    · have entry : added.entry.1 = _ := congrArg Prod.fst ((congrArg Receiver.entry created).trans (entry_newReceiver hnew).1)
      refine .inr (.inr ⟨added, rfl, rfl, ?_, fun single ↦ ?_⟩)
      · rw [entry]
        exact valid
      · rw [entry]
        exact Listing.ne_of_existing absent (reuses permitted single)
  | rest phase reads => exact .inl ⟨rfl, rfl⟩
  | retune same => exact .inl ⟨rfl, same⟩

theorem Deed.extends (deed : Deed allowed agent later) : agent.Extends later := by
  rcases deed.channels with ⟨senders, receivers⟩ | ⟨sender, senders, receivers, -⟩ | ⟨receiver, receivers, senders, -⟩
  · exact ⟨senders ▸ List.prefix_rfl, receivers ▸ List.prefix_rfl⟩
  · exact ⟨senders ▸ List.prefix_append _ _, receivers ▸ List.prefix_rfl⟩
  · refine ⟨senders ▸ List.prefix_rfl, ?_⟩
    rw [receivers, List.map_append]
    exact List.prefix_append _ _

theorem Conduct.extends (conduct : Conduct allowed agent later) : agent.Extends later := by
  induction conduct with
  | refl => exact .refl agent
  | tail _ deed ih => exact ih.trans deed.extends

theorem Extends.firstSender (extends_ : earlier.Extends later)
    (first : Listing.First (earlier.senders.map Sender.entry) name kind place) :
    Listing.First (later.senders.map Sender.entry) name kind place :=
  first.of_prefix (extends_.senders.map Sender.entry)

theorem Extends.firstReceiver (extends_ : earlier.Extends later)
    (first : Listing.First (earlier.receivers.map Receiver.entry) name kind place) :
    Listing.First (later.receivers.map Receiver.entry) name kind place := by
  rw [← entry_asCreated] at first ⊢
  exact first.of_prefix (extends_.receivers.map Receiver.entry)

theorem nodup_append {entries : Listing} {entry : String × PayloadKind} (nodup : (entries.map Prod.fst).Nodup)
    (new : entry.1 ∉ entries.map Prod.fst) : ((entries ++ [entry]).map Prod.fst).Nodup := by
  rw [List.map_append, List.nodup_append]
  refine ⟨nodup, List.pairwise_singleton _ _, fun known hmem other single ↦ ?_⟩
  rw [List.mem_singleton.1 single]
  rintro rfl
  exact new hmem

theorem Deed.named {distinct : Prop} (deed : Deed allowed agent later) (single : distinct → ¬allowed.duplicates)
    (named : agent.Named distinct) : later.Named distinct := by
  rcases deed.channels with
    ⟨senders, receivers⟩ | ⟨sender, senders, receivers, valid, new⟩ | ⟨receiver, receivers, senders, valid, new⟩
  · have entries : later.receivers.map Receiver.entry = agent.receivers.map Receiver.entry := by
      rw [← entry_asCreated, receivers, entry_asCreated]
    refine ⟨?_, ?_, ?_⟩
    · rw [senders]
      exact named.senders
    · rw [entries]
      exact named.receivers
    · rw [senders, entries]
      exact named.nodup
  · have entries : later.senders.map Sender.entry = agent.senders.map Sender.entry ++ [sender.entry] := by
      rw [senders, List.map_append, List.map_singleton]
    refine ⟨fun entry hmem ↦ ?_, receivers ▸ named.receivers, fun apart ↦ ⟨?_, receivers ▸ (named.nodup apart).2⟩⟩
    · rcases List.mem_append.1 (entries ▸ hmem) with hmem | hmem
      · exact named.senders entry hmem
      · exact List.mem_singleton.1 hmem ▸ valid
    · rw [entries]
      exact nodup_append (named.nodup apart).1 (new (single apart))
  · have entries : later.receivers.map Receiver.entry = agent.receivers.map Receiver.entry ++ [receiver.entry] := by
      rw [receivers, List.map_append, List.map_singleton]
    refine ⟨senders ▸ named.senders, fun entry hmem ↦ ?_, fun apart ↦ ⟨senders ▸ (named.nodup apart).1, ?_⟩⟩
    · rcases List.mem_append.1 (entries ▸ hmem) with hmem | hmem
      · exact named.receivers entry hmem
      · exact List.mem_singleton.1 hmem ▸ valid
    · rw [entries]
      exact nodup_append (named.nodup apart).2 (new (single apart))

theorem Conduct.named {distinct : Prop} (conduct : Conduct allowed agent later)
    (single : distinct → ¬allowed.duplicates) (named : agent.Named distinct) : later.Named distinct := by
  induction conduct with
  | refl => exact named
  | tail _ deed ih => exact deed.named single ih

/-! ## Asking for a channel that there is -/

/-- Whoever asks for a sender that there is gets it, or is refused, whatever else is asked for and whatever the
connection is like. -/
theorem createSender_of_first {distinct : Prop} (named : agent.Named distinct)
    (first : Listing.First (agent.senders.map Sender.entry) name actual place)
    (reuses : options.ignoreExisting = false) (medium : Medium) (kind : PayloadKind) :
    agent.createSender medium name kind options =
      if actual = kind then .ok (medium.warn, agent, place) else .error (.channelTypeMismatch name) := by
  have valid := named.senders _ (List.mem_of_getElem? first.1)
  have found := first.existing reuses kind
  have asked : agent.createSender medium name kind options = (validChannelName name >>= fun _ ↦
      existing name kind options (agent.senders.map Sender.entry) >>= _) := rfl
  rw [asked, valid, found]
  by_cases same : actual = kind
  · simp only [same, if_true]
    rfl
  · simp only [same, if_false]
    rfl

theorem createReceiver_of_first {distinct : Prop} (named : agent.Named distinct)
    (first : Listing.First (agent.receivers.map Receiver.entry) name actual place)
    (reuses : options.ignoreExisting = false) (medium : Medium) (kind : PayloadKind) :
    agent.createReceiver medium name kind options =
      if actual = kind then .ok (medium.warn, agent, place) else .error (.channelTypeMismatch name) := by
  have valid := named.receivers _ (List.mem_of_getElem? first.1)
  have found := first.existing reuses kind
  have asked : agent.createReceiver medium name kind options = (validChannelName name >>= fun _ ↦
      existing name kind options (agent.receivers.map Receiver.entry) >>= _) := rfl
  rw [asked, valid, found]
  by_cases same : actual = kind
  · simp only [same, if_true]
    rfl
  · simp only [same, if_false]
    rfl

end Agent

end PubSub
