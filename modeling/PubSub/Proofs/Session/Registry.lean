import PubSub.Proofs.Agent.Registry
import PubSub.Proofs.Agent.Terms
import PubSub.Proofs.Session.Conduct
/-!
# Channels over time

What holds of the channels of an agent in every session, whatever is asked of the session meanwhile: a channel that was
created keeps its place and its definition, a name stands for the earliest channel of that name for ever, and senders
have nothing to do with receivers.
-/

namespace PubSub

/-- What holds of the channels of an agent between two moments. -/
structure Agent.KeepsChannels (earlier later : Agent) : Prop where
  senders : earlier.senders <+: later.senders
  /-- Of a receiver nothing changes but the mark that it is subscribed, and its callbacks. -/
  receivers : earlier.receivers.map Receiver.asCreated <+: later.receivers.map Receiver.asCreated
  /-- Whoever asks for a name that there was, and does not insist on a new sender, gets the earliest sender of the name
  or is refused, and nothing is registered. -/
  sameSender : ∀ name ∈ earlier.senders.map fun sender ↦ sender.definition.name, ∃ place sender,
    earlier.senders[place]? = some sender ∧ sender.definition.name = name ∧
    (∀ other ∈ earlier.senders.take place, other.definition.name ≠ name) ∧
    ∀ medium kind options, options.ignoreExisting = false → later.createSender medium name kind options =
      if sender.kind = kind then .ok (medium.warn, later, place) else .error (.channelTypeMismatch name)
  sameReceiver : ∀ name ∈ earlier.receivers.map fun receiver ↦ receiver.definition.name, ∃ place receiver,
    earlier.receivers[place]? = some receiver ∧ receiver.definition.name = name ∧
    (∀ other ∈ earlier.receivers.take place, other.definition.name ≠ name) ∧
    ∀ medium kind options, options.ignoreExisting = false → later.createReceiver medium name kind options =
      if receiver.kind = kind then .ok (medium.warn, later, place) else .error (.channelTypeMismatch name)
  /-- Creating a sender comes to the same with other receivers, and leaves them as they are. -/
  sendersApart : ∀ medium name kind options receivers,
    Agent.createSender medium { later with receivers } name kind options =
      (later.createSender medium name kind options).map fun (after, changed, place) ↦
        (after, { changed with receivers }, place)
  receiversApart : ∀ medium name kind options senders,
    Agent.createReceiver medium { later with senders } name kind options =
      (later.createReceiver medium name kind options).map fun (after, changed, place) ↦
        (after, { changed with senders }, place)

/-- Deeds keep channels. -/
theorem Agent.KeepsChannels.of_extends {earlier later : Agent} {distinct : Prop} (extends_ : earlier.Extends later)
    (named : later.Named distinct) : earlier.KeepsChannels later where
  senders := extends_.senders
  receivers := extends_.receivers
  sameSender name h := by
    obtain ⟨place, sender, stands, hname, before, first⟩ := Listing.exists_first Sender.entry h
    exact ⟨place, sender, stands, hname, before, fun medium kind options reuses ↦
      createSender_of_first named (extends_.firstSender first) reuses medium kind⟩
  sameReceiver name h := by
    obtain ⟨place, receiver, stands, hname, before, first⟩ := Listing.exists_first Receiver.entry h
    exact ⟨place, receiver, stands, hname, before, fun medium kind options reuses ↦
      createReceiver_of_first named (extends_.firstReceiver first) reuses medium kind⟩
  sendersApart medium name kind options receivers := createSender_receivers medium later name kind options receivers
  receiversApart medium name kind options senders := createReceiver_senders medium later name kind options senders

namespace Traffic

variable {index : Nat} {agent : Agent}

theorem named_of_run (moves : List Move) (h : (fresh.run moves).session.network.agents[index]? = some agent) :
    agent.Named ¬fresh.Ever (fun traffic ↦ traffic.Insists index) moves := by
  obtain ⟨described, ⟨senders, receivers, -⟩, conduct⟩ := (fresh.conducts_run moves).joined index agent rfl h
  refine conduct.named (fun apart ↦ apart) ⟨?_, ?_, fun _ ↦ ?_⟩
  · simp [senders]
  · simp [receivers]
  · simp [senders, receivers]

/-- An agent is there for ever, on the terms that it was built on and with the senders that it has. -/
theorem kept_run (traffic : Traffic) (moves : List Move)
    (h : traffic.session.network.agents[index]? = some agent) :
    ∃ later, (traffic.run moves).session.network.agents[index]? = some later ∧ later.terms = agent.terms ∧
      agent.senders <+: later.senders := by
  obtain ⟨later, hlater, conduct⟩ := (traffic.conducts_run moves).kept index agent h
  exact ⟨later, hlater, conduct.terms_eq, conduct.extends.senders⟩

/-- From any moment of any session to any later one, agents keep their channels; and if no channel was insisted on, the
names of senders are distinct, and those of receivers are. -/
theorem keeps_channels (moves later : List Move)
    (h : (fresh.run moves).session.network.agents[index]? = some agent) :
    ∃ grown, ((fresh.run moves).run later).session.network.agents[index]? = some grown ∧ agent.KeepsChannels grown ∧
      (¬fresh.Ever (fun traffic ↦ traffic.Insists index) (moves ++ later) →
        (grown.senders.map fun sender ↦ sender.definition.name).Nodup ∧
          (grown.receivers.map fun receiver ↦ receiver.definition.name).Nodup) := by
  obtain ⟨grown, hgrown, conduct⟩ := ((fresh.run moves).conducts_run later).kept index agent h
  have both : (fresh.run moves).run later = fresh.run (moves ++ later) := List.foldl_append.symm
  have named := named_of_run (moves ++ later) (both ▸ hgrown)
  refine ⟨grown, hgrown, .of_extends conduct.extends named, fun single ↦ ?_⟩
  have nodup := named.nodup single
  rw [List.map_map, List.map_map] at nodup
  exact nodup

/-- Two senders of one name carry different kinds of payload, the second one because it was insisted on. The name goes
on to stand for the first one after a disconnect, whatever else is asked for with it. -/
theorem keeps_channels_repeated : ∃ (moves later : List Move) (agent grown : Agent),
    (fresh.run moves).session.network.agents[0]? = some agent ∧
    ((fresh.run moves).run later).session.network.agents[0]? = some grown ∧
    agent.senders.map Sender.entry = [("speed", .u32), ("speed", .string)] ∧ agent.KeepsChannels grown ∧
    ∀ medium role, grown.createSender medium "speed" .u32 { ChannelOptions.none with role } =
      .ok (medium.warn, grown, 0) := by
  let create (kind : PayloadKind) (ignoreExisting : Bool) : Move :=
    .request (.createSender ⟨"agent", "out", kind, "speed", { ChannelOptions.none with ignoreExisting }, none⟩)
  let moves : List Move := [
    .request (.build ⟨"agent", "car", none, none, none, .none, some true, none, .plain⟩),
    create .u32 false, create .string true]
  let later : List Move := [.request (.disconnect "agent")]
  obtain ⟨agent, h⟩ : ∃ agent, (fresh.run moves).session.network.agents[0]? = some agent :=
    Option.isSome_iff_exists.1 (by decide +kernel)
  obtain ⟨grown, hgrown, keeps, -⟩ := keeps_channels moves later h
  have entries : agent.senders.map Sender.entry = [("speed", .u32), ("speed", .string)] := by
    have known : (fresh.run moves).session.network.agents[0]?.map (fun agent ↦ agent.senders.map Sender.entry) =
        some [("speed", .u32), ("speed", .string)] := by decide +kernel
    rw [h] at known
    exact Option.some.inj known
  have entry : agent.senders[0]?.map Sender.entry = some ("speed", .u32) := by
    rw [← List.getElem?_map, entries]
    rfl
  obtain ⟨first, hfirst, hentry⟩ := Option.map_eq_some_iff.1 entry
  have name : first.definition.name = "speed" := congrArg Prod.fst hentry
  have mem : "speed" ∈ agent.senders.map fun sender ↦ sender.definition.name :=
    List.mem_map.2 ⟨first, List.mem_of_getElem? hfirst, name⟩
  obtain ⟨place, sender, stands, -, before, same⟩ := keeps.sameSender "speed" mem
  obtain rfl : place = 0 := by
    by_contra pos
    have earlier : agent.senders[0]? = (agent.senders.take place)[0]? := by
      rw [List.getElem?_take_of_lt (Nat.pos_of_ne_zero pos)]
    exact before first (List.mem_of_getElem? (earlier ▸ hfirst)) name
  obtain rfl : first = sender := Option.some.inj (hfirst.symm.trans stands)
  have kind : first.kind = .u32 := congrArg Prod.snd hentry
  refine ⟨moves, later, agent, grown, h, hgrown, entries, keeps, fun medium role ↦ ?_⟩
  rw [same medium .u32 _ rfl, if_pos kind]

end Traffic

end PubSub
