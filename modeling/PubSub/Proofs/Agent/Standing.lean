import PubSub.Agent.Builder
import PubSub.Proofs.Agent.Links
import PubSub.Proofs.Broker.Growth
/-!
# How agents stand

What counts of an agent for the others and for the broker: its link, the patterns of its receivers, with their marks,
and whether somebody holds it. An agent is tuned if these agree with what the broker lists for the connection: every
filter there is the pattern of some receiver, and every receiver that is marked as subscribed has its pattern there.
-/

namespace PubSub

/-- What a receiver wants of the broker, and whether it is marked as having got it. -/
structure Tuning where
  pattern : TopicPattern
  subscribed : Bool
  deriving DecidableEq

namespace Tuning

/-- The filter that is subscribed for the pattern. -/
def filter (tuning : Tuning) : String :=
  tuning.pattern.text

/-- Whether the pattern is what its text was found to mean. -/
def Parsed (tuning : Tuning) : Prop :=
  TopicPattern.parse tuning.filter = .ok tuning.pattern

/-- Patterns are accepted where the same ones were accepted before. -/
theorem parsed_of_patterns {tunings others : List Tuning}
    (same : tunings.map Tuning.pattern = others.map Tuning.pattern) (parsed : ∀ tuning ∈ others, tuning.Parsed)
    (tuning : Tuning) (hmem : tuning ∈ tunings) : tuning.Parsed := by
  have hpattern : tuning.pattern ∈ others.map Tuning.pattern := same ▸ List.mem_map_of_mem hmem
  obtain ⟨other, hother, same⟩ := List.mem_map.1 hpattern
  have hparsed := parsed other hother
  unfold Parsed filter at hparsed ⊢
  rw [← same]
  exact hparsed

end Tuning

/-- The tuning of a receiver. -/
def Receiver.tuning (receiver : Receiver) : Tuning :=
  ⟨receiver.pattern, receiver.subscribed⟩

/-- What counts of an agent for the others and for the broker. -/
structure Standing extends Link where
  tunings : List Tuning
  held : Bool

/-- How an agent stands. -/
def Agent.standing (agent : Agent) : Standing :=
  ⟨agent.link, agent.receivers.map Receiver.tuning, agent.held⟩

/-- The marks of the receivers and the filters of the connection agree. -/
structure Standing.Tuned (broker : Broker) (standing : Standing) : Prop where
  parsed : ∀ tuning ∈ standing.tunings, tuning.Parsed
  handle_lt : ∀ handle, standing.connection.handle = some handle → handle < broker.clients.length
  wanted : ∀ handle, standing.connection.handle = some handle → ∀ filter ∈ broker.filtersOf handle,
    ∃ tuning ∈ standing.tunings, tuning.filter = filter
  listed : ∀ handle, standing.connection.handle = some handle → ∀ tuning ∈ standing.tunings, tuning.subscribed →
    tuning.filter ∈ broker.filtersOf handle
  /-- Without a connection, and without a connect since the last disconnect, no receiver is marked. -/
  idle : standing.held → standing.connection.state = .initialised → ∀ tuning ∈ standing.tunings,
    tuning.subscribed = false

/-! ## Filters that are added -/

/-- From one broker to a later one: filters of a connection are added, and only such as some of the tunings want. -/
structure Broker.Gains (before : Broker) (connection : ConnectionId) (tunings : List Tuning) (after : Broker) :
    Prop where
  length_le : before.clients.length ≤ after.clients.length
  kept : ∀ filter ∈ before.filtersOf connection, filter ∈ after.filtersOf connection
  wanted : ∀ filter ∈ after.filtersOf connection, filter ∈ before.filtersOf connection ∨
    ∃ tuning ∈ tunings, tuning.filter = filter
  listed : ∀ tuning ∈ tunings, tuning.subscribed → tuning.filter ∈ after.filtersOf connection

namespace Broker.Gains

variable {before middle after : Broker} {connection : ConnectionId} {tuning : Tuning} {tunings : List Tuning}

theorem nil (broker : Broker) : broker.Gains connection [] broker :=
  ⟨Nat.le_refl _, fun _ h ↦ h, fun _ h ↦ .inl h, nofun⟩

theorem cons (first : before.Gains connection [tuning] middle) (rest : middle.Gains connection tunings after) :
    before.Gains connection (tuning :: tunings) after where
  length_le := Nat.le_trans first.length_le rest.length_le
  kept filter h := rest.kept filter (first.kept filter h)
  wanted filter h := by
    rcases rest.wanted filter h with earlier | ⟨other, hmem, same⟩
    · rcases first.wanted filter earlier with before | ⟨own, hmem, same⟩
      · exact .inl before
      · exact .inr ⟨own, by simp [List.mem_singleton.1 hmem], same⟩
    · exact .inr ⟨other, List.mem_cons_of_mem _ hmem, same⟩
  listed other hmem marked := by
    rcases List.mem_cons.1 hmem with rfl | hmem
    · exact rest.kept _ (first.listed other (List.mem_singleton_self _) marked)
    · exact rest.listed other hmem marked

end Broker.Gains

/-- What is seen of a receiver does not depend on its mark. -/
def Receiver.IgnoresMark {α : Type} (seen : Receiver → α) : Prop :=
  ∀ receiver subscribed, seen { receiver with subscribed } = seen receiver

namespace Agent

variable {agent : Agent} {handle : ConnectionId}

/-- A receiver is subscribed on the connection that is held, or marked as not subscribed. -/
theorem subscribe_cases (medium : Medium) (agent : Agent) (receiver : Receiver) :
    ((agent.subscribe medium receiver).1.broker = medium.broker ∧
      (agent.subscribe medium receiver).2.1 = { receiver with subscribed := false }) ∨
    ∃ handle, agent.connection.handle = some handle ∧ agent.connection.state = .connected ∧
      medium.broker.subscribe handle receiver.pattern.text receiver.qos =
        .ok (agent.subscribe medium receiver).1.broker ∧
      (agent.subscribe medium receiver).2.1 = { receiver with subscribed := true } := by
  unfold subscribe
  cases held : agent.liveHandle? medium with
  | none => exact .inl ⟨rfl, rfl⟩
  | some handle =>
    have connected : agent.connection.handle = some handle ∧ agent.connection.state = .connected := by
      unfold liveHandle? Connection.liveHandle? Connection.isConnected at held
      rw [Option.ite_none_right_eq_some, Bool.and_eq_true, decide_eq_true_eq] at held
      exact ⟨held.2, held.1.1⟩
    rcases medium.subscribe_cases agent.transport handle receiver.pattern.text receiver.qos with
      ⟨error, failed, same⟩ | ⟨done, subscribed⟩
    · refine .inl ⟨same, ?_⟩
      simp only [failed]
      rfl
    · refine .inr ⟨handle, connected.1, connected.2, subscribed, ?_⟩
      simp only [done]
      rfl

/-- Subscribing a receiver changes only its mark. -/
theorem seen_subscribe {α : Type} {seen : Receiver → α} (ignores : Receiver.IgnoresMark seen) (medium : Medium)
    (agent : Agent) (receiver : Receiver) : seen (agent.subscribe medium receiver).2.1 = seen receiver := by
  rcases subscribe_cases medium agent receiver with ⟨-, changed⟩ | ⟨-, -, -, -, changed⟩
  · rw [changed, ignores]
  · rw [changed, ignores]

/-- Subscribing receivers changes only their marks. -/
theorem map_seen_subscribeEach {α : Type} {seen : Receiver → α} (ignores : Receiver.IgnoresMark seen) (agent : Agent)
    (medium : Medium) (receivers : List Receiver) :
    (agent.subscribeEach medium receivers).2.map seen = receivers.map seen := by
  induction receivers generalizing medium with
  | nil => rfl
  | cons receiver rest ih => simp only [subscribeEach, List.map_cons, seen_subscribe ignores, ih]

theorem pattern_subscribe (medium : Medium) (agent : Agent) (receiver : Receiver) :
    (agent.subscribe medium receiver).2.1.pattern = receiver.pattern :=
  seen_subscribe (fun _ _ ↦ rfl) medium agent receiver

theorem connected_of_subscribe {medium : Medium} {receiver : Receiver}
    (marked : (agent.subscribe medium receiver).2.1.tuning.subscribed) : agent.connection.state = .connected := by
  rcases subscribe_cases medium agent receiver with ⟨-, changed⟩ | ⟨-, -, connected, -, -⟩
  · rw [changed] at marked
    cases marked
  · exact connected

theorem gains_subscribe (held : agent.connection.handle = some handle) (medium : Medium) (receiver : Receiver) :
    medium.broker.Gains handle [(agent.subscribe medium receiver).2.1.tuning]
      (agent.subscribe medium receiver).1.broker := by
  rcases subscribe_cases medium agent receiver with ⟨same, changed⟩ | ⟨other, hother, -, subscribed, changed⟩
  · rw [same, changed]
    refine ⟨Nat.le_refl _, fun _ h ↦ h, fun _ h ↦ .inl h, fun tuning hmem marked ↦ ?_⟩
    rw [List.mem_singleton.1 hmem] at marked
    cases marked
  · obtain rfl : other = handle := Option.some.inj (hother.symm.trans held)
    rw [changed]
    refine ⟨(Broker.grows_of_subscribe subscribed).length_le, fun filter h ↦ ?_, fun filter h ↦ ?_,
      fun tuning hmem _ ↦ ?_⟩
    · exact (Broker.mem_filtersOf_of_subscribe subscribed).2 (.inr h)
    · rcases (Broker.mem_filtersOf_of_subscribe subscribed).1 h with same | earlier
      · exact .inr ⟨_, List.mem_singleton_self _, same.symm⟩
      · exact .inl earlier
    · rw [List.mem_singleton.1 hmem]
      exact (Broker.mem_filtersOf_of_subscribe subscribed).2 (.inl rfl)

theorem gains_subscribeEach (held : agent.connection.handle = some handle) (medium : Medium)
    (receivers : List Receiver) :
    medium.broker.Gains handle ((agent.subscribeEach medium receivers).2.map Receiver.tuning)
      (agent.subscribeEach medium receivers).1.broker := by
  induction receivers generalizing medium with
  | nil => exact .nil _
  | cons receiver rest ih =>
    have first := gains_subscribe held medium receiver
    simp only [subscribeEach, List.map_cons]
    split
    · exact first.cons (ih _)
    · exact first.cons (ih (agent.subscribe medium receiver).1.fail)

end Agent

/-! ## Tuned agents -/

namespace Standing

variable {before after : Broker} {standing changed : Standing} {handle : ConnectionId} {tuning : Tuning}
  {tunings : List Tuning}

/-- An agent without a connection is tuned unless it counts as disconnected and has marked receivers. -/
theorem tuned_of_handle_none (free : standing.connection.handle = none) (broker : Broker)
    (parsed : ∀ tuning ∈ standing.tunings, tuning.Parsed)
    (idle : standing.held → standing.connection.state = .initialised → ∀ tuning ∈ standing.tunings,
      tuning.subscribed = false) : standing.Tuned broker where
  parsed := parsed
  handle_lt handle held := by simp [free] at held
  wanted handle held := by simp [free] at held
  listed handle held := by simp [free] at held
  idle := idle

/-- An agent that has just got its connection is tuned once its receivers have been subscribed. -/
theorem tuned_of_gains (held : standing.connection.handle = some handle)
    (connected : standing.connection.state = .connected) (lt : handle < before.clients.length)
    (new : before.filtersOf handle = []) (gains : before.Gains handle standing.tunings after)
    (parsed : ∀ tuning ∈ standing.tunings, tuning.Parsed) : standing.Tuned after where
  parsed := parsed
  handle_lt other hother := by
    obtain rfl : handle = other := Option.some.inj (held.symm.trans hother)
    exact Nat.lt_of_lt_of_le lt gains.length_le
  wanted other hother filter h := by
    obtain rfl : handle = other := Option.some.inj (held.symm.trans hother)
    exact (gains.wanted filter h).resolve_left (by simp [new])
  listed other hother tuning hmem marked := by
    obtain rfl : handle = other := Option.some.inj (held.symm.trans hother)
    exact gains.listed tuning hmem marked
  idle _ initialised := by simp [connected] at initialised

namespace Tuned

/-- The filters of the connection stay as they are. -/
theorem of_filters (tuned : standing.Tuned before) (length_le : before.clients.length ≤ after.clients.length)
    (same : ∀ handle, standing.connection.handle = some handle → after.filtersOf handle = before.filtersOf handle) :
    standing.Tuned after where
  parsed := tuned.parsed
  handle_lt handle held := Nat.lt_of_lt_of_le (tuned.handle_lt handle held) length_le
  wanted handle held filter h := by
    rw [same handle held] at h
    exact tuned.wanted handle held filter h
  listed handle held tuning hmem marked := by
    rw [same handle held]
    exact tuned.listed handle held tuning hmem marked
  idle := tuned.idle

theorem grows {touched : ConnectionId → Prop} (tuned : standing.Tuned before) (grows : before.Grows touched after)
    (untouched : ∀ handle, standing.connection.handle = some handle → ¬touched handle) : standing.Tuned after :=
  tuned.of_filters grows.length_le fun handle held ↦
    grows.filters handle (tuned.handle_lt handle held) (untouched handle held)

/-- Receivers are exchanged or added, after what they want was asked of the broker. -/
theorem retune (tuned : standing.Tuned before) (parsed : tuning.Parsed)
    (gains : ∀ handle, standing.connection.handle = some handle → before.Gains handle [tuning] after)
    (known : ∀ other ∈ tunings, other ∈ standing.tunings ∨ other = tuning)
    (kept : ∀ other ∈ standing.tunings, ∃ same ∈ tunings, same.filter = other.filter)
    (new : ∃ same ∈ tunings, same.filter = tuning.filter)
    (connected : tuning.subscribed → standing.connection.state = .connected) :
    Tuned after { standing with tunings } where
  parsed other hmem := by
    rcases known other hmem with old | rfl
    · exact tuned.parsed other old
    · exact parsed
  handle_lt handle held := Nat.lt_of_lt_of_le (tuned.handle_lt handle held) (gains handle held).length_le
  wanted handle held filter h := by
    rcases (gains handle held).wanted filter h with earlier | ⟨other, hmem, same⟩
    · rcases tuned.wanted handle held filter earlier with ⟨other, hmem, same⟩
      rcases kept other hmem with ⟨heir, hheir, same'⟩
      exact ⟨heir, hheir, same'.trans same⟩
    · rcases new with ⟨heir, hheir, same'⟩
      exact ⟨heir, hheir, same'.trans (List.mem_singleton.1 hmem ▸ same)⟩
  listed handle held other hmem marked := by
    rcases known other hmem with old | rfl
    · exact (gains handle held).kept _ (tuned.listed handle held other old marked)
    · exact (gains handle held).listed other (List.mem_singleton_self _) marked
  idle held initialised other hmem := by
    rcases known other hmem with old | rfl
    · exact tuned.idle held initialised other old
    · cases marked : other.subscribed with
      | false => rfl
      | true => exact absurd (initialised.symm.trans (connected marked)) nofun

/-- A receiver is added that was left without a subscription. -/
theorem append_unsubscribed (tuned : standing.Tuned before) (parsed : tuning.Parsed)
    (off : tuning.subscribed = false) :
    Tuned before { standing with tunings := standing.tunings ++ [tuning] } := by
  have gains (handle : ConnectionId) : before.Gains handle [tuning] before :=
    ⟨Nat.le_refl _, fun _ h ↦ h, fun _ h ↦ .inl h, by simp [off]⟩
  apply tuned.retune parsed fun handle _ ↦ gains handle
  · simp
  · exact fun other hmem ↦ ⟨other, List.mem_append_left _ hmem, rfl⟩
  · exact ⟨tuning, by simp, rfl⟩
  · simp [off]

end Tuned

end Standing

end PubSub
