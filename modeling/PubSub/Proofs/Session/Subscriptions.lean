import PubSub.Proofs.Network.Tuning
import PubSub.Proofs.Session.View
/-!
# What the marks of receivers tell

As long as agents subscribe no receivers but their own, a receiver that is marked as subscribed has its filter listed
for the connection that its agent holds, if the agent holds one. A connect that fails, or that is still under way, takes
the connection from the agent and leaves the marks as they are.
-/

namespace PubSub.Session

variable {session next : Session} {request : Request}

/-- The sessions that come about, move by move, if no agent subscribes a receiver of another one. -/
inductive Separate : Session → Prop
  | fresh : Separate .fresh
  | request {session : Session} (separate : Separate session) (request : Request) (alone : ¬session.Lends request) :
    Separate (session.cleared.handle request).1
  | work {session : Session} {network : Network} (separate : Separate session)
    (ticks : session.network.tick? = some network) : Separate { session with network }

/-- The agents are tuned, with the raw clients beside them. -/
def InTune (session : Session) : Prop :=
  session.network.view.InTune session.IsRaw

theorem inTune_fresh : InTune .fresh where
  tuned := by simp [fresh, Network.view, Network.fresh]
  apart := by simp [fresh, Network.view, Network.fresh]
  foreign_lt _ raw := by simp [IsRaw, fresh] at raw
  foreign_ne := by simp [fresh, Network.view, Network.fresh]
  closing_lt := by simp [fresh, Network.view, Network.fresh]
  closing_ne := by simp [fresh, Network.view, Network.fresh]

/-- In a steady session the raw clients are apart from the agents. -/
theorem Steady.inTune {foreign : ConnectionId → Prop} (steady : session.Steady)
    (inTune : session.network.view.InTune foreign) : session.InTune :=
  { inTune with
    foreign_lt := steady.network.sound.foreign_lt
    foreign_ne standing hmem handle held := by
      obtain ⟨agent, hagent, rfl⟩ := List.mem_map.1 hmem
      obtain ⟨index, hindex⟩ := List.getElem?_of_mem hagent
      have place := Network.getElem?_links hindex
      obtain ⟨phase, reads⟩ := (steady.network.sound.links index _ place).dispatched handle held
      exact steady.network.sound.foreign_ne index _ _ place reads }

theorem Separate.steady (separate : session.Separate) : session.Steady := by
  induction separate with
  | fresh => exact steady_fresh
  | request _ request _ ih => exact ih.cleared.handle request
  | work _ ticks ih => exact ih.of_network rfl (ih.network.tick? ticks)

theorem Separate.inTune (separate : session.Separate) : session.InTune := by
  induction separate with
  | fresh => exact inTune_fresh
  | @request session separate request alone ih =>
    have proceeds := Proceeds.handle session.cleared request
    have inTune : session.cleared.network.view.InTune session.cleared.IsRaw := ih
    exact (separate.steady.cleared.handle request).inTune (proceeds.changes.inTune alone inTune)
  | @work session network separate ticks ih =>
    exact Network.inTune_tick? separate.steady.network.sound ih ticks

theorem Separate.tuned (separate : session.Separate) {agent : Agent} (h : agent ∈ session.network.agents) :
    agent.standing.Tuned session.network.medium.broker :=
  separate.inTune.tuned _ (List.mem_map_of_mem h)

/-- Work that is done until none is left, or for some time. -/
theorem Separate.settle (separate : session.Separate) (steps : Nat) :
    (session.onNetwork (Network.run steps)).Separate := by
  induction steps generalizing session with
  | zero => exact separate
  | succ steps ih =>
    cases h : session.network.tick? with
    | none =>
      rw [onNetwork, Network.run_of_tick?_eq_none h]
      exact separate
    | some network =>
      rw [onNetwork, Network.run_of_tick? h]
      exact ih (separate.work h)

/-- Steps lead to separate sessions if no agent subscribes a receiver of another one. -/
theorem Separate.step (separate : session.Separate) (next : Step) (alone : ¬session.Lends next.request) :
    (session.step next).1.Separate := by
  have handled := separate.request next.request alone
  unfold Session.step
  cases next.settles with
  | false => exact handled
  | true => exact handled.settle settleLimit

theorem Separate.after (separate : session.Separate) (steps : List Step)
    (alone : ∀ next ∈ steps, ∀ session : Session, ¬session.Lends next.request) : (session.after steps).Separate := by
  induction steps generalizing session with
  | nil => exact separate
  | cons next rest ih =>
    rw [List.forall_mem_cons] at alone
    exact ih (separate.step next (alone.1 session)) alone.2

/-- A receiver that is marked as subscribed has its filter listed for the connection that its agent holds. An agent that
holds none and whose receivers are marked is connecting, or its last connect has failed. -/
theorem listed_of_subscribed (separate : session.Separate) {agent : Agent} {receiver : Receiver}
    (h : agent ∈ session.network.agents) (held : agent.held) (registered : receiver ∈ agent.receivers)
    (subscribed : receiver.subscribed) :
    (agent.connection.state = .connected ∧ ∃ handle, agent.connection.handle = some handle ∧
      receiver.pattern.text ∈ session.network.medium.broker.filtersOf handle) ∨
    (agent.connection.handle = none ∧ (agent.connection.state = .connecting ∨ agent.connection.state = .errored)) := by
  have tuned := separate.tuned h
  have hmem : receiver.tuning ∈ agent.standing.tunings := List.mem_map_of_mem registered
  obtain ⟨index, hindex⟩ := List.getElem?_of_mem h
  have connected := (separate.steady.network.sound.sound_link hindex).connected_iff
  cases hhandle : agent.connection.handle with
  | some handle =>
    refine .inl ⟨connected.2 (by simp [Agent.link, hhandle]), handle, rfl, ?_⟩
    exact tuned.listed handle hhandle receiver.tuning hmem subscribed
  | none =>
    refine .inr ⟨rfl, ?_⟩
    cases hstate : agent.connection.state with
    | initialised =>
      have off := tuned.idle held hstate receiver.tuning hmem
      have on : receiver.tuning.subscribed = true := subscribed
      simp [off] at on
    | connecting => exact .inl rfl
    | connected =>
      have some := connected.1 hstate
      simp [Agent.link, hhandle] at some
    | errored => exact .inr rfl

/-- A receiver is subscribed on a connection, which is then cut. The connect that is to replace it fails, and the mark
stays. -/
theorem listed_of_subscribed_replaced : ∃ connected replaced : Session, connected.Separate ∧ replaced.Separate ∧
    (∃ agent ∈ connected.network.agents, ∃ receiver ∈ agent.receivers, ∃ handle,
      agent.connection.handle = some handle ∧
      receiver.pattern.text ∈ connected.network.medium.broker.filtersOf handle) ∧
    ∃ agent ∈ replaced.network.agents, ∃ receiver ∈ agent.receivers, receiver.subscribed ∧
      agent.connection.handle = none ∧ agent.connection.state = .errored := by
  let step (request : Request) : Step := ⟨request, none, true, false⟩
  let first := [step (.build ⟨"agent", "role", none, none, none, .none, some true, none, .plain⟩),
    step (.createReceiver ⟨"agent", "speed", .u32, "speed", .none, none⟩)]
  let connected := Session.fresh.after first
  let replaced := connected.after [step .silenceAll, step (.setAvailable false), step (.connect "agent" .none)]
  have separate : connected.Separate := Separate.fresh.after _ (by simp [first, step, Lends])
  have separate' : replaced.Separate := separate.after _ (by simp [step, Lends])
  have marked : connected.network.agents[0]?.any fun agent ↦
      agent.held && agent.connection.handle.isSome && agent.receivers[0]?.any fun receiver ↦ receiver.subscribed := by
    decide +kernel
  have marked' : replaced.network.agents[0]?.any fun agent ↦
      agent.held && decide (agent.connection.state = .errored) &&
        agent.receivers[0]?.any fun receiver ↦ receiver.subscribed := by
    decide +kernel
  refine ⟨connected, replaced, separate, separate', ?_, ?_⟩
  · obtain ⟨agent, hagent, h⟩ := (Option.any_eq_true _ _).1 marked
    simp only [Bool.and_eq_true] at h
    obtain ⟨receiver, hreceiver, subscribed⟩ := (Option.any_eq_true _ _).1 h.2
    have registered := List.mem_of_getElem? hreceiver
    have known := List.mem_of_getElem? hagent
    rcases listed_of_subscribed separate known h.1.1 registered subscribed with ⟨-, handle, held, listed⟩ | ⟨lost, -⟩
    · exact ⟨agent, known, receiver, registered, handle, held, listed⟩
    · simp [lost] at h
  · obtain ⟨agent, hagent, h⟩ := (Option.any_eq_true _ _).1 marked'
    simp only [Bool.and_eq_true, decide_eq_true_eq] at h
    obtain ⟨receiver, hreceiver, subscribed⟩ := (Option.any_eq_true _ _).1 h.2
    have registered := List.mem_of_getElem? hreceiver
    have known := List.mem_of_getElem? hagent
    rcases listed_of_subscribed separate' known h.1.1 registered subscribed with ⟨state, -⟩ | ⟨lost, -⟩
    · simp [h.1.2] at state
    · exact ⟨agent, known, receiver, registered, subscribed, lost, h.1.2⟩

end PubSub.Session
