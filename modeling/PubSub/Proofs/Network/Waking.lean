import PubSub.Proofs.Broker.Growth
import PubSub.Proofs.Network.Steady
import Mathlib.Data.List.Nodup
/-!
# Whom a message wakes

The dispatchers that a message puts to work, in a network that had no work left. They are found in the order of their
agents, each once, and each finds the message alone in its inbox. Their agents are those that hold a live connection
with a filter for the topic.
-/

namespace PubSub

variable {network : Network} {broker : Broker} {agent : Agent} {message : Message} {connection source : ConnectionId}
  {index : Nat}

/-! ## Waking -/

namespace Network

/-- The connection whose inbox a dispatcher has to look into, if there is something to see. -/
def summoned? (broker : Broker) (agent : Agent) : Option ConnectionId :=
  match agent.dispatcher with
  | some ⟨source, .busy⟩ => some source
  | some ⟨source, .resting⟩ =>
    if broker.isClosed source || !(broker.inbox source).isEmpty then some source else none
  | _ => none

theorem wakeUp?_eq_map (broker : Broker) (index : Nat) (agent : Agent) :
    wakeUp? broker index agent = (summoned? broker agent).map (.dispatch index) := by
  unfold wakeUp? summoned?
  rcases agent.dispatcher with _ | ⟨source, phase⟩
  · rfl
  · cases phase with
    | busy => rfl
    | resting =>
      simp only
      split <;> rfl
    | finished => rfl

/-- The dispatchers that have something to do, by their agents and the connections that they read. -/
def summons (network : Network) : List (Nat × ConnectionId) :=
  network.agents.zipIdx.filterMap fun entry ↦
    (summoned? network.medium.broker entry.1).map fun source ↦ (entry.2, source)

theorem mem_summons_iff : (index, source) ∈ network.summons ↔
    ∃ agent, network.agents[index]? = some agent ∧ summoned? network.medium.broker agent = some source := by
  unfold summons
  rw [List.mem_filterMap]
  constructor
  · intro ⟨⟨agent, place⟩, hmem, h⟩
    rcases Option.map_eq_some_iff.1 h with ⟨found, hfound, hsame⟩
    rw [Prod.mk.injEq] at hsame
    rw [← hsame.1, ← hsame.2]
    exact ⟨agent, List.mem_zipIdx_iff_getElem?.1 hmem, hfound⟩
  · intro ⟨agent, hagent, h⟩
    exact ⟨(agent, index), List.mem_zipIdx_iff_getElem?.2 hagent, by rw [h, Option.map_some]⟩

/-- An agent whose dispatcher has something to do is among those that are summoned. -/
theorem mem_agents_summons_iff (h : network.agents[index]? = some agent) :
    index ∈ network.summons.map Prod.fst ↔ ∃ source, summoned? network.medium.broker agent = some source := by
  rw [List.mem_map]
  constructor
  · intro ⟨entry, hentry, same⟩
    rcases mem_summons_iff.1 hentry with ⟨other, hother, summoned⟩
    have hagent : other = agent := Option.some.inj (hother.symm.trans (same ▸ h))
    exact ⟨entry.2, hagent ▸ summoned⟩
  · intro ⟨source, summoned⟩
    exact ⟨(index, source), mem_summons_iff.2 ⟨agent, h, summoned⟩, rfl⟩

theorem pairwise_summons (network : Network) : network.summons.Pairwise fun first second ↦ first.1 < second.1 := by
  unfold summons
  rw [List.pairwise_filterMap, List.pairwise_iff_getElem]
  intro first second hfirst hsecond hlt entry hentry entry' hentry'
  rcases Option.map_eq_some_iff.1 hentry with ⟨_, -, rfl⟩
  rcases Option.map_eq_some_iff.1 hentry' with ⟨_, -, rfl⟩
  simpa using hlt

theorem nodup_agents_summons (network : Network) : (network.summons.map Prod.fst).Nodup := by
  rw [List.Nodup, List.pairwise_map]
  exact network.pairwise_summons.imp Nat.ne_of_lt

theorem length_summons_le (network : Network) : network.summons.length ≤ network.agents.length := by
  unfold summons
  have h := List.length_filterMap_le (fun entry : Agent × Nat ↦
    (summoned? network.medium.broker entry.1).map fun source ↦ (entry.2, source)) network.agents.zipIdx
  rwa [List.length_zipIdx] at h

/-- Tasks that are new get ready in their order. -/
theorem foldl_schedule_of_nodup (tasks : List Task) (network : Network) (new : (network.ready ++ tasks).Nodup) :
    tasks.foldl schedule network = { network with ready := network.ready ++ tasks } := by
  induction tasks generalizing network with
  | nil => simp
  | cons task rest ih =>
    have absent : task ∉ network.ready := by
      intro hmem
      exact (List.nodup_append.1 new).2.2 task hmem task List.mem_cons_self rfl
    have first : network.schedule task = { network with ready := network.ready ++ [task] } := by
      unfold schedule
      rw [if_neg (by simpa using absent)]
    rw [List.foldl_cons, first, ih _ (by simpa using new)]
    simp

theorem wake_of_settled (settled : network.ready = []) :
    network.wake = { network with ready := network.summons.map fun entry ↦ .dispatch entry.1 entry.2 } := by
  have tasks : (network.agents.zipIdx.filterMap fun entry ↦ wakeUp? network.medium.broker entry.2 entry.1) =
      network.summons.map fun entry ↦ .dispatch entry.1 entry.2 := by
    unfold summons
    rw [List.map_filterMap]
    simp only [wakeUp?_eq_map, Option.map_map]
    rfl
  have once : (network.summons.map fun entry ↦ Task.dispatch entry.1 entry.2).Nodup := by
    rw [List.Nodup, List.pairwise_map]
    refine network.pairwise_summons.imp ?_
    intro first second hlt same
    exact Nat.ne_of_lt hlt (Task.dispatch.inj same).1
  unfold wake
  rw [tasks, foldl_schedule_of_nodup _ _ (by simpa [settled] using once), settled, List.nil_append]

/-! ## Whom a message concerns -/

variable {foreign : ConnectionId → Prop} {phase : DispatcherPhase} {retain : Bool}

/-- When no work is left, a dispatcher that has not ended rests before an empty inbox. -/
theorem Steady.resting (steady : network.Steady foreign) (settled : network.ready = [])
    (h : network.agents[index]? = some agent) (reads : agent.dispatcher = some ⟨source, phase⟩)
    (working : phase ≠ .finished) :
    phase = .resting ∧ network.medium.broker.isClosed source = false ∧ network.medium.broker.inbox source = [] := by
  have idle : wakeUp? network.medium.broker index agent = none := by
    cases hwake : wakeUp? network.medium.broker index agent with
    | none => rfl
    | some task =>
      have hmem := steady.awake index agent task h hwake
      rw [settled] at hmem
      cases hmem
  cases phase with
  | busy => simp [wakeUp?, reads] at idle
  | finished => exact absurd rfl working
  | resting =>
    simp only [wakeUp?, reads] at idle
    split at idle
    · cases idle
    · rename_i nothing
      exact ⟨rfl, by simpa using nothing⟩

/-- A message puts to work the dispatchers of the agents that hold a live connection with a filter for it. -/
theorem Steady.summoned?_route_iff (steady : network.Steady foreign) (settled : network.ready = [])
    (h : network.agents[index]? = some agent) :
    summoned? (network.medium.broker.route message retain) agent = some source ↔
      agent.connection.handle = some source ∧ network.medium.broker.isLive source ∧
        network.medium.broker.wants source message.topic := by
  have hsound := steady.sound.sound_link h
  constructor
  · intro summoned
    unfold summoned? at summoned
    rcases reads : agent.dispatcher with _ | ⟨found, phase⟩
    · simp [reads] at summoned
    · cases phase with
      | finished => simp [reads] at summoned
      | busy => exact absurd (steady.resting settled h reads nofun).1 nofun
      | resting =>
        have rests := steady.resting settled h reads nofun
        simp only [reads, Broker.isClosed_route, Broker.inbox_route, rests.2.1, rests.2.2] at summoned
        split at summoned
        · rename_i concerned
          have same : found = source := Option.some.inj summoned
          subst same
          have concerned' : network.medium.broker.isLive found ∧ network.medium.broker.wants found message.topic := by
            simpa using concerned
          exact ⟨hsound.held ⟨found, .resting⟩ reads concerned'.1, concerned'⟩
        · cases summoned
  · intro ⟨held, live, wants⟩
    rcases hsound.dispatched source held with ⟨phase, reads⟩
    have working : phase ≠ .finished := fun finished ↦
      Broker.not_isLive_of_isClosed (hsound.finished ⟨source, phase⟩ reads finished) live
    have rests := steady.resting settled h reads working
    have reads' : agent.dispatcher = some ⟨source, .resting⟩ := rests.1 ▸ reads
    simp [summoned?, reads', Broker.inbox_route, live, wants]

/-- A dispatcher that a message has put to work finds the message alone in its inbox. -/
theorem Steady.expects_of_mem_summons {medium : Medium} (steady : network.Steady foreign) (settled : network.ready = [])
    (routed : medium.broker = network.medium.broker.route message retain)
    (hmem : (index, source) ∈ ({ network with medium } : Network).summons) :
    ∃ agent, network.agents[index]? = some agent ∧ agent.dispatcher = some ⟨source, .resting⟩ ∧
      medium.broker.inbox source = [message] := by
  rcases mem_summons_iff.1 hmem with ⟨agent, hagent, summoned⟩
  have hagent' : network.agents[index]? = some agent := hagent
  have summoned' : summoned? (network.medium.broker.route message retain) agent = some source := routed ▸ summoned
  rw [steady.summoned?_route_iff settled hagent'] at summoned'
  have hsound := steady.sound.sound_link hagent'
  rcases hsound.dispatched source summoned'.1 with ⟨phase, reads⟩
  have working : phase ≠ .finished := fun finished ↦
    Broker.not_isLive_of_isClosed (hsound.finished ⟨source, phase⟩ reads finished) summoned'.2.1
  have rests := steady.resting settled hagent' reads working
  refine ⟨agent, hagent', rests.1 ▸ reads, ?_⟩
  rw [routed, Broker.inbox_route, rests.2.2, summoned'.2.1, summoned'.2.2]
  rfl

theorem dispatcher_of_summoned? (h : summoned? broker agent = some source) :
    ∃ phase, agent.dispatcher = some ⟨source, phase⟩ := by
  unfold summoned? at h
  rcases reads : agent.dispatcher with _ | ⟨found, phase⟩
  · simp [reads] at h
  · cases phase with
    | busy => exact ⟨.busy, by simpa [reads] using h⟩
    | resting =>
      simp only [reads] at h
      split at h
      · exact ⟨.resting, by rw [Option.some.inj h]⟩
      · cases h
    | finished => simp [reads] at h

/-- No connection is looked into by two dispatchers. -/
theorem Sound.nodup_sources_summons (sound : network.Sound foreign) : (network.summons.map Prod.snd).Nodup := by
  have place : ∀ entry ∈ network.summons, ∃ (agent : Agent) (phase : DispatcherPhase),
      network.links[entry.1]? = some agent.link ∧ agent.link.dispatcher = some ⟨entry.2, phase⟩ := by
    intro entry hentry
    rcases mem_summons_iff.1 hentry with ⟨agent, hagent, summoned⟩
    rcases dispatcher_of_summoned? summoned with ⟨phase, reads⟩
    exact ⟨agent, phase, getElem?_links hagent, reads⟩
  rw [List.Nodup, List.pairwise_map]
  refine network.pairwise_summons.imp_of_mem ?_
  intro first second hfirst hsecond hlt same
  rcases place first hfirst with ⟨agent, phase, hlink, reads⟩
  rcases place second hsecond with ⟨other, last, hlink', reads'⟩
  exact Nat.ne_of_lt hlt (sound.readers first.1 second.1 _ _ _ _ hlink hlink' reads reads' same)

end Network

end PubSub
