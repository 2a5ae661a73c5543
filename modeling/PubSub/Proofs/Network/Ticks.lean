import PubSub.Network.Background
import Mathlib.Tactic.ByCases
/-!
# Steps of background work

What a step of background work comes to, told by the task that is next. A message is handed on in one case only.
-/

namespace PubSub.Network

variable {network after : Network} {agent : Agent} {index : Nat} {source : ConnectionId}

/-- What a step of background work makes of a network. -/
inductive Tick (network : Network) : Network → Prop
  /-- A dispatcher takes a message from its inbox and hands it on. -/
  | dispatch {index : Nat} {source : ConnectionId} {rest : List Task} {agent : Agent} {phase : DispatcherPhase}
    {message : Message} {broker : Broker} (ready : network.ready = .dispatch index source :: rest)
    (h : network.agents[index]? = some agent) (reads : agent.dispatcher = some ⟨source, phase⟩)
    (taken : network.medium.broker.take? source = some (message, broker))
    (handed : network.handed? = some (source, message, broker)) :
    Tick network (dispatch { network with medium := { network.medium with broker } } index agent message)
  /-- A dispatcher finds its inbox empty, and rests or ends. -/
  | rest {index : Nat} {source : ConnectionId} {rest : List Task} {agent : Agent} {former : DispatcherPhase}
    (ready : network.ready = .dispatch index source :: rest) (h : network.agents[index]? = some agent)
    (reads : agent.dispatcher = some ⟨source, former⟩) (empty : network.medium.broker.take? source = none)
    (handed : network.handed? = none) :
    Tick network (modifyAgent { network with ready := rest } index fun agent ↦ { agent with
      dispatcher := some ⟨source, if network.medium.broker.isClosed source then .finished else .resting⟩ })
  /-- There is nothing left to do. -/
  | pass {task : Task} {rest : List Task} (ready : network.ready = task :: rest)
    (closes : ∀ transport connection, task ≠ .close transport connection) (handed : network.handed? = none) :
    Tick network { network with ready := rest }
  | close {transport : Transport} {connection : ConnectionId} {rest : List Task}
    (ready : network.ready = .close transport connection :: rest) (handed : network.handed? = none) :
    Tick network (onMedium { network with ready := rest } fun medium ↦ (medium.close transport connection).1)
  | attempt {index : Nat} {rest : List Task} {attempt : Attempt} {agent : Agent}
    (ready : network.ready = .attempt index :: rest) (started : network.attempts[index]? = some attempt)
    (h : network.agents[attempt.agent]? = some agent) (handed : network.handed? = none) :
    Tick network (continueConnect { network with ready := rest } index attempt agent)

theorem eq_of_reads {dispatcher : Dispatcher}
    (reads : dispatcher.source = source && dispatcher.phase ≠ .finished) : dispatcher = ⟨source, dispatcher.phase⟩ := by
  rw [Bool.and_eq_true, decide_eq_true_eq] at reads
  rw [← reads.1]

theorem tick_of_tick? (h : network.tick? = some after) : network.Tick after := by
  unfold tick? at h
  split at h
  · cases h
  · rename_i index source rest ready
    obtain rfl := Option.some.inj h
    unfold lookInside
    cases hagent : network.agents[index]? with
    | none => exact .pass ready nofun (by simp [handed?, ready, hagent])
    | some agent =>
      cases hdispatcher : agent.dispatcher with
      | none =>
        simp only [hdispatcher, Option.any_none, Bool.false_eq_true, if_false]
        exact .pass ready nofun (by simp [handed?, ready, hagent, hdispatcher])
      | some dispatcher =>
        simp only [hdispatcher, Option.any_some]
        split
        · rename_i reads
          have reads' : agent.dispatcher = some ⟨source, dispatcher.phase⟩ := by
            rw [hdispatcher, ← eq_of_reads reads]
          cases htake : network.medium.broker.take? source with
          | none => exact .rest ready hagent reads' htake (by simp [handed?, ready, hagent, htake])
          | some taken =>
            refine .dispatch ready hagent reads' htake ?_
            simp only [handed?, ready, hagent, hdispatcher, Option.any_some, reads, if_true, htake, Option.map_some]
        · rename_i idle
          refine .pass ready nofun ?_
          simp only [handed?, ready, hagent, hdispatcher, Option.any_some, idle, Bool.false_eq_true, if_false]
  · rename_i transport connection rest ready
    obtain rfl := Option.some.inj h
    exact .close ready (by simp [handed?, ready])
  · rename_i index rest ready
    have handed : network.handed? = none := by simp [handed?, ready]
    simp only at h
    split at h
    · obtain rfl := Option.some.inj h
      exact .pass ready nofun handed
    · rename_i attempt started
      split at h
      · obtain rfl := Option.some.inj h
        exact .pass ready nofun handed
      · rename_i agent hagent
        obtain rfl := Option.some.inj h
        exact .attempt ready started hagent handed

theorem tick?_eq_none_iff : network.tick? = none ↔ network.ready = [] := by
  constructor
  · intro h
    unfold tick? at h
    split at h
    · assumption
    · cases h
    · cases h
    · simp only at h
      split at h
      · cases h
      · split at h <;> cases h
  · intro settled
    unfold tick?
    rw [settled]

theorem run_of_tick?_eq_none (settled : network.tick? = none) (steps : Nat) : network.run steps = network := by
  cases steps with
  | zero => rfl
  | succ steps => simp only [run, settled]

theorem run_of_tick? (h : network.tick? = some after) (steps : Nat) : network.run (steps + 1) = after.run steps := by
  simp only [run, h]

/-- A message is handed on by an agent that dispatches it, from the inbox that the agent's dispatcher reads. -/
theorem handed?_eq_some {message : Message} {broker : Broker}
    (handed : network.handed? = some (source, message, broker)) :
    network.medium.broker.take? source = some (message, broker) ∧
      ∃ (index : Nat) (agent : Agent) (phase : DispatcherPhase), network.agents[index]? = some agent ∧
        agent.dispatcher = some ⟨source, phase⟩ ∧
        network.tick? =
          some (dispatch { network with medium := { network.medium with broker } } index agent message) := by
  cases h : network.tick? with
  | none =>
    have settled := tick?_eq_none_iff.1 h
    simp [handed?, settled] at handed
  | some after =>
    cases tick_of_tick? h with
    | @dispatch index other rest agent phase found last ready hagent reads taken own =>
      rw [own, Option.some.injEq, Prod.mk.injEq, Prod.mk.injEq] at handed
      obtain ⟨rfl, rfl, rfl⟩ := handed
      exact ⟨taken, index, agent, phase, hagent, reads, rfl⟩
    | rest ready hagent reads empty own => simp [own] at handed
    | pass ready closes own => simp [own] at handed
    | close ready own => simp [own] at handed
    | attempt ready started hagent own => simp [own] at handed

/-! ## Connects in the background -/

/-- The network on which the answer to a connect counts, with the agent there: the connect was asked for before, or it
is asked for now. -/
inductive Asks (network : Network) (attempt : Attempt) (agent : Agent) : Network → Agent → Prop
  | before : Asks network attempt agent network agent
  | now {medium : Medium} {begun : Agent} {pending : Pending}
    (began : agent.beginConnect network.medium attempt.overrides = .ok (medium, begun, pending)) :
    Asks network attempt agent (wake (setAgent { network with medium } attempt.agent begun)) begun

/-- What carrying on a connect makes of a network. -/
inductive Carry (network : Network) (number : Nat) (attempt : Attempt) (agent : Agent) : Network → Prop
  /-- It waits for its answer, or it has ended. -/
  | idle : Carry network number attempt agent network
  | refuse {error : Error} (refused : agent.beginConnect network.medium attempt.overrides = .error error) :
    Carry network number attempt agent (network.finishConnect number attempt (.error error))
  /-- Its answer is held back. -/
  | wait {asked : Network} {begun : Agent} {pending : Pending} {held : Nat}
    (asks : network.Asks attempt agent asked begun) :
    Carry network number attempt agent (asked.setProgress number (.gated held pending))
  | answer {asked : Network} {begun : Agent} {pending : Pending} (asks : network.Asks attempt agent asked begun) :
    Carry network number attempt agent (asked.completeConnect number attempt begun pending)

theorem carry_continueConnect (network : Network) (number : Nat) (attempt : Attempt) (agent : Agent) :
    network.Carry number attempt agent (network.continueConnect number attempt agent) := by
  cases progress : attempt.progress with
  | queued =>
    cases began : agent.beginConnect network.medium attempt.overrides with
    | error error =>
      have ends : network.continueConnect number attempt agent =
          network.finishConnect number attempt (.error error) := by
        simp only [continueConnect, progress, began]
        rfl
      rw [ends]
      exact .refuse began
    | ok found =>
      obtain ⟨medium, begun, pending⟩ := found
      simp only [continueConnect, progress, began]
      split
      · exact .wait (.now began)
      · exact .answer (.now began)
  | released pending =>
    simp only [continueConnect, progress]
    exact .answer .before
  | gated number pending =>
    simp only [continueConnect, progress]
    exact .idle
  | finished =>
    simp only [continueConnect, progress]
    exact .idle

end PubSub.Network
