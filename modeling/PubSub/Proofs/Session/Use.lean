import PubSub.Proofs.Agent.Registry
import PubSub.Proofs.Session.Conduct
/-!
# Agents in use

An agent is in use as long as somebody holds it or a connect of it is under way. It falls out of use when it is let go
of, or when the last connect ends of an agent that nobody holds, and then it is given up: it reads nothing any more. A
connect that does not succeed leaves it with what it reads, and subscribes nothing.
-/

namespace PubSub

/-- Nobody comes to hold an agent that was let go of. -/
theorem Agent.Deed.held {allowed : Allowance} {agent later : Agent} (deed : Agent.Deed allowed agent later)
    (held : later.held) : agent.held := by
  cases deed with
  | ask h => exact (framed_of_beginConnect h).held_eq ▸ held
  | complete medium pending permitted => exact (framed_completeConnect medium agent pending).held_eq ▸ held
  | disconnect medium => exact (framed_disconnect medium agent).held_eq ▸ held
  | letGo => cases held
  | createSender h permitted =>
    obtain ⟨-, ⟨-, -, rfl⟩ | ⟨sender, -, -, -, -, rfl⟩⟩ := createSender_outcome h
    · exact held
    · exact held
  | createReceiver h permitted =>
    obtain ⟨-, ⟨-, -, rfl⟩ | ⟨receiver, added, -, -, -, -, rfl, -⟩⟩ := createReceiver_outcome h
    · exact held
    · exact held
  | release => exact held
  | rest phase reads => exact held
  | retune same => exact held

theorem Agent.Conduct.held {allowed : Allowance} {agent later : Agent} (conduct : Agent.Conduct allowed agent later)
    (held : later.held) : agent.held := by
  induction conduct with
  | refl => exact held
  | tail _ deed ih => exact ih (deed.held held)

namespace Network

variable {network before middle after : Network} {agent changed : Agent} {index number : Nat} {attempt : Attempt}
  {connection : ConnectionId}

/-- Whether somebody holds an agent, or a connect of it is under way. -/
def InUse (network : Network) (index : Nat) : Prop :=
  network.agents[index]?.any Agent.held ∨ network.isConnecting index

/-- Who is held, and which connects there are. -/
def usage (network : Network) : List Bool × List Attempt :=
  (network.agents.map Agent.held, network.attempts)

/-- Whoever is in use stays so, or reads nothing. -/
def Frees (before after : Network) : Prop :=
  ∀ index, before.InUse index → after.InUse index ∨ ∀ connection, ¬after.Reads index connection

/-! ## Usage -/

theorem any_held_iff : network.agents[index]?.any Agent.held ↔ network.usage.1[index]? = some true := by
  unfold usage
  rw [List.getElem?_map]
  cases network.agents[index]? <;> simp

theorem inUse_iff : network.InUse index ↔ network.usage.1[index]? = some true ∨
    network.usage.2.any fun attempt ↦ attempt.agent = index && attempt.progress ≠ .finished := by
  rw [← any_held_iff]
  rfl

theorem inUse_congr (same : after.usage = before.usage) : after.InUse index ↔ before.InUse index := by
  rw [inUse_iff, inUse_iff, same]

theorem attempts_of_usage (same : after.usage = before.usage) : after.attempts = before.attempts :=
  congrArg Prod.snd same

theorem Frees.of_usage (same : after.usage = before.usage) : before.Frees after :=
  fun _ used ↦ .inl ((inUse_congr same).2 used)

theorem Frees.trans_of_usage (same : middle.usage = before.usage) (frees : middle.Frees after) : before.Frees after :=
  fun index used ↦ frees index ((inUse_congr same).2 used)

theorem usage_schedule (network : Network) (task : Task) : (network.schedule task).usage = network.usage := by
  obtain ⟨ready, same, -⟩ := schedule_eq network task
  rw [same]
  rfl

theorem usage_wake (network : Network) : network.wake.usage = network.usage := by
  obtain ⟨ready, same, -⟩ := wake_eq network
  rw [same]
  rfl

/-- An agent is exchanged for one that is held if it was. -/
theorem usage_set (h : network.agents[index]? = some agent) (held : changed.held = agent.held)
    (agents : after.agents = network.agents.set index changed) (attempts : after.attempts = network.attempts) :
    after.usage = network.usage := by
  have kept : (network.agents.set index changed).map Agent.held = network.agents.map Agent.held := by
    apply List.ext_getElem?
    intro place
    by_cases own : index = place
    · subst own
      rw [List.getElem?_map, List.getElem?_set_self (List.getElem?_eq_some_iff.1 h).1, List.getElem?_map, h]
      exact congrArg some held
    · rw [List.getElem?_map, List.getElem?_map, List.getElem?_set_ne own]
  rw [usage, usage, agents, attempts, kept]

theorem usage_modifyAgent (network : Network) (index : Nat) {change : Agent → Agent}
    (held : ∀ agent, (change agent).held = agent.held) : (network.modifyAgent index change).usage = network.usage := by
  cases h : network.agents[index]? with
  | none => rw [modifyAgent, List.modify_eq_self (List.getElem?_eq_none_iff.1 h)]
  | some agent =>
    rw [modifyAgent_eq h]
    exact usage_set h (held agent) rfl rfl

theorem usage_setAgent (h : network.agents[index]? = some agent) (held : changed.held = agent.held) :
    (network.setAgent index changed).usage = network.usage := by
  obtain ⟨ready, same, -⟩ := setAgent_eq network index changed
  rw [same]
  exact usage_set h held rfl rfl

theorem Stirs.usage_eq (stirs : before.Stirs after) : after.usage = before.usage := by
  induction stirs with
  | refl => rfl
  | @tail middle after _ stir ih =>
    refine Eq.trans ?_ ih
    cases stir with
    | observe observation => rfl
    | retune id change same => exact usage_modifyAgent middle id.agent fun _ ↦ rfl
    | broker operation => exact usage_wake _
    | reply replies => rfl

/-! ## Giving up -/

section GiveUp

variable {dispose : Network → Agent → ConnectionId → Network} (disposes : dispose = closeLater ∨ dispose = forget)
include disposes

theorem usage_giveUp (network : Network) (index : Nat) : (network.giveUp index dispose).usage = network.usage := by
  unfold giveUp
  split
  · rfl
  · rename_i agent h
    have released : (network.setAgent index agent.release.1).usage = network.usage := usage_setAgent h rfl
    simp only
    split
    · exact released
    · refine Eq.trans ?_ released
      rcases disposes with rfl | rfl
      · exact usage_schedule _ _
      · exact usage_wake _

end GiveUp

/-! ## The end of a connect -/

/-- The network in which a connect has ended, before an agent that nobody holds is given up. -/
def ended (network : Network) (number : Nat) (attempt : Attempt) (result : Except Error Unit) : Network :=
  (network.setProgress number .finished).observe (.completed attempt.ticket result)

/-- An agent is given up after a connect just if it is not in use any more. -/
theorem finishConnect_cases (network : Network) (number : Nat) (attempt : Attempt) (result : Except Error Unit)
    (h : network.agents[attempt.agent]? = some agent) :
    ((network.ended number attempt result).InUse attempt.agent ∧
      network.finishConnect number attempt result = network.ended number attempt result) ∨
    (¬(network.ended number attempt result).InUse attempt.agent ∧
      network.finishConnect number attempt result =
        (network.ended number attempt result).giveUp attempt.agent closeLater) := by
  let ended := network.ended number attempt result
  have h' : ended.agents[attempt.agent]? = some agent := h
  have finishes : network.finishConnect number attempt result =
      if ended.agents[attempt.agent]?.any (fun agent ↦ !agent.held) && !ended.isConnecting attempt.agent then
        ended.giveUp attempt.agent closeLater
      else ended := rfl
  have unused : (ended.agents[attempt.agent]?.any (fun agent ↦ !agent.held) && !ended.isConnecting attempt.agent) ↔
      ¬ended.InUse attempt.agent := by
    simp [InUse, h']
  rw [finishes]
  by_cases used : ended.InUse attempt.agent
  · exact .inl ⟨used, if_neg fun test ↦ unused.1 test used⟩
  · exact .inr ⟨used, if_pos (unused.2 used)⟩

/-- When a connect has ended, the agent is as it was, or it is not in use and reads nothing. -/
theorem finishConnect_own (number : Nat) (result : Except Error Unit)
    (h : network.agents[attempt.agent]? = some agent) :
    ((network.finishConnect number attempt result).InUse attempt.agent ∧
      (network.finishConnect number attempt result).agents[attempt.agent]? = some agent) ∨
    (¬(network.finishConnect number attempt result).InUse attempt.agent ∧
      ∀ connection, ¬(network.finishConnect number attempt result).Reads attempt.agent connection) := by
  rcases finishConnect_cases network number attempt result h with ⟨used, same⟩ | ⟨unused, same⟩
  · rw [same]
    exact .inl ⟨used, h⟩
  · rw [same]
    refine .inr ⟨?_, fun connection ↦ Traffic.not_reads_giveUp (.inl rfl)⟩
    rw [inUse_congr (usage_giveUp (.inl rfl) _ _)]
    exact unused

/-- A connect that is under way is missed by nobody if it stays one of its agent. -/
theorem isConnecting_modify {change : Attempt → Attempt}
    (stays : ∀ attempt, network.attempts[number]? = some attempt → attempt.agent = index →
      attempt.progress ≠ .finished → (change attempt).agent = index ∧ (change attempt).progress ≠ .finished)
    (connecting : network.isConnecting index) :
    isConnecting { network with attempts := network.attempts.modify number change } index := by
  obtain ⟨other, hmem, running⟩ := List.any_eq_true.1 connecting
  obtain ⟨place, hplace⟩ := List.getElem?_of_mem hmem
  simp only [Bool.and_eq_true, decide_eq_true_eq] at running
  refine List.any_eq_true.2 ?_
  by_cases own : number = place
  · subst own
    refine ⟨change other, List.mem_of_getElem? (i := number) ?_, by simp [stays other hplace running.1 running.2]⟩
    rw [List.getElem?_modify_eq, hplace]
    rfl
  · refine ⟨other, List.mem_of_getElem? (i := place) ?_, by simp [running]⟩
    rw [List.getElem?_modify_ne _ _ own]
    exact hplace

theorem isConnecting_setProgress {progress : Progress} (started : network.attempts[number]? = some attempt)
    (stays : attempt.agent = index → progress ≠ .finished) (connecting : network.isConnecting index) :
    (network.setProgress number progress).isConnecting index := by
  refine isConnecting_modify (fun other hother own running ↦ ?_) connecting
  obtain rfl : attempt = other := Option.some.inj (started.symm.trans hother)
  exact ⟨own, stays own⟩

theorem frees_finishConnect {number : Nat} (result : Except Error Unit)
    (started : network.attempts[number]? = some attempt) (h : network.agents[attempt.agent]? = some agent) :
    network.Frees (network.finishConnect number attempt result) := by
  intro index used
  by_cases own : attempt.agent = index
  · subst own
    exact (finishConnect_own number result h).imp And.left And.right
  · have ended : (network.ended number attempt result).InUse index :=
      used.imp_right (isConnecting_setProgress started fun same ↦ absurd same own)
    left
    rcases finishConnect_cases network number attempt result h with ⟨-, same⟩ | ⟨-, same⟩
    · rw [same]
      exact ended
    · rw [same, inUse_congr (usage_giveUp (.inl rfl) _ _)]
      exact ended

/-! ## Connects in the background -/

/-- Whether a call asks for no subscription. -/
abbrev Unsubscribing (call : Call) : Prop :=
  call.subscribes = false

/-- From one network to a later one, between which a connect of the agent at a place has not succeeded: nothing was
subscribed, and the agent has started no dispatcher, and has stopped none if it is in use. -/
structure Fruitless (index : Nat) (before after : Network) : Prop where
  calls : ∀ label pattern qos,
    .call label (.subscribe pattern qos) ∉ after.medium.observations.drop before.medium.observations.length
  filters : before.medium.broker.Narrows after.medium.broker
  reads : ∀ connection, after.Reads index connection → before.Reads index connection
  kept : after.InUse index → ∀ connection, before.Reads index connection → after.Reads index connection

theorem calls_of_logged {observations : List Observation}
    (logged : ∀ observation ∈ observations, observation.IsLogged Unsubscribing) (label : String) (pattern : String)
    (qos : QoS) : .call label (.subscribe pattern qos) ∉ observations := by
  intro hmem
  have unsubscribing : Call.subscribes (.subscribe pattern qos) = false := logged _ hmem
  cases unsubscribing

theorem getElem?_onAgent {α : Type} (h : network.agents[index]? = some agent)
    (operation : Medium → Agent → Medium × Agent × α) :
    (network.onAgent index agent operation).1.agents[index]? = some (operation network.medium agent).2.1 := by
  have h' : ({ network with medium := (operation network.medium agent).1 } : Network).agents[index]? = some agent := h
  exact getElem?_wake_setAgent h' _

theorem fruitless_onAgent {α : Type} (h : network.agents[index]? = some agent)
    (operation : Medium → Agent → Medium × Agent × α)
    (logs : network.medium.Logs Unsubscribing (operation network.medium agent).1)
    (narrows : network.medium.broker.Narrows (operation network.medium agent).1.broker)
    (same : (operation network.medium agent).2.1.dispatcher = agent.dispatcher) :
    network.Fruitless index (network.onAgent index agent operation).1 := by
  have reads (connection : ConnectionId) : (network.onAgent index agent operation).1.Reads index connection ↔
      network.Reads index connection := by
    rw [reads_iff (getElem?_onAgent h operation), reads_iff h, same]
  refine ⟨?_, ?_, fun connection ↦ (reads connection).1, fun _ connection ↦ (reads connection).2⟩
  · rw [medium_onAgent]
    exact calls_of_logged fun _ hmem ↦ logs.mem_drop hmem
  · rw [medium_onAgent]
    exact narrows

namespace Asks

variable {asked : Network} {begun : Agent} {result : Except Error Unit}

theorem narrows (asks : network.Asks attempt agent asked begun) :
    network.medium.broker.Narrows asked.medium.broker := by
  rcases asks.medium_cases with ⟨same, -⟩ | ⟨pending, began⟩
  · rw [same]
    exact .refl network.medium.broker
  · exact Agent.narrows_of_beginConnect began

theorem agent_eq (asks : network.Asks attempt agent asked begun) :
    begun.dispatcher = agent.dispatcher ∧ begun.held = agent.held ∧
      network.medium.broker.clients.length ≤ asked.medium.broker.clients.length := by
  rcases asks.medium_cases with ⟨same, rfl⟩ | ⟨pending, began⟩
  · exact ⟨rfl, rfl, same ▸ Nat.le_refl _⟩
  · obtain ⟨rfl, -, broker⟩ := Agent.beginConnect_eq_ok began
    refine ⟨rfl, rfl, ?_⟩
    rw [broker]
    cases agent.connection.handle <;> simp [Broker.close, Broker.modifyClient]

theorem usage_eq (asks : network.Asks attempt agent asked begun) (h : network.agents[attempt.agent]? = some agent) :
    asked.usage = network.usage := by
  cases asks with
  | before => rfl
  | @now medium begun pending began =>
    have held : begun.held = agent.held := by rw [(Agent.beginConnect_eq_ok began).1]
    have h' : ({ network with medium } : Network).agents[attempt.agent]? = some agent := h
    exact (usage_wake _).trans (usage_setAgent h' held)

end Asks

/-- An agent whose connect has ended reads what it read before, or it is not in use and reads nothing. -/
theorem reads_finishConnect {asked : Network} (h : network.agents[attempt.agent]? = some agent)
    (place : asked.agents[attempt.agent]? = some changed) (same : changed.dispatcher = agent.dispatcher) (number : Nat)
    (result : Except Error Unit) :
    (∀ connection, (asked.finishConnect number attempt result).Reads attempt.agent connection →
      network.Reads attempt.agent connection) ∧
    ((asked.finishConnect number attempt result).InUse attempt.agent → ∀ connection,
      network.Reads attempt.agent connection →
        (asked.finishConnect number attempt result).Reads attempt.agent connection) := by
  rcases finishConnect_own number result place with ⟨-, own⟩ | ⟨unused, unread⟩
  · have iff (connection : ConnectionId) : (asked.finishConnect number attempt result).Reads attempt.agent connection ↔
        network.Reads attempt.agent connection := by
      rw [reads_iff own, reads_iff h, same]
    exact ⟨fun connection ↦ (iff connection).1, fun _ connection ↦ (iff connection).2⟩
  · exact ⟨fun connection reads ↦ absurd reads (unread connection), fun used ↦ absurd used unused⟩

/-- A step of a connect in the background either brings it to success, and then the agent reads a new connection if it
reads any, or has no fruit. -/
theorem continueConnect_outcome (number : Nat) (h : network.agents[attempt.agent]? = some agent) :
    (.completed attempt.ticket (.ok ()) ∈
        (network.continueConnect number attempt agent).medium.observations.drop network.medium.observations.length ∧
      ∀ connection, (network.continueConnect number attempt agent).Reads attempt.agent connection →
        network.medium.broker.clients.length ≤ connection) ∨
    (.completed attempt.ticket (.ok ()) ∉
        (network.continueConnect number attempt agent).medium.observations.drop network.medium.observations.length ∧
      network.Fruitless attempt.agent (network.continueConnect number attempt agent)) := by
  have carry := network.carry_continueConnect number attempt agent
  generalize network.continueConnect number attempt agent = after at carry ⊢
  cases carry with
  | idle =>
    refine .inr ⟨by simp, ?_, .refl _, fun _ reads ↦ reads, fun _ _ reads ↦ reads⟩
    simp
  | @refuse error refused =>
    have news : (network.finishConnect number attempt (.error error)).medium.observations.drop
        network.medium.observations.length = [.completed attempt.ticket (.error error)] := by
      rw [medium_finishConnect, Medium.observe, List.drop_left]
    have reads := reads_finishConnect h h rfl number (.error error)
    refine .inr ⟨by simp [news], by simp [news], ?_, reads.1, reads.2⟩
    rw [medium_finishConnect]
    exact .refl _
  | @wait asked begun pending held asks =>
    have logs : network.medium.Logs Unsubscribing asked.medium := asks.logs rfl fun _ _ ↦ rfl
    have place : (asked.setProgress number (.gated held pending)).agents[attempt.agent]? = some begun :=
      asks.getElem? h
    have same (connection : ConnectionId) : (asked.setProgress number (.gated held pending)).Reads attempt.agent
        connection ↔ network.Reads attempt.agent connection := by
      rw [reads_iff place, reads_iff h, asks.agent_eq.1]
    refine .inr ⟨fun hmem ↦ logs.mem_drop hmem, calls_of_logged fun _ hmem ↦ logs.mem_drop hmem, asks.narrows,
      fun connection ↦ (same connection).1, fun _ connection ↦ (same connection).2⟩
  | @answer asked begun pending asks =>
    have place := asks.getElem? h
    have own := getElem?_onAgent place fun medium agent ↦ agent.completeConnect medium pending
    rcases Agent.dispatcher_completeConnect asked.medium begun pending with
      ⟨failed, same⟩ | ⟨answered, handle, -, le, done, started⟩
    · have reads := reads_finishConnect h own (same.trans asks.agent_eq.1) number
        (begun.completeConnect asked.medium pending).2.2
      obtain ⟨added, logged, news⟩ := asks.observations Unsubscribing number pending rfl (fun _ _ ↦ rfl)
        (by simp [failed])
      refine .inr ⟨?_, ?_, ?_, reads.1, reads.2⟩
      · rw [news]
        intro hmem
        rcases List.mem_append.1 hmem with hmem | hmem
        · exact logged _ hmem
        · obtain ⟨-, done⟩ := Observation.completed.inj (List.mem_singleton.1 hmem)
          rw [← done] at failed
          cases failed
      · intro label pattern qos hmem
        rw [news] at hmem
        rcases List.mem_append.1 hmem with hmem | hmem
        · exact calls_of_logged logged label pattern qos hmem
        · cases List.mem_singleton.1 hmem
      · rw [medium_completeConnect]
        exact asks.narrows.trans (Agent.narrows_completeConnect failed)
    · obtain ⟨added, -, news⟩ := asks.observations (fun _ ↦ True) number pending trivial (fun _ _ ↦ trivial)
        fun _ _ _ ↦ trivial
      rw [eq_ok_of_isOk done] at news
      refine .inl ⟨?_, fun connection reads ↦ ?_⟩
      · rw [news]
        exact List.mem_append_right _ (List.mem_singleton_self _)
      · rw [completeConnect_eq] at reads
        rcases finishConnect_own number (begun.completeConnect asked.medium pending).2.2 own with
          ⟨-, place⟩ | ⟨-, unread⟩
        · obtain ⟨phase, same⟩ := (reads_iff place).1 reads
          obtain rfl : handle = connection :=
            congrArg Dispatcher.source (Option.some.inj (started.symm.trans same))
          exact Nat.le_trans asks.agent_eq.2.2 le
        · exact absurd reads (unread connection)

theorem frees_continueConnect {number : Nat} (started : network.attempts[number]? = some attempt)
    (h : network.agents[attempt.agent]? = some agent) :
    network.Frees (network.continueConnect number attempt agent) := by
  have carry := network.carry_continueConnect number attempt agent
  generalize network.continueConnect number attempt agent = after at carry ⊢
  cases carry with
  | idle => exact .of_usage rfl
  | refuse refused => exact frees_finishConnect _ started h
  | @wait asked begun pending held asks =>
    have same := asks.usage_eq h
    have started' : asked.attempts[number]? = some attempt := by rw [attempts_of_usage same, started]
    refine .trans_of_usage same fun index used ↦ .inl ?_
    exact used.imp_right (isConnecting_setProgress started' (by simp))
  | @answer asked begun pending asks =>
    have place := asks.getElem? h
    have held := (Agent.framed_completeConnect asked.medium begun pending).held_eq
    have place' : ({ asked with medium := (begun.completeConnect asked.medium pending).1 } : Network).agents[
        attempt.agent]? = some begun := place
    have usage : (asked.onAgent attempt.agent begun fun medium agent ↦ agent.completeConnect medium pending).1.usage =
        network.usage :=
      ((usage_wake _).trans (usage_setAgent place' held)).trans (asks.usage_eq h)
    rw [completeConnect_eq]
    refine .trans_of_usage usage (frees_finishConnect _ ?_ (getElem?_onAgent place _))
    rw [attempts_of_usage usage, started]

/-! ## Background work -/

/-- Whether the next step of background work is one of a connect of the agent at a place. -/
def Carries (network : Network) (index : Nat) : Prop :=
  ∃ number attempt, network.ready.head? = some (.attempt number) ∧ network.attempts[number]? = some attempt ∧
    attempt.agent = index

theorem frees_tick? (h : network.tick? = some after) : network.Frees after := by
  cases tick_of_tick? h with
  | @dispatch index source rest agent phase message broker ready hagent reads taken handed =>
    exact .of_usage (stirs_dispatch _ index agent message).usage_eq
  | rest ready hagent reads empty handed => exact .of_usage (usage_modifyAgent _ _ fun _ ↦ rfl)
  | pass ready closes handed => exact .of_usage rfl
  | close ready handed => exact .of_usage (usage_wake _)
  | @attempt number rest attempt agent ready started hagent handed =>
    have started' : ({ network with ready := rest } : Network).attempts[number]? = some attempt := started
    have hagent' : ({ network with ready := rest } : Network).agents[attempt.agent]? = some agent := hagent
    exact .trans_of_usage rfl (frees_continueConnect started' hagent')

/-- A step of a connect brings it to success, or it has no fruit. -/
theorem carries_cases (h : network.tick? = some after) (carries : network.Carries index) :
    network.Completes index ∧ (∀ connection, after.Reads index connection →
      network.medium.broker.clients.length ≤ connection) ∨
    ¬network.Completes index ∧ network.Fruitless index after := by
  obtain ⟨number, attempt, head, started, rfl⟩ := carries
  have unique {found : Nat} {other : Attempt} (head' : network.ready.head? = some (.attempt found))
      (started' : network.attempts[found]? = some other) : other = attempt := by
    obtain rfl : found = number := Task.attempt.inj (Option.some.inj (head'.symm.trans head))
    exact Option.some.inj (started'.symm.trans started)
  have completes_iff : network.Completes attempt.agent ↔ .completed attempt.ticket (.ok ()) ∈
      after.medium.observations.drop network.medium.observations.length := by
    constructor
    · rintro ⟨last, found, other, ticks, head', started', -, observed⟩
      obtain rfl : last = after := Option.some.inj (ticks.symm.trans h)
      rwa [unique head' started'] at observed
    · exact fun observed ↦ ⟨after, number, attempt, h, head, started, rfl, observed⟩
  rw [completes_iff]
  cases tick_of_tick? h with
  | @attempt found rest other agent ready started' hagent handed =>
    obtain rfl : other = attempt := unique (by rw [ready]; rfl) started'
    have hagent' : ({ network with ready := rest } : Network).agents[other.agent]? = some agent := hagent
    rcases continueConnect_outcome found hagent' with succeeds | ⟨unobserved, fruitless⟩
    · exact .inl succeeds
    · exact .inr ⟨unobserved, fruitless.calls, fruitless.filters, fruitless.reads, fruitless.kept⟩
  | pass ready closes handed =>
    refine .inr ⟨by simp, by simp, .refl _, fun _ reads ↦ reads, fun _ _ reads ↦ reads⟩
  | dispatch ready hagent reads taken handed => simp [ready] at head
  | rest ready hagent reads empty handed => simp [ready] at head
  | close ready handed => simp [ready] at head

end Network

end PubSub
