import PubSub.Proofs.Secrecy.Session
import PubSub.Proofs.Session.Reachable
import PubSub.Session.Traffic
/-!
# Passwords stay hidden

Two sessions that are asked the same, but for passwords, go the same way and show the same, as long as the credentials
that they compare come to the same each time. What is left to tell them apart are the password that a transport is
handed and the one that agents keep in their options.
-/

namespace PubSub

/-! ## What is seen -/

/-- What an agent shows of itself at any time: the address of its broker, its description, its options and all of itself
in diagnostic texts, the state of its connection, and whether it is connected. -/
def Agent.shown (medium : Medium) (agent : Agent) :
    String × (String × String × String) × String × String × ConnectionState × Bool :=
  (agent.options.uri, agent.description, agent.options.inspect, agent.inspect medium, agent.connection.state,
    agent.isConnected medium)

theorem Agent.shown_redacted (passes : Bool) (medium : Medium) (agent : Agent) :
    agent.redacted.shown (medium.redacted passes) = agent.shown medium := by
  simp only [shown, options_redacted, BrokerOptions.uri_redacted, BrokerOptions.inspect_redacted, description_redacted,
    inspect_redacted, connection_redacted, isConnected_redacted]

theorem Report.grouped_map {α β : Type} (view : α → β) (entries : List (String × α)) :
    grouped (entries.map (Prod.map id view)) = (grouped entries).map (Prod.map id (List.map view)) := by
  have labels : (entries.map (Prod.map id view)).map Prod.fst = entries.map Prod.fst := by
    rw [List.map_map]
    rfl
  rw [grouped, grouped, labels, List.map_map]
  refine List.map_congr_left fun label _ ↦ congrArg (Prod.mk label) ?_
  rw [List.filter_map, List.map_map, List.map_map]
  rfl

theorem Report.ofObservations_redacted (sorted : Bool) (observations : List Observation) :
    ofObservations sorted (observations.map Observation.redacted) = (ofObservations sorted observations).redacted := by
  have call (observation : Observation) :
      call? observation.redacted = (call? observation).map (Prod.map id Call.redacted) := by
    cases observation <;> rfl
  have event (observation : Observation) : event? observation.redacted = event? observation := by
    cases observation <;> rfl
  have completed (observation : Observation) : completed? observation.redacted = completed? observation := by
    cases observation <;> rfl
  have warning (observation : Observation) : isWarning observation.redacted = isWarning observation := by
    cases observation <;> rfl
  have failure (observation : Observation) : isFailure observation.redacted = isFailure observation := by
    cases observation <;> rfl
  have calls : (observations.map Observation.redacted).filterMap call? =
      (observations.filterMap call?).map (Prod.map id Call.redacted) := by
    rw [List.filterMap_map, List.map_filterMap]
    exact congrArg (List.filterMap · observations) (funext call)
  simp only [ofObservations, redacted, calls, grouped_map, List.filterMap_map, List.countP_map, Function.comp_def,
    event, completed, warning, failure]
  rfl

/-! ## Comparisons -/

/-- What an option holds is told from what follows it if it is known whether it holds anything. -/
theorem eq_of_toList_append {α : Type} {first second : Option α} {rest others : List α}
    (both : first.isSome = second.isSome) (h : first.toList ++ rest = second.toList ++ others) :
    first = second ∧ rest = others := by
  cases first <;> cases second <;> simp_all

/-- An option holds at most one thing. -/
theorem exists_outcome (compared : Option Bool) : ∃ passes, ∀ same ∈ compared, same = passes := by
  cases compared with
  | none => exact ⟨true, by simp⟩
  | some passes => exact ⟨passes, by simp⟩

namespace Network

/-- What the comparisons come to that steps of background work make, the first one first. -/
def comparisons : Nat → Network → List Bool
  | 0, _ => []
  | steps + 1, network =>
    network.compared?.toList ++
      match network.tick? with
      | none => []
      | some next => comparisons steps next

variable {network other : Network}

theorem redacted_eq (alike : network.redacted true = other.redacted true) (passes : Bool) :
    network.redacted passes = other.redacted passes := by
  rw [← redacted_redacted passes true, alike, redacted_redacted]

theorem isSome_compared?_alike (alike : network.redacted true = other.redacted true) :
    network.compared?.isSome = other.compared?.isSome := by
  rw [← @isSome_compared?_redacted true network, alike, isSome_compared?_redacted]

theorem tick?_alike (alike : network.redacted true = other.redacted true)
    (compared : network.compared? = other.compared?) :
    network.tick?.map (redacted true) = other.tick?.map (redacted true) := by
  obtain ⟨passes, outcome⟩ := exists_outcome network.compared?
  -- With the comparison settled, both networks do what one and the same redacted network does.
  have both : network.tick?.map (redacted passes) = other.tick?.map (redacted passes) := by
    rw [← tick?_redacted outcome, redacted_eq alike passes, tick?_redacted (compared ▸ outcome)]
  have again := congrArg (Option.map (redacted true)) both
  simpa only [Option.map_map, Function.comp_def, redacted_redacted] using again

theorem run_alike (steps : Nat) (alike : network.redacted true = other.redacted true) {rest others : List Bool}
    (compared : network.comparisons steps ++ rest = other.comparisons steps ++ others) :
    (network.run steps).redacted true = (other.run steps).redacted true ∧ rest = others := by
  induction steps generalizing network other with
  | zero => exact ⟨alike, compared⟩
  | succ steps ih =>
    rw [comparisons, comparisons, List.append_assoc, List.append_assoc] at compared
    -- Both make a comparison now or neither does, so that what is left of both lists belongs to the steps to come.
    obtain ⟨first, compared⟩ := eq_of_toList_append (isSome_compared?_alike alike) compared
    have ticks := tick?_alike alike first
    rw [run, run]
    cases now : network.tick? with
    | none =>
      have idle : other.tick? = none := by simpa [now] using ticks.symm
      rw [now, idle] at compared
      rw [idle]
      exact ⟨alike, compared⟩
    | some next =>
      obtain ⟨found, later, same⟩ : ∃ found, other.tick? = some found ∧ found.redacted true = next.redacted true := by
        rw [now, Option.map_some] at ticks
        exact Option.map_eq_some_iff.1 ticks.symm
      rw [now, later] at compared
      rw [later]
      exact ih same.symm compared

end Network

namespace Session

variable {session other : Session}

/-- What the comparisons come to that a step makes, the first one first. -/
def comparisonsOf (session : Session) (step : Step) : List Bool :=
  (session.cleared.compared? step.request).toList ++
    if step.settles then (session.cleared.handle step.request).1.network.comparisons settleLimit else []

/-- What the comparisons come to that steps make, the first one first. -/
def comparisons (session : Session) : List Step → List Bool
  | [] => []
  | step :: rest => session.comparisonsOf step ++ (session.step step).1.comparisons rest

theorem redacted_eq (alike : session.redacted true = other.redacted true) (passes : Bool) :
    session.redacted passes = other.redacted passes := by
  rw [← redacted_redacted passes true, alike, redacted_redacted]

theorem told_told (passes before : Bool) (result : Session × Except Refusal Answer) :
    told passes (told before result) = told passes result := by
  rcases result with ⟨session, error | answer⟩
  · exact Prod.ext (redacted_redacted passes before session) rfl
  · refine Prod.ext (redacted_redacted passes before session) (congrArg Except.ok ?_)
    cases answer <;> rfl

theorem isSome_compared?_redacted (passes : Bool) (request : Request) :
    ((session.redacted passes).compared? (request.redacted passes)).isSome = (session.compared? request).isSome := by
  cases request with
  | build request =>
    have label : request.redacted.agent = request.agent := rfl
    simp only [Request.redacted, compared?, label, network_redacted, Network.medium_redacted,
      Network.length_agents_redacted]
    rcases builders_eq (builderOf_redacted request) with ⟨refusal, left, right⟩ | ⟨builder, other, left, right, same⟩
    · rw [left, right]
    · rw [left, right]
      dsimp only
      rw [← @AgentBuilder.isSome_compared?_redacted passes, same, Medium.redacted_redacted,
        AgentBuilder.isSome_compared?_redacted]
  | connect label overrides =>
    simp only [Request.redacted, compared?, findAgent_redacted]
    rcases session.findAgent label with error | ⟨index, agent⟩
    · rfl
    · exact Agent.isSome_compared?_redacted
  | rawConnect label clientId options => exact Broker.isSome_compared?_redacted
  | _ => rfl

/-- Agents that are built alike, up to passwords, by sessions that are alike. -/
theorem handle_build_alike {passes : Bool} (alike : session.redacted passes = other.redacted passes)
    {request like : AgentRequest} (same : request.redacted = like.redacted)
    (outcome : ∀ same ∈ session.compared? (.build request), same = passes)
    (compared : session.compared? (.build request) = other.compared? (.build like)) :
    told passes (session.handle (.build request)) = told passes (other.handle (.build like)) := by
  have handled (session : Session) (request : AgentRequest) : session.handle (.build request) =
      session.attempt (builderOf request >>= fun builder ↦ pure (session.build request.redacted.agent builder)) := rfl
  have builders : (builderOf request).map AgentBuilder.redacted = (builderOf like).map AgentBuilder.redacted := by
    rw [← builderOf_redacted, same, builderOf_redacted]
  have label : request.redacted.agent = like.redacted.agent := congrArg AgentRequest.agent same
  rw [compared] at outcome
  rw [handled, handled]
  rcases builders_eq builders with ⟨refusal, left, right⟩ | ⟨builder, model, left, right, same⟩
  · rw [left, right]
    exact Prod.ext alike rfl
  · simp only [compared?, left, right] at compared outcome
    rw [left, right]
    calc told passes (session.build request.redacted.agent builder)
        = (session.redacted passes).build request.redacted.agent builder.redacted :=
          (build_redacted (compared ▸ outcome)).symm
      _ = (other.redacted passes).build like.redacted.agent model.redacted := by rw [alike, label, same]
      _ = told passes (other.build like.redacted.agent model) := build_redacted outcome

theorem handle_alike (alike : session.redacted true = other.redacted true) {request like : Request}
    (same : request.redacted true = like.redacted true)
    (compared : session.compared? request = other.compared? like) :
    told true (session.handle request) = told true (other.handle like) := by
  obtain ⟨passes, outcome⟩ := exists_outcome (session.compared? request)
  suffices both : told passes (session.handle request) = told passes (other.handle like) by
    rw [← told_told true passes (session.handle request), both, told_told]
  -- The password in a configuration file is not redacted before the file is read, so building is apart.
  by_cases building : ∃ description, request = .build description
  · obtain ⟨description, rfl⟩ := building
    obtain ⟨model, rfl, described⟩ : ∃ model, like = .build model ∧ description.redacted = model.redacted := by
      cases like <;> simp_all [Request.redacted]
    exact handle_build_alike (redacted_eq alike passes) described outcome compared
  · have requests : request.redacted passes = like.redacted passes := by
      rw [← Request.redacted_redacted passes true, same, Request.redacted_redacted]
    have plain : ∀ description, request ≠ .build description := fun description h ↦ building ⟨description, h⟩
    have others : ∀ description, like ≠ .build description := by
      rintro description rfl
      cases request <;> simp_all [Request.redacted]
    rw [← handle_redacted outcome plain, redacted_eq alike passes, requests,
      handle_redacted (compared ▸ outcome) others]

theorem isSome_compared?_alike (alike : session.redacted true = other.redacted true) {request like : Request}
    (same : request.redacted true = like.redacted true) :
    (session.compared? request).isSome = (other.compared? like).isSome := by
  rw [← isSome_compared?_redacted true, alike, same, isSome_compared?_redacted]

theorem status_redacted (passes : Bool) (label : String) :
    (session.redacted passes).status label = session.status label := by
  unfold status
  rw [findAgent_redacted]
  rcases session.findAgent label with error | ⟨index, agent⟩
  · rfl
  · exact congrArg (fun connected ↦ some (agent.connection.state, connected)) Agent.isConnected_redacted

theorem outcome_alike (alike : session.redacted true = other.redacted true) {answer model : Except Refusal Answer}
    (answers : answer.map Answer.redacted = model.map Answer.redacted) (watched : Option String) (sorted : Bool) :
    Outcome.redacted ⟨answer, watched >>= session.status, .ofObservations sorted session.network.medium.observations⟩ =
      Outcome.redacted ⟨model, watched >>= other.status, .ofObservations sorted other.network.medium.observations⟩ := by
  have status : session.status = other.status := by
    funext label
    rw [← status_redacted true, alike, status_redacted]
  have observations : session.network.medium.observations.map Observation.redacted =
      other.network.medium.observations.map Observation.redacted :=
    congrArg (fun session ↦ session.network.medium.observations) alike
  simp only [Outcome.redacted, answers, status, ← Report.ofObservations_redacted, observations]

theorem settle_alike (alike : session.redacted true = other.redacted true) (settles : Bool) {rest others : List Bool}
    (compared : (if settles then session.network.comparisons settleLimit else []) ++ rest =
      (if settles then other.network.comparisons settleLimit else []) ++ others) :
    (if settles then session.onNetwork (Network.run settleLimit) else session).redacted true =
        (if settles then other.onNetwork (Network.run settleLimit) else other).redacted true ∧ rest = others := by
  cases settles with
  | false => exact ⟨alike, compared⟩
  | true =>
    have networks : session.network.redacted true = other.network.redacted true := congrArg network alike
    obtain ⟨networks, rest⟩ := Network.run_alike settleLimit networks compared
    refine ⟨?_, rest⟩
    calc (session.onNetwork (Network.run settleLimit)).redacted true
        = { session.redacted true with network := (session.network.run settleLimit).redacted true } := rfl
      _ = { other.redacted true with network := (other.network.run settleLimit).redacted true } := by
        rw [alike, networks]

theorem step_alike (alike : session.redacted true = other.redacted true) {step like : Step}
    (same : step.redacted true = like.redacted true) {rest others : List Bool}
    (compared : session.comparisonsOf step ++ rest = other.comparisonsOf like ++ others) :
    (session.step step).1.redacted true = (other.step like).1.redacted true ∧
      (session.step step).2.redacted = (other.step like).2.redacted ∧ rest = others := by
  rcases step with ⟨request, watched, settles, sorted⟩
  rcases like with ⟨like, watched', settles', sorted'⟩
  obtain ⟨requests, rfl, rfl, rfl⟩ : request.redacted true = like.redacted true ∧ watched = watched' ∧
      settles = settles' ∧ sorted = sorted' := by
    simpa [Step.redacted] using same
  have cleared : session.cleared.redacted true = other.cleared.redacted true := congrArg Session.cleared alike
  rw [comparisonsOf, comparisonsOf, List.append_assoc, List.append_assoc] at compared
  obtain ⟨first, compared⟩ := eq_of_toList_append (isSome_compared?_alike cleared requests) compared
  have handled := handle_alike cleared requests first
  obtain ⟨settled, compared⟩ := settle_alike (congrArg Prod.fst handled) settles compared
  exact ⟨settled, outcome_alike settled (congrArg Prod.snd handled) watched sorted, compared⟩

/-- The comparisons are split off step by step, so that the sessions are alike after each of their steps. -/
theorem steps_alike (alike : session.redacted true = other.redacted true) {first second : List Step}
    (same : first.map (Step.redacted true) = second.map (Step.redacted true))
    (compared : session.comparisons first = other.comparisons second) :
    (session.steps first).map Outcome.redacted = (other.steps second).map Outcome.redacted ∧
      ∀ count, (session.after (first.take count)).redacted true = (other.after (second.take count)).redacted true := by
  induction first generalizing session other second with
  | nil =>
    obtain rfl : second = [] := by simpa using same.symm
    refine ⟨rfl, fun count ↦ ?_⟩
    rw [List.take_nil]
    exact alike
  | cons step rest ih =>
    obtain ⟨like, others, rfl⟩ : ∃ like others, second = like :: others := by
      cases second with
      | nil => simp at same
      | cons like others => exact ⟨like, others, rfl⟩
    obtain ⟨step_same, rest_same⟩ := List.cons.inj same
    obtain ⟨next, outcome, compared⟩ := step_alike alike step_same compared
    obtain ⟨outcomes, after⟩ := ih next rest_same compared
    refine ⟨congrArg₂ List.cons outcome outcomes, fun count ↦ ?_⟩
    cases count with
    | zero => exact alike
    | succ count => exact after count

/-- Passwords never show. Take two sessions whose steps differ in passwords alone, and in which every comparison of
credentials comes to the same. Step by step they answer and report the same, up to the passwords that the transports are
handed and the agents keep; and between the steps their agents show the same and are in the same states. -/
theorem passwords_never_show {first second : List Step}
    (same : first.map (Step.redacted true) = second.map (Step.redacted true))
    (compared : fresh.comparisons first = fresh.comparisons second) :
    (fresh.steps first).map Outcome.redacted = (fresh.steps second).map Outcome.redacted ∧
      ∀ count,
        let now := fresh.after (first.take count)
        let other := fresh.after (second.take count)
        now.redacted true = other.redacted true ∧
          now.network.agents.map (Agent.shown now.network.medium) =
            other.network.agents.map (Agent.shown other.network.medium) := by
  obtain ⟨outcomes, after⟩ := steps_alike (rfl : fresh.redacted true = fresh.redacted true) same compared
  refine ⟨outcomes, fun count ↦ ⟨after count, ?_⟩⟩
  have shown (session : Session) : (session.redacted true).network.agents.map
      (Agent.shown (session.redacted true).network.medium) =
        session.network.agents.map (Agent.shown session.network.medium) := by
    have agents : (session.network.redacted true).agents = session.network.agents.map Agent.redacted := rfl
    rw [network_redacted, agents, Network.medium_redacted, List.map_map]
    exact List.map_congr_left fun agent _ ↦ agent.shown_redacted true _
  rw [← shown, after count, shown]

/-- An agent connects with the password that is wanted, and is refused with another one. -/
theorem passwords_never_show_refused : ∃ first second : List Step,
    first.map (Step.redacted true) = second.map (Step.redacted true) ∧
    fresh.comparisons first = [true, false] ∧ fresh.comparisons second = [true, false] ∧
    (fresh.after first).network.medium.broker.credentials ≠ (fresh.after second).network.medium.broker.credentials ∧
    (fresh.steps first).map Outcome.redacted = (fresh.steps second).map Outcome.redacted := by
  let steps (wanted wrong : String) : List Step := [
    ⟨.requireCredentials ⟨"tether", wanted⟩, none, true, false⟩,
    ⟨.build ⟨"agent", "car", none, none, none, { BrokerOverrides.none with password := some wanted }, some true, none,
      .scripted⟩, some "agent", true, false⟩,
    ⟨.disconnect "agent", some "agent", true, false⟩,
    ⟨.connect "agent" { BrokerOverrides.none with password := some wrong }, some "agent", true, false⟩]
  have first : fresh.comparisons (steps "sesame" "barley") = [true, false] := by decide +kernel
  have second : fresh.comparisons (steps "pistachio" "") = [true, false] := by decide +kernel
  have same : (steps "sesame" "barley").map (Step.redacted true) =
      (steps "pistachio" "").map (Step.redacted true) := rfl
  exact ⟨steps "sesame" "barley", steps "pistachio" "", same, first, second, by decide +kernel,
    (passwords_never_show same (first.trans second.symm)).1⟩

end Session

end PubSub
