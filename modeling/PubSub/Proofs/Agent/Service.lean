import PubSub.Agent.Service
import PubSub.Proofs.Agent.Operations
import PubSub.Proofs.Lifecycle.Operations
import PubSub.Proofs.Lifecycle.Attempts
import Mathlib.Data.List.DropRight
/-!
# One dispatcher at a time

However attempts, disconnects and a drop overlap, the dispatchers that were ever started are those of the attempts that
have come back with a connection, in the order of the transport's answers. The one that runs is the last that was
started since the last release, if any was. All others are stopped, and hand nothing on.
-/

namespace PubSub

namespace Lifecycle

variable {lifecycle next : Lifecycle} {move : Move} {moves : List Move} {attempt : Nat} {stage old : Stage}

/-! ## Attempts that have connected -/

theorem hasConnected_iff :
    lifecycle.hasConnected attempt ↔ lifecycle.attempts[attempt]? = some (.returned (.ok ())) := by
  unfold hasConnected
  cases lifecycle.attempts[attempt]? with
  | none => simp
  | some stage =>
    cases stage with
    | returned result =>
      cases result with
      | error error => simp [Stage.hasConnected]
      | ok done => simp [Stage.hasConnected]
    | _ => simp [Stage.hasConnected]

theorem any_getElem?_concat {attempts : List Stage} (h : stage.hasConnected = false) (attempt : Nat) :
    (attempts ++ [stage])[attempt]?.any Stage.hasConnected = attempts[attempt]?.any Stage.hasConnected := by
  rcases Nat.lt_trichotomy attempt attempts.length with lt | rfl | gt
  · rw [List.getElem?_append_left lt]
  · simp [h]
  · rw [List.getElem?_eq_none (by simp; omega), List.getElem?_eq_none (Nat.le_of_lt gt)]

theorem any_getElem?_set {attempts : List Stage} (h : attempts[attempt]? = some old) (other : Nat) :
    (attempts.set attempt stage)[other]?.any Stage.hasConnected =
      if other = attempt then stage.hasConnected else attempts[other]?.any Stage.hasConnected := by
  by_cases same : other = attempt
  · subst same
    rw [if_pos rfl, List.getElem?_set_self (List.getElem?_eq_some_iff.1 h).1, Option.any_some]
  · rw [if_neg same, List.getElem?_set_ne (Ne.symm same)]

/-- A move lets the attempt connect that it gives a connection to, or none. -/
theorem Effect.hasConnected_cases (effect : Effect lifecycle move next) :
    (∃ attempt source pending, move = .answered attempt (.ok source) ∧
      lifecycle.attempts[attempt]? = some (.asking pending) ∧
      ∀ other, next.hasConnected other = (decide (other = attempt) || lifecycle.hasConnected other)) ∨
    (∀ other, next.hasConnected other = lifecycle.hasConnected other) ∧
      ∀ attempt source, move = .answered attempt (.ok source) → lifecycle.hasConnected attempt = false := by
  have kept {attempt : Nat} {old stage : Stage} (h : lifecycle.attempts[attempt]? = some old)
      (before : old.hasConnected = false) (after : stage.hasConnected = false) (other : Nat) :
      (lifecycle.attempts.set attempt stage)[other]?.any Stage.hasConnected = lifecycle.hasConnected other := by
    rw [any_getElem?_set h]
    split
    · rename_i same
      rw [after, hasConnected, same, h, Option.any_some, before]
    · rfl
  cases effect with
  | refused => exact .inr ⟨fun other ↦ any_getElem?_concat rfl other, nofun⟩
  | begun => exact .inr ⟨fun other ↦ any_getElem?_concat rfl other, nofun⟩
  | begunAnew => exact .inr ⟨fun other ↦ any_getElem?_concat rfl other, nofun⟩
  | replaced h => exact .inr ⟨kept h rfl rfl, nofun⟩
  | @accepted attempt pending handle h =>
    refine .inl ⟨attempt, handle, pending, rfl, h, fun other ↦ ?_⟩
    have set : (lifecycle.attempts.set attempt (.returned (.ok ())))[other]?.any Stage.hasConnected =
        if other = attempt then true else lifecycle.hasConnected other := any_getElem?_set h other
    refine Eq.trans set ?_
    by_cases same : other = attempt
    · simp [same]
    · simp [same]
  | @late attempt pending handle h =>
    refine .inr ⟨kept h rfl rfl, fun other source same ↦ ?_⟩
    obtain ⟨rfl, -⟩ := Move.answered.inj same
    rw [hasConnected, h]
    rfl
  | failed h => exact .inr ⟨kept h rfl rfl, nofun⟩
  | failedLate h => exact .inr ⟨kept h rfl rfl, nofun⟩
  | abandoned h => exact .inr ⟨kept h rfl rfl, nofun⟩
  | disconnected => exact .inr ⟨fun _ ↦ rfl, nofun⟩
  | dropped => exact .inr ⟨fun _ ↦ rfl, nofun⟩
  | collected => exact .inr ⟨fun _ ↦ rfl, nofun⟩
  | closed => exact .inr ⟨fun _ ↦ rfl, nofun⟩

theorem Effect.hasConnected_mono (effect : Effect lifecycle move next) (h : lifecycle.hasConnected attempt) :
    next.hasConnected attempt := by
  rcases effect.hasConnected_cases with ⟨other, source, pending, -, -, connected⟩ | ⟨same, -⟩
  · simp [connected, h]
  · rw [same, h]

/-- The moves since the connection was released last. -/
def sinceRelease (moves : List Move) : List Move :=
  moves.rtakeWhile fun move ↦ !move.releases

theorem sinceRelease_subset (moves : List Move) : sinceRelease moves ⊆ moves :=
  (List.rtakeWhile_suffix _ moves).subset

theorem sinceRelease_concat (moves : List Move) (move : Move) :
    sinceRelease (moves ++ [move]) = if move.releases then [] else sinceRelease moves ++ [move] := by
  rw [sinceRelease, List.rtakeWhile_concat]
  cases move.releases <;> rfl

theorem mem_given?_iff {source : ConnectionId} : (attempt, source) ∈ moves.filterMap Move.given? ↔
    .answered attempt (.ok source) ∈ moves := by
  have given (move : Move) : move.given? = some (attempt, source) ↔ move = .answered attempt (.ok source) := by
    cases move with
    | answered other answer =>
      cases answer with
      | error reason => simp [Move.given?]
      | ok handle => simp [Move.given?]
    | _ => simp [Move.given?]
  simp [List.mem_filterMap, given]

theorem connects_eq_nil_iff : lifecycle.connects moves = [] ↔
    ∀ attempt source, .answered attempt (.ok source) ∈ moves → lifecycle.hasConnected attempt = false := by
  simp only [connects, List.filter_eq_nil_iff, Prod.forall, mem_given?_iff, Bool.not_eq_true]

theorem connects_concat (lifecycle : Lifecycle) (part : List Move) (move : Move) :
    lifecycle.connects (part ++ [move]) = lifecycle.connects part ++ lifecycle.connects [move] := by
  simp [connects]

/-- A move adds the connection that it lets an attempt connect with, or nothing. -/
theorem Effect.connects_cases (history : History moves lifecycle) (effect : Effect lifecycle move next) :
    (∃ attempt source, move = .answered attempt (.ok source) ∧ next.hasConnected attempt ∧
      ∀ part ⊆ moves, next.connects (part ++ [move]) = lifecycle.connects part ++ [(attempt, source)]) ∨
    (∀ attempt source, move = .answered attempt (.ok source) → next.hasConnected attempt = false) ∧
      ∀ part, next.connects (part ++ [move]) = lifecycle.connects part := by
  rcases effect.hasConnected_cases with ⟨attempt, source, pending, rfl, stage, connected⟩ | ⟨same, refused⟩
  · have done : next.hasConnected attempt := by simp [connected]
    refine .inl ⟨attempt, source, rfl, done, fun part subset ↦ ?_⟩
    have unanswered := ((history.story attempt _ stage).isOvertaken_iff (.inr rfl)).1
    have earlier : next.connects part = lifecycle.connects part := by
      apply List.filter_congr
      rintro ⟨other, handle⟩ hmem
      have ne : other ≠ attempt := by
        rintro rfl
        exact unanswered _ (subset (mem_given?_iff.1 hmem))
      simp [connected, ne]
    rw [connects_concat, earlier]
    simp [connects, Move.given?, done]
  · have refused' (attempt : Nat) (source : ConnectionId) (h : move = .answered attempt (.ok source)) :
        next.hasConnected attempt = false := (same attempt).trans (refused attempt source h)
    refine .inr ⟨refused', fun part ↦ ?_⟩
    have earlier : next.connects part = lifecycle.connects part := by
      unfold connects
      simp only [same]
    have nothing : next.connects [move] = [] := by
      cases move with
      | answered attempt answer =>
        cases answer with
        | error reason => rfl
        | ok source => simp [connects, Move.given?, refused' attempt source rfl]
      | _ => rfl
    rw [connects_concat, earlier, nothing, List.append_nil]

end Lifecycle

namespace Service

variable {service next : Service} {move : Move} {moves : List Move} {made : Lifecycle.Move}

/-! ## The dispatcher that is kept -/

/-- The dispatcher that the agent keeps. -/
def kept? (service : Service) : Option Runner :=
  service.slot.bind fun number ↦ service.runners[number]?

/-- What is kept was started last and runs, and nothing else does. -/
structure Tidy (service : Service) : Prop where
  running_iff : ∀ number runner, service.runners[number]? = some runner →
    (runner.stopped = false ↔ service.slot = some number)
  last : ∀ number, service.slot = some number → number + 1 = service.runners.length

theorem Tidy.running (tidy : service.Tidy) : service.running = service.kept?.toList := by
  unfold Service.running kept?
  cases slot : service.slot with
  | none =>
    rw [Option.bind_none, Option.toList_none, List.filter_eq_nil_iff]
    intro runner hmem
    obtain ⟨number, h⟩ := List.getElem?_of_mem hmem
    have stopped := (tidy.running_iff number runner h).not.2 (by simp [slot])
    simpa using stopped
  | some number =>
    have length := tidy.last number slot
    rcases List.eq_nil_or_concat service.runners with empty | ⟨earlier, last, split⟩
    · simp [empty] at length
    · rw [List.concat_eq_append] at split
      obtain rfl : number = earlier.length := by simpa [split] using length
      have runs : last.stopped = false := (tidy.running_iff earlier.length last (by simp [split])).2 slot
      have others (runner : Runner) (hmem : runner ∈ earlier) : runner.stopped = true := by
        obtain ⟨place, h⟩ := List.getElem?_of_mem hmem
        have lt := (List.getElem?_eq_some_iff.1 h).1
        have stopped := (tidy.running_iff place runner (by rw [split, List.getElem?_append_left lt, h])).not.2
          (by rw [slot, Option.some.injEq]; exact Nat.ne_of_gt lt)
        simpa using stopped
      simpa [split, runs] using others

/-- A change of one dispatcher that leaves alone what is looked at. -/
theorem map_modify {α : Type} {look : Runner → α} {change : Runner → Runner}
    (same : ∀ runner, look (change runner) = look runner) (runners : List Runner) (number : Nat) :
    (runners.modify number change).map look = runners.map look := by
  apply List.ext_getElem?
  intro place
  simp only [List.getElem?_map, List.getElem?_modify]
  cases runners[place]? with
  | none => rfl
  | some runner =>
    by_cases own : number = place
    · simp [own, same]
    · simp [own]

theorem origin_kept? (service : Service) : service.kept?.map Runner.origin =
    service.slot.bind fun number ↦ (service.runners.map Runner.origin)[number]? := by
  unfold kept?
  cases service.slot with
  | none => rfl
  | some number => simp

theorem Tidy.congr (tidy : service.Tidy)
    (stops : next.runners.map Runner.stopped = service.runners.map Runner.stopped)
    (slot : next.slot = service.slot) : next.Tidy where
  running_iff number runner h := by
    have place := congrArg (fun stops ↦ stops[number]?) stops
    simp only [List.getElem?_map, h, Option.map_some] at place
    obtain ⟨former, hformer, same⟩ := Option.map_eq_some_iff.1 place.symm
    rw [slot, ← tidy.running_iff number former hformer, same]
  last number h := by
    have length : next.runners.length = service.runners.length := by simpa using congrArg List.length stops
    rw [length]
    exact tidy.last number (slot ▸ h)

/-! ## Stopping and starting -/

/-- Only dispatchers and their place change when one is stopped. -/
theorem halt_eq (service : Service) :
    service.halt = { service with runners := service.halt.runners, slot := none } := by
  unfold halt
  cases h : service.slot with
  | none => simp [← h]
  | some number => rfl

theorem origins_halt (service : Service) :
    service.halt.runners.map Runner.origin = service.runners.map Runner.origin := by
  unfold halt
  split
  · rfl
  · apply map_modify
    exact fun _ ↦ rfl

theorem length_halt (service : Service) : service.halt.runners.length = service.runners.length := by
  simpa using congrArg List.length (origins_halt service)

theorem slot_halt (service : Service) : service.halt.slot = none :=
  congrArg Service.slot service.halt_eq

/-- Once the dispatcher is taken from its place, none runs. -/
theorem Tidy.halt (tidy : service.Tidy) : service.halt.Tidy where
  running_iff number runner h := by
    rw [slot_halt]
    refine iff_of_false ?_ nofun
    unfold Service.halt at h
    split at h
    · rename_i slot
      rw [tidy.running_iff number runner h, slot]
      nofun
    · rename_i kept slot
      rw [List.getElem?_modify] at h
      obtain ⟨former, hformer, rfl⟩ := Option.map_eq_some_iff.1 h
      by_cases own : kept = number
      · simp [own]
      · have stopped := (tidy.running_iff number former hformer).not.2 (by simpa [slot] using own)
        simpa [own] using stopped
  last number slot := by
    rw [slot_halt] at slot
    cases slot

/-- Once a dispatcher is started, no other runs. -/
theorem Tidy.start (tidy : service.Tidy) (attempt : Nat) (source : ConnectionId) :
    (service.start attempt source).Tidy where
  running_iff number runner h := by
    have slot : (service.start attempt source).slot = some service.runners.length := rfl
    have runners : (service.start attempt source).runners =
        service.halt.runners ++ [⟨attempt, source, false, false⟩] := rfl
    rw [runners] at h
    rw [slot, Option.some.injEq]
    by_cases own : number = service.runners.length
    · subst own
      rw [← length_halt, List.getElem?_concat_length, Option.some.injEq] at h
      simp [← h]
    · have lt : number < service.halt.runners.length := by
        have := (List.getElem?_eq_some_iff.1 h).1
        rw [List.length_append, List.length_singleton, length_halt] at this
        rw [length_halt]
        omega
      rw [List.getElem?_append_left lt] at h
      rw [tidy.halt.running_iff number runner h, slot_halt]
      exact iff_of_false nofun (Ne.symm own)
  last number slot := by
    obtain rfl : service.runners.length = number := Option.some.inj slot
    simp [Service.start, length_halt]

theorem start_eq (service : Service) (attempt : Nat) (source : ConnectionId) :
    service.start attempt source = { service with
      runners := service.halt.runners ++ [⟨attempt, source, false, false⟩]
      slot := some service.runners.length
      subscribing := service.subscribing ++ [attempt] } := by
  rw [start, halt_eq]

theorem origins_start (service : Service) (attempt : Nat) (source : ConnectionId) :
    (service.start attempt source).runners.map Runner.origin =
      service.runners.map Runner.origin ++ [(attempt, source)] := by
  rw [start_eq, List.map_append, origins_halt]
  rfl

theorem kept?_start (service : Service) (attempt : Nat) (source : ConnectionId) :
    (service.start attempt source).kept? = some ⟨attempt, source, false, false⟩ := by
  simp [kept?, Service.start, ← length_halt service]

/-! ## What a run keeps -/

/-- The dispatchers that were started are those of the attempts that have connected. The one that is kept is the last
that was started since the last release. -/
structure Orderly (moves : List Move) (service : Service) : Prop where
  reached : ∃ options, (Lifecycle.initial options).run? (connectionMoves moves) = some service.lifecycle
  tidy : service.Tidy
  started : service.runners.map Runner.origin = service.lifecycle.connects (connectionMoves moves)
  kept : service.kept?.map Runner.origin =
    (service.lifecycle.connects (Lifecycle.sinceRelease (connectionMoves moves))).getLast?
  subscribing : ∀ attempt ∈ service.subscribing, service.lifecycle.hasConnected attempt
  requests : ∀ request ∈ service.requests, service.lifecycle.hasConnected request.1

theorem orderly_initial (options : BrokerOptions) : Orderly [] (initial options) where
  reached := ⟨options, rfl⟩
  tidy := ⟨nofun, nofun⟩
  started := rfl
  kept := rfl
  subscribing := nofun
  requests := nofun

theorem connectionMoves_concat (moves : List Move) (move : Move) :
    connectionMoves (moves ++ [move]) = connectionMoves moves ++ move.connection?.toList := by
  rw [connectionMoves, List.filterMap_append]
  cases h : move.connection? with
  | none => simp [h, connectionMoves]
  | some made => simp [h, connectionMoves]

/-- What is not done to the connection starts and stops nothing. -/
theorem Orderly.of_same (orderly : Orderly moves service) (apart : move.connection? = none)
    (lifecycle : next.lifecycle = service.lifecycle) (slot : next.slot = service.slot)
    (stops : next.runners.map Runner.stopped = service.runners.map Runner.stopped)
    (origins : next.runners.map Runner.origin = service.runners.map Runner.origin)
    (subscribing : next.subscribing ⊆ service.subscribing)
    (requests : ∀ request ∈ next.requests, service.lifecycle.hasConnected request.1) :
    Orderly (moves ++ [move]) next := by
  have made : connectionMoves (moves ++ [move]) = connectionMoves moves := by
    rw [connectionMoves_concat, apart, Option.toList_none, List.append_nil]
  refine ⟨?_, orderly.tidy.congr stops slot, ?_, ?_, ?_, ?_⟩
  · rw [made, lifecycle]
    exact orderly.reached
  · rw [made, lifecycle, origins]
    exact orderly.started
  · rw [made, lifecycle, ← orderly.kept, origin_kept?, origin_kept?, slot, origins]
  · rw [lifecycle]
    exact fun attempt hmem ↦ orderly.subscribing attempt (subscribing hmem)
  · rw [lifecycle]
    exact requests

/-- A release stops what runs, and other moves that let no attempt connect do nothing. -/
theorem react_eq (refused : ∀ attempt source, made = .answered attempt (.ok source) →
    service.lifecycle.hasConnected attempt = false) :
    service.react made = if made.releases then service.halt else service := by
  cases made with
  | answered attempt answer =>
    cases answer with
    | error reason => rfl
    | ok source => simp [react, refused attempt source rfl, Lifecycle.Move.releases]
  | _ => rfl

/-- Only dispatchers and their subscribing change when the agent reacts. -/
theorem exists_react_eq (service : Service) (made : Lifecycle.Move) : ∃ runners slot subscribing,
    service.react made = { service with runners, slot, subscribing } := by
  unfold react
  split
  · split
    · exact ⟨_, _, _, start_eq service _ _⟩
    · exact ⟨_, _, _, rfl⟩
  · exact ⟨_, _, _, service.halt_eq⟩
  · exact ⟨_, _, _, service.halt_eq⟩
  · exact ⟨_, _, _, rfl⟩

theorem lifecycle_react (service : Service) (made : Lifecycle.Move) :
    (service.react made).lifecycle = service.lifecycle := by
  obtain ⟨runners, slot, subscribing, same⟩ := service.exists_react_eq made
  rw [same]

theorem step?_of_releases {lifecycle : Lifecycle} (h : service.lifecycle.step? made = some lifecycle)
    (releases : made.releases) : service.step? (.connection made) = some ({ service with lifecycle }.halt) := by
  rw [step?, h, Option.map_some]
  cases made with
  | disconnect => rfl
  | drop => rfl
  | _ => cases releases

theorem step?_of_connected {lifecycle : Lifecycle} {attempt : Nat} {source : ConnectionId}
    (h : service.lifecycle.step? (.answered attempt (.ok source)) = some lifecycle)
    (connected : lifecycle.hasConnected attempt) :
    service.step? (.connection (.answered attempt (.ok source))) =
      some (start { service with lifecycle } attempt source) := by
  rw [step?, h, Option.map_some]
  exact congrArg some (if_pos connected)

theorem step?_of_refused {lifecycle : Lifecycle} (h : service.lifecycle.step? made = some lifecycle)
    (releases : made.releases = false) (refused : ∀ attempt source, made = .answered attempt (.ok source) →
      lifecycle.hasConnected attempt = false) :
    service.step? (.connection made) = some { service with lifecycle } := by
  rw [step?, h, Option.map_some, react_eq refused, releases, if_neg nofun]

theorem Orderly.stepConnection {lifecycle : Lifecycle} (orderly : Orderly moves service)
    (h : service.lifecycle.step? made = some lifecycle) :
    Orderly (moves ++ [.connection made]) ({ service with lifecycle }.react made) := by
  obtain ⟨options, run⟩ := orderly.reached
  have effect := Lifecycle.effect_of_step? h
  have moved : connectionMoves (moves ++ [.connection made]) = connectionMoves moves ++ [made] :=
    connectionMoves_concat moves _
  have run' : (Lifecycle.initial options).run? (connectionMoves moves ++ [made]) = some lifecycle := by
    rw [Lifecycle.run?_concat, run]
    exact h
  have subscribing (attempt : Nat) (hmem : attempt ∈ service.subscribing) : lifecycle.hasConnected attempt :=
    effect.hasConnected_mono (orderly.subscribing attempt hmem)
  have requests (request : Nat × ConnectionId) (hmem : request ∈ service.requests) :
      lifecycle.hasConnected request.1 := effect.hasConnected_mono (orderly.requests request hmem)
  have tidy : Tidy { service with lifecycle } := ⟨orderly.tidy.running_iff, orderly.tidy.last⟩
  rcases effect.connects_cases (Lifecycle.history_of_run? run).2 with
    ⟨attempt, source, rfl, done, adds⟩ | ⟨refused, same⟩
  · have started : { service with lifecycle }.react (.answered attempt (.ok source)) =
        start { service with lifecycle } attempt source := if_pos done
    rw [started]
    refine ⟨⟨options, ?_⟩, tidy.start attempt source, ?_, ?_, ?_, ?_⟩
    · rw [moved, start_eq]
      exact run'
    · rw [moved, origins_start, orderly.started, start_eq]
      exact (adds _ (List.Subset.refl _)).symm
    · rw [moved, kept?_start, Lifecycle.sinceRelease_concat, if_neg nofun, start_eq]
      simp only [adds _ (Lifecycle.sinceRelease_subset _), List.getLast?_concat]
      rfl
    · rw [start_eq]
      intro other hmem
      rcases List.mem_append.1 hmem with hmem | hmem
      · exact subscribing other hmem
      · rw [List.mem_singleton.1 hmem]
        exact done
    · rw [start_eq]
      exact requests
  · rw [react_eq refused]
    cases releases : made.releases with
    | true =>
      rw [if_pos rfl]
      refine ⟨⟨options, ?_⟩, tidy.halt, ?_, ?_, ?_, ?_⟩
      · rw [moved, halt_eq]
        exact run'
      · rw [moved, origins_halt, halt_eq]
        exact orderly.started.trans (same _).symm
      · rw [moved, Lifecycle.sinceRelease_concat, if_pos releases, kept?, slot_halt]
        rfl
      · rw [halt_eq]
        exact subscribing
      · rw [halt_eq]
        exact requests
    | false =>
      rw [if_neg nofun]
      refine ⟨⟨options, ?_⟩, tidy, ?_, ?_, subscribing, requests⟩
      · rw [moved]
        exact run'
      · rw [moved]
        exact orderly.started.trans (same _).symm
      · rw [moved, Lifecycle.sinceRelease_concat, releases, if_neg nofun]
        exact orderly.kept.trans (congrArg List.getLast? (same _).symm)

/-- A dispatcher that looks ends, or hands a message on because it was not stopped. -/
theorem look?_cases {number : Nat} {found : Option Message} (h : service.look? number found = some next) :
    (next.handled = service.handled ∧ next = { service with
      runners := service.runners.modify number fun runner ↦ { runner with ended := true } }) ∨
    ∃ message runner, found = some message ∧ service.runners[number]? = some runner ∧ runner.stopped = false ∧
      next = { service with handled := service.handled ++ [(number, message)] } := by
  unfold look? at h
  cases hrunner : service.runners[number]? with
  | none => simp [hrunner] at h
  | some runner =>
    simp only [hrunner] at h
    split at h
    · cases h
    · split at h
      · obtain rfl := Option.some.inj h
        exact .inl ⟨rfl, rfl⟩
      · rename_i runs
        cases found with
        | none =>
          obtain rfl := Option.some.inj h
          exact .inl ⟨rfl, rfl⟩
        | some message =>
          obtain rfl := Option.some.inj h
          exact .inr ⟨message, runner, rfl, rfl, by simpa using runs, rfl⟩

theorem Orderly.stepLook {number : Nat} {found : Option Message} (orderly : Orderly moves service)
    (h : service.look? number found = some next) : Orderly (moves ++ [.look number found]) next := by
  rcases look?_cases h with ⟨-, rfl⟩ | ⟨message, runner, -, -, -, rfl⟩
  · refine orderly.of_same rfl rfl rfl ?_ ?_ (List.Subset.refl _) orderly.requests
    · apply map_modify
      exact fun _ ↦ rfl
    · apply map_modify
      exact fun _ ↦ rfl
  · exact orderly.of_same rfl rfl rfl rfl rfl (List.Subset.refl _) orderly.requests

theorem Orderly.step (orderly : Orderly moves service) (h : service.step? move = some next) :
    Orderly (moves ++ [move]) next := by
  cases move with
  | connection made =>
    obtain ⟨lifecycle, hstep, rfl⟩ := Option.map_eq_some_iff.1 h
    exact orderly.stepConnection hstep
  | subscribe attempt live =>
    simp only [step?, Option.ite_none_right_eq_some] at h
    obtain ⟨asks, same⟩ := h
    obtain rfl := Option.some.inj same
    refine orderly.of_same rfl rfl rfl rfl rfl (List.Subset.refl _) fun request hmem ↦ ?_
    rcases List.mem_append.1 hmem with hmem | hmem
    · exact orderly.requests request hmem
    · obtain ⟨handle, -, rfl⟩ := List.mem_map.1 hmem
      exact orderly.subscribing attempt (by simpa using asks)
  | subscribed attempt =>
    simp only [step?, Option.ite_none_right_eq_some] at h
    obtain ⟨-, same⟩ := h
    obtain rfl := Option.some.inj same
    exact orderly.of_same rfl rfl rfl rfl rfl List.erase_subset orderly.requests
  | look number found => exact orderly.stepLook h

theorem run?_concat (service : Service) (moves : List Move) (move : Move) :
    service.run? (moves ++ [move]) = (service.run? moves).bind fun reached ↦ reached.step? move := by
  simp only [run?, List.foldlM_append, List.foldlM_cons, List.foldlM_nil]
  cases List.foldlM step? service moves with
  | none => rfl
  | some reached => cases h : reached.step? move <;> simp [h]

theorem Orderly.run {later : List Move} {last : Service} (orderly : Orderly moves service)
    (h : service.run? later = some last) : Orderly (moves ++ later) last := by
  induction later using List.reverseRecOn generalizing last with
  | nil =>
    obtain rfl := Option.some.inj h
    exact (List.append_nil moves).symm ▸ orderly
  | append_singleton later move ih =>
    rw [run?_concat] at h
    obtain ⟨reached, hreached, hstep⟩ := Option.bind_eq_some_iff.1 h
    rw [← List.append_assoc]
    exact (ih hreached).step hstep

/-! ## When nothing runs -/

theorem running_eq_nil_iff :
    service.running = [] ↔ ∀ stopped ∈ service.runners.map Runner.stopped, stopped = true := by
  simp [running, List.filter_eq_nil_iff]

theorem Tidy.running_halt (tidy : service.Tidy) : service.halt.running = [] := by
  rw [tidy.halt.running, kept?, slot_halt]
  rfl

theorem hasConnected_mono {attempt : Nat} (h : service.step? move = some next)
    (connected : service.lifecycle.hasConnected attempt) : next.lifecycle.hasConnected attempt := by
  cases move with
  | connection made =>
    obtain ⟨lifecycle, hstep, rfl⟩ := Option.map_eq_some_iff.1 h
    rw [lifecycle_react]
    exact (Lifecycle.effect_of_step? hstep).hasConnected_mono connected
  | subscribe attempt live =>
    simp only [step?, Option.ite_none_right_eq_some] at h
    obtain rfl := Option.some.inj h.2
    exact connected
  | subscribed attempt =>
    simp only [step?, Option.ite_none_right_eq_some] at h
    obtain rfl := Option.some.inj h.2
    exact connected
  | look number found =>
    rcases look?_cases h with ⟨-, rfl⟩ | ⟨message, runner, -, -, -, rfl⟩
    · exact connected
    · exact connected

/-- As long as no attempt connects, nothing begins to run, and nothing is handed on. -/
theorem Orderly.idle_step (orderly : Orderly moves service) (idle : service.running = [])
    (h : service.step? move = some next) (none : ∀ attempt source,
      move = .connection (.answered attempt (.ok source)) → next.lifecycle.hasConnected attempt = false) :
    next.running = [] ∧ next.handled = service.handled := by
  cases move with
  | connection made =>
    obtain ⟨lifecycle, hstep, rfl⟩ := Option.map_eq_some_iff.1 h
    have refused (attempt : Nat) (source : ConnectionId) (same : made = .answered attempt (.ok source)) :
        lifecycle.hasConnected attempt = false := by
      rw [← none attempt source (congrArg _ same), lifecycle_react]
    rw [react_eq refused]
    cases releases : made.releases with
    | true =>
      have tidy : Tidy { service with lifecycle } := ⟨orderly.tidy.running_iff, orderly.tidy.last⟩
      rw [if_pos rfl]
      exact ⟨tidy.running_halt, by rw [halt_eq]⟩
    | false =>
      rw [if_neg nofun]
      exact ⟨idle, rfl⟩
  | subscribe attempt live =>
    simp only [step?, Option.ite_none_right_eq_some] at h
    obtain rfl := Option.some.inj h.2
    exact ⟨idle, rfl⟩
  | subscribed attempt =>
    simp only [step?, Option.ite_none_right_eq_some] at h
    obtain rfl := Option.some.inj h.2
    exact ⟨idle, rfl⟩
  | look number found =>
    rcases look?_cases h with ⟨same, done⟩ | ⟨message, runner, -, hrunner, runs, -⟩
    · refine ⟨?_, same⟩
      have stops : next.runners.map Runner.stopped = service.runners.map Runner.stopped := by
        rw [done]
        apply map_modify
        exact fun _ ↦ rfl
      rw [running_eq_nil_iff, stops]
      exact running_eq_nil_iff.1 idle
    · have stopped := running_eq_nil_iff.1 idle _ (List.mem_map_of_mem (List.mem_of_getElem? hrunner))
      rw [runs] at stopped
      cases stopped

theorem Orderly.idle_run {later : List Move} {last : Service} (orderly : Orderly moves service)
    (idle : service.running = []) (run : service.run? later = some last)
    (none : last.lifecycle.connects (connectionMoves later) = []) :
    last.running = [] ∧ last.handled = service.handled := by
  induction later using List.reverseRecOn generalizing last with
  | nil =>
    obtain rfl := Option.some.inj run
    exact ⟨idle, rfl⟩
  | append_singleton later move ih =>
    rw [run?_concat] at run
    obtain ⟨reached, hreached, hstep⟩ := Option.bind_eq_some_iff.1 run
    rw [connectionMoves_concat, Lifecycle.connects_eq_nil_iff] at none
    have none' : reached.lifecycle.connects (connectionMoves later) = [] := by
      refine Lifecycle.connects_eq_nil_iff.2 fun attempt source hmem ↦ ?_
      have unconnected := none attempt source (List.mem_append_left _ hmem)
      exact Bool.eq_false_iff.2 fun connected ↦ Bool.eq_false_iff.1 unconnected (hasConnected_mono hstep connected)
    obtain ⟨idle', same⟩ := ih hreached none'
    obtain ⟨idle'', same'⟩ := (orderly.run hreached).idle_step idle' hstep fun attempt source made ↦
      none attempt source (List.mem_append_right _ (by simp [made, Move.connection?]))
    exact ⟨idle'', same'.trans same⟩

/-! ## The law of runs -/

/-- What holds of the dispatchers of an agent after any moves. -/
structure Lawful (moves : List Move) (service : Service) : Prop where
  /-- A dispatcher was started for every attempt that has come back with a connection, and for no other. -/
  started : service.runners.map Runner.origin = service.lifecycle.connects (connectionMoves moves)
  started_iff : ∀ attempt, (∃ runner ∈ service.runners, runner.attempt = attempt) ↔
    service.lifecycle.attempts[attempt]? = some (.returned (.ok ()))
  /-- The dispatcher that runs, if one does, is the last that was started since the last release. -/
  running : service.running.map Runner.origin =
    (service.lifecycle.connects (Lifecycle.sinceRelease (connectionMoves moves))).getLast?.toList
  latest : ∀ runner ∈ service.running,
    (service.lifecycle.connects (connectionMoves moves)).getLast? = some runner.origin
  /-- Only attempts that have come back with a connection have asked for subscriptions. -/
  requests : ∀ request ∈ service.requests, service.lifecycle.attempts[request.1]? = some (.returned (.ok ()))
  /-- From a release on nothing runs or is handed on, until an attempt connects. -/
  released : ∀ release next later last, release.releases → service.step? (.connection release) = some next →
    next.run? later = some last → last.lifecycle.connects (connectionMoves later) = [] →
    last.running = [] ∧ last.handled = service.handled

theorem Tidy.latest {runner : Runner} (tidy : service.Tidy) (runs : runner ∈ service.running) :
    service.runners.getLast? = some runner := by
  rw [tidy.running, Option.mem_toList] at runs
  obtain ⟨number, slot, place⟩ := Option.bind_eq_some_iff.1 runs
  rw [List.getLast?_eq_getElem?, ← tidy.last number slot]
  exact place

/-- An attempt has connected just if the transport gave it a connection that it has come back with. -/
theorem Orderly.exists_given {attempt : Nat} (orderly : Orderly moves service)
    (connected : service.lifecycle.hasConnected attempt) :
    ∃ source, (attempt, source) ∈ service.lifecycle.connects (connectionMoves moves) := by
  obtain ⟨options, run⟩ := orderly.reached
  have story := (Lifecycle.history_of_run? run).2.story attempt _ (Lifecycle.hasConnected_iff.1 connected)
  obtain ⟨⟨source, answered⟩, -⟩ := story.connected_iff.1 rfl
  exact ⟨source, List.mem_filter.2 ⟨Lifecycle.mem_given?_iff.2 answered, connected⟩⟩

theorem lawful_of_run? {options : BrokerOptions} (h : (initial options).run? moves = some service) :
    Lawful moves service := by
  have orderly : Orderly moves service := (orderly_initial options).run h
  refine ⟨orderly.started, fun attempt ↦ ?_, ?_, fun runner runs ↦ ?_, ?_, ?_⟩
  · rw [← Lifecycle.hasConnected_iff]
    have origins (source : ConnectionId) : (attempt, source) ∈ service.lifecycle.connects (connectionMoves moves) ↔
        ∃ runner ∈ service.runners, runner.attempt = attempt ∧ runner.source = source := by
      simp [← orderly.started, Runner.origin]
    constructor
    · rintro ⟨runner, hmem, rfl⟩
      exact (List.mem_filter.1 ((origins runner.source).2 ⟨runner, hmem, rfl, rfl⟩)).2
    · intro connected
      obtain ⟨source, given⟩ := orderly.exists_given connected
      obtain ⟨runner, hmem, own, -⟩ := (origins source).1 given
      exact ⟨runner, hmem, own⟩
  · rw [orderly.tidy.running, ← orderly.kept]
    cases service.kept? <;> rfl
  · rw [← orderly.started, List.getLast?_map, orderly.tidy.latest runs]
    rfl
  · exact fun request hmem ↦ Lifecycle.hasConnected_iff.1 (orderly.requests request hmem)
  · intro release next later last releases step run none
    have after := orderly.step step
    have idle : next.running = [] := by
      have kept := after.kept
      rw [connectionMoves_concat, Move.connection?, Option.toList_some, Lifecycle.sinceRelease_concat,
        if_pos releases] at kept
      rw [after.tidy.running, Option.map_eq_none_iff.1 kept]
      rfl
    have handled : next.handled = service.handled := by
      obtain ⟨lifecycle, -, rfl⟩ := Option.map_eq_some_iff.1 step
      obtain ⟨runners, slot, subscribing, same⟩ := exists_react_eq { service with lifecycle } release
      rw [same]
    obtain ⟨idle', same⟩ := after.idle_run idle run none
    exact ⟨idle', same.trans handled⟩

/-! ## Operations of agents -/

section Operations

variable {agent : Agent} {medium : Medium} {overrides : BrokerOverrides}

/-- Whether the lifecycle stands where an agent stands, and the agent's dispatcher reads what the one that is kept
reads. -/
structure Follows (service : Service) (agent : Agent) : Prop where
  lifecycle : service.lifecycle.Follows agent
  source : service.kept?.map Runner.source = agent.dispatcher.map Dispatcher.source

theorem exists_of_run?_cons {lifecycle last : Lifecycle} {rest : List Lifecycle.Move}
    (h : lifecycle.run? (made :: rest) = some last) :
    ∃ middle, lifecycle.step? made = some middle ∧ middle.run? rest = some last := by
  simp only [Lifecycle.run?, List.foldlM_cons] at h
  exact Option.bind_eq_some_iff.1 h

theorem run?_cons_of_step? {middle last : Service} {rest : List Move} (step : service.step? move = some middle)
    (run : middle.run? rest = some last) : service.run? (move :: rest) = some last := by
  simpa [run?, step] using run

/-- Moves that neither release the connection nor give one to an attempt leave the dispatchers alone. -/
theorem run?_of_still {rest : List Lifecycle.Move} {last : Lifecycle} (h : service.lifecycle.run? rest = some last)
    (still : ∀ made ∈ rest, made.releases = false ∧ made.given? = none) :
    service.run? (rest.map .connection) = some { service with lifecycle := last } ∧
      ∀ attempt, last.hasConnected attempt = service.lifecycle.hasConnected attempt := by
  induction rest generalizing service with
  | nil =>
    obtain rfl := Option.some.inj h
    exact ⟨rfl, fun _ ↦ rfl⟩
  | cons made rest ih =>
    obtain ⟨middle, step, run⟩ := exists_of_run?_cons h
    obtain ⟨releases, given⟩ := still made List.mem_cons_self
    have ungiven (attempt : Nat) (source : ConnectionId) : made ≠ .answered attempt (.ok source) := by
      rintro rfl
      cases given
    have reacts := step?_of_refused step releases fun attempt source same ↦ absurd same (ungiven attempt source)
    have connected : ∀ attempt, middle.hasConnected attempt = service.lifecycle.hasConnected attempt := by
      rcases (Lifecycle.effect_of_step? step).hasConnected_cases with ⟨attempt, source, -, same, -⟩ | ⟨same, -⟩
      · exact absurd same (ungiven attempt source)
      · exact same
    have rest := @ih { service with lifecycle := middle } run fun other hmem ↦
      still other (List.mem_cons_of_mem _ hmem)
    exact ⟨run?_cons_of_step? reacts rest.1, fun attempt ↦ (rest.2 attempt).trans (connected attempt)⟩

namespace Follows

/-- A connect that an agent refuses changes nothing. -/
theorem beginConnect_error {error : Error} (follows : service.Follows agent)
    (h : agent.beginConnect medium overrides = .error error) :
    ∃ moves next, service.run? moves = some next ∧ next.Follows agent := by
  have run := follows.lifecycle.beginConnect_error h
  exact ⟨_, _, (run?_of_still run (by simp [Lifecycle.Move.releases, Lifecycle.Move.given?])).1,
    ⟨follows.lifecycle.options, follows.lifecycle.connection⟩, follows.source⟩

/-- A connect that an agent begins leaves its dispatcher alone. -/
theorem beginConnect_ok {after : Medium} {begun : Agent} {pending : Pending} (follows : service.Follows agent)
    (h : agent.beginConnect medium overrides = .ok (after, begun, pending)) :
    ∃ moves next, service.run? moves = some next ∧ next.Follows begun ∧
      next.lifecycle.attempts = service.lifecycle.attempts ++ [.asking pending] := by
  obtain ⟨rest, last, run, own, follows', attempts, -⟩ := follows.lifecycle.beginConnect_ok h
  have still (made : Lifecycle.Move) (hmem : made ∈ .connect overrides (medium.isLive agent.transport) :: rest) :
      made.releases = false ∧ made.given? = none := by
    rcases List.mem_cons.1 hmem with rfl | hmem
    · exact ⟨rfl, rfl⟩
    · rw [own made hmem]
      exact ⟨rfl, rfl⟩
  have dispatcher : begun.dispatcher = agent.dispatcher := by rw [(Agent.beginConnect_eq_ok h).1]
  exact ⟨_, _, (run?_of_still run still).1, ⟨follows', dispatcher ▸ follows.source⟩, attempts⟩

/-- A connect that an agent completes starts a dispatcher if it succeeds, and leaves its dispatcher alone if it fails
or was overtaken. -/
theorem completeConnect {attempt : Nat} {pending : Pending} (follows : service.Follows agent)
    (stage : service.lifecycle.attempts[attempt]? = some (.asking pending))
    (opened : ∀ handle ∈ service.lifecycle.opened, handle < medium.broker.clients.length) :
    ∃ moves next, service.run? moves = some next ∧ next.Follows (agent.completeConnect medium pending).2.1 := by
  obtain ⟨rest, last, run, own, follows', attempts⟩ := follows.lifecycle.completeConnect stage opened
  obtain ⟨middle, step, run'⟩ := exists_of_run?_cons run
  have still (made : Lifecycle.Move) (hmem : made ∈ rest) : made.releases = false ∧ made.given? = none := by
    rw [own made hmem]
    exact ⟨rfl, rfl⟩
  obtain ⟨-, connected⟩ := @run?_of_still { service with lifecycle := middle } rest last run' still
  have result : middle.hasConnected attempt = (agent.completeConnect medium pending).2.2.isOk := by
    rw [← connected, Lifecycle.hasConnected, attempts,
      List.getElem?_set_self (List.getElem?_eq_some_iff.1 stage).1, Option.any_some]
    cases (agent.completeConnect medium pending).2.2 <;> rfl
  have outcome := Agent.dispatcher_completeConnect medium agent pending
  generalize medium.answerConnect agent.transport pending.options agent.clientId = answer at step outcome
  rcases outcome with ⟨failed, same⟩ | ⟨answered, source, rfl, -, done, started⟩
  · have refused (other : Nat) (source : ConnectionId)
        (h : .answered attempt (Lifecycle.Follows.answerOf answer) = Lifecycle.Move.answered other (.ok source)) :
        middle.hasConnected other = false :=
      (Lifecycle.Move.answered.inj h).1 ▸ result.trans failed
    have run := (@run?_of_still { service with lifecycle := middle } rest last run' still).1
    exact ⟨_, _, run?_cons_of_step? (step?_of_refused step rfl refused) run, follows', same ▸ follows.source⟩
  · have reacts := step?_of_connected step (result.trans done)
    have place : (start { service with lifecycle := middle } attempt source).lifecycle = middle := by
      rw [start_eq]
    have run := (run?_of_still (place.symm ▸ run') still).1
    refine ⟨_, _, run?_cons_of_step? reacts run, follows', ?_⟩
    have kept := kept?_start { service with lifecycle := middle } attempt source
    rw [started]
    exact congrArg (Option.map Runner.source) kept

/-- A disconnect stops the dispatcher. -/
theorem disconnect (follows : service.Follows agent) (medium : Medium) :
    ∃ next, service.run? [.connection .disconnect] = some next ∧ next.Follows (agent.disconnect medium).2 := by
  obtain ⟨last, run, follows', -⟩ := follows.lifecycle.disconnect medium
  obtain ⟨middle, step, same⟩ := exists_of_run?_cons run
  obtain rfl := Option.some.inj same
  refine ⟨_, run?_cons_of_step? (step?_of_releases step rfl) rfl, ?_, ?_⟩
  · rw [halt_eq]
    exact follows'
  · rw [kept?, slot_halt, (Agent.disconnect_eq medium agent).2]
    rfl

/-- So does a drop. -/
theorem release (follows : service.Follows agent) :
    ∃ next, service.run? [.connection .drop] = some next ∧ next.Follows agent.release.1 := by
  obtain ⟨last, run, follows', -⟩ := follows.lifecycle.release
  obtain ⟨middle, step, same⟩ := exists_of_run?_cons run
  obtain rfl := Option.some.inj same
  refine ⟨_, run?_cons_of_step? (step?_of_releases step rfl) rfl, ?_, ?_⟩
  · rw [halt_eq]
    exact follows'
  · rw [kept?, slot_halt]
    rfl

end Follows

end Operations

end Service

end PubSub
