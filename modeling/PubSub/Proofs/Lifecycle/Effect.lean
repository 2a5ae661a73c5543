import PubSub.Agent.Lifecycle
import PubSub.Proofs.Connection
import Mathlib.Data.List.Induction
/-!
# What a move does

A move of a lifecycle is opened here once: `Effect` lists what a move can do, with the condition that it is done under
and the lifecycle that it leads to. What every run keeps is then shown by going through the list.
-/

namespace PubSub.Lifecycle

/-- The lifecycle after a move, told apart by what becomes of the connection and of the handles. -/
inductive Effect (lifecycle : Lifecycle) : Move → Lifecycle → Prop
  | refused {overrides : BrokerOverrides} {live : ConnectionId → Bool}
      (busy : lifecycle.connection.state = .connecting ∨ lifecycle.connection.isConnected live) :
      Effect lifecycle (.connect overrides live) { lifecycle with
        attempts := lifecycle.attempts ++ [.returned (throw (.invalidState lifecycle.connection.state "connect"))] }
  | begun {overrides : BrokerOverrides} {live : ConnectionId → Bool}
      (idle : lifecycle.connection.state ≠ .connecting) (free : lifecycle.connection.handle = none) :
      Effect lifecycle (.connect overrides live) { lifecycle with
        connection := ⟨.connecting, none, lifecycle.connection.generation + 1⟩
        attempts := lifecycle.attempts ++
          [.asking ⟨lifecycle.connection.generation + 1, lifecycle.options.merged overrides⟩] }
  | begunAnew {overrides : BrokerOverrides} {live : ConnectionId → Bool} {stale : ConnectionId}
      (idle : lifecycle.connection.state ≠ .connecting) (held : lifecycle.connection.handle = some stale) :
      Effect lifecycle (.connect overrides live) { lifecycle with
        connection := ⟨.connecting, none, lifecycle.connection.generation + 1⟩
        attempts := lifecycle.attempts ++
          [.replacing ⟨lifecycle.connection.generation + 1, lifecycle.options.merged overrides⟩]
        ended := lifecycle.ended ++ [stale] }
  | replaced {attempt : Nat} {pending : Pending} (stage : lifecycle.attempts[attempt]? = some (.replacing pending)) :
      Effect lifecycle (.replaced attempt) (lifecycle.setStage attempt (.asking pending))
  | accepted {attempt : Nat} {pending : Pending} {handle : ConnectionId}
      (stage : lifecycle.attempts[attempt]? = some (.asking pending))
      (current : lifecycle.connection.isCurrent pending.generation) (new : handle ∉ lifecycle.opened) :
      Effect lifecycle (.answered attempt (.ok handle)) { lifecycle.setStage attempt (.returned (pure ())) with
        connection := { lifecycle.connection with state := .connected, handle := some handle }
        opened := lifecycle.opened ++ [handle] }
  | late {attempt : Nat} {pending : Pending} {handle : ConnectionId}
      (stage : lifecycle.attempts[attempt]? = some (.asking pending))
      (overtaken : ¬lifecycle.connection.isCurrent pending.generation) (new : handle ∉ lifecycle.opened) :
      Effect lifecycle (.answered attempt (.ok handle)) { lifecycle.setStage attempt (.abandoning pending) with
        opened := lifecycle.opened ++ [handle]
        ended := lifecycle.ended ++ [handle] }
  | failed {attempt : Nat} {pending : Pending} {reason : String}
      (stage : lifecycle.attempts[attempt]? = some (.asking pending))
      (current : lifecycle.connection.isCurrent pending.generation) :
      Effect lifecycle (.answered attempt (.error reason))
        { lifecycle.setStage attempt (.returned (throw (pending.refusal reason))) with
          connection := { lifecycle.connection with state := .errored, handle := none } }
  | failedLate {attempt : Nat} {pending : Pending} {reason : String}
      (stage : lifecycle.attempts[attempt]? = some (.asking pending))
      (overtaken : ¬lifecycle.connection.isCurrent pending.generation) :
      Effect lifecycle (.answered attempt (.error reason))
        (lifecycle.setStage attempt (.returned (throw (pending.refusal reason))))
  | abandoned {attempt : Nat} {pending : Pending} (stage : lifecycle.attempts[attempt]? = some (.abandoning pending)) :
      Effect lifecycle (.abandoned attempt) (lifecycle.setStage attempt (.returned (throw pending.overtaken)))
  | disconnected :
      Effect lifecycle .disconnect { lifecycle with
        connection := ⟨.initialised, none, lifecycle.connection.generation + 1⟩
        closing := lifecycle.closing ++ lifecycle.connection.handle.toList
        ended := lifecycle.ended ++ lifecycle.connection.handle.toList }
  | dropped :
      Effect lifecycle .drop { lifecycle with
        connection := ⟨.initialised, none, lifecycle.connection.generation + 1⟩
        orphans := lifecycle.orphans ++ lifecycle.connection.handle.toList }
  | collected {handle : ConnectionId} {rest : List ConnectionId} (left : lifecycle.orphans = handle :: rest) :
      Effect lifecycle .collect { lifecycle with
        orphans := rest
        closing := lifecycle.closing ++ [handle]
        ended := lifecycle.ended ++ [handle] }
  | closed {handle : ConnectionId} (awaited : handle ∈ lifecycle.closing) :
      Effect lifecycle (.closed handle) { lifecycle with closing := lifecycle.closing.erase handle }

theorem effect_call (lifecycle : Lifecycle) (overrides : BrokerOverrides) (live : ConnectionId → Bool) :
    Effect lifecycle (.connect overrides live) (lifecycle.call overrides live) := by
  by_cases busy : lifecycle.connection.state = .connecting ∨ lifecycle.connection.isConnected live
  · rw [call, Connection.begin?_of_busy busy]
    exact .refused busy
  · rw [call, Connection.begin?_of_idle busy]
    rw [not_or] at busy
    cases held : lifecycle.connection.handle with
    | none => exact .begun busy.1 held
    | some stale => exact .begunAnew busy.1 held

theorem effect_conclude {lifecycle : Lifecycle} {attempt : Nat} {pending : Pending} {answer : Except String ConnectionId}
    (stage : lifecycle.attempts[attempt]? = some (.asking pending)) (new : lifecycle.isNew answer) :
    Effect lifecycle (.answered attempt answer) (lifecycle.conclude attempt pending answer) := by
  by_cases current : lifecycle.connection.isCurrent pending.generation
  · cases answer with
    | error reason =>
      rw [conclude, Connection.reject, if_pos current]
      exact .failed stage current
    | ok handle =>
      rw [conclude, Connection.accept?, if_pos current]
      exact .accepted stage current (by simpa [isNew] using new)
  · cases answer with
    | error reason =>
      rw [conclude, Connection.reject, if_neg current]
      exact .failedLate stage current
    | ok handle =>
      rw [conclude, Connection.accept?, if_neg current]
      exact .late stage current (by simpa [isNew] using new)

/-- Every move that can be made has one of the listed effects. -/
theorem effect_of_step? {lifecycle next : Lifecycle} {move : Move} (h : lifecycle.step? move = some next) :
    Effect lifecycle move next := by
  cases move with
  | connect overrides live =>
    obtain rfl : lifecycle.call overrides live = next := by simpa [step?] using h
    exact effect_call lifecycle overrides live
  | replaced attempt =>
    rw [step?] at h
    split at h
    · rename_i pending stage
      obtain rfl := Option.some.inj h
      exact .replaced stage
    · cases h
  | answered attempt answer =>
    rw [step?] at h
    split at h
    · rename_i pending stage
      split at h
      · rename_i new
        obtain rfl := Option.some.inj h
        exact effect_conclude stage new
      · cases h
    · cases h
  | abandoned attempt =>
    rw [step?] at h
    split at h
    · rename_i pending stage
      obtain rfl := Option.some.inj h
      exact .abandoned stage
    · cases h
  | disconnect =>
    obtain rfl := Option.some.inj h
    exact .disconnected
  | drop =>
    obtain rfl := Option.some.inj h
    exact .dropped
  | collect =>
    rw [step?] at h
    split at h
    · cases h
    · rename_i handle rest left
      obtain rfl := Option.some.inj h
      exact .collected left
  | closed handle =>
    rw [step?] at h
    split at h
    · rename_i awaited
      obtain rfl := Option.some.inj h
      exact .closed (by simpa using awaited)
    · cases h

/-! ## Runs -/

@[simp]
theorem run?_nil (lifecycle : Lifecycle) : lifecycle.run? [] = some lifecycle := rfl

theorem run?_append (lifecycle : Lifecycle) (moves later : List Move) :
    lifecycle.run? (moves ++ later) = (lifecycle.run? moves).bind fun reached ↦ reached.run? later := by
  simp only [run?, List.foldlM_append]
  rfl

theorem run?_singleton (lifecycle : Lifecycle) (move : Move) : lifecycle.run? [move] = lifecycle.step? move := by
  simp [run?]

theorem run?_concat (lifecycle : Lifecycle) (moves : List Move) (move : Move) :
    lifecycle.run? (moves ++ [move]) = (lifecycle.run? moves).bind fun reached ↦ reached.step? move := by
  simp only [run?_append, run?_singleton]

theorem run?_cons (lifecycle : Lifecycle) (move : Move) (moves : List Move) :
    lifecycle.run? (move :: moves) = (lifecycle.step? move).bind fun next ↦ next.run? moves := by
  rw [← List.singleton_append, run?_append, run?_singleton]

theorem run?_cons_of_step? {lifecycle next last : Lifecycle} {move : Move} {moves : List Move}
    (step : lifecycle.step? move = some next) (run : next.run? moves = some last) :
    lifecycle.run? (move :: moves) = some last := by
  rw [run?_cons, step, Option.bind_some, run]

/-- What holds at the start and is kept by every move, whatever was moved before, holds after every run. -/
theorem run?_induction {motive : List Move → Lifecycle → Prop} {start : Lifecycle} (initial : motive [] start)
    (step : ∀ moves reached move next, motive moves reached → Effect reached move next →
      motive (moves ++ [move]) next) {moves : List Move} {lifecycle : Lifecycle}
    (run : start.run? moves = some lifecycle) : motive moves lifecycle := by
  induction moves using List.reverseRecOn generalizing lifecycle with
  | nil =>
    obtain rfl := Option.some.inj run
    exact initial
  | append_singleton moves move ih =>
    rw [run?_concat] at run
    obtain ⟨reached, hreached, hstep⟩ := Option.bind_eq_some_iff.1 run
    exact step moves reached move lifecycle (ih hreached) (effect_of_step? hstep)

end PubSub.Lifecycle
