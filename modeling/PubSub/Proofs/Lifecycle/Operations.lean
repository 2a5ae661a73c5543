import PubSub.Proofs.Agent.Links
import PubSub.Proofs.Lifecycle.Effect
/-!
# Operations as runs

What an agent does to its connection in one go is a run of moves: it comes to the same connection, the attempt returns
the same result, and the handles that the agent closes are those that the run ends.
-/

namespace PubSub.Lifecycle

variable {lifecycle : Lifecycle} {agent : Agent} {medium : Medium} {overrides : BrokerOverrides}

/-- Whether a lifecycle stands where an agent stands. -/
structure Follows (lifecycle : Lifecycle) (agent : Agent) : Prop where
  options : lifecycle.options = agent.options
  connection : lifecycle.connection = agent.connection

namespace Follows

/-- An attempt that an agent refuses returns at once. -/
theorem beginConnect_error {error : Error} (follows : lifecycle.Follows agent)
    (h : agent.beginConnect medium overrides = .error error) :
    lifecycle.run? [.connect overrides (medium.isLive agent.transport)] =
      some { lifecycle with attempts := lifecycle.attempts ++ [.returned (.error error)] } := by
  unfold Agent.beginConnect at h
  cases hbegin : agent.connection.begin? (medium.isLive agent.transport) with
  | error found =>
    have same : found = error := by simpa [hbegin, bind, Except.bind] using h
    apply run?_cons_of_step? _ (run?_nil _)
    simp only [step?, call, follows.connection, hbegin, same]
    rfl
  | ok begun => simp [hbegin, bind, Except.bind, pure, Except.pure] at h

/-- An attempt that an agent begins comes to ask the transport, and has ended the handle that it replaces. -/
theorem beginConnect_ok {after : Medium} {begun : Agent} {pending : Pending} (follows : lifecycle.Follows agent)
    (h : agent.beginConnect medium overrides = .ok (after, begun, pending)) :
    ∃ moves next, lifecycle.run? (.connect overrides (medium.isLive agent.transport) :: moves) = some next ∧
      (∀ move ∈ moves, move = .replaced lifecycle.attempts.length) ∧ next.Follows begun ∧
      next.attempts = lifecycle.attempts ++ [.asking pending] ∧
      next.opened = lifecycle.opened ∧ next.ended = lifecycle.ended ++ agent.connection.handle.toList := by
  have hparts := Agent.beginConnect_eq_ok h
  have hbegin : lifecycle.connection.begin? (medium.isLive agent.transport) =
      .ok ⟨⟨.connecting, none, agent.connection.generation + 1⟩, agent.connection.generation + 1,
        agent.connection.handle⟩ := by
    unfold Agent.beginConnect at h
    rw [follows.connection]
    cases hbegin : agent.connection.begin? (medium.isLive agent.transport) with
    | error error => simp [hbegin, bind, Except.bind] at h
    | ok found => rw [Connection.begin?_eq_ok hbegin]
  have called : lifecycle.step? (.connect overrides (medium.isLive agent.transport)) =
      some (lifecycle.call overrides (medium.isLive agent.transport)) := rfl
  simp only [call, hbegin, follows.options, ← hparts.2.1] at called
  cases held : agent.connection.handle with
  | none =>
    rw [held] at called
    refine ⟨[], _, run?_cons_of_step? called (run?_nil _), by simp, ⟨?_, ?_⟩, rfl, rfl, by simp⟩
    · rw [hparts.1]
    · rw [hparts.1]
  | some stale =>
    rw [held] at called
    have replaced (middle : Lifecycle) (attempts : middle.attempts = lifecycle.attempts ++ [.replacing pending]) :
        middle.step? (.replaced lifecycle.attempts.length) =
          some { middle with attempts := lifecycle.attempts ++ [.asking pending] } := by
      simp [step?, setStage, attempts]
    refine ⟨[.replaced lifecycle.attempts.length], _,
      run?_cons_of_step? called (run?_cons_of_step? (replaced _ rfl) (run?_nil _)), by simp, ⟨?_, ?_⟩, rfl, rfl,
      by simp⟩
    · rw [hparts.1]
    · rw [hparts.1]

/-- The transport's answer in the words of a lifecycle. -/
def answerOf : Except TransportError (Medium × ConnectionId) → Except String ConnectionId
  | .error error => .error error.message
  | .ok (_, handle) => .ok handle

/-- An attempt that an agent completes returns the same result, after the close of a connection that it got too late. -/
theorem completeConnect {attempt : Nat} {pending : Pending} (follows : lifecycle.Follows agent)
    (stage : lifecycle.attempts[attempt]? = some (.asking pending))
    (opened : ∀ handle ∈ lifecycle.opened, handle < medium.broker.clients.length) :
    ∃ moves next, lifecycle.run? (.answered attempt
        (answerOf (medium.answerConnect agent.transport pending.options agent.clientId)) :: moves) = some next ∧
      (∀ move ∈ moves, move = .abandoned attempt) ∧ next.Follows (agent.completeConnect medium pending).2.1 ∧
      next.attempts = lifecycle.attempts.set attempt (.returned (agent.completeConnect medium pending).2.2) := by
  have hlt := (List.getElem?_eq_some_iff.1 stage).1
  have answered (answer : Except String ConnectionId) (new : lifecycle.isNew answer) :
      lifecycle.step? (.answered attempt answer) = some (lifecycle.conclude attempt pending answer) := by
    simp only [step?, stage, if_pos new]
  unfold Agent.completeConnect
  cases hanswer : medium.answerConnect agent.transport pending.options agent.clientId with
  | error error =>
    have step := answered (.error error.message) rfl
    refine ⟨[], _, run?_cons_of_step? step (run?_nil _), by simp, ⟨follows.options, ?_⟩, rfl⟩
    simp only [conclude, follows.connection]
  | ok answer =>
    obtain ⟨after, handle⟩ := answer
    have new : lifecycle.isNew (.ok handle) := by
      have accepts := Medium.answerConnect_eq_ok hanswer
      have unopened : handle ∉ lifecycle.opened := fun hmem ↦
        absurd (opened handle hmem) (by rw [accepts.eq_length]; exact Nat.lt_irrefl _)
      simpa [isNew] using unopened
    have step := answered (.ok handle) new
    cases haccept : agent.connection.accept? pending.generation handle with
    | some connection =>
      simp only [conclude, follows.connection, haccept] at step ⊢
      exact ⟨[], _, run?_cons_of_step? step (run?_nil _), by simp, ⟨follows.options, rfl⟩, rfl⟩
    | none =>
      simp only [conclude, follows.connection, haccept] at step ⊢
      have abandoned (middle : Lifecycle)
          (attempts : middle.attempts = lifecycle.attempts.set attempt (.abandoning pending)) :
          middle.step? (.abandoned attempt) = some { middle with
            attempts := lifecycle.attempts.set attempt (.returned (throw pending.overtaken)) } := by
        simp [step?, setStage, attempts, hlt]
      exact ⟨[.abandoned attempt], _, run?_cons_of_step? step (run?_cons_of_step? (abandoned _ rfl) (run?_nil _)),
        by simp, ⟨follows.options, follows.connection⟩, rfl⟩

/-- A disconnect ends the handle that is held, and waits for the close. -/
theorem disconnect (follows : lifecycle.Follows agent) (medium : Medium) :
    ∃ next, lifecycle.run? [.disconnect] = some next ∧ next.Follows (agent.disconnect medium).2 ∧
      next.ended = lifecycle.ended ++ agent.connection.handle.toList ∧
      next.closing = lifecycle.closing ++ agent.connection.handle.toList := by
  have hconnection : (agent.disconnect medium).2.connection =
      ⟨.initialised, none, agent.connection.generation + 1⟩ ∧ (agent.disconnect medium).2.options = agent.options := by
    unfold Agent.disconnect
    cases held : agent.connection.handle <;> simp [Agent.release, Connection.release, held]
  refine ⟨_, rfl, ⟨?_, ?_⟩, ?_, ?_⟩
  · exact follows.options.trans hconnection.2.symm
  · rw [hconnection.1, ← follows.connection]
  · rw [← follows.connection]
  · rw [← follows.connection]

/-- A drop leaves the handle that is held to the background. -/
theorem release (follows : lifecycle.Follows agent) :
    ∃ next, lifecycle.run? [.drop] = some next ∧ next.Follows agent.release.1 ∧
      next.orphans = lifecycle.orphans ++ agent.release.2.toList := by
  refine ⟨_, rfl, ⟨follows.options, ?_⟩, ?_⟩
  · simp [Connection.release, follows.connection, Agent.release]
  · simp [Connection.release, follows.connection, Agent.release]

end Follows

end PubSub.Lifecycle
