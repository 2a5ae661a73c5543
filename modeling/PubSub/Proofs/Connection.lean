import PubSub.Connection.Basic
/-!
# Attempts and handles

What a connection says of an attempt that it lets begin, and of an attempt that is still the current one.
-/

namespace PubSub.Connection

variable {connection : Connection} {live : ConnectionId → Bool} {generation : Nat}

theorem begin?_of_busy (busy : connection.state = .connecting ∨ connection.isConnected live) :
    connection.begin? live = .error (.invalidState connection.state "connect") := by
  rw [begin?, if_pos busy]
  rfl

theorem begin?_of_idle (idle : ¬(connection.state = .connecting ∨ connection.isConnected live)) :
    connection.begin? live =
      .ok ⟨⟨.connecting, none, connection.generation + 1⟩, connection.generation + 1, connection.handle⟩ := by
  rw [begin?, if_neg idle]
  rfl

theorem begin?_eq_ok {begun : Begun} (h : connection.begin? live = .ok begun) :
    begun = ⟨⟨.connecting, none, connection.generation + 1⟩, connection.generation + 1, connection.handle⟩ := by
  by_cases busy : connection.state = .connecting ∨ connection.isConnected live
  · rw [begin?_of_busy busy] at h
    cases h
  · rw [begin?_of_idle busy] at h
    exact (Except.ok.inj h).symm

/-- Requests go out on a handle that the transport reports as live. -/
theorem live_of_liveHandle? {handle : ConnectionId} (h : connection.liveHandle? live = some handle) : live handle := by
  rw [liveHandle?, Option.ite_none_right_eq_some, isConnected, Bool.and_eq_true] at h
  obtain ⟨⟨-, reported⟩, held⟩ := h
  rwa [held, Option.any_some] at reported

/-- While an attempt is current, no handle is held. -/
theorem handle_eq_none_of_isCurrent (connected : connection.state = .connected ↔ connection.handle.isSome)
    (current : connection.isCurrent generation) : connection.handle = none := by
  have hstate : connection.state = .connecting := by
    simp only [isCurrent, Bool.and_eq_true, decide_eq_true_eq] at current
    exact current.1
  have hnone := (not_congr connected).1 (by simp [hstate])
  simpa using hnone

end PubSub.Connection
