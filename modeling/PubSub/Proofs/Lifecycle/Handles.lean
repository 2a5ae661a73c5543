import PubSub.Proofs.Lifecycle.Coherence
import Mathlib.Data.List.Nodup
/-!
# What becomes of handles

A handle leaves an agent in four ways: a connect replaces it, an attempt that was overtaken gives it back, a disconnect
closes it, or a drop leaves it to the background. Every connection that the transport has opened is in exactly one
place: a close was called on it, it is held, or it waits for the background to close it.
-/

namespace PubSub.Lifecycle

/-- Every connection that was opened has been told to close once, is held, or waits for the background to close it. -/
structure Accounted (lifecycle : Lifecycle) : Prop where
  nodup : lifecycle.opened.Nodup
  count_opened : ∀ handle, lifecycle.opened.count handle =
    lifecycle.ended.count handle + lifecycle.connection.handle.toList.count handle + lifecycle.orphans.count handle

namespace Accounted

variable {lifecycle next : Lifecycle} {move : Move}

theorem step (accounted : Accounted lifecycle) (coherent : Coherent lifecycle.connection lifecycle.attempts)
    (effect : Effect lifecycle move next) : Accounted next := by
  obtain ⟨nodup, count_opened⟩ := accounted
  cases effect with
  | refused | replaced | failedLate | abandoned | closed => exact ⟨nodup, count_opened⟩
  | begun idle free => exact ⟨nodup, fun handle ↦ by simpa [free] using count_opened handle⟩
  | begunAnew idle held => exact ⟨nodup, fun handle ↦ by simpa [held] using count_opened handle⟩
  | accepted h current new =>
    refine ⟨List.nodup_append.2 ⟨nodup, List.nodup_singleton _, by grind⟩, fun handle ↦ ?_⟩
    have hcount := count_opened handle
    simp only [Connection.handle_eq_none_of_isCurrent coherent.connected_iff current, Option.toList_none,
      List.count_nil] at hcount
    simp only [setStage, List.count_append, Option.toList_some]
    omega
  | late h overtaken new =>
    refine ⟨List.nodup_append.2 ⟨nodup, List.nodup_singleton _, by grind⟩, fun handle ↦ ?_⟩
    have hcount := count_opened handle
    simp only [setStage, List.count_append]
    omega
  | failed h current =>
    refine ⟨nodup, fun handle ↦ ?_⟩
    simpa [setStage, Connection.handle_eq_none_of_isCurrent coherent.connected_iff current] using count_opened handle
  | disconnected => exact ⟨nodup, fun handle ↦ by simpa using count_opened handle⟩
  | dropped =>
    refine ⟨nodup, fun handle ↦ ?_⟩
    have hcount := count_opened handle
    simp only [List.count_append, Option.toList_none, List.count_nil]
    omega
  | collected left =>
    refine ⟨nodup, fun handle ↦ ?_⟩
    have hcount := count_opened handle
    simp only [left, List.count_cons, List.count_append, List.count_nil] at hcount ⊢
    omega

end Accounted

theorem accounted_of_run? {options : BrokerOptions} {moves : List Move} {lifecycle : Lifecycle}
    (run : (initial options).run? moves = some lifecycle) :
    Coherent lifecycle.connection lifecycle.attempts ∧ Accounted lifecycle :=
  run?_induction (motive := fun _ reached ↦ Coherent reached.connection reached.attempts ∧ Accounted reached)
    ⟨coherent_initial options, List.nodup_nil, fun _ ↦ rfl⟩
    (fun _ _ _ _ ⟨coherent, accounted⟩ effect ↦ ⟨coherent.step effect, accounted.step coherent effect⟩) run

/-- When nothing is under way, a close was called once on every connection that was opened, and not at all on the
handle that is held. -/
theorem count_ended_of_isQuiet {options : BrokerOptions} {moves : List Move} {lifecycle : Lifecycle}
    (run : (initial options).run? moves = some lifecycle) (quiet : lifecycle.isQuiet) (handle : ConnectionId) :
    lifecycle.ended.count handle =
      if handle ∈ lifecycle.opened ∧ lifecycle.connection.handle ≠ some handle then 1 else 0 := by
  obtain ⟨coherent, nodup, count_opened⟩ := accounted_of_run? run
  have horphans : lifecycle.orphans = [] := by
    simp only [isQuiet, Bool.and_eq_true, List.isEmpty_iff] at quiet
    exact quiet.1.2
  have hcount := count_opened handle
  rw [horphans, List.count_nil, nodup.count] at hcount
  cases hheld : lifecycle.connection.handle with
  | none =>
    rw [hheld, Option.toList_none, List.count_nil] at hcount
    simpa using hcount.symm
  | some held =>
    rw [hheld, Option.toList_some, List.count_singleton] at hcount
    by_cases same : held = handle
    · simp only [same, beq_self_eq_true, if_true] at hcount
      simp only [same, ne_eq, not_true, and_false, if_false]
      split at hcount <;> omega
    · simp only [beq_iff_eq, same, if_false] at hcount
      simpa [same] using hcount.symm

end PubSub.Lifecycle
