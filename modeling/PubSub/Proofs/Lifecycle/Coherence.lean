import PubSub.Proofs.Lifecycle.Effect
/-!
# Connection and attempts

What the state, the handle and the generation of a connection say of the attempts in flight. Only the attempt of the
present generation may still change the connection, there is at most one such attempt, and the connection is connecting
exactly while there is one. A release makes the generation one that no attempt has; so does an attempt that begins, but
it begins only when nobody is current.
-/

namespace PubSub.Lifecycle

variable {attempts : List Stage} {stage old : Stage} {attempt other : Nat} {pending : Pending}

theorem inFlight?_eq (h : attempts[attempt]? = some stage) : inFlight? attempts attempt = stage.pending? := by
  simp [inFlight?, h]

theorem inFlight?_concat (attempts : List Stage) (stage : Stage) (attempt : Nat) :
    inFlight? (attempts ++ [stage]) attempt =
      if attempt = attempts.length then stage.pending? else inFlight? attempts attempt := by
  grind [inFlight?]

theorem inFlight?_set (h : attempts[other]? = some old) (stage : Stage) (attempt : Nat) :
    inFlight? (attempts.set other stage) attempt =
      if attempt = other then stage.pending? else inFlight? attempts attempt := by
  grind [inFlight?]

/-- How the state, the handle and the generation of a connection go with the attempts in flight. -/
structure Coherent (connection : Connection) (attempts : List Stage) : Prop where
  connected_iff : connection.state = .connected ↔ connection.handle.isSome
  generation_le : ∀ attempt pending, inFlight? attempts attempt = some pending →
    pending.generation ≤ connection.generation
  generation_inj : ∀ first second pending other, inFlight? attempts first = some pending →
    inFlight? attempts second = some other → pending.generation = other.generation → first = second
  connecting_iff : connection.state = .connecting ↔
    ∃ attempt pending, inFlight? attempts attempt = some pending ∧ pending.generation = connection.generation
  abandoning_ne : ∀ (attempt : Nat) (pending : Pending), attempts[attempt]? = some (.abandoning pending) →
    pending.generation ≠ connection.generation

namespace Coherent

variable {connection : Connection}

theorem inFlight_congr (coherent : Coherent connection attempts) {others : List Stage}
    (same : ∀ attempt, inFlight? others attempt = inFlight? attempts attempt)
    (ne : ∀ (attempt : Nat) (pending : Pending), others[attempt]? = some (.abandoning pending) →
      pending.generation ≠ connection.generation) : Coherent connection others where
  connected_iff := coherent.connected_iff
  generation_le := by simpa only [same] using coherent.generation_le
  generation_inj := by simpa only [same] using coherent.generation_inj
  connecting_iff := by simpa only [same] using coherent.connecting_iff
  abandoning_ne := ne

theorem refuse (coherent : Coherent connection attempts) (result : Except Error Unit) :
    Coherent connection (attempts ++ [.returned result]) := by
  apply coherent.inFlight_congr
  · intro attempt
    rw [inFlight?_concat]
    split
    · rename_i h
      simp [h, inFlight?, Stage.pending?]
    · rfl
  · intro attempt pending h
    have := coherent.abandoning_ne attempt pending
    grind

theorem begin (coherent : Coherent connection attempts) (fresh : stage.pending? = some pending)
    (generation : pending.generation = connection.generation + 1) (onward : stage ≠ .abandoning pending) :
    Coherent ⟨.connecting, none, connection.generation + 1⟩ (attempts ++ [stage]) where
  connected_iff := by simp
  generation_le := by
    intro attempt found h
    rw [inFlight?_concat] at h
    split at h
    · grind
    · have := coherent.generation_le attempt found h
      simp only
      omega
  generation_inj := by
    intro first second found other h h' same
    rw [inFlight?_concat] at h h'
    have hle := coherent.generation_le
    have hinj := coherent.generation_inj
    grind
  connecting_iff := by
    simp only [true_iff]
    exact ⟨attempts.length, pending, by rw [inFlight?_concat, if_pos rfl, fresh], generation⟩
  abandoning_ne := by
    intro attempt found h
    have hle := coherent.generation_le attempt found
    by_cases hlast : attempt < attempts.length
    · rw [List.getElem?_append_left hlast] at h
      have := hle (inFlight?_eq h)
      simp only
      omega
    · grind [Stage.pending?]

theorem carryOn (coherent : Coherent connection attempts) (h : attempts[attempt]? = some old)
    (same : stage.pending? = old.pending?)
    (ne : ∀ pending, stage = .abandoning pending → pending.generation ≠ connection.generation) :
    Coherent connection (attempts.set attempt stage) := by
  apply coherent.inFlight_congr
  · intro other
    rw [inFlight?_set h]
    split
    · rename_i heq
      rw [heq, same, inFlight?_eq h]
    · rfl
  · intro other found hother
    have := coherent.abandoning_ne other found
    grind [Stage.pending?]

/-- An attempt that was overtaken leaves the connection as it is. -/
theorem leave (coherent : Coherent connection attempts) (h : attempts[attempt]? = some old)
    (flying : old.pending? = some pending) (overtaken : pending.generation ≠ connection.generation)
    (result : Except Error Unit) : Coherent connection (attempts.set attempt (.returned result)) where
  connected_iff := coherent.connected_iff
  generation_le := by
    intro other found hother
    rw [inFlight?_set h] at hother
    exact coherent.generation_le other found (by grind [Stage.pending?])
  generation_inj := by
    intro first second found other hfirst hsecond
    rw [inFlight?_set h] at hfirst hsecond
    exact coherent.generation_inj first second found other (by grind [Stage.pending?]) (by grind [Stage.pending?])
  connecting_iff := by
    rw [coherent.connecting_iff]
    constructor
    · intro ⟨other, found, hother, current⟩
      have hne : other ≠ attempt := by
        rintro rfl
        rw [inFlight?_eq h, flying] at hother
        exact overtaken (Option.some.inj hother ▸ current)
      exact ⟨other, found, by rw [inFlight?_set h, if_neg hne, hother], current⟩
    · intro ⟨other, found, hother, current⟩
      rw [inFlight?_set h] at hother
      exact ⟨other, found, by grind [Stage.pending?], current⟩
  abandoning_ne := by
    intro other found hother
    exact coherent.abandoning_ne other found (by grind)

/-- The answer to the current attempt settles the connection, and no other attempt is current then. -/
theorem settle (coherent : Coherent connection attempts) (h : attempts[attempt]? = some (.asking pending))
    (current : pending.generation = connection.generation) (settled : Connection)
    (generation : settled.generation = connection.generation) (idle : settled.state ≠ .connecting)
    (stored : settled.state = .connected ↔ settled.handle.isSome) (result : Except Error Unit) :
    Coherent settled (attempts.set attempt (.returned result)) where
  connected_iff := stored
  generation_le := by
    intro other found hother
    rw [inFlight?_set h] at hother
    rw [generation]
    exact coherent.generation_le other found (by grind [Stage.pending?])
  generation_inj := by
    intro first second found other hfirst hsecond
    rw [inFlight?_set h] at hfirst hsecond
    exact coherent.generation_inj first second found other (by grind [Stage.pending?]) (by grind [Stage.pending?])
  connecting_iff := by
    refine iff_of_false idle ?_
    intro ⟨other, found, hother, same⟩
    rw [inFlight?_set h] at hother
    have hinj := coherent.generation_inj attempt other pending found (inFlight?_eq h)
    grind [Stage.pending?]
  abandoning_ne := by
    intro other found hother
    rw [generation]
    exact coherent.abandoning_ne other found (by grind)

/-- A release leaves every attempt in flight behind. -/
theorem release (coherent : Coherent connection attempts) :
    Coherent ⟨.initialised, none, connection.generation + 1⟩ attempts where
  connected_iff := by simp
  generation_le := by
    intro attempt pending h
    have := coherent.generation_le attempt pending h
    simp only
    omega
  generation_inj := coherent.generation_inj
  connecting_iff := by
    refine iff_of_false (by simp) ?_
    intro ⟨attempt, pending, h, same⟩
    have := coherent.generation_le attempt pending h
    simp only at same
    omega
  abandoning_ne := by
    intro attempt pending h
    have := coherent.generation_le attempt pending (inFlight?_eq h)
    simp only
    omega

/-- The attempt that a connection waits for is the current one among those that ask. -/
theorem isCurrent_iff (coherent : Coherent connection attempts) (h : attempts[attempt]? = some (.asking pending)) :
    connection.isCurrent pending.generation ↔ pending.generation = connection.generation := by
  simp only [Connection.isCurrent, Bool.and_eq_true, decide_eq_true_eq]
  constructor
  · rintro ⟨-, same⟩
    exact same.symm
  · intro same
    exact ⟨coherent.connecting_iff.2 ⟨attempt, pending, inFlight?_eq h, same⟩, same.symm⟩

theorem step {lifecycle next : Lifecycle} {move : Move}
    (coherent : Coherent lifecycle.connection lifecycle.attempts) (effect : Effect lifecycle move next) :
    Coherent next.connection next.attempts := by
  cases effect with
  | refused => exact coherent.refuse _
  | begun => exact coherent.begin rfl rfl nofun
  | begunAnew => exact coherent.begin rfl rfl nofun
  | replaced stage => exact coherent.carryOn stage rfl nofun
  | @accepted _ _ handle stage current =>
    exact coherent.settle stage ((coherent.isCurrent_iff stage).1 current)
      { lifecycle.connection with state := .connected, handle := some handle } rfl (by simp) (by simp) _
  | late stage overtaken =>
    refine coherent.carryOn stage rfl fun pending h ↦ ?_
    rw [coherent.isCurrent_iff stage] at overtaken
    exact (Stage.abandoning.inj h) ▸ overtaken
  | failed stage current =>
    exact coherent.settle stage ((coherent.isCurrent_iff stage).1 current)
      { lifecycle.connection with state := .errored, handle := none } rfl (by simp) (by simp) _
  | failedLate stage overtaken => exact coherent.leave stage rfl (mt (coherent.isCurrent_iff stage).2 overtaken) _
  | abandoned stage => exact coherent.leave stage rfl (coherent.abandoning_ne _ _ stage) _
  | disconnected => exact coherent.release
  | dropped => exact coherent.release
  | collected => exact coherent
  | closed => exact coherent

/-- Whether the generation of an attempt is over changes by releases only. A connect that begins increases the
generation too, but only when no attempt is current. -/
theorem ne_generation_iff {lifecycle next : Lifecycle} {move : Move}
    (coherent : Coherent lifecycle.connection lifecycle.attempts) (effect : Effect lifecycle move next)
    (h : inFlight? lifecycle.attempts attempt = some pending) :
    pending.generation ≠ next.connection.generation ↔
      pending.generation ≠ lifecycle.connection.generation ∨ move.releases := by
  have hle := coherent.generation_le attempt pending h
  have hidle : lifecycle.connection.state ≠ .connecting → pending.generation ≠ lifecycle.connection.generation :=
    fun idle same ↦ idle (coherent.connecting_iff.2 ⟨attempt, pending, h, same⟩)
  cases effect with
  | begun idle | begunAnew idle =>
    have := hidle idle
    simp only [Move.releases]
    omega
  | disconnected | dropped =>
    simp only [Move.releases, or_true, iff_true]
    omega
  | _ => simp [Move.releases, setStage]

end Coherent

theorem coherent_initial (options : BrokerOptions) :
    Coherent (initial options).connection (initial options).attempts where
  connected_iff := by simp [initial, Connection.initial]
  generation_le := by simp [initial, inFlight?]
  generation_inj := by simp [initial, inFlight?]
  connecting_iff := by simp [initial, Connection.initial, inFlight?]
  abandoning_ne := by simp [initial]

end PubSub.Lifecycle
