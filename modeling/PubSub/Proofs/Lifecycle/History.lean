import Mathlib.Data.List.TakeWhile
import PubSub.Proofs.Lifecycle.Coherence
/-!
# Histories of attempts

Where an attempt stands is told by the moves that were made: whether the transport has answered it, and whether the
connection was released between its call and that answer.
-/

namespace PubSub.Lifecycle

variable {attempts : List Stage} {stage old : Stage} {attempt other : Nat} {pending : Pending}

theorem movesAfterCall_concat {moves : List Move} (h : attempt < moves.countP Move.calls) (move : Move) :
    movesAfterCall (moves ++ [move]) attempt = movesAfterCall moves attempt ++ [move] := by
  induction moves generalizing attempt with
  | nil => simp at h
  | cons first rest ih =>
    cases first with
    | connect overrides live =>
      cases attempt with
      | zero => rfl
      | succ attempt => exact ih (by simpa [List.countP_cons, Move.calls] using h)
    | _ => exact ih (by simpa [List.countP_cons, Move.calls] using h)

theorem movesAfterCall_concat_of_le {moves : List Move} (h : moves.countP Move.calls ≤ attempt) (move : Move) :
    movesAfterCall (moves ++ [move]) attempt = [] := by
  induction moves generalizing attempt with
  | nil => cases move <;> cases attempt <;> rfl
  | cons first rest ih =>
    cases first with
    | connect overrides live =>
      cases attempt with
      | zero => simp [Move.calls] at h
      | succ attempt => exact ih (by simpa [List.countP_cons, Move.calls] using h)
    | _ => exact ih (by simpa [List.countP_cons, Move.calls] using h)

theorem mem_of_mem_movesAfterCall {moves : List Move} {move : Move} (h : move ∈ movesAfterCall moves attempt) :
    move ∈ moves := by
  induction moves generalizing attempt with
  | nil => cases h
  | cons first rest ih =>
    cases first with
    | connect overrides live =>
      cases attempt with
      | zero => exact List.mem_cons_of_mem _ h
      | succ attempt => exact List.mem_cons_of_mem _ (ih h)
    | _ => exact List.mem_cons_of_mem _ (ih h)

/-- While an attempt has no answer, every release overtakes it. -/
theorem isOvertaken_concat {moves : List Move} (called : attempt < moves.countP Move.calls)
    (unanswered : ∀ answer, .answered attempt answer ∉ moves) (move : Move) :
    isOvertaken (moves ++ [move]) attempt = (isOvertaken moves attempt || move.releases) := by
  have hall : ∀ made ∈ movesAfterCall moves attempt, (!made.answers attempt) = true := by
    intro made hmade
    cases made with
    | answered other answer =>
      have hne : other ≠ attempt := by
        rintro rfl
        exact unanswered answer (mem_of_mem_movesAfterCall hmade)
      simp [Move.answers, hne]
    | _ => rfl
  simp only [isOvertaken, movesAfterCall_concat called, List.takeWhile_append_of_pos hall,
    List.takeWhile_eq_self_iff.2 hall, List.any_append]
  congr 1
  cases move with
  | answered other answer => by_cases h : other = attempt <;> simp [Move.answers, Move.releases, h]
  | _ => simp [Move.answers, Move.releases]

/-- Once an attempt has its answer, nothing overtakes it any more. -/
theorem isOvertaken_concat_of_answered {moves : List Move} {answer : Except String ConnectionId}
    (called : attempt < moves.countP Move.calls)
    (answered : .answered attempt answer ∈ movesAfterCall moves attempt) (move : Move) :
    isOvertaken (moves ++ [move]) attempt = isOvertaken moves attempt := by
  have hshort : ((movesAfterCall moves attempt).takeWhile fun made ↦ !made.answers attempt).length ≠
      (movesAfterCall moves attempt).length := by
    intro hlength
    have hall := List.takeWhile_eq_self_iff.1 ((List.takeWhile_prefix _).eq_of_length hlength)
    simpa [Move.answers] using hall _ answered
  simp only [isOvertaken, movesAfterCall_concat called, List.takeWhile_append, if_neg hshort]

/-- What has become of an attempt, as the moves tell it. -/
inductive Story (moves : List Move) (generation attempt : Nat) : Stage → Prop
  | waiting {stage : Stage} {pending : Pending} (waits : stage = .replacing pending ∨ stage = .asking pending)
      (unanswered : ∀ answer, .answered attempt answer ∉ moves)
      (overtaken_iff : isOvertaken moves attempt ↔ pending.generation ≠ generation) : Story moves generation attempt stage
  | abandoning {pending : Pending} {handle : ConnectionId}
      (answered : .answered attempt (.ok handle) ∈ movesAfterCall moves attempt)
      (overtaken : isOvertaken moves attempt) : Story moves generation attempt (.abandoning pending)
  | refused {state : ConnectionState} (unanswered : ∀ answer, .answered attempt answer ∉ moves) :
      Story moves generation attempt (.returned (.error (.invalidState state "connect")))
  | connected {handle : ConnectionId} (answered : .answered attempt (.ok handle) ∈ movesAfterCall moves attempt)
      (current : ¬isOvertaken moves attempt) : Story moves generation attempt (.returned (.ok ()))
  | failed {pending : Pending} {reason : String}
      (answered : .answered attempt (.error reason) ∈ movesAfterCall moves attempt)
      (only : ∀ handle, .answered attempt (.ok handle) ∉ moves) :
      Story moves generation attempt (.returned (.error (pending.refusal reason)))
  | overtaken {pending : Pending} {handle : ConnectionId}
      (answered : .answered attempt (.ok handle) ∈ movesAfterCall moves attempt)
      (overtaken : isOvertaken moves attempt) : Story moves generation attempt (.returned (.error pending.overtaken))

/-- An attempt that has not been answered is overtaken exactly if the generation has gone on. -/
theorem Story.isOvertaken_iff {moves : List Move} {generation : Nat} (story : Story moves generation attempt stage)
    (waits : stage = .replacing pending ∨ stage = .asking pending) :
    (∀ answer, .answered attempt answer ∉ moves) ∧
      (isOvertaken moves attempt ↔ pending.generation ≠ generation) := by
  cases story with
  | @waiting _ other waits' unanswered overtaken_iff =>
    obtain rfl : pending = other := by
      rcases waits with rfl | rfl <;> simpa using waits'
    exact ⟨unanswered, overtaken_iff⟩
  | _ => simp at waits

/-- A move that is no answer to an attempt continues its story, if it changes the generation only by leaving the
attempts before behind. -/
theorem Story.concat {moves : List Move} {generation generation' : Nat} {move : Move}
    (story : Story moves generation attempt stage) (called : attempt < moves.countP Move.calls)
    (silent : ∀ answer, move ≠ .answered attempt answer)
    (overtakes : ∀ pending, stage.pending? = some pending →
      (pending.generation ≠ generation' ↔ pending.generation ≠ generation ∨ move.releases)) :
    Story (moves ++ [move]) generation' attempt stage := by
  have hmem {made : Move} (h : made ∈ movesAfterCall moves attempt) :
      made ∈ movesAfterCall (moves ++ [move]) attempt := by
    rw [movesAfterCall_concat called]
    exact List.mem_append_left _ h
  have hnot {answer : Except String ConnectionId} (h : .answered attempt answer ∉ moves) :
      .answered attempt answer ∉ moves ++ [move] := by
    simpa [h] using (silent answer).symm
  cases story with
  | waiting waits unanswered overtaken_iff =>
    refine .waiting waits (fun answer ↦ hnot (unanswered answer)) ?_
    rw [isOvertaken_concat called unanswered, Bool.or_eq_true, overtaken_iff,
      overtakes _ (by rcases waits with rfl | rfl <;> rfl)]
  | abandoning answered overtaken =>
    exact .abandoning (hmem answered) (isOvertaken_concat_of_answered called answered move ▸ overtaken)
  | refused unanswered => exact .refused fun answer ↦ hnot (unanswered answer)
  | connected answered current =>
    exact .connected (hmem answered) (isOvertaken_concat_of_answered called answered move ▸ current)
  | failed answered only => exact .failed (hmem answered) fun handle ↦ hnot (only handle)
  | overtaken answered overtaken =>
    exact .overtaken (hmem answered) (isOvertaken_concat_of_answered called answered move ▸ overtaken)

/-- The attempts of a lifecycle are those that the moves tell of. -/
structure History (moves : List Move) (lifecycle : Lifecycle) : Prop where
  length_eq : lifecycle.attempts.length = moves.countP Move.calls
  uncalled : ∀ (attempt : Nat) answer, lifecycle.attempts.length ≤ attempt → .answered attempt answer ∉ moves
  story : ∀ (attempt : Nat) stage, lifecycle.attempts[attempt]? = some stage →
    Story moves lifecycle.connection.generation attempt stage

namespace History

variable {moves : List Move} {lifecycle next : Lifecycle} {move : Move}

/-- Attempts that a move does not answer go on as before. -/
theorem concat (history : History moves lifecycle) (coherent : Coherent lifecycle.connection lifecycle.attempts)
    (effect : Effect lifecycle move next) (h : lifecycle.attempts[attempt]? = some stage)
    (silent : ∀ answer, move ≠ .answered attempt answer) :
    Story (moves ++ [move]) next.connection.generation attempt stage := by
  have called : attempt < moves.countP Move.calls := history.length_eq ▸ (List.getElem?_eq_some_iff.1 h).1
  refine (history.story attempt stage h).concat called silent fun pending hpending ↦ ?_
  exact coherent.ne_generation_iff effect ((inFlight?_eq h).trans hpending)

theorem of_append (history : History moves lifecycle) (coherent : Coherent lifecycle.connection lifecycle.attempts)
    (effect : Effect lifecycle move next) (calls : move.calls) (attempts : next.attempts = lifecycle.attempts ++ [stage])
    (story : (∀ answer, .answered lifecycle.attempts.length answer ∉ moves ++ [move]) →
      isOvertaken (moves ++ [move]) lifecycle.attempts.length = false →
      Story (moves ++ [move]) next.connection.generation lifecycle.attempts.length stage) :
    History (moves ++ [move]) next := by
  have silent (attempt : Nat) (answer : Except String ConnectionId) : move ≠ .answered attempt answer := by
    rintro rfl
    simp [Move.calls] at calls
  have unanswered (attempt : Nat) (answer : Except String ConnectionId) (hle : lifecycle.attempts.length ≤ attempt) :
      .answered attempt answer ∉ moves ++ [move] := by
    simp [history.uncalled attempt answer hle, (silent attempt answer).symm]
  have current : isOvertaken (moves ++ [move]) lifecycle.attempts.length = false := by
    rw [isOvertaken, movesAfterCall_concat_of_le history.length_eq.ge]
    rfl
  refine ⟨by simp [attempts, history.length_eq, calls], fun attempt answer hle ↦ ?_, fun attempt found h ↦ ?_⟩
  · rw [attempts, List.length_append] at hle
    exact unanswered attempt answer (by omega)
  · rw [attempts] at h
    obtain hlt | rfl | hgt := lt_trichotomy attempt lifecycle.attempts.length
    · rw [List.getElem?_append_left hlt] at h
      exact history.concat coherent effect h (silent attempt)
    · obtain rfl : stage = found := by simpa using h
      exact story (fun answer ↦ unanswered _ answer le_rfl) current
    · have := (List.getElem?_eq_some_iff.1 h).1
      rw [List.length_append, List.length_singleton] at this
      omega

theorem of_set (history : History moves lifecycle) (coherent : Coherent lifecycle.connection lifecycle.attempts)
    (effect : Effect lifecycle move next) (uncalls : move.calls = false) (h : lifecycle.attempts[attempt]? = some old)
    (attempts : next.attempts = lifecycle.attempts.set attempt stage)
    (silent : ∀ other answer, other ≠ attempt → move ≠ .answered other answer)
    (story : attempt < moves.countP Move.calls → Story moves lifecycle.connection.generation attempt old →
      Story (moves ++ [move]) next.connection.generation attempt stage) :
    History (moves ++ [move]) next := by
  have hlt : attempt < lifecycle.attempts.length := (List.getElem?_eq_some_iff.1 h).1
  refine ⟨by simp [attempts, history.length_eq, uncalls], fun other answer hle ↦ ?_, fun other found hother ↦ ?_⟩
  · rw [attempts, List.length_set] at hle
    have hne : other ≠ attempt := by omega
    simp [history.uncalled other answer hle, (silent other answer hne).symm]
  · rw [attempts, List.getElem?_set] at hother
    by_cases hne : attempt = other
    · subst hne
      rw [if_pos rfl, if_pos hlt] at hother
      obtain rfl := Option.some.inj hother
      exact story (history.length_eq ▸ hlt) (history.story attempt old h)
    · rw [if_neg hne] at hother
      exact history.concat coherent effect hother fun answer ↦ silent other answer (Ne.symm hne)

theorem of_attempts_eq (history : History moves lifecycle)
    (coherent : Coherent lifecycle.connection lifecycle.attempts) (effect : Effect lifecycle move next)
    (uncalls : move.calls = false) (silent : ∀ attempt answer, move ≠ .answered attempt answer)
    (attempts : next.attempts = lifecycle.attempts) : History (moves ++ [move]) next := by
  refine ⟨by simp [attempts, history.length_eq, uncalls], fun attempt answer hle ↦ ?_, fun attempt stage h ↦ ?_⟩
  · simp [history.uncalled attempt answer (attempts ▸ hle), (silent attempt answer).symm]
  · exact history.concat coherent effect (attempts ▸ h) (silent attempt)

/-- An answer is the last move after the call of the attempt that it answers. -/
theorem mem_movesAfterCall (called : attempt < moves.countP Move.calls) :
    move ∈ movesAfterCall (moves ++ [move]) attempt := by
  rw [movesAfterCall_concat called]
  exact List.mem_append_right _ (List.mem_singleton_self _)

theorem step (history : History moves lifecycle) (coherent : Coherent lifecycle.connection lifecycle.attempts)
    (effect : Effect lifecycle move next) : History (moves ++ [move]) next := by
  have asked {attempt : Nat} {pending : Pending} (h : lifecycle.attempts[attempt]? = some (.asking pending)) :=
    (history.story attempt _ h).isOvertaken_iff (.inr rfl)
  cases effect with
  | refused busy => exact history.of_append coherent (.refused busy) rfl rfl fun unanswered _ ↦ .refused unanswered
  | begun idle free =>
    refine history.of_append coherent (.begun idle free) rfl rfl fun unanswered current ↦ ?_
    exact .waiting (.inr rfl) unanswered (by simp [current])
  | begunAnew idle held =>
    refine history.of_append coherent (.begunAnew idle held) rfl rfl fun unanswered current ↦ ?_
    exact .waiting (.inl rfl) unanswered (by simp [current])
  | @replaced attempt pending h =>
    refine history.of_set coherent (.replaced h) rfl h rfl (by simp) fun called story ↦ ?_
    obtain ⟨unanswered, overtaken_iff⟩ := story.isOvertaken_iff (.inl rfl)
    refine .waiting (.inr rfl) (by simpa using unanswered) ?_
    rw [isOvertaken_concat called unanswered, Bool.or_eq_true, overtaken_iff]
    simp [Move.releases, setStage]
  | @accepted attempt pending handle h current new =>
    refine history.of_set coherent (.accepted h current new) rfl h rfl (by grind) fun called _ ↦ ?_
    obtain ⟨unanswered, overtaken_iff⟩ := asked h
    refine .connected (mem_movesAfterCall called) ?_
    rw [isOvertaken_concat called unanswered, Bool.or_eq_true, overtaken_iff]
    simp [(coherent.isCurrent_iff h).1 current, Move.releases]
  | late h overtaken new =>
    refine history.of_set coherent (.late h overtaken new) rfl h rfl (by grind) fun called _ ↦ ?_
    obtain ⟨unanswered, overtaken_iff⟩ := asked h
    refine .abandoning (mem_movesAfterCall called) ?_
    rw [isOvertaken_concat called unanswered, overtaken_iff.2 (mt (coherent.isCurrent_iff h).2 overtaken)]
    rfl
  | failed h current =>
    refine history.of_set coherent (.failed h current) rfl h rfl (by grind) fun called _ ↦ ?_
    exact .failed (mem_movesAfterCall called) (by simpa using fun handle ↦ (asked h).1 (.ok handle))
  | failedLate h overtaken =>
    refine history.of_set coherent (.failedLate h overtaken) rfl h rfl (by grind) fun called _ ↦ ?_
    exact .failed (mem_movesAfterCall called) (by simpa using fun handle ↦ (asked h).1 (.ok handle))
  | abandoned h =>
    refine history.of_set coherent (.abandoned h) rfl h rfl (by simp) fun called story ↦ ?_
    cases story with
    | abandoning answered overtaken =>
      refine .overtaken (movesAfterCall_concat called _ ▸ List.mem_append_left _ answered) ?_
      rwa [isOvertaken_concat_of_answered called answered]
    | waiting waits => simp at waits
  | disconnected => exact history.of_attempts_eq coherent .disconnected rfl (by simp) rfl
  | dropped => exact history.of_attempts_eq coherent .dropped rfl (by simp) rfl
  | collected left => exact history.of_attempts_eq coherent (.collected left) rfl (by simp) rfl
  | closed awaited => exact history.of_attempts_eq coherent (.closed awaited) rfl (by simp) rfl

end History

theorem history_initial (options : BrokerOptions) : History [] (initial options) where
  length_eq := rfl
  uncalled := by simp
  story := by simp [initial]

theorem history_of_run? {options : BrokerOptions} {moves : List Move} {lifecycle : Lifecycle}
    (run : (initial options).run? moves = some lifecycle) :
    Coherent lifecycle.connection lifecycle.attempts ∧ History moves lifecycle :=
  run?_induction (motive := fun moves reached ↦ Coherent reached.connection reached.attempts ∧ History moves reached)
    ⟨coherent_initial options, history_initial options⟩
    (fun _ _ _ _ ⟨coherent, history⟩ effect ↦ ⟨coherent.step effect, history.step coherent effect⟩) run

end PubSub.Lifecycle
