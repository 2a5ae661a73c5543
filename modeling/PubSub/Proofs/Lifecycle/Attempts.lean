import PubSub.Proofs.Lifecycle.History
/-!
# Overlapping connect attempts

Connects, disconnects and a drop may overlap in any order. The state of the connection, its handle and the result of
every attempt are determined all the same, and an attempt that a release has overtaken can do no harm.
-/

namespace PubSub.Lifecycle

variable {stage : Stage} {attempt : Nat} {pending : Pending}

/-- An attempt has connected exactly if the transport gave it a connection and no release came before that. -/
theorem Story.connected_iff {moves : List Move} {generation : Nat} (story : Story moves generation attempt stage) :
    stage = .returned (.ok ()) ↔
      (∃ handle, .answered attempt (.ok handle) ∈ moves) ∧ isOvertaken moves attempt = false := by
  cases story with
  | waiting waits unanswered =>
    refine iff_of_false (by rcases waits with rfl | rfl <;> simp) ?_
    rintro ⟨⟨handle, answered⟩, -⟩
    exact unanswered _ answered
  | abandoning answered overtaken => simp [overtaken]
  | refused unanswered => simp [unanswered]
  | connected answered current => simpa [current] using ⟨_, mem_of_mem_movesAfterCall answered⟩
  | failed answered only => simp [only]
  | overtaken answered overtaken => simp [overtaken]

/-- What carries an overtaken attempt on leaves the connection alone. -/
theorem connection_eq_of_carriesOn {lifecycle next : Lifecycle} {move : Move}
    (coherent : Coherent lifecycle.connection lifecycle.attempts) {moves : List Move}
    (history : History moves lifecycle) (overtaken : isOvertaken moves attempt) (own : move.carriesOn attempt)
    (effect : Effect lifecycle move next) : next.connection = lifecycle.connection := by
  have late {pending : Pending} (h : lifecycle.attempts[attempt]? = some (.asking pending)) :
      ¬lifecycle.connection.isCurrent pending.generation := by
    rw [coherent.isCurrent_iff h]
    exact ((history.story attempt _ h).isOvertaken_iff (.inr rfl)).2.1 overtaken
  cases effect with
  | accepted h current | failed h current =>
    obtain rfl : _ = attempt := by simpa [Move.carriesOn] using own
    exact absurd current (late h)
  | replaced | late | failedLate | abandoned | collected | closed => rfl
  | _ => simp [Move.carriesOn] at own

/-! ## Attempts that begin -/

/-- Whether the attempt was begun, and not refused at its call: it is in flight at some moment of the run. -/
def Begun (options : BrokerOptions) (moves : List Move) (attempt : Nat) : Prop :=
  ∃ before later reached pending, moves = before ++ later ∧ (initial options).run? before = some reached ∧
    inFlight? reached.attempts attempt = some pending

/-- Whether the attempt has returned because the state of the connection forbids a connect. -/
def Stage.isRefused : Stage → Bool
  | returned (.error (.invalidState _ _)) => true
  | _ => false

/-- Whether the attempt was called and not refused. -/
def Accepted (attempts : List Stage) (attempt : Nat) : Prop :=
  ∃ stage, attempts[attempt]? = some stage ∧ stage.isRefused = false

namespace Accepted

variable {attempts : List Stage}

theorem of_inFlight? (h : inFlight? attempts attempt = some pending) : Accepted attempts attempt := by
  obtain ⟨stage, hstage, hpending⟩ := Option.bind_eq_some_iff.1 h
  cases stage with
  | returned => cases hpending
  | _ => exact ⟨_, hstage, rfl⟩

theorem append (accepted : Accepted attempts attempt) (last : Stage) : Accepted (attempts ++ [last]) attempt := by
  obtain ⟨stage, h, onward⟩ := accepted
  exact ⟨stage, by rw [List.getElem?_append_left (List.getElem?_eq_some_iff.1 h).1, h], onward⟩

theorem set (accepted : Accepted attempts attempt) (other : Nat) (onward : stage.isRefused = false) :
    Accepted (attempts.set other stage) attempt := by
  obtain ⟨old, h, goesOn⟩ := accepted
  by_cases same : other = attempt
  · exact ⟨stage, by rw [same, List.getElem?_set_self (List.getElem?_eq_some_iff.1 h).1], onward⟩
  · exact ⟨old, by rw [List.getElem?_set_ne same, h], goesOn⟩

/-- Only its call refuses an attempt: a later move leaves it where it is, carries it on, or returns what the transport
has made of it. -/
theorem step {lifecycle next : Lifecycle} {move : Move} (accepted : Accepted lifecycle.attempts attempt)
    (effect : Effect lifecycle move next) : Accepted next.attempts attempt := by
  cases effect with
  | refused | begun | begunAnew => exact accepted.append _
  | replaced | accepted | late | failed | failedLate | abandoned => exact accepted.set _ rfl
  | disconnected | dropped | collected | closed => exact accepted

end Accepted

section Returned

variable {options : BrokerOptions} {moves : List Move} {lifecycle : Lifecycle} {result : Except Error Unit}
  {generation : Nat}

theorem Begun.accepted (begun : Begun options moves attempt) (run : (initial options).run? moves = some lifecycle) :
    Accepted lifecycle.attempts attempt := by
  obtain ⟨before, later, reached, pending, rfl, first, inFlight⟩ := begun
  rw [run?_append, first, Option.bind_some] at run
  -- from the moment when the attempt is in flight, by induction on the moves that follow
  exact run?_induction (motive := fun _ last ↦ Accepted last.attempts attempt) (.of_inFlight? inFlight)
    (fun _ _ _ _ accepted effect ↦ accepted.step effect) run

/-- An attempt that was begun is not refused any more, however the run goes on. -/
theorem Begun.result_ne (begun : Begun options moves attempt) (run : (initial options).run? moves = some lifecycle)
    (h : lifecycle.attempts[attempt]? = some (.returned result)) (state : ConnectionState) (operation : String) :
    result ≠ .error (.invalidState state operation) := by
  obtain ⟨stage, found, accepted⟩ := begun.accepted run
  obtain rfl : stage = .returned result := by simpa [h] using found.symm
  rintro rfl
  cases accepted

/-- The transport answers only what was begun. -/
theorem Begun.of_answered {answer : Except String ConnectionId} (run : (initial options).run? moves = some lifecycle)
    (answered : .answered attempt answer ∈ moves) : Begun options moves attempt := by
  obtain ⟨before, later, rfl⟩ := List.append_of_mem answered
  rw [run?_append] at run
  obtain ⟨reached, first, rest⟩ := Option.bind_eq_some_iff.1 run
  rw [run?_cons] at rest
  obtain ⟨next, step, -⟩ := Option.bind_eq_some_iff.1 rest
  cases effect_of_step? step with
  | accepted h | late h | failed h | failedLate h => exact ⟨before, _, reached, _, rfl, first, inFlight?_eq h⟩

/-- What has returned was either refused at its call, or begun and then answered. -/
theorem Story.invalidState_iff (story : Story moves generation attempt (.returned result))
    (run : (initial options).run? moves = some lifecycle) (h : lifecycle.attempts[attempt]? = some (.returned result)) :
    (∃ state operation, result = .error (.invalidState state operation)) ↔ ¬Begun options moves attempt := by
  have begun {answer : Except String ConnectionId} (answered : .answered attempt answer ∈ movesAfterCall moves attempt) :
      Begun options moves attempt := .of_answered run (mem_of_mem_movesAfterCall answered)
  constructor
  · rintro ⟨state, operation, refused⟩ begun
    exact begun.result_ne run h state operation refused
  · intro unbegun
    cases story with
    | waiting waits => simp at waits
    | refused => exact ⟨_, _, rfl⟩
    | connected answered | failed answered | overtaken answered => exact absurd (begun answered) unbegun

/-- What was begun and then overtaken returns a connection error, whatever the transport has answered. -/
theorem Story.connection_error (story : Story moves generation attempt (.returned result))
    (run : (initial options).run? moves = some lifecycle) (h : lifecycle.attempts[attempt]? = some (.returned result))
    (begun : Begun options moves attempt) (overtaken : isOvertaken moves attempt) :
    ∃ text, result = .error (.connection text) := by
  cases story with
  | waiting waits => simp at waits
  | refused => exact absurd rfl (begun.result_ne run h _ _)
  | connected _ current => exact absurd overtaken current
  | failed | overtaken => exact ⟨_, rfl⟩

end Returned

/-! ## Attempts that come to their end -/

/-- Whether the moves of an attempt alone, with the answer that is given, can bring it to its end. -/
def Finishes (lifecycle : Lifecycle) (attempt : Nat) (answer : Except String ConnectionId) : Prop :=
  ∃ own next result, (∀ move ∈ own, move ∈ [.replaced attempt, .answered attempt answer, .abandoned attempt]) ∧
    lifecycle.run? own = some next ∧ next.attempts[attempt]? = some (.returned result)

namespace Finishes

variable {lifecycle next : Lifecycle} {move : Move} {answer : Except String ConnectionId}

theorem of_returned {result : Except Error Unit} (h : lifecycle.attempts[attempt]? = some (.returned result)) :
    Finishes lifecycle attempt answer :=
  ⟨[], lifecycle, result, by simp, rfl, h⟩

theorem of_step? (own : move ∈ [.replaced attempt, .answered attempt answer, .abandoned attempt])
    (step : lifecycle.step? move = some next) (finishes : Finishes next attempt answer) :
    Finishes lifecycle attempt answer := by
  obtain ⟨moves, last, result, hmoves, run, h⟩ := finishes
  exact ⟨move :: moves, last, result, List.forall_mem_cons.2 ⟨own, hmoves⟩, run?_cons_of_step? step run, h⟩

theorem of_abandoning (h : lifecycle.attempts[attempt]? = some (.abandoning pending)) :
    Finishes lifecycle attempt answer := by
  have step : lifecycle.step? (.abandoned attempt) =
      some (lifecycle.setStage attempt (.returned (throw pending.overtaken))) := by
    rw [step?, h]
  exact of_step? (by simp) step (of_returned (List.getElem?_set_self (List.getElem?_eq_some_iff.1 h).1))

theorem of_asking (h : lifecycle.attempts[attempt]? = some (.asking pending)) (new : lifecycle.isNew answer) :
    Finishes lifecycle attempt answer := by
  have hlt := (List.getElem?_eq_some_iff.1 h).1
  have step : lifecycle.step? (.answered attempt answer) = some (lifecycle.conclude attempt pending answer) := by
    simp only [step?, h, if_pos new]
  refine of_step? (by simp) step ?_
  cases answer with
  | error reason => exact of_returned (List.getElem?_set_self hlt)
  | ok handle =>
    rw [conclude]
    split
    · exact of_returned (List.getElem?_set_self hlt)
    · exact of_abandoning (List.getElem?_set_self hlt)

end Finishes

/-- Whatever the transport answers, an attempt in flight gets to its end. -/
theorem finishes_of_inFlight? {lifecycle : Lifecycle} (h : inFlight? lifecycle.attempts attempt = some pending)
    {answer : Except String ConnectionId} (new : lifecycle.isNew answer) : Finishes lifecycle attempt answer := by
  obtain ⟨stage, hstage, hpending⟩ := Option.bind_eq_some_iff.1 h
  cases stage with
  | replacing pending =>
    have step : lifecycle.step? (.replaced attempt) = some (lifecycle.setStage attempt (.asking pending)) := by
      rw [step?, hstage]
    have hlt := (List.getElem?_eq_some_iff.1 hstage).1
    exact .of_step? (by simp) step (.of_asking (List.getElem?_set_self hlt) new)
  | asking pending => exact .of_asking hstage new
  | abandoning pending => exact .of_abandoning hstage
  | returned result => cases hpending

/-! ## However attempts overlap -/

/-- However connects, disconnects and a drop overlap: the connection is connected exactly while it holds a handle, it
is connecting only while the one attempt of its generation is in flight, and an attempt connects exactly if it was not
refused, the transport gave it a connection and no release came before. An attempt returns an invalid state exactly if
it was never begun; one that was begun and overtaken returns a connection error, and leaves the connection alone, also
when a later attempt is under way. Every attempt can come to its end. -/
theorem run?_attempts {options : BrokerOptions} {moves : List Move} {lifecycle : Lifecycle}
    (run : (initial options).run? moves = some lifecycle) :
    (lifecycle.connection.state = .connected ↔ lifecycle.connection.handle.isSome) ∧
    ((∀ stage ∈ lifecycle.attempts, stage.inFlight = false) → lifecycle.connection.state ≠ .connecting) ∧
    (lifecycle.connection.state = .connecting → ∃! attempt, ∃ pending,
      inFlight? lifecycle.attempts attempt = some pending ∧ pending.generation = lifecycle.connection.generation) ∧
    (∀ attempt : Nat, lifecycle.attempts[attempt]? = some (.returned (.ok ())) ↔
      attempt < lifecycle.attempts.length ∧
      (∀ state operation, lifecycle.attempts[attempt]? ≠ some (.returned (.error (.invalidState state operation)))) ∧
      (∃ handle, .answered attempt (.ok handle) ∈ moves) ∧ isOvertaken moves attempt = false) ∧
    (∀ (attempt : Nat) result, lifecycle.attempts[attempt]? = some (.returned result) →
      ((∃ state operation, result = .error (.invalidState state operation)) ↔ ¬Begun options moves attempt) ∧
      (Begun options moves attempt → isOvertaken moves attempt → ∃ text, result = .error (.connection text))) ∧
    (∀ attempt move next, isOvertaken moves attempt → move.carriesOn attempt → lifecycle.step? move = some next →
      next.connection = lifecycle.connection) ∧
    (∀ attempt pending answer, inFlight? lifecycle.attempts attempt = some pending → lifecycle.isNew answer →
      Finishes lifecycle attempt answer) := by
  obtain ⟨coherent, history⟩ := history_of_run? run
  refine ⟨coherent.connected_iff, ?_, ?_, ?_, ?_, ?_, fun _ _ _ h new ↦ finishes_of_inFlight? h new⟩
  · intro landed connecting
    obtain ⟨attempt, pending, h, -⟩ := coherent.connecting_iff.1 connecting
    obtain ⟨stage, hstage, hpending⟩ := Option.bind_eq_some_iff.1 h
    simpa [Stage.inFlight, hpending] using landed stage (List.mem_of_getElem? hstage)
  · intro connecting
    obtain ⟨attempt, pending, h, current⟩ := coherent.connecting_iff.1 connecting
    refine ⟨attempt, ⟨pending, h, current⟩, ?_⟩
    intro other ⟨found, hother, same⟩
    exact coherent.generation_inj other attempt found pending hother h (same.trans current.symm)
  · intro attempt
    constructor
    · intro h
      exact ⟨(List.getElem?_eq_some_iff.1 h).1, by simp [h], (history.story attempt _ h).connected_iff.1 rfl⟩
    · rintro ⟨hlt, -, connected⟩
      obtain ⟨stage, h⟩ : ∃ stage, lifecycle.attempts[attempt]? = some stage := ⟨_, List.getElem?_eq_getElem hlt⟩
      rw [h, (history.story attempt stage h).connected_iff.2 connected]
  · intro attempt result h
    have story := history.story attempt _ h
    exact ⟨story.invalidState_iff run h, story.connection_error run h⟩
  · intro attempt move next overtaken own step
    exact connection_eq_of_carriesOn coherent history overtaken own (effect_of_step? step)

/-- The first attempt was overtaken, a second one is under way, and the transport answers the first. Once the close of
what came too late returns, so does the first attempt, with a connection error, and the second one is still
connecting. -/
theorem run?_attempts_reconnect :
    let moves : List Move := [.connect .none fun _ ↦ true, .disconnect, .connect .none fun _ ↦ true,
      .answered 0 (.ok 0)]
    ∃ lifecycle last, (initial .tcp).run? moves = some lifecycle ∧ lifecycle.connection.state = .connecting ∧
      isOvertaken moves 0 ∧
      (∃! attempt, ∃ pending, inFlight? lifecycle.attempts attempt = some pending ∧
        pending.generation = lifecycle.connection.generation) ∧
      lifecycle.step? (.abandoned 0) = some last ∧ last.connection = lifecycle.connection ∧
      (initial .tcp).run? (moves ++ [.abandoned 0]) = some last ∧ Begun .tcp (moves ++ [.abandoned 0]) 0 ∧
      ∃ result, last.attempts[0]? = some (.returned result) ∧ ∃ text, result = .error (.connection text) := by
  intro moves
  have run : (initial .tcp).run? moves = some _ := rfl
  have onward : (initial .tcp).run? (moves ++ [.abandoned 0]) = some _ := rfl
  have answered : .answered 0 (.ok 0) ∈ moves ++ [.abandoned 0] := by simp [moves]
  have begun : Begun .tcp (moves ++ [.abandoned 0]) 0 := .of_answered onward answered
  obtain ⟨-, -, unique, -, -, overtaken, -⟩ := run?_attempts run
  obtain ⟨-, -, -, -, returned, -⟩ := run?_attempts onward
  exact ⟨_, _, run, rfl, rfl, unique rfl, rfl, overtaken 0 (.abandoned 0) _ rfl rfl rfl, onward, begun, _, rfl,
    (returned 0 _ rfl).2 begun rfl⟩

end PubSub.Lifecycle
