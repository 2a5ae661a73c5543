import PubSub.Proofs.Network.View
/-!
# Tuned agents among others

Agents stay tuned whatever happens to the view, as long as no agent subscribes a receiver of another one. Two agents
never hold the same connection, and no agent holds one that is foreign or waits for its close. So the filters of an
agent's connection are changed by the agent itself and by nobody else.
-/

namespace PubSub

namespace View

variable {licence : Licence} {foreign : ConnectionId → Prop} {before after view : View}

/-- All agents are tuned, and what an agent holds concerns nobody else. -/
structure InTune (foreign : ConnectionId → Prop) (view : View) : Prop where
  tuned : ∀ standing ∈ view.agents, standing.Tuned view.broker
  apart : ∀ (first second : Nat) (standing other : Standing) (handle : ConnectionId),
    view.agents[first]? = some standing → view.agents[second]? = some other →
    standing.connection.handle = some handle → other.connection.handle = some handle → first = second
  foreign_lt : ∀ connection, foreign connection → connection < view.broker.clients.length
  foreign_ne : ∀ standing ∈ view.agents, ∀ handle, standing.connection.handle = some handle → ¬foreign handle
  closing_lt : ∀ connection ∈ view.closing, connection < view.broker.clients.length
  closing_ne : ∀ standing ∈ view.agents, ∀ handle, standing.connection.handle = some handle → handle ∉ view.closing

namespace InTune

/-- The broker changes, but not the filters of a connection that an agent holds. -/
theorem of_broker {broker : Broker} (inTune : view.InTune foreign)
    (length_le : view.broker.clients.length ≤ broker.clients.length)
    (same : ∀ standing ∈ view.agents, ∀ handle, standing.connection.handle = some handle →
      broker.filtersOf handle = view.broker.filtersOf handle) : InTune foreign { view with broker } :=
  { inTune with
    tuned standing hmem := (inTune.tuned standing hmem).of_filters length_le (same standing hmem)
    foreign_lt connection h := Nat.lt_of_lt_of_le (inTune.foreign_lt connection h) length_le
    closing_lt connection h := Nat.lt_of_lt_of_le (inTune.closing_lt connection h) length_le }

theorem grows {broker : Broker} {touched : ConnectionId → Prop} (inTune : view.InTune foreign)
    (grows : view.broker.Grows touched broker)
    (untouched : ∀ standing ∈ view.agents, ∀ handle, standing.connection.handle = some handle → ¬touched handle) :
    InTune foreign { view with broker } :=
  inTune.of_broker grows.length_le fun standing hmem handle held ↦
    grows.filters handle ((inTune.tuned standing hmem).handle_lt handle held) (untouched standing hmem handle held)

theorem of_take? {broker : Broker} {source : ConnectionId} {message : Message} (inTune : view.InTune foreign)
    (taken : view.broker.take? source = some (message, broker)) : InTune foreign { view with broker } :=
  inTune.of_broker (Nat.le_of_eq (Broker.fades_of_take? taken).length_eq.symm) fun _ _ handle _ ↦
    Broker.filtersOf_of_take? taken handle

/-- One agent is changed. It holds what it held before, or a new connection, and gives its connection to be closed only
when it leaves it. -/
theorem of_set {index : Nat} {standing changed : Standing} {broker : Broker} {closing : List ConnectionId}
    (inTune : view.InTune foreign) (h : view.agents[index]? = some standing)
    (grows : view.broker.Grows (fun connection ↦ standing.connection.handle = some connection) broker)
    (tuned : changed.Tuned broker)
    (handle : ∀ connection, changed.connection.handle = some connection →
      standing.connection.handle = some connection ∨ view.broker.clients.length ≤ connection)
    (left : ∀ connection ∈ closing, connection ∈ view.closing ∨
      standing.connection.handle = some connection ∧ changed.connection.handle = none) :
    InTune foreign ⟨broker, view.agents.set index changed, closing⟩ := by
  have lt : index < view.agents.length := (List.getElem?_eq_some_iff.1 h).1
  have hmem : standing ∈ view.agents := List.mem_of_getElem? h
  -- An agent that is left as it is holds nothing that the changed one held or holds.
  have others (place : Nat) (hne : index ≠ place) (other : Standing) (hother : view.agents[place]? = some other)
      (connection : ConnectionId) (held : other.connection.handle = some connection) :
      standing.connection.handle ≠ some connection ∧ changed.connection.handle ≠ some connection := by
    have former : standing.connection.handle ≠ some connection := fun same ↦
      hne (inTune.apart index place standing other connection h hother same held)
    refine ⟨former, fun same ↦ ?_⟩
    rcases handle connection same with same | fresh
    · exact former same
    · exact absurd ((inTune.tuned other (List.mem_of_getElem? hother)).handle_lt connection held) (Nat.not_lt.2 fresh)
  have cases (place : Nat) (other : Standing) (hother : (view.agents.set index changed)[place]? = some other) :
      (index = place ∧ other = changed) ∨ (index ≠ place ∧ view.agents[place]? = some other) := by
    by_cases same : index = place
    · subst same
      rw [List.getElem?_set_self lt, Option.some.injEq] at hother
      exact .inl ⟨rfl, hother.symm⟩
    · rw [List.getElem?_set_ne same] at hother
      exact .inr ⟨same, hother⟩
  refine ⟨?_, ?_, ?_, ?_, ?_, ?_⟩
  · intro other hother
    rcases List.getElem?_of_mem hother with ⟨place, hplace⟩
    rcases cases place other hplace with ⟨-, rfl⟩ | ⟨hne, old⟩
    · exact tuned
    · exact (inTune.tuned other (List.mem_of_getElem? old)).grows grows fun connection held ↦
        (others place hne other old connection held).1
  · intro first second one other connection hfirst hsecond held held'
    rcases cases first one hfirst with ⟨rfl, rfl⟩ | ⟨hne, old⟩
    · rcases cases second other hsecond with ⟨rfl, -⟩ | ⟨hne', old'⟩
      · rfl
      · exact absurd held (others second hne' other old' connection held').2
    · rcases cases second other hsecond with ⟨rfl, rfl⟩ | ⟨hne', old'⟩
      · exact absurd held' (others first hne one old connection held).2
      · exact inTune.apart first second one other connection old old' held held'
  · exact fun connection raw ↦ Nat.lt_of_lt_of_le (inTune.foreign_lt connection raw) grows.length_le
  · intro other hother connection held raw
    rcases List.mem_or_eq_of_mem_set hother with old | rfl
    · exact inTune.foreign_ne other old connection held raw
    · rcases handle connection held with same | fresh
      · exact inTune.foreign_ne standing hmem connection same raw
      · exact absurd (inTune.foreign_lt connection raw) (Nat.not_lt.2 fresh)
  · intro connection waits
    apply Nat.lt_of_lt_of_le _ grows.length_le
    rcases left connection waits with old | ⟨held, -⟩
    · exact inTune.closing_lt connection old
    · exact (inTune.tuned standing hmem).handle_lt connection held
  · intro other hother connection held waits
    rcases List.getElem?_of_mem hother with ⟨place, hplace⟩
    rcases left connection waits with old | ⟨former, gone⟩
    · rcases cases place other hplace with ⟨-, rfl⟩ | ⟨hne, stays⟩
      · rcases handle connection held with same | fresh
        · exact inTune.closing_ne standing hmem connection same old
        · exact absurd (inTune.closing_lt connection old) (Nat.not_lt.2 fresh)
      · exact inTune.closing_ne other (List.mem_of_getElem? stays) connection held old
    · rcases cases place other hplace with ⟨-, rfl⟩ | ⟨hne, stays⟩
      · rw [gone] at held
        cases held
      · exact (others place hne other stays connection held).1 former

/-- An agent comes that holds nothing and has no receivers. -/
theorem of_append {standing : Standing} (inTune : view.InTune foreign) (free : standing.connection.handle = none)
    (off : standing.tunings = []) : InTune foreign { view with agents := view.agents ++ [standing] } := by
  have place {index : Nat} {other : Standing} {connection : ConnectionId}
      (h : (view.agents ++ [standing])[index]? = some other) (held : other.connection.handle = some connection) :
      view.agents[index]? = some other := by
    rcases Nat.lt_or_ge index view.agents.length with lt | beyond
    · rwa [List.getElem?_append_left lt] at h
    · rw [List.getElem?_append_right beyond] at h
      rw [List.mem_singleton.1 (List.mem_of_getElem? h), free] at held
      cases held
  have old {other : Standing} {connection : ConnectionId} (h : other ∈ view.agents ++ [standing])
      (held : other.connection.handle = some connection) : other ∈ view.agents := by
    rcases List.getElem?_of_mem h with ⟨index, hindex⟩
    exact List.mem_of_getElem? (place hindex held)
  have tuned (other : Standing) (h : other ∈ view.agents ++ [standing]) : other.Tuned view.broker := by
    rcases List.mem_append.1 h with old | new
    · exact inTune.tuned other old
    · rw [List.mem_singleton.1 new]
      exact Standing.tuned_of_handle_none free _ (by simp [off]) fun _ _ ↦ by simp [off]
  exact { inTune with
    tuned := tuned
    apart first second one other handle hfirst hsecond held held' :=
      inTune.apart first second one other handle (place hfirst held) (place hsecond held') held held'
    foreign_ne other h handle held := inTune.foreign_ne other (old h held) handle held
    closing_ne other h handle held := inTune.closing_ne other (old h held) handle held }

end InTune

/-- Whatever happens to a view leaves its agents tuned, unless one subscribes a receiver of another. -/
theorem Change.inTune (change : Change licence before after) (alone : ¬licence.lends)
    (inTune : before.InTune licence.foreign) : after.InTune licence.foreign := by
  cases change with
  | outside grows => exact inTune.grows grows inTune.foreign_ne
  | @empty connection own =>
    refine inTune.of_broker (Nat.le_of_eq (before.broker.fades_emptyInbox connection).length_eq.symm) ?_
    intro _ _ handle _
    apply Broker.filtersOf_modifyClient
    exact fun _ ↦ rfl
  | @close connection closing waits fewer =>
    have closed := inTune.grows (before.broker.grows_close connection) fun standing hmem handle held same ↦
      inTune.closing_ne standing hmem handle held (same ▸ waits)
    exact { closed with
      closing_lt connection h := closed.closing_lt connection (fewer h)
      closing_ne standing hmem handle held h := closed.closing_ne standing hmem handle held (fewer h) }
  | @act index standing changed broker h advances kept =>
    have tuned := advances.tuned (inTune.tuned standing (List.mem_of_getElem? h))
    exact inTune.of_set h advances.grows tuned advances.handle fun connection waits ↦ .inl waits
  | @leave index standing changed closing h handle dispatcher held tunings left =>
    have tuned := inTune.tuned standing (List.mem_of_getElem? h)
    have free : changed.Tuned before.broker :=
      Standing.tuned_of_handle_none handle _ (tunings ▸ tuned.parsed) fun held' ↦ by simp [held] at held'
    refine inTune.of_set h (.refl _) free (fun connection held ↦ by simp [handle] at held) fun connection waits ↦ ?_
    exact (left connection waits).imp_right fun held ↦ ⟨held, handle⟩
  | @rest index standing source former phase h reads lt inbox finished =>
    have tuned := inTune.tuned standing (List.mem_of_getElem? h)
    exact inTune.of_set h (.refl _) ⟨tuned.parsed, tuned.handle_lt, tuned.wanted, tuned.listed, tuned.idle⟩
      (fun _ held ↦ .inl held) fun _ waits ↦ .inl waits
  | @join standing link off =>
    exact inTune.of_append (congrArg (fun link ↦ link.connection.handle) link) off
  | lend lends => exact absurd lends alone

theorem Changes.inTune (changes : Changes licence before after) (alone : ¬licence.lends)
    (inTune : before.InTune licence.foreign) : after.InTune licence.foreign := by
  induction changes with
  | refl => exact inTune
  | tail _ change ih => exact change.inTune alone ih

end View

/-- A step of background work leaves the agents tuned. -/
theorem Network.inTune_tick? {foreign : ConnectionId → Prop} {network after : Network} (sound : network.Sound foreign)
    (inTune : network.view.InTune foreign) (h : network.tick? = some after) : after.view.InTune foreign := by
  let licence : View.Licence := ⟨foreign, False, fun _ ↦ False⟩
  have changes := Network.changes_tick? licence sound h
  cases handed : network.handed? with
  | none =>
    rw [handed] at changes
    exact changes.inTune (fun lends ↦ lends) inTune
  | some found =>
    obtain ⟨source, message, broker⟩ := found
    simp only [handed] at changes
    have taken := inTune.of_take? (Network.handed?_eq_some handed).1
    have changes : View.Changes licence _ after.view := changes.changes
    exact changes.inTune (fun lends ↦ lends) taken

end PubSub
