import PubSub.Proofs.Network.View
/-!
# The flow of messages

What changes of a view mean for the messages in inboxes and for those who read them. Whatever happens, messages that
wait for an agent stay where they are, and others come behind them. No agent comes to read a connection but one that is
new, and an agent loses its dispatcher only by disconnecting, by being given up, or to a later connection.
-/

namespace PubSub

/-- The connection that the dispatcher reads. -/
def Standing.source? (standing : Standing) : Option ConnectionId :=
  standing.dispatcher.map Dispatcher.source

/-- Whether a connection is closed and nothing waits in its inbox. -/
structure Broker.Spent (broker : Broker) (connection : ConnectionId) : Prop where
  lt_length : connection < broker.clients.length
  closed : broker.isClosed connection
  inbox : broker.inbox connection = []

theorem Broker.Spent.grows {before after : Broker} {touched : ConnectionId → Prop} {connection : ConnectionId}
    (spent : before.Spent connection) (grows : before.Grows touched after) : after.Spent connection where
  lt_length := Nat.lt_of_lt_of_le spent.lt_length grows.length_le
  closed := (grows.closed connection spent.lt_length spent.closed).1
  inbox := (grows.closed connection spent.lt_length spent.closed).2.trans spent.inbox

/-- An inbox is emptied, and others stay as they are. -/
theorem Broker.inbox_emptyInbox (broker : Broker) (connection other : ConnectionId) :
    (broker.emptyInbox connection).inbox other = if connection = other then [] else broker.inbox other := by
  unfold emptyInbox
  rw [inbox_modifyClient]
  split
  · cases broker.clients[other]? <;> rfl
  · rfl

theorem Broker.Spent.emptyInbox {broker : Broker} {connection : ConnectionId} (spent : broker.Spent connection)
    (other : ConnectionId) : (broker.emptyInbox other).Spent connection where
  lt_length := by
    rw [(broker.fades_emptyInbox other).length_eq]
    exact spent.lt_length
  closed := (broker.fades_emptyInbox other).isClosed connection spent.closed
  inbox := by simp [Broker.inbox_emptyInbox, spent.inbox]

namespace View

variable {licence : Licence} {before middle after : View} {standing changed : Standing} {index : Nat}

/-- The connection that the agent at a place reads. -/
def sourceOf (view : View) (index : Nat) : Option ConnectionId :=
  view.agents[index]? >>= Standing.source?

/-- Whether somebody holds the agent at a place. -/
def isHeld (view : View) (index : Nat) : Bool :=
  view.agents[index]?.any Standing.held

/-- A dispatcher that has come to its end has left nothing in its inbox. -/
def Exhausted (view : View) : Prop :=
  ∀ standing ∈ view.agents, ∀ source, standing.dispatcher = some ⟨source, .finished⟩ → view.broker.Spent source

/-- From one view to a later one, as far as messages and their readers are concerned. -/
structure Flows (licence : Licence) (before after : View) : Prop where
  length_le : before.broker.clients.length ≤ after.broker.clients.length
  agents_le : before.agents.length ≤ after.agents.length
  inbox : ∀ connection, ¬licence.foreign connection →
    before.broker.inbox connection <+: after.broker.inbox connection
  reads : ∀ index connection, after.sourceOf index = some connection →
    before.sourceOf index = some connection ∨ before.broker.clients.length ≤ connection
  /-- A dispatcher is kept or replaced unless its agent disconnects or is given up. -/
  kept : ∀ index connection, ¬licence.disconnects index → before.sourceOf index = some connection →
    after.isHeld index → ∃ other, after.sourceOf index = some other ∧
      (other = connection ∨ before.broker.clients.length ≤ other)
  held : ∀ index < before.agents.length, after.isHeld index → before.isHeld index
  exhausted : before.Exhausted → after.Exhausted

namespace Flows

theorem trans (first : Flows licence before middle) (second : Flows licence middle after) :
    Flows licence before after where
  length_le := Nat.le_trans first.length_le second.length_le
  agents_le := Nat.le_trans first.agents_le second.agents_le
  inbox connection own := (first.inbox connection own).trans (second.inbox connection own)
  reads index connection h := by
    rcases second.reads index connection h with earlier | fresh
    · exact first.reads index connection earlier
    · exact .inr (Nat.le_trans first.length_le fresh)
  kept index connection stays h held := by
    have lt : index < before.agents.length := by
      rcases Option.bind_eq_some_iff.1 h with ⟨standing, hstanding, -⟩
      exact (List.getElem?_eq_some_iff.1 hstanding).1
    have held' : middle.isHeld index := second.held index (Nat.lt_of_lt_of_le lt first.agents_le) held
    rcases first.kept index connection stays h held' with ⟨other, hother, hsame⟩
    rcases second.kept index other stays hother held with ⟨last, hlast, hsame'⟩
    refine ⟨last, hlast, ?_⟩
    rcases hsame' with rfl | fresh
    · exact hsame
    · exact .inr (Nat.le_trans first.length_le fresh)
  held index lt held := first.held index lt (second.held index (Nat.lt_of_lt_of_le lt first.agents_le) held)
  exhausted exhausted := second.exhausted (first.exhausted exhausted)

/-- The agents stay as they are. -/
theorem of_agents (agents : after.agents = before.agents)
    (length_le : before.broker.clients.length ≤ after.broker.clients.length)
    (inbox : ∀ connection, ¬licence.foreign connection →
      before.broker.inbox connection <+: after.broker.inbox connection)
    (spent : ∀ connection, before.broker.Spent connection → after.broker.Spent connection) :
    Flows licence before after where
  length_le := length_le
  agents_le := Nat.le_of_eq (by rw [agents])
  inbox := inbox
  reads index connection h := by
    unfold sourceOf at h
    rw [agents] at h
    exact .inl h
  kept index connection _ h _ := by
    refine ⟨connection, ?_, .inl rfl⟩
    unfold sourceOf
    rw [agents]
    exact h
  held index _ held := by
    unfold isHeld at held
    rwa [agents] at held
  exhausted exhausted standing hmem source finished :=
    spent source (exhausted standing (agents ▸ hmem) source finished)

/-- One agent is changed. -/
theorem of_set (h : before.agents[index]? = some standing) (agents : after.agents = before.agents.set index changed)
    (length_le : before.broker.clients.length ≤ after.broker.clients.length)
    (inbox : ∀ connection, before.broker.inbox connection <+: after.broker.inbox connection)
    (spent : ∀ connection, before.broker.Spent connection → after.broker.Spent connection)
    (reads : ∀ connection, changed.source? = some connection →
      standing.source? = some connection ∨ before.broker.clients.length ≤ connection)
    (kept : ¬licence.disconnects index → changed.held → standing.source?.isSome → changed.source?.isSome)
    (held : changed.held → standing.held)
    (finished : ∀ source, changed.dispatcher = some ⟨source, .finished⟩ →
      standing.dispatcher = some ⟨source, .finished⟩ ∨ after.broker.Spent source) : Flows licence before after := by
  have lt : index < before.agents.length := (List.getElem?_eq_some_iff.1 h).1
  have own : after.agents[index]? = some changed := by
    rw [agents]
    exact List.getElem?_set_self lt
  have other {place : Nat} (hne : index ≠ place) : after.agents[place]? = before.agents[place]? := by
    rw [agents]
    exact List.getElem?_set_ne hne
  refine ⟨length_le, by simp [agents], fun connection _ ↦ inbox connection, ?_, ?_, ?_, ?_⟩
  · intro place connection hsource
    by_cases same : index = place
    · subst same
      simp only [sourceOf, own, h, Option.bind_eq_bind, Option.bind_some] at hsource ⊢
      exact reads connection hsource
    · simp only [sourceOf, other same] at hsource ⊢
      exact .inl hsource
  · intro place connection stays hsource hheld
    by_cases same : index = place
    · subst same
      simp only [sourceOf, isHeld, own, h, Option.bind_eq_bind, Option.bind_some, Option.any_some] at hsource hheld ⊢
      rcases Option.isSome_iff_exists.1 (kept stays hheld (by simp [hsource])) with ⟨later, hlater⟩
      refine ⟨later, hlater, ?_⟩
      rcases reads later hlater with same | fresh
      · exact .inl (Option.some.inj (same.symm.trans hsource))
      · exact .inr fresh
    · simp only [sourceOf, other same] at hsource ⊢
      exact ⟨connection, hsource, .inl rfl⟩
  · intro place _ hheld
    by_cases same : index = place
    · subst same
      simp only [isHeld, own, h, Option.any_some] at hheld ⊢
      exact held hheld
    · simpa only [isHeld, other same] using hheld
  · intro exhausted later hmem source hfinished
    rw [agents] at hmem
    rcases List.mem_or_eq_of_mem_set hmem with old | rfl
    · exact spent source (exhausted later old source hfinished)
    · rcases finished source hfinished with former | spent'
      · exact spent source (exhausted standing (List.mem_of_getElem? h) source former)
      · exact spent'

/-- An agent is added that dispatches nothing. -/
theorem of_append (agents : after.agents = before.agents ++ [standing]) (broker : after.broker = before.broker)
    (idle : standing.dispatcher = none) : Flows licence before after := by
  have old {place : Nat} (lt : place < before.agents.length) : after.agents[place]? = before.agents[place]? := by
    rw [agents]
    exact List.getElem?_append_left lt
  have lt_of_source {place : Nat} {connection : ConnectionId} (h : after.sourceOf place = some connection) :
      place < before.agents.length := by
    rcases Nat.lt_or_ge place before.agents.length with lt | beyond
    · exact lt
    · rcases Option.bind_eq_some_iff.1 h with ⟨other, hother, hsource⟩
      rw [agents, List.getElem?_append_right beyond] at hother
      rw [List.mem_singleton.1 (List.mem_of_getElem? hother)] at hsource
      simp [Standing.source?, idle] at hsource
  refine ⟨Nat.le_of_eq (by rw [broker]), by simp [agents], fun _ _ ↦ by simp [broker], ?_, ?_, ?_, ?_⟩
  · intro place connection h
    have lt := lt_of_source h
    simp only [sourceOf, old lt] at h ⊢
    exact .inl h
  · intro place connection _ h _
    rcases Option.bind_eq_some_iff.1 h with ⟨other, hother, -⟩
    refine ⟨connection, ?_, .inl rfl⟩
    simp only [sourceOf, old (List.getElem?_eq_some_iff.1 hother).1] at h ⊢
    exact h
  · intro place lt held
    simpa only [isHeld, old lt] using held
  · intro exhausted other hmem source finished
    rw [broker]
    rw [agents] at hmem
    rcases List.mem_append.1 hmem with hmem | hmem
    · exact exhausted other hmem source finished
    · rw [List.mem_singleton.1 hmem, idle] at finished
      cases finished

end Flows

/-- Whatever happens to a view, messages flow. -/
theorem Change.flows (change : Change licence before after) : Flows licence before after := by
  cases change with
  | outside grows =>
    exact .of_agents rfl grows.length_le (fun connection _ ↦ grows.inbox connection) fun _ spent ↦ spent.grows grows
  | @empty connection foreign =>
    have length := (before.broker.fades_emptyInbox connection).length_eq
    refine .of_agents rfl (Nat.le_of_eq length.symm) ?_ fun _ spent ↦ spent.emptyInbox _
    intro other own
    have hne : connection ≠ other := fun same ↦ own (same ▸ foreign)
    simp [Broker.inbox_emptyInbox, hne]
  | close h fewer =>
    have grows := before.broker.grows_close
    exact .of_agents rfl (grows _).length_le (fun connection _ ↦ (grows _).inbox connection)
      fun _ spent ↦ spent.grows (grows _)
  | act h advances kept =>
    refine .of_set h rfl advances.grows.length_le advances.grows.inbox (fun _ spent ↦ spent.grows advances.grows) ?_ ?_
      advances.held ?_
    · intro connection hsource
      obtain ⟨dispatcher, hdispatcher, rfl⟩ := Option.map_eq_some_iff.1 hsource
      rcases advances.dispatcher dispatcher hdispatcher with same | fresh
      · exact .inl (Option.map_eq_some_iff.2 ⟨dispatcher, same, rfl⟩)
      · exact .inr fresh.1
    · intro stays _ reads
      simp only [Standing.source?, Option.isSome_map] at reads ⊢
      exact kept stays reads
    · intro source hfinished
      rcases advances.dispatcher _ hfinished with same | ⟨-, busy⟩
      · exact .inl same
      · cases busy
  | leave h handle dispatcher held =>
    refine .of_set h rfl (Nat.le_refl _) (fun _ ↦ List.prefix_refl _) (fun _ spent ↦ spent) ?_ ?_ ?_ ?_
    · simp [Standing.source?, dispatcher]
    · simp [held]
    · simp [held]
    · simp [dispatcher]
  | rest h reads lt inbox finished =>
    refine .of_set h rfl (Nat.le_refl _) (fun _ ↦ List.prefix_refl _) (fun _ spent ↦ spent) ?_ ?_ (fun held ↦ held) ?_
    · intro connection hsource
      exact .inl (by simpa [Standing.source?, reads] using hsource)
    · intro _ _ _
      rfl
    · rintro _ ⟨⟩
      exact .inr ⟨lt, finished rfl, inbox⟩
  | @join standing link off => exact .of_append rfl rfl (congrArg Link.dispatcher link)
  | lend lends owner link held grows =>
    have same := congrArg Link.dispatcher link
    refine .of_set owner rfl grows.length_le grows.inbox (fun _ spent ↦ spent.grows grows) ?_ ?_ ?_ ?_
    · simp only [Standing.source?, same]
      exact fun _ h ↦ .inl h
    · simp only [Standing.source?, same]
      exact fun _ _ h ↦ h
    · exact fun h ↦ held ▸ h
    · exact fun _ finished ↦ .inl (same ▸ finished)

theorem Changes.flows (changes : Changes licence before after) : Flows licence before after := by
  induction changes with
  | refl => exact .of_agents rfl (Nat.le_refl _) (fun _ _ ↦ List.prefix_refl _) fun _ spent ↦ spent
  | tail _ change ih => exact ih.trans change.flows

end View

end PubSub
