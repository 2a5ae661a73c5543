import PubSub.Network.Background
import PubSub.Proofs.Agent.Links
/-!
# The links of a network

What ties the agents of a network to the broker: every link is sound, no connection is read by two agents, and no live
connection is left behind. Connections that no agent has opened are foreign to the network. All of this depends on the
links, the connections of the broker and the closes that are still to be done, so it is enough to know what an
operation does to these.
-/

namespace PubSub.Network

variable {foreign others left : ConnectionId → Prop} {network after : Network} {agent changed : Agent} {index : Nat}

/-- The links of all agents. -/
def links (network : Network) : List Link :=
  network.agents.map Agent.link

/-- Whether a connection waits for its close in the background. -/
def Closes (network : Network) (connection : ConnectionId) : Prop :=
  ∃ transport, .close transport connection ∈ network.ready

theorem getElem?_links (h : network.agents[index]? = some agent) : network.links[index]? = some agent.link := by
  simp [links, h]

theorem links_setAt (network : Network) (index : Nat) (changed : Agent) :
    (network.agents.set index changed).map Agent.link = network.links.set index changed.link :=
  List.map_set

/-- An agent in the place of an earlier self with the same link. -/
theorem links_set_same (h : network.agents[index]? = some agent) (same : changed.link = agent.link) :
    network.links.set index changed.link = network.links := by
  have hlink := List.getElem?_eq_some_iff.1 (getElem?_links h)
  rw [same, ← hlink.2, List.set_getElem_self]

/-- Between agents and broker nothing is lost and nothing is shared. -/
structure Sound (foreign : ConnectionId → Prop) (network : Network) : Prop where
  links : ∀ (index : Nat) (link : Link), network.links[index]? = some link → link.Sound network.medium.broker
  readers : ∀ (first second : Nat) (link other : Link) (dispatcher another : Dispatcher),
    network.links[first]? = some link → network.links[second]? = some other → link.dispatcher = some dispatcher →
    other.dispatcher = some another → dispatcher.source = another.source → first = second
  foreign_lt : ∀ connection, foreign connection → connection < network.medium.broker.clients.length
  foreign_ne : ∀ (index : Nat) (link : Link) (dispatcher : Dispatcher), network.links[index]? = some link →
    link.dispatcher = some dispatcher → ¬foreign dispatcher.source
  owned : ∀ connection, network.medium.broker.isLive connection →
    foreign connection ∨ (∃ link ∈ network.links, link.connection.handle = some connection) ∨
    network.Closes connection

namespace Sound

theorem sound_link (sound : network.Sound foreign) (h : network.agents[index]? = some agent) :
    agent.link.Sound network.medium.broker :=
  sound.links index agent.link (getElem?_links h)

/-- Connections may fade as long as agents keep their links, and closes of what is alive are still done. -/
theorem fades (sound : network.Sound foreign) (links : after.links = network.links)
    (fades : network.medium.broker.Fades after.medium.broker)
    (closes : ∀ connection, after.medium.broker.isLive connection → network.Closes connection →
      after.Closes connection) : after.Sound foreign where
  links index link h := (sound.links index link (links ▸ h)).fades fades
  readers := by simpa only [links] using sound.readers
  foreign_lt connection h := fades.length_eq ▸ sound.foreign_lt connection h
  foreign_ne := by simpa only [links] using sound.foreign_ne
  owned := by
    intro connection live
    rw [links]
    exact (sound.owned connection (fades.isLive connection live)).imp_right fun h ↦ h.imp_right (closes connection live)

/-- What an agent reads after its turn, no other agent reads: the agent read it before, or the connection is new. -/
theorem apart (sound : network.Sound foreign) {old new link : Link} {broker : Broker} {other : Nat}
    {dispatcher another : Dispatcher} (hold : network.links[index]? = some old)
    (turn : old.Turn left network.medium.broker broker new) (hne : other ≠ index)
    (hother : network.links[other]? = some link) (hread : link.dispatcher = some dispatcher)
    (hnew : new.dispatcher = some another) : dispatcher.source ≠ another.source := by
  intro same
  rcases turn.source another hnew with ⟨former, hformer, hsource⟩ | fresh
  · have hsame : dispatcher.source = former.source := same.trans hsource.symm
    exact hne (sound.readers other index link old dispatcher former hother hold hread hformer hsame)
  · have hlt := (sound.links other link hother).source_lt dispatcher hread
    exact absurd (same ▸ hlt) (Nat.not_lt.2 fresh)

/-- What an agent reads, no other agent holds. -/
theorem unheld (sound : network.Sound foreign) {link holder : Link} {other : Nat} {dispatcher : Dispatcher}
    (hholder : network.links[index]? = some holder) (hne : other ≠ index)
    (hother : network.links[other]? = some link) (hread : link.dispatcher = some dispatcher) :
    holder.connection.handle ≠ some dispatcher.source := by
  intro held
  rcases (sound.links index holder hholder).dispatched dispatcher.source held with ⟨phase, hphase⟩
  exact hne (sound.readers other index link holder dispatcher _ hother hholder hread hphase rfl)

/-- An agent may take a turn. What it leaves alive was its own, and is going to be closed. -/
theorem turn (sound : network.Sound foreign) (h : network.agents[index]? = some agent)
    (turn : agent.link.Turn left network.medium.broker after.medium.broker changed.link)
    (links : after.links = network.links.set index changed.link)
    (closes : ∀ connection, network.Closes connection → after.Closes connection)
    (leaves : ∀ connection, left connection → agent.connection.handle = some connection ∧ after.Closes connection) :
    after.Sound foreign := by
  have hlink := getElem?_links h
  have hset (other : Nat) (link : Link) (hother : after.links[other]? = some link) :
      (other = index ∧ link = changed.link) ∨ (other ≠ index ∧ network.links[other]? = some link) := by
    grind
  have hself : after.links[index]? = some changed.link := by
    rw [links]
    exact List.getElem?_set_self (List.getElem?_eq_some_iff.1 hlink).1
  refine ⟨?_, ?_, ?_, ?_, ?_⟩
  · intro other link hother
    rcases hset other link hother with ⟨-, rfl⟩ | ⟨hne, hold⟩
    · exact turn.sound
    · apply (sound.links other link hold).beside turn
      · intro dispatcher another hread hnew
        exact sound.apart hlink turn hne hold hread hnew
      · intro dispatcher hread hleft
        exact sound.unheld hlink hne hold hread (leaves dispatcher.source hleft).1
  · intro first second link other dispatcher another hfirst hsecond hread hread' same
    rcases hset first link hfirst with ⟨rfl, rfl⟩ | ⟨hne, hold⟩
    · rcases hset second other hsecond with ⟨rfl, rfl⟩ | ⟨hne', hold'⟩
      · rfl
      · exact absurd same.symm (sound.apart hlink turn hne' hold' hread' hread)
    · rcases hset second other hsecond with ⟨rfl, rfl⟩ | ⟨hne', hold'⟩
      · exact absurd same (sound.apart hlink turn hne hold hread hread')
      · exact sound.readers first second link other dispatcher another hold hold' hread hread' same
  · intro connection hforeign
    exact Nat.lt_of_lt_of_le (sound.foreign_lt connection hforeign) turn.length_le
  · intro other link dispatcher hother hread hforeign
    rcases hset other link hother with ⟨-, rfl⟩ | ⟨-, hold⟩
    · rcases turn.source dispatcher hread with ⟨former, hformer, hsource⟩ | fresh
      · exact sound.foreign_ne index agent.link former hlink hformer (hsource ▸ hforeign)
      · exact absurd (sound.foreign_lt _ hforeign) (Nat.not_lt.2 fresh)
    · exact sound.foreign_ne other link dispatcher hold hread hforeign
  · intro connection live
    have hkept (held : changed.connection.handle = some connection) :
        ∃ link ∈ after.links, link.connection.handle = some connection :=
      ⟨changed.link, List.mem_of_getElem? hself, held⟩
    rcases turn.isLive connection live with live' | held | hleft
    · rcases sound.owned connection live' with hforeign | ⟨link, hmem, held⟩ | hclose
      · exact .inl hforeign
      · rcases List.getElem?_of_mem hmem with ⟨other, hother⟩
        by_cases same : other = index
        · have hown : link = agent.link := by simpa [same, hlink] using hother.symm
          rcases turn.lost connection (hown ▸ held) live with held' | hleft
          · exact .inr (.inl (hkept held'))
          · exact .inr (.inr (leaves connection hleft).2)
        · have hother' : after.links[other]? = some link := by rw [links, List.getElem?_set_ne (Ne.symm same), hother]
          exact .inr (.inl ⟨link, List.mem_of_getElem? hother', held⟩)
      · exact .inr (.inr (closes connection hclose))
    · exact .inr (.inl (hkept held))
    · exact .inr (.inr (leaves connection hleft).2)

/-- An agent that has not connected yet may be added. -/
theorem append (sound : network.Sound foreign) (links : after.links = network.links ++ [⟨.initial, none⟩])
    (broker : after.medium.broker = network.medium.broker)
    (closes : ∀ connection, network.Closes connection → after.Closes connection) : after.Sound foreign := by
  have hold (other : Nat) (link : Link) (hother : after.links[other]? = some link) :
      link = ⟨.initial, none⟩ ∨ network.links[other]? = some link := by
    grind
  refine ⟨?_, ?_, ?_, ?_, ?_⟩
  · intro other link hother
    rw [broker]
    rcases hold other link hother with rfl | hother
    · exact Link.sound_of_released rfl (by simp [Connection.initial]) _
    · exact sound.links other link hother
  · intro first second link other dispatcher another hfirst hsecond hread hread' same
    rcases hold first link hfirst with rfl | hfirst
    · cases hread
    · rcases hold second other hsecond with rfl | hsecond
      · cases hread'
      · exact sound.readers first second link other dispatcher another hfirst hsecond hread hread' same
  · rw [broker]
    exact sound.foreign_lt
  · intro other link dispatcher hother hread
    rcases hold other link hother with rfl | hother
    · cases hread
    · exact sound.foreign_ne other link dispatcher hother hread
  · intro connection live
    rw [broker] at live
    rcases sound.owned connection live with hforeign | ⟨link, hmem, held⟩ | hclose
    · exact .inl hforeign
    · exact .inr (.inl ⟨link, by simp [links, hmem], held⟩)
    · exact .inr (.inr (closes connection hclose))

/-- An agent may be added that has taken its first turn. -/
theorem join (sound : network.Sound foreign) {medium : Medium}
    (turn : Link.Turn (fun _ ↦ False) network.medium.broker ⟨.initial, none⟩ medium.broker changed.link) :
    Sound foreign { network with medium, agents := network.agents ++ [changed] } := by
  let start : Agent := { changed with connection := .initial, dispatcher := none }
  have added : Sound foreign { network with agents := network.agents ++ [start] } :=
    sound.append (by simp [Network.links, start, Agent.link]) rfl fun _ h ↦ h
  have place : (network.agents ++ [start])[network.agents.length]? = some start := by simp
  refine added.turn place turn ?_ (fun _ h ↦ h) fun _ ↦ False.elim
  simp [Network.links]

/-- The broker may accept a connection from outside. -/
theorem accept {connection : ConnectionId} (sound : network.Sound foreign)
    (accepts : network.medium.broker.Accepts after.medium.broker connection) (links : after.links = network.links)
    (closes : ∀ connection, network.Closes connection → after.Closes connection) :
    after.Sound fun other ↦ foreign other ∨ other = connection := by
  have hlt (index : Nat) (link : Link) (dispatcher : Dispatcher) (h : network.links[index]? = some link)
      (hread : link.dispatcher = some dispatcher) : dispatcher.source ≠ connection := by
    rw [accepts.eq_length]
    exact Nat.ne_of_lt ((sound.links index link h).source_lt dispatcher hread)
  -- From the agents' side it is as if one more agent had connected.
  have turn : Link.Turn (fun _ ↦ False) network.medium.broker ⟨.initial, none⟩ after.medium.broker
      ⟨⟨.connected, some connection, 0⟩, some ⟨connection, .busy⟩⟩ := Link.Sound.accept accepts rfl 0
  refine ⟨?_, by simpa only [links] using sound.readers, ?_, ?_, ?_⟩
  · intro index link h
    rw [links] at h
    apply (sound.links index link h).beside turn
    · rintro dispatcher _ hread ⟨⟩
      exact hlt index link dispatcher h hread
    · exact fun _ _ ↦ id
  · intro other hforeign
    rw [accepts.length_eq]
    rcases hforeign with hforeign | rfl
    · exact Nat.lt_succ_of_lt (sound.foreign_lt other hforeign)
    · exact accepts.eq_length ▸ Nat.lt_succ_self _
  · intro index link dispatcher h hread hforeign
    rw [links] at h
    rcases hforeign with hforeign | same
    · exact sound.foreign_ne index link dispatcher h hread hforeign
    · exact hlt index link dispatcher h hread same
  · intro other live
    rw [links]
    rcases (accepts.isLive_iff other).1 live with live | same
    · rcases sound.owned other live with hforeign | held | hclose
      · exact .inl (.inl hforeign)
      · exact .inr (.inl held)
      · exact .inr (.inr (closes other hclose))
    · exact .inl (.inr same)

/-- A connection that is not live need not count as foreign. -/
theorem narrow (sound : network.Sound foreign) (subset : ∀ connection, others connection → foreign connection)
    (rest : ∀ connection, foreign connection → network.medium.broker.isLive connection → others connection) :
    network.Sound others where
  links := sound.links
  readers := sound.readers
  foreign_lt connection h := sound.foreign_lt connection (subset connection h)
  foreign_ne index link dispatcher h hread hothers :=
    sound.foreign_ne index link dispatcher h hread (subset dispatcher.source hothers)
  owned connection live := (sound.owned connection live).imp_left fun hforeign ↦ rest connection hforeign live

end Sound

theorem sound_fresh : fresh.Sound fun _ ↦ False where
  links := by simp [links, fresh]
  readers := by simp [links, fresh]
  foreign_lt := nofun
  foreign_ne := by simp
  owned connection live := by simp [fresh, Medium.fresh, Broker.fresh, Broker.isLive] at live

end PubSub.Network
