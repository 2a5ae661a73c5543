import PubSub.Proofs.Network.Upholding
/-!
# Tidy networks

A network is tidy if no connect goes on in the background and the connections that are left to be closed are nobody's
any more. It stays so while agents come and go one after the other, and then no step of background work is noticed by
an agent unless a callback cuts all connections.
-/

namespace PubSub

namespace Network

variable {network before after : Network} {agent : Agent} {place index : Nat} {foreign : ConnectionId → Prop}
  {busy : Nat → Prop} {cut : Bool}

/-! ## Who holds what -/

/-- No two agents hold one connection. -/
theorem Sound.apart_handles (sound : network.Sound foreign) {other : Nat} {standing another : Standing}
    {handle : ConnectionId} (h : network.view.agents[index]? = some standing)
    (h' : network.view.agents[other]? = some another) (has : standing.connection.handle = some handle)
    (has' : another.connection.handle = some handle) : index = other := by
  obtain ⟨agent, hagent, rfl⟩ := Option.map_eq_some_iff.1 (List.getElem?_map.symm.trans h)
  obtain ⟨agent', hagent', rfl⟩ := Option.map_eq_some_iff.1 (List.getElem?_map.symm.trans h')
  obtain ⟨phase, reads⟩ := (sound.sound_link hagent).dispatched handle has
  obtain ⟨phase', reads'⟩ := (sound.sound_link hagent').dispatched handle has'
  exact sound.readers index other _ _ _ _ (getElem?_links hagent) (getElem?_links hagent') reads reads' rfl

theorem Sound.handle_lt (sound : network.Sound foreign) {standing : Standing} {handle : ConnectionId}
    (h : network.view.agents[index]? = some standing) (has : standing.connection.handle = some handle) :
    handle < network.medium.broker.clients.length := by
  obtain ⟨agent, hagent, rfl⟩ := Option.map_eq_some_iff.1 (List.getElem?_map.symm.trans h)
  obtain ⟨phase, reads⟩ := (sound.sound_link hagent).dispatched handle has
  exact (sound.sound_link hagent).source_lt _ reads

theorem Sound.not_foreign (sound : network.Sound foreign) {standing : Standing} {handle : ConnectionId}
    (h : network.view.agents[index]? = some standing) (has : standing.connection.handle = some handle) :
    ¬foreign handle := by
  obtain ⟨agent, hagent, rfl⟩ := Option.map_eq_some_iff.1 (List.getElem?_map.symm.trans h)
  obtain ⟨phase, reads⟩ := (sound.sound_link hagent).dispatched handle has
  exact sound.foreign_ne index _ _ (getElem?_links hagent) reads

/-- No connect goes on in the background, and no agent holds a connection that is left to be closed. -/
structure Tidy (network : Network) : Prop where
  alone : network.attempts = []
  left : ∀ connection ∈ network.view.closing, connection < network.medium.broker.clients.length ∧
    ∀ standing ∈ network.view.agents, standing.connection.handle ≠ some connection

theorem tidy_fresh : fresh.Tidy :=
  ⟨rfl, by simp [fresh, Network.view]⟩

theorem Tidy.upholds (tidy : before.Tidy) (upholds : before.Upholds busy cut after) : after.Tidy where
  alone := List.eq_nil_of_length_eq_zero (by rw [upholds.attempts, tidy.alone, List.length_nil])
  left connection hmem := by
    obtain ⟨lt, nobody⟩ := tidy.left connection (upholds.view.closing hmem)
    refine ⟨Nat.lt_of_lt_of_le lt upholds.view.clients, fun later hlater has ↦ ?_⟩
    obtain ⟨index, hindex⟩ := List.getElem?_of_mem hlater
    have former : index < before.view.agents.length :=
      upholds.view.length ▸ (List.getElem?_eq_some_iff.1 hindex).1
    obtain ⟨same, hsame, -, handles, -⟩ := upholds.view.agents index _ (List.getElem?_eq_getElem former)
    obtain rfl : same = later := Option.some.inj (hsame.symm.trans hindex)
    rcases handles connection has with has' | fresh
    · exact nobody _ (List.getElem_mem former) has'
    · exact Nat.not_lt.2 fresh lt

/-! ## Agents that come and go -/

/-- From one network to the next, in which there is one agent more, with a new connection or none. -/
structure Joins (agent : Agent) (before after : Network) : Prop where
  attempts : after.attempts = before.attempts
  view : ∃ broker, after.view = ⟨broker, before.view.agents ++ [agent.standing], before.view.closing⟩ ∧
    before.medium.broker.Spares (fun _ ↦ False) false broker
  new : ∀ handle, agent.connection.handle = some handle → before.medium.broker.clients.length ≤ handle

theorem Tidy.joins (tidy : before.Tidy) (joins : before.Joins agent after) : after.Tidy where
  alone := joins.attempts.trans tidy.alone
  left connection hmem := by
    obtain ⟨broker, view, spares⟩ := joins.view
    have broker : after.medium.broker = broker := congrArg View.broker view
    rw [view] at hmem ⊢
    obtain ⟨lt, nobody⟩ := tidy.left connection hmem
    refine ⟨broker ▸ Nat.lt_of_lt_of_le lt spares.length_le, fun later hlater has ↦ ?_⟩
    rcases List.mem_append.1 hlater with former | joined
    · exact nobody later former has
    · obtain rfl := List.mem_singleton.1 joined
      exact Nat.not_lt.2 (joins.new connection has) lt

/-- From one network to the next, in which the agent at a place is let go: nobody holds it, and its connection is closed
or left to be closed. -/
structure Dismisses (place : Nat) (agent : Agent) (before after : Network) : Prop where
  attempts : after.attempts = before.attempts
  view : ∃ gone broker closing,
    after.view = ⟨broker, before.view.agents.set place gone, closing⟩ ∧
    gone.held = false ∧ gone.connection.handle = none ∧
    before.medium.broker.Spares (fun connection ↦ agent.connection.handle = some connection) false broker ∧
    ∀ connection ∈ closing, connection ∈ before.view.closing ∨ agent.connection.handle = some connection

theorem view_schedule_close (network : Network) (transport : Transport) (connection : ConnectionId) :
    ∃ closing, (network.schedule (.close transport connection)).view = { network.view with closing } ∧
      ∀ other ∈ closing, other ∈ network.view.closing ∨ other = connection := by
  unfold schedule
  split
  · exact ⟨network.view.closing, rfl, fun _ hmem ↦ .inl hmem⟩
  · refine ⟨network.view.closing ++ [connection], by simp [Network.view, Task.closing?], fun other hmem ↦ ?_⟩
    simpa using hmem

theorem dismisses_letGo (h : network.agents[place]? = some agent) (alone : network.attempts = [])
    {dispose : Network → Agent → ConnectionId → Network} (disposes : dispose = closeLater ∨ dispose = forget) :
    network.Dismisses place agent (network.letGo place dispose) := by
  let dropped := network.modifyAgent place fun agent ↦ { agent with held := false }
  let unheld : Agent := { agent with held := false }
  have eq : dropped = { network with agents := network.agents.set place unheld } := modifyAgent_eq h _
  have own : dropped.agents[place]? = some unheld := by
    rw [eq]
    exact List.getElem?_set_self (List.getElem?_eq_some_iff.1 h).1
  have lets : network.letGo place dispose = dropped.giveUp place dispose := by
    have idle : dropped.isConnecting place = false := by simp [isConnecting, eq, alone]
    unfold letGo
    simp only
    rw [if_neg]
    rw [idle]
    decide
  have view : (dropped.setAgent place unheld.release.1).view =
      { network.view with agents := network.view.agents.set place unheld.release.1.standing } := by
    rw [view_setAgent, eq]
    simp [Network.view, List.map_set, List.set_set]
  rw [lets]
  unfold giveUp
  rw [own]
  simp only
  have attempts : (dropped.setAgent place unheld.release.1).attempts = network.attempts := by
    obtain ⟨ready, same, -⟩ := setAgent_eq dropped place unheld.release.1
    rw [same, eq]
  cases held : agent.connection.handle with
  | none =>
    have none : unheld.release.2 = none := held
    simp only [none]
    exact ⟨attempts, _, _, _, view, rfl, rfl, .refl _, fun _ hmem ↦ .inl hmem⟩
  | some handle =>
    have some : unheld.release.2 = some handle := held
    simp only [some]
    rcases disposes with rfl | rfl
    · obtain ⟨closing, closes, waits⟩ :=
        view_schedule_close (dropped.setAgent place unheld.release.1) unheld.transport handle
      rw [view] at closes waits
      refine ⟨?_, _, _, closing, closes, rfl, rfl, .refl _, fun connection hmem ↦ ?_⟩
      · obtain ⟨ready, same, -⟩ := schedule_eq (dropped.setAgent place unheld.release.1)
          (.close unheld.transport handle)
        rw [closeLater, same]
        exact attempts
      · exact (waits connection hmem).imp_right fun same ↦ by rw [held, same]
    · have broker : (dropped.setAgent place unheld.release.1).medium.broker = network.medium.broker :=
        congrArg View.broker view
      have forgets : (forget (dropped.setAgent place unheld.release.1) unheld handle).view =
          ⟨network.medium.broker.close handle, network.view.agents.set place unheld.release.1.standing,
            network.view.closing⟩ := by
        simp only [forget, view_onMedium, Medium.onBroker, broker, view]
      refine ⟨(attempts_wake _).trans attempts, _, _, _, forgets, rfl, rfl, ?_, fun _ hmem ↦ .inl hmem⟩
      exact (Broker.spares_close _ handle).mono fun connection same ↦ by rw [held, same]

theorem Tidy.dismisses (tidy : before.Tidy) (sound : before.Sound foreign) (h : before.agents[place]? = some agent)
    (dismisses : before.Dismisses place agent after) : after.Tidy where
  alone := dismisses.attempts.trans tidy.alone
  left connection hmem := by
    obtain ⟨gone, broker, closing, view, -, empty, spares, waits⟩ := dismisses.view
    have broker : after.medium.broker = broker := congrArg View.broker view
    have standing : before.view.agents[place]? = some agent.standing := by simp [Network.view, h]
    rw [view] at hmem ⊢
    have nobody : connection < before.medium.broker.clients.length ∧ ∀ (other : Nat) (standing : Standing),
        other ≠ place → before.view.agents[other]? = some standing → standing.connection.handle ≠ some connection := by
      rcases waits connection hmem with waited | own
      · obtain ⟨lt, nobody⟩ := tidy.left connection waited
        exact ⟨lt, fun other standing _ hother ↦ nobody standing (List.mem_of_getElem? hother)⟩
      · refine ⟨sound.handle_lt standing own, fun other standing' apart hother has ↦ ?_⟩
        exact apart (sound.apart_handles hother standing has own)
    refine ⟨broker ▸ Nat.lt_of_lt_of_le nobody.1 spares.length_le, fun later hlater has ↦ ?_⟩
    obtain ⟨other, hother⟩ := List.getElem?_of_mem hlater
    by_cases same : place = other
    · subst same
      rw [List.getElem?_set_self (List.getElem?_eq_some_iff.1 standing).1] at hother
      obtain rfl := Option.some.inj hother
      rw [empty] at has
      cases has
    · rw [List.getElem?_set_ne same] at hother
      exact nobody.2 other later (Ne.symm same) hother has

/-- From one network to the next, in which nobody notices anything but an agent that may have been let go. -/
def Releases (before after : Network) : Prop :=
  before.Upholds (fun _ ↦ False) false after ∨
    ∃ place agent, before.agents[place]? = some agent ∧ before.Dismisses place agent after

theorem Tidy.releases (tidy : before.Tidy) (sound : before.Sound foreign) (releases : before.Releases after) :
    after.Tidy := by
  rcases releases with upholds | ⟨place, agent, h, dismisses⟩
  · exact tidy.upholds upholds
  · exact tidy.dismisses sound h dismisses

theorem Tidy.releases_letGo (tidy : network.Tidy) (place : Nat) {dispose : Network → Agent → ConnectionId → Network}
    (disposes : dispose = closeLater ∨ dispose = forget) : network.Releases (network.letGo place dispose) := by
  cases h : network.agents[place]? with
  | none =>
    have same : network.letGo place dispose = network := by
      have unmodified : (network.modifyAgent place fun agent ↦ { agent with held := false }) = network := by
        unfold modifyAgent
        rw [List.modify_eq_self (List.getElem?_eq_none_iff.1 h)]
      unfold letGo giveUp
      simp only [unmodified, h, ite_self]
    rw [same]
    exact .inl (.refl network)
  | some agent => exact .inr ⟨place, agent, h, dismisses_letGo h tidy.alone disposes⟩

theorem Releases.length (releases : before.Releases after) : after.view.agents.length = before.view.agents.length := by
  rcases releases with upholds | ⟨place, agent, -, dismisses⟩
  · exact upholds.view.length
  · obtain ⟨gone, broker, closing, view, -⟩ := dismisses.view
    rw [view]
    exact List.length_set

/-- An agent that is still held has noticed nothing. -/
theorem Releases.untroubled (releases : before.Releases after) (sound : before.Sound foreign) {later : Standing}
    (h : after.view.agents[index]? = some later) (held : later.held) :
    ∃ standing, before.view.agents[index]? = some standing ∧ standing.held ∧
      View.Untroubled false before.medium.broker standing after.medium.broker later := by
  rcases releases with upholds | ⟨place, agent, hplace, dismisses⟩
  · have lt : index < before.view.agents.length := upholds.view.length ▸ (List.getElem?_eq_some_iff.1 h).1
    have former := List.getElem?_eq_getElem lt
    obtain ⟨same, hsame, sameHeld, -, untroubled⟩ := upholds.view.agents index _ former
    obtain rfl : same = later := Option.some.inj (hsame.symm.trans h)
    exact ⟨_, former, sameHeld ▸ held, untroubled id⟩
  · obtain ⟨gone, broker, closing, view, unheld, -, spares, -⟩ := dismisses.view
    have standing : before.view.agents[place]? = some agent.standing := by simp [Network.view, hplace]
    have apart : place ≠ index := by
      rintro rfl
      rw [view, List.getElem?_set_self (List.getElem?_eq_some_iff.1 standing).1] at h
      obtain rfl := Option.some.inj h
      rw [unheld] at held
      cases held
    have former : before.view.agents[index]? = some later := by
      rw [← h, view]
      exact (List.getElem?_set_ne apart).symm
    have broker : after.medium.broker = broker := congrArg View.broker view
    refine ⟨later, former, held, rfl, fun handle has lt ↦ ?_⟩
    rw [broker]
    exact spares.isLive handle lt fun own ↦ apart (sound.apart_handles standing former own has)

/-! ## Background work -/

/-- A step of background work that hands no message on. Where no connect goes on in the background, it rests a
dispatcher or closes a connection that was left, which no agent holds. -/
theorem Tidy.upholds_of_unhanded (tidy : network.Tidy)
    (ticks : network.tick? = some after) (handed : network.handed? = none) :
    network.Upholds (fun _ ↦ False) false after := by
  cases tick_of_tick? ticks with
  | dispatch ready h reads taken own => rw [handed] at own; cases own
  | @rest index source rest agent former ready hagent reads empty own =>
    let rested : Agent := { agent with
      dispatcher := some ⟨source, if network.medium.broker.isClosed source then .finished else .resting⟩ }
    have passed : Network.view { network with ready := rest } = network.view := view_pass ready rfl
    have hagent' : ({ network with ready := rest } : Network).agents[index]? = some agent := hagent
    have standing : network.view.agents[index]? = some agent.standing := by simp [Network.view, hagent]
    have view : Network.view { network with agents := network.agents.set index rested, ready := rest } =
        { network.view with
          broker := network.medium.broker, agents := network.view.agents.set index rested.standing } := by
      have closing := congrArg View.closing passed
      simp only [Network.view, List.map_set] at closing ⊢
      rw [closing]
    have spares : network.view.broker.Spares (fun _ ↦ False) false network.medium.broker := .refl _
    rw [modifyAgent_eq hagent']
    refine ⟨?_, rfl⟩
    rw [view]
    exact .set standing rfl (fun _ has ↦ .inl has) (fun _ ↦ rfl) spares fun _ _ _ _ _ _ h ↦ h
  | @pass task rest ready closes own =>
    refine .of_view (view_pass ready ?_) rfl
    cases task with
    | close transport connection => exact absurd rfl (closes transport connection)
    | _ => rfl
  | @close transport connection rest ready own =>
    have waits : connection ∈ network.view.closing := by simp [Network.view, ready, Task.closing?]
    have fewer : rest.filterMap Task.closing? ⊆ network.view.closing := by
      intro other hmem
      simp only [Network.view, ready, List.filterMap_cons, Task.closing?]
      exact List.mem_cons_of_mem _ hmem
    have passed : network.Upholds (fun _ ↦ False) false { network with ready := rest } := ⟨.fewer fewer, rfl⟩
    have closes : Network.Upholds (fun _ ↦ False) false { network with ready := rest }
        (onMedium { network with ready := rest } fun medium ↦ (medium.close transport connection).1) := by
      have spares : network.medium.broker.Spares (· = connection) false
          (network.medium.close transport connection).1.broker := by
        rw [Medium.broker_close]
        exact Broker.spares_close _ connection
      refine upholds_onMedium { network with ready := rest } spares ?_
      rintro index standing handle hstanding - has rfl
      exact (tidy.left handle waits).2 standing (List.mem_of_getElem? hstanding) has
    exact passed.trans closes
  | attempt ready started hagent own => simp [tidy.alone] at started

end Network

namespace Journal

variable {journal next : Journal}

theorem upholds_tick? (tidy : journal.network.Tidy) (ticks : journal.tick? = some next) :
    journal.Upholds (fun _ ↦ False) next := by
  have unhanded {network : Network} (h : journal.network.tick? = some network)
      (handed : journal.network.handed? = none) :
      journal.Upholds (fun _ ↦ False) { journal with network } :=
    ⟨[], (List.append_nil _).symm, tidy.upholds_of_unhanded h handed⟩
  unfold tick? at ticks
  split at ticks
  · rename_i index source rest ready
    obtain rfl := Option.some.inj ticks
    have works : journal.network.tick? = some (journal.network.lookInside index source rest) := by
      rw [Network.tick?, ready]
    unfold lookInside
    cases hagent : journal.network.agents[index]? with
    | none => exact unhanded works (by simp [Network.handed?, ready, hagent])
    | some agent =>
      simp only
      split
      · rename_i reads
        cases taken : journal.network.medium.broker.take? source with
        | none => exact unhanded works (by simp [Network.handed?, ready, hagent, taken])
        | some found =>
          obtain ⟨message, broker⟩ := found
          have takes : journal.Upholds (fun _ ↦ False)
              (journal.onNetwork fun network ↦ { network with medium := { network.medium with broker } }) := by
            refine .of_network ⟨?_, rfl⟩
            exact .of_spares journal.network.view (Broker.spares_of_take? taken) fun _ _ _ _ _ _ (h : False) ↦ h
          exact takes.trans (upholds_dispatch _ index agent message)
      · rename_i idle
        refine unhanded works ?_
        simp only [Network.handed?, ready, hagent, idle, Bool.false_eq_true, if_false]
  · rename_i other
    obtain ⟨network, works, rfl⟩ := Option.map_eq_some_iff.1 ticks
    refine unhanded works ?_
    unfold Network.handed?
    split
    · rename_i index source rest ready
      exact absurd ready (other index source rest)
    · rfl

end Journal

end PubSub
