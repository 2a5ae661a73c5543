import PubSub.Proofs.Session.Dispatching
import PubSub.Proofs.Session.Upholding
/-!
# What connectedness tells

As long as connects go on one after the other, the past of an agent tells whether it is connected: it is if one of its
connects has succeeded and nothing has come since then that ends a connection. A disconnect and a connect that fails end
it in a way that the agent knows of. When all connections are cut the agent is not told, and goes on to call itself
connected.
-/

namespace PubSub

/-! ## What becomes of an agent -/

namespace Network

variable {before after : Network} {index : Nat} {later : Standing} {succeeds ends : Prop} {cut : Bool}

/-- What may have become of an agent that is held: it has connected, it has lost its connection and knows so, it has
just come, or it has noticed nothing unless all connections were cut. -/
inductive Fate (before after : Network) (index : Nat) (later : Standing) (succeeds ends : Prop) (cut : Bool) : Prop
  | connected (succeeded : succeeds) (online : later.connection.isConnected after.medium.broker.isLive)
  | ended (not : ¬succeeds) (ended : ends) (state : later.connection.state ≠ .connected)
  | joined (not : ¬succeeds) (stays : ¬ends) (new : before.view.agents.length ≤ index)
      (initial : later.connection = .initial)
  | kept (not : ¬succeeds) (stays : ¬ends) (standing : Standing) (h : before.view.agents[index]? = some standing)
      (held : standing.held) (untroubled : View.Untroubled cut before.medium.broker standing after.medium.broker later)

theorem Fate.of_upholds {busy : Nat → Prop} (upholds : before.Upholds busy cut after)
    (h : after.view.agents[index]? = some later) (held : later.held) (idle : ¬busy index) (not : ¬succeeds)
    (stays : ¬ends) : Fate before after index later succeeds ends cut := by
  have lt : index < before.view.agents.length := upholds.view.length ▸ (List.getElem?_eq_some_iff.1 h).1
  have former := List.getElem?_eq_getElem lt
  obtain ⟨same, hsame, sameHeld, -, untroubled⟩ := upholds.view.agents index _ former
  obtain rfl : same = later := Option.some.inj (hsame.symm.trans h)
  exact .kept not stays _ former (sameHeld ▸ held) (untroubled idle)

theorem isConnected_of_live {connection : Connection} {broker : Broker} {handle : ConnectionId}
    (state : connection.state = .connected) (has : connection.handle = some handle) (live : broker.isLive handle) :
    connection.isConnected broker.isLive := by
  simp [Connection.isConnected, state, has, live]

end Network

namespace Session

variable {session : Session} {index : Nat} {agent : Agent} {later : Standing} {label : String}

/-- Whether a request brings the agent at a place to connect: one to connect it, or one to build it connected. -/
def Succeeds (session : Session) (index : Nat) : Request → Prop
  | .connect label overrides =>
    session.agents.get? label = some index ∧ (session.handle (.connect label overrides)).2.isOk
  | .build description =>
    index = session.network.agents.length ∧ (session.handle (.build description)).2.isOk ∧
      ∃ builder, builderOf description = .ok builder ∧ builder.autoConnect.getD builder.config.behavior.autoConnect
  | _ => False

/-- Whether a request is to connect the agent at a place, and fails. It does not fail if it is merely refused, because
the agent is connecting or connected. -/
def Fails (session : Session) (index : Nat) : Request → Prop
  | .connect label overrides =>
    session.agents.get? label = some index ∧ ∃ error,
      (session.handle (.connect label overrides)).2 = .error (.failed error) ∧
        ∀ state operation, error ≠ .invalidState state operation
  | _ => False

theorem handle_build (session : Session) (description : AgentRequest) :
    (∃ refusal, session.handle (.build description) = (session, .error refusal)) ∨
    ∃ builder, builderOf description = .ok builder ∧
      session.handle (.build description) = session.build description.agent builder := by
  have asked : session.handle (.build description) = session.attempt (builderOf description >>= fun builder ↦
      pure (session.build description.agent builder)) := rfl
  rw [asked]
  cases builderOf description with
  | error refusal => exact .inl ⟨refusal, rfl⟩
  | ok builder => exact .inr ⟨builder, rfl, rfl⟩

theorem fate_build (steady : session.Steady) (tidy : session.network.Tidy) (description : AgentRequest)
    (h : (session.handle (.build description)).1.network.view.agents[index]? = some later) (held : later.held) :
    session.network.Fate (session.handle (.build description)).1.network index later
      (session.Succeeds index (.build description)) False false := by
  have nobody : ¬(fun _ : Nat ↦ False) index := id
  rcases handle_build session description with ⟨refusal, same⟩ | ⟨builder, found, same⟩
  · have not : ¬session.Succeeds index (.build description) := fun ⟨_, done, _⟩ ↦ by rw [same] at done; cases done
    have upholds : session.network.Upholds (fun _ ↦ False) false session.network := .refl session.network
    rw [same] at h ⊢
    exact .of_upholds upholds h held nobody not id
  · have succeeds : session.Succeeds index (.build description) ↔ index = session.network.agents.length ∧
        (session.build description.agent builder).2.isOk ∧
          builder.autoConnect.getD builder.config.behavior.autoConnect = true := by
      simp only [Succeeds, same, found, Except.ok.injEq, exists_eq_left']
    rw [same] at h ⊢
    rcases build_outcome steady tidy description.agent builder with
      ⟨upholds, failed⟩ | ⟨agent, joined, joins, steady', releases, done, outcome⟩
    · refine .of_upholds upholds h held nobody (fun succeeded ↦ ?_) id
      rw [succeeds, failed] at succeeded
      exact Bool.false_ne_true succeeded.2.1
    · obtain ⟨standing, hstanding, held', connection, live⟩ := releases.untroubled steady'.sound h held
      obtain ⟨broker, view, spares⟩ := joins.view
      have broker : joined.medium.broker = broker := congrArg View.broker view
      have length : session.network.view.agents.length = session.network.agents.length := by simp [Network.view]
      rw [view] at hstanding
      by_cases former : index < session.network.view.agents.length
      · rw [List.getElem?_append_left former] at hstanding
        refine .kept (fun succeeded ↦ ?_) id standing hstanding held' ⟨connection, fun handle has lt ↦ ?_⟩
        · exact absurd (succeeds.1 succeeded).1 (Nat.ne_of_lt (length ▸ former))
        · rw [live handle has (broker ▸ Nat.lt_of_lt_of_le lt spares.length_le), broker, spares.isLive handle lt id,
            Bool.not_false, Bool.and_true, Bool.and_true]
      · have new : index = session.network.view.agents.length := by
          have lt := (List.getElem?_eq_some_iff.1 hstanding).1
          rw [List.length_append, List.length_singleton] at lt
          omega
        obtain rfl : agent.standing = standing := by simpa [new] using hstanding
        cases connects : builder.autoConnect.getD builder.config.behavior.autoConnect with
        | true =>
          obtain ⟨state, handle, has, alive⟩ : agent.connection.state = .connected ∧
              ∃ handle, agent.connection.handle = some handle ∧ joined.medium.broker.isLive handle := by
            simpa only [connects, if_true] using outcome
          refine .connected (succeeds.2 ⟨new.trans length, done, connects⟩) ?_
          have lt : handle < joined.medium.broker.clients.length := Broker.lt_length_of_isLive alive
          rw [connection]
          exact Network.isConnected_of_live state has (by rw [live handle has lt, alive]; rfl)
        | false =>
          have initial : agent.connection = .initial := by
            simpa only [connects, Bool.false_eq_true, if_false] using outcome
          refine .joined (fun succeeded ↦ ?_) id (Nat.le_of_eq new.symm) (connection.trans initial)
          have told := (succeeds.1 succeeded).2.2
          rw [connects] at told
          cases told

theorem fate_connect (overrides : BrokerOverrides) (hfind : session.findAgent label = .ok (index, agent))
    (h : (session.handle (.connect label overrides)).1.network.view.agents[index]? = some later) (held : later.held) :
    session.network.Fate (session.handle (.connect label overrides)).1.network index later
      (session.Succeeds index (.connect label overrides)) (session.Fails index (.connect label overrides)) false := by
  have known := get?_of_findAgent hfind
  have standing : session.network.view.agents[index]? = some agent.standing := by
    simp [Network.view, findAgent_eq_ok hfind]
  let medium := session.network.medium
  have answered : (session.handle (.connect label overrides)).2 =
      failing ((agent.connect medium overrides).2.2.map fun _ ↦ .done) := by
    rw [handle_connect hfind]
    rfl
  have view : (session.handle (.connect label overrides)).1.network.view =
      { session.network.view with
        broker := (agent.connect medium overrides).1.broker
        agents := session.network.view.agents.set index (agent.connect medium overrides).2.1.standing } := by
    rw [handle_connect hfind]
    exact Network.view_onAgent session.network index agent fun medium agent ↦ agent.connect medium overrides
  have broker : (session.handle (.connect label overrides)).1.network.medium.broker =
      (agent.connect medium overrides).1.broker := congrArg View.broker view
  rw [view, List.getElem?_set_self (List.getElem?_eq_some_iff.1 standing).1] at h
  obtain rfl := Option.some.inj h
  rcases Agent.connect_outcome medium agent overrides with
    ⟨done, state, handle, has, live⟩ | ⟨state, operation, refused, sameMedium, sameAgent⟩ | ⟨error, failed, other, errs⟩
  · refine .connected ⟨known, by rw [answered, done]; rfl⟩ ?_
    rw [broker]
    exact Network.isConnected_of_live state has live
  · refine .kept ?_ ?_ _ standing ?_ ?_
    · rintro ⟨-, succeeded⟩
      rw [answered, refused] at succeeded
      cases succeeded
    · rintro ⟨-, error, failed, other⟩
      rw [answered, refused] at failed
      obtain rfl : Error.invalidState state operation = error := Refusal.failed.inj (Except.error.inj failed)
      exact other _ _ rfl
    · rw [sameAgent] at held
      exact held
    · rw [broker, sameMedium, sameAgent]
      exact ⟨rfl, fun handle _ _ ↦ by rw [Bool.not_false, Bool.and_true]⟩
  · refine .ended ?_ ⟨known, error, by rw [answered, failed]; rfl, other⟩ (fun connected ↦ ?_)
    · rintro ⟨-, succeeded⟩
      rw [answered, failed] at succeeded
      cases succeeded
    · exact absurd (errs.symm.trans connected) (by decide)

theorem findAgent_of_get? (known : session.agents.get? label = some index)
    (h : session.network.agents[index]? = some agent) : session.findAgent label = .ok (index, agent) := by
  simp only [findAgent, known, h]
  rfl

theorem state_disconnect (hfind : session.findAgent label = .ok (index, agent))
    (h : (session.handle (.disconnect label)).1.network.view.agents[index]? = some later) :
    later.connection.state ≠ .connected := by
  have standing : session.network.view.agents[index]? = some agent.standing := by
    simp [Network.view, findAgent_eq_ok hfind]
  let operation (medium : Medium) (agent : Agent) : Medium × Agent × Except Error Unit :=
    ((agent.disconnect medium).1, (agent.disconnect medium).2, pure ())
  have same : (session.handle (.disconnect label)).1.network =
      (session.network.onAgent index agent operation).1 := by
    have asked : session.handle (.disconnect label) = session.attempt (session.findAgent label >>= _) := rfl
    rw [asked, hfind]
    rfl
  rw [same, Network.view_onAgent, List.getElem?_set_self (List.getElem?_eq_some_iff.1 standing).1] at h
  obtain rfl := Option.some.inj h
  have released : (operation session.network.medium agent).2.1 = _ := (agent.disconnect_eq session.network.medium).2
  rw [released]
  intro connected
  cases connected

/-- What becomes of an agent when a request is carried out. -/
theorem fate_handle (steady : session.Steady) (tidy : session.network.Tidy) (request : Request)
    (begins : ∀ agent ticket overrides, request ≠ .startConnect agent ticket overrides)
    (h : (session.handle request).1.network.view.agents[index]? = some later) (held : later.held) :
    session.network.Fate (session.handle request).1.network index later (session.Succeeds index request)
      (session.Disconnects index request ∨ session.Fails index request) request.cuts := by
  by_cases comes : (∃ description, request = .build description) ∨
      ∃ label background, request = .dropAgent label background
  · rcases comes with ⟨description, rfl⟩ | ⟨label, background, rfl⟩
    · have same : (session.Disconnects index (.build description) ∨ session.Fails index (.build description)) ↔ False :=
        or_self_iff
      rw [same]
      exact fate_build steady tidy description h held
    · obtain ⟨standing, hstanding, held', untroubled⟩ :=
        (releases_dropAgent tidy label background).untroubled steady.network.sound h held
      exact .kept id (or_self_iff.1 ·) standing hstanding held' untroubled
  · have upholds := upholds_handle steady request begins (fun description same ↦ comes (.inl ⟨description, same⟩))
      fun label background same ↦ comes (.inr ⟨label, background, same⟩)
    by_cases busy : session.Busies request index
    · have lt : index < session.network.view.agents.length :=
        upholds.view.length ▸ (List.getElem?_eq_some_iff.1 h).1
      have found := List.getElem?_eq_getElem (l := session.network.agents) (by simpa [Network.view] using lt)
      cases request with
      | connect label overrides =>
        have same : (session.Disconnects index (.connect label overrides) ∨
            session.Fails index (.connect label overrides)) ↔ session.Fails index (.connect label overrides) :=
          ⟨fun ends ↦ ends.resolve_left id, .inr⟩
        rw [same]
        exact fate_connect overrides (findAgent_of_get? busy found) h held
      | disconnect label => exact .ended id (.inl busy) (state_disconnect (findAgent_of_get? busy found) h)
      | _ => cases busy
    · refine .of_upholds upholds h held busy (fun succeeds ↦ ?_) (fun ends ↦ ?_)
      · cases request with
        | connect label overrides => exact busy succeeds.1
        | build description => exact comes (.inl ⟨description, rfl⟩)
        | _ => cases succeeds
      · rcases ends with disconnects | fails
        · cases request with
          | disconnect label => exact busy disconnects
          | _ => cases disconnects
        · cases request with
          | connect label overrides => exact busy fails.1
          | _ => cases fails

theorem tidy_handle (steady : session.Steady) (tidy : session.network.Tidy) (request : Request)
    (begins : ∀ agent ticket overrides, request ≠ .startConnect agent ticket overrides) :
    (session.handle request).1.network.Tidy := by
  by_cases comes : (∃ description, request = .build description) ∨
      ∃ label background, request = .dropAgent label background
  · rcases comes with ⟨description, rfl⟩ | ⟨label, background, rfl⟩
    · rcases handle_build session description with ⟨_, same⟩ | ⟨builder, -, same⟩
      · rw [same]
        exact tidy
      · rw [same]
        rcases build_outcome steady tidy description.agent builder with
          ⟨upholds, -⟩ | ⟨agent, joined, joins, steady', releases, -⟩
        · exact tidy.upholds upholds
        · exact (tidy.joins joins).releases steady'.sound releases
    · exact tidy.releases steady.network.sound (releases_dropAgent tidy label background)
  · exact tidy.upholds (upholds_handle steady request begins (fun description same ↦ comes (.inl ⟨description, same⟩))
      fun label background same ↦ comes (.inr ⟨label, background, same⟩))

/-- An agent that has connected is there. -/
theorem lt_of_succeeds (steady : session.Steady) (tidy : session.network.Tidy) {request : Request}
    (succeeds : session.Succeeds index request) : index < (session.handle request).1.network.agents.length := by
  cases request with
  | connect label overrides =>
    cases hfind : session.findAgent label with
    | error refusal =>
      have done := succeeds.2
      rw [Traffic.handle_connect_of_error hfind] at done
      cases done
    | ok found =>
      obtain ⟨place, agent⟩ := found
      obtain rfl : index = place := Option.some.inj (succeeds.1.symm.trans (get?_of_findAgent hfind))
      have conducts := conducts_handle session (.connect label overrides)
      obtain ⟨later, hlater, -⟩ := conducts.kept index agent (findAgent_eq_ok hfind)
      exact (List.getElem?_eq_some_iff.1 hlater).1
  | build description =>
    obtain ⟨new, done, -⟩ := succeeds
    rcases handle_build session description with ⟨refusal, same⟩ | ⟨builder, -, same⟩
    · rw [same] at done
      cases done
    · rw [same] at done ⊢
      rcases build_outcome steady tidy description.agent builder with
        ⟨-, failed⟩ | ⟨agent, joined, joins, -, releases, -⟩
      · rw [failed] at done
        cases done
      · have length := releases.length
        obtain ⟨broker, view, -⟩ := joins.view
        rw [view] at length
        simp only [Network.view, List.length_map, List.length_append, List.length_singleton] at length
        rw [length, new]
        exact Nat.lt_succ_self _
  | _ => cases succeeds

end Session

/-! ## Moves -/

/-- Whether a move begins a connect that goes on in the background. -/
def Move.begins : Move → Bool
  | .request (.startConnect _ _ _) => true
  | _ => false

namespace Traffic

variable {traffic : Traffic} {move : Move} {moves : List Move} {index : Nat} {later : Standing}
  {sort : Traffic → Move → Prop} {property : Traffic → List Move → Prop}

/-- Whether a move brings the agent at a place to connect, which one of background work does not if no connect goes on
in the background. -/
def Succeeds (traffic : Traffic) (index : Nat) : Move → Prop
  | .request request => traffic.session.cleared.Succeeds index request
  | .work => False

/-- Whether a move is to connect the agent at a place, and fails. -/
def Fails (traffic : Traffic) (index : Nat) : Move → Prop
  | .request request => traffic.session.cleared.Fails index request
  | .work => False

/-- Whether all connections are cut in a move, on request or by a callback. -/
def cuts (traffic : Traffic) : Move → Bool
  | .request request => request.cuts
  | .work => (traffic.occurrences .work).any Occurrence.cuts

theorem upholds_work (tidy : traffic.session.network.Tidy) :
    traffic.session.network.Upholds (fun _ ↦ False) (traffic.cuts .work) (traffic.move .work).session.network := by
  have works := (⟨traffic.session.network, []⟩ : Journal).network_tick?
  unfold cuts occurrences
  cases ticks : (⟨traffic.session.network, []⟩ : Journal).tick? with
  | none =>
    rw [ticks] at works
    have same : traffic.move .work = traffic := work_of_settled works.symm
    rw [same]
    exact .refl traffic.session.network
  | some journal =>
    rw [ticks] at works
    have same : (traffic.move .work).session = { traffic.session with network := journal.network } :=
      session_work works.symm
    rw [same]
    obtain ⟨added, entries, upholds⟩ := Journal.upholds_tick? tidy ticks
    obtain rfl : journal.entries = added := entries
    exact upholds

theorem tidy_move (sound : traffic.Sound) (tidy : traffic.session.network.Tidy) (alone : move.begins = false) :
    (traffic.move move).session.network.Tidy := by
  cases move with
  | request request =>
    refine Session.tidy_handle sound.steady.cleared ⟨tidy.alone, tidy.left⟩ request ?_
    rintro agent ticket overrides rfl
    cases alone
  | work => exact tidy.upholds (upholds_work tidy)

/-- What becomes of an agent in a move. -/
theorem fate_move (sound : traffic.Sound) (tidy : traffic.session.network.Tidy) (alone : move.begins = false)
    (h : (traffic.move move).session.network.view.agents[index]? = some later) (held : later.held) :
    traffic.session.network.Fate (traffic.move move).session.network index later (traffic.Succeeds index move)
      (traffic.Disconnects index move ∨ traffic.Fails index move) (traffic.cuts move) := by
  cases move with
  | request request =>
    have fate := Session.fate_handle sound.steady.cleared ⟨tidy.alone, tidy.left⟩ request
      (by rintro agent ticket overrides rfl; cases alone) h held
    cases fate with
    | connected succeeded online => exact .connected succeeded online
    | ended not ended state => exact .ended not ended state
    | joined not stays new initial => exact .joined not stays new initial
    | kept not stays standing h held untroubled => exact .kept not stays standing h held untroubled
  | work => exact .of_upholds (upholds_work tidy) h held id id (or_self_iff.1 ·)

theorem lt_of_succeeds (sound : traffic.Sound) (tidy : traffic.session.network.Tidy)
    (succeeds : traffic.Succeeds index move) : index < (traffic.move move).session.network.agents.length := by
  cases move with
  | request request => exact Session.lt_of_succeeds sound.steady.cleared ⟨tidy.alone, tidy.left⟩ succeeds
  | work => cases succeeds

/-! ## Runs -/

theorem ever_concat :
    traffic.Ever sort (moves ++ [move]) ↔ traffic.Ever sort moves ∨ sort (traffic.run moves) move := by
  constructor
  · intro ever
    by_contra neither
    exact not_ever_concat (fun ever ↦ neither (.inl ever)) (fun last ↦ neither (.inr last)) ever
  · rintro (⟨before, made, after, rfl, h⟩ | last)
    · exact ⟨before, made, after ++ [move], by simp, h⟩
    · exact ⟨moves, move, [], rfl, last⟩

theorem not_ever_nil : ¬traffic.Ever sort [] :=
  fun ⟨_, _, _, same, _⟩ ↦ by simp at same

/-- Whether there is a last move of a sort, and what comes after it has a property. -/
def SinceLast (sort : Traffic → Move → Prop) (property : Traffic → List Move → Prop) (traffic : Traffic)
    (moves : List Move) : Prop :=
  ∃ before move after, moves = before ++ move :: after ∧ sort (traffic.run before) move ∧
    ¬((traffic.run before).move move).Ever sort after ∧ property ((traffic.run before).move move) after

/-- Another move is the last of its sort, or it comes after the last. -/
theorem sinceLast_concat : traffic.SinceLast sort property (moves ++ [move]) ↔
    sort (traffic.run moves) move ∧ property ((traffic.run moves).move move) [] ∨
    ¬sort (traffic.run moves) move ∧
      traffic.SinceLast sort (fun traffic after ↦ property traffic (after ++ [move])) moves := by
  constructor
  · rintro ⟨before, made, after, same, h, never, holds⟩
    rcases List.eq_nil_or_concat' after with rfl | ⟨rest, last, rfl⟩
    · obtain ⟨rfl, last⟩ := List.append_inj' same rfl
      obtain rfl := List.singleton_inj.1 last
      exact .inl ⟨h, holds⟩
    · rw [← List.cons_append, ← List.append_assoc] at same
      obtain ⟨rfl, last⟩ := List.append_inj' same rfl
      obtain rfl := List.singleton_inj.1 last
      rw [ever_concat, not_or] at never
      refine .inr ⟨?_, before, made, rest, rfl, h, never.1, holds⟩
      simpa [run] using never.2
  · rintro (⟨h, holds⟩ | ⟨not, before, made, after, rfl, h, never, holds⟩)
    · exact ⟨moves, move, [], rfl, h, not_ever_nil, holds⟩
    · refine ⟨before, made, after ++ [move], by simp, h, ?_, holds⟩
      rw [ever_concat, not_or]
      exact ⟨never, by simpa [run] using not⟩

theorem run_split (traffic : Traffic) (before : List Move) (move : Move) (after : List Move) :
    traffic.run (before ++ move :: after) = ((traffic.run before).move move).run after := by
  simp [run]

/-- Whether a connect of the agent at a place has succeeded, and nothing since the last that did has ended a
connection: no disconnect, no cut of all connections and no connect that failed. -/
def Unbroken (index : Nat) (moves : List Move) : Prop :=
  fresh.SinceLast (fun traffic ↦ traffic.Succeeds index)
    (fun traffic after ↦ ¬traffic.Ever (fun traffic ↦ traffic.Disconnects index) after ∧
      ¬traffic.Ever (fun traffic move ↦ traffic.cuts move) after ∧
      ¬traffic.Ever (fun traffic ↦ traffic.Fails index) after) moves

/-- Whether a connect of the agent at a place has succeeded, and all connections were cut since the last that did, but
there was neither a disconnect nor a connect that failed. -/
def Severed (index : Nat) (moves : List Move) : Prop :=
  fresh.SinceLast (fun traffic ↦ traffic.Succeeds index)
    (fun traffic after ↦ traffic.Ever (fun traffic move ↦ traffic.cuts move) after ∧
      ¬traffic.Ever (fun traffic ↦ traffic.Disconnects index) after ∧
      ¬traffic.Ever (fun traffic ↦ traffic.Fails index) after) moves

theorem unbroken_concat : Unbroken index (moves ++ [move]) ↔ (fresh.run moves).Succeeds index move ∨
    Unbroken index moves ∧ ¬(fresh.run moves).Disconnects index move ∧ ¬(fresh.run moves).cuts move ∧
      ¬(fresh.run moves).Fails index move := by
  unfold Unbroken
  rw [sinceLast_concat]
  constructor
  · rintro (⟨succeeds, -⟩ | ⟨-, before, made, after, rfl, h, never, disconnects, cuts, fails⟩)
    · exact .inl succeeds
    · rw [ever_concat, not_or, ← run_split] at disconnects cuts fails
      exact .inr ⟨⟨before, made, after, rfl, h, never, disconnects.1, cuts.1, fails.1⟩,
        disconnects.2, cuts.2, fails.2⟩
  · intro unbroken
    by_cases succeeds : (fresh.run moves).Succeeds index move
    · exact .inl ⟨succeeds, not_ever_nil, not_ever_nil, not_ever_nil⟩
    · obtain ⟨⟨before, made, after, rfl, h, never, disconnects, cuts, fails⟩, last⟩ :=
        unbroken.resolve_left succeeds
      refine .inr ⟨succeeds, before, made, after, rfl, h, never, ?_⟩
      simp only [ever_concat, not_or, ← run_split]
      exact ⟨⟨disconnects, last.1⟩, ⟨cuts, last.2.1⟩, fails, last.2.2⟩

theorem severed_concat : Severed index (moves ++ [move]) ↔ ¬(fresh.run moves).Succeeds index move ∧
    (Severed index moves ∨ Unbroken index moves ∧ (fresh.run moves).cuts move) ∧
      ¬(fresh.run moves).Disconnects index move ∧ ¬(fresh.run moves).Fails index move := by
  unfold Severed Unbroken
  rw [sinceLast_concat]
  constructor
  · rintro (⟨-, cuts, -⟩ | ⟨not, before, made, after, rfl, h, never, cuts, disconnects, fails⟩)
    · exact absurd cuts not_ever_nil
    · rw [ever_concat, ← run_split] at cuts
      rw [ever_concat, not_or, ← run_split] at disconnects fails
      refine ⟨not, ?_, disconnects.2, fails.2⟩
      by_cases earlier : ((fresh.run before).move made).Ever (fun traffic move ↦ traffic.cuts move) after
      · exact .inl ⟨before, made, after, rfl, h, never, earlier, disconnects.1, fails.1⟩
      · exact .inr ⟨⟨before, made, after, rfl, h, never, disconnects.1, earlier, fails.1⟩,
          cuts.resolve_left earlier⟩
  · rintro ⟨not, past, last⟩
    refine .inr ⟨not, ?_⟩
    rcases past with ⟨before, made, after, rfl, h, never, cuts, disconnects, fails⟩ |
      ⟨⟨before, made, after, rfl, h, never, disconnects, -, fails⟩, cuts⟩
    all_goals
      refine ⟨before, made, after, rfl, h, never, ?_⟩
      simp only [ever_concat, not_or, ← run_split]
    · exact ⟨.inl cuts, ⟨disconnects, last.1⟩, fails, last.2⟩
    · exact ⟨.inr cuts, ⟨disconnects, last.1⟩, fails, last.2⟩

/-! ## What the past tells -/

theorem tidy_run (moves : List Move) (alone : ∀ move ∈ moves, move.begins = false) :
    (fresh.run moves).session.network.Tidy := by
  induction moves using List.reverseRecOn with
  | nil => exact Network.tidy_fresh
  | append_singleton moves move ih =>
    rw [run_concat]
    have alone := List.forall_mem_append.1 alone
    exact tidy_move (sound_fresh.run moves) (ih alone.1) (alone.2 move (List.mem_singleton_self move))

theorem length_le_move (traffic : Traffic) (move : Move) :
    traffic.session.network.agents.length ≤ (traffic.move move).session.network.agents.length := by
  by_contra less
  have lt := Nat.lt_of_not_le less
  obtain ⟨later, hlater, -⟩ := (traffic.conducts_move move).kept _ _ (List.getElem?_eq_getElem lt)
  exact Nat.lt_irrefl _ (List.getElem?_eq_some_iff.1 hlater).1

/-- An agent that is not there has never connected. -/
theorem not_since_of_absent (moves : List Move) (alone : ∀ move ∈ moves, move.begins = false)
    (absent : (fresh.run moves).session.network.agents.length ≤ index) :
    ¬Unbroken index moves ∧ ¬Severed index moves := by
  induction moves using List.reverseRecOn with
  | nil => exact ⟨fun ⟨_, _, _, same, _⟩ ↦ by simp at same, fun ⟨_, _, _, same, _⟩ ↦ by simp at same⟩
  | append_singleton moves move ih =>
    rw [run_concat] at absent
    have alone := List.forall_mem_append.1 alone
    obtain ⟨unbroken, severed⟩ := ih alone.1 (Nat.le_trans (length_le_move _ move) absent)
    have never : ¬(fresh.run moves).Succeeds index move := fun succeeds ↦
      Nat.not_lt.2 absent (lt_of_succeeds (sound_fresh.run moves) (tidy_run moves alone.1) succeeds)
    rw [unbroken_concat, severed_concat]
    exact ⟨fun h ↦ h.elim never fun h ↦ unbroken h.1, fun h ↦ h.2.1.elim severed fun h ↦ unbroken h.1⟩

theorem told_by_run (moves : List Move) (alone : ∀ move ∈ moves, move.begins = false)
    (h : (fresh.run moves).session.network.view.agents[index]? = some later) (held : later.held) :
    (later.connection.isConnected (fresh.run moves).session.network.medium.broker.isLive ↔ Unbroken index moves) ∧
    (later.connection.state = .connected ∧
      ¬later.connection.isConnected (fresh.run moves).session.network.medium.broker.isLive ↔ Severed index moves) := by
  induction moves using List.reverseRecOn generalizing later with
  | nil => cases h
  | append_singleton moves move ih =>
    have alone := List.forall_mem_append.1 alone
    have sound := sound_fresh.run moves
    have tidy := tidy_run moves alone.1
    rw [run_concat] at h ⊢
    rw [unbroken_concat, severed_concat]
    cases fate_move sound tidy (alone.2 move (List.mem_singleton_self move)) h held with
    | connected succeeded online => simp [succeeded, online]
    | ended not ended state =>
      have offline : later.connection.isConnected
          ((fresh.run moves).move move).session.network.medium.broker.isLive = false := by
        simp [Connection.isConnected, state]
      rcases ended with disconnects | fails
      · simp [not, offline, state, disconnects]
      · simp [not, offline, state, fails]
    | joined not stays new initial =>
      have absent : (fresh.run moves).session.network.agents.length ≤ index := by
        simpa [Network.view] using new
      obtain ⟨unbroken, severed⟩ := not_since_of_absent moves alone.1 absent
      simp [not, unbroken, severed, initial, Connection.initial, Connection.isConnected]
    | kept not stays standing hstanding held' untroubled =>
      obtain ⟨connected, lost⟩ := ih alone.1 hstanding held'
      rw [untroubled.isConnected fun handle has ↦ sound.steady.network.sound.handle_lt hstanding has,
        untroubled.connection, ← connected, ← lost]
      have stays := not_or.1 stays
      by_cases online : standing.connection.isConnected (fresh.run moves).session.network.medium.broker.isLive
      · have state : standing.connection.state = .connected := by
          simp only [Connection.isConnected, Bool.and_eq_true, decide_eq_true_eq] at online
          exact online.1
        cases (fresh.run moves).cuts move <;> simp [not, stays, online, state]
      · cases (fresh.run moves).cuts move <;> simp [not, stays, online]

end Traffic

/-- As long as no connect goes on in the background, an agent that is held and uses the broker's own transport is
connected if and only if one of its connects has succeeded, and since the last that did there was no disconnect, no cut
of all connections and no connect that failed. It calls itself connected without being so if and only if since then all
connections were cut, and it neither disconnected nor failed to connect. -/
theorem connectedness_of_history (moves : List Move) (alone : ∀ move ∈ moves, move.begins = false) (index : Nat)
    (agent : Agent) (h : (Traffic.fresh.run moves).session.network.agents[index]? = some agent) (held : agent.held)
    (plain : agent.transport = .plain) :
    (agent.isConnected (Traffic.fresh.run moves).session.network.medium ↔ Traffic.Unbroken index moves) ∧
    (agent.connection.state = .connected ∧ ¬agent.isConnected (Traffic.fresh.run moves).session.network.medium ↔
      Traffic.Severed index moves) := by
  have standing : (Traffic.fresh.run moves).session.network.view.agents[index]? = some agent.standing := by
    simp [Network.view, h]
  have live : (Traffic.fresh.run moves).session.network.medium.isLive agent.transport =
      (Traffic.fresh.run moves).session.network.medium.broker.isLive := by
    funext connection
    rw [plain, Medium.isLive_plain]
  unfold Agent.isConnected
  rw [live]
  exact Traffic.told_by_run moves alone standing held

/-- An agent is connected. A cut leaves it with a connection that it calls connected, and connects help only once the
broker is there again: a connect that fails is noticed, and one that succeeds makes good for all before it. -/
theorem connectedness_of_history_cut : ∃ connects cut fails mends : List Move,
    Traffic.Unbroken 0 connects ∧ Traffic.Severed 0 (connects ++ cut) ∧
    (¬Traffic.Unbroken 0 (connects ++ cut ++ fails) ∧ ¬Traffic.Severed 0 (connects ++ cut ++ fails)) ∧
    Traffic.Unbroken 0 (connects ++ cut ++ fails ++ mends) := by
  let connect : Move := .request (.connect "agent" .none)
  let connects : List Move :=
    [.request (.build ⟨"agent", "role", none, none, none, .none, some true, none, .plain⟩), .work, connect]
  let cut : List Move := [.request .silenceAll, .work]
  let fails : List Move := [.request (.setAvailable false), connect]
  let mends : List Move := [.request (.setAvailable true), connect, .work]
  have told (moves : List Move) (alone : ∀ move ∈ moves, move.begins = false) (state : ConnectionState)
      (connected : Bool)
      (looks : (Traffic.fresh.run moves).session.network.agents[0]?.map (fun agent ↦ (agent.held, agent.transport,
        agent.connection.state, agent.isConnected (Traffic.fresh.run moves).session.network.medium)) =
          some (true, .plain, state, connected)) :
      (connected = true ↔ Traffic.Unbroken 0 moves) ∧
        (state = .connected ∧ ¬connected = true ↔ Traffic.Severed 0 moves) := by
    obtain ⟨agent, h, same⟩ := Option.map_eq_some_iff.1 looks
    simp only [Prod.mk.injEq] at same
    obtain ⟨held, plain, rfl, rfl⟩ := same
    exact connectedness_of_history moves alone 0 agent h held plain
  have first := told connects (by decide) .connected true (by decide +kernel)
  have second := told (connects ++ cut) (by decide) .connected false (by decide +kernel)
  have third := told (connects ++ cut ++ fails) (by decide) .errored false (by decide +kernel)
  have fourth := told (connects ++ cut ++ fails ++ mends) (by decide) .connected true (by decide +kernel)
  refine ⟨connects, cut, fails, mends, first.1.1 rfl, second.2.1 ⟨rfl, Bool.false_ne_true⟩, ⟨?_, ?_⟩, fourth.1.1 rfl⟩
  · exact fun unbroken ↦ Bool.false_ne_true (third.1.2 unbroken)
  · exact fun severed ↦ absurd (third.2.2 severed).1 (by decide)

end PubSub
