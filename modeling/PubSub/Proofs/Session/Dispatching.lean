import PubSub.Proofs.Agent.Service
import PubSub.Proofs.Network.Delivery
import PubSub.Proofs.Session.Silence
/-!
# One dispatcher at a time

The dispatcher of an agent reads the connection that the agent's last connect to succeed has brought. It is stopped when
the agent disconnects or falls out of use. From then on, and until another connect succeeds, nothing is brought to the
receivers of the agent. A connect that is refused, fails or was overtaken does nothing of the sort: the agent goes on
with the dispatcher that it has, and subscribes nothing.
-/

namespace PubSub

/-- A step of background work brings something to the receivers of that agent only whose dispatcher it belongs to. -/
theorem Journal.reads_of_tick? {journal next : Journal} {id : ReceiverId} (h : journal.tick? = some next)
    (new : next.entriesOf id ≠ journal.entriesOf id) : ∃ connection, journal.network.Reads id.agent connection := by
  unfold tick? at h
  split at h
  · rename_i index source rest ready
    obtain rfl := Option.some.inj h
    unfold lookInside at new
    split at new
    · exact absurd rfl new
    · rename_i agent hagent
      split at new
      · rename_i reads
        obtain ⟨dispatcher, hdispatcher, reads⟩ := (Option.any_eq_true _ _).1 reads
        split at new
        · exact absurd rfl new
        · by_cases own : id.agent = index
          · refine ⟨source, agent, dispatcher.phase, own ▸ hagent, ?_⟩
            rw [hdispatcher, ← Network.eq_of_reads reads]
          · refine absurd (entriesOf_offerEach_of_not_mem fun same ↦ absurd same own) new
      · exact absurd rfl new
  · obtain ⟨network, -, rfl⟩ := Option.map_eq_some_iff.1 h
    exact absurd rfl new

namespace Traffic

variable {traffic : Traffic} {move : Move} {index : Nat} {agent : Agent} {connection : ConnectionId}

/-! ## What happens in a move -/

/-- The network that a move finds. -/
def start (traffic : Traffic) : Move → Network
  | .request _ => traffic.session.cleared.network
  | .work => traffic.session.network

/-- What is observed in a move. -/
def observed (traffic : Traffic) (move : Move) : List Observation :=
  (traffic.move move).session.network.medium.observations.drop (traffic.start move).medium.observations.length

/-- What a move brings to receivers. That is done by the background work alone. -/
def occurrences (traffic : Traffic) : Move → List Occurrence
  | .request _ => []
  | .work => ((⟨traffic.session.network, []⟩ : Journal).tick?.map Journal.entries).getD []

/-- What moves bring to receivers, one after the other. -/
def happenings (traffic : Traffic) : List Move → List Occurrence
  | [] => []
  | move :: rest => traffic.occurrences move ++ (traffic.move move).happenings rest

/-- Whether a move is, or goes on with, a connect of the agent at a place. -/
def Tries (traffic : Traffic) (index : Nat) : Move → Prop
  | .request (.connect label _) => traffic.session.agents.get? label = some index
  | .request _ => False
  | .work => traffic.session.network.Carries index

theorem reads_of_occurrence {occurrence : Occurrence} (h : occurrence ∈ traffic.occurrences move) :
    ∃ connection, traffic.session.network.Reads occurrence.receiver.agent connection := by
  cases move with
  | request request => cases h
  | work =>
    cases ticks : (⟨traffic.session.network, []⟩ : Journal).tick? with
    | none => simp [occurrences, ticks] at h
    | some journal =>
      have entry : occurrence ∈ journal.entries := by simpa [occurrences, ticks] using h
      have own : occurrence ∈ journal.entriesOf occurrence.receiver := List.mem_filter.2 ⟨entry, by simp⟩
      refine Journal.reads_of_tick? ticks ?_
      exact List.ne_nil_of_mem own

/-- No request reports a callback or answers a wait. -/
theorem hushed_request (traffic : Traffic) (request : Request) :
    traffic.session.cleared.network.Hushed (traffic.move (.request request)).session.network :=
  Session.hushed_handle traffic.session.cleared request

/-- An agent that falls out of use reads nothing then. -/
theorem frees_move (traffic : Traffic) (move : Move) :
    traffic.session.network.Frees (traffic.move move).session.network := by
  cases move with
  | request request => exact (traffic.hushed_request request).frees
  | work =>
    cases h : traffic.session.network.tick? with
    | none =>
      have same : traffic.move .work = traffic := work_of_settled h
      rw [same]
      exact .of_usage rfl
    | some network =>
      have same : (traffic.move .work).session = { traffic.session with network } := session_work h
      rw [same]
      exact Network.frees_tick? h

/-! ## Connects -/

theorem handle_connect_of_error {session : Session} {label : String} {refusal : Refusal}
    (h : session.findAgent label = .error refusal) (overrides : BrokerOverrides) :
    session.handle (.connect label overrides) = (session, .error refusal) := by
  have asked : session.handle (.connect label overrides) = session.attempt (session.findAgent label >>= _) := rfl
  rw [asked, h]
  rfl

/-- A connect that was requested and has failed has no fruit. -/
theorem fruitless_connect {session : Session} {label : String} {overrides : BrokerOverrides}
    (known : session.agents.get? label = some index)
    (failed : (session.handle (.connect label overrides)).2.isOk = false) :
    session.network.Fruitless index (session.handle (.connect label overrides)).1.network := by
  cases hfind : session.findAgent label with
  | error refusal =>
    rw [handle_connect_of_error hfind]
    exact ⟨by simp, .refl _, fun _ reads ↦ reads, fun _ _ reads ↦ reads⟩
  | ok found =>
    obtain ⟨place, agent⟩ := found
    obtain rfl : index = place := Option.some.inj (known.symm.trans (Session.get?_of_findAgent hfind))
    rw [Session.handle_connect hfind] at failed ⊢
    rw [Session.isOk_onAgent] at failed
    have same : (agent.connect session.network.medium overrides).2.1.dispatcher = agent.dispatcher := by
      rcases Agent.dispatcher_connect session.network.medium agent overrides with ⟨-, same⟩ | ⟨handle, -, done, -⟩
      · exact same
      · rw [done] at failed
        cases failed
    exact Network.fruitless_onAgent (Session.findAgent_eq_ok hfind) (fun medium agent ↦ agent.connect medium overrides)
      (Agent.logs_connect _ _ _ rfl (fun _ _ ↦ rfl) (by simp [failed])) (Agent.narrows_connect failed) same

/-- A step of a connect brings it to success, and then the agent reads a new connection if it reads any; or it has no
fruit. -/
theorem tries_cases (tries : traffic.Tries index move) :
    traffic.Connects index move ∧ (∀ connection, (traffic.move move).session.network.Reads index connection →
      traffic.session.network.medium.broker.clients.length ≤ connection) ∨
    ¬traffic.Connects index move ∧ (traffic.start move).Fruitless index (traffic.move move).session.network := by
  cases move with
  | work =>
    have carries : traffic.session.network.Carries index := tries
    obtain ⟨number, attempt, head, -⟩ := carries
    cases h : traffic.session.network.tick? with
    | none =>
      rw [Network.tick?_eq_none_iff.1 h] at head
      cases head
    | some network =>
      have same : (traffic.move .work).session = { traffic.session with network } := session_work h
      rw [same]
      exact Network.carries_cases h tries
  | request request =>
    cases request with
    | connect label overrides =>
      have known : traffic.session.cleared.agents.get? label = some index := tries
      cases done : (traffic.session.cleared.handle (.connect label overrides)).2.isOk with
      | false =>
        refine .inr ⟨fun connects ↦ ?_, fruitless_connect known done⟩
        have ok := connects.2
        rw [done] at ok
        cases ok
      | true =>
        refine .inl ⟨⟨known, done⟩, fun connection reads ↦ ?_⟩
        cases hfind : traffic.session.cleared.findAgent label with
        | error refusal =>
          rw [handle_connect_of_error hfind] at done
          cases done
        | ok found =>
          obtain ⟨place, agent⟩ := found
          obtain rfl : index = place := Option.some.inj (known.symm.trans (Session.get?_of_findAgent hfind))
          by_contra lt
          have failed := (reads_connect hfind (Nat.lt_of_not_le lt)).1 reads
          rw [done] at failed
          cases failed.1
    | _ => cases tries

theorem tries_of_connects (connects : traffic.Connects index move) : traffic.Tries index move := by
  cases move with
  | work =>
    obtain ⟨after, number, attempt, -, head, started, own, -⟩ := connects
    exact ⟨number, attempt, head, started, own⟩
  | request request =>
    cases request with
    | connect label overrides => exact connects.1
    | _ => cases connects

/-- An agent that a connect has just succeeded for reads a new connection, if it reads any. -/
theorem le_of_connects (connects : traffic.Connects index move)
    (reads : (traffic.move move).session.network.Reads index connection) :
    traffic.session.network.medium.broker.clients.length ≤ connection := by
  rcases tries_cases (tries_of_connects connects) with ⟨-, new⟩ | ⟨failed, -⟩
  · exact new connection reads
  · exact absurd connects failed

/-! ## Runs -/

/-- Only a move that brings a connect of the agent to success lets it read another connection. -/
theorem reads_of_move (h : traffic.session.network.agents[index]? = some agent) (idle : ¬traffic.Connects index move)
    (reads : (traffic.move move).session.network.Reads index connection) :
    traffic.session.network.Reads index connection := by
  obtain ⟨later, hlater, conduct⟩ := (traffic.conducts_move move).kept index agent h
  obtain ⟨phase, own⟩ := (Network.reads_iff hlater).1 reads
  have source : later.source? = some connection := congrArg (Option.map Dispatcher.source) own
  rcases conduct.source?_eq idle with same | stopped
  · rw [same] at source
    obtain ⟨dispatcher, hdispatcher, rfl⟩ := Option.map_eq_some_iff.1 source
    exact ⟨agent, dispatcher.phase, h, hdispatcher⟩
  · rw [stopped] at source
    cases source

theorem run_concat (traffic : Traffic) (moves : List Move) (move : Move) :
    traffic.run (moves ++ [move]) = (traffic.run moves).move move := by
  simp [run]

theorem not_ever_concat {sort : Traffic → Move → Prop} {moves : List Move} (never : ¬traffic.Ever sort moves)
    (not : ¬sort (traffic.run moves) move) : ¬traffic.Ever sort (moves ++ [move]) := by
  rintro ⟨before, made, after, same, h⟩
  rcases List.eq_nil_or_concat' after with rfl | ⟨rest, last, rfl⟩
  · obtain ⟨rfl, last⟩ := List.append_inj' same rfl
    obtain rfl := List.singleton_inj.1 last
    exact not h
  · refine never ⟨before, made, rest, ?_, h⟩
    rw [← List.cons_append, ← List.append_assoc] at same
    exact (List.append_inj' same rfl).1

/-- Whether a connection is the one that the agent at a place was given in the last of the moves in which it connected,
which may be the one in which it was built. -/
def LastGiven (moves : List Move) (index : Nat) (connection : ConnectionId) : Prop :=
  ∃ before move after, moves = before ++ move :: after ∧
    ((fresh.run before).Connects index move ∨ (fresh.run before).session.network.agents[index]? = none) ∧
    ¬((fresh.run before).move move).Ever (fun traffic ↦ traffic.Connects index) after ∧
    (fresh.run before).session.network.medium.broker.clients.length ≤ connection ∧
    ((fresh.run before).move move).session.network.Reads index connection

/-- What an agent reads, it was given when it last connected. -/
theorem lastGiven_of_reads (moves : List Move) (reads : (fresh.run moves).session.network.Reads index connection) :
    LastGiven moves index connection := by
  induction moves using List.reverseRecOn with
  | nil =>
    obtain ⟨agent, phase, hagent, -⟩ := reads
    cases hagent
  | append_singleton moves move ih =>
    rw [run_concat] at reads
    have sound := sound_fresh.run moves
    have given (connects : (fresh.run moves).Connects index move ∨
          (fresh.run moves).session.network.agents[index]? = none)
        (new : (fresh.run moves).session.network.medium.broker.clients.length ≤ connection) :
        LastGiven (moves ++ [move]) index connection := by
      refine ⟨moves, move, [], rfl, connects, ?_, new, reads⟩
      rintro ⟨before, made, after, none, -⟩
      exact absurd none (by simp)
    cases h : (fresh.run moves).session.network.agents[index]? with
    | none =>
      rcases (sound.passes move).reads index connection reads with ⟨agent, phase, hagent, -⟩ | new
      · rw [h] at hagent
        cases hagent
      · exact given (.inr h) new
    | some agent =>
      by_cases connects : (fresh.run moves).Connects index move
      · exact given (.inl connects) (le_of_connects connects reads)
      · obtain ⟨before, made, after, rfl, gave, never, new, read⟩ := ih (reads_of_move h connects reads)
        refine ⟨before, made, after ++ [move], by simp, gave, not_ever_concat never ?_, new, read⟩
        have same : fresh.run (before ++ made :: after) = ((fresh.run before).move made).run after := by simp [run]
        rw [same] at connects
        exact connects

/-- An agent that reads nothing is brought nothing, and goes on to read nothing, until it connects. -/
theorem silent_run (h : traffic.session.network.agents[index]? = some agent)
    (unread : ∀ connection, ¬traffic.session.network.Reads index connection) (later : List Move)
    (never : ¬traffic.Ever (fun traffic ↦ traffic.Connects index) later) :
    (∀ connection, ¬(traffic.run later).session.network.Reads index connection) ∧
      ∀ occurrence ∈ traffic.happenings later, occurrence.receiver.agent ≠ index := by
  induction later generalizing traffic agent with
  | nil => exact ⟨unread, by simp [happenings]⟩
  | cons move rest ih =>
    have idle : ¬traffic.Connects index move := fun connects ↦ never ⟨[], move, rest, rfl, connects⟩
    obtain ⟨later, hlater, -⟩ := (traffic.conducts_move move).kept index agent h
    have unread' (connection : ConnectionId) : ¬(traffic.move move).session.network.Reads index connection :=
      fun reads ↦ unread connection (reads_of_move h idle reads)
    obtain ⟨last, rest'⟩ := ih hlater unread' fun ever ↦ never (ever.cons move)
    refine ⟨last, fun occurrence hmem ↦ ?_⟩
    rcases List.mem_append.1 hmem with first | others
    · rintro rfl
      obtain ⟨connection, reads⟩ := reads_of_occurrence first
      exact unread connection reads
    · exact rest' occurrence others

/-- What holds of the dispatcher of the agent at a place after moves of a fresh session. -/
structure Dispatches (moves : List Move) (index : Nat) : Prop where
  /-- It reads one connection at most, the one that the agent was given when it last connected. -/
  latest : ∀ connection, (fresh.run moves).session.network.Reads index connection →
    LastGiven moves index connection ∧
    ∀ other, (fresh.run moves).session.network.Reads index other → other = connection
  /-- A disconnect stops it. -/
  disconnected : ∀ label agent connection, (fresh.run moves).session.findAgent label = .ok (index, agent) →
    ¬((fresh.run moves).move (.request (.disconnect label))).session.network.Reads index connection
  /-- So does every move by which the agent falls out of use. -/
  freed : ∀ move connection, (fresh.run moves).session.network.InUse index →
    ¬((fresh.run moves).move move).session.network.InUse index →
    ¬((fresh.run moves).move move).session.network.Reads index connection
  /-- While there is none, and until the agent connects, nothing is brought to the receivers of the agent. -/
  silent : ∀ agent, (fresh.run moves).session.network.agents[index]? = some agent →
    (∀ connection, ¬(fresh.run moves).session.network.Reads index connection) →
    ∀ later, ¬(fresh.run moves).Ever (fun traffic ↦ traffic.Connects index) later →
      ∀ occurrence ∈ (fresh.run moves).happenings later, occurrence.receiver.agent ≠ index
  /-- A connect that does not succeed starts and stops none, and subscribes nothing. -/
  fruitless : ∀ move, (fresh.run moves).Tries index move → ¬(fresh.run moves).Connects index move →
    ((fresh.run moves).start move).Fruitless index ((fresh.run moves).move move).session.network
  /-- No request runs a callback: none is reported, and no wait is answered. -/
  requests : ∀ request, (∀ label event, .event label event ∉ (fresh.run moves).observed (.request request)) ∧
    (fresh.run moves).session.network.replies <+:
      ((fresh.run moves).move (.request request)).session.network.replies

theorem dispatches (moves : List Move) (index : Nat) : Dispatches moves index where
  latest connection reads :=
    ⟨lastGiven_of_reads moves reads, fun other reads' ↦ reads'.unique reads⟩
  disconnected _ _ _ h := not_reads_disconnect h
  freed move connection used unused := ((frees_move _ move index used).resolve_left unused) connection
  silent _ h unread later never := (silent_run h unread later never).2
  fruitless move tries failed := ((tries_cases tries).resolve_left fun succeeds ↦ failed succeeds.1).2
  requests request := by
    have hushed := (fresh.run moves).hushed_request request
    exact ⟨fun label event hmem ↦ hushed.logs.mem_drop hmem, hushed.replies⟩

end Traffic

/-- An agent has one dispatcher at a time. However its connects, disconnects and end overlap, of all dispatchers that it
has ever started the one of its last connect alone may run; and whatever a session does, messages come to the receivers
of the agent through that one only. -/
theorem one_dispatcher :
    (∀ (options : BrokerOptions) (moves : List Service.Move) (service : Service),
      (Service.initial options).run? moves = some service → Service.Lawful moves service) ∧
    ∀ (moves : List Move) (index : Nat), Traffic.Dispatches moves index :=
  ⟨fun _ _ _ run ↦ Service.lawful_of_run? run, Traffic.dispatches⟩

/-- A connection is lost, the first connect that is to replace it fails, and the second one succeeds: the old dispatcher
has gone on until then, and the new one is the one that runs. After a disconnect a message comes to nobody. -/
theorem one_dispatcher_replaced :
    (∃ (moves : List Service.Move) (service : Service), (Service.initial .tcp).run? moves = some service ∧
      service.runners.map Runner.stopped = [true, false] ∧ service.handled.map Prod.fst = [0, 0, 1] ∧
      service.running.map Runner.origin = [(2, 1)]) ∧
    ∃ lost replaced later : List Move,
      (Traffic.fresh.run lost).session.network.Reads 0 0 ∧
      Traffic.LastGiven (lost ++ replaced) 0 1 ∧
      ((Traffic.fresh.run (lost ++ replaced)).happenings later).any (fun occurrence ↦ occurrence.receiver.agent = 0) ∧
      ∀ occurrence ∈ ((Traffic.fresh.run (lost ++ replaced ++ [.request (.disconnect "agent")])).happenings later),
        occurrence.receiver.agent ≠ 0 := by
  constructor
  · let message : Message := ⟨"speed", [1]⟩
    let moves : List Service.Move := [
      .connection (.connect .none fun _ ↦ true), .connection (.answered 0 (.ok 0)), .subscribe 0 fun _ ↦ true,
      .look 0 message, .connection (.connect .none fun _ ↦ false), .connection (.replaced 1),
      .connection (.answered 1 (.error "unreachable")), .look 0 message,
      .connection (.connect .none fun _ ↦ false), .connection (.answered 2 (.ok 1)), .look 0 message, .look 1 message]
    obtain ⟨service, run⟩ : ∃ service, (Service.initial .tcp).run? moves = some service :=
      Option.isSome_iff_exists.1 (by decide +kernel)
    have ends : ((Service.initial .tcp).run? moves).map (fun service ↦ (service.runners.map Runner.stopped,
        service.handled.map Prod.fst, service.lifecycle.connects (Lifecycle.sinceRelease (Service.connectionMoves moves)))) =
          some ([true, false], [0, 0, 1], [(0, 0), (2, 1)]) := by decide +kernel
    rw [run, Option.map_some, Option.some.injEq, Prod.mk.injEq, Prod.mk.injEq] at ends
    have lawful := one_dispatcher.1 .tcp moves service run
    refine ⟨moves, service, run, ends.1, ends.2.1, ?_⟩
    rw [lawful.running, ends.2.2]
    rfl
  · let publish : Move := .request (.publish "speed" (.ok [7]) false 1)
    let lost : List Move := [
      .request (.build ⟨"agent", "role", none, none, none, .none, some true, none, .plain⟩), .work,
      .request (.createReceiver
        ⟨"agent", "all", .u32, "all", { ChannelOptions.none with overrideTopic := some "#" }, none⟩),
      .request (.register "all" ⟨false, .scripted "all" []⟩), .request .silenceAll, .request (.setAvailable false),
      .request (.connect "agent" .none), .work]
    let replaced : List Move := [.request (.setAvailable true), .request (.connect "agent" .none), .work, .work]
    let stop : Move := .request (.disconnect "agent")
    let later : List Move := [publish, .work]
    have dispatches := one_dispatcher.2 (lost ++ replaced) 0
    have dispatches' := one_dispatcher.2 (lost ++ replaced ++ [stop]) 0
    have reads : (Traffic.fresh.run (lost ++ replaced)).session.network.Reads 0 1 := by decide +kernel
    have unread (connection : ConnectionId) :
        ¬(Traffic.fresh.run (lost ++ replaced ++ [stop])).session.network.Reads 0 connection := by
      have found :
          ((Traffic.fresh.run (lost ++ replaced)).session.findAgent "agent").toOption.map Prod.fst = some 0 := by
        decide +kernel
      rw [Traffic.run_concat]
      cases h : (Traffic.fresh.run (lost ++ replaced)).session.findAgent "agent" with
      | error refusal =>
        rw [h] at found
        cases found
      | ok place =>
        obtain ⟨index, agent⟩ := place
        rw [h] at found
        obtain rfl : index = 0 := Option.some.inj found
        exact dispatches.disconnected "agent" agent connection h
    have publishes (traffic : Traffic) : ¬traffic.Tries 0 publish := fun tries ↦ tries
    have works (traffic : Traffic) (none : traffic.session.network.attempts = []) : ¬traffic.Tries 0 .work := by
      rintro ⟨number, attempt, -, started, -⟩
      rw [none] at started
      cases started
    have none : ((Traffic.fresh.run (lost ++ replaced ++ [stop])).run [publish]).session.network.attempts = [] := by
      decide +kernel
    have never : ¬(Traffic.fresh.run (lost ++ replaced ++ [stop])).Ever (fun traffic ↦ traffic.Connects 0) later := by
      rintro ⟨before, move, after, same, connects⟩
      have tries := Traffic.tries_of_connects connects
      rcases before with _ | ⟨first, _ | ⟨second, rest⟩⟩
      · obtain ⟨rfl, -⟩ := List.cons.inj same
        exact publishes _ tries
      · obtain ⟨rfl, -⟩ := List.cons.inj (List.cons.inj same).2
        obtain ⟨rfl, -⟩ := List.cons.inj same
        exact works _ none tries
      · simp [later] at same
    obtain ⟨agent, h⟩ : ∃ agent,
        (Traffic.fresh.run (lost ++ replaced ++ [stop])).session.network.agents[0]? = some agent :=
      Option.isSome_iff_exists.1 (by decide +kernel)
    refine ⟨lost, replaced, later, by decide +kernel, (dispatches.latest 1 reads).1, by decide +kernel, ?_⟩
    exact dispatches'.silent agent h unread later never

end PubSub
