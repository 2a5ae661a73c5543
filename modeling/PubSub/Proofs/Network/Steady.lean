import PubSub.Proofs.Network.Links
/-!
# Steady networks

A network is steady if its links are sound and every dispatcher that has something to do is ready to do it. Every step
of background work keeps a network steady, whatever callbacks do meanwhile. So when no work is left, no dispatcher of a
live connection has missed a message.
-/

namespace PubSub.Network

variable {foreign left : ConnectionId → Prop} {network after : Network} {agent changed : Agent} {index : Nat}

/-! ## Waking -/

theorem schedule_eq (network : Network) (task : Task) :
    ∃ ready, network.schedule task = { network with ready } ∧ task ∈ ready ∧ network.ready ⊆ ready := by
  unfold schedule
  split
  · rename_i ready
    exact ⟨network.ready, rfl, by simpa using ready, fun _ h ↦ h⟩
  · exact ⟨network.ready ++ [task], rfl, by simp, fun _ h ↦ by simp [h]⟩

theorem foldl_schedule_eq (tasks : List Task) (network : Network) :
    ∃ ready, tasks.foldl schedule network = { network with ready } ∧ tasks ⊆ ready ∧ network.ready ⊆ ready := by
  induction tasks generalizing network with
  | nil => exact ⟨network.ready, rfl, by simp, fun _ h ↦ h⟩
  | cons task rest ih =>
    rcases schedule_eq network task with ⟨first, hfirst, hmem, hsubset⟩
    rcases ih { network with ready := first } with ⟨ready, hready, hrest, hsubset'⟩
    refine ⟨ready, ?_, ?_, fun _ h ↦ hsubset' (hsubset h)⟩
    · rw [List.foldl_cons, hfirst, hready]
    · intro other hother
      rcases List.mem_cons.1 hother with rfl | hother
      · exact hsubset' hmem
      · exact hrest hother

/-- Waking makes tasks ready and does nothing else. -/
theorem wake_eq (network : Network) : ∃ ready, network.wake = { network with ready } ∧ network.ready ⊆ ready ∧
    ∀ (index : Nat) (agent : Agent) (task : Task), network.agents[index]? = some agent →
      wakeUp? network.medium.broker index agent = some task → task ∈ ready := by
  unfold wake
  rcases foldl_schedule_eq (network.agents.zipIdx.filterMap fun entry ↦
    wakeUp? network.medium.broker entry.2 entry.1) network with ⟨ready, hready, htasks, hsubset⟩
  refine ⟨ready, hready, hsubset, fun index agent task h hwake ↦ htasks ?_⟩
  exact List.mem_filterMap.2 ⟨(agent, index), List.mem_zipIdx_iff_getElem?.2 h, hwake⟩

@[simp]
theorem medium_wake (network : Network) : network.wake.medium = network.medium := by
  rcases wake_eq network with ⟨ready, hwake, -⟩
  rw [hwake]

@[simp]
theorem medium_onMedium (network : Network) (operation : Medium → Medium) :
    (network.onMedium operation).medium = operation network.medium :=
  medium_wake _

/-- Every dispatcher that has something to do is ready to do it. -/
def Awake (network : Network) : Prop :=
  ∀ (index : Nat) (agent : Agent) (task : Task), network.agents[index]? = some agent →
    wakeUp? network.medium.broker index agent = some task → task ∈ network.ready

/-- All links are sound, and every dispatcher that has something to do is ready to do it. -/
structure Steady (foreign : ConnectionId → Prop) (network : Network) : Prop where
  sound : network.Sound foreign
  awake : network.Awake

theorem Closes.mono {connection : ConnectionId} (closes : network.Closes connection)
    (subset : network.ready ⊆ after.ready) : after.Closes connection :=
  closes.imp fun _ h ↦ subset h

theorem Sound.wake (sound : network.Sound foreign) : network.wake.Steady foreign := by
  rcases wake_eq network with ⟨ready, hwake, hsubset, hready⟩
  rw [hwake]
  exact ⟨sound.fades rfl (.refl _) fun _ _ closes ↦ closes.mono hsubset, hready⟩

theorem dispatcher_of_links (links : after.links = network.links) (h : after.agents[index]? = some changed) :
    ∃ agent, network.agents[index]? = some agent ∧ agent.dispatcher = changed.dispatcher := by
  have hlink := getElem?_links h
  rw [links, Network.links, List.getElem?_map] at hlink
  rcases Option.map_eq_some_iff.1 hlink with ⟨agent, hagent, hsame⟩
  exact ⟨agent, hagent, congrArg Link.dispatcher hsame⟩

theorem wakeUp?_congr {broker : Broker} (same : agent.dispatcher = changed.dispatcher) :
    wakeUp? broker index agent = wakeUp? broker index changed := by
  simp only [wakeUp?, same]

namespace Steady

/-- A steady network stays so while links and connections stay as they are. -/
theorem still (steady : network.Steady foreign) (links : after.links = network.links)
    (broker : after.medium.broker = network.medium.broker) (ready : network.ready ⊆ after.ready) :
    after.Steady foreign where
  sound := steady.sound.fades links (.of_clients (by rw [broker])) fun _ _ closes ↦ closes.mono ready
  awake := by
    intro index changed task h hwake
    rcases dispatcher_of_links links h with ⟨agent, hagent, same⟩
    rw [broker, ← wakeUp?_congr same] at hwake
    exact ready (steady.awake index agent task hagent hwake)

theorem narrow {others : ConnectionId → Prop} (steady : network.Steady foreign)
    (subset : ∀ connection, others connection → foreign connection)
    (rest : ∀ connection, foreign connection → network.medium.broker.isLive connection → others connection) :
    network.Steady others :=
  ⟨steady.sound.narrow subset rest, steady.awake⟩

theorem onMedium (steady : network.Steady foreign) {operation : Medium → Medium}
    (fades : network.medium.broker.Fades (operation network.medium).broker) :
    (network.onMedium operation).Steady foreign := by
  have faded : Sound foreign { network with medium := operation network.medium } :=
    steady.sound.fades rfl fades fun _ _ h ↦ h
  exact faded.wake

theorem onBroker (steady : network.Steady foreign) {operation : Broker → Broker}
    (fades : network.medium.broker.Fades (operation network.medium.broker)) :
    (network.onMedium fun medium ↦ medium.onBroker operation).Steady foreign := by
  apply steady.onMedium
  exact fades

end Steady

/-! ## Handlers -/

theorem links_modifyAgent {change : Agent → Agent} (same : ∀ agent : Agent, (change agent).link = agent.link)
    (network : Network) (index : Nat) : (network.modifyAgent index change).links = network.links := by
  apply List.ext_getElem?
  intro place
  simp only [links, modifyAgent, List.getElem?_map, List.getElem?_modify]
  split <;> simp [Function.comp_def, same]

namespace Steady

theorem observe (steady : network.Steady foreign) (observation : Observation) :
    (network.observe observation).Steady foreign :=
  steady.still rfl rfl fun _ h ↦ h

theorem modifyReceiver (steady : network.Steady foreign) (id : ReceiverId) (change : Receiver → Receiver) :
    (network.modifyReceiver id change).Steady foreign := by
  refine steady.still ?_ rfl fun _ h ↦ h
  unfold Network.modifyReceiver
  apply links_modifyAgent
  intro agent
  rfl

theorem act (steady : network.Steady foreign) (id : ReceiverId) (label : String) (delivery : Delivery)
    (action : Action) : (network.act id label delivery action).1.Steady foreign := by
  cases action with
  | count => exact steady.observe _
  | register target once handler => exact steady.modifyReceiver _ _
  | publish topic payload retain => exact steady.onBroker (network.medium.broker.fades_route ⟨topic, payload⟩ retain)
  | silenceAll => exact steady.onBroker network.medium.broker.fades_silenceAll
  | fail => exact steady
  | failIf test => exact steady

theorem actAll (steady : network.Steady foreign) (id : ReceiverId) (label : String) (delivery : Delivery)
    (actions : List Action) : (network.actAll id label delivery actions).1.Steady foreign := by
  induction actions generalizing network with
  | nil => exact steady
  | cons action rest ih =>
    have first := steady.act id label delivery action
    unfold Network.actAll
    split
    · rename_i h
      rw [h] at first
      exact first
    · rename_i h
      rw [h] at first
      exact ih first

theorem runHandler (steady : network.Steady foreign) (id : ReceiverId) (delivery : Delivery) (handler : Handler) :
    (network.runHandler id delivery handler).Steady foreign := by
  cases handler with
  | reply ticket => exact steady.still rfl rfl fun _ h ↦ h
  | scripted label actions =>
    have observed := steady.observe (.event (network.labelOf id.agent) (.ran label delivery))
    have done := observed.actAll id label delivery actions
    unfold Network.runHandler
    simp only
    split
    · rename_i h
      rw [h] at done
      exact done
    · rename_i h
      rw [h] at done
      exact done.observe .failure

theorem deliver (steady : network.Steady foreign) (id : ReceiverId) (delivery : Delivery) (callbacks : List Callback) :
    (network.deliver id delivery callbacks).Steady foreign := by
  have all (callbacks : List Callback) (start : Network) (steady : start.Steady foreign) :
      (callbacks.foldl (fun network callback ↦ network.runHandler id delivery callback.handler) start).Steady
        foreign := by
    induction callbacks generalizing start with
    | nil => exact steady
    | cons callback rest ih => exact ih _ (steady.runHandler id delivery callback.handler)
  exact (all callbacks _ (steady.modifyReceiver id _)).modifyReceiver id _

theorem offer (steady : network.Steady foreign) (message : Message) (id : ReceiverId) :
    (network.offer message id).Steady foreign := by
  unfold Network.offer
  split
  · exact steady
  · split
    · exact steady.observe .failure
    · exact steady.deliver id _ _

theorem dispatch (steady : network.Steady foreign) (index : Nat) (agent : Agent) (message : Message) :
    (network.dispatch index agent message).Steady foreign := by
  unfold Network.dispatch
  induction agent.offered message.topic generalizing network with
  | nil => exact steady
  | cons place rest ih => exact ih (steady.offer message ⟨index, place⟩)

end Steady

/-! ## Background work -/

/-- An agent in the place of its earlier self: nothing else changes but that more may be ready. -/
theorem setAgent_eq (network : Network) (index : Nat) (agent : Agent) : ∃ ready,
    network.setAgent index agent = { network with agents := network.agents.set index agent, ready } ∧
    network.ready ⊆ ready := by
  unfold setAgent
  simp only
  split
  · exact ⟨network.ready, rfl, fun _ h ↦ h⟩
  · rename_i dispatcher _
    rcases schedule_eq { network with agents := network.agents.set index agent }
      (.dispatch index dispatcher.source) with ⟨ready, hready, -, hsubset⟩
    exact ⟨ready, hready, hsubset⟩

/-- An agent may take a turn that leaves nothing behind. -/
theorem Sound.setAgent (sound : network.Sound foreign) (h : network.agents[index]? = some agent) {medium : Medium}
    (turn : agent.link.Turn (fun _ ↦ False) network.medium.broker medium.broker changed.link) :
    (setAgent { network with medium } index changed).Sound foreign := by
  rcases setAgent_eq { network with medium } index changed with ⟨ready, hready, hsubset⟩
  rw [hready]
  exact sound.turn h turn (links_setAt network index changed) (fun _ closes ↦ closes.mono hsubset) (fun _ ↦ False.elim)

theorem Sound.onAgent {α : Type} (sound : network.Sound foreign) (h : network.agents[index]? = some agent)
    {operation : Medium → Agent → Medium × Agent × α}
    (turn : agent.link.Turn (fun _ ↦ False) network.medium.broker (operation network.medium agent).1.broker
      (operation network.medium agent).2.1.link) :
    (network.onAgent index agent operation).1.Steady foreign :=
  (sound.setAgent h turn).wake

/-- An agent that stops dispatching has nothing to be ready for. -/
theorem Awake.setAgent (awake : network.Awake) (index : Nat) (stopped : changed.dispatcher = none) :
    (network.setAgent index changed).Awake := by
  rcases setAgent_eq network index changed with ⟨ready, hready, hsubset⟩
  rw [hready]
  intro place agent task h hwake
  by_cases same : index = place
  · have hagent : agent = changed := by grind
    simp [wakeUp?, hagent, stopped] at hwake
  · rw [List.getElem?_set_ne same] at h
    exact hsubset (awake place agent task h hwake)

theorem getElem?_wake_setAgent (h : network.agents[index]? = some agent) (changed : Agent) :
    (network.setAgent index changed).wake.agents[index]? = some changed := by
  rcases setAgent_eq network index changed with ⟨ready, hready, -⟩
  rcases wake_eq (network.setAgent index changed) with ⟨woken, hwake, -⟩
  rw [hwake, hready]
  exact List.getElem?_set_self (List.getElem?_eq_some_iff.1 h).1

theorem completeConnect_eq (network : Network) (index : Nat) (attempt : Attempt) (agent : Agent) (pending : Pending) :
    network.completeConnect index attempt agent pending =
      (network.onAgent attempt.agent agent fun medium agent ↦ agent.completeConnect medium pending).1.finishConnect
        index attempt (agent.completeConnect network.medium pending).2.2 :=
  rfl

namespace Steady

theorem schedule (steady : network.Steady foreign) (task : Task) : (network.schedule task).Steady foreign := by
  rcases schedule_eq network task with ⟨ready, hready, -, hsubset⟩
  rw [hready]
  exact steady.still rfl rfl hsubset

theorem setProgress (steady : network.Steady foreign) (index : Nat) (progress : Progress) :
    (network.setProgress index progress).Steady foreign :=
  steady.still rfl rfl fun _ h ↦ h

/-- An agent that is given up leaves its connection to the background, or the connection is closed at once. -/
theorem giveUp (steady : network.Steady foreign) (index : Nat) {dispose : Network → Agent → ConnectionId → Network}
    (disposes : dispose = closeLater ∨ dispose = forget) : (network.giveUp index dispose).Steady foreign := by
  unfold Network.giveUp
  split
  · exact steady
  · rename_i agent h
    have hsound := steady.sound.sound_link h
    have awake : (network.setAgent index agent.release.1).Awake := steady.awake.setAgent index rfl
    rcases setAgent_eq network index agent.release.1 with ⟨ready, hready, hsubset⟩
    have links := links_setAt network index agent.release.1
    -- Only a handle that is held is left alive, and only if nothing closes it at once.
    have released (left : ConnectionId → Prop) {broker : Broker} (fades : network.medium.broker.Fades broker)
        (lost : ∀ handle, agent.connection.handle = some handle → broker.isLive handle → left handle) :
        agent.link.Turn left network.medium.broker broker agent.release.1.link :=
      hsound.giveUp fades rfl (by simp [Agent.release, Connection.release]) (.inr rfl) fun handle held live ↦
        ⟨lost handle held live, rfl⟩
    rw [hready] at awake
    simp only [hready]
    cases held : agent.release.2 with
    | none =>
      refine ⟨?_, awake⟩
      have none_held : agent.connection.handle = none := held
      have turn := released (fun _ ↦ False) (.refl _) (by simp [none_held])
      exact steady.sound.turn h turn links (fun _ closes ↦ closes.mono hsubset) fun _ ↦ False.elim
    | some handle =>
      have handle_held : agent.connection.handle = some handle := held
      rcases disposes with rfl | rfl
      · rcases schedule_eq { network with agents := network.agents.set index agent.release.1, ready }
          (.close agent.transport handle) with ⟨final, hfinal, hmem, hsubset'⟩
        simp only [closeLater, hfinal]
        refine ⟨?_, fun place agent task h hwake ↦ hsubset' (awake place agent task h hwake)⟩
        have turn := released (fun connection ↦ connection = handle) (.refl _) (by simp [handle_held])
        refine steady.sound.turn h turn links (fun _ closes ↦ closes.mono fun _ h ↦ hsubset' (hsubset h)) ?_
        intro connection same
        exact ⟨by rw [handle_held, same], agent.transport, same ▸ hmem⟩
      · have turn := released (fun _ ↦ False) (network.medium.broker.fades_close handle) fun other hother live ↦ by
          have same : handle = other := by simpa [handle_held] using hother
          exact absurd same.symm (Broker.isLive_close_iff.1 live).2
        have closed : Sound foreign { network with
            agents := network.agents.set index agent.release.1
            medium := network.medium.onBroker fun broker ↦ broker.close handle
            ready } :=
          steady.sound.turn h turn links (fun _ closes ↦ closes.mono hsubset) fun _ ↦ False.elim
        exact closed.wake

theorem letGo (steady : network.Steady foreign) (index : Nat) {dispose : Network → Agent → ConnectionId → Network}
    (disposes : dispose = closeLater ∨ dispose = forget) : (network.letGo index dispose).Steady foreign := by
  have hlinks : (network.modifyAgent index fun agent ↦ { agent with held := false }).links = network.links := by
    apply links_modifyAgent
    intro agent
    rfl
  have released := steady.still hlinks rfl fun _ h ↦ h
  unfold Network.letGo
  simp only
  split
  · exact released
  · exact released.giveUp index disposes

theorem startConnect (steady : network.Steady foreign) (agent : Nat) (ticket : String) (overrides : BrokerOverrides) :
    (network.startConnect agent ticket overrides).Steady foreign := by
  apply schedule
  exact steady.still rfl rfl fun _ h ↦ h

theorem releaseConnect (steady : network.Steady foreign) (transport : String) (number : Nat) :
    (network.releaseConnect transport number).1.Steady foreign := by
  unfold Network.releaseConnect
  simp only
  split
  · exact steady
  · apply schedule
    exact steady.still rfl rfl fun _ h ↦ h

theorem finishConnect (steady : network.Steady foreign) (index : Nat) (attempt : Attempt)
    (result : Except Error Unit) : (network.finishConnect index attempt result).Steady foreign := by
  have finished := (steady.setProgress index .finished).observe (.completed attempt.ticket result)
  unfold Network.finishConnect
  simp only
  split
  · exact finished.giveUp attempt.agent (.inl rfl)
  · exact finished

theorem completeConnect (steady : network.Steady foreign) (index : Nat) (attempt : Attempt)
    (h : network.agents[attempt.agent]? = some agent) (pending : Pending) :
    (network.completeConnect index attempt agent pending).Steady foreign := by
  have turn := Agent.turn_completeConnect (steady.sound.sound_link h) pending
  have answered : Steady foreign
      (network.onAgent attempt.agent agent fun medium agent ↦ agent.completeConnect medium pending).1 :=
    steady.sound.onAgent h turn
  rw [completeConnect_eq]
  exact answered.finishConnect index attempt _

theorem continueConnect (steady : network.Steady foreign) (index : Nat) (attempt : Attempt)
    (h : network.agents[attempt.agent]? = some agent) :
    (network.continueConnect index attempt agent).Steady foreign := by
  unfold Network.continueConnect
  split
  · split
    · exact steady.finishConnect index attempt _
    · rename_i medium begun pending hbegin
      have turn := Agent.turn_of_beginConnect (steady.sound.sound_link h) hbegin
      have woken := (steady.sound.setAgent h turn).wake
      simp only
      split
      · exact woken.setProgress index _
      · apply woken.completeConnect
        have h' : ({ network with medium } : Network).agents[attempt.agent]? = some agent := h
        exact getElem?_wake_setAgent h' begun
  · exact steady.completeConnect index attempt h _
  · exact steady
  · exact steady

end Steady

theorem wakeUp?_eq_some {broker : Broker} {task : Task} (h : wakeUp? broker index agent = some task) :
    ∃ dispatcher, agent.dispatcher = some dispatcher ∧ task = .dispatch index dispatcher.source ∧
      dispatcher.phase ≠ .finished := by
  unfold wakeUp? at h
  split at h
  · rename_i source hdispatcher
    exact ⟨⟨source, .busy⟩, hdispatcher, (Option.some.inj h).symm, by simp⟩
  · rename_i source hdispatcher
    split at h
    · exact ⟨⟨source, .resting⟩, hdispatcher, (Option.some.inj h).symm, by simp⟩
    · cases h
  · cases h

/-- A dispatcher has no more to do after a message is taken from an inbox than before. -/
theorem wakeUp?_of_take? {broker rest : Broker} {source : ConnectionId} {message : Message} {task : Task}
    (taken : broker.take? source = some (message, rest)) (h : wakeUp? rest index agent = some task) :
    wakeUp? broker index agent = some task := by
  rcases Broker.take?_eq_some taken with ⟨inbox, hinbox, rfl⟩
  have hclosed (other : ConnectionId) :
      (broker.modifyClient source fun client ↦ { client with inbox }).isClosed other = broker.isClosed other := by
    apply Broker.isClosed_modifyClient
    intro client
    rfl
  rcases hdispatcher : agent.dispatcher with _ | ⟨other, phase⟩
  · simp [wakeUp?, hdispatcher] at h
  · cases phase with
    | busy => simpa [wakeUp?, hdispatcher] using h
    | finished => simp [wakeUp?, hdispatcher] at h
    | resting =>
      simp only [wakeUp?, hdispatcher, hclosed, Broker.inbox_modifyClient] at h ⊢
      by_cases same : source = other
      · rw [← same] at h ⊢
        rw [Option.ite_none_right_eq_some] at h ⊢
        exact ⟨by simp [hinbox], h.2⟩
      · rwa [if_neg same] at h

theorem modifyAgent_eq (h : network.agents[index]? = some agent) (change : Agent → Agent) :
    network.modifyAgent index change = { network with agents := network.agents.set index (change agent) } := by
  have hlt := List.getElem?_eq_some_iff.1 h
  rw [modifyAgent, List.modify_eq_take_cons_drop hlt.1, List.set_eq_take_append_cons_drop, if_pos hlt.1, hlt.2]

namespace Steady

variable {source : ConnectionId} {rest : List Task}

/-- The next task may be passed over if it is no close and nothing for a dispatcher to do. -/
theorem pass {task : Task} (steady : network.Steady foreign) (ready : network.ready = task :: rest)
    (closes : ∀ transport connection, task ≠ .close transport connection)
    (idle : ∀ (place : Nat) (agent : Agent), network.agents[place]? = some agent →
      wakeUp? network.medium.broker place agent ≠ some task) :
    Steady foreign { network with ready := rest } where
  sound := by
    refine steady.sound.fades rfl (.refl _) ?_
    rintro connection - ⟨transport, hclose⟩
    rw [ready] at hclose
    exact ⟨transport, (List.mem_cons.1 hclose).resolve_left (closes transport connection).symm⟩
  awake := by
    intro place agent other h hwake
    have hmem := steady.awake place agent other h hwake
    rw [ready] at hmem
    exact (List.mem_cons.1 hmem).resolve_left fun same ↦ idle place agent h (same ▸ hwake)

/-- A dispatcher that finds its inbox empty rests, or ends if nothing more can come. -/
theorem rested (steady : network.Steady foreign) (ready : network.ready = .dispatch index source :: rest)
    (h : network.agents[index]? = some agent) {former : DispatcherPhase}
    (reads : agent.dispatcher = some ⟨source, former⟩) (empty : network.medium.broker.take? source = none) :
    (modifyAgent { network with ready := rest } index fun agent ↦ { agent with
      dispatcher := some ⟨source, if network.medium.broker.isClosed source then .finished else .resting⟩ }).Steady
        foreign := by
  have h' : ({ network with ready := rest } : Network).agents[index]? = some agent := h
  rw [modifyAgent_eq h']
  refine ⟨?_, ?_⟩
  · have turn : agent.link.Turn (fun _ ↦ False) network.medium.broker network.medium.broker ⟨agent.connection,
        some ⟨source, if network.medium.broker.isClosed source then .finished else .resting⟩⟩ :=
      (steady.sound.sound_link h).proceed reads _ (by split <;> simp [*])
    refine steady.sound.turn h turn (links_setAt network index _) ?_ fun _ ↦ False.elim
    intro connection ⟨transport, hclose⟩
    rw [ready] at hclose
    exact ⟨transport, (List.mem_cons.1 hclose).resolve_left nofun⟩
  · intro place other task hother hwake
    by_cases same : index = place
    · subst same
      rw [List.getElem?_set_self (List.getElem?_eq_some_iff.1 h).1] at hother
      rw [← Option.some.inj hother] at hwake
      have hinbox := Broker.inbox_eq_nil_of_take? empty
      by_cases closed : network.medium.broker.isClosed source <;> simp [wakeUp?, closed, hinbox] at hwake
    · rw [List.getElem?_set_ne same] at hother
      have hmem := steady.awake place other task hother hwake
      rcases wakeUp?_eq_some hwake with ⟨dispatcher, -, htask, -⟩
      rw [ready] at hmem
      exact (List.mem_cons.1 hmem).resolve_left fun first ↦ same (Task.dispatch.inj (first.symm.trans htask)).1

theorem lookInside (steady : network.Steady foreign) (ready : network.ready = .dispatch index source :: rest) :
    (network.lookInside index source rest).Steady foreign := by
  have passed (idle : ∀ agent, network.agents[index]? = some agent →
      wakeUp? network.medium.broker index agent ≠ some (.dispatch index source)) :
      Steady foreign { network with ready := rest } := by
    apply steady.pass ready nofun
    intro place agent h hwake
    rcases wakeUp?_eq_some hwake with ⟨dispatcher, -, htask, -⟩
    have hplace := (Task.dispatch.inj htask).1
    subst hplace
    exact idle agent h hwake
  unfold Network.lookInside
  split
  · rename_i h
    exact passed fun agent h' ↦ by simp [h] at h'
  · rename_i agent h
    split
    · rename_i reads
      split
      · rename_i message broker taken
        apply dispatch
        refine ⟨steady.sound.fades rfl (Broker.fades_of_take? taken) fun _ _ closes ↦ closes, ?_⟩
        exact fun place agent task h hwake ↦ steady.awake place agent task h (wakeUp?_of_take? taken hwake)
      · rename_i taken
        rcases hdispatcher : agent.dispatcher with _ | ⟨other, former⟩
        · simp [hdispatcher] at reads
        · have hsource : other = source := by
            simp only [hdispatcher, Option.any_some, Bool.and_eq_true, decide_eq_true_eq] at reads
            exact reads.1
          exact steady.rested ready h (hsource ▸ hdispatcher) taken
    · rename_i reads
      apply passed
      intro other h' hwake
      have same : agent = other := Option.some.inj (h.symm.trans h')
      rcases wakeUp?_eq_some hwake with ⟨dispatcher, hdispatcher, htask, hphase⟩
      have hsource := (Task.dispatch.inj htask).2
      exact absurd hphase (by simpa [same, hdispatcher, hsource] using reads)

theorem tick? (steady : network.Steady foreign) (h : network.tick? = some after) : after.Steady foreign := by
  unfold Network.tick? at h
  split at h
  · cases h
  · rename_i index source rest ready
    rw [← Option.some.inj h]
    exact steady.lookInside ready
  · rename_i transport connection rest ready
    rw [← Option.some.inj h]
    have closed : Sound foreign { network with
        medium := (network.medium.close transport connection).1, ready := rest } := by
      refine steady.sound.fades rfl (network.medium.broker_close transport connection ▸ Broker.fades_close _ _) ?_
      intro other live ⟨transport', hclose⟩
      rw [ready] at hclose
      rcases List.mem_cons.1 hclose with same | hmem
      · simp only [Medium.broker_close] at live
        exact absurd (Task.close.inj same).2 (Broker.isLive_close_iff.1 live).2
      · exact ⟨transport', hmem⟩
    exact closed.wake
  · rename_i index rest ready
    have passed : Steady foreign { network with ready := rest } := by
      apply steady.pass ready nofun
      intro place agent h hwake
      rcases wakeUp?_eq_some hwake with ⟨dispatcher, -, htask, -⟩
      cases htask
    simp only at h
    split at h
    · rw [← Option.some.inj h]
      exact passed
    · split at h
      · rw [← Option.some.inj h]
        exact passed
      · rename_i attempt _ _ agent hagent
        rw [← Option.some.inj h]
        exact passed.continueConnect index attempt hagent

theorem run (steady : network.Steady foreign) (steps : Nat) : (network.run steps).Steady foreign := by
  induction steps generalizing network with
  | zero => exact steady
  | succ steps ih =>
    unfold Network.run
    split
    · exact steady
    · rename_i next h
      exact ih (steady.tick? h)

end Steady

theorem steady_fresh : fresh.Steady fun _ ↦ False :=
  ⟨sound_fresh, by simp [Awake, fresh]⟩

end PubSub.Network
