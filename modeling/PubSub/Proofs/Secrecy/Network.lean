import PubSub.Proofs.Network.Steady
import PubSub.Proofs.Secrecy.Agent
/-!
# Networks without passwords

A network does when it is redacted what it does otherwise, in every operation and in every step of background work. A
step of background work compares credentials at most once.
-/

namespace PubSub

/-- A change that can as well be made later is the same at one place of a list. -/
theorem map_modify_of_comm {α β : Type} {view : α → β} {change : α → α} {seen : β → β}
    (comm : ∀ thing, view (change thing) = seen (view thing)) (things : List α) (index : Nat) :
    (things.modify index change).map view = (things.map view).modify index seen := by
  refine List.ext_getElem? fun place ↦ ?_
  simp only [List.getElem?_map, List.getElem?_modify]
  cases things[place]? with
  | none => rfl
  | some thing =>
    simp only [Option.map_some]
    split <;> simp [comm]

namespace Network

variable {passes : Bool} {network : Network}

/-! ## Access -/

@[simp] theorem getElem?_agents_redacted (index : Nat) :
    (network.redacted passes).agents[index]? = network.agents[index]?.map Agent.redacted :=
  List.getElem?_map

@[simp] theorem getElem?_attempts_redacted (index : Nat) :
    (network.redacted passes).attempts[index]? = network.attempts[index]?.map Attempt.redacted :=
  List.getElem?_map

theorem receiver?_redacted (id : ReceiverId) : (network.redacted passes).receiver? id = network.receiver? id := by
  unfold receiver?
  rw [getElem?_agents_redacted]
  cases network.agents[id.agent]? <;> rfl

theorem labelOf_redacted (index : Nat) : (network.redacted passes).labelOf index = network.labelOf index := by
  unfold labelOf
  rw [getElem?_agents_redacted]
  cases network.agents[index]? <;> rfl

theorem modifyAgent_redacted (index : Nat) {change : Agent → Agent}
    (comm : ∀ agent, (change agent).redacted = change agent.redacted) :
    (network.redacted passes).modifyAgent index change = (network.modifyAgent index change).redacted passes := by
  have same := map_modify_of_comm comm network.agents index
  simp only [modifyAgent, redacted, same]

theorem modifyReceiver_redacted (id : ReceiverId) (change : Receiver → Receiver) :
    (network.redacted passes).modifyReceiver id change = (network.modifyReceiver id change).redacted passes :=
  modifyAgent_redacted id.agent fun _ ↦ rfl

theorem observe_redacted (observation : Observation) :
    (network.redacted passes).observe observation.redacted = (network.observe observation).redacted passes := by
  unfold observe
  rw [medium_redacted, Medium.observe_redacted]
  rfl

/-! ## Tasks -/

theorem schedule_redacted (task : Task) :
    (network.redacted passes).schedule task = (network.schedule task).redacted passes := by
  unfold schedule
  change (if network.ready.contains task then _ else _) = _
  split <;> rfl

theorem wake_redacted : (network.redacted passes).wake = network.wake.redacted passes := by
  unfold wake
  have tasks : (network.redacted passes).agents.zipIdx.filterMap (fun entry ↦
      wakeUp? (network.redacted passes).medium.broker entry.2 entry.1) =
      network.agents.zipIdx.filterMap fun entry ↦ wakeUp? network.medium.broker entry.2 entry.1 := by
    simp only [redacted, List.zipIdx_map, List.filterMap_map]
    rfl
  rw [tasks]
  exact List.foldl_hom (redacted passes) fun network task ↦ schedule_redacted task

theorem setAgent_redacted (index : Nat) (agent : Agent) :
    (network.redacted passes).setAgent index agent.redacted = (network.setAgent index agent).redacted passes := by
  have last : ((network.redacted passes).agents[index]? >>= Agent.dispatcher) =
      (network.agents[index]? >>= Agent.dispatcher) := by
    rw [getElem?_agents_redacted]
    cases network.agents[index]? <;> rfl
  have placed : { network.redacted passes with agents := (network.redacted passes).agents.set index agent.redacted } =
      { network with agents := network.agents.set index agent }.redacted passes := by
    simp only [redacted, List.map_set]
  simp only [setAgent, last, placed, Agent.dispatcher_redacted]
  split
  · rfl
  · exact schedule_redacted _

theorem onMedium_redacted {operation other : Medium → Medium}
    (comm : ∀ medium, other (medium.redacted passes) = (operation medium).redacted passes) :
    (network.redacted passes).onMedium other = (network.onMedium operation).redacted passes := by
  unfold onMedium
  rw [← wake_redacted]
  exact congrArg (fun medium ↦ wake { network.redacted passes with medium }) (comm network.medium)

theorem onAgent_redacted {α β : Type} {change : α → β} (index : Nat) {agent : Agent}
    {operation : Medium → Agent → Medium × Agent × α} {other : Medium → Agent → Medium × Agent × β}
    (comm : other (network.medium.redacted passes) agent.redacted =
      Prod.map (Medium.redacted passes) (Prod.map Agent.redacted change) (operation network.medium agent)) :
    (network.redacted passes).onAgent index agent.redacted other =
      Prod.map (redacted passes) change (network.onAgent index agent operation) := by
  unfold onAgent
  have ran : other (network.redacted passes).medium agent.redacted = _ := comm
  rw [ran]
  rcases operation network.medium agent with ⟨medium, changed, result⟩
  have placed := @setAgent_redacted passes { network with medium } index changed
  have woken := @wake_redacted passes ({ network with medium }.setAgent index changed)
  exact congrArg (·, change result) ((congrArg wake placed).trans woken)

/-! ## Dispatching -/

theorem publish_redacted (message : Message) (retain : Bool) :
    (network.redacted passes).publish message retain = (network.publish message retain).redacted passes :=
  onMedium_redacted fun _ ↦ rfl

theorem repeat_publish_redacted (message : Message) (retain : Bool) (times : Nat) :
    Nat.repeat (publish · message retain) times (network.redacted passes) =
      (Nat.repeat (publish · message retain) times network).redacted passes := by
  induction times with
  | zero => rfl
  | succ times ih => exact (congrArg (publish · message retain) ih).trans (publish_redacted message retain)

theorem silenceAll_redacted : (network.redacted passes).silenceAll = network.silenceAll.redacted passes :=
  onMedium_redacted fun _ ↦ rfl

theorem act_redacted (receiver : ReceiverId) (label : String) (delivery : Delivery) (action : Action) :
    (network.redacted passes).act receiver label delivery action =
      Prod.map (redacted passes) id (network.act receiver label delivery action) := by
  cases action with
  | count =>
    simp only [act, receiver?_redacted, labelOf_redacted]
    exact congrArg (·, false) (observe_redacted (.event _ _))
  | register target once handler => exact congrArg (·, false) (modifyReceiver_redacted _ _)
  | publish topic payload retain => exact congrArg (·, false) (publish_redacted _ _)
  | silenceAll => exact congrArg (·, false) silenceAll_redacted
  | fail => rfl
  | failIf test => rfl

theorem actAll_redacted (receiver : ReceiverId) (label : String) (delivery : Delivery) (actions : List Action) :
    (network.redacted passes).actAll receiver label delivery actions =
      Prod.map (redacted passes) id (network.actAll receiver label delivery actions) := by
  induction actions generalizing network with
  | nil => rfl
  | cons action rest ih =>
    rw [actAll, actAll, act_redacted]
    rcases network.act receiver label delivery action with ⟨acted, _ | _⟩
    · exact ih
    · rfl

theorem runHandler_redacted (id : ReceiverId) (delivery : Delivery) (handler : Handler) :
    (network.redacted passes).runHandler id delivery handler =
      (network.runHandler id delivery handler).redacted passes := by
  cases handler with
  | reply ticket => rfl
  | scripted label actions =>
    have ran (reporter : String) : (network.redacted passes).observe (.event reporter (.ran label delivery)) = _ :=
      observe_redacted (.event reporter (.ran label delivery))
    simp only [runHandler, labelOf_redacted, ran, actAll_redacted]
    rcases (network.observe _).actAll id label delivery actions with ⟨acted, _ | _⟩
    · rfl
    · exact observe_redacted .failure

theorem deliver_redacted (id : ReceiverId) (delivery : Delivery) (callbacks : List Callback) :
    (network.redacted passes).deliver id delivery callbacks =
      (network.deliver id delivery callbacks).redacted passes := by
  unfold deliver
  simp only [modifyReceiver_redacted]
  rw [List.foldl_hom (redacted passes) fun network callback ↦ runHandler_redacted id delivery callback.handler]
  exact modifyReceiver_redacted id _

theorem offer_redacted (message : Message) (id : ReceiverId) :
    (network.redacted passes).offer message id = (network.offer message id).redacted passes := by
  unfold offer
  rw [receiver?_redacted]
  cases network.receiver? id with
  | none => rfl
  | some receiver =>
    simp only
    cases receiver.read? message with
    | none => exact observe_redacted .failure
    | some delivery => exact deliver_redacted id delivery receiver.callbacks

theorem dispatch_redacted (index : Nat) (agent : Agent) (message : Message) :
    (network.redacted passes).dispatch index agent.redacted message =
      (network.dispatch index agent message).redacted passes :=
  List.foldl_hom (redacted passes) fun _ place ↦ offer_redacted message ⟨index, place⟩

/-! ## Giving agents up -/

theorem isConnecting_redacted (index : Nat) :
    (network.redacted passes).isConnecting index = network.isConnecting index := by
  have underWay (attempt : Attempt) :
      (decide (attempt.redacted.agent = index) && decide (attempt.redacted.progress ≠ .finished)) =
        (decide (attempt.agent = index) && decide (attempt.progress ≠ .finished)) := by
    rcases attempt with ⟨ticket, agent, overrides, progress⟩
    cases progress <;> rfl
  unfold isConnecting redacted
  rw [List.any_map]
  exact congrArg network.attempts.any (funext underWay)

theorem closeLater_redacted (network : Network) (agent : Agent) (handle : ConnectionId) :
    (network.redacted passes).closeLater agent.redacted handle = (network.closeLater agent handle).redacted passes :=
  schedule_redacted _

theorem forget_redacted (network : Network) (agent : Agent) (handle : ConnectionId) :
    (network.redacted passes).forget agent.redacted handle = (network.forget agent handle).redacted passes :=
  onMedium_redacted fun _ ↦ rfl

section Disposal

variable {dispose : Network → Agent → ConnectionId → Network}
  (comm : ∀ network agent handle,
    dispose (network.redacted passes) agent.redacted handle = (dispose network agent handle).redacted passes)

include comm

theorem giveUp_redacted (index : Nat) :
    (network.redacted passes).giveUp index dispose = (network.giveUp index dispose).redacted passes := by
  unfold giveUp
  rw [getElem?_agents_redacted]
  cases network.agents[index]? with
  | none => rfl
  | some agent =>
    have released : agent.redacted.release = Prod.map Agent.redacted id agent.release := rfl
    simp only [Option.map_some, released]
    rcases agent.release with ⟨released, _ | handle⟩
    · exact setAgent_redacted index released
    · exact (congrArg (dispose · agent.redacted handle) (setAgent_redacted index released)).trans (comm _ _ _)

theorem letGo_redacted (index : Nat) :
    (network.redacted passes).letGo index dispose = (network.letGo index dispose).redacted passes := by
  unfold letGo
  have modified : (network.redacted passes).modifyAgent index (fun agent ↦ { agent with held := false }) = _ :=
    modifyAgent_redacted index fun _ ↦ rfl
  simp only [modified, isConnecting_redacted]
  split
  · rfl
  · exact giveUp_redacted comm index

end Disposal

/-! ## Connects in the background -/

theorem startConnect_redacted (index : Nat) (ticket : String) (overrides : BrokerOverrides) :
    (network.redacted passes).startConnect index ticket overrides.redacted =
      (network.startConnect index ticket overrides).redacted passes := by
  have added : { network.redacted passes with
        attempts := (network.redacted passes).attempts ++ [(⟨ticket, index, overrides.redacted, .queued⟩ : Attempt)] } =
      { network with
        attempts := network.attempts ++ [(⟨ticket, index, overrides, .queued⟩ : Attempt)] }.redacted passes := by
    simp only [redacted, List.map_append]
    rfl
  have next : (network.redacted passes).attempts.length = network.attempts.length := List.length_map _
  simp only [startConnect, added, next]
  exact schedule_redacted _

theorem setProgress_redacted (index : Nat) (progress : Progress) :
    (network.redacted passes).setProgress index progress.redacted =
      (network.setProgress index progress).redacted passes := by
  have same : (network.attempts.modify index fun attempt ↦ { attempt with progress }).map Attempt.redacted =
      (network.attempts.map Attempt.redacted).modify index fun attempt ↦
        { attempt with progress := progress.redacted } :=
    map_modify_of_comm (by intro attempt; rfl) network.attempts index
  simp only [setProgress, redacted, same]

/-- Whether an attempt is the one of a number that waits for the answer of a transport. -/
def awaits (network : Network) (transport : String) (number : Nat) (attempt : Attempt) : Bool :=
  match attempt.progress with
  | .gated found _ =>
    found = number && network.agents[attempt.agent]?.any fun agent ↦ agent.transport = .scripted transport
  | _ => false

/-- The attempt with the answer that it waited for. -/
def answered (attempt : Attempt) : Attempt :=
  match attempt.progress with
  | .gated _ pending => { attempt with progress := .released pending }
  | _ => attempt

theorem releaseConnect_eq (network : Network) (transport : String) (number : Nat) :
    network.releaseConnect transport number =
      match network.attempts.findIdx? (network.awaits transport number) with
      | none => (network, false)
      | some index =>
        (schedule { network with attempts := network.attempts.modify index answered } (.attempt index), true) :=
  rfl

theorem awaits_redacted (transport : String) (number : Nat) (attempt : Attempt) :
    (network.redacted passes).awaits transport number attempt.redacted = network.awaits transport number attempt := by
  rcases attempt with ⟨ticket, agent, overrides, _ | ⟨found, pending⟩ | pending | _⟩
  · rfl
  · simp only [awaits, Attempt.redacted, Progress.redacted, getElem?_agents_redacted, Option.any_map]
    rfl
  · rfl
  · rfl

theorem answered_redacted (attempt : Attempt) : (answered attempt).redacted = answered attempt.redacted := by
  rcases attempt with ⟨ticket, agent, overrides, _ | _ | _ | _⟩ <;> rfl

theorem releaseConnect_redacted (transport : String) (number : Nat) :
    (network.redacted passes).releaseConnect transport number =
      Prod.map (redacted passes) id (network.releaseConnect transport number) := by
  have found : (network.redacted passes).attempts.findIdx? ((network.redacted passes).awaits transport number) =
      network.attempts.findIdx? (network.awaits transport number) := by
    rw [redacted, List.findIdx?_map]
    exact congrArg (network.attempts.findIdx? ·) (funext (awaits_redacted transport number))
  rw [releaseConnect_eq, releaseConnect_eq, found]
  cases network.attempts.findIdx? (network.awaits transport number) with
  | none => rfl
  | some index =>
    have released : { network.redacted passes with
          attempts := (network.redacted passes).attempts.modify index answered } =
        { network with attempts := network.attempts.modify index answered }.redacted passes := by
      simp only [redacted, map_modify_of_comm answered_redacted]
    simp only [released]
    exact congrArg (·, true) (schedule_redacted _)

theorem finishConnect_redacted (index : Nat) (attempt : Attempt) (result : Except Error Unit) :
    (network.redacted passes).finishConnect index attempt.redacted result =
      (network.finishConnect index attempt result).redacted passes := by
  have finished : ((network.redacted passes).setProgress index .finished).observe (.completed attempt.ticket result) =
      ((network.setProgress index .finished).observe (.completed attempt.ticket result)).redacted passes :=
    (congrArg (observe · _) (setProgress_redacted index .finished)).trans (observe_redacted (.completed _ _))
  have ticket : attempt.redacted.ticket = attempt.ticket := rfl
  simp only [finishConnect, ticket, Attempt.agent_redacted, finished]
  generalize (network.setProgress index .finished).observe (.completed attempt.ticket result) = later
  have held : (later.redacted passes).agents[attempt.agent]?.any (fun agent ↦ !agent.held) =
      later.agents[attempt.agent]?.any fun agent ↦ !agent.held := by
    rw [getElem?_agents_redacted, Option.any_map]
    rfl
  rw [held, isConnecting_redacted]
  split
  · exact giveUp_redacted closeLater_redacted attempt.agent
  · rfl

theorem completeConnect_redacted {agent : Agent} {pending : Pending}
    (outcome : ∀ same ∈ network.medium.compared? agent.transport pending.options, same = passes) (index : Nat)
    (attempt : Attempt) :
    (network.redacted passes).completeConnect index attempt.redacted agent.redacted pending.redacted =
      (network.completeConnect index attempt agent pending).redacted passes := by
  have ran : (network.redacted passes).onAgent attempt.agent agent.redacted
      (fun medium agent ↦ agent.completeConnect medium pending.redacted) =
      Prod.map (redacted passes) id
        (network.onAgent attempt.agent agent fun medium agent ↦ agent.completeConnect medium pending) :=
    onAgent_redacted attempt.agent (Agent.completeConnect_redacted outcome)
  simp only [completeConnect, Attempt.agent_redacted, ran]
  exact finishConnect_redacted index attempt _

/-- What the comparison of a connect comes to when it is carried on, if it gets as far as one. -/
def carried? (network : Network) (attempt : Attempt) (agent : Agent) : Option Bool :=
  match attempt.progress with
  | .queued =>
    match agent.beginConnect network.medium attempt.overrides with
    | .error _ => none
    | .ok (medium, agent, pending) =>
      if (medium.scriptOf agent.transport).gate then none else medium.compared? agent.transport pending.options
  | .released pending => network.medium.compared? agent.transport pending.options
  | .gated _ _ | .finished => none

theorem isSome_carried?_redacted (attempt : Attempt) (agent : Agent) :
    ((network.redacted passes).carried? attempt.redacted agent.redacted).isSome =
      (network.carried? attempt agent).isSome := by
  rcases attempt with ⟨ticket, index, overrides, _ | ⟨number, pending⟩ | pending | _⟩
  · unfold carried?
    have begun : agent.redacted.beginConnect (network.redacted passes).medium overrides.redacted = _ :=
      Agent.beginConnect_redacted
    simp only [Attempt.redacted, Progress.redacted, begun]
    rcases agent.beginConnect network.medium overrides with error | ⟨medium, agent, pending⟩
    · rfl
    · simp only [Except.map, Prod.map, Medium.scriptOf_redacted, Agent.transport_redacted]
      split
      · rfl
      · exact Medium.isSome_compared?_redacted
  · rfl
  · exact Medium.isSome_compared?_redacted
  · rfl

theorem continueConnect_redacted {attempt : Attempt} {agent : Agent}
    (outcome : ∀ same ∈ network.carried? attempt agent, same = passes) (index : Nat) :
    (network.redacted passes).continueConnect index attempt.redacted agent.redacted =
      (network.continueConnect index attempt agent).redacted passes := by
  rcases attempt with ⟨ticket, place, overrides, _ | ⟨number, pending⟩ | pending | _⟩
  · unfold continueConnect
    have begun : agent.redacted.beginConnect (network.redacted passes).medium overrides.redacted = _ :=
      Agent.beginConnect_redacted
    simp only [carried?] at outcome
    simp only [Attempt.redacted, Progress.redacted, begun]
    revert outcome
    rcases agent.beginConnect network.medium overrides with error | ⟨medium, agent, pending⟩
    · exact fun _ ↦ finishConnect_redacted index ⟨ticket, place, overrides, .queued⟩ (.error error)
    · intro outcome
      let begun := wake (setAgent { network with medium } place agent)
      have placed : wake (setAgent { network.redacted passes with medium := medium.redacted passes } place
          agent.redacted) = begun.redacted passes :=
        (congrArg wake (@setAgent_redacted passes { network with medium } place agent)).trans wake_redacted
      have shared : begun.medium = medium := by
        obtain ⟨ready, same, -⟩ := setAgent_eq { network with medium } place agent
        rw [medium_wake, same]
      simp only [Except.map, Prod.map, placed, Medium.scriptOf_redacted, Agent.transport_redacted]
      cases gate : (medium.scriptOf agent.transport).gate with
      | true => exact @setProgress_redacted passes begun index (.gated _ pending)
      | false =>
        simp only [gate, Bool.false_eq_true, if_false] at outcome
        rw [← shared] at outcome
        exact completeConnect_redacted outcome index ⟨ticket, place, overrides, .queued⟩
  · rfl
  · exact completeConnect_redacted outcome index ⟨ticket, place, overrides, .released pending⟩
  · rfl

/-! ## Steps of background work -/

/-- What the comparison of the next step of background work comes to, if there is one. -/
def compared? (network : Network) : Option Bool :=
  match network.ready with
  | .attempt index :: _ => do
    let attempt ← network.attempts[index]?
    let agent ← network.agents[attempt.agent]?
    network.carried? attempt agent
  | _ => none

theorem isSome_compared?_redacted : (network.redacted passes).compared?.isSome = network.compared?.isSome := by
  unfold compared?
  rw [ready_redacted]
  rcases network.ready with _ | ⟨⟨index, source⟩ | index | ⟨transport, connection⟩, rest⟩
  · rfl
  · rfl
  · simp only [getElem?_attempts_redacted]
    rcases network.attempts[index]? with _ | attempt
    · rfl
    · simp only [Option.map_some, bind, Option.bind_some, Attempt.agent_redacted, getElem?_agents_redacted]
      rcases network.agents[attempt.agent]? with _ | agent
      · rfl
      · exact isSome_carried?_redacted attempt agent
  · rfl

theorem lookInside_redacted (index : Nat) (source : ConnectionId) (rest : List Task) :
    (network.redacted passes).lookInside index source rest =
      (network.lookInside index source rest).redacted passes := by
  unfold lookInside
  rw [getElem?_agents_redacted]
  cases network.agents[index]? with
  | none => rfl
  | some agent =>
    have taken : (network.redacted passes).medium.broker.take? source = _ := Broker.take?_redacted source
    simp only [Option.map_some, Agent.dispatcher_redacted, taken]
    split
    · rcases network.medium.broker.take? source with _ | ⟨message, broker⟩
      · exact @modifyAgent_redacted passes { network with ready := rest } index _ fun _ ↦ rfl
      · exact @dispatch_redacted passes { network with medium := { network.medium with broker } } index agent message
    · rfl

theorem tick?_redacted (outcome : ∀ same ∈ network.compared?, same = passes) :
    (network.redacted passes).tick? = network.tick?.map (redacted passes) := by
  unfold compared? at outcome
  unfold tick?
  rw [ready_redacted]
  revert outcome
  rcases network.ready with _ | ⟨⟨index, source⟩ | index | ⟨transport, connection⟩, rest⟩
  · exact fun _ ↦ rfl
  · exact fun _ ↦ congrArg some (lookInside_redacted index source rest)
  · simp only [getElem?_attempts_redacted]
    rcases network.attempts[index]? with _ | attempt
    · exact fun _ ↦ rfl
    · simp only [Option.map_some, bind, Option.bind_some, Attempt.agent_redacted, getElem?_agents_redacted]
      rcases network.agents[attempt.agent]? with _ | agent
      · exact fun _ ↦ rfl
      · exact fun outcome ↦
          congrArg some (@continueConnect_redacted passes { network with ready := rest } attempt agent outcome index)
  · exact fun _ ↦ congrArg some (@onMedium_redacted passes { network with ready := rest } _ _ fun medium ↦
      congrArg Prod.fst (Medium.close_redacted connection))

theorem holdsReceivers_redacted (index : Nat) :
    (network.redacted passes).holdsReceivers index = network.holdsReceivers index := by
  have held : (network.redacted passes).agents[index]?.any Agent.held = network.agents[index]?.any Agent.held := by
    rw [getElem?_agents_redacted, Option.any_map]
    rfl
  simp only [holdsReceivers, held, isConnecting_redacted]
  rfl

theorem holdsItself_redacted (id : ReceiverId) : (network.redacted passes).holdsItself id = network.holdsItself id := by
  unfold holdsItself
  rw [receiver?_redacted]

end Network

end PubSub
