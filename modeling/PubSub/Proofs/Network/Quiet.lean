import PubSub.Network.Journal
/-!
# Quiet callbacks

What callbacks can change that leave the broker alone: nothing but what is observed, the waits that they answer, and
the callbacks of receivers. A network without these is `bare`. While a message is offered to one receiver, callbacks
are only added to the others.
-/

namespace PubSub

/-- A receiver without its callbacks. -/
def Receiver.bare (receiver : Receiver) : Receiver :=
  { receiver with callbacks := [] }

/-- An agent without the callbacks of its receivers. -/
def Agent.bare (agent : Agent) : Agent :=
  { agent with receivers := agent.receivers.map Receiver.bare }

theorem Receiver.read?_bare (receiver : Receiver) (message : Message) :
    receiver.bare.read? message = receiver.read? message :=
  rfl

namespace Network

variable {network before after last : Network} {id : ReceiverId} {touched : ReceiverId → Prop}

/-- A network without callbacks, answered waits and observations. -/
def bare (network : Network) : Network :=
  { network with
    medium := { network.medium with observations := [] }
    agents := network.agents.map Agent.bare
    replies := [] }

theorem agent_of_bare {index : Nat} {agent : Agent} (same : after.bare = before.bare)
    (h : before.agents[index]? = some agent) :
    ∃ changed, after.agents[index]? = some changed ∧ changed.bare = agent.bare := by
  have hagents : after.agents.map Agent.bare = before.agents.map Agent.bare := congrArg Network.agents same
  have hplace := congrArg (fun agents ↦ agents[index]?) hagents
  simp only [List.getElem?_map, h, Option.map_some] at hplace
  exact Option.map_eq_some_iff.1 hplace

theorem receiver?_eq_some_iff {receiver : Receiver} : network.receiver? id = some receiver ↔
    ∃ agent, network.agents[id.agent]? = some agent ∧ agent.receivers[id.index]? = some receiver :=
  Option.bind_eq_some_iff

theorem quiet_of_receivers (h : ∀ agent ∈ network.agents, ∀ receiver ∈ agent.receivers,
    ∀ callback ∈ receiver.callbacks, callback.handler.isQuiet) : network.Quiet := by
  intro id receiver hreceiver
  rcases receiver?_eq_some_iff.1 hreceiver with ⟨agent, hagent, hplace⟩
  exact h agent (List.mem_of_getElem? hagent) receiver (List.mem_of_getElem? hplace)

theorem receiver_of_bare {receiver : Receiver} (same : after.bare = before.bare)
    (h : before.receiver? id = some receiver) :
    ∃ changed, after.receiver? id = some changed ∧ changed.bare = receiver.bare := by
  rcases receiver?_eq_some_iff.1 h with ⟨agent, hagent, hreceiver⟩
  rcases agent_of_bare same hagent with ⟨changed, hchanged, hbare⟩
  have hreceivers : changed.receivers.map Receiver.bare = agent.receivers.map Receiver.bare :=
    congrArg Agent.receivers hbare
  have hplace := congrArg (fun receivers ↦ receivers[id.index]?) hreceivers
  simp only [List.getElem?_map, hreceiver, Option.map_some] at hplace
  rcases Option.map_eq_some_iff.1 hplace with ⟨other, hother, hsame⟩
  exact ⟨other, receiver?_eq_some_iff.2 ⟨changed, hchanged, hother⟩, hsame⟩

/-! ## Changing a receiver -/

theorem receiver?_modifyReceiver (network : Network) (id other : ReceiverId) (change : Receiver → Receiver) :
    (network.modifyReceiver id change).receiver? other =
      if id = other then (network.receiver? other).map change else network.receiver? other := by
  unfold receiver? Network.modifyReceiver modifyAgent
  simp only [List.getElem?_modify]
  cases hagent : network.agents[other.agent]? with
  | none => simp
  | some agent =>
    by_cases sameAgent : id.agent = other.agent
    · by_cases sameIndex : id.index = other.index
      · have same : id = other := by rw [ReceiverId.mk.injEq]; exact ⟨sameAgent, sameIndex⟩
        simp [same]
      · have different : id ≠ other := fun same ↦ sameIndex (congrArg ReceiverId.index same)
        simp [sameAgent, different, sameIndex]
    · have different : id ≠ other := fun same ↦ sameAgent (congrArg ReceiverId.agent same)
      simp [sameAgent, different]

theorem bare_modifyReceiver {change : Receiver → Receiver} (same : ∀ receiver, (change receiver).bare = receiver.bare)
    (network : Network) (id : ReceiverId) : (network.modifyReceiver id change).bare = network.bare := by
  have hagents : (network.modifyReceiver id change).agents.map Agent.bare = network.agents.map Agent.bare := by
    apply List.ext_getElem?
    intro place
    unfold Network.modifyReceiver modifyAgent
    simp only [List.getElem?_map, List.getElem?_modify]
    by_cases own : id.agent = place
    · cases network.agents[place]? with
      | none => rfl
      | some agent =>
        have hreceivers : (agent.receivers.modify id.index change).map Receiver.bare =
            agent.receivers.map Receiver.bare := by
          apply List.ext_getElem?
          intro index
          simp only [List.getElem?_map, List.getElem?_modify]
          cases agent.receivers[index]? with
          | none => rfl
          | some receiver => by_cases this : id.index = index <;> simp [this, same]
        simp [own, Agent.bare, hreceivers]
    · simp [own]
  unfold bare
  rw [hagents]
  rfl

/-! ## What callbacks change -/

/-- From one network to another that differs in callbacks, answered waits and observations only. Callbacks are added to
the receivers that `touched` does not hold of, and quiet ones only. -/
structure Mild (touched : ReceiverId → Prop) (before after : Network) : Prop where
  bare_eq : after.bare = before.bare
  quiet : before.Quiet → after.Quiet
  grown : ∀ id, ¬touched id → ∀ receiver, before.receiver? id = some receiver →
    ∃ changed, after.receiver? id = some changed ∧ receiver.callbacks <+: changed.callbacks

namespace Mild

theorem refl (network : Network) : Mild touched network network :=
  ⟨rfl, fun quiet ↦ quiet, fun _ _ receiver h ↦ ⟨receiver, h, List.prefix_refl _⟩⟩

theorem trans (first : Mild touched before after) (second : Mild touched after last) : Mild touched before last where
  bare_eq := second.bare_eq.trans first.bare_eq
  quiet quiet := second.quiet (first.quiet quiet)
  grown := by
    intro id untouched receiver h
    rcases first.grown id untouched receiver h with ⟨changed, hchanged, hprefix⟩
    rcases second.grown id untouched changed hchanged with ⟨final, hfinal, hprefix'⟩
    exact ⟨final, hfinal, hprefix.trans hprefix'⟩

theorem mono {others : ReceiverId → Prop} (mild : Mild touched before after) (subset : ∀ id, touched id → others id) :
    Mild others before after where
  bare_eq := mild.bare_eq
  quiet := mild.quiet
  grown id untouched := mild.grown id fun h ↦ untouched (subset id h)

theorem receiver (mild : Mild touched before after) (untouched : ¬touched id) {receiver : Receiver}
    (h : before.receiver? id = some receiver) :
    ∃ changed, after.receiver? id = some changed ∧ changed.bare = receiver.bare ∧
      receiver.callbacks <+: changed.callbacks := by
  rcases mild.grown id untouched receiver h with ⟨changed, hchanged, hprefix⟩
  rcases receiver_of_bare mild.bare_eq h with ⟨other, hother, hbare⟩
  have same : other = changed := Option.some.inj (hother.symm.trans hchanged)
  exact ⟨changed, hchanged, same ▸ hbare, hprefix⟩

/-- A receiver is changed in its callbacks. They are added to unless it is touched. -/
theorem modifyReceiver {change : Receiver → Receiver} (same : ∀ receiver, (change receiver).bare = receiver.bare)
    (quiet : ∀ receiver, (∀ callback ∈ receiver.callbacks, callback.handler.isQuiet) →
      ∀ callback ∈ (change receiver).callbacks, callback.handler.isQuiet)
    (grown : ¬touched id → ∀ receiver, receiver.callbacks <+: (change receiver).callbacks) :
    Mild touched network (network.modifyReceiver id change) where
  bare_eq := bare_modifyReceiver same network id
  quiet := by
    intro before other receiver h
    rw [receiver?_modifyReceiver] at h
    split at h
    · rcases Option.map_eq_some_iff.1 h with ⟨old, hold, rfl⟩
      exact quiet old (before other old hold)
    · exact before other receiver h
  grown := by
    intro other untouched receiver h
    rw [receiver?_modifyReceiver]
    split
    · rename_i same
      exact ⟨change receiver, by rw [h, Option.map_some], grown (same ▸ untouched) receiver⟩
    · exact ⟨receiver, h, List.prefix_refl _⟩

theorem observe (network : Network) (observation : Observation) : Mild touched network (network.observe observation) :=
  ⟨rfl, fun quiet ↦ quiet, fun _ _ receiver h ↦ ⟨receiver, h, List.prefix_refl _⟩⟩

theorem act {action : Action} (quiet : action.isQuiet) (network : Network) (id : ReceiverId) (label : String)
    (delivery : Delivery) : Mild touched network (network.act id label delivery action).1 := by
  cases action with
  | count => exact .observe _ _
  | register target once handler =>
    refine modifyReceiver ?_ ?_ ?_
    · intro receiver
      rfl
    · intro receiver hquiet callback hmem
      rcases List.mem_append.1 hmem with hmem | hmem
      · exact hquiet callback hmem
      · rw [List.mem_singleton.1 hmem]
        simpa [Action.isQuiet] using quiet
    · intro _ receiver
      exact List.prefix_append _ _
  | publish topic payload retain => simp [Action.isQuiet] at quiet
  | silenceAll => simp [Action.isQuiet] at quiet
  | fail => exact .refl _
  | failIf test => exact .refl _

theorem actAll {actions : List Action} (quiet : Action.areQuiet actions) (network : Network) (id : ReceiverId)
    (label : String) (delivery : Delivery) : Mild touched network (network.actAll id label delivery actions).1 := by
  induction actions generalizing network with
  | nil => exact .refl _
  | cons action rest ih =>
    rw [Action.areQuiet, Bool.and_eq_true] at quiet
    have first : Mild touched network (network.act id label delivery action).1 := .act quiet.1 network id label delivery
    unfold Network.actAll
    split
    · rename_i h
      rw [h] at first
      exact first
    · rename_i h
      rw [h] at first
      exact first.trans (ih quiet.2 _)

theorem runHandler {handler : Handler} (quiet : handler.isQuiet) (network : Network) (id : ReceiverId)
    (delivery : Delivery) : Mild touched network (network.runHandler id delivery handler) := by
  cases handler with
  | reply ticket => exact ⟨rfl, fun quiet ↦ quiet, fun _ _ receiver h ↦ ⟨receiver, h, List.prefix_refl _⟩⟩
  | scripted label actions =>
    rw [Handler.isQuiet] at quiet
    have observed : Mild touched network _ := .observe network (.event (network.labelOf id.agent) (.ran label delivery))
    have done := observed.trans (.actAll quiet _ id label delivery)
    unfold Network.runHandler
    simp only
    split
    · rename_i h
      rw [h] at done
      exact done
    · rename_i h
      rw [h] at done
      exact done.trans (.observe _ _)

/-- Only the receiver that is delivered to may lose callbacks. -/
theorem deliver {callbacks : List Callback} (quiet : ∀ callback ∈ callbacks, callback.handler.isQuiet)
    (network : Network) (id : ReceiverId) (delivery : Delivery) :
    Mild (· = id) network (network.deliver id delivery callbacks) := by
  have all (start : Network) : Mild (· = id) start
      (callbacks.foldl (fun network callback ↦ network.runHandler id delivery callback.handler) start) := by
    clear network
    induction callbacks generalizing start with
    | nil => exact .refl _
    | cons callback rest ih =>
      rw [List.forall_mem_cons] at quiet
      exact (runHandler quiet.1 start id delivery).trans (ih quiet.2 _)
  have taken : Mild (· = id) network (network.modifyReceiver id fun receiver ↦ { receiver with callbacks := [] }) := by
    refine modifyReceiver ?_ ?_ fun untouched ↦ absurd rfl untouched
    · intro receiver
      rfl
    · simp
  refine (taken.trans (all _)).trans (modifyReceiver ?_ ?_ fun untouched ↦ absurd rfl untouched)
  · intro receiver
    rfl
  intro receiver hquiet callback hmem
  rcases List.mem_append.1 hmem with hmem | hmem
  · exact quiet callback (List.mem_filter.1 hmem).1
  · exact hquiet callback hmem

theorem offer (quiet : network.Quiet) (message : Message) (id : ReceiverId) :
    Mild (· = id) network (network.offer message id) := by
  unfold Network.offer
  cases h : network.receiver? id with
  | none => exact .refl _
  | some receiver =>
    cases hread : receiver.read? message with
    | none =>
      simp only [hread]
      exact .observe _ _
    | some delivery =>
      simp only [hread]
      exact .deliver (quiet id receiver h) network id delivery

end Mild

end Network

end PubSub
